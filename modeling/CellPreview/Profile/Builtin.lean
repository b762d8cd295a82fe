import CellPreview.Profile.Basic

/-!
# Built-in profiles

The profiles that are always there, in the order of the menu. Their documents
are written with a few short names for the fields of an element.
-/

namespace CellPreview
namespace Profile
namespace Builtin

/-- An object of the given fields. -/
def object (fields : Entries Json.Value) : Json.Value :=
  .object fields

/-- The address of the schema that documents follow. -/
def schema : Text × Json.Value :=
  ("$schema",
    .text "https://columnformatting.sharepointpnp.com/columnFormattingSchema.json")

/-- The tag of an element. -/
def tag (name : Text) : Text × Json.Value :=
  (Blueprint.tagKey, .text name)

/-- The content of an element. -/
def content (text : Text) : Text × Json.Value :=
  (Blueprint.contentKey, .text text)

/-- The style of an element. -/
def style (properties : Entries Text) : Text × Json.Value :=
  (Blueprint.styleKey,
    .object (properties.map fun (name, text) => (name, .text text)))

/-- The children of an element. -/
def children (elements : List Json.Value) : Text × Json.Value :=
  (Blueprint.childrenKey, .list elements)

/-- A status with an icon and a colour of its own. -/
def statusIcons : Profile where
  name := "Status Icons"
  description := "Show colored icons based on status text (Done, In Progress, Blocked)"
  document :=
    object
      [schema,
       tag "div",
       style
          [("display", "flex"),
           ("align-items", "center"),
           ("gap", "6px")],
       children
          [object
             [tag "span",
              content <|
                 "=if(@currentField == 'Done', '✅', " ++
                 "if(@currentField == 'In Progress', '🔄', " ++
                 "if(@currentField == 'Blocked', '🚫', '⬜')))",
              style
                 [("font-size", "16px")]],
           object
             [tag "span",
              content "@currentField",
              style
                 [("color",
                   "=if(@currentField == 'Done', '#10b981', " ++
                   "if(@currentField == 'In Progress', '#f59e0b', " ++
                   "if(@currentField == 'Blocked', '#ef4444', '#94a3b8')))"),
                  ("font-weight", "600")]]]]
  samples := ["Done", "In Progress", "Blocked", "Not Started"]

/-- A percentage as a bar. -/
def progressBar : Profile where
  name := "Progress Bar"
  description := "Render a colored progress bar from a percentage value (0–100)"
  document :=
    object
      [schema,
       tag "div",
       style
          [("width", "100%"),
           ("height", "20px"),
           ("background-color", "#e5e7eb"),
           ("border-radius", "10px"),
           ("overflow", "hidden"),
           ("position", "relative")],
       children
          [object
             [tag "div",
              style
                 [("width", "=@currentField + '%'"),
                  ("height", "100%"),
                  ("background-color",
                   "=if(@currentField >= 80, '#10b981', " ++
                   "if(@currentField >= 50, '#f59e0b', '#ef4444'))"),
                  ("border-radius", "10px"),
                  ("transition", "width 0.3s ease")]],
           object
             [tag "span",
              content "=@currentField + '%'",
              style
                 [("position", "absolute"),
                  ("top", "0"),
                  ("left", "0"),
                  ("right", "0"),
                  ("text-align", "center"),
                  ("font-size", "11px"),
                  ("line-height", "20px"),
                  ("font-weight", "700"),
                  ("color", "#1e293b")]]]]
  samples := ["25", "50", "75", "100"]

/-- A date in the colour of its urgency. -/
def dueDateHighlight : Profile where
  name := "Due Date Highlight"
  description := "Highlight dates red when overdue, yellow when due soon, green when future"
  document :=
    object
      [schema,
       tag "div",
       style
          [("padding", "4px 12px"),
           ("border-radius", "12px"),
           ("display", "inline-flex"),
           ("align-items", "center"),
           ("gap", "4px"),
           ("background-color",
            "=if(@currentField <= @now, '#fef2f2', " ++
            "if(@currentField <= @now + 604800000, '#fffbeb', '#f0fdf4'))"),
           ("color",
            "=if(@currentField <= @now, '#dc2626', " ++
            "if(@currentField <= @now + 604800000, '#d97706', '#16a34a'))"),
           ("font-weight", "600"),
           ("font-size", "13px")],
       children
          [object
             [tag "span",
              content <|
                 "=if(@currentField <= @now, '⚠️', " ++
                 "if(@currentField <= @now + 604800000, '⏳', '✅'))"],
           object
             [tag "span",
              content "@currentField"]]]
  samples := ["2024-01-01", "2026-03-05", "2026-12-31", "2025-06-15"]

/-- A yes or no as a badge. -/
def yesNoBadge : Profile where
  name := "Yes / No Badge"
  description := "Render a styled pill badge for boolean Yes/No fields"
  document :=
    object
      [schema,
       tag "div",
       style
          [("display", "inline-flex"),
           ("align-items", "center"),
           ("gap", "4px"),
           ("padding", "2px 10px"),
           ("border-radius", "12px"),
           ("font-weight", "600"),
           ("font-size", "13px"),
           ("background-color", "=if(@currentField == 'Yes', '#dcfce7', '#fee2e2')"),
           ("color", "=if(@currentField == 'Yes', '#166534', '#991b1b')")],
       children
          [object
             [tag "span",
              content "=if(@currentField == 'Yes', '✓', '✕')",
              style
                 [("font-weight", "700")]],
           object
             [tag "span",
              content "@currentField"]]]
  samples := ["Yes", "No", "Yes", "No"]

/-- A priority by the background of its cell. -/
def conditionalBackground : Profile where
  name := "Conditional Background"
  description := "Color the entire cell background based on priority (High, Medium, Low)"
  document :=
    object
      [schema,
       tag "div",
       style
          [("padding", "6px 14px"),
           ("border-radius", "6px"),
           ("font-weight", "600"),
           ("font-size", "13px"),
           ("text-align", "center"),
           ("background-color",
            "=if(@currentField == 'High', '#fef2f2', " ++
            "if(@currentField == 'Medium', '#fffbeb', '#f0fdf4'))"),
           ("color",
            "=if(@currentField == 'High', '#dc2626', " ++
            "if(@currentField == 'Medium', '#d97706', '#16a34a'))"),
           ("border",
            "=if(@currentField == 'High', '1px solid #fecaca', " ++
            "if(@currentField == 'Medium', '1px solid #fde68a', '1px solid #bbf7d0'))")],
       content "@currentField"]
  samples := ["High", "Medium", "Low", "Medium"]

/-- A trend as an arrow. -/
def trendingArrows : Profile where
  name := "Trending Arrows"
  description := "Show up/down/flat trend arrows based on text (Up, Down, Flat)"
  document :=
    object
      [schema,
       tag "div",
       style
          [("display", "flex"),
           ("align-items", "center"),
           ("gap", "6px")],
       children
          [object
             [tag "span",
              content "=if(@currentField == 'Up', '▲', if(@currentField == 'Down', '▼', '▶'))",
              style
                 [("color",
                   "=if(@currentField == 'Up', '#10b981', " ++
                   "if(@currentField == 'Down', '#ef4444', '#94a3b8'))"),
                  ("font-size", "14px"),
                  ("font-weight", "700")]],
           object
             [tag "span",
              content "@currentField",
              style
                 [("color",
                   "=if(@currentField == 'Up', '#10b981', " ++
                   "if(@currentField == 'Down', '#ef4444', '#94a3b8'))"),
                  ("font-weight", "600")]]]]
  samples := ["Up", "Down", "Flat", "Up"]

end Builtin

/-- The built-in profiles, in the order of the menu. -/
def builtin : List Profile :=
  [Builtin.statusIcons,
    Builtin.progressBar,
    Builtin.dueDateHighlight,
    Builtin.yesNoBadge,
    Builtin.conditionalBackground,
    Builtin.trendingArrows]

end Profile
end CellPreview
