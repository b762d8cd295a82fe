import CellPreview.Formula.Evaluation
import CellPreview.Json.Fault

/-!
# Notices

What the program tells about its work besides its results. A notice has a
level and a wording. Which notices an operation gives is defined apart from
the operation itself, so that results do not depend on them.
-/

namespace CellPreview

/-- Importance of a notice. -/
inductive Level
  | warn
  | debug
  | trace
  deriving DecidableEq

namespace Level

/-- Levels are numbered from the most important one. -/
def rank : Level -> Nat
  | .warn => 0
  | .debug => 1
  | .trace => 2

/-- Whether a level is shown when `least` is the least important one that is. -/
def shows (least level : Level) : Bool :=
  level.rank ≤ least.rank

/-- The level as it stands in a log line. -/
def label : Level -> Text
  | .warn => "WARN"
  | .debug => "DEBUG"
  | .trace => "TRACE"

end Level

/-- Something worth telling. -/
inductive Notice
  | anomaly (formula : Text) (anomaly : Formula.Anomaly)
  | rendering (tag field : Text)
  | untagged (elements : Nat)
  | droppedElement (tag : Text)
  | droppedAttribute (name : Text)
  | keptPreview (fault : Json.Fault)
  | selecting (index : Nat)
  deriving DecidableEq

namespace Notice

/-- Importance of each kind of notice. -/
def level : Notice -> Level
  | .keptPreview _ => .warn
  | .rendering _ _ => .trace
  | _ => .debug

/-- Wording of a notice. -/
def message : Notice -> Text
  | .anomaly formula found =>
      "formula " ++ formula.quoted ++ ": " ++ found.message
  | .rendering tag field =>
      "render <" ++ tag ++ "> for " ++ field.quoted
  | .untagged elements =>
      "skipping node without elmType (" ++ Text.ofNat elements ++ " nodes)"
  | .droppedElement tag => "dropping element with invalid tag " ++ tag.quoted
  | .droppedAttribute name =>
      "dropping attribute with invalid name " ++ name.quoted
  | .keptPreview fault => "keeping last good preview: " ++ fault.message
  | .selecting index => "applying template " ++ Text.ofNat index

/-- The log line of a notice. -/
def line (notice : Notice) : Text :=
  notice.level.label ++ ' ' :: notice.message

end Notice

namespace Formula

/-- Notices of the evaluation of a text: one for each anomaly. -/
def notices (context : Context) (text : Text) : List Notice :=
  (evaluate context text).anomalies.map (Notice.anomaly text)

end Formula
end CellPreview
