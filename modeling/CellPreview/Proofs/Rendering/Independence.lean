import CellPreview.Editor.Session
import CellPreview.Proofs.Formula.Independence

/-!
# What a preview depends on

A blueprint renders alike in two contexts that agree on the inputs its texts
name. So a blueprint that never names the instant renders the same at all times,
and one that never names the field renders the same for all samples, which
makes the rows of a preview equal.
-/

namespace CellPreview
namespace Blueprint

mutual

/-- The templates and formulas of all elements in the tree. -/
def texts : Blueprint -> List Text
  | .element _ content style attributes children =>
      content.toList ++ style.map Prod.snd ++ attributes.map Prod.snd ++
        textsAll children

/-- The templates and formulas of all elements in some trees. -/
def textsAll : List Blueprint -> List Text
  | [] => []
  | child :: others => child.texts ++ textsAll others

end

section

variable {context changed : Formula.Context}

theorem map_evaluate_congr
    {entries : Entries Text}
    (same : ∀ text ∈ entries.map Prod.snd,
      Formula.evaluate changed text = Formula.evaluate context text)
    (rename : Text -> Text) :
    entries.map (fun (name, text) =>
        (rename name, (Formula.evaluate changed text).value)) =
      entries.map fun (name, text) =>
        (rename name, (Formula.evaluate context text).value) := by
  apply List.map_congr_left
  intro (name, text) present
  dsimp only
  rw [same text (List.mem_map_of_mem present)]

theorem contentNodes_congr
    {content : Option Text}
    (same : ∀ text ∈ content.toList,
      Formula.evaluate changed text = Formula.evaluate context text) :
    contentNodes changed content = contentNodes context content := by
  cases content with
  | none => rfl
  | some text => rw [contentNodes, contentNodes, same text (by simp)]

mutual

/-- A blueprint renders alike in contexts in which its texts have the same
values. -/
theorem render_congr
    (blueprint : Blueprint)
    (same : ∀ text ∈ blueprint.texts,
      Formula.evaluate changed text = Formula.evaluate context text) :
    blueprint.render changed = blueprint.render context := by
  cases blueprint with
  | element tag content style attributes children =>
      rw [texts] at same
      simp only [List.forall_mem_append] at same
      obtain ⟨⟨⟨contentSame, styleSame⟩, attributesSame⟩, childrenSame⟩ := same
      cases tag with
      | none => rfl
      | some tag =>
          have resolved : Style.resolve changed style =
              Style.resolve context style :=
            congrArg Entries.ofPairs
              (map_evaluate_congr styleSame Style.camelCase)
          have evaluated : evaluateEntries changed attributes =
              evaluateEntries context attributes :=
            map_evaluate_congr attributesSame fun name => name
          rw [render, render, resolved, evaluated,
            contentNodes_congr contentSame,
            renderAll_congr children childrenSame]

theorem renderAll_congr
    (blueprints : List Blueprint)
    (same : ∀ text ∈ textsAll blueprints,
      Formula.evaluate changed text = Formula.evaluate context text) :
    renderAll changed blueprints = renderAll context blueprints := by
  cases blueprints with
  | nil => rfl
  | cons child others =>
      rw [textsAll, List.forall_mem_append] at same
      rw [renderAll, renderAll, render_congr child same.1,
        renderAll_congr others same.2]

end

end

end Blueprint

/-- A row shows the cell of its sample. -/
theorem Row.cell_eq_of_mem
    {blueprint : Option Blueprint}
    {samples : List Text}
    {now : Int}
    {row : Row}
    (present : row ∈ ofSamples blueprint samples now) :
    row.cell = Cell.ofSample blueprint now row.sample := by
  obtain ⟨index, sample, _, rfl⟩ := mem_ofSamples.mp present
  rfl

/-- The rows that a session replies with are those of its blueprint for some
samples at some instant. -/
theorem Session.exists_samples_of_reply
    {session : Session}
    {action : Action}
    {rows : List Row}
    (replied : session.reply action = .rows rows) :
    ∃ samples now,
      rows = Row.ofSamples session.editor.blueprint samples now := by
  cases action with
  | preview now =>
      cases replied
      exact ⟨session.editor.samples, now, rfl⟩
  | previewOf samples now =>
      cases replied
      exact ⟨samples, now, rfl⟩
  | select index =>
      rw [reply] at replied
      split at replied <;> cases replied
  | _ => cases replied

open Formula (fieldToken nowToken)

/-- The field and the instant reach only the texts that name them: a text
without the name of one has the same value and anomalies whatever that one is, a
blueprint that never names the instant renders the same at all times, and in a
session that shows a blueprint that never names the field all rows have the same
cell. -/
theorem inputs_reach_only_texts_that_name_them :
    (∀ (text : Text) (context changed : Formula.Context),
      ¬fieldToken <:+: text -> context.now = changed.now ->
      Formula.evaluate context text = Formula.evaluate changed text) ∧
    (∀ (text : Text) (context changed : Formula.Context),
      ¬nowToken <:+: text -> context.field = changed.field ->
      Formula.evaluate context text = Formula.evaluate changed text) ∧
    (∀ blueprint : Blueprint,
      (∀ text ∈ blueprint.texts, ¬nowToken <:+: text) ->
      ∀ field now later,
        blueprint.render ⟨field, now⟩ = blueprint.render ⟨field, later⟩) ∧
    (∀ blueprint : Blueprint,
      (∀ text ∈ blueprint.texts, ¬fieldToken <:+: text) ->
      ∀ (session : Session) (action : Action) (rows : List Row),
        session.editor.blueprint = some blueprint ->
        session.reply action = .rows rows ->
        ∀ first ∈ rows, ∀ second ∈ rows, first.cell = second.cell) := by
  have unnamedField (text : Text) (context changed : Formula.Context)
      (unnamed : ¬fieldToken <:+: text) (same : context.now = changed.now) :
      Formula.evaluate context text = Formula.evaluate changed text :=
    Formula.evaluate_congr ⟨fun named => absurd named unnamed, fun _ => same⟩
  have unnamedNow (text : Text) (context changed : Formula.Context)
      (unnamed : ¬nowToken <:+: text) (same : context.field = changed.field) :
      Formula.evaluate context text = Formula.evaluate changed text :=
    Formula.evaluate_congr ⟨fun _ => same, fun named => absurd named unnamed⟩
  refine ⟨unnamedField, unnamedNow, ?_, ?_⟩
  · intro blueprint unnamed field now later
    exact blueprint.render_congr fun text present =>
      unnamedNow text _ _ (unnamed text present) rfl
  · intro blueprint unnamed session action rows shown replied first isFirst
      second isSecond
    obtain ⟨samples, now, rfl⟩ := Session.exists_samples_of_reply replied
    rw [Row.cell_eq_of_mem isFirst, Row.cell_eq_of_mem isSecond, shown,
      Cell.ofSample, Cell.ofSample, blueprint.render_congr fun text present =>
      unnamedField text ⟨first.sample, now⟩ ⟨second.sample, now⟩
        (unnamed text present) rfl]

/-- Malformed formulas that almost have the name that they lack, and a session
with two rows. -/
theorem inputs_reach_only_texts_that_name_them_previewOf :
    let withoutField : Text := "=@now + (@currentFiel"
    let withoutNow : Text := "=@currentField + (@no w"
    let timeless : Blueprint := .element (some ['i']) (some withoutNow)
      [(['d'], withoutNow)] [] [.element none (some []) [] [] []]
    let uniform : Blueprint := .element (some ['b']) (some withoutField)
      [] [(['i'], ['a'])] []
    let session : Session := ⟨⟨[], 0, [], some uniform, none⟩, none⟩
    let rows := Row.ofSamples (some uniform) [['x'], ['y']] 7
    (¬fieldToken <:+: withoutField ∧
      Formula.evaluate ⟨['x'], 7⟩ withoutField =
        Formula.evaluate ⟨['y'], 7⟩ withoutField) ∧
    (¬nowToken <:+: withoutNow ∧
      Formula.evaluate ⟨['x'], 7⟩ withoutNow =
        Formula.evaluate ⟨['x'], 8⟩ withoutNow) ∧
    ((∀ text ∈ timeless.texts, ¬nowToken <:+: text) ∧
      timeless.render ⟨['x'], 7⟩ = timeless.render ⟨['x'], 8⟩) ∧
    (∀ text ∈ uniform.texts, ¬fieldToken <:+: text) ∧
    session.reply (.previewOf [['x'], ['y']] 7) = .rows rows ∧
    ∀ first ∈ rows, ∀ second ∈ rows, first.cell = second.cell := by
  intro withoutField withoutNow timeless uniform session rows
  obtain ⟨evaluateField, evaluateNow, renders, replies⟩ :=
    inputs_reach_only_texts_that_name_them
  have noField : ¬fieldToken <:+: withoutField := by decide +kernel
  have noNow : ¬nowToken <:+: withoutNow := by decide +kernel
  have timelessTexts : ∀ text ∈ timeless.texts, ¬nowToken <:+: text := by
    decide +kernel
  have uniformTexts : ∀ text ∈ uniform.texts, ¬fieldToken <:+: text := by
    decide +kernel
  exact ⟨⟨noField, evaluateField _ _ _ noField rfl⟩,
    ⟨noNow, evaluateNow _ _ _ noNow rfl⟩,
    ⟨timelessTexts, renders timeless timelessTexts _ _ _⟩,
    uniformTexts, rfl, replies uniform uniformTexts session
      (.previewOf [['x'], ['y']] 7) rows rfl rfl⟩

end CellPreview
