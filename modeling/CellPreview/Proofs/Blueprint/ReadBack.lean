import CellPreview.Blueprint.Json
import CellPreview.Proofs.Json.Document

/-!
# Reading written blueprints

A blueprint is read back from the JSON text that it is written as. The value in
between is not the one that the blueprint was made from: what does not fit is
gone, and an item that is no object has become one without fields. Such an item
is nested one level deeper than before, which the limit of the reader allows
because objects only stand at the odd levels of a tree, and the limit is odd.
-/

namespace CellPreview
namespace Blueprint

open Json (Value)

/-! ## Fields -/

/-- The fields that a blueprint is written with. -/
def fields (blueprint : Blueprint) : Entries Value :=
  optionalField tagKey blueprint.tag ++
    optionalField contentKey blueprint.content ++
    Json.entriesField styleKey blueprint.style ++
    Json.entriesField attributesKey blueprint.attributes ++
    Json.listField childrenKey (toValues blueprint.children)

theorem toValue_eq (blueprint : Blueprint) :
    blueprint.toValue = .object blueprint.fields := by
  cases blueprint
  rw [toValue]
  rfl

theorem toValues_eq_map (blueprints : List Blueprint) :
    toValues blueprints = blueprints.map toValue := by
  induction blueprints with
  | nil => rw [toValues, List.map_nil]
  | cons blueprint others inductionHypothesis =>
      rw [toValues, inductionHypothesis, List.map_cons]

theorem ofValues_eq_map (items : List Value) :
    ofValues items = items.map ofValue := by
  induction items with
  | nil => rw [ofValues, List.map_nil]
  | cons item others inductionHypothesis =>
      rw [ofValues, inductionHypothesis, List.map_cons]

/-- The children are looked up like the other parts. -/
theorem childrenOf_eq (fields : Entries Value) :
    childrenOf fields =
      ((Entries.find? childrenKey fields).map itemsOf).getD [] := by
  induction fields with
  | nil =>
      rw [childrenOf]
      rfl
  | cons field others inductionHypothesis =>
      obtain ⟨name, value⟩ := field
      rw [childrenOf, Entries.find?, inductionHypothesis]
      split <;> rfl

theorem keys_nodup :
    [tagKey, contentKey, styleKey, attributesKey, childrenKey].Nodup := by
  decide +kernel

/-- The names of the fields, of which those of missing parts are left out. -/
theorem names_fields_sublist (blueprint : Blueprint) :
    (Entries.names blueprint.fields).Sublist
      [tagKey, contentKey, styleKey, attributesKey, childrenKey] := by
  have optional (name : Text) (text : Option Text) :
      (Entries.names (optionalField name text)).Sublist [name] := by
    cases text
    · exact List.nil_sublist _
    · exact List.Sublist.refl _
  have entries (name : Text) (entries : Entries Text) :
      (Entries.names (Json.entriesField name entries)).Sublist [name] := by
    unfold Json.entriesField
    split
    · exact List.nil_sublist _
    · exact List.Sublist.refl _
  have list (name : Text) (items : List Value) :
      (Entries.names (Json.listField name items)).Sublist [name] := by
    unfold Json.listField
    split
    · exact List.nil_sublist _
    · exact List.Sublist.refl _
  simp only [fields, Entries.names, List.map_append]
  exact ((((optional tagKey _).append (optional contentKey _)).append
    (entries styleKey _)).append (entries attributesKey _)).append
      (list childrenKey _)

theorem find?_optionalField (name other : Text) (text : Option Text) :
    Entries.find? name (optionalField other text) =
      if other = name then text.map Value.text else none := by
  cases text
  · simp [optionalField, Entries.find?]
  · rfl

theorem find?_entriesField (name other : Text) (entries : Entries Text) :
    Entries.find? name (Json.entriesField other entries) =
      if other = name ∧ entries ≠ [] then
        some (.object (entries.map fun (key, content) => (key, .text content)))
      else none := by
  cases entries
  · simp [Json.entriesField, Entries.find?]
  · simp [Json.entriesField, Entries.find?]

theorem find?_listField (name other : Text) (items : List Value) :
    Entries.find? name (Json.listField other items) =
      if other = name ∧ items ≠ [] then some (.list items) else none := by
  cases items
  · simp [Json.listField, Entries.find?]
  · simp [Json.listField, Entries.find?]

/-! ## Values -/

/-- Texts are scalars, and no entries are as good as no object. -/
theorem scalarEntries_texts (entries : Entries Text) :
    scalarEntries
        (if entries ≠ [] then
          some (.object (entries.map fun (key, content) =>
            (key, .text content)))
        else none) = entries := by
  cases entries
  · rfl
  · simp [scalarEntries, List.filterMap_map, scalarText?]

/-- Every part of a blueprint is found under its key. -/
theorem find?_fields (blueprint : Blueprint) :
    Entries.find? tagKey blueprint.fields = blueprint.tag.map Value.text ∧
    Entries.find? contentKey blueprint.fields =
      blueprint.content.map Value.text ∧
    scalarEntries (Entries.find? styleKey blueprint.fields) =
      blueprint.style ∧
    scalarEntries (Entries.find? attributesKey blueprint.fields) =
      blueprint.attributes ∧
    childrenOf blueprint.fields =
      ofValues (toValues blueprint.children) := by
  simp +decide only [fields, Entries.find?_append, find?_optionalField,
    find?_entriesField, find?_listField, childrenOf_eq, if_true, if_false,
    Option.or_none, Option.none_or, true_and, false_and]
  refine ⟨scalarEntries_texts _, scalarEntries_texts _, ?_⟩
  cases toValues blueprint.children
  · rw [ofValues]
    rfl
  · rfl

mutual

/-- The value of a blueprint describes the blueprint. -/
theorem ofValue_toValue (blueprint : Blueprint) :
    ofValue blueprint.toValue = blueprint := by
  have found := find?_fields blueprint
  cases blueprint with
  | element tag content style attributes children =>
      obtain ⟨tagFound, contentFound, styleFound, attributesFound,
        childrenFound⟩ := found
      rw [toValue_eq, ofValue, tagFound, contentFound, styleFound,
        attributesFound, childrenFound, Blueprint.children,
        ofValues_toValues children]
      cases tag <;> cases content <;> rfl

theorem ofValues_toValues (blueprints : List Blueprint) :
    ofValues (toValues blueprints) = blueprints := by
  cases blueprints with
  | nil => rw [toValues, ofValues]
  | cons blueprint others =>
      rw [toValues, ofValues, ofValue_toValue blueprint,
        ofValues_toValues others]

end

/-! ## Nesting -/

theorem names_scalars_sublist (fields : Entries Value) :
    (Entries.names (fields.filterMap fun (name, value) =>
      (scalarText? value).map fun text => (name, text))).Sublist
        (Entries.names fields) := by
  induction fields with
  | nil => exact List.Sublist.refl _
  | cons field others inductionHypothesis =>
      obtain ⟨name, value⟩ := field
      cases isScalar : scalarText? value with
      | none =>
          simp only [List.filterMap_cons, isScalar, Option.map_none]
          exact inductionHypothesis.cons name
      | some text =>
          simp only [List.filterMap_cons, isScalar, Option.map_some]
          exact inductionHypothesis.cons_cons name

/-- The entries of an object can be read where the object can. -/
theorem isReadable_scalarEntries
    {levels : Nat}
    {found : Option Value}
    (readable : ∀ value ∈ found, value.isReadable levels)
    (nonempty : scalarEntries found ≠ []) :
    (Value.object ((scalarEntries found).map fun (key, content) =>
      (key, .text content))).isReadable levels := by
  unfold scalarEntries at nonempty ⊢
  split
  next fields =>
    have isReadable := readable _ rfl
    cases levels with
    | zero => cases isReadable
    | succ levels =>
        rw [Value.isReadable_object] at isReadable ⊢
        constructor
        · rw [Entries.names, List.map_map]
          exact (names_scalars_sublist fields).nodup isReadable.1
        · intro field present
          obtain ⟨entry, _, rfl⟩ := List.mem_map.mp present
          rfl
  next noObject =>
    split at nonempty
    next => exact absurd rfl (noObject _)
    next => exact absurd rfl nonempty

theorem isReadable_of_mem_optionalField
    {levels : Nat}
    {name : Text}
    {text : Option Text}
    {field : Text × Value}
    (present : field ∈ optionalField name text) :
    field.2.isReadable levels := by
  cases text with
  | none => cases present
  | some text =>
      rw [optionalField, Json.textField, List.mem_singleton] at present
      rw [present]
      rfl

theorem isReadable_of_mem_entriesField
    {levels : Nat}
    {name : Text}
    {found : Option Value}
    {field : Text × Value}
    (readable : ∀ value ∈ found, value.isReadable levels)
    (present : field ∈ Json.entriesField name (scalarEntries found)) :
    field.2.isReadable levels := by
  unfold Json.entriesField at present
  split at present
  next => cases present
  next nonempty =>
    rw [List.mem_singleton.mp present]
    exact isReadable_scalarEntries readable
      (nonempty ∘ List.isEmpty_iff.mpr)

/-- What is found in a readable object can be read one level further in. -/
theorem isReadable_of_find?
    {levels : Nat}
    {fields : Entries Value}
    (readable : (Value.object fields).isReadable (levels + 1))
    (name : Text) :
    ∀ value ∈ Entries.find? name fields, value.isReadable levels := by
  intro value found
  rw [Value.isReadable_object] at readable
  exact readable.2 _ (Entries.mem_of_find? found)

/-- The items of a list can be written back there if they can be by themselves,
two levels further in. -/
theorem isReadable_of_mem_childrenField
    {half : Nat}
    {fields : Entries Value}
    {field : Text × Value}
    (readable : ∀ value ∈ Entries.find? childrenKey fields,
      value.isReadable (2 * half))
    (writesBack : ∀ fewer < half, ∀ item : Value,
      item.isReadable (2 * fewer + 1) ->
      (ofValue item).toValue.isReadable (2 * fewer + 1))
    (present : field ∈
      Json.listField childrenKey (toValues (childrenOf fields))) :
    field.2.isReadable (2 * half) := by
  rw [childrenOf_eq] at present
  cases found : Entries.find? childrenKey fields with
  | none =>
      rw [found] at present
      cases present
  | some value =>
      rw [found] at present readable
      cases value with
      | list items =>
          cases half with
          | zero => cases readable _ rfl
          | succ half =>
              have itemsReadable := readable _ rfl
              rw [Nat.mul_succ, Value.isReadable_list] at itemsReadable
              simp only [Option.map_some, Option.getD_some, itemsOf,
                Json.listField, ofValues_eq_map, toValues_eq_map,
                List.map_map] at present
              split at present
              next => cases present
              next =>
                rw [List.mem_singleton.mp present, Nat.mul_succ,
                  Value.isReadable_list]
                intro written isWritten
                obtain ⟨item, isItem, rfl⟩ := List.mem_map.mp isWritten
                exact writesBack half (Nat.lt_succ_self half) item
                  (itemsReadable item isItem)
      | _ => cases present

/-- A value that nests at most to an odd level is written back to at most the
same level. A child that is no object stands in a list, which is at an even
level, so there is room for the object that it is written as. -/
theorem isReadable_toValue_ofValue
    {half : Nat}
    {value : Value}
    (readable : value.isReadable (2 * half + 1)) :
    (ofValue value).toValue.isReadable (2 * half + 1) := by
  induction half using Nat.strong_induction_on generalizing value with
  | _ half inductionHypothesis =>
      rw [toValue_eq, Value.isReadable_object]
      refine ⟨(names_fields_sublist _).nodup keys_nodup, ?_⟩
      cases value with
      | object fields =>
          have found := isReadable_of_find? readable
          rw [ofValue]
          intro field present
          simp only [Blueprint.fields, List.mem_append] at present
          obtain (((isTag | isContent) | isStyle) | isAttributes) | isChildren :=
            present
          · exact isReadable_of_mem_optionalField isTag
          · exact isReadable_of_mem_optionalField isContent
          · exact isReadable_of_mem_entriesField (found styleKey) isStyle
          · exact isReadable_of_mem_entriesField (found attributesKey)
              isAttributes
          · exact isReadable_of_mem_childrenField (found childrenKey)
              (fun fewer isFewer item => inductionHypothesis fewer isFewer)
              isChildren
      | _ =>
          rw [ofValue]
          · exact nofun
          · exact nofun

/-- A blueprint comes from the value of the text that it was read from. -/
theorem exists_value_of_read
    {text : Text}
    {blueprint : Blueprint}
    (isRead : read text = .ok (some blueprint)) :
    ∃ value, Json.read text = .ok value ∧ ofValue value = blueprint := by
  unfold read Json.document at isRead
  split at isRead
  next => cases isRead
  next =>
    cases valueRead : Json.read text with
    | error fault =>
        rw [valueRead] at isRead
        cases isRead
    | ok value =>
        rw [valueRead] at isRead
        cases isRead
        exact ⟨value, rfl, rfl⟩

/-- A blueprint that was read from a text is read again from the text that it is
written as, and the limit on nesting is not met there. -/
theorem written_blueprint_reads_back
    {text : Text}
    {blueprint : Blueprint}
    (isRead : read text = .ok (some blueprint)) :
    Json.read blueprint.toText = .ok blueprint.toValue ∧
      read blueprint.toText = .ok (some blueprint) := by
  obtain ⟨value, valueRead, rfl⟩ := exists_value_of_read isRead
  have limit : Json.nestingLimit = 2 * 63 + 1 := rfl
  have readable := Json.isReadable_of_read valueRead
  rw [limit] at readable
  have writtenRead : Json.read (ofValue value).toText =
      .ok (ofValue value).toValue := by
    apply Json.read_compact
    rw [limit]
    exact isReadable_toValue_ofValue readable
  refine ⟨writtenRead, ?_⟩
  rw [read, Json.document_of_read writtenRead]
  have sameBlueprint := ofValue_toValue (ofValue value)
  rw [Except.map, Option.map, sameBlueprint]

/-- A value that stands below some elements without other parts. -/
def nested (value : Value) : Nat -> Value
  | 0 => value
  | elements + 1 => .object [(childrenKey, .list [nested value elements])]

theorem isReadable_nested
    {levels : Nat}
    {value : Value}
    (readable : value.isReadable levels)
    (elements : Nat) :
    (nested value elements).isReadable (levels + 2 * elements) := by
  induction elements with
  | zero => exact readable
  | succ elements inductionHypothesis =>
      rw [nested, Nat.mul_succ, ← Nat.add_assoc]
      simpa [Entries.names] using inductionHypothesis

theorem toValue_ofValue_nested (value : Value) (elements : Nat) :
    (ofValue (nested value elements)).toValue =
      nested (ofValue value).toValue elements := by
  induction elements with
  | zero => rfl
  | succ elements inductionHypothesis =>
      rw [nested, nested, ← inductionHypothesis]
      rfl

/-- A number among the children of the innermost element that can be read is
written as an object, at the last level that can be read. -/
theorem written_blueprint_reads_back_deepest :
    let value := nested (.number (.integer 42)) 63
    read value.compact = .ok (some (ofValue value)) ∧
      (ofValue value).toValue = nested (.object []) 63 ∧
      read (ofValue value).toText = .ok (some (ofValue value)) := by
  intro value
  have readable : value.isReadable Json.nestingLimit :=
    Value.isReadable_mono (@isReadable_nested 0 _ rfl 63) (by decide)
  have isRead : read value.compact = .ok (some (ofValue value)) := by
    rw [read, Json.document_of_read (Json.read_compact readable)]
    rfl
  exact ⟨isRead, toValue_ofValue_nested _ 63,
    (written_blueprint_reads_back isRead).2⟩

end Blueprint
end CellPreview
