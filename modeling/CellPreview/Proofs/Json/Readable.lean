import CellPreview.Json.Reader
import CellPreview.Proofs.Entries
import CellPreview.Proofs.Json.Number

/-!
# Values that can be read

Not every value is the meaning of some text: an integer has to fit 64 bits, the
names of an object differ, and lists and objects nest at most so many levels
deep. Whatever is read meets these conditions.
-/

namespace CellPreview
namespace Json
namespace Value

mutual

/-- Whether a value can be the result of reading, where lists and objects nest
at most `levels` deep. -/
def isReadable (levels : Nat) : Value -> Bool
  | .null => true
  | .bool _ => true
  | .number numeral => numeral.fits
  | .text _ => true
  | .list items =>
      match levels with
      | 0 => false
      | levels + 1 => areReadable levels items
  | .object fields =>
      match levels with
      | 0 => false
      | levels + 1 =>
          decide (Entries.names fields).Nodup && haveReadable levels fields

/-- Whether all values of a list can be the result of reading. -/
def areReadable (levels : Nat) : List Value -> Bool
  | [] => true
  | item :: others => item.isReadable levels && areReadable levels others

/-- Whether the values of all fields can be the result of reading. -/
def haveReadable (levels : Nat) : List (Text × Value) -> Bool
  | [] => true
  | (_, value) :: others =>
      value.isReadable levels && haveReadable levels others

end

theorem areReadable_iff {levels : Nat} {items : List Value} :
    areReadable levels items ↔ ∀ item ∈ items, item.isReadable levels := by
  induction items with
  | nil => simp [areReadable]
  | cons item others inductionHypothesis =>
      simp [areReadable, inductionHypothesis]

theorem haveReadable_iff {levels : Nat} {fields : List (Text × Value)} :
    haveReadable levels fields ↔
      ∀ field ∈ fields, field.2.isReadable levels := by
  induction fields with
  | nil => simp [haveReadable]
  | cons field others inductionHypothesis =>
      simp [haveReadable, inductionHypothesis]

@[simp] theorem isReadable_list {levels : Nat} {items : List Value} :
    (list items).isReadable (levels + 1) ↔
      ∀ item ∈ items, item.isReadable levels := by
  rw [isReadable, areReadable_iff]

@[simp] theorem isReadable_object
    {levels : Nat}
    {fields : List (Text × Value)} :
    (object fields).isReadable (levels + 1) ↔
      (Entries.names fields).Nodup ∧
        ∀ field ∈ fields, field.2.isReadable levels := by
  rw [isReadable, Bool.and_eq_true, decide_eq_true_iff, haveReadable_iff]

/-- What can be read can be read where more levels are allowed. -/
theorem isReadable_mono
    {value : Value}
    {levels more : Nat}
    (readable : value.isReadable levels)
    (bound : levels ≤ more) :
    value.isReadable more := by
  induction levels generalizing value more with
  | zero =>
      cases value with
      | list items => cases readable
      | object fields => cases readable
      | _ => exact readable
  | succ levels inductionHypothesis =>
      obtain ⟨more, rfl⟩ : ∃ others, more = others + 1 :=
        ⟨more - 1, by omega⟩
      have inner : levels ≤ more := Nat.le_of_succ_le_succ bound
      cases value with
      | list items =>
          rw [isReadable_list] at readable ⊢
          exact fun item present =>
            inductionHypothesis (readable item present) inner
      | object fields =>
          rw [isReadable_object] at readable ⊢
          exact ⟨readable.1, fun field present =>
            inductionHypothesis (readable.2 field present) inner⟩
      | _ => exact readable

end Value

/-! ## Whatever is read -/

/-- What holds of every item that is read holds of the items of a list. -/
theorem forall_mem_of_items
    {α : Type}
    {holds : α -> Prop}
    {item : Reading α}
    (sound : ∀ text result rest, item text = .ok (result, rest) -> holds result)
    {count : Nat}
    {isFirst : Bool}
    {text rest : Text}
    {results : List α}
    (isRead : items item count isFirst text = .ok (results, rest)) :
    ∀ result ∈ results, holds result := by
  induction count generalizing isFirst text results with
  | zero => cases isRead
  | succ count inductionHypothesis =>
      rw [items, Outcome.bind_eq_ok_iff] at isRead
      obtain ⟨⟨hasItem, afterStart⟩, _, isRead⟩ := isRead
      cases hasItem with
      | false =>
          cases isRead
          simp
      | true =>
          obtain ⟨⟨next, afterItem⟩, itemRead, isRead⟩ :=
            Outcome.bind_eq_ok_iff.mp isRead
          obtain ⟨⟨others, afterOthers⟩, othersRead, isRead⟩ :=
            Outcome.bind_eq_ok_iff.mp isRead
          cases isRead
          exact List.forall_mem_cons.mpr
            ⟨sound _ _ _ itemRead, inductionHypothesis othersRead⟩

/-- What holds of every value that is read holds of the fields of an object. -/
theorem forall_mem_of_fields
    {α : Type}
    {holds : α -> Prop}
    {value : Reading α}
    (sound : ∀ text result rest, value text = .ok (result, rest) -> holds result)
    {length count : Nat}
    {isFirst : Bool}
    {text rest : Text}
    {results : List (Text × α)}
    (isRead : fields value length count isFirst text = .ok (results, rest)) :
    ∀ result ∈ results, holds result.2 := by
  induction count generalizing isFirst text results with
  | zero => cases isRead
  | succ count inductionHypothesis =>
      rw [fields, Outcome.bind_eq_ok_iff] at isRead
      obtain ⟨⟨hasField, afterStart⟩, _, isRead⟩ := isRead
      cases hasField with
      | none =>
          cases isRead
          simp
      | some name =>
          obtain ⟨⟨_, afterColon⟩, _, isRead⟩ :=
            Outcome.bind_eq_ok_iff.mp isRead
          obtain ⟨⟨next, afterValue⟩, valueRead, isRead⟩ :=
            Outcome.bind_eq_ok_iff.mp isRead
          obtain ⟨⟨others, afterOthers⟩, othersRead, isRead⟩ :=
            Outcome.bind_eq_ok_iff.mp isRead
          cases isRead
          exact List.forall_mem_cons.mpr
            ⟨sound _ _ _ valueRead, inductionHypothesis othersRead⟩

theorem eq_of_wordRest
    {α : Type}
    {meaning result : α}
    {letters text rest : Text}
    (isRead : wordRest meaning letters text = .ok (result, rest)) :
    result = meaning := by
  induction letters generalizing text with
  | nil =>
      cases isRead
      rfl
  | cons wanted others inductionHypothesis =>
      cases text with
      | nil => cases isRead
      | cons char text =>
          rw [wordRest] at isRead
          split at isRead
          next => exact inductionHypothesis isRead
          next => cases isRead

/-- The levels that a reader of values one level further in leaves. -/
theorem isReadable_of_valueHere
    {levels count : Nat}
    {inner : Option (Reading Value)}
    (sound : ∀ reading ∈ inner, ∃ fewer, levels = fewer + 1 ∧
      ∀ text value rest, reading text = .ok (value, rest) ->
        value.isReadable fewer)
    {text rest : Text}
    {value : Value}
    (isRead : valueHere inner count text = .ok (value, rest)) :
    value.isReadable levels := by
  unfold valueHere at isRead
  split at isRead
  next => cases isRead
  next => rw [eq_of_wordRest isRead]; rfl
  next => rw [eq_of_wordRest isRead]; rfl
  next => rw [eq_of_wordRest isRead]; rfl
  next =>
    obtain ⟨⟨content, afterText⟩, _, isRead⟩ := Outcome.bind_eq_ok_iff.mp isRead
    cases isRead
    rfl
  next =>
    split at isRead
    next => cases isRead
    next reading =>
      obtain ⟨⟨results, afterItems⟩, itemsRead, isRead⟩ :=
        Outcome.bind_eq_ok_iff.mp isRead
      cases isRead
      obtain ⟨fewer, rfl, readable⟩ := sound reading rfl
      rw [Value.isReadable_list]
      exact forall_mem_of_items readable itemsRead
  next =>
    split at isRead
    next => cases isRead
    next reading =>
      obtain ⟨⟨results, afterFields⟩, fieldsRead, isRead⟩ :=
        Outcome.bind_eq_ok_iff.mp isRead
      cases isRead
      obtain ⟨fewer, rfl, readable⟩ := sound reading rfl
      rw [Value.isReadable_object]
      exact ⟨Entries.nodup_names_ofPairs _, fun field present =>
        forall_mem_of_fields readable fieldsRead field
          (Entries.mem_of_mem_ofPairs present)⟩
  next =>
    split at isRead
    next =>
      obtain ⟨⟨number, afterNumber⟩, numberRead, isRead⟩ :=
        Outcome.bind_eq_ok_iff.mp isRead
      cases isRead
      exact Number.fits_of_number numberRead
    next => cases isRead

theorem value_zero (count : Nat) (text : Text) :
    value count 0 text = valueHere none count (skipSpaces text) := rfl

theorem value_succ (count levels : Nat) (text : Text) :
    value count (levels + 1) text =
      valueHere (some (value count levels)) count (skipSpaces text) := rfl

/-- A value that is read nests as deep as it may and no deeper. -/
theorem isReadable_of_value
    {count levels : Nat}
    {text rest : Text}
    {result : Value}
    (isRead : value count levels text = .ok (result, rest)) :
    result.isReadable levels := by
  induction levels generalizing text rest result with
  | zero =>
      rw [value_zero] at isRead
      exact isReadable_of_valueHere (by simp) isRead
  | succ levels inductionHypothesis =>
      rw [value_succ] at isRead
      refine isReadable_of_valueHere ?_ isRead
      rintro reading ⟨⟩
      exact ⟨levels, rfl, fun _ _ _ innerRead => inductionHypothesis innerRead⟩

/-- What a whole text is read as is read from its start. -/
theorem exists_of_whole
    {α : Type}
    {reading : Reading α}
    {text : Text}
    {result : α}
    (isRead : whole reading text = .ok result) :
    ∃ rest, reading text = .ok (result, rest) := by
  obtain ⟨⟨value, rest⟩, valueRead, isRead⟩ := Outcome.bind_eq_ok_iff.mp isRead
  dsimp only at isRead
  split at isRead
  next =>
    cases isRead
    exact ⟨rest, valueRead⟩
  next => cases isRead

theorem exists_value_of_read
    {text : Text}
    {result : Value}
    (isRead : read text = .ok result) :
    ∃ rest, value text.length nestingLimit text = .ok (result, rest) :=
  exists_of_whole (Outcome.mapError_eq_ok_iff.mp isRead)

/-- The value of a text can be read. -/
theorem isReadable_of_read
    {text : Text}
    {result : Value}
    (isRead : read text = .ok result) :
    result.isReadable nestingLimit := by
  obtain ⟨_, valueRead⟩ := exists_value_of_read isRead
  exact isReadable_of_value valueRead

end Json
end CellPreview
