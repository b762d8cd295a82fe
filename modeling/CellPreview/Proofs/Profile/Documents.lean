import CellPreview.Profile.Builtin
import CellPreview.Profile.Reader
import CellPreview.Proofs.Json.Readable

/-!
# Documents of profiles

The document of a profile can always be loaded into the editor and read back.
In a file of profiles it stands two levels inside, so that it nests less deep
than a text of its own may.
-/

namespace CellPreview

/-! ## Values of a wanted shape -/

namespace Json
namespace Shape

variable {α : Type} {wanted text rest : Text} {count : Nat}

theorem word_ne_ok
    {name letters : Text}
    {result : α} :
    refuse.word wanted name letters text ≠ .ok result := by
  intro isRead
  obtain ⟨⟨_, afterWord⟩, _, isRead⟩ := Outcome.bind_eq_ok_iff.mp isRead
  cases isRead

/-- A value of another kind is refused, whatever it is. -/
theorem refuse_ne_ok {result : α} :
    refuse wanted count text ≠ .ok result := by
  intro isRead
  unfold refuse at isRead
  split at isRead
  case h_5 =>
    obtain ⟨⟨_, afterText⟩, _, isRead⟩ := Outcome.bind_eq_ok_iff.mp isRead
    cases isRead
  case h_8 =>
    split at isRead
    next =>
      obtain ⟨⟨_, afterNumber⟩, _, isRead⟩ := Outcome.bind_eq_ok_iff.mp isRead
      cases isRead
    next => cases isRead
  all_goals first
    | exact word_ne_ok isRead
    | cases isRead

/-- What holds of every item that is read holds of a list of items. -/
theorem forall_mem_of_list
    {holds : α -> Prop}
    {item : Reading α}
    (sound : ∀ text result rest, item text = .ok (result, rest) -> holds result)
    {results : List α}
    (isRead : list item count text = .ok (results, rest)) :
    ∀ result ∈ results, holds result := by
  unfold list at isRead
  split at isRead
  next => exact forall_mem_of_items sound isRead
  next => exact absurd isRead refuse_ne_ok

end Shape
end Json

/-! ## Profiles of a file -/

namespace Profile

/-- The document of a profile stands two levels inside of a file. -/
def StandsInside (profile : Profile) : Prop :=
  profile.document.isReadable (Json.nestingLimit - 2)

namespace Reader

variable {text rest : Text} {count : Nat} {profile : Profile}

/-- A document that is known of a draft stands two levels inside of a file. -/
def Draft.StandsInside (draft : Draft) : Prop :=
  ∀ document ∈ draft.document, document.isReadable (Json.nestingLimit - 2)

theorem Draft.standsInside_empty : Draft.empty.StandsInside := by
  simp [StandsInside, empty]

theorem Draft.StandsInside.finish
    {draft : Draft}
    (inside : draft.StandsInside)
    (finished : draft.finish = .ok profile) :
    profile.StandsInside := by
  unfold Draft.finish at finished
  split at finished
  case h_1 =>
    cases finished
    exact inside _ rfl
  all_goals cases finished

/-- Of the fields only the document matters. -/
theorem Draft.StandsInside.fieldValue
    {draft next : Draft}
    (inside : draft.StandsInside)
    {field : Field}
    (isRead : fieldValue count draft field text = .ok (next, rest)) :
    next.StandsInside := by
  cases field with
  | name =>
      obtain ⟨⟨name, _⟩, _, isRead⟩ := Outcome.bind_eq_ok_iff.mp isRead
      cases isRead
      exact inside
  | description =>
      obtain ⟨⟨description, _⟩, _, isRead⟩ := Outcome.bind_eq_ok_iff.mp isRead
      cases isRead
      exact inside
  | document =>
      obtain ⟨⟨document, _⟩, documentRead, isRead⟩ :=
        Outcome.bind_eq_ok_iff.mp isRead
      cases isRead
      rintro _ ⟨⟩
      exact Json.isReadable_of_value documentRead
  | samples =>
      obtain ⟨⟨samples, _⟩, _, isRead⟩ := Outcome.bind_eq_ok_iff.mp isRead
      cases isRead
      exact inside

/-- The fields of a profile, one after the other. -/
theorem Draft.StandsInside.fields
    {draft result : Draft}
    (inside : draft.StandsInside)
    {length : Nat}
    {isFirst : Bool}
    (isRead : fields length count isFirst draft text = .ok (result, rest)) :
    result.StandsInside := by
  -- The draft changes from field to field; what is known of it does not.
  induction count generalizing isFirst draft text with
  | zero => cases isRead
  | succ count inductionHypothesis =>
      rw [Reader.fields] at isRead
      obtain ⟨⟨start, afterStart⟩, _, isRead⟩ :=
        Outcome.bind_eq_ok_iff.mp isRead
      cases start with
      | none =>
          cases isRead
          exact inside
      | some key =>
          dsimp only at isRead
          split at isRead
          next =>
            obtain ⟨⟨_, afterColon⟩, _, isRead⟩ :=
              Outcome.bind_eq_ok_iff.mp isRead
            obtain ⟨⟨_, afterValue⟩, _, isRead⟩ :=
              Outcome.bind_eq_ok_iff.mp isRead
            exact inductionHypothesis inside isRead
          next field =>
            split at isRead
            next => cases isRead
            next =>
              obtain ⟨⟨_, afterColon⟩, _, isRead⟩ :=
                Outcome.bind_eq_ok_iff.mp isRead
              obtain ⟨⟨next, afterValue⟩, fieldRead, isRead⟩ :=
                Outcome.bind_eq_ok_iff.mp isRead
              exact inductionHypothesis (inside.fieldValue fieldRead) isRead

theorem standsInside_of_ofObject
    (isRead : ofObject count text = .ok (profile, rest)) :
    profile.StandsInside := by
  obtain ⟨⟨draft, afterFields⟩, fieldsRead, isRead⟩ :=
    Outcome.bind_eq_ok_iff.mp isRead
  dsimp only at isRead
  split at isRead
  next finished =>
    cases isRead
    exact (Draft.standsInside_empty.fields fieldsRead).finish finished
  next => cases isRead

/-- One of the values of a profile that is written as a list. -/
theorem exists_of_element
    {α : Type}
    {found : Nat}
    {item : Json.Reading α}
    {result : α}
    (isRead : element found item text = .ok (result, rest)) :
    ∃ text, item text = .ok (result, rest) := by
  obtain ⟨⟨hasItem, afterStart⟩, _, isRead⟩ := Outcome.bind_eq_ok_iff.mp isRead
  cases hasItem with
  | false => cases isRead
  | true => exact ⟨afterStart, isRead⟩

theorem standsInside_of_ofList
    (isRead : ofList count text = .ok (profile, rest)) :
    profile.StandsInside := by
  obtain ⟨⟨name, _⟩, _, isRead⟩ := Outcome.bind_eq_ok_iff.mp isRead
  obtain ⟨⟨description, _⟩, _, isRead⟩ := Outcome.bind_eq_ok_iff.mp isRead
  obtain ⟨⟨document, _⟩, documentRead, isRead⟩ :=
    Outcome.bind_eq_ok_iff.mp isRead
  obtain ⟨⟨samples, _⟩, _, isRead⟩ := Outcome.bind_eq_ok_iff.mp isRead
  obtain ⟨_, _, isRead⟩ := Outcome.bind_eq_ok_iff.mp isRead
  cases isRead
  obtain ⟨_, documentRead⟩ := exists_of_element documentRead
  exact Json.isReadable_of_value documentRead

theorem standsInside_of_profile
    (isRead : Reader.profile count text = .ok (profile, rest)) :
    profile.StandsInside := by
  unfold Reader.profile at isRead
  split at isRead
  next => exact standsInside_of_ofObject isRead
  next => exact standsInside_of_ofList isRead
  next => exact absurd isRead Json.Shape.refuse_ne_ok

end Reader

/-- The documents of all profiles of a file stand two levels inside of it. -/
theorem standsInside_of_readAll
    {text : Text}
    {profiles : List Profile}
    (isRead : readAll text = .ok profiles) :
    ∀ profile ∈ profiles, profile.StandsInside := by
  obtain ⟨_, isRead⟩ :=
    Json.exists_of_whole (Outcome.mapError_eq_ok_iff.mp isRead)
  exact Json.Shape.forall_mem_of_list
    (fun _ _ _ => Reader.standsInside_of_profile) isRead

/-! ## Profiles to choose from -/

/-- A built-in profile, or one that was read from some file. -/
def IsAvailable (profile : Profile) : Prop :=
  profile ∈ builtin ∨
    ∃ text profiles, readAll text = .ok profiles ∧ profile ∈ profiles

theorem isReadable_of_mem_builtin :
    ∀ profile ∈ builtin, profile.document.isReadable Json.nestingLimit := by
  decide +kernel

/-- The document of a profile is one that can be read. -/
theorem IsAvailable.isReadable
    {profile : Profile}
    (available : profile.IsAvailable) :
    profile.document.isReadable Json.nestingLimit := by
  obtain isBuiltin | ⟨text, profiles, isRead, present⟩ := available
  · exact isReadable_of_mem_builtin profile isBuiltin
  · exact Json.Value.isReadable_mono
      (standsInside_of_readAll isRead profile present) (Nat.sub_le _ _)

end Profile
end CellPreview
