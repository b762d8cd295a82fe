import CellPreview.Text.Basic

/-!
# Ordered entries

A list of named values in which a name that is given again keeps its first
position and takes the new value. Objects of a document, styles and attributes
are all built this way, so that their order on the page is the order in which
their names were first written.
-/

namespace CellPreview

/-- Named values in order. -/
abbrev Entries (α : Type) := List (Text × α)

namespace Entries

/-- Give a name a value: in its place if it is there, at the end otherwise. -/
def put (name : Text) (value : α) : Entries α -> Entries α
  | [] => [(name, value)]
  | (other, old) :: rest =>
      if other = name then (name, value) :: rest
      else (other, old) :: put name value rest

/-- The entries of a list of pairs, put in from first to last. -/
def ofPairs (pairs : List (Text × α)) : Entries α :=
  pairs.foldl (fun entries (name, value) => put name value entries) []

/-- The value of a name. -/
def find? (name : Text) : Entries α -> Option α
  | [] => none
  | (other, value) :: rest =>
      if other = name then some value else find? name rest

/-- The names, in order. -/
def names (entries : Entries α) : List Text :=
  entries.map Prod.fst

@[simp] theorem put_nil (name : Text) (value : α) :
    put name value [] = [(name, value)] := rfl

@[simp] theorem find?_put_self (name : Text) (value : α) (entries : Entries α) :
    find? name (put name value entries) = some value := by
  induction entries with
  | nil => simp [find?]
  | cons entry rest inductionHypothesis =>
      by_cases same : entry.1 = name <;>
        simp [put, find?, same, inductionHypothesis]

/-- Giving a name a value leaves the value of every other name. -/
theorem find?_put_of_ne {name other : Text} (different : other ≠ name)
    (value : α) (entries : Entries α) :
    find? other (put name value entries) = find? other entries := by
  induction entries with
  | nil => simp [find?, different.symm]
  | cons entry rest inductionHypothesis =>
      by_cases same : entry.1 = name
      · subst same
        simp [put, find?, different.symm]
      · simp [put, find?, same, inductionHypothesis]

/-- Giving a name a value adds the name only if it is new. -/
theorem names_put (name : Text) (value : α) (entries : Entries α) :
    names (put name value entries) =
      if name ∈ names entries then names entries
      else names entries ++ [name] := by
  induction entries with
  | nil => simp [names]
  | cons entry rest inductionHypothesis =>
      unfold names at *
      by_cases same : entry.1 = name
      · simp [put, same]
      · have other : ¬ name = entry.1 := fun equal => same equal.symm
        by_cases known : name ∈ rest.map Prod.fst <;>
          simp_all [put]

end Entries
end CellPreview
