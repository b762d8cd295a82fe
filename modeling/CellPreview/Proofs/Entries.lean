import CellPreview.Entries
import Mathlib.Data.List.Nodup

/-!
# Names of entries

Entries that are put in one after the other have different names, and pairs
whose names differ from the start are put in as they are. Otherwise a name has
the place where it comes first among the pairs, and the value that it comes with
last.
-/

namespace CellPreview
namespace Entries

variable {α : Type} {name : Text} {value : α} {entries pairs : Entries α}

theorem mem_of_mem_put
    {entry : Text × α}
    (present : entry ∈ put name value entries) :
    entry = (name, value) ∨ entry ∈ entries := by
  induction entries with
  | nil => exact .inl (List.mem_singleton.mp present)
  | cons first others inductionHypothesis =>
      by_cases same : first.1 = name
      · simp only [put, same, if_true, List.mem_cons] at present
        exact present.imp_right (List.mem_cons_of_mem _)
      · simp only [put, same, if_false, List.mem_cons] at present
        obtain rfl | present := present
        · exact .inr List.mem_cons_self
        · exact (inductionHypothesis present).imp_right (List.mem_cons_of_mem _)

/-- Giving a name a value keeps the names different. -/
theorem nodup_names_put
    (distinct : (names entries).Nodup)
    (name : Text)
    (value : α) :
    (names (put name value entries)).Nodup := by
  rw [names_put]
  split
  next => exact distinct
  next isNew => exact List.nodup_append.mpr ⟨distinct, by simp, by
    rintro other present _ isName rfl
    exact isNew (List.mem_singleton.mp isName ▸ present)⟩

/-- A new name is put at the end. -/
theorem put_of_notMem
    (isNew : name ∉ names entries)
    (value : α) :
    put name value entries = entries ++ [(name, value)] := by
  induction entries with
  | nil => rfl
  | cons first others inductionHypothesis =>
      simp only [names, List.map_cons, List.mem_cons, not_or] at isNew
      rw [put, if_neg (Ne.symm isNew.1), inductionHypothesis isNew.2,
        List.cons_append]

/-- Putting entries into others keeps the names different, and adds no entries
but those that are put in. -/
theorem foldl_put
    (distinct : (names entries).Nodup) :
    (names (pairs.foldl (fun entries (name, value) => put name value entries)
        entries)).Nodup ∧
      ∀ entry ∈ pairs.foldl (fun entries (name, value) =>
        put name value entries) entries, entry ∈ entries ∨ entry ∈ pairs := by
  induction pairs generalizing entries with
  | nil => exact ⟨distinct, fun entry present => .inl present⟩
  | cons pair others inductionHypothesis =>
      obtain ⟨differ, among⟩ :=
        inductionHypothesis (nodup_names_put distinct pair.1 pair.2)
      refine ⟨differ, fun entry present => ?_⟩
      obtain kept | put := among entry present
      · obtain rfl | kept := mem_of_mem_put kept
        · exact .inr List.mem_cons_self
        · exact .inl kept
      · exact .inr (List.mem_cons_of_mem _ put)

/-- Entries made of pairs have different names. -/
theorem nodup_names_ofPairs (pairs : Entries α) :
    (names (ofPairs pairs)).Nodup :=
  (foldl_put (by simp [names])).1

theorem mem_of_mem_ofPairs
    {entry : Text × α}
    (present : entry ∈ ofPairs pairs) :
    entry ∈ pairs :=
  ((foldl_put (by simp [names])).2 entry present).resolve_left (by simp)

theorem foldl_put_of_nodup
    (distinct : (names (entries ++ pairs)).Nodup) :
    pairs.foldl (fun entries (name, value) => put name value entries) entries =
      entries ++ pairs := by
  induction pairs generalizing entries with
  | nil => simp
  | cons pair others inductionHypothesis =>
      obtain ⟨name, value⟩ := pair
      have isNew : name ∉ names entries := by
        simp only [names, List.map_append, List.nodup_append] at distinct
        exact fun present => distinct.2.2 _ present _ List.mem_cons_self rfl
      rw [List.append_cons] at distinct ⊢
      rw [List.foldl_cons]
      dsimp only
      rw [put_of_notMem isNew, inductionHypothesis distinct]

/-- Pairs whose names differ are entries as they are. -/
theorem ofPairs_of_nodup
    (distinct : (names pairs).Nodup) :
    ofPairs pairs = pairs :=
  foldl_put_of_nodup (by simpa using distinct)

/-- Putting entries into others adds the names that are new, each where it comes
first. -/
theorem names_foldl_put (entries pairs : Entries α) :
    names (pairs.foldl (fun entries (name, value) => put name value entries)
        entries) =
      names entries ++
        ((names pairs).filter fun name => name ∉ names entries).eraseDups := by
  induction pairs generalizing entries with
  | nil => simp [names]
  | cons pair others inductionHypothesis =>
      obtain ⟨name, value⟩ := pair
      have namesCons : names ((name, value) :: others) = name :: names others :=
        rfl
      rw [List.foldl_cons, inductionHypothesis, names_put, namesCons]
      split
      next known =>
        rw [List.filter_cons_of_neg (by simpa using known)]
      next isNew =>
        rw [List.filter_cons_of_pos (by simpa using isNew), List.eraseDups_cons,
          List.filter_filter, List.append_assoc, List.singleton_append]
        -- a later name is new if it is neither among the entries nor this one
        congr 4
        funext other
        simp [and_comm, beq_eq_decide]

/-- The names of entries made of pairs are those of the pairs, each where it
comes first. -/
theorem names_ofPairs (pairs : Entries α) :
    names (ofPairs pairs) = (names pairs).eraseDups := by
  rw [ofPairs, names_foldl_put]
  simp [names]

/-! ## Looking names up -/

/-- A value that is found is that of an entry. -/
theorem mem_of_find?
    (found : find? name entries = some value) :
    (name, value) ∈ entries := by
  induction entries with
  | nil => cases found
  | cons first others inductionHypothesis =>
      obtain ⟨other, old⟩ := first
      rw [find?] at found
      split at found
      next same =>
        cases found
        rw [same]
        exact List.mem_cons_self
      next => exact List.mem_cons_of_mem _ (inductionHypothesis found)

/-- A name is looked up in the first of two lists of entries, and then in the
second. -/
theorem find?_append (name : Text) (first second : Entries α) :
    find? name (first ++ second) =
      (find? name first).or (find? name second) := by
  induction first with
  | nil => rfl
  | cons entry others inductionHypothesis =>
      rw [List.cons_append, find?, find?, inductionHypothesis]
      split <;> rfl

theorem find?_foldl_put (name : Text) (entries pairs : Entries α) :
    find? name (pairs.foldl (fun entries (name, value) =>
        put name value entries) entries) =
      (find? name pairs.reverse).or (find? name entries) := by
  induction pairs generalizing entries with
  | nil => rfl
  | cons pair others inductionHypothesis =>
      obtain ⟨other, value⟩ := pair
      rw [List.foldl_cons, inductionHypothesis, List.reverse_cons, find?_append,
        Option.or_assoc]
      congr 1
      by_cases same : other = name
      · subst same
        simp [find?]
      · simp [find?, same, find?_put_of_ne (Ne.symm same)]

theorem find?_eq_none_of_notMem
    (absent : name ∉ names entries) :
    find? name entries = none := by
  induction entries with
  | nil => rfl
  | cons entry others inductionHypothesis =>
      simp only [names, List.map_cons, List.mem_cons, not_or] at absent
      rw [find?, if_neg (Ne.symm absent.1), inductionHypothesis absent.2]

/-- In entries made of pairs, a name has the value that it comes with last. -/
theorem find?_ofPairs
    {before after : Entries α}
    (isLast : name ∉ names after) :
    find? name (ofPairs (before ++ (name, value) :: after)) = some value := by
  have absent : name ∉ names after.reverse := by
    simpa [names] using isLast
  rw [ofPairs, find?_foldl_put, List.reverse_append, List.reverse_cons,
    List.append_assoc, find?_append, find?_eq_none_of_notMem absent]
  simp [find?]

end Entries
end CellPreview
