/-!
# Ranges of code points

A character class that a standard fixes by enumeration is kept as an ascending
list of inclusive code point ranges. Membership is decided by one walk that
stops at the first range lying above the code point. A table carries that its
ranges ascend, so the walk misses none of them.
-/

namespace CellPreview
namespace CodeRanges

/-- Every range starts no later than it ends and ends before the next one, and
the first starts no earlier than at the least code point. -/
def Ascending : Nat -> List (Nat × Nat) -> Prop
  | _, [] => True
  | least, (first, last) :: others =>
      least ≤ first ∧ first ≤ last ∧ Ascending (last + 1) others

instance decidableAscending :
    (least : Nat) -> (ranges : List (Nat × Nat)) ->
      Decidable (Ascending least ranges)
  | _, [] => inferInstanceAs (Decidable True)
  | least, (first, last) :: others =>
      have := decidableAscending (last + 1) others
      inferInstanceAs (Decidable
        (least ≤ first ∧ first ≤ last ∧ Ascending (last + 1) others))

/-- Whether a walk along some ranges finds a code point in one of them. -/
def isFoundIn (code : Nat) : List (Nat × Nat) -> Bool
  | [] => false
  | (first, last) :: others =>
      if code < first then false
      else if code ≤ last then true
      else isFoundIn code others

variable {least code : Nat} {ranges : List (Nat × Nat)}

theorem Ascending.le_of_mem
    (ascending : Ascending least ranges) :
    ∀ range ∈ ranges, least ≤ range.1 := by
  induction ranges generalizing least with
  | nil => exact nofun
  | cons range others inductionHypothesis =>
      obtain ⟨least_le, first_le, othersAscend⟩ := ascending
      intro other present
      obtain rfl | present := List.mem_cons.mp present
      · exact least_le
      · have above := inductionHypothesis othersAscend other present
        omega

/-- The walk finds exactly the code points in the ranges. -/
theorem Ascending.isFoundIn_iff
    (ascending : Ascending least ranges) :
    isFoundIn code ranges ↔
      ∃ range ∈ ranges, range.1 ≤ code ∧ code ≤ range.2 := by
  induction ranges generalizing least with
  | nil => simp [isFoundIn]
  | cons range others inductionHypothesis =>
      obtain ⟨first, last⟩ := range
      obtain ⟨_, first_le, othersAscend⟩ := ascending
      simp only [isFoundIn, List.mem_cons, or_and_right, exists_or,
        exists_eq_left]
      split
      next isBelow =>
        -- the ranges behind start even further up
        have noneBehind :
            ¬∃ range ∈ others, range.1 ≤ code ∧ code ≤ range.2 := by
          rintro ⟨range, present, startsBelow, _⟩
          have above := othersAscend.le_of_mem range present
          omega
        simp only [noneBehind, or_false, Bool.false_eq_true, false_iff]
        omega
      next notBelow =>
        split
        next isWithin =>
          simp only [true_iff]
          exact .inl ⟨Nat.not_lt.mp notBelow, isWithin⟩
        next isAbove =>
          rw [inductionHypothesis othersAscend]
          simp [isAbove]

end CodeRanges

/-- Ascending, disjoint, inclusive ranges of code points. -/
structure CodeRanges where
  ranges : List (Nat × Nat)
  ascending : CodeRanges.Ascending 0 ranges

namespace CodeRanges

/-- Whether a code point lies in one of the ranges. -/
def covers (table : CodeRanges) (code : Nat) : Bool :=
  isFoundIn code table.ranges

/-- A table covers exactly the code points that lie in one of its ranges. -/
theorem covers_iff {table : CodeRanges} {code : Nat} :
    table.covers code ↔
      ∃ range ∈ table.ranges, range.1 ≤ code ∧ code ≤ range.2 :=
  table.ascending.isFoundIn_iff

end CodeRanges
end CellPreview
