import CellPreview.Text.Basic

/-!
# Slices

A slice of a text is given by the byte offsets where it starts and stops. Spans
that are given so, from left to right, may be replaced by other texts, and what
stands outside of them is kept.
-/

namespace CellPreview
namespace Text

/-- A text without the characters that start in its first `count` bytes. -/
def dropBytes : Nat -> Text -> Text
  | 0, text => text
  | _ + 1, [] => []
  | count + 1, char :: rest => dropBytes (count + 1 - char.utf8Size) rest

/-- The characters of a text that start in its first `count` bytes. -/
def takeBytes : Nat -> Text -> Text
  | 0, _ => []
  | _ + 1, [] => []
  | count + 1, char :: rest =>
      char :: takeBytes (count + 1 - char.utf8Size) rest

/-- The characters between two byte offsets. -/
def slice (start stop : Nat) (text : Text) : Text :=
  takeBytes (stop - start) (dropBytes start text)

theorem dropBytes_add (before after : Text) (count : Nat) :
    dropBytes (byteLength before + count) (before ++ after) =
      dropBytes count after := by
  induction before with
  | nil => simp
  | cons char before inductionHypothesis =>
      obtain ⟨size, sizeEq⟩ :=
        Nat.exists_eq_succ_of_ne_zero (Nat.ne_of_gt char.utf8Size_pos)
      rw [byteLength_cons, sizeEq, Nat.succ_add, Nat.succ_add,
        List.cons_append, dropBytes]
      have remaining : size + byteLength before + count + 1 - char.utf8Size =
          byteLength before + count := by omega
      rw [remaining, inductionHypothesis]

theorem takeBytes_add (before after : Text) (count : Nat) :
    takeBytes (byteLength before + count) (before ++ after) =
      before ++ takeBytes count after := by
  induction before with
  | nil => simp
  | cons char before inductionHypothesis =>
      obtain ⟨size, sizeEq⟩ :=
        Nat.exists_eq_succ_of_ne_zero (Nat.ne_of_gt char.utf8Size_pos)
      rw [byteLength_cons, sizeEq, Nat.succ_add, Nat.succ_add,
        List.cons_append, takeBytes]
      have remaining : size + byteLength before + count + 1 - char.utf8Size =
          byteLength before + count := by omega
      rw [remaining, inductionHypothesis, List.cons_append]

theorem dropBytes_append (before after : Text) :
    dropBytes (byteLength before) (before ++ after) = after := by
  have dropped := dropBytes_add before after 0
  rwa [dropBytes] at dropped

theorem takeBytes_append (before after : Text) :
    takeBytes (byteLength before) (before ++ after) = before := by
  have taken := takeBytes_add before after 0
  rwa [takeBytes, List.append_nil] at taken

/-- The middle of three texts is the slice between the first and the last. -/
theorem slice_append
    {start stop : Nat}
    {before middle : Text}
    (startEq : start = byteLength before)
    (stopEq : stop = byteLength before + byteLength middle)
    (after : Text) :
    slice start stop (before ++ (middle ++ after)) = middle := by
  have length : stop - start = byteLength middle := by omega
  rw [slice, length, startEq, dropBytes_append, takeBytes_append]

/-- A span of a text, and the text to stand in its place. -/
structure Replacement where
  start : Nat
  stop : Nat
  replacement : Text

/-- Replace some spans, from left to right, of a text whose first character has
a given byte offset. -/
def replaceSpans (offset : Nat) (text : Text) : List Replacement -> Text
  | [] => text
  | span :: others =>
      takeBytes (span.start - offset) text ++ span.replacement ++
        replaceSpans span.stop (dropBytes (span.stop - offset) text) others

/-- What stands before the first span is kept. -/
theorem replaceSpans_append
    {offset : Nat}
    {before text : Text}
    {spans : List Replacement}
    (later : ∀ span ∈ spans.head?,
      offset + byteLength before ≤ span.start ∧ span.start ≤ span.stop) :
    replaceSpans offset (before ++ text) spans =
      before ++ replaceSpans (offset + byteLength before) text spans := by
  cases spans with
  | nil => rfl
  | cons span others =>
      obtain ⟨starts, stops⟩ := later span rfl
      have startEq : span.start - offset = byteLength before +
          (span.start - (offset + byteLength before)) := by omega
      have stopEq : span.stop - offset = byteLength before +
          (span.stop - (offset + byteLength before)) := by omega
      rw [replaceSpans, replaceSpans, startEq, stopEq, takeBytes_add,
        dropBytes_add]
      simp

/-- A span at the start of a text is replaced. -/
theorem replaceSpans_cons
    {start stop : Nat}
    {middle : Text}
    (stopEq : stop = start + byteLength middle)
    (replacement after : Text)
    (others : List Replacement) :
    replaceSpans start (middle ++ after) (⟨start, stop, replacement⟩ :: others) =
      replacement ++ replaceSpans stop after others := by
  have length : stop - start = byteLength middle := by omega
  rw [replaceSpans, Nat.sub_self, takeBytes, length, dropBytes_append,
    List.nil_append]

end Text
end CellPreview
