import CellPreview.Text.Basic

/-!
# Substitution of a pattern

Every occurrence of a pattern is replaced, reading from left to right and never
looking at an inserted replacement again.
-/

namespace CellPreview
namespace Text

/-- Walk over a text in which the first `skipped` characters are already
accounted for by the occurrence that was found last. -/
def replaceFrom (pattern replacement : Text) : Nat -> Text -> Text
  | _, [] => []
  | skipped + 1, _ :: rest => replaceFrom pattern replacement skipped rest
  | 0, char :: rest =>
      if pattern.isPrefixOf (char :: rest) then
        replacement ++
          replaceFrom pattern replacement (pattern.length - 1) rest
      else
        char :: replaceFrom pattern replacement 0 rest

/-- Replace every occurrence of a nonempty pattern. -/
def replaceAll (pattern replacement text : Text) : Text :=
  replaceFrom pattern replacement 0 text

@[simp] theorem replaceAll_nil (pattern replacement : Text) :
    replaceAll pattern replacement [] = [] := rfl

/-- Skipped characters leave no trace in the result. -/
theorem replaceFrom_eq_drop (pattern replacement : Text) :
    forall (skipped : Nat) (text : Text),
      replaceFrom pattern replacement skipped text =
        replaceAll pattern replacement (text.drop skipped)
  | 0, _ => rfl
  | _ + 1, [] => rfl
  | skipped + 1, _ :: rest => by
      simpa [replaceFrom] using replaceFrom_eq_drop pattern replacement skipped rest

end Text
end CellPreview
