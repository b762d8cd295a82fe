import CellPreview.Text.Basic

/-!
# Blanks

The blanks are the characters with the Unicode property White_Space. Trimming
removes them from both ends of a text, and a text made of them alone counts as
empty to the editor.
-/

namespace CellPreview
namespace Text

/-- Characters with the White_Space property. -/
def isBlank (char : Char) : Bool :=
  let code := char.toNat
  (0x09 ≤ code && code ≤ 0x0D) || code == 0x20 || code == 0x85 ||
    code == 0xA0 || code == 0x1680 || (0x2000 ≤ code && code ≤ 0x200A) ||
    code == 0x2028 || code == 0x2029 || code == 0x202F || code == 0x205F ||
    code == 0x3000

/-- A text without the blanks at its start. -/
def trimStart (text : Text) : Text :=
  text.dropWhile isBlank

/-- A text without the blanks at its end. -/
def trimEnd (text : Text) : Text :=
  (text.reverse.dropWhile isBlank).reverse

/-- A text without the blanks at either end. -/
def trim (text : Text) : Text :=
  text.trimStart.trimEnd

/-- Whether a text has no character other than blanks. -/
def isAllBlank (text : Text) : Bool :=
  text.all isBlank

end Text
end CellPreview
