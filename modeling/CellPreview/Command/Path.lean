import CellPreview.Text.Basic

/-!
# Paths

A path names a file by the segments between its slashes. Empty segments and
single dots lead nowhere, so two paths that differ in them alone name the same
file.
-/

namespace CellPreview
namespace Path

/-- The segments of a path. -/
def segments (path : Text) : List Text :=
  Text.split '/' path

/-- Whether a segment leads nowhere. -/
def isIdle (segment : Text) : Bool :=
  segment.isEmpty || segment == ['.']

/-- Whether a path is a single hyphen, after which segments that lead nowhere
may stand. It names the standard input. -/
def isHyphen (path : Text) : Bool :=
  match segments path with
  | first :: others => first == ['-'] && others.all isIdle
  | [] => false

end Path
end CellPreview
