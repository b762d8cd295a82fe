import CellPreview.Command.Job
import CellPreview.Entries

/-!
# Folders

A folder of files and the texts that a program running in it reads. Nothing is
known of what lies outside of the folder except that there are folders above
it.
-/

namespace CellPreview

/-- The files of a folder, without further folders in it. -/
abbrev Folder := Entries ByteArray

namespace Folder

/-- Where a path has led. -/
inductive Place
  | here
  | above
  | file (content : ByteArray)

/-- Greatest number of bytes in a segment of a path. -/
def nameLimit : Nat := 255

/-- Number of bytes that a path must stay below. -/
def pathLimit : Nat := 4096

/-- Follow one segment of a path. -/
def follow (folder : Folder) (place : Place) (segment : Text) :
    Except ReadFault Place :=
  match place with
  | .file _ => .error .notFolder
  | _ =>
      if Path.isIdle segment then .ok place
      else if segment = ['.', '.'] then .ok .above
      else if nameLimit < Text.byteLength segment then .error .tooLongName
      else
        match place, Entries.find? segment folder with
        | .here, some content => .ok (.file content)
        | _, _ => .error .missing

/-- The text of some bytes. -/
def textOf (content : ByteArray) : Except ReadFault Text :=
  match String.fromUTF8? content with
  | some text => .ok text.toList
  | none => .error .notText

/-- Where a path starts. -/
def origin (path : Text) : Place :=
  if path.head? = some '/' then .above else .here

/-- The text of the file of a path. -/
def read (folder : Folder) (path : Text) : Except ReadFault Text := do
  if path.contains '\x00' then throw .nullCharacter
  if path.isEmpty then throw .missing
  if pathLimit ≤ Text.byteLength path then throw .tooLongName
  match <- (Path.segments path).foldlM (follow folder) (origin path) with
  | .file content => textOf content
  | _ => throw .folder

/-- What a job finds in a folder, given the bytes of the standard input. -/
def surroundings (folder : Folder) (input : ByteArray) (instant : Int) :
    Command.Surroundings where
  text
    | .input => textOf input
    | .file path => folder.read path
  instant := instant

end Folder
end CellPreview
