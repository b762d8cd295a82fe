import CellPreview.Json.Fault

/-!
# Failures

Why a file cannot be read, and why a command fails. A failure to read names its
reason twice, once as its own wording and once as its cause.
-/

namespace CellPreview

/-- Why a file, or the standard input, cannot be read as text. -/
inductive ReadFault
  | missing
  | folder
  | notFolder
  | tooLongName
  | nullCharacter
  | notText
  | other (reason : Text)
  deriving DecidableEq

namespace ReadFault

/-- Wording of a reason. -/
def message : ReadFault -> Text
  | .missing => "No such file or directory (os error 2)"
  | .folder => "Is a directory (os error 21)"
  | .notFolder => "Not a directory (os error 20)"
  | .tooLongName => "File name too long (os error 36)"
  | .nullCharacter => "file name contained an unexpected NUL byte"
  | .notText => "stream did not contain valid UTF-8"
  | .other reason => reason

end ReadFault

namespace Command

/-- Why a command fails. -/
inductive Failure
  | unreadable (path : Text) (fault : ReadFault)
  | notSettings (path : Text)
  | notProfiles (path : Text) (fault : Json.Fault)
  | unknownProfile (name : Text)
  /-- The document of a path is none. -/
  | refused (path : Text) (fault : Json.Fault)
  /-- The document of a path cannot be written in another way. -/
  | notFormattable (path : Text) (fault : Json.Fault)
  deriving DecidableEq

namespace Failure

/-- A place in a file, as it stands in front of a message. -/
def place (path : Text) (position : Json.Position) : Text :=
  Text.joined [':']
    [path, Text.ofNat position.line, Text.ofNat position.column]

/-- Wording of a failure. -/
def message : Failure -> Text
  | .unreadable path fault =>
      Text.joined ": " [path, fault.message, fault.message]
  | .notSettings path => "invalid config: " ++ path
  | .notProfiles path fault =>
      Text.joined ": " ["invalid config", path, fault.message]
  | .unknownProfile name => "unknown template: " ++ name
  | .refused path fault =>
      Text.joined ": " [place path fault.position, fault.message]
  | .notFormattable path fault =>
      Text.joined ": " ["cannot format " ++ path, fault.message]

end Failure
end Command
end CellPreview
