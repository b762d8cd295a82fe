import CellPreview.Notice.Basic
import CellPreview.Settings

/-!
# Commands

What the program can be asked to do, and the reasons for which a command line
is not such a request. Asking for help or for the version is one of them, since
nothing else is done then.
-/

namespace CellPreview
namespace Command

/-- How a document is to be rendered. -/
structure RenderOptions where
  /-- Profile whose samples are used. -/
  template : Option Text
  /-- Samples that are used instead, unless there are none. -/
  samples : List Text
  /-- The instant of the preview. -/
  now : Option Int
  output : Option OutputFormat
  deriving DecidableEq

end Command

/-- A command. -/
inductive Command
  | validate (input : Text)
  | format (input : Text) (minify : Bool)
  | render (input : Text) (options : Command.RenderOptions)
  | templates
  | template (name : Text)
  deriving DecidableEq

namespace Command

/-- A command with the options that all commands share. -/
structure Request where
  /-- File of settings. -/
  config : Option Text
  /-- How many times more notices were asked for. -/
  verbosity : Nat
  command : Command
  deriving DecidableEq

namespace Request

/-- The least important level of notices that are shown. -/
def level (request : Request) : Level :=
  match request.verbosity with
  | 0 => .warn
  | 1 => .debug
  | _ => .trace

end Request

/-- Why a command line is not a request. -/
inductive Usage
  | help
  | version
  | nothingGiven
  | missingCommand
  | unknownCommand
  | unknownArgument
  | missingArgument
  | invalidValue
  | unreadableValue
  | unwantedValue
  | repeatedOption
  deriving DecidableEq

end Command
end CellPreview
