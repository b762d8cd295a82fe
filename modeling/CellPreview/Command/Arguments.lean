import CellPreview.Command.Basic
import CellPreview.Numeric.Integer64

/-!
# Command lines

A command line gives options that all commands share, the name of a command and
then the options and the argument of that command, among which the shared
options may stand again. A value that an option waits for is stored only when
the next option or argument comes, or at the end, and it is checked then. After
two hyphens on their own everything is an argument.
-/

namespace CellPreview
namespace Command

/-- Names of the commands. -/
inductive Verb
  | validate
  | format
  | render
  | templates
  | template
  deriving DecidableEq

namespace Verb

/-- A command as it is named on the command line. -/
def name : Verb -> Text
  | .validate => "validate"
  | .format => "format"
  | .render => "render"
  | .templates => "templates"
  | .template => "template"

/-- All commands. -/
def all : List Verb :=
  [validate, format, render, templates, template]

/-- The command of a given name. -/
def ofName? (name : Text) : Option Verb :=
  all.find? fun verb => verb.name == name

end Verb

/-- Name of the command that only shows help. -/
def helpName : Text := "help"

/-- Whether a text names a command. -/
def isCommandName (name : Text) : Bool :=
  (Verb.ofName? name).isSome || name == helpName

/-- Options without a value. -/
inductive Switch
  | verbose
  | minify
  | help
  | version
  deriving DecidableEq

/-- Places for a value: those of options, and those of arguments. -/
inductive Slot
  | config
  | template
  | sample
  | now
  | output
  | input
  | name
  deriving DecidableEq

/-- An option. -/
inductive OptionName
  | switch (switch : Switch)
  | slot (slot : Slot)
  deriving DecidableEq

/-- The shared option of a given long name. -/
def sharedLong? (name : String) : Option OptionName :=
  match name with
  | "config" => some (.slot .config)
  | "verbose" => some (.switch .verbose)
  | "help" => some (.switch .help)
  | _ => none

/-- The shared option of a given letter. -/
def sharedShort? (letter : Char) : Option OptionName :=
  match letter with
  | 'c' => some (.slot .config)
  | 'v' => some (.switch .verbose)
  | 'h' => some (.switch .help)
  | _ => none

/-- The option of a given long name, before any command or after one. -/
def long? (verb : Option Verb) (name : Text) : Option OptionName :=
  match verb, String.ofList name with
  | none, "version" => some (.switch .version)
  | some .format, "minify" => some (.switch .minify)
  | some .render, "template" => some (.slot .template)
  | some .render, "sample" => some (.slot .sample)
  | some .render, "now" => some (.slot .now)
  | some .render, "output" => some (.slot .output)
  | _, name => sharedLong? name

/-- The option of a given letter, before any command or after one. -/
def short? (verb : Option Verb) (letter : Char) : Option OptionName :=
  match verb, letter with
  | none, 'V' => some (.switch .version)
  | some .render, 't' => some (.slot .template)
  | some .render, 's' => some (.slot .sample)
  | some .render, 'o' => some (.slot .output)
  | _, letter => sharedShort? letter

/-- The argument of a command. -/
def argument? : Option Verb -> Option Slot
  | some .validate => some .input
  | some .format => some .input
  | some .render => some .input
  | some .template => some .name
  | _ => none

/-- What was given, before any command or after one. -/
structure Given where
  config : Option Text
  verbosity : Nat
  minify : Bool
  template : Option Text
  samples : List Text
  now : Option Int
  output : Option OutputFormat
  /-- Path or name that is the argument of the command. -/
  argument : Option Text
  deriving DecidableEq

namespace Given

/-- Nothing was given. -/
def nothing : Given :=
  ⟨none, 0, false, none, [], none, none, none⟩

/-- A value for something that may be given once. -/
def once (old : Option α) (value : Except Usage α) :
    Except Usage (Option α) :=
  match old with
  | some _ => .error .repeatedOption
  | none => value.map some

/-- A path, which must not be empty. -/
def path (value : Text) : Except Usage Text :=
  if value.isEmpty then .error .invalidValue else .ok value

/-- The result of reading a value, or the reason why there is none. -/
def orElse (usage : Usage) : Option α -> Except Usage α
  | some value => .ok value
  | none => .error usage

/-- Store a value in its place. -/
def store (given : Given) (slot : Slot) (value : Text) :
    Except Usage Given := do
  match slot with
  | .config =>
      let config <- once given.config (path value)
      return { given with config := config }
  | .template =>
      let template <- once given.template (.ok value)
      return { given with template := template }
  | .sample => return { given with samples := given.samples ++ [value] }
  | .now =>
      let now <- once given.now
        (orElse .unreadableValue (Numeric.readInt64? value))
      return { given with now := now }
  | .output =>
      let output <- once given.output
        (orElse .invalidValue (OutputFormat.ofName? value))
      return { given with output := output }
  | .input =>
      let argument <- once given.argument (path value)
      return { given with argument := argument }
  | .name =>
      let argument <- once given.argument (.ok value)
      return { given with argument := argument }

/-- Turn a switch on. -/
def turnOn (given : Given) : Switch -> Except Usage Given
  | .verbose => .ok { given with verbosity := given.verbosity + 1 }
  | .minify =>
      if given.minify then .error .repeatedOption
      else .ok { given with minify := true }
  | .help => .error .help
  | .version => .error .version

end Given

/-- How far a command line has been read. -/
structure Progress where
  given : Given
  /-- The place that is to be filled next, and its value once there is one. -/
  pending : Option (Slot × Option Text)
  /-- Whether the argument has been met. -/
  hasArgument : Bool
  /-- Whether only arguments may follow. -/
  onlyArguments : Bool

namespace Progress

/-- Nothing has been read. -/
def start : Progress :=
  ⟨.nothing, none, false, false⟩

/-- Whether an option waits for its value. -/
def isWaiting (progress : Progress) : Bool :=
  match progress.pending with
  | some (_, none) => true
  | _ => false

/-- Store what is pending. -/
def settle (progress : Progress) : Except Usage Progress :=
  match progress.pending with
  | none => .ok progress
  | some (_, none) => .error .invalidValue
  | some (slot, some value) => do
      let given <- progress.given.store slot value
      return { progress with given := given, pending := none }

/-- Read an option with the value attached to it, if there is one. -/
def option (progress : Progress) (slot : Slot) (attached : Option Text) :
    Except Usage Progress := do
  let progress <- progress.settle
  match attached with
  | none => return { progress with pending := some (slot, none) }
  | some value =>
      let given <- progress.given.store slot value
      return { progress with given := given }

/-- Read a switch. -/
def switch (progress : Progress) (switch : Switch) :
    Except Usage Progress := do
  let progress <- progress.settle
  let given <- progress.given.turnOn switch
  return { progress with given := given }

/-- Value attached to the letter of an option, with or without an equals
sign. -/
def attachedValue : Text -> Option Text
  | [] => none
  | '=' :: value => some value
  | value => some value

/-- Read the letters after a hyphen. -/
def letters (verb : Option Verb) (progress : Progress) :
    Text -> Except Usage Progress
  | [] => .ok progress
  | letter :: rest =>
      match short? verb letter with
      | none => .error .unknownArgument
      | some (.switch switch) => do
          let progress <- progress.switch switch
          letters verb progress rest
      | some (.slot slot) => progress.option slot (attachedValue rest)

/-- Name of a long option and the value after its equals sign, if there is
one. -/
def splitLong (text : Text) : Text × Option Text :=
  match text.dropWhile (· != '=') with
  | [] => (text, none)
  | _ :: value => (text.takeWhile (· != '='), some value)

/-- Read what stands after two hyphens. -/
def longOption (verb : Option Verb) (progress : Progress) (text : Text) :
    Except Usage Progress :=
  let (name, attached) := splitLong text
  match long? verb name with
  | none => .error .unknownArgument
  | some (.slot slot) => progress.option slot attached
  | some (.switch switch) =>
      if attached.isSome then .error .unwantedValue
      else progress.switch switch

/-- Read an argument. -/
def argument (verb : Option Verb) (progress : Progress) (text : Text) :
    Except Usage Progress :=
  match argument? verb, progress.hasArgument with
  | some slot, false => do
      let progress <- progress.settle
      return { progress with
        pending := some (slot, some text), hasArgument := true }
  | _, _ =>
      if verb.isNone &&
          !(progress.onlyArguments && isCommandName text) then
        .error .unknownCommand
      else
        .error .unknownArgument

/-- Read the value that an option waits for, or an argument. -/
def value (verb : Option Verb) (progress : Progress) (text : Text) :
    Except Usage Progress :=
  match progress.pending with
  | some (slot, none) =>
      .ok { progress with pending := some (slot, some text) }
  | _ => progress.argument verb text

/-- Read one word of a command line. -/
def word (verb : Option Verb) (progress : Progress) (text : Text) :
    Except Usage Progress :=
  if progress.onlyArguments then progress.argument verb text
  else
    match text with
    | ['-', '-'] => .ok { progress with onlyArguments := true }
    | '-' :: '-' :: rest => progress.longOption verb rest
    | '-' :: letter :: rest => progress.letters verb (letter :: rest)
    | _ => progress.value verb text

end Progress

/-- What is given in the words after the name of a command. -/
def givenAfter (verb : Verb) (words : List Text) : Except Usage Given := do
  let progress <- words.foldlM (Progress.word (some verb)) Progress.start
  let progress <- progress.settle
  return progress.given

/-- The command of a name and what is given after it. -/
def commandOf (verb : Verb) (given : Given) : Except Usage Command :=
  match verb, given.argument with
  | .templates, _ => .ok .templates
  | .validate, some input => .ok (.validate input)
  | .format, some input => .ok (.format input given.minify)
  | .render, some input =>
      .ok (.render input
        ⟨given.template, given.samples, given.now, given.output⟩)
  | .template, some name => .ok (.template name)
  | _, none => .error .missingArgument

/-- The request of a command, what was given before its name, and the words
after it. What is given after the name counts for more. -/
def requestOf (verb : Verb) (before : Progress) (words : List Text) :
    Except Usage Request := do
  let given <- givenAfter verb words
  let command <- commandOf verb given
  let before <- before.settle
  return {
    config := given.config <|> before.given.config
    verbosity :=
      if given.verbosity = 0 then before.given.verbosity else given.verbosity
    command := command }

/-- Why the words after the name of the help command show no request. -/
def helpUsage : List Text -> Usage
  | [] => .help
  | [name] => if isCommandName name then .help else .unknownCommand
  | _ => .unknownCommand

/-- Why a command line that ends before any command is no request. -/
def withoutCommand (progress : Progress) : Except Usage Request := do
  let progress <- progress.settle
  if progress.given == .nothing then .error .nothingGiven
  else .error .missingCommand

/-- The request of the words that follow some that have been read. -/
def readFrom (progress : Progress) : List Text -> Except Usage Request
  | [] => withoutCommand progress
  | text :: rest =>
      if progress.onlyArguments || progress.isWaiting then do
        let progress <- progress.word none text
        readFrom progress rest
      else
        match Verb.ofName? text with
        | some verb => requestOf verb progress rest
        | none =>
            if text = helpName then .error (helpUsage rest)
            else do
              let progress <- progress.word none text
              readFrom progress rest

/-- The request of a command line. -/
def read (words : List Text) : Except Usage Request :=
  readFrom .start words

end Command
end CellPreview
