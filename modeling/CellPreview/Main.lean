import CellPreview.Command.Arguments
import CellPreview.Command.Execution
import CellPreview.Command.Folder
import Std.Time.DateTime.Timestamp

/-!
# The command line

Reads the request on the command line and carries its job out on the files, the
standard streams and the clock of the machine. A failing request ends with
status 1, a command line that is no request with status 2.
-/

namespace CellPreview
namespace Command

/-- One line for each command. -/
def summary : Text :=
  Text.joined ['\n']
    ["cf-preview: validate, format and preview column formatting JSON",
      "",
      "  validate INPUT                check a document",
      "  format INPUT [--minify]       write a document in another way",
      "  render INPUT [-t TEMPLATE] [-s SAMPLE]... [--now MILLIS] [-o html|json]",
      "  templates                     list the profiles",
      "  template NAME                 write the document of a profile",
      "",
      "Options of all commands: -c, --config FILE and -v, --verbose",
      ""]

/-- Whether a command line only asks for information, which is no error. -/
def Usage.isQuestion : Usage -> Bool
  | .help => true
  | .version => true
  | _ => false

/-- What is written for a command line that is no request. -/
def Usage.message : Usage -> Text
  | .help => summary
  | .version => "cf-preview 0.1.0\n"
  | .nothingGiven => summary
  | .missingCommand => "error: a command is missing\n"
  | .unknownCommand => "error: unknown command\n"
  | .unknownArgument => "error: unknown argument\n"
  | .missingArgument => "error: an argument is missing\n"
  | .invalidValue => "error: invalid value\n"
  | .unreadableValue => "error: invalid number\n"
  | .unwantedValue => "error: unexpected value\n"
  | .repeatedOption => "error: an option is given twice\n"

end Command

namespace CommandLine

/-- Why a file could not be read. A path through a file is refused on opening
it, with its name, and a folder only on reading it. -/
def readFaultOf : IO.Error -> ReadFault
  | .noFileOrDirectory .. => .missing
  | .inappropriateType (some _) _ _ => .notFolder
  | .inappropriateType none _ _ => .folder
  | error => .other (toString error)

/-- All bytes that follow in a stream, after those that have been read. -/
partial def restOf (stream : IO.FS.Stream) (before : ByteArray) :
    IO ByteArray := do
  let bytes <- stream.read 65536
  if bytes.isEmpty then return before
  else restOf stream (before ++ bytes)

/-- The bytes of a source. -/
def bytesOf : Command.Source -> IO ByteArray
  | .input => do restOf (<- IO.getStdin) ByteArray.empty
  | .file path => IO.FS.readBinFile (String.ofList path)

/-- The text of a source. -/
def textOf (source : Command.Source) : IO (Except ReadFault Text) := do
  try
    return Folder.textOf (<- bytesOf source)
  catch error =>
    return .error (readFaultOf error)

/-- Write a text to a stream. -/
def emit (stream : IO.FS.Stream) (text : Text) : IO Unit :=
  stream.putStr (String.ofList text)

/-- Tell the notices of a level that is shown. -/
def tell (level : Level) (notices : List Notice) : IO Unit := do
  let stream <- IO.getStderr
  for notice in notices do
    if level.shows notice.level then emit stream (notice.line ++ ['\n'])

/-- Milliseconds since the start of 1970. -/
def clock : IO Int := do
  return (<- Std.Time.Timestamp.now).toMillisecondsSinceUnixEpoch.val

/-- Carry a job out. -/
def carryOut (level : Level) : Command.Job Unit -> IO UInt32
  | .done () => return 0
  | .fail failure => do
      emit (<- IO.getStderr) (failure.message ++ ['\n'])
      return 1
  | .write text next => do
      emit (<- IO.getStdout) text
      carryOut level next
  | .tell notices next => do
      tell level notices
      carryOut level next
  | .read source next => do carryOut level (next (<- textOf source))
  | .clock next => do carryOut level (next (<- clock))

/-- Carry the request of a command line out. -/
def carryOutLine (words : List Text) : IO UInt32 := do
  match Command.read words with
  | .ok request => carryOut request.level request.job
  | .error usage =>
      if usage.isQuestion then
        emit (<- IO.getStdout) usage.message
        return 0
      else
        emit (<- IO.getStderr) usage.message
        return 2

end CommandLine
end CellPreview

/-- Carry the request of the command line out. -/
def main (words : List String) : IO UInt32 :=
  CellPreview.CommandLine.carryOutLine (words.map String.toList)
