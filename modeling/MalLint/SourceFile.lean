import MalLint.Check
import MalLint.Failure
import MalLint.FileTree
import MalLint.Report
import MalLint.Text.Utf8

/-! Files of a run: finding the source, reading and checking it, and writing the report. -/
namespace MalLint

/-- A fault in the bytes of a file, as it is told. -/
def Text.Utf8.Fault.message (fault : Text.Utf8.Fault) : String :=
  let what :=
    match fault.bytes with
    | [b] => s!"byte 0x{String.ofList (Text.hex 2 b.toNat)} in position {fault.position}"
    | bytes => s!"bytes in position {fault.position}-{fault.position + bytes.length - 1}"
  let why :=
    match fault.reason with
    | .invalidStart => "invalid start byte"
    | .invalidContinuation => "invalid continuation byte"
    | .unexpectedEnd => "unexpected end of data"
  s!"'utf-8' codec can't decode {what}: {why}"

namespace FileTree

/-- The text of a source file, with its line ends made one kind. -/
def readSource (tree : FileTree) (path : Path) : Except Failure String :=
  match tree.read path.render with
  | .error .nullCharacter => .error (.unanswered .nullCharacter path.render)
  | .error e => .error (.unreadable path.render (e.message path.render))
  | .ok bytes =>
    match Text.Utf8.decode bytes with
    | .error fault => .error (.unreadable path.render fault.message)
    | .ok text => .ok (String.ofList (Text.Utf8.unifyLineEnds text))

/-- The findings about a source file, under the name of its path. -/
def checkFile (tree : FileTree) (settings : Settings) (path : Path) : Except Failure Findings :=
  (tree.readSource path).map fun source => checkSource settings source path.render

/-- The file that a path means: the path itself or, if its name has no suffix, the file beside it
whose name has the given suffix added. -/
def resolveSource (tree : FileTree) (path : Path) (suffix : String) : Except Failure Path :=
  match tree.isFile path.render with
  | .error e => .error (.unanswered e path.render)
  | .ok true => .ok path
  | .ok false =>
    if path.name ≠ "" ∧ path.suffix = "" then
      match path.withName (path.name ++ suffix) with
      | .error e => .error (.badPath e)
      | .ok sibling =>
        match tree.isFile sibling.render with
        | .error e => .error (.unanswered e sibling.render)
        | .ok true => .ok sibling
        | .ok false => .error (.badArgument s!"the file {path.render} does not exist")
    else
      .error (.badArgument s!"the file {path.render} does not exist")

end FileTree

namespace Report

/-- Where the report on a source goes if nothing else is asked for: beside the source, under its
name with another suffix. -/
def defaultPath (settings : Settings) (source : Path) : Except Path.Error Path :=
  source.withSuffix settings.reportSuffix

/-- The text of a report that is to be written to a path. -/
def textFor (settings : Settings) (today : Date) (findings : Findings) (path : Path) : String :=
  text settings today findings path.render

/-- The tree after a report is written to a path. -/
def write (settings : Settings) (today : Date) (findings : Findings) (path : Path)
    (tree : FileTree) : Except Failure FileTree :=
  let bytes := Text.Utf8.encode (textFor settings today findings path).toList
  match tree.write path.render bytes with
  | .ok after => .ok after
  | .error .nullCharacter => .error (.unanswered .nullCharacter path.render)
  | .error e => .error (.unwritable path.render (e.message path.render))

/-- The message about a report that was written. -/
def writeLog (settings : Settings) (today : Date) (findings : Findings) (path : Path) : LogRecord :=
  ⟨.debug, s!"Wrote report to {path.render} " ++
    s!"({(textFor settings today findings path).length} characters)"⟩

end Report

end MalLint
