import MalLint.Access
import MalLint.Diagnostic
import MalLint.Path
import MalLint.Settings
import MalLint.Text.ControlSequence

/-! How a run can fail, what it then says, and the status it ends with. -/
namespace MalLint

/-- The status that a run ends with. -/
inductive ExitStatus where
  /-- The program is valid. -/
  | success
  /-- The program has errors, or its report could not be written. -/
  | checkFailed
  /-- The arguments are wrong, or the source cannot be read. -/
  | invalidArguments
  /-- Something happened that was not thought of. -/
  | internalError
  deriving DecidableEq, Repr

/-- The number of a status. -/
def ExitStatus.code : ExitStatus → Nat
  | .success => 0
  | .checkFailed => 1
  | .invalidArguments => 2
  | .internalError => 3

/-- What is wrong, where, and how it can be mended. -/
structure Complaint where
  message : String
  location : Option Location := none
  hint : Option String := none
  deriving DecidableEq, Repr

/-- A complaint as a text; an empty hint is left out. -/
def Complaint.render (c : Complaint) : String :=
  let opening :=
    match c.location with
    | some location => s!"{location.render}: error: {c.message}"
    | none => s!"error: {c.message}"
  match c.hint.filter (· ≠ "") with
  | some hint => s!"{opening}\nhint: {hint}"
  | none => opening

/-- Why a run fails. -/
inductive Failure where
  /-- A complaint of the checker of no special kind. -/
  | general (c : Complaint)
  /-- The settings are refused. -/
  | settings (c : Complaint)
  /-- The source cannot be read. -/
  | unreadable (path reason : String)
  /-- The report cannot be written. -/
  | unwritable (path reason : String)
  /-- An argument is refused. -/
  | badArgument (text : String)
  /-- A file is missing or closed to the user. -/
  | inaccessible (text : String)
  /-- A path cannot be changed as asked. -/
  | badPath (e : Path.Error)
  /-- It cannot be told what a text names. -/
  | unanswered (e : AccessError) (text : String)
  /-- Anything else. -/
  | unexpected (text : String)
  deriving DecidableEq, Repr

/-- Refused settings end a run. -/
def SettingsError.failure (e : SettingsError) : Failure :=
  .settings { message := e.message, hint := e.hint }

namespace Failure

/-- The complaint about a source that cannot be read. -/
def readComplaint (path reason : String) : Complaint :=
  { message := s!"cannot read '{path}': {reason}" }

/-- The complaint about a report that cannot be written. -/
def writeComplaint (path reason : String) : Complaint :=
  { message := s!"cannot write report '{path}': {reason}"
    hint := some "check that the output directory exists and is writable" }

/-- The complaint behind a failure that the checker itself raises. -/
def complaint? : Failure → Option Complaint
  | .general c | .settings c => some c
  | .unreadable path reason => some (readComplaint path reason)
  | .unwritable path reason => some (writeComplaint path reason)
  | _ => none

/-- A failure as a text. -/
def render : Failure → String
  | .general c | .settings c => c.render
  | .unreadable path reason => (readComplaint path reason).render
  | .unwritable path reason => (writeComplaint path reason).render
  | .badArgument text | .inaccessible text | .unexpected text => text
  | .badPath e => e.message
  | .unanswered e text => e.message text

/-- The status that a failure ends a run with. -/
def status : Failure → ExitStatus
  | .general _ | .settings _ | .unwritable _ _ => .checkFailed
  | .unreadable _ _ | .badArgument _ | .inaccessible _ => .invalidArguments
  | .badPath _ | .unanswered _ _ | .unexpected _ => .internalError

/-- What a failed run prints. A failure that was not thought of is followed, if details are asked
for, by the line that stands for an absent trace. -/
def report (verbose : Bool) (f : Failure) : String :=
  match f.status with
  | .internalError =>
    Text.ControlSequence.strip s!"Internal error: {f.render}\n" ++
      (if verbose then "NoneType: None\n" else "")
  | _ => Text.ControlSequence.strip s!"Error: {f.render}\n"

end Failure

end MalLint
