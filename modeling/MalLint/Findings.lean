import MalLint.Program
import MalLint.Tally

/-! What a check of a program finds. -/
namespace MalLint

/-- The findings about one line, in the order of the checks. -/
structure LineFindings where
  line : ProgramLine
  diagnostics : List Diagnostic
  deriving DecidableEq, Repr

/-- All that was found in a program. -/
structure Findings where
  program : Program
  /-- One entry for each line of the program. -/
  lines : List LineFindings
  /-- The findings about labels. -/
  wiring : List Diagnostic
  /-- The findings about END. -/
  ending : List Diagnostic
  /-- The identifiers in use, each once, in the order of first use. -/
  identifiers : List String
  deriving DecidableEq, Repr

namespace Findings

/-- The findings about the program as a whole. -/
def wide (findings : Findings) : List Diagnostic :=
  findings.wiring ++ findings.ending

/-- Every finding, in report order. -/
def diagnostics (findings : Findings) : List Diagnostic :=
  findings.lines.flatMap (·.diagnostics) ++ findings.wide

/-- The findings counted by category. -/
def tally (findings : Findings) : Tally :=
  Tally.ofList findings.diagnostics

/-- Whether no error was found. -/
def isValid (findings : Findings) : Bool :=
  !findings.diagnostics.any (·.isError)

end Findings

end MalLint
