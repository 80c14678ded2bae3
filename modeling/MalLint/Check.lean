import MalLint.Findings
import MalLint.LineCheck
import MalLint.Log
import MalLint.Settings
import MalLint.Wiring

/-! Checking a program: each line on its own, then the labels and END of the whole. -/
namespace MalLint

/-- The findings about one line: label, opcode, form of the operands, their number and types. -/
def checkLine (settings : Settings) (file : String) (line : ProgramLine) : List Diagnostic :=
  let origin : Origin := ⟨file, some line.number⟩
  [LineCheck.label origin line.text,
   LineCheck.opcode settings.alphabet origin line.text,
   LineCheck.form origin line.text,
   LineCheck.arity origin line.text].filterMap id

/-- The findings about a program. -/
def Program.check (settings : Settings) (program : Program) : Findings :=
  { program
    lines := program.lines.map fun line => ⟨line, checkLine settings program.file line⟩
    wiring := Wiring.check program
    ending := EndPlacement.check settings.endDuplicates program
    identifiers := distinctWords id (program.lines.flatMap (LineCheck.identifiers ·.text)) }

/-- The findings about a source text. -/
def checkSource (settings : Settings) (source : String) (file : String := "<input>") : Findings :=
  (Program.ofSource source file).check settings

namespace Findings

/-- The message about a line with problems. -/
def lineLog (findings : Findings) (entry : LineFindings) : LogRecord :=
  ⟨.debug, s!"{findings.program.file}:{entry.line.number}: {entry.diagnostics.length} " ++
    s!"problem(s) in {Text.quote entry.line.text}"⟩

/-- The message about labels. -/
def wiringLog (findings : Findings) : LogRecord :=
  ⟨.debug, s!"Label wiring: {(LabelTable.ofProgram findings.program).declared.length} labels " ++
    s!"declared, {findings.wiring.length} problem(s)"⟩

/-- The message about END. -/
def endLog (findings : Findings) : LogRecord :=
  match findings.program.ends.length with
  | 0 => ⟨.debug, "END placement: no END instruction"⟩
  | n => ⟨.debug, s!"END placement: {n} END(s), {findings.ending.length} warning(s)"⟩

/-- The message that sums up a check. -/
def summaryLog (findings : Findings) : LogRecord :=
  ⟨.info, s!"Checked {findings.program.file}: {findings.program.lines.length} lines, " ++
    s!"{findings.tally.errors} error(s), {findings.tally.warnings} warning(s)"⟩

/-- The messages of a check, in order. -/
def log (findings : Findings) : List LogRecord :=
  (findings.lines.filter (!·.diagnostics.isEmpty)).map findings.lineLog ++
    [findings.wiringLog, findings.endLog, findings.summaryLog]

end Findings

end MalLint
