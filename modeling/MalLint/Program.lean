import MalLint.Diagnostic
import MalLint.Line
import MalLint.Text.LineBreak

/-! A program: its lines of code in order, and the tokens that they hold. -/
namespace MalLint

/-- What a token is on its line. -/
inductive Role where
  | label
  | opcode
  | operand
  deriving DecidableEq, Repr

/-- A token of a program and where it stands. -/
structure ProgramToken where
  role : Role
  /-- The text; a label has no colon. -/
  text : String
  line : Int
  column : Nat
  deriving DecidableEq, Repr

/-- A line of code and its number. -/
structure ProgramLine where
  number : Int
  text : String
  deriving DecidableEq, Repr

/-- The parts of a line of code. -/
def ProgramLine.parts (line : ProgramLine) : Line.Parts :=
  Line.split line.text

/-- The tokens of a line: the label, the opcode, then the operands. -/
def ProgramLine.tokens (line : ProgramLine) : List ProgramToken :=
  let parts := line.parts
  let place (role : Role) (token : Token) : ProgramToken :=
    ⟨role, token.text, line.number, token.column⟩
  parts.label.toList.map (place .label) ++ parts.opcode.toList.map (place .opcode) ++
    parts.operands.map (place .operand)

/-- Lines of code under the name of the source they come from. -/
structure Program where
  lines : List ProgramLine
  file : String := "<input>"
  deriving DecidableEq, Repr

namespace Program

/-- The program that a source text holds. Comments and outer blanks are removed, and lines with
nothing left are dropped; the others keep the number that they have in the text. -/
def ofSource (source : String) (file : String := "<input>") : Program :=
  let lines := ((Text.splitLines source.toList).zipIdx 1).filterMap fun (raw, number) =>
    let text := Line.clean raw
    if text = [] then none else some ⟨number, String.ofList text⟩
  ⟨lines, file⟩

/-- The program made of given lines, taken as they are. A line without a number gets its place in
the list, counted from 1. -/
def ofLines (lines : List (Option Int × String)) (file : String := "<input>") : Program :=
  ⟨(lines.zipIdx 1).map fun ((number, text), index) => ⟨number.getD index, text⟩, file⟩

/-- All tokens of the program, in order. -/
def tokens (program : Program) : List ProgramToken :=
  program.lines.flatMap (·.tokens)

/-- The location of a token of the program. -/
def locate (program : Program) (token : ProgramToken) : Location :=
  ⟨program.file, token.line, token.column⟩

end Program

end MalLint
