import MalLint.Distinct
import MalLint.Instruction
import MalLint.Program

/-! Labels and branches. A declared label should be mentioned somewhere, and the target of a branch
must be declared; declarations may follow their uses. -/
namespace MalLint

/-- The labels that a program declares, and all else that it mentions. -/
structure LabelTable where
  /-- The first declaration of each label, in order. -/
  declared : List ProgramToken
  /-- The opcodes and operands, in order. -/
  references : List ProgramToken
  deriving DecidableEq, Repr

namespace LabelTable

/-- The label table of a program. -/
def ofProgram (program : Program) : LabelTable :=
  ⟨distinctWords (·.text) (program.tokens.filter (·.role = .label)),
   program.tokens.filter (·.role ≠ .label)⟩

/-- The names of the labels that the program declares. -/
def declaredNames (table : LabelTable) : List String :=
  table.declared.map (·.text)

/-- The names mentioned outside of declarations; one colon at the end of a mention is dropped. -/
def referencedNames (table : LabelTable) : List String :=
  distinctWords id (table.references.map (Operand.stripColon ·.text))

end LabelTable

namespace Wiring

/-- The target of a line that branches, if it has an operand in that position. -/
def branchTarget? (line : ProgramLine) : Option Token := do
  let parts := line.parts
  let opcode ← parts.opcode
  let index ← Instruction.branchTarget? opcode.text
  parts.operands[index]?

/-- A warning for each well-formed label that nothing mentions, in order of declaration. -/
def unreferenced (program : Program) : List Diagnostic :=
  let table := LabelTable.ofProgram program
  let names := WordSet.ofList table.referencedNames
  (table.declared.filter fun token =>
    Operand.isIdentifier token.text && !names.contains token.text).map fun token =>
      ⟨.unreferencedLabel, s!"the label '{token.text}' is not being branched to",
        some (program.locate token), some token.text, none⟩

/-- An error for each branch to a well-formed name that no line declares, in line order. Targets
that are no names are left to the checks of the line. -/
def dangling (program : Program) : List Diagnostic :=
  let names := WordSet.ofList (LabelTable.ofProgram program).declaredNames
  program.lines.filterMap fun line => do
    let target ← branchTarget? line
    let name := Operand.stripColon target.text
    if Operand.isIdentifier name && !names.contains name then
      some ⟨.danglingBranchTarget, s!"the token '{name}' has no label to branch to",
        some ⟨program.file, line.number, target.column⟩, some name, none⟩
    else
      none

/-- The findings about labels: unmentioned ones first, then branches to nowhere. -/
def check (program : Program) : List Diagnostic :=
  unreferenced program ++ dangling program

end Wiring

end MalLint
