import MalLint.Distinct
import MalLint.Operand

/-! The instruction set: every opcode with what it asks of each operand. -/
namespace MalLint

/-- What an instruction asks of one operand. -/
inductive Constraint where
  | sourceOrDestination
  | octal
  | label
  deriving DecidableEq, Repr

namespace Constraint

/-- Every constraint. -/
def all : List Constraint :=
  [.sourceOrDestination, .octal, .label]

/-- The words that describe an operand which meets the constraint. -/
def description : Constraint → String
  | .sourceOrDestination => "a valid source or destination"
  | .octal => "a number in octal form"
  | .label => "a valid label"

/-- Whether an operand meets the constraint. -/
def accepts : Constraint → String → Bool
  | .sourceOrDestination => Operand.isSourceOrDestination
  | .octal => Operand.isOctal
  | .label => Operand.isLabel

end Constraint

/-- An opcode and the constraints of its operands, in operand order. -/
structure Instruction where
  mnemonic : String
  operands : List Constraint
  deriving DecidableEq, Repr

namespace Instruction

/-- How many operands the instruction takes. -/
def arity (i : Instruction) : Nat :=
  i.operands.length

/-- The position of the first label among the operands, counted from 0. -/
def targetIndex? (i : Instruction) : Option Nat :=
  i.operands.findIdx? (· = .label)

/-- The positions, counted from 1, whose operand breaks its constraint. Positions that only one of
the two lists has are left out. -/
def failing (i : Instruction) (operands : List String) : List Nat :=
  (((i.operands.zip operands).zipIdx 1).filter (fun ((c, text), _) => !c.accepts text)).map (·.2)

/-- The positions, counted from 1, at which a constraint stands. -/
def positions (i : Instruction) (c : Constraint) : List Nat :=
  ((i.operands.zipIdx 1).filter (·.1 = c)).map (·.2)

/-- Two or more numbers in a sentence: `1, 2 and 3`. -/
def joinNumbers (numbers : List Nat) : String :=
  ", ".intercalate (numbers.dropLast.map toString) ++ " and " ++
    ((numbers.getLast?).map toString).getD ""

/-- What is asked of the operands at some positions. -/
def clause (c : Constraint) : List Nat → String
  | [position] => s!"operand {position} to be {c.description}"
  | positions => s!"operands {joinNumbers positions} to each be {c.description}"

/-- What the instruction asks of its operands, in one sentence. Positions with the same constraint
are named together, in the order in which the constraints first appear. -/
def requirements (i : Instruction) : String :=
  if i.operands.isEmpty then
    s!"{i.mnemonic} takes no operands"
  else
    s!"{i.mnemonic} requires " ++
      " and ".intercalate ((distinct i.operands).map (fun c => clause c (i.positions c)))

/-- The instruction set. -/
def table : List Instruction :=
  [⟨"MOVE", [.sourceOrDestination, .sourceOrDestination]⟩,
   ⟨"MOVEI", [.octal, .sourceOrDestination]⟩,
   ⟨"ADD", [.sourceOrDestination, .sourceOrDestination, .sourceOrDestination]⟩,
   ⟨"SUB", [.sourceOrDestination, .sourceOrDestination, .sourceOrDestination]⟩,
   ⟨"MUL", [.sourceOrDestination, .sourceOrDestination, .sourceOrDestination]⟩,
   ⟨"DIV", [.sourceOrDestination, .sourceOrDestination, .sourceOrDestination]⟩,
   ⟨"INC", [.sourceOrDestination]⟩,
   ⟨"DEC", [.sourceOrDestination]⟩,
   ⟨"BEQ", [.sourceOrDestination, .sourceOrDestination, .label]⟩,
   ⟨"BLT", [.sourceOrDestination, .sourceOrDestination, .label]⟩,
   ⟨"BGT", [.sourceOrDestination, .sourceOrDestination, .label]⟩,
   ⟨"BR", [.label]⟩,
   ⟨"END", []⟩]

/-- The opcodes, in table order. -/
def mnemonics : List String :=
  table.map (·.mnemonic)

/-- The opcode that ends a program. -/
def endMnemonic : String :=
  "END"

/-- The instruction with a given opcode; case counts. -/
def find? (mnemonic : String) : Option Instruction :=
  table.find? (·.mnemonic == mnemonic)

/-- Whether the text is an opcode. -/
def isMnemonic (text : String) : Bool :=
  (find? text).isSome

/-- The opcodes that branch: those with a label among their operands. -/
def branches : List String :=
  (table.filter (·.targetIndex?.isSome)).map (·.mnemonic)

/-- The position, counted from 0, of the branch target of an opcode that branches. -/
def branchTarget? (mnemonic : String) : Option Nat :=
  (find? mnemonic).bind (·.targetIndex?)

end Instruction

end MalLint
