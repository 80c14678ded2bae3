import MalLint.Diagnostic
import MalLint.Instruction
import MalLint.Line
import MalLint.Spelling

/-! The checks of a single line. Each looks at the line on its own and finds at most one problem. -/
namespace MalLint

/-- Where a line comes from. Findings have a location only if the line is numbered. -/
structure Origin where
  file : String := "<input>"
  line : Option Int := none
  deriving DecidableEq, Repr

/-- The location of a column of the line. -/
def Origin.at (origin : Origin) (column : Nat) : Option Location :=
  origin.line.map fun line => ⟨origin.file, line, column⟩

namespace LineCheck

open Text

/-- The label must be the first token, have at most five characters, and hold letters only; the
first rule it breaks is reported. An empty label breaks none. -/
def label (origin : Origin) (line : String) : Option Diagnostic :=
  match Line.beforeColon? line.toList with
  | none => none
  | some candidate =>
    let text := String.ofList candidate
    let problem (message : String) : Option Diagnostic :=
      some ⟨.illFormedLabel, message, origin.at 1, some text, none⟩
    if candidate.any isBlank then
      problem ("ill-formed label - label cannot contain spaces and must be " ++
        "the first token on the line")
    else if Operand.identifierLimit < candidate.length then
      problem s!"ill-formed label '{text}' - label is more than 5 characters long"
    else if candidate.any (!isLetter ·) then
      problem s!"ill-formed label '{text}' - label must be composed of letters only"
    else
      none

/-- The opcode must be known. A known opcode one edit away is suggested. -/
def opcode (alphabet : String) (origin : Origin) (line : String) : Option Diagnostic :=
  match (Line.split line).opcode with
  | none => none
  | some opcode =>
    if Instruction.isMnemonic opcode.text then
      none
    else
      let suggestion := Spelling.suggest alphabet Instruction.mnemonics opcode.text
      let hint :=
        match suggestion with
        | some known => s!" - did you mean '{known}'?"
        | none => ""
      some ⟨.invalidOpcode, s!"invalid opcode '{opcode.text}'" ++ hint, origin.at opcode.column,
        some opcode.text, suggestion⟩

/-- Every operand must be a register, an octal number or an identifier; the first that is not is
reported. -/
def form (origin : Origin) (line : String) : Option Diagnostic :=
  ((Line.split line).operands.find? (!Operand.isWellFormed ·.text)).map fun operand =>
    ⟨.illFormedOperand, s!"ill-formed operand '{operand.text}' - an operand has to be a " ++
      "valid register, valid octal number, or valid identifier", origin.at operand.column,
      some operand.text, none⟩

/-- How many operands an instruction requires, in words. -/
def required (i : Instruction) : String :=
  s!"{i.mnemonic} requires {i.arity} " ++ (if i.arity = 1 then "operand" else "operands")

/-- The rejected operands of a line: each failing position, counted from 1, with the text that
stands there. -/
def rejected (operands : List String) (failing : List Nat) : String :=
  (if failing.length = 1 then "rejected operand " else "rejected operands ") ++
    ", ".intercalate (failing.map fun n => s!"{n} ('{operands.getD (n - 1) default}')")

/-- The operands must be as many as the instruction takes and, if they are, meet its constraints.
All positions that fail are reported together. An unknown opcode is left to the check of opcodes. -/
def arity (origin : Origin) (line : String) : Option Diagnostic :=
  let parts := Line.split line
  match parts.opcode with
  | none => none
  | some opcode =>
    match Instruction.find? opcode.text with
    | none => none
    | some i =>
      match parts.operands[i.arity]? with
      | some extra =>
        some ⟨.tooManyOperands, s!"too many operands. {required i}", origin.at extra.column,
          some i.mnemonic, none⟩
      | none =>
        if parts.operands.length < i.arity then
          some ⟨.tooFewOperands, s!"too few operands. {required i}", origin.at opcode.column,
            some i.mnemonic, none⟩
        else
          match i.failing parts.operandTexts with
          | [] => none
          | first :: others =>
            some ⟨.invalidOperandType, s!"invalid operand type - {i.requirements}; " ++
              rejected parts.operandTexts (first :: others),
              (parts.operands[first - 1]?).bind (origin.at ·.column), some i.mnemonic, none⟩

/-- The identifiers among the operands of a line, in order. The target of a branch is a label and
no identifier. -/
def identifiers (line : String) : List String :=
  let parts := Line.split line
  let target := parts.opcode.bind (Instruction.branchTarget? ·.text)
  ((parts.operandTexts.zipIdx).filter fun (text, index) =>
    some index ≠ target && Operand.isIdentifier text).map (·.1)

end LineCheck

end MalLint
