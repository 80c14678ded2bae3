import MalLint.Instruction
import MalLint.Program

/-! Where END stands: it should appear once, as the last token of the program. -/
namespace MalLint

/-- How repeated ENDs are reported. -/
inductive EndPolicy where
  /-- Each END after the first is reported. -/
  | every
  /-- An END that repeats an earlier one and is the last token replaces all that was reported
  before it. -/
  | legacy
  deriving DecidableEq, Repr

namespace EndPolicy

/-- Both policies. -/
def all : List EndPolicy :=
  [.every, .legacy]

/-- The word for a policy. -/
def name : EndPolicy → String
  | .every => "every"
  | .legacy => "legacy"

/-- The policy with a given word; upper and lower case of the letters A to Z are the same. No other
letter has a lower case within the two words. -/
def ofName? (text : String) : Option EndPolicy :=
  all.find? (·.name.toList == text.toList.map Char.toLower)

end EndPolicy

/-- The END opcodes of a program, each with its index among the tokens. An operand or a label that
is spelled END does not count. -/
def Program.ends (program : Program) : List (ProgramToken × Nat) :=
  program.tokens.zipIdx.filter fun (token, _) =>
    token.role = .opcode && token.text == Instruction.endMnemonic

namespace EndPlacement

/-- The warning about a program without END. -/
def missing : Diagnostic :=
  { category := .endMissing
    message := "this program does not contain the END instruction at all" }

/-- The warning about an END that other tokens follow. -/
def notLast (program : Program) (token : ProgramToken) : Diagnostic :=
  ⟨.endNotLast, "the END opcode is not the last instruction for this program",
    some (program.locate token), some Instruction.endMnemonic, none⟩

/-- The warning about an END that repeats an earlier one. -/
def duplicated (program : Program) (token : ProgramToken) : Diagnostic :=
  ⟨.endDuplicated, "the END opcode appears more than once",
    some (program.locate token), some Instruction.endMnemonic, none⟩

/-- The findings about END. -/
def check (policy : EndPolicy) (program : Program) : List Diagnostic :=
  let isLast (index : Nat) : Bool := index + 1 = program.tokens.length
  match program.ends with
  | [] => [missing]
  | (first, index) :: later =>
    let all := (if isLast index then [] else [notLast program first]) ++
      later.map fun (token, _) => duplicated program token
    match policy, later.getLast? with
    | .legacy, some (last, lastIndex) =>
      if isLast lastIndex then [duplicated program last] else all
    | _, _ => all

end EndPlacement

end MalLint
