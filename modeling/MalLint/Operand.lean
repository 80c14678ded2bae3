import MalLint.Text.Letter

/-! What an operand can be. The kinds are tested each on its own: a text may be of one kind or of
none. -/
namespace MalLint.Operand

/-- The eight registers. -/
def registers : List String :=
  ["R0", "R1", "R2", "R3", "R4", "R5", "R6", "R7"]

/-- The greatest length of an identifier. -/
def identifierLimit : Nat :=
  5

/-- Whether the text names a register; lower case does not. -/
def isRegister (text : String) : Bool :=
  registers.contains text

/-- Whether the character is one of the digits 0 to 7. -/
def isOctalDigit (c : Char) : Bool :=
  '0' ≤ c && c ≤ '7'

/-- Whether the text is a number in octal digits. -/
def isOctal (text : String) : Bool :=
  !text.toList.isEmpty && text.toList.all isOctalDigit

/-- Whether the text is an identifier: one to five letters. -/
def isIdentifier (text : String) : Bool :=
  !text.toList.isEmpty && text.toList.all Text.isLetter && text.toList.length ≤ identifierLimit

/-- Whether a value can be read from or stored to what the text names. -/
def isSourceOrDestination (text : String) : Bool :=
  isRegister text || isIdentifier text

/-- The text without one colon at its end. -/
def stripColon (text : String) : String :=
  if text.toList.getLast? = some ':' then String.ofList text.toList.dropLast else text

/-- Whether the text names a label to branch to; one colon at its end is let pass. -/
def isLabel (text : String) : Bool :=
  isIdentifier (stripColon text)

/-- The kinds of operands. -/
inductive Kind where
  | register
  | octal
  | identifier
  deriving DecidableEq, Repr

namespace Kind

/-- Every kind. -/
def all : List Kind :=
  [.register, .octal, .identifier]

/-- The words for a kind. -/
def name : Kind → String
  | .register => "register"
  | .octal => "octal immediate"
  | .identifier => "identifier"

/-- Whether a text is of a kind. -/
def holds : Kind → String → Bool
  | .register => isRegister
  | .octal => isOctal
  | .identifier => isIdentifier

end Kind

/-- Every kind that a text is of. -/
def kinds (text : String) : List Kind :=
  Kind.all.filter (·.holds text)

/-- Whether a text is of some kind. -/
def isWellFormed (text : String) : Bool :=
  !(kinds text).isEmpty

end MalLint.Operand
