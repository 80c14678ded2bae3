import MalLint.Text.Ranges

/-! Where a text is cut into lines. -/
namespace MalLint.Text

/-- The code points that end a line. -/
def lineBreakRanges : List (Nat × Nat) :=
  [(0xA, 0xD), (0x1C, 0x1E), (0x85, 0x85), (0x2028, 0x2029)]

/-- Whether the character ends a line. -/
def isLineBreak (c : Char) : Bool :=
  inRanges c.toNat lineBreakRanges

/-- The lines of a text without their ends. A carriage return and the line feed after it end one
line together. Text after the last break is a line only if it is not empty. -/
def splitLines : List Char → List (List Char)
  | [] => []
  | '\r' :: '\n' :: rest => [] :: splitLines rest
  | c :: rest =>
    if isLineBreak c then
      [] :: splitLines rest
    else
      match splitLines rest with
      | [] => [[c]]
      | line :: lines => (c :: line) :: lines

end MalLint.Text
