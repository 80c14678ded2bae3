/-! Control sequences, which colour the text of a terminal or move its cursor: an escape, a bracket,
any parameters, any intermediates, and a final character. They are taken out of what is printed
elsewhere. -/
namespace MalLint.Text.ControlSequence

/-- The characters that give numbers and what stands between them. -/
def isParameter (c : Char) : Bool :=
  '0' ≤ c && c ≤ '?'

/-- The characters that may come between the parameters and the final character. -/
def isIntermediate (c : Char) : Bool :=
  ' ' ≤ c && c ≤ '/'

/-- The characters that end a sequence. No character is of two kinds, so a sequence can be read in
one way only. -/
def isFinal (c : Char) : Bool :=
  '@' ≤ c && c ≤ '~'

/-- How many characters after an escape belong to a sequence, if one starts there. -/
def length? : List Char → Option Nat
  | '[' :: rest =>
    let parameters := rest.takeWhile isParameter
    let rest := rest.dropWhile isParameter
    let intermediates := rest.takeWhile isIntermediate
    match rest.dropWhile isIntermediate with
    | c :: _ => if isFinal c then some (parameters.length + intermediates.length + 2) else none
    | [] => none
  | _ => none

/-- The text without the sequences; the first `skip` characters are passed over. -/
def stripFrom : Nat → List Char → List Char
  | _, [] => []
  | skip + 1, _ :: rest => stripFrom skip rest
  | 0, c :: rest =>
    if c = '\x1b' then
      match length? rest with
      | some length => stripFrom length rest
      | none => c :: stripFrom 0 rest
    else
      c :: stripFrom 0 rest

/-- The text without control sequences. -/
def strip (text : String) : String :=
  String.ofList (stripFrom 0 text.toList)

end MalLint.Text.ControlSequence
