import MalLint.Date
import MalLint.Text.Capital

/-! Patterns by which dates are written. A pattern is cut into characters that stand for themselves
and fields, which a percent sign opens. A field may ask for another filling, for another case and
for a least width. The time of day is midnight, and no time zone is known. -/
namespace MalLint

/-- What stands before a number to make it as wide as it should be. -/
inductive Filling where
  | zeros
  | blanks
  | nothing
  deriving DecidableEq, Repr

/-- A request for another way of writing a field. It changes nothing, but not every field can be
asked for it. -/
inductive Variant where
  /-- Another reckoning of years. -/
  | era
  /-- Other digits or other names of months. -/
  | digits
  deriving DecidableEq, Repr

/-- A field of a pattern: a percent sign, flags, a least width, a variant and a letter. -/
structure DateField where
  /-- The flags, as written. -/
  flags : List Char
  width : Nat
  variant : Option Variant
  /-- The letter, unless the pattern ends before it. -/
  letter : Option Char
  /-- The whole field, as written. -/
  source : List Char
  deriving DecidableEq, Repr

/-- What a field stands for. -/
inductive DateValue where
  /-- A number of at least so many places. -/
  | number (places : Nat) (usual : Filling) (value : Nat)
  | text (chars : List Char)
  /-- Nothing, however wide the field should be. -/
  | absent
  deriving DecidableEq, Repr

namespace Date

/-- A number in decimal digits, filled with zeros to `width` places. -/
def padded (width n : Nat) : List Char :=
  let digits := Nat.toDigits 10 n
  List.replicate (width - digits.length) '0' ++ digits

/-- A number in decimal digits, with a dash before a negative one. -/
def signed (n : Int) : List Char :=
  if n < 0 then '-' :: Nat.toDigits 10 n.natAbs else Nat.toDigits 10 n.natAbs

/-- Month, day and the year within the century, between slashes. -/
def slashed (d : Date) : List Char :=
  padded 2 d.month ++ '/' :: padded 2 d.day ++ '/' :: padded 2 (d.year % 100)

/-- Year, month and day, between dashes. -/
def dashed (d : Date) : List Char :=
  Nat.toDigits 10 d.year ++ '-' :: padded 2 d.month ++ '-' :: padded 2 d.day

/-- Day of the week, month, day, time of day and year. -/
def long (d : Date) : List Char :=
  let blank := if d.day < 10 then [' '] else []
  d.weekdayName.take 3 ++ ' ' :: d.monthName.take 3 ++ ' ' :: blank ++ Nat.toDigits 10 d.day ++
    " 00:00:00 ".toList ++ Nat.toDigits 10 d.year

end Date

namespace DateField

/-- Whether a character is a flag of a field. -/
def isFlag (c : Char) : Bool :=
  ['_', '-', '0', '^', '#'].contains c

/-- The filling that a flag asks for. -/
def fillingOf? : Char → Option Filling
  | '0' => some .zeros
  | '_' => some .blanks
  | '-' => some .nothing
  | _ => none

/-- The variant that a character asks for. -/
def variantOf? : Char → Option Variant
  | 'E' => some .era
  | 'O' => some .digits
  | _ => none

/-- The greatest width that can be asked for. -/
def widest : Nat :=
  2147483647

/-- The field that is written after a percent sign. -/
def ofChars (text : List Char) : DateField :=
  let flags := text.takeWhile isFlag
  let rest := text.dropWhile isFlag
  let width := rest.takeWhile Char.isDigit
  let rest := rest.dropWhile Char.isDigit
  let variant := rest.head?.bind variantOf?
  let letter := if variant.isSome then rest.tail.head? else rest.head?
  { flags
    width := width.foldl (fun n c => min (n * 10 + (c.toNat - '0'.toNat)) widest) 0
    variant
    letter
    source := '%' :: flags ++ width ++ (if variant.isSome then rest.take 1 else []) ++
      letter.toList }

/-- The filling that is asked for; of several the last counts. -/
def filling? (field : DateField) : Option Filling :=
  field.flags.reverse.findSome? fillingOf?

/-- Whether capitals are asked for. -/
def wantsCapitals (field : DateField) : Bool :=
  field.flags.contains '^'

/-- Whether the other case is asked for. -/
def wantsOtherCase (field : DateField) : Bool :=
  field.flags.contains '#'

/-- Whether a letter can be asked for in a variant. -/
def takesVariant (letter : Char) : Option Variant → Bool
  | none => true
  | some .era => "cCnpPrRstTuxXyYzZ".toList.contains letter
  | some .digits => "bBCdeghGHIjklmMnpPrRsStTuUVwWyzZ".toList.contains letter

/-- A text, in capitals if they are asked for. -/
def cased (field : DateField) (chars : List Char) : DateValue :=
  .text (if field.wantsCapitals then chars.map Text.capital else chars)

/-- A name, in capitals if they or the other case are asked for. -/
def name (field : DateField) (chars : List Char) : DateValue :=
  .text (if field.wantsCapitals || field.wantsOtherCase then chars.map Text.capital else chars)

/-- What a letter stands for. -/
def letterValue? (field : DateField) (d : Date) : Char → Option DateValue
  | 'a' => some (field.name (d.weekdayName.take 3))
  | 'A' => some (field.name d.weekdayName)
  | 'b' | 'h' => some (field.name (d.monthName.take 3))
  | 'B' => some (field.name d.monthName)
  | 'c' => some (field.cased d.long)
  | 'C' => some (.number 1 .zeros (d.year / 100))
  | 'd' => some (.number 2 .zeros d.day)
  | 'D' | 'x' => some (field.cased d.slashed)
  | 'e' => some (.number 2 .blanks d.day)
  | 'F' => some (field.cased d.dashed)
  | 'g' => some (.number 2 .zeros (d.yearAndWeek.1 % 100))
  | 'G' => some (.number 1 .zeros d.yearAndWeek.1)
  | 'H' | 'M' | 'S' => some (.number 2 .zeros 0)
  | 'I' => some (.number 2 .zeros 12)
  | 'j' => some (.number 3 .zeros d.dayOfYear)
  | 'k' => some (.number 2 .blanks 0)
  | 'l' => some (.number 2 .blanks 12)
  | 'm' => some (.number 2 .zeros d.month)
  | 'n' => some (.text ['\n'])
  | 'p' => some (.text (if field.wantsOtherCase then ['a', 'm'] else ['A', 'M']))
  | 'P' => some (.text ['a', 'm'])
  | 'r' => some (field.cased "12:00:00 AM".toList)
  | 'R' => some (field.cased "00:00".toList)
  | 's' => some (.text (Date.signed d.seconds))
  | 't' => some (.text ['\t'])
  | 'T' | 'X' => some (field.cased "00:00:00".toList)
  | 'u' => some (.number 1 .zeros (d.weekday + 1))
  | 'U' => some (.number 2 .zeros d.sundayWeek)
  | 'V' => some (.number 2 .zeros d.yearAndWeek.2)
  | 'w' => some (.number 1 .zeros d.weekdayFromSunday)
  | 'W' => some (.number 2 .zeros d.mondayWeek)
  | 'y' => some (.number 2 .zeros (d.year % 100))
  | 'Y' => some (.number 1 .zeros d.year)
  | 'z' => some .absent
  | 'Z' => some (.text [])
  | '%' => some (.text ['%'])
  | _ => none

/-- What a field with a letter that cannot be asked for in its variant stands for: itself, but of
one that ends in a percent sign only that is left. A short name of a month would be written as a
name, and so is its field. -/
def refused (field : DateField) : Char → DateValue
  | '%' => .text ['%']
  | 'b' | 'h' => field.name field.source
  | _ => field.cased field.source

/-- What a field stands for. A field that means nothing stands for itself. -/
def value (field : DateField) (d : Date) : DateValue :=
  match field.letter with
  | none => field.cased field.source
  | some letter =>
    if takesVariant letter field.variant then
      (field.letterValue? d letter).getD (field.cased field.source)
    else
      field.refused letter

/-- A text with blanks or other marks before it, to a least width. -/
def widened (mark : Char) (width : Nat) (text : List Char) : List Char :=
  List.replicate (width - text.length) mark ++ text

/-- Whether the least width alone makes the field longer than the room for it. -/
def isTooWide (field : DateField) (room : Nat) (d : Date) : Bool :=
  room ≤ field.width && field.value d ≠ .absent

/-- The field as it is written for a date. -/
def render (field : DateField) (d : Date) : List Char :=
  match field.value d with
  | .absent => []
  | .text chars => widened (if field.filling? = some .zeros then '0' else ' ') field.width chars
  | .number places usual n =>
    let digits := Nat.toDigits 10 n
    match field.filling?.getD usual with
    | .nothing => widened ' ' field.width digits
    | .blanks => widened ' ' (max places field.width) digits
    | .zeros => widened '0' (max places field.width) digits

end DateField

/-- A piece of a pattern. -/
inductive DatePiece where
  | literal (c : Char)
  | field (field : DateField)
  deriving DecidableEq, Repr

namespace DatePattern

/-- The pattern without what a date cannot give: time zones are left out, and parts of a second are
zeros. A null character ends the pattern. -/
def plain : List Char → List Char
  | '%' :: 'z' :: rest => plain rest
  | '%' :: 'Z' :: rest => plain rest
  | '%' :: 'f' :: rest => "000000".toList ++ plain rest
  | '%' :: '\x00' :: _ => ['%']
  | '%' :: c :: rest => '%' :: c :: plain rest
  | '\x00' :: _ => []
  | c :: rest => c :: plain rest
  | [] => []

/-- The pieces of a pattern; the first `skip` characters are passed over. -/
def piecesFrom : Nat → List Char → List DatePiece
  | _, [] => []
  | skip + 1, _ :: rest => piecesFrom skip rest
  | 0, c :: rest =>
    if c = '%' then
      let field := DateField.ofChars rest
      .field field :: piecesFrom (field.source.length - 1) rest
    else
      .literal c :: piecesFrom 0 rest

/-- The pieces of a pattern. -/
def pieces (pattern : List Char) : List DatePiece :=
  piecesFrom 0 pattern

/-- How long a date may become, by the length of its pattern. -/
def room (length : Nat) : Nat :=
  256 * (max length 4).nextPowerOfTwo

/-- The pieces as they are written for a date, if they leave some of the room. -/
def writeWithin (d : Date) : Nat → List DatePiece → Option (List Char)
  | _, [] => some []
  | room, .literal c :: rest =>
    if 1 < room then (writeWithin d (room - 1) rest).map (c :: ·) else none
  | room, .field field :: rest =>
    if field.isTooWide room d then none
    else
      let written := field.render d
      if written.length < room then
        (writeWithin d (room - written.length) rest).map (written ++ ·)
      else none

end DatePattern

/-- The date written by a pattern. It is empty if it would be much longer than the pattern. -/
def Date.format (d : Date) (pattern : String) : String :=
  let pattern := DatePattern.plain pattern.toList
  let pieces := DatePattern.pieces pattern
  String.ofList ((DatePattern.writeWithin d (DatePattern.room pattern.length) pieces).getD [])

end MalLint
