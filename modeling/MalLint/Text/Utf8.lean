/-! Text as bytes. Decoding is strict: it stops at the first byte sequence that encodes no scalar
value and says where it stands and what is wrong with it. -/
namespace MalLint.Text.Utf8

/-- What is wrong with a byte sequence. -/
inductive Reason where
  /-- No character starts with this byte. -/
  | invalidStart
  /-- The bytes so far start a character, and the byte after them does not continue it. -/
  | invalidContinuation
  /-- The bytes end inside a character. -/
  | unexpectedEnd
  deriving DecidableEq, Repr

/-- The first faulty sequence: where it starts, and its bytes up to the fault. -/
structure Fault where
  position : Nat
  bytes : List UInt8
  reason : Reason
  deriving DecidableEq, Repr

/-- A character whose first bytes have been read. -/
structure Pending where
  /-- Offset of the first byte. -/
  start : Nat
  /-- The bytes read so far. -/
  bytes : List UInt8
  /-- The value of their payload bits. -/
  value : Nat
  /-- How many bytes are owed after the next one. -/
  owed : Nat
  /-- The least byte that may come next. -/
  low : UInt8
  /-- The greatest byte that may come next. -/
  high : UInt8
  deriving DecidableEq, Repr

/-- The character that a byte above 0x7F at `position` begins. The range of the second byte leaves
out longer forms than needed, surrogates and values beyond the last code point. -/
def lead (position : Nat) (b : UInt8) : Option Pending :=
  let pending (mask owed : Nat) (low high : UInt8) : Option Pending :=
    some ⟨position, [b], b.toNat % mask, owed, low, high⟩
  if b < 0xC2 then none
  else if b < 0xE0 then pending 0x20 0 0x80 0xBF
  else if b = 0xE0 then pending 0x10 1 0xA0 0xBF
  else if b = 0xED then pending 0x10 1 0x80 0x9F
  else if b < 0xF0 then pending 0x10 1 0x80 0xBF
  else if b = 0xF0 then pending 0x08 2 0x90 0xBF
  else if b < 0xF4 then pending 0x08 2 0x80 0xBF
  else if b = 0xF4 then pending 0x08 2 0x80 0x8F
  else none

/-- Decoding from `position` on, with the character that is being read, if there is one. -/
def decodeFrom (position : Nat) : Option Pending → List UInt8 → Except Fault (List Char)
  | none, [] => .ok []
  | some p, [] => .error ⟨p.start, p.bytes, .unexpectedEnd⟩
  | none, b :: rest =>
    if b < 0x80 then
      (decodeFrom (position + 1) none rest).map (Char.ofNat b.toNat :: ·)
    else
      match lead position b with
      | none => .error ⟨position, [b], .invalidStart⟩
      | some p => decodeFrom (position + 1) (some p) rest
  | some p, b :: rest =>
    if p.low ≤ b ∧ b ≤ p.high then
      let value := p.value * 0x40 + b.toNat % 0x40
      match p.owed with
      | 0 => (decodeFrom (position + 1) none rest).map (Char.ofNat value :: ·)
      | owed + 1 =>
        decodeFrom (position + 1) (some ⟨p.start, p.bytes ++ [b], value, owed, 0x80, 0xBF⟩) rest
    else
      .error ⟨p.start, p.bytes, .invalidContinuation⟩

/-- The text that the bytes encode, or the first fault. -/
def decode (bytes : List UInt8) : Except Fault (List Char) :=
  decodeFrom 0 none bytes

/-- The bytes of a text. -/
def encode (text : List Char) : List UInt8 :=
  text.flatMap String.utf8EncodeChar

/-- Line ends as the reader of a file sees them: a carriage return, alone or with the line feed
after it, counts as a line feed. -/
def unifyLineEnds : List Char → List Char
  | [] => []
  | '\r' :: '\n' :: rest => '\n' :: unifyLineEnds rest
  | c :: rest => (if c = '\r' then '\n' else c) :: unifyLineEnds rest

end MalLint.Text.Utf8
