import MalLint.Text.Utf8
import Mathlib.Data.List.Basic

/-! Bytes and texts. The bytes of a character have one of four forms, by their number. Encoding
writes these forms, and the decoder, which reads byte by byte, comes to the end of a character
exactly where one of them is complete. So decoding accepts exactly the bytes that encode some text,
and it gives that text back. -/
namespace MalLint.Utf8Coding

open Text.Utf8
open String (utf8EncodeChar)

/-- A byte that may stand behind the first one of a character. -/
def Follows (b : UInt8) : Prop :=
  0x80 ≤ b ∧ b ≤ 0xBF

/-- A value with the six bits of one more byte. -/
def withBits (value : Nat) (b : UInt8) : Nat :=
  value * 0x40 + b.toNat % 0x40

/-- The forms in which the bytes of a character come, with the value that they stand for: a scalar
value that needs so many bytes. -/
inductive Form : List UInt8 → Nat → Prop where
  | one {a : UInt8} {n : Nat} (value : n = a.toNat) (least : n < 0x80) : Form [a] n
  | two {a b : UInt8} {n : Nat} (first : 0xC0 ≤ a.toNat ∧ a.toNat < 0xE0) (second : Follows b)
      (value : n = withBits (a.toNat % 0x20) b) (needed : 0x80 ≤ n) : Form [a, b] n
  | three {a b c : UInt8} {n : Nat} (first : 0xE0 ≤ a.toNat ∧ a.toNat < 0xF0) (second : Follows b)
      (third : Follows c) (value : n = withBits (withBits (a.toNat % 0x10) b) c)
      (needed : 0x800 ≤ n) (scalar : n.isValidChar) : Form [a, b, c] n
  | four {a b c d : UInt8} {n : Nat} (first : 0xF0 ≤ a.toNat ∧ a.toNat < 0xF8) (second : Follows b)
      (third : Follows c) (fourth : Follows d)
      (value : n = withBits (withBits (withBits (a.toNat % 0x08) b) c) d)
      (needed : 0x10000 ≤ n) (scalar : n.isValidChar) : Form [a, b, c, d] n

variable {a b : UInt8}

theorem follows_iff : Follows b ↔ 0x80 ≤ b.toNat ∧ b.toNat ≤ 0xBF := by
  simp only [Follows, UInt8.le_iff_toNat_le, UInt8.reduceToNat]

section Encoding

theorem Form.scalar (form : Form bytes n) : n.isValidChar := by
  cases form with
  | one value least => exact .inl (by omega)
  | two first second value needed =>
    simp only [withBits] at value
    exact .inl (by omega)
  | three first second third value needed scalar => exact scalar
  | four first second third fourth value needed scalar => exact scalar

/-- The character that the bytes of a form stand for is encoded by these bytes. -/
theorem Form.encodes (form : Form bytes n) : utf8EncodeChar (Char.ofNat n) = bytes := by
  have known : (Char.ofNat n).val.toNat = n := by
    rw [Char.ofNat, dif_pos form.scalar]
    rfl
  simp only [utf8EncodeChar, known]
  cases form with
  | one value least => rw [if_pos (by omega), value, UInt8.ofNat_toNat]
  | two first second value needed =>
    simp only [withBits, follows_iff] at value second
    rw [if_neg (by omega), if_pos (by omega)]
    simp only [List.cons.injEq, ← UInt8.toNat_inj, UInt8.toNat_ofNat', and_true]
    omega
  | three first second third value needed scalar =>
    simp only [withBits, follows_iff] at value second third
    rw [if_neg (by omega), if_neg (by omega), if_pos (by omega)]
    simp only [List.cons.injEq, ← UInt8.toNat_inj, UInt8.toNat_ofNat', and_true]
    omega
  | four first second third fourth value needed scalar =>
    simp only [withBits, follows_iff] at value second third fourth
    rw [if_neg (by omega), if_neg (by omega), if_neg (by omega)]
    simp only [List.cons.injEq, ← UInt8.toNat_inj, UInt8.toNat_ofNat', and_true]
    omega

/-- Every character is encoded in one of the forms. -/
theorem form_encode (c : Char) : Form (utf8EncodeChar c) c.toNat := by
  have scalar : c.val.toNat.isValidChar := c.valid
  simp only [utf8EncodeChar, ← Char.toNat_val]
  generalize c.val.toNat = n at scalar ⊢
  split
  · exact .one (by rw [UInt8.toNat_ofNat']; omega) (by omega)
  · split
    · refine .two ?_ ?_ ?_ (by omega)
      all_goals simp only [withBits, follows_iff, UInt8.toNat_ofNat']; omega
    · split
      · refine .three ?_ ?_ ?_ ?_ (by omega) scalar
        all_goals simp only [withBits, follows_iff, UInt8.toNat_ofNat']; omega
      · refine .four ?_ ?_ ?_ ?_ ?_ (by omega) scalar
        all_goals simp only [withBits, follows_iff, UInt8.toNat_ofNat']; omega

end Encoding

section FirstByte

theorem lead_bounds (begun : lead position a = some p) : 0xC2 ≤ a.toNat ∧ a.toNat < 0xF5 := by
  simp only [lead, UInt8.lt_iff_toNat_lt, UInt8.reduceToNat, ← UInt8.toNat_inj] at begun
  grind

theorem lead_two (position : Nat) (low : 0xC2 ≤ a.toNat) (high : a.toNat < 0xE0) :
    lead position a = some ⟨position, [a], a.toNat % 0x20, 0, 0x80, 0xBF⟩ := by
  simp only [lead, UInt8.lt_iff_toNat_lt, UInt8.reduceToNat]
  rw [if_neg (by omega), if_pos high]

/-- After the first of three bytes, the range of the second leaves out the values that need fewer
bytes, and the surrogates. -/
theorem lead_three (position : Nat) (low : 0xE0 ≤ a.toNat) (high : a.toNat < 0xF0) :
    ∃ least greatest, lead position a = some ⟨position, [a], a.toNat % 0x10, 1, least, greatest⟩ ∧
      ∀ b, least ≤ b ∧ b ≤ greatest ↔ Follows b ∧ 0x20 ≤ withBits (a.toNat % 0x10) b ∧
        withBits (a.toNat % 0x10) b / 0x20 ≠ 0x1B := by
  simp only [follows_iff, withBits, lead, UInt8.lt_iff_toNat_lt, UInt8.le_iff_toNat_le,
    UInt8.reduceToNat, ← UInt8.toNat_inj]
  rw [if_neg (by omega), if_neg (by omega)]
  split
  · exact ⟨0xA0, 0xBF, rfl, fun b => by simp only [UInt8.reduceToNat]; omega⟩
  · split
    · exact ⟨0x80, 0x9F, rfl, fun b => by simp only [UInt8.reduceToNat]; omega⟩
    · exact ⟨0x80, 0xBF, rfl, fun b => by simp only [UInt8.reduceToNat]; omega⟩

/-- After the first of four bytes, the range of the second leaves out the values that need fewer
bytes, and those beyond the last code point. -/
theorem lead_four (position : Nat) (low : 0xF0 ≤ a.toNat) (high : a.toNat < 0xF5) :
    ∃ least greatest, lead position a = some ⟨position, [a], a.toNat % 0x08, 2, least, greatest⟩ ∧
      ∀ b, least ≤ b ∧ b ≤ greatest ↔ Follows b ∧ 0x10 ≤ withBits (a.toNat % 0x08) b ∧
        withBits (a.toNat % 0x08) b < 0x110 := by
  simp only [follows_iff, withBits, lead, UInt8.lt_iff_toNat_lt, UInt8.le_iff_toNat_le,
    UInt8.reduceToNat, ← UInt8.toNat_inj]
  rw [if_neg (by omega), if_neg (by omega), if_neg (by omega), if_neg (by omega), if_neg (by omega)]
  split
  · exact ⟨0x90, 0xBF, rfl, fun b => by simp only [UInt8.reduceToNat]; omega⟩
  · split
    · exact ⟨0x80, 0xBF, rfl, fun b => by simp only [UInt8.reduceToNat]; omega⟩
    · rw [if_pos (by omega)]
      exact ⟨0x80, 0x8F, rfl, fun b => by simp only [UInt8.reduceToNat]; omega⟩

end FirstByte

section Decoding

/-- Whatever bytes may follow those that were read of a character, together they have a form. -/
def Completes : (owed : Nat) → (bytes : List UInt8) → (value : Nat) → (low high : UInt8) → Prop
  | 0, bytes, value, low, high =>
    ∀ b, low ≤ b ∧ b ≤ high → Form (bytes ++ [b]) (withBits value b)
  | owed + 1, bytes, value, low, high =>
    ∀ b, low ≤ b ∧ b ≤ high → Completes owed (bytes ++ [b]) (withBits value b) 0x80 0xBF

/-- The bytes that were read of a character, if one is being read, lead to one of the forms. -/
def Begun (seen : List UInt8) : Option Pending → Prop
  | none => seen = []
  | some p => p.bytes = seen ∧ Completes p.owed p.bytes p.value p.low p.high

theorem begun_of_lead (first : lead position a = some p) : Begun [a] (some p) := by
  obtain ⟨low, high⟩ := lead_bounds first
  by_cases two : a.toNat < 0xE0
  · obtain rfl := Option.some.inj ((lead_two position low two).symm.trans first)
    refine ⟨rfl, ?_⟩
    intro b second
    refine .two ⟨by omega, two⟩ second rfl ?_
    simp only [withBits]
    omega
  · by_cases three : a.toNat < 0xF0
    · obtain ⟨least, greatest, begun, range⟩ := lead_three position (by omega) three
      obtain rfl := Option.some.inj (begun.symm.trans first)
      refine ⟨rfl, ?_⟩
      intro b inside c third
      obtain ⟨second, needed, scalar⟩ := (range b).mp inside
      refine .three ⟨by omega, three⟩ second third rfl ?_ ?_
      all_goals simp only [withBits] at needed scalar ⊢; omega
    · obtain ⟨least, greatest, begun, range⟩ := lead_four position (by omega) high
      obtain rfl := Option.some.inj (begun.symm.trans first)
      refine ⟨rfl, ?_⟩
      intro b inside c third d fourth
      obtain ⟨second, needed, scalar⟩ := (range b).mp inside
      refine .four ⟨by omega, by omega⟩ second third fourth rfl ?_ ?_
      all_goals simp only [withBits] at needed scalar ⊢; omega

theorem encode_cons (c : Char) (text : List Char) :
    encode (c :: text) = utf8EncodeChar c ++ encode text :=
  List.flatMap_cons

theorem decoded_cons {first : Char} {result : Except Fault (List Char)}
    (decoded : result.map (first :: ·) = .ok text) :
    ∃ rest, result = .ok rest ∧ text = first :: rest := by
  cases result with
  | error fault => cases decoded
  | ok rest => exact ⟨rest, rfl, (Except.ok.inj decoded).symm⟩

/-- A text that was decoded is encoded by the bytes that were read. -/
theorem encode_of_decodeFrom (begun : Begun seen pending)
    (decoded : decodeFrom position pending bytes = .ok text) : encode text = seen ++ bytes := by
  fun_induction decodeFrom position pending bytes generalizing seen text with
  | case1 position =>
    cases decoded
    rw [show seen = [] from begun]
    rfl
  | case2 position p => cases decoded
  | case3 position b rest ascii ih =>
    obtain ⟨others, later, rfl⟩ := decoded_cons decoded
    have form : Form [b] b.toNat := .one rfl (UInt8.lt_iff_toNat_lt.mp ascii)
    rw [show seen = [] from begun, encode_cons, form.encodes, ih rfl later]
    rfl
  | case4 position b rest high none => cases decoded
  | case5 position b rest high p first ih =>
    rw [show seen = [] from begun]
    exact ih (begun_of_lead first) decoded
  | case6 position p b rest inside value owed =>
    rename_i ih
    obtain ⟨others, later, rfl⟩ := decoded_cons decoded
    obtain ⟨rfl, completes⟩ := begun
    rw [owed] at completes
    have encoded : utf8EncodeChar (Char.ofNat value) = p.bytes ++ [b] :=
      (completes b inside).encodes
    rw [encode_cons, encoded, ih rfl later, List.append_assoc]
    rfl
  | case7 position p b rest inside value owed more =>
    rename_i ih
    obtain ⟨rfl, completes⟩ := begun
    rw [more] at completes
    rw [ih ⟨rfl, completes b inside⟩ decoded, List.append_assoc]
    rfl
  | case8 position p b rest outside => cases decoded

theorem decodeFrom_lead (first : lead position a = some p) (rest : List UInt8) :
    decodeFrom position none (a :: rest) = decodeFrom (position + 1) (some p) rest := by
  have high := (lead_bounds first).1
  have beyond : ¬ a < 0x80 := by
    simp only [UInt8.lt_iff_toNat_lt, UInt8.reduceToNat]
    omega
  rw [decodeFrom, if_neg beyond, first]

theorem decodeFrom_more (inside : low ≤ b ∧ b ≤ high) (position : Nat) (rest : List UInt8) :
    decodeFrom position (some ⟨start, seen, value, owed + 1, low, high⟩) (b :: rest) =
      decodeFrom (position + 1)
        (some ⟨start, seen ++ [b], withBits value b, owed, 0x80, 0xBF⟩) rest := by
  rw [decodeFrom, if_pos inside]
  rfl

theorem decodeFrom_last (inside : low ≤ b ∧ b ≤ high) (position : Nat) (rest : List UInt8) :
    decodeFrom position (some ⟨start, seen, value, 0, low, high⟩) (b :: rest) =
      (decodeFrom (position + 1) none rest).map (Char.ofNat (withBits value b) :: ·) := by
  rw [decodeFrom, if_pos inside]
  rfl

/-- Bytes of a form are read as the character that they stand for, whatever follows. -/
theorem Form.decodes (form : Form bytes n) (position : Nat) (rest : List UInt8) :
    ∃ next, decodeFrom position none (bytes ++ rest) =
      (decodeFrom next none rest).map (Char.ofNat n :: ·) := by
  cases form with
  | one value least =>
    subst value
    refine ⟨position + 1, ?_⟩
    rw [List.singleton_append, decodeFrom, if_pos (UInt8.lt_iff_toNat_lt.mpr least)]
  | @two a b n first second value needed =>
    have low : 0xC2 ≤ a.toNat := by
      simp only [withBits] at value
      omega
    subst value
    refine ⟨position + 1 + 1, ?_⟩
    exact (decodeFrom_lead (lead_two position low first.2) _).trans (decodeFrom_last second _ _)
  | @three a b c n first second third value needed scalar =>
    obtain ⟨least, greatest, begun, range⟩ := lead_three position first.1 first.2
    have inside : least ≤ b ∧ b ≤ greatest := by
      refine (range b).mpr ⟨second, ?_⟩
      simp only [withBits] at value ⊢
      omega
    subst value
    refine ⟨position + 1 + 1 + 1, ?_⟩
    exact (decodeFrom_lead begun _).trans
      ((decodeFrom_more inside _ _).trans (decodeFrom_last third _ _))
  | @four a b c d n first second third fourth value needed scalar =>
    have high : a.toNat < 0xF5 := by
      simp only [withBits] at value
      omega
    obtain ⟨least, greatest, begun, range⟩ := lead_four position first.1 high
    have inside : least ≤ b ∧ b ≤ greatest := by
      refine (range b).mpr ⟨second, ?_⟩
      simp only [withBits] at value ⊢
      omega
    subst value
    refine ⟨position + 1 + 1 + 1 + 1, ?_⟩
    exact (decodeFrom_lead begun _).trans ((decodeFrom_more inside _ _).trans
      ((decodeFrom_more third _ _).trans (decodeFrom_last fourth _ _)))

theorem decodeFrom_encode (position : Nat) (text : List Char) :
    decodeFrom position none (encode text) = .ok text := by
  induction text generalizing position with
  | nil => rfl
  | cons c text ih =>
    obtain ⟨next, read⟩ := (form_encode c).decodes position (encode text)
    rw [encode_cons, read, ih next, Char.ofNat_toNat]
    rfl

/-- Decoding accepts the bytes that encode a text, and gives this text. -/
theorem decode_eq_ok_iff : decode bytes = .ok text ↔ bytes = encode text := by
  constructor
  · intro decoded
    have begun : Begun [] none := rfl
    exact (encode_of_decodeFrom begun decoded).symm
  · rintro rfl
    exact decodeFrom_encode 0 text

end Decoding

end MalLint.Utf8Coding
