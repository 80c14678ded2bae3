import MalLint.Text.Blank

/-! One line of source: `[label:] OPCODE [operand {, operand}] ; comment`. A line is first cleaned
of its comment and outer blanks, then cut into label, opcode and operands, each with the column
where it starts. -/
namespace MalLint

/-- A piece of a line and the column of its first character, counted from 1. -/
structure Token where
  text : String
  column : Nat
  deriving DecidableEq, Repr

namespace Line

open Text

/-- The text without its comment, which runs from the first semicolon to the end, and without the
blanks around what is left. -/
def clean (raw : List Char) : List Char :=
  trim (raw.takeWhile (· ≠ ';'))

/-- A line without comment and outer blanks. -/
def normalize (raw : String) : String :=
  String.ofList (clean raw.toList)

/-- The longest runs of characters that satisfy `keep`, each with the column of its first
character. The first character of the text stands in `column`. -/
def runs (keep : Char → Bool) (column : Nat) : List Char → List (Nat × List Char)
  | [] => []
  | c :: rest =>
    let later := runs keep (column + 1) rest
    if keep c then
      match later with
      | [] => [(column, [c])]
      | (next, text) :: others =>
        if next = column + 1 then (column, c :: text) :: others else (column, [c]) :: later
    else
      later

theorem runs_column {keep : Char → Bool} {column : Nat} {text : List Char} {run : Nat × List Char}
    (member : run ∈ runs keep column text) : column ≤ run.1 := by
  induction text generalizing column run with
  | nil => cases member
  | cons c rest ih =>
    simp only [runs] at member
    split at member
    · split at member
      · simp only [List.mem_singleton] at member
        exact member ▸ Nat.le_refl column
      · next next text others later =>
        split at member <;> rcases List.mem_cons.mp member with same | older
        · exact same ▸ Nat.le_refl column
        · have := ih (later ▸ List.mem_cons_of_mem _ older)
          omega
        · exact same ▸ Nat.le_refl column
        · have := ih older
          omega
    · have := ih member
      omega

/-- Characters that are not kept only move what follows them. -/
theorem runs_append_of_not_keep {keep : Char → Bool} {gap : List Char}
    (skipped : ∀ c ∈ gap, keep c = false) (column : Nat) (rest : List Char) :
    runs keep column (gap ++ rest) = runs keep (column + gap.length) rest := by
  induction gap generalizing column with
  | nil => rfl
  | cons c gap ih =>
    have head : keep c = false := skipped c List.mem_cons_self
    have tail := ih (fun d member => skipped d (List.mem_cons_of_mem c member)) (column + 1)
    simp only [List.cons_append, runs, head, Bool.false_eq_true, ↓reduceIte, tail, List.length_cons]
    congr 1
    omega

/-- A stretch of kept characters that what follows does not prolong is one run. -/
theorem runs_append_of_keep {keep : Char → Bool} {word : List Char} (nonempty : word ≠ [])
    (kept : ∀ c ∈ word, keep c = true) (column : Nat) {rest : List Char}
    (bounded : ∀ c ∈ rest.head?, keep c = false) :
    runs keep column (word ++ rest) = (column, word) :: runs keep (column + word.length) rest := by
  induction word generalizing column with
  | nil => exact absurd rfl nonempty
  | cons c word ih =>
    have head : keep c = true := kept c List.mem_cons_self
    cases word with
    | nil =>
      simp only [List.cons_append, List.nil_append, runs, head, ↓reduceIte, List.length_cons,
        List.length_nil, Nat.zero_add]
      split
      · next none => simp [none]
      · next next text others later =>
        have apart : next ≠ column + 1 := by
          intro touching
          cases rest with
          | nil => cases later
          | cons d rest =>
            have stop : keep d = false := bounded d (by simp)
            simp only [runs, stop, Bool.false_eq_true, ↓reduceIte] at later
            have first : (next, text) ∈ runs keep (column + 1 + 1) rest := by
              rw [later]
              exact List.mem_cons_self
            have := runs_column first
            omega
        simp [apart, later]
    | cons d word =>
      have tail := ih (by simp) (fun e member => kept e (List.mem_cons_of_mem c member))
        (column + 1)
      rw [List.cons_append, runs, tail]
      simp only [head, ↓reduceIte, List.length_cons]
      congr 2
      omega

/-- A run as a token. -/
def tokenOf (run : Nat × List Char) : Token :=
  ⟨String.ofList run.2, run.1⟩

/-- The pieces between blanks. -/
def tokenize (line : String) : List Token :=
  (runs (!isBlank ·) 1 line.toList).map tokenOf

/-- The parts of a line. -/
structure Parts where
  /-- The declared label, without its colon. -/
  label : Option Token
  /-- Absent on a line that holds a label only. -/
  opcode : Option Token
  operands : List Token
  deriving DecidableEq, Repr

/-- The texts of the operands. -/
def Parts.operandTexts (parts : Parts) : List String :=
  parts.operands.map (·.text)

/-- What stands before the first colon, if there is a colon. -/
def beforeColon? (line : List Char) : Option (List Char) :=
  if ':' ∈ line then some (line.takeWhile (· ≠ ':')) else none

/-- The label of a line: what stands before the first colon, if no blank stands there. The label
may be empty. A colon that comes after a blank belongs to the instruction. -/
def label? (line : List Char) : Option (List Char) :=
  (beforeColon? line).filter (·.all (!isBlank ·))

/-- Whether a character can be part of an operand. -/
def inOperand (c : Char) : Bool :=
  !isBlank c && c ≠ ','

/-- The opcode and the operands of the text that starts in `column`. The opcode is the first run
without blanks; commas and colons belong to it. The operands are the runs after it that hold
neither blanks nor commas. -/
def instruction (column : Nat) (body : List Char) : Option Token × List Token :=
  let start := column + (body.takeWhile isBlank).length
  let word := (trimStart body).takeWhile (!isBlank ·)
  let rest := (trimStart body).dropWhile (!isBlank ·)
  if word = [] then
    (none, [])
  else
    (some (tokenOf (start, word)), (runs inOperand (start + word.length) rest).map tokenOf)

/-- The label, the opcode and the operands of a line. -/
def split (line : String) : Parts :=
  match label? line.toList with
  | some label =>
    let (opcode, operands) := instruction (label.length + 2) (line.toList.drop (label.length + 1))
    ⟨some (tokenOf (1, label)), opcode, operands⟩
  | none =>
    let (opcode, operands) := instruction 1 line.toList
    ⟨none, opcode, operands⟩

end Line

end MalLint
