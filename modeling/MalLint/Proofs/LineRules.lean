import MalLint.Check
import MalLint.Proofs.LineLayout
import Mathlib.Data.List.Forall2

/-! When a line passes. Each of the four checks of a line is silent exactly if the line keeps the
rule of that check, and the rules are stated without the order in which a check looks at things. -/
namespace MalLint.LineRules

open Text LineLayout

private theorem exists_of_inRanges (inside : inRanges n ranges = true) :
    ∃ range ∈ ranges, range.1 ≤ n ∧ n ≤ range.2 := by
  induction ranges with
  | nil => cases inside
  | cons range rest ih =>
    obtain ⟨low, high⟩ := range
    simp only [inRanges] at inside
    split at inside
    · cases inside
    · split at inside
      · exact ⟨(low, high), List.mem_cons_self, by omega⟩
      · obtain ⟨found, member, bounds⟩ := ih inside
        exact ⟨found, List.mem_cons_of_mem _ member, bounds⟩

/-- No number lies in two tables whose ranges keep apart. -/
private theorem inRanges_apart
    (apart : ∀ a ∈ first, ∀ b ∈ second, a.2 < b.1 ∨ b.2 < a.1)
    (inside : inRanges n first = true) : inRanges n second = false := by
  cases met : inRanges n second with
  | false => rfl
  | true =>
    obtain ⟨a, memberA, boundsA⟩ := exists_of_inRanges inside
    obtain ⟨b, memberB, boundsB⟩ := exists_of_inRanges met
    have := apart a memberA b memberB
    omega

/-- A letter is no blank. -/
theorem isBlank_of_isLetter (letter : isLetter c = true) : isBlank c = false :=
  inRanges_apart (by decide +kernel) letter

/-- A letter is no digit. -/
theorem isDigit_of_isLetter (letter : isLetter c = true) : c.isDigit = false := by
  have outside : inRanges c.toNat [(0x30, 0x39)] = false :=
    inRanges_apart (by decide +kernel) letter
  cases digit : c.isDigit with
  | false => rfl
  | true =>
    simp only [Char.isDigit, Bool.and_eq_true, decide_eq_true_eq] at digit
    have low : 48 ≤ c.toNat := digit.1
    have high : c.toNat ≤ 57 := digit.2
    simp [inRanges, Nat.not_lt.mpr low, high] at outside

theorem isLetter_ne_colon (letter : isLetter c = true) : c ≠ ':' := by
  rintro rfl
  exact absurd letter (by decide)

/-- What stands before the first colon passes if it has at most five characters, all letters. -/
theorem candidate_silent_iff (origin : Origin)
    (found : Line.beforeColon? line.toList = some candidate) :
    LineCheck.label origin line = none ↔
      candidate.length ≤ 5 ∧ ∀ c ∈ candidate, isLetter c = true := by
  have silent : LineCheck.label origin line = none ↔
      candidate.any isBlank = false ∧ ¬Operand.identifierLimit < candidate.length ∧
        candidate.any (!isLetter ·) = false := by
    simp only [LineCheck.label, found]
    generalize candidate.any isBlank = blank, candidate.any (!isLetter ·) = foreign
    by_cases long : Operand.identifierLimit < candidate.length <;> cases blank <;>
      cases foreign <;> simp [long]
  rw [silent]
  constructor
  · rintro ⟨-, short, letters⟩
    exact ⟨Nat.le_of_not_lt short, by simpa using letters⟩
  · rintro ⟨short, letters⟩
    refine ⟨?_, Nat.not_lt.mpr short, by simpa using letters⟩
    simpa using fun c member => isBlank_of_isLetter (letters c member)

/-- The check of labels is silent if there is no colon, or if at most five letters and nothing else
stand before the first one. -/
theorem label_eq_none_iff (origin : Origin) (line : String) :
    LineCheck.label origin line = none ↔
      ':' ∉ line.toList ∨ ∃ name rest, line.toList = name ++ ':' :: rest ∧
        name.length ≤ 5 ∧ ∀ c ∈ name, isLetter c = true := by
  cases found : Line.beforeColon? line.toList with
  | none =>
    have plain := beforeColon?_eq_none_iff.mp found
    simp [LineCheck.label, found, plain]
  | some candidate =>
    obtain ⟨plain, rest, shape⟩ := beforeColon?_eq_some_iff.mp found
    rw [candidate_silent_iff origin found]
    constructor
    · rintro ⟨short, letters⟩
      exact .inr ⟨candidate, rest, shape, short, letters⟩
    · rintro (colonless | ⟨name, others, same, short, letters⟩)
      · exact absurd (by simp [shape]) colonless
      · have spelled : Line.beforeColon? line.toList = some name :=
          beforeColon?_eq_some_iff.mpr
            ⟨fun member => isLetter_ne_colon (letters ':' member) rfl, others, same⟩
        obtain rfl : candidate = name := Option.some.inj (found.symm.trans spelled)
        exact ⟨short, letters⟩

/-- Looking up an opcode finds its row of the instruction set. -/
theorem find?_eq_some_iff :
    Instruction.find? mnemonic = some i ↔ i ∈ Instruction.table ∧ i.mnemonic = mnemonic := by
  constructor
  · intro found
    exact ⟨List.mem_of_find?_eq_some found, by simpa using List.find?_some found⟩
  · rintro ⟨member, rfl⟩
    have rows : ∀ i ∈ Instruction.table, Instruction.find? i.mnemonic = some i := by decide
    exact rows i member

theorem label_of_targetIndex? (found : Instruction.targetIndex? i = some index) :
    i.operands[index]? = some .label := by
  obtain ⟨bound, label, -⟩ := List.findIdx?_eq_some_iff_getElem.mp found
  rw [List.getElem?_eq_getElem bound]
  simpa using label

/-- The check of opcodes is silent if the opcode, where there is one, has a row. -/
theorem opcode_eq_none_iff (alphabet : String) (origin : Origin) (line : String) :
    LineCheck.opcode alphabet origin line = none ↔
      ∀ token, (Line.split line).opcode = some token →
        ∃ i, Instruction.find? token.text = some i := by
  cases opcode : (Line.split line).opcode with
  | none => simp [LineCheck.opcode, opcode]
  | some token =>
    cases found : Instruction.find? token.text <;>
      simp [LineCheck.opcode, opcode, Instruction.isMnemonic, found]

theorem isWellFormed_iff (text : String) :
    Operand.isWellFormed text = true ↔
      Operand.isRegister text = true ∨ Operand.isOctal text = true ∨
        Operand.isIdentifier text = true := by
  cases register : Operand.isRegister text <;> cases octal : Operand.isOctal text <;>
    cases identifier : Operand.isIdentifier text <;>
    simp [Operand.isWellFormed, Operand.kinds, Operand.Kind.all, Operand.Kind.holds, register,
      octal, identifier]

/-- The check of operands is silent if each is a register, an octal number or an identifier. -/
theorem form_eq_none_iff (origin : Origin) (line : String) :
    LineCheck.form origin line = none ↔
      ∀ token ∈ (Line.split line).operands, Operand.isRegister token.text = true ∨
        Operand.isOctal token.text = true ∨ Operand.isIdentifier token.text = true := by
  simp only [LineCheck.form, Option.map_eq_none_iff, List.find?_eq_none, Bool.not_eq_true',
    Bool.not_eq_false, isWellFormed_iff]

/-- The operands meet the constraints of a row if they are as many and no position fails. -/
theorem forall₂_accepts_iff (i : Instruction) (texts : List String) :
    List.Forall₂ (fun c text => c.accepts text = true) i.operands texts ↔
      i.arity = texts.length ∧ i.failing texts = [] := by
  rw [List.forall₂_iff_zip, Instruction.arity, and_congr_right_iff]
  intro _
  simp only [Instruction.failing, List.map_eq_nil_iff, List.filter_eq_nil_iff, Bool.not_eq_true',
    Bool.not_eq_false]
  constructor
  · rintro accepted ⟨⟨c, text⟩, index⟩ member
    exact accepted (List.fst_mem_of_mem_zipIdx member)
  · intro accepted c text member
    obtain ⟨index, found⟩ := List.mem_iff_getElem?.mp member
    exact accepted ((c, text), 1 + index) (List.mk_add_mem_zipIdx_iff_getElem?.mpr found)

/-- The check of numbers and types is silent if the operands meet the constraints of the opcode's
row, or if there is no such row. -/
theorem arity_eq_none_iff (origin : Origin) (line : String) :
    LineCheck.arity origin line = none ↔
      ∀ token, (Line.split line).opcode = some token →
        ∀ i, Instruction.find? token.text = some i →
          List.Forall₂ (fun c text => c.accepts text = true) i.operands
            (Line.split line).operandTexts := by
  cases opcode : (Line.split line).opcode with
  | none => simp [LineCheck.arity, opcode]
  | some token =>
    cases found : Instruction.find? token.text with
    | none => simp [LineCheck.arity, opcode, found]
    | some row =>
      have number : (Line.split line).operandTexts.length = (Line.split line).operands.length :=
        List.length_map _
      simp only [LineCheck.arity, opcode, found, Option.some.injEq, forall_eq',
        forall₂_accepts_iff, number]
      rcases Nat.lt_trichotomy row.arity (Line.split line).operands.length with fewer | same | more
      · rw [List.getElem?_eq_getElem fewer]
        simp [Nat.ne_of_lt fewer]
      · rw [List.getElem?_eq_none (Nat.le_of_eq same.symm), if_neg (by omega)]
        cases failing : row.failing (Line.split line).operandTexts <;> simp [same]
      · rw [List.getElem?_eq_none (Nat.le_of_lt more), if_pos more]
        simp [Nat.ne_of_gt more]

/-- A line passes if all four checks are silent. -/
theorem checkLine_eq_nil_iff (settings : Settings) (file : String) (line : ProgramLine) :
    checkLine settings file line = [] ↔
      LineCheck.label ⟨file, some line.number⟩ line.text = none ∧
        LineCheck.opcode settings.alphabet ⟨file, some line.number⟩ line.text = none ∧
        LineCheck.form ⟨file, some line.number⟩ line.text = none ∧
        LineCheck.arity ⟨file, some line.number⟩ line.text = none := by
  simp [checkLine, List.filterMap_eq_nil_iff]

end MalLint.LineRules
