import MalLint.Proofs.EndLines
import MalLint.Proofs.StrayBranches
import Mathlib.Data.Prod.Lex
import Mathlib.Order.Bounds.Basic

/-! The identifiers of a program. An operand that is a name counts as an identifier wherever it
stands, except in the position of a branch target. The same name may be a target on one line and a
value on another, so the list is described by the places at which a name is used: it holds the names
that are used at some place, each once, and the one that is used first comes first. -/
namespace MalLint.IdentifierInventory

open Acceptance LineRules WiringGaps

/-- A name is used at a place: it is an operand of a line with an opcode, and not the target that
the opcode branches to. The place is the index of the line and that of the operand, both counted
from 0. -/
inductive Uses (program : Program) (name : String) : ℕ ×ₗ ℕ → Prop where
  | operand (listed : program.lines[row]? = some line) (read : line.parts.opcode = some opcode)
      (held : line.parts.operands[index]? = some operand) (spelled : operand.text = name)
      (named : IsName name.toList) (free : (opcode.text, index) ∉ targets) :
      Uses program name (toLex (row, index))

/-- The first use of one name comes before the first use of another. Lines come first, then the
operands of a line. -/
def FirstUsedBefore (program : Program) (a b : String) : Prop :=
  ∃ p q, IsLeast {place | Uses program a place} p ∧ IsLeast {place | Uses program b place} q ∧ p < q

/-- Wherever the name is an operand, it is what the line branches to. -/
def OnlyTarget (program : Program) (name : String) : Prop :=
  ∀ line ∈ program.lines, ∀ (index : Nat) operand, line.parts.operands[index]? = some operand →
    operand.text = name → ∃ opcode, line.parts.opcode = some opcode ∧ (opcode.text, index) ∈ targets

/-- What a list of identifiers is to be. -/
structure Inventory (program : Program) (names : List String) : Prop where
  nodup : names.Nodup
  mem_iff : ∀ name, name ∈ names ↔ ∃ place, Uses program name place
  ordered : names.Pairwise (FirstUsedBefore program)
  noRegister : ∀ name ∈ names, Operand.isRegister name = false
  noOctal : ∀ name ∈ names, Operand.isOctal name = false
  /-- A label that is only branched to is no identifier, be it declared or not. -/
  noTarget : ∀ name, OnlyTarget program name → name ∉ names

/-- The identifiers of a line, each with the index of its operand. -/
def lineUses (line : ProgramLine) : List (String × Nat) :=
  line.parts.operandTexts.zipIdx.filter fun (text, index) =>
    some index ≠ line.parts.opcode.bind (Instruction.branchTarget? ·.text) &&
      Operand.isIdentifier text

/-- The identifiers of a program, each with its place. -/
def uses (program : Program) : List ((ℕ ×ₗ ℕ) × String) :=
  program.lines.zipIdx.flatMap fun (line, row) =>
    (lineUses line).map fun (text, index) => (toLex (row, index), text)

/-- The first use of each identifier. -/
def firstUses (program : Program) : List ((ℕ ×ₗ ℕ) × String) :=
  distinctBy (·.2) (uses program)

section Uses

variable {program : Program} {line : ProgramLine}

theorem mem_lineUses :
    (name, index) ∈ lineUses line ↔
      ∃ opcode operand, line.parts.opcode = some opcode ∧
        line.parts.operands[index]? = some operand ∧ operand.text = name ∧ IsName name.toList ∧
          (opcode.text, index) ∉ targets := by
  simp only [lineUses, List.mem_filter, List.mk_mem_zipIdx_iff_getElem?, Line.Parts.operandTexts,
    List.getElem?_map, Option.map_eq_some_iff, Bool.and_eq_true, decide_eq_true_eq,
    isIdentifier_iff_isName, ← branchTarget?_eq_some_iff]
  constructor
  · rintro ⟨⟨operand, held, spelled⟩, other, named⟩
    -- A line without an opcode has no operands.
    cases read : line.parts.opcode with
    | none => simp [EndLines.operands_of_bare read] at held
    | some opcode =>
      rw [read, Option.bind_some] at other
      exact ⟨opcode, operand, rfl, held, spelled, named, other.symm⟩
  · rintro ⟨opcode, operand, read, held, spelled, named, free⟩
    rw [read, Option.bind_some]
    exact ⟨⟨operand, held, spelled⟩, Ne.symm free, named⟩

theorem mem_uses : (place, name) ∈ uses program ↔ Uses program name place := by
  simp only [uses, List.mem_flatMap, List.mem_map, Prod.exists, Prod.mk.injEq]
  constructor
  · rintro ⟨line, row, listed, text, index, used, rfl, rfl⟩
    obtain ⟨opcode, operand, read, held, spelled, named, free⟩ := mem_lineUses.mp used
    exact .operand (List.mk_mem_zipIdx_iff_getElem?.mp listed) read held spelled named free
  · rintro ⟨listed, read, held, spelled, named, free⟩
    refine ⟨_, _, List.mk_mem_zipIdx_iff_getElem?.mpr listed, name, _, ?_, rfl, rfl⟩
    exact mem_lineUses.mpr ⟨_, _, read, held, spelled, named, free⟩

theorem uses_inOrder (program : Program) : (uses program).Pairwise fun a b => a.1 < b.1 := by
  rw [uses, List.pairwise_flatMap]
  constructor
  · rintro ⟨line, row⟩ _
    rw [List.pairwise_map]
    apply ((zipIdx_inOrder _ 0).filter _).imp
    intro a b before
    exact Prod.Lex.toLex_lt_toLex.mpr (.inr ⟨rfl, before⟩)
  · apply (zipIdx_inOrder program.lines 0).imp
    rintro ⟨line, row⟩ ⟨other, later⟩ before _ first _ second
    obtain ⟨a, -, rfl⟩ := List.mem_map.mp first
    obtain ⟨b, -, rfl⟩ := List.mem_map.mp second
    exact Prod.Lex.toLex_lt_toLex.mpr (.inl before)

/-- The place that is kept for a name is the least at which the name is used. -/
theorem isLeast_of_mem_firstUses (member : (place, name) ∈ firstUses program) :
    IsLeast {place | Uses program name place} place := by
  constructor
  · exact mem_uses.mp (mem_of_mem_distinctBy member)
  · intro other used
    rcases distinctBy_first (uses_inOrder program) member (mem_uses.mpr used) rfl with same | before
    · exact le_of_eq (Prod.mk.inj same).1.symm
    · exact le_of_lt before

end Uses

theorem identifiers_eq (settings : Settings) (program : Program) :
    (program.check settings).identifiers = (firstUses program).map (·.2) := by
  have listed : program.lines.flatMap (LineCheck.identifiers ·.text) =
      (uses program).map (·.2) := by
    rw [uses, List.map_flatMap]
    conv => lhs; rw [← List.zipIdx_map_fst 0 program.lines, List.flatMap_map]
    apply List.flatMap_congr
    intro entry _
    rw [List.map_map]
    rfl
  rw [firstUses, Program.check]
  simp only [distinctWords_eq_distinctBy, listed]
  exact distinctBy_map id _ _

section Listed

variable (settings : Settings) (program : Program)

theorem mem_identifiers_iff (name : String) :
    name ∈ (program.check settings).identifiers ↔ ∃ place, Uses program name place := by
  have listed : name ∈ (program.check settings).identifiers ↔
      ∃ entry ∈ uses program, entry.2 = name := by
    rw [identifiers_eq, List.mem_map]
    exact exists_mem_distinctBy
  rw [listed]
  constructor
  · rintro ⟨⟨place, _⟩, member, rfl⟩
    exact ⟨place, mem_uses.mp member⟩
  · rintro ⟨place, used⟩
    exact ⟨(place, name), mem_uses.mpr used, rfl⟩

theorem identifiers_nodup : (program.check settings).identifiers.Nodup := by
  rw [identifiers_eq, List.Nodup, List.pairwise_map]
  exact distinctBy_pairwise _ _

theorem identifiers_inOrder :
    (program.check settings).identifiers.Pairwise (FirstUsedBefore program) := by
  have ascending := (uses_inOrder program).sublist (distinctBy_sublist (·.2) (uses program))
  rw [identifiers_eq, List.pairwise_map]
  apply ascending.imp_of_mem
  intro a b first second before
  exact ⟨a.1, b.1, isLeast_of_mem_firstUses first, isLeast_of_mem_firstUses second, before⟩

end Listed

theorem isOctalDigit_of_isLetter (letter : Text.isLetter c = true) :
    Operand.isOctalDigit c = false := by
  rw [Bool.eq_false_iff]
  intro octal
  have bounds : '0' ≤ c ∧ c ≤ '7' := by simpa [Operand.isOctalDigit] using octal
  have digit : c.isDigit = true := by
    simp only [Char.isDigit, Bool.and_eq_true, decide_eq_true_eq]
    exact ⟨bounds.1, UInt32.le_trans bounds.2 (by decide)⟩
  exact absurd digit (by simp [isDigit_of_isLetter letter])

theorem isRegister_of_isName (named : IsName name.toList) : Operand.isRegister name = false := by
  rw [Bool.eq_false_iff]
  intro register
  rw [← String.ofList_toList (s := name), isRegister_iff] at register
  obtain ⟨d, digit, shape⟩ := register
  have letter : Text.isLetter d = true := named.2.2 d (by simp [shape])
  exact absurd digit (by simp [isOctalDigit_of_isLetter letter])

theorem isOctal_of_isName (named : IsName name.toList) : Operand.isOctal name = false := by
  rw [Bool.eq_false_iff]
  intro octal
  rw [← String.ofList_toList (s := name), isOctal_iff] at octal
  obtain ⟨c, rest, shape⟩ := List.exists_cons_of_ne_nil octal.1
  have held : c ∈ name.toList := by simp [shape]
  exact absurd (octal.2 c held) (by simp [isOctalDigit_of_isLetter (named.2.2 c held)])

theorem isName_of_uses (used : Uses program name place) : IsName name.toList := by
  cases used with
  | operand listed read held spelled named free => exact named

/-- The identifiers of a program are the names that are used as operands other than as branch
targets. None is listed twice, and they stand in the order of their first uses. -/
theorem identifiers_by_first_use (settings : Settings) (program : Program) :
    Inventory program (program.check settings).identifiers := by
  have named (name : String) (member : name ∈ (program.check settings).identifiers) :
      IsName name.toList := by
    obtain ⟨place, used⟩ := (mem_identifiers_iff settings program name).mp member
    exact isName_of_uses used
  refine ⟨identifiers_nodup settings program, mem_identifiers_iff settings program,
    identifiers_inOrder settings program, ?_, ?_, ?_⟩
  · exact fun name member => isRegister_of_isName (named name member)
  · exact fun name member => isOctal_of_isName (named name member)
  · intro name only member
    obtain ⟨place, used⟩ := (mem_identifiers_iff settings program name).mp member
    cases used with
    | operand listed read held spelled named free =>
      obtain ⟨opcode, same, target⟩ := only _ (List.mem_of_getElem? listed) _ _ held spelled
      obtain rfl := Option.some.inj (read.symm.trans same)
      exact free target

end MalLint.IdentifierInventory
