import MalLint.Proofs.EndLines
import MalLint.Proofs.StrayBranches

/-! How the four checks of a line overlap. Each is made on its own, yet some findings never meet: a
line whose opcode is unknown is not told that its operands do not fit. The check of operands and the
constraints of an instruction use different predicates. If the number and the types of the operands
are right, the two disagree at one place only, which is a branch target with a colon behind it. -/
namespace MalLint.CheckOverlap

open Acceptance LineRules LineReports StrayBranches Verdict WiringGaps

/-- Which findings about a line can stand together, and in which order. -/
structure Compatible (line : ProgramLine) (findings : List Diagnostic) : Prop where
  few : findings.length ≤ 3
  errors : ∀ d ∈ findings, d.isError = true
  ascending : findings.Pairwise fun a b => a.category.index < b.category.index
  /-- Nothing is said about the number and the types of the operands of an unknown opcode. -/
  exclusive : ∀ d ∈ findings, d.category = .invalidOpcode → ∀ e ∈ findings,
    e.category ∉ [Category.invalidOperandType, .tooManyOperands, .tooFewOperands]
  /-- Without an opcode, only the label can be wrong. -/
  bare : line.parts.opcode = none → ∀ d ∈ findings, d.category = .illFormedLabel

/-- The line is a branch whose target is a name with a colon behind it. -/
def ColonTarget (line : ProgramLine) (target : Token) : Prop :=
  ∃ name, BranchesTo line target name ∧ target.text = name ++ ":"

section Categories

variable {settings : Settings} {file : String} {line : ProgramLine} {d : Diagnostic}

theorem label_index (found : LineCheck.label origin text = some d) :
    (d.category.index : Nat) = 0 := by
  rw [(label_reports found).1]
  rfl

theorem opcode_index (found : LineCheck.opcode alphabet origin text = some d) :
    (d.category.index : Nat) = 1 := by
  rw [(opcode_reports found).1]
  rfl

theorem form_index (found : LineCheck.form origin text = some d) :
    (d.category.index : Nat) = 2 := by
  rw [(form_reports found).1]
  rfl

theorem arity_index (found : LineCheck.arity origin text = some d) :
    3 ≤ (d.category.index : Nat) := by
  obtain ⟨opcode, i, token, -, -, -, -, misfit⟩ := arity_reports found
  generalize d.category = category at misfit ⊢
  cases misfit <;> decide

/-- The checks come in the order of their categories. -/
theorem checkLine_ascending (settings : Settings) (file : String) (line : ProgramLine) :
    (checkLine settings file line).Pairwise fun a b => a.category.index < b.category.index := by
  rw [checkLine, List.pairwise_filterMap]
  simp only [List.pairwise_cons, List.mem_cons, List.not_mem_nil, or_false, id, Fin.lt_def]
  refine ⟨?_, ?_, ?_, by simp, .nil⟩
  · rintro check (rfl | rfl | rfl) a first b second
    · rw [label_index first, opcode_index second]
      omega
    · rw [label_index first, form_index second]
      omega
    · rw [label_index first]
      exact Nat.lt_of_lt_of_le (by omega) (arity_index second)
  · rintro check (rfl | rfl) a first b second
    · rw [opcode_index first, form_index second]
      omega
    · rw [opcode_index first]
      exact Nat.lt_of_lt_of_le (by omega) (arity_index second)
  · rintro check rfl a first b second
    rw [form_index first]
    exact arity_index second

/-- What is said about an opcode comes from the check of opcodes. -/
theorem opcode_of_index (member : d ∈ checkLine settings file line)
    (place : (d.category.index : Nat) = 1) :
    LineCheck.opcode settings.alphabet ⟨file, some line.number⟩ line.text = some d := by
  rcases mem_checkLine_iff.mp member with label | opcode | form | arity
  · have other := label_index label
    omega
  · exact opcode
  · have other := form_index form
    omega
  · have other := arity_index arity
    omega

/-- What is said about the number or the types of operands comes from the check of both. -/
theorem arity_of_index (member : d ∈ checkLine settings file line)
    (place : 3 ≤ (d.category.index : Nat)) :
    LineCheck.arity ⟨file, some line.number⟩ line.text = some d := by
  rcases mem_checkLine_iff.mp member with label | opcode | form | arity
  · have other := label_index label
    omega
  · have other := opcode_index opcode
    omega
  · have other := form_index form
    omega
  · exact arity

end Categories

/-- The operands of an unknown opcode are not held against it. -/
theorem arity_eq_none_of_opcode (found : LineCheck.opcode alphabet origin text = some d) :
    LineCheck.arity origin text = none := by
  apply (arity_eq_none_iff origin text).mpr
  intro opcode read i row
  have silent : LineCheck.opcode alphabet origin text = none := by
    apply (opcode_eq_none_iff alphabet origin text).mpr
    intro other same
    obtain rfl := Option.some.inj (read.symm.trans same)
    exact ⟨i, row⟩
  cases silent.symm.trans found

/-- One of the four checks is silent: that of the opcode, or else that of its operands. -/
theorem checkLine_length_le (settings : Settings) (file : String) (line : ProgramLine) :
    (checkLine settings file line).length ≤ 3 := by
  apply Nat.le_of_lt_succ
  rw [checkLine]
  apply List.length_filterMap_lt_length_iff_exists.mpr
  cases found : LineCheck.opcode settings.alphabet ⟨file, some line.number⟩ line.text with
  | none => exact ⟨none, by simp, rfl⟩
  | some d =>
    refine ⟨LineCheck.arity ⟨file, some line.number⟩ line.text, ?_, arity_eq_none_of_opcode found⟩
    simp

theorem checkLine_compatible (settings : Settings) (file : String) (line : ProgramLine) :
    Compatible line (checkLine settings file line) where
  few := checkLine_length_le settings file line
  errors _ := isError_of_mem_checkLine
  ascending := checkLine_ascending settings file line
  exclusive := by
    intro d first opcode e second arity
    have late : 3 ≤ (e.category.index : Nat) := by
      simp only [List.mem_cons, List.not_mem_nil, or_false] at arity
      rcases arity with same | same | same <;> rw [same] <;> decide
    have unknown := opcode_of_index first (by rw [opcode]; rfl)
    cases (arity_eq_none_of_opcode unknown).symm.trans (arity_of_index second late)
  bare := by
    intro bare d member
    rcases mem_checkLine_iff.mp member with label | opcode | form | arity
    · exact (label_reports label).1
    · obtain ⟨-, opcode, read, -⟩ := opcode_reports opcode
      cases bare.symm.trans read
    · obtain ⟨-, operand, held, -⟩ := form_reports form
      have none : (Line.split line.text).operands = [] := EndLines.operands_of_bare bare
      rw [none] at held
      cases held
    · obtain ⟨opcode, i, token, read, -⟩ := arity_reports arity
      cases bare.symm.trans read

section Target

variable {line : ProgramLine} {opcode : Token} {i : Instruction}

theorem colon_not_mem_of_isWellFormed (wellFormed : Operand.isWellFormed text = true) :
    ':' ∉ text.toList := by
  apply colon_not_mem_of_wellFormed
  rw [WellFormed, String.ofList_toList]
  exact (isWellFormed_iff text).mp wellFormed

theorem isWellFormed_of_colon {name : String} (spelled : text = name ++ ":") :
    Operand.isWellFormed text = false := by
  rw [Bool.eq_false_iff]
  intro wellFormed
  exact colon_not_mem_of_isWellFormed wellFormed (by simp [spelled])

/-- What a constraint accepts is well-formed, unless it is a label with a colon. -/
theorem illFormed_iff {c : Constraint} (accepted : c.accepts text = true) :
    Operand.isWellFormed text = false ↔
      c = .label ∧ ∃ name : String, IsName name.toList ∧ text = name ++ ":" := by
  constructor
  · intro illFormed
    have neither := Bool.eq_false_iff.mp illFormed
    rw [ne_eq, isWellFormed_iff, not_or, not_or] at neither
    obtain ⟨register, octal, identifier⟩ := neither
    cases c with
    | sourceOrDestination =>
      rcases Bool.or_eq_true_iff.mp accepted with held | held
      · exact absurd held register
      · exact absurd held identifier
    | octal => exact absurd accepted octal
    | label =>
      have named : IsName (Operand.stripColon text).toList :=
        (isIdentifier_iff_isName _).mp accepted
      rcases (stripColon_eq_iff named).mp rfl with plain | spelled
      · rw [plain] at identifier
        exact absurd accepted identifier
      · exact ⟨rfl, _, named, spelled⟩
  · rintro ⟨-, name, -, spelled⟩
    exact isWellFormed_of_colon spelled

/-- Each operand that fits has a constraint, which accepts it. -/
theorem accepted_at {parts : Line.Parts} {operand : Token} {index : Nat}
    (accepted : List.Forall₂ (fun c text => c.accepts text = true) i.operands parts.operandTexts)
    (held : parts.operands[index]? = some operand) :
    ∃ c, i.operands[index]? = some c ∧ c.accepts operand.text = true := by
  obtain ⟨number, met⟩ := List.forall₂_iff_zip.mp accepted
  have text : parts.operandTexts[index]? = some operand.text := by
    simp [Line.Parts.operandTexts, held]
  have bound : index < i.operands.length := by
    rw [number]
    exact (List.getElem?_eq_some_iff.mp text).1
  have constraint := List.getElem?_eq_getElem bound
  refine ⟨_, constraint, met ?_⟩
  exact List.mem_iff_getElem?.mpr ⟨index, List.getElem?_zip_eq_some.mpr ⟨constraint, text⟩⟩

/-- Where the operands fit the instruction, an ill-formed one is a branch target with a colon. -/
theorem colonTarget_iff (read : line.parts.opcode = some opcode)
    (row : Instruction.find? opcode.text = some i)
    (accepted : List.Forall₂ (fun c text => c.accepts text = true) i.operands
      line.parts.operandTexts) (target : Token) :
    ColonTarget line target ↔
      target ∈ line.parts.operands ∧ Operand.isWellFormed target.text = false := by
  constructor
  · rintro ⟨name, ⟨⟨_, _, _, _, held⟩, _, _⟩, spelled⟩
    exact ⟨List.mem_of_getElem? held, isWellFormed_of_colon spelled⟩
  · rintro ⟨member, illFormed⟩
    obtain ⟨index, held⟩ := List.mem_iff_getElem?.mp member
    obtain ⟨c, constraint, accepts⟩ := accepted_at accepted held
    obtain ⟨rfl, name, named, spelled⟩ := (illFormed_iff accepts).mp illFormed
    have branches : Instruction.branchTarget? opcode.text = some index := by
      rw [Instruction.branchTarget?, row, Option.bind_some]
      exact targetIndex?_of_label (find?_eq_some_iff.mp row).1 constraint
    refine ⟨name, ⟨?_, .inr spelled, named⟩, spelled⟩
    exact ⟨opcode, index, read, branchTarget?_eq_some_iff.mp branches, held⟩

/-- What the check of operands says about operands that fit. -/
theorem form_of_accepted (origin : Origin) (read : line.parts.opcode = some opcode)
    (row : Instruction.find? opcode.text = some i)
    (accepted : List.Forall₂ (fun c text => c.accepts text = true) i.operands
      line.parts.operandTexts) :
    (LineCheck.form origin line.text ≠ none ↔ ∃ target, ColonTarget line target) ∧
      ∀ d, LineCheck.form origin line.text = some d → ∃ target, ColonTarget line target ∧
        d.subject = some target.text ∧ d.location = origin.at target.column := by
  have targets := colonTarget_iff read row accepted
  simp only [targets]
  constructor
  · rw [ne_eq, LineCheck.form, Option.map_eq_none_iff, List.find?_eq_none]
    simp [ProgramLine.parts]
  · intro d found
    obtain ⟨target, first, rfl⟩ := Option.map_eq_some_iff.mp found
    have illFormed : Operand.isWellFormed target.text = false := by
      simpa using List.find?_some first
    exact ⟨target, ⟨List.mem_of_find?_eq_some first, illFormed⟩, rfl, rfl⟩

end Target

/-- A line gets at most three findings, all errors and in the order of their categories, and some of
them never meet. Where the number and the types of the operands of a known opcode are right, an
operand is reported as ill-formed exactly if it is the target of a branch and a name with a colon. -/
theorem checks_overlap (settings : Settings) (file : String) (line : ProgramLine) :
    Compatible line (checkLine settings file line) ∧
      ∀ origin, ∀ opcode ∈ line.parts.opcode, opcode.text ∈ Instruction.mnemonics →
        LineCheck.arity origin line.text = none →
          (LineCheck.form origin line.text ≠ none ↔ ∃ target, ColonTarget line target) ∧
            ∀ d, LineCheck.form origin line.text = some d → ∃ target, ColonTarget line target ∧
              d.subject = some target.text ∧ d.location = origin.at target.column := by
  refine ⟨checkLine_compatible settings file line, ?_⟩
  intro origin opcode read known silent
  obtain ⟨i, listed, named⟩ := List.mem_map.mp known
  have row := find?_eq_some_iff.mpr ⟨listed, named⟩
  have accepted := (arity_eq_none_iff origin line.text).mp silent opcode read i row
  exact form_of_accepted origin read row accepted

/-- The first and the third operand are spelled alike but for a colon. -/
theorem checks_overlap_branch :
    let line : ProgramLine := ⟨7, "A1:BEQ DONE,R2 ,DONE:"⟩
    LineCheck.arity {} line.text = none ∧ ColonTarget line ⟨"DONE:", 17⟩ ∧
      LineCheck.form {} line.text ≠ none ∧ Compatible line (checkLine {} "a.mal" line) := by
  intro line
  have silent : LineCheck.arity {} line.text = none := by decide
  have read : line.parts.opcode = some ⟨"BEQ", 4⟩ := by decide
  have named : IsName "DONE".toList := (isIdentifier_iff_isName "DONE").mp (by decide)
  have target : ColonTarget line ⟨"DONE:", 17⟩ :=
    ⟨"DONE", ⟨⟨⟨"BEQ", 4⟩, 2, read, by decide, by decide⟩, .inr rfl, named⟩, rfl⟩
  obtain ⟨compatible, targets⟩ := checks_overlap {} "a.mal" line
  have reported := (targets {} ⟨"BEQ", 4⟩ read (by decide) silent).1.mpr ⟨_, target⟩
  exact ⟨silent, target, reported, compatible⟩

end MalLint.CheckOverlap
