import MalLint.Proofs.LineReports
import MalLint.Proofs.SourceComposition

/-! What the pass over labels leaves out. It says nothing about a branch without a target, about a
target that is no name, and about a label that is no name. The checks of the same line report each
of them, except for the empty label, which no rule is about. -/
namespace MalLint.WiringGaps

open LineLayout LineRules LineReports LabelWiring Verdict SourceComposition

/-- The opcodes that branch, each with the position of its target among the operands. -/
def targets : List (String × Nat) :=
  [("BR", 0), ("BEQ", 2), ("BLT", 2), ("BGT", 2)]

/-- What a check says about a line is among the findings about the line, as an error of one of the
categories. -/
def Reported (report : Origin → String → Option Diagnostic) (categories : List Category)
    (file : String) (entry : LineFindings) : Prop :=
  ∃ d ∈ entry.diagnostics, report ⟨file, some entry.line.number⟩ entry.line.text = some d ∧
    d.category ∈ categories ∧ d.isError = true

/-- The number or the types of the operands are reported. -/
def MisfitReported : String → LineFindings → Prop :=
  Reported LineCheck.arity [.tooManyOperands, .tooFewOperands, .invalidOperandType]

/-- The label is reported as ill-formed. -/
def LabelReported : String → LineFindings → Prop :=
  Reported LineCheck.label [.illFormedLabel]

/-- A line that branches to the operand in a position is not passed over. -/
structure BranchCovered (program : Program) (entry : LineFindings) (index : Nat) : Prop where
  /-- Without a target that is a name, the line has a wrong number or type of operands. -/
  unnamed : (¬∃ target, entry.line.parts.operands[index]? = some target ∧
      Operand.isIdentifier (Operand.stripColon target.text) = true) →
    MisfitReported program.file entry
  /-- Otherwise the target is declared, or the line gets the one error about it. -/
  settled : MisfitReported program.file entry ∨
    ∃ target, entry.line.parts.operands[index]? = some target ∧
      (Operand.stripColon target.text ∈ labels program ∨
        ∃ d, stray? program.file (labels program) entry.line = some d ∧
          d.category = .danglingBranchTarget ∧ d.subject = some (Operand.stripColon target.text) ∧
          d.location = some ⟨program.file, entry.line.number, target.column⟩)

/-- A declared label is not passed over, unless it is empty. -/
structure LabelCovered (findings : Findings) (entry : LineFindings) (label : Token) : Prop where
  /-- A label that is no name is reported. -/
  illFormed : label.text ≠ "" → Operand.isIdentifier label.text = false →
    LabelReported findings.program.file entry
  /-- Any label that is not empty is reported, mentioned or warned about. -/
  nonempty : label.text ≠ "" → LabelReported findings.program.file entry ∨
    label.text ∈ mentions findings.program ∨
      ∃ d ∈ findings.wiring, d.category = .unreferencedLabel ∧ d.subject = some label.text
  /-- No finding is about an empty label. -/
  empty : label.text = "" → ¬LabelReported findings.program.file entry ∧
    ∀ d ∈ findings.wiring, d.category = .unreferencedLabel → d.subject ≠ some label.text

theorem branchTarget?_eq_some_iff :
    Instruction.branchTarget? mnemonic = some index ↔ (mnemonic, index) ∈ targets := by
  constructor
  · intro found
    obtain ⟨i, row, target⟩ := Option.bind_eq_some_iff.mp found
    obtain ⟨listed, rfl⟩ := find?_eq_some_iff.mp row
    have rows : ∀ i ∈ Instruction.table, ∀ index ∈ i.targetIndex?,
        (i.mnemonic, index) ∈ targets := by decide
    exact rows i listed index target
  · intro listed
    have entries : ∀ entry ∈ targets, Instruction.branchTarget? entry.1 = some entry.2 := by decide
    exact entries (mnemonic, index) listed

/-- If nothing is wrong with the number and the types of the operands of a branch, its target is a
name. -/
theorem named_of_arity_silent (read : (Line.split line).opcode = some opcode)
    (branches : Instruction.branchTarget? opcode.text = some index)
    (silent : LineCheck.arity origin line = none) :
    ∃ target, (Line.split line).operands[index]? = some target ∧
      Operand.isIdentifier (Operand.stripColon target.text) = true := by
  obtain ⟨i, row, position⟩ := Option.bind_eq_some_iff.mp branches
  have label := label_of_targetIndex? position
  have accepted := (arity_eq_none_iff origin line).mp silent opcode read i row
  obtain ⟨number, met⟩ := List.forall₂_iff_zip.mp accepted
  have bound : index < (Line.split line).operands.length := by
    have inside := (List.getElem?_eq_some_iff.mp label).1
    rwa [number, Line.Parts.operandTexts, List.length_map] at inside
  obtain ⟨target, held⟩ : ∃ target, (Line.split line).operands[index]? = some target :=
    ⟨_, List.getElem?_eq_getElem bound⟩
  have pair : (Constraint.label, target.text) ∈ i.operands.zip (Line.split line).operandTexts :=
    List.mem_iff_getElem?.mpr ⟨index,
      List.getElem?_zip_eq_some.mpr ⟨label, by simp [Line.Parts.operandTexts, held]⟩⟩
  exact ⟨target, held, met pair⟩

/-- The check of labels passes a declared label if it is empty or a name. -/
theorem label_silent_iff (origin : Origin) (read : (Line.split line).label = some label) :
    LineCheck.label origin line = none ↔
      label.text = "" ∨ Operand.isIdentifier label.text = true := by
  rw [candidate_silent_iff origin (beforeColon?_of_label read).1, ← String.toList_eq_nil_iff,
    Operand.isIdentifier]
  cases label.text.toList with
  | nil => simp
  | cons c name => simp [Operand.identifierLimit, and_comm]

/-- A check of a line whose findings are all kept is reported exactly if it is not silent. -/
private theorem reported_iff (listed : entry ∈ (Program.check settings program).lines)
    (kept : ∀ d, report ⟨program.file, some entry.line.number⟩ entry.line.text = some d →
      d ∈ entry.diagnostics ∧ d.category ∈ categories) :
    Reported report categories program.file entry ↔
      report ⟨program.file, some entry.line.number⟩ entry.line.text ≠ none := by
  constructor
  · rintro ⟨d, -, found, -⟩ silent
    exact absurd (silent.symm.trans found) (by simp)
  · intro speaks
    obtain ⟨d, found⟩ := Option.ne_none_iff_exists'.mp speaks
    obtain ⟨member, category⟩ := kept d found
    refine ⟨d, member, found, category, ?_⟩
    obtain ⟨line, -, rfl⟩ := List.mem_map.mp listed
    exact isError_of_mem_checkLine member

theorem misfitReported_iff (listed : entry ∈ (Program.check settings program).lines) :
    MisfitReported program.file entry ↔
      LineCheck.arity ⟨program.file, some entry.line.number⟩ entry.line.text ≠ none := by
  refine reported_iff listed fun d found => ⟨?_, ?_⟩
  · obtain ⟨line, -, rfl⟩ := List.mem_map.mp listed
    exact mem_checkLine_iff.mpr (.inr (.inr (.inr found)))
  · obtain ⟨opcode, i, token, -, -, -, -, misfit⟩ := arity_reports found
    generalize d.category = category at misfit ⊢
    cases misfit <;> simp

theorem labelReported_iff (listed : entry ∈ (Program.check settings program).lines) :
    LabelReported program.file entry ↔
      LineCheck.label ⟨program.file, some entry.line.number⟩ entry.line.text ≠ none := by
  refine reported_iff listed fun d found => ⟨?_, by simp [(label_reports found).1]⟩
  obtain ⟨line, -, rfl⟩ := List.mem_map.mp listed
  exact mem_checkLine_iff.mpr (.inl found)

theorem branch_covered (listed : entry ∈ (Program.check settings program).lines)
    (read : entry.line.parts.opcode = some opcode)
    (branches : Instruction.branchTarget? opcode.text = some index) :
    BranchCovered program entry index := by
  have unnamed : (¬∃ target, entry.line.parts.operands[index]? = some target ∧
      Operand.isIdentifier (Operand.stripColon target.text) = true) →
        MisfitReported program.file entry := by
    intro nameless
    apply (misfitReported_iff listed).mpr
    intro silent
    exact nameless (named_of_arity_silent read branches silent)
  refine ⟨unnamed, ?_⟩
  by_cases named : ∃ target, entry.line.parts.operands[index]? = some target ∧
      Operand.isIdentifier (Operand.stripColon target.text) = true
  · obtain ⟨target, held, identifier⟩ := named
    refine .inr ⟨target, held, ?_⟩
    by_cases declared : Operand.stripColon target.text ∈ labels program
    · exact .inl declared
    · have found : Wiring.branchTarget? entry.line = some target := by
        simp [Wiring.branchTarget?, read, branches, held]
      have report : stray? program.file (labels program) entry.line = some
          ⟨.danglingBranchTarget,
            s!"the token '{Operand.stripColon target.text}' has no label to branch to",
            some ⟨program.file, entry.line.number, target.column⟩,
            some (Operand.stripColon target.text), none⟩ := by
        simp [stray?, found, identifier, declared]
      exact .inr ⟨_, report, rfl, rfl, rfl⟩
  · exact .inl (unnamed named)

theorem label_covered (listed : entry ∈ (Program.check settings program).lines)
    (read : entry.line.parts.label = some label) :
    LabelCovered (Program.check settings program) entry label := by
  have reported := labelReported_iff listed
  have silent := label_silent_iff ⟨program.file, some entry.line.number⟩ read
  have declared : label.text ∈ labels program := by
    obtain ⟨line, inside, rfl⟩ := List.mem_map.mp listed
    exact List.mem_filterMap.mpr ⟨line, inside, by simp [read]⟩
  have illFormed (filled : label.text ≠ "") (nameless : Operand.isIdentifier label.text = false) :
      LabelReported program.file entry := by
    apply reported.mpr
    intro quiet
    rcases silent.mp quiet with empty | named
    · exact filled empty
    · exact absurd named (by simp [nameless])
  refine ⟨illFormed, ?_, ?_⟩
  · intro filled
    by_cases named : Operand.isIdentifier label.text = true
    · by_cases mentioned : label.text ∈ mentions program
      · exact .inr (.inl mentioned)
      · obtain ⟨d, member, subject⟩ := (warned_iff program label.text).mpr
          ⟨declared, named, mentioned⟩
        exact .inr (.inr ⟨d, List.mem_append_left _ member, unreferenced_category member, subject⟩)
    · exact .inl (illFormed filled (by simpa using named))
  · intro empty
    refine ⟨fun speaks => reported.mp speaks (silent.mpr (.inl empty)), ?_⟩
    intro d member category subject
    rcases List.mem_append.mp member with warning | error
    · obtain ⟨-, named, -⟩ := (warned_iff program label.text).mp ⟨d, warning, subject⟩
      rw [empty] at named
      exact absurd named (by decide)
    · exact absurd (category.symm.trans (dangling_category error)) (by decide)

/-- Nothing that the pass over labels leaves out goes unreported. The errors about branch targets
come one by one from the lines, and each line that branches is reported for its operands, or its
target is declared, or it gets its error. Each label is reported, mentioned or warned about, except
for the empty one. -/
theorem nothing_left_out (settings : Settings) (program : Program) :
    wiringOf .danglingBranchTarget (program.check settings) =
        program.lines.filterMap (stray? program.file (labels program)) ∧
      ∀ entry ∈ (program.check settings).lines,
        (∀ opcode index, entry.line.parts.opcode = some opcode → (opcode.text, index) ∈ targets →
          BranchCovered program entry index) ∧
        ∀ label, entry.line.parts.label = some label →
          LabelCovered (program.check settings) entry label := by
  refine ⟨?_, fun entry listed => ⟨?_, fun label read => label_covered listed read⟩⟩
  · rw [wiringOf_danglingBranchTarget, dangling_eq]
  · intro opcode index read target
    exact branch_covered listed read (branchTarget?_eq_some_iff.mpr target)

theorem nothing_left_out_octal_target :
    let program : Program := ⟨[⟨4, "X1: BR 7:"⟩, ⟨5, ":BR X1"⟩], "a.mal"⟩
    let entry : LineFindings := ⟨⟨4, "X1: BR 7:"⟩, checkLine {} "a.mal" ⟨4, "X1: BR 7:"⟩⟩
    entry ∈ (program.check {}).lines ∧ MisfitReported "a.mal" entry ∧
      LabelReported "a.mal" entry := by
  intro program entry
  have listed : entry ∈ (program.check {}).lines := List.mem_cons_self
  have covered := (nothing_left_out {} program).2 entry listed
  have branch : BranchCovered program entry 0 := covered.1 ⟨"BR", 5⟩ 0 (by decide) (by decide)
  have label := covered.2 ⟨"X1", 1⟩ (by decide)
  refine ⟨listed, branch.unnamed ?_, label.illFormed (by decide) (by decide)⟩
  rintro ⟨target, held, named⟩
  have spelled : entry.line.parts.operands[0]? = some ⟨"7:", 8⟩ := by decide
  obtain rfl := Option.some.inj (held.symm.trans spelled)
  exact absurd named (by decide)

end MalLint.WiringGaps
