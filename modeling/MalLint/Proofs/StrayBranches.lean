import MalLint.Proofs.Acceptance
import MalLint.Proofs.WiringGaps

/-! Branches that lead nowhere. Behind the warnings about unused labels stand the errors about
branches, one for each line whose target is spelled like a label and names none. What such a line
looks like is said here without the pass that finds it, and then shown to be what the pass reports,
line by line and in order. -/
namespace MalLint.StrayBranches

open Acceptance LabelWiring Verdict WiringGaps

/-- The line is a branch, and the operand in the position of its target spells a name. A colon
behind the name is let pass. -/
structure BranchesTo (line : ProgramLine) (target : Token) (name : String) : Prop where
  placed : ∃ opcode index, line.parts.opcode = some opcode ∧ (opcode.text, index) ∈ targets ∧
    line.parts.operands[index]? = some target
  spelled : target.text = name ∨ target.text = name ++ ":"
  named : IsName name.toList

/-- The line branches to a name that no line of the program declares. -/
def LeadsNowhere (program : Program) (line : ProgramLine) : Prop :=
  ∃ target name, BranchesTo line target name ∧ name ∉ labels program

/-- The finding is the error about the target of the line: it stands where the target stands and
is about the name without the colon. -/
def Reports (program : Program) (line : ProgramLine) (d : Diagnostic) : Prop :=
  ∃ target name, BranchesTo line target name ∧ name ∉ labels program ∧
    d = ⟨.danglingBranchTarget, s!"the token '{name}' has no label to branch to",
      some ⟨program.file, line.number, target.column⟩, some name, none⟩

/-- A name is read from a text that is the name, with or without a colon. -/
theorem stripColon_eq_iff (named : IsName name.toList) :
    Operand.stripColon text = name ↔ text = name ∨ text = name ++ ":" := by
  have plain : name.toList.getLast? ≠ some ':' := by
    intro last
    exact LineRules.isLetter_ne_colon (named.2.2 ':' (List.mem_of_getLast? last)) rfl
  constructor
  · intro stripped
    unfold Operand.stripColon at stripped
    split at stripped
    · rename_i colon
      right
      rw [← stripped, ← String.toList_inj, String.toList_append, String.toList_ofList]
      exact (List.dropLast_append_getLast? ':' colon).symm
    · exact .inl stripped
  · rintro (rfl | rfl)
    · rw [Operand.stripColon, if_neg plain]
    · simp [Operand.stripColon]

/-- The target that the pass over labels looks at is the operand in the position that belongs to
the opcode. -/
theorem target_iff :
    Wiring.branchTarget? line = some target ↔
      ∃ opcode index, line.parts.opcode = some opcode ∧ (opcode.text, index) ∈ targets ∧
        line.parts.operands[index]? = some target := by
  simp only [Wiring.branchTarget?, Option.bind_eq_bind, Option.bind_eq_some_iff,
    branchTarget?_eq_some_iff, exists_and_left]

theorem branchesTo_iff :
    BranchesTo line target name ↔
      Wiring.branchTarget? line = some target ∧ Operand.stripColon target.text = name ∧
        Operand.isIdentifier name = true := by
  rw [target_iff, isIdentifier_iff_isName]
  constructor
  · rintro ⟨placed, spelled, named⟩
    exact ⟨placed, (stripColon_eq_iff named).mpr spelled, named⟩
  · rintro ⟨placed, stripped, named⟩
    exact ⟨placed, (stripColon_eq_iff named).mp stripped, named⟩

/-- A line gets an error exactly if it is to get this one. -/
theorem stray?_eq_some_iff :
    stray? program.file (labels program) line = some d ↔ Reports program line d := by
  simp only [Reports, branchesTo_iff]
  constructor
  · intro found
    obtain ⟨target, branches, reported⟩ := Option.bind_eq_some_iff.mp found
    obtain ⟨⟨named, undeclared⟩, same⟩ := Option.ite_none_right_eq_some.mp reported
    exact ⟨target, _, ⟨branches, rfl, named⟩, undeclared, (Option.some.inj same).symm⟩
  · rintro ⟨target, _, ⟨branches, rfl, named⟩, undeclared, rfl⟩
    simp [stray?, branches, named, undeclared]

theorem leadsNowhere_iff : LeadsNowhere program line ↔ ∃ d, Reports program line d := by
  constructor
  · rintro ⟨target, name, branches, undeclared⟩
    exact ⟨_, target, name, branches, undeclared, rfl⟩
  · rintro ⟨d, target, name, branches, undeclared, -⟩
    exact ⟨target, name, branches, undeclared⟩

instance (program : Program) (line : ProgramLine) : Decidable (LeadsNowhere program line) :=
  decidable_of_iff ((stray? program.file (labels program) line).isSome = true) (by
    rw [leadsNowhere_iff, Option.isSome_iff_exists]
    exact exists_congr fun d => stray?_eq_some_iff)

theorem dangling_reports (program : Program) :
    List.Forall₂ (Reports program) (program.lines.filter (LeadsNowhere program ·))
      (Wiring.dangling program) := by
  rw [dangling_eq]
  induction program.lines with
  | nil => exact .nil
  | cons line rest ih =>
    cases found : stray? program.file (labels program) line with
    | none =>
      have silent : ¬LeadsNowhere program line := by
        rw [leadsNowhere_iff]
        rintro ⟨d, reports⟩
        rw [stray?_eq_some_iff.mpr reports] at found
        cases found
      rw [List.filterMap_cons_none found, List.filter_cons_of_neg (by simpa using silent)]
      exact ih
    | some d =>
      have reports : Reports program line d := stray?_eq_some_iff.mp found
      have stray : LeadsNowhere program line := leadsNowhere_iff.mpr ⟨d, reports⟩
      rw [List.filterMap_cons_some found, List.filter_cons_of_pos (by simpa using stray)]
      exact .cons reports ih

theorem mem_unreferenced_of_category (member : d ∈ Wiring.check program)
    (category : d.category = .unreferencedLabel) : d ∈ Wiring.unreferenced program := by
  rcases List.mem_append.mp member with warning | error
  · exact warning
  · cases category.symm.trans (dangling_category error)

theorem mem_dangling_of_category (member : d ∈ Wiring.check program)
    (category : d.category = .danglingBranchTarget) : d ∈ Wiring.dangling program := by
  rcases List.mem_append.mp member with warning | error
  · cases category.symm.trans (unreferenced_category warning)
  · exact error

/-- The findings about labels close with the errors about branches: in line order exactly one for
each line that branches to a name which no line declares, and nothing else stands behind the
warnings. So no name is warned about as unused and reported as missing. -/
theorem stray_branches_reported (program : Program) :
    ∃ warnings errors : List Diagnostic, Wiring.check program = warnings ++ errors ∧
      (∀ d ∈ warnings, d.category = .unreferencedLabel) ∧
      List.Forall₂ (Reports program) (program.lines.filter (LeadsNowhere program ·)) errors ∧
      ¬∃ warning ∈ Wiring.check program, ∃ error ∈ Wiring.check program,
        warning.category = .unreferencedLabel ∧ error.category = .danglingBranchTarget ∧
          warning.subject = error.subject := by
  refine ⟨Wiring.unreferenced program, Wiring.dangling program, rfl, ?_, dangling_reports program,
    ?_⟩
  · intro d member
    exact unreferenced_category member
  · rintro ⟨warning, warned, error, reported, unused, missing, same⟩
    have stray := mem_dangling_of_category reported missing
    rw [dangling_eq] at stray
    obtain ⟨line, -, found⟩ := List.mem_filterMap.mp stray
    obtain ⟨target, name, -, undeclared, rfl⟩ := stray?_eq_some_iff.mp found
    -- What is warned about is declared, what is reported is not.
    apply undeclared
    exact ((warned_iff program name).mp
      ⟨warning, mem_unreferenced_of_category warned unused, same⟩).1

end MalLint.StrayBranches
