import MalLint.Check
import MalLint.Proofs.LabelWiring
import MalLint.Proofs.LineReports

/-! What makes a program invalid. All findings about single lines and about branches are errors, all
findings about unmentioned labels and about END are warnings, so a program is valid exactly if its
lines pass and none of them branches to nowhere. -/
namespace MalLint.Verdict

open LabelWiring LineReports

theorem unreferenced_category (member : d ∈ Wiring.unreferenced program) :
    d.category = .unreferencedLabel := by
  rw [unreferenced_eq] at member
  obtain ⟨token, -, rfl⟩ := List.mem_map.mp member
  rfl

theorem stray?_category (found : stray? file declared line = some d) :
    d.category = .danglingBranchTarget := by
  obtain ⟨target, -, reported⟩ := Option.bind_eq_some_iff.mp found
  obtain ⟨-, same⟩ := Option.ite_none_right_eq_some.mp reported
  rw [← Option.some.inj same]

theorem dangling_category (member : d ∈ Wiring.dangling program) :
    d.category = .danglingBranchTarget := by
  rw [dangling_eq] at member
  obtain ⟨line, -, found⟩ := List.mem_filterMap.mp member
  exact stray?_category found

theorem isError_eq (d : Diagnostic) : d.isError = decide (d.category.severity = .error) :=
  rfl

/-- Whatever is found on a line is an error. -/
theorem isError_of_mem_checkLine (member : d ∈ checkLine settings file line) :
    d.isError = true := by
  rw [isError_eq]
  rcases mem_checkLine_iff.mp member with label | opcode | form | arity
  · rw [(label_reports label).1]
    rfl
  · rw [(opcode_reports opcode).1]
    rfl
  · rw [(form_reports form).1]
    rfl
  · obtain ⟨opcode, i, token, -, -, -, -, misfit⟩ := arity_reports arity
    generalize d.category = category at misfit ⊢
    cases misfit <;> rfl

theorem isError_of_mem_unreferenced (member : d ∈ Wiring.unreferenced program) :
    d.isError = false := by
  rw [isError_eq, unreferenced_category member]
  rfl

theorem isError_of_mem_dangling (member : d ∈ Wiring.dangling program) : d.isError = true := by
  rw [isError_eq, dangling_category member]
  rfl

private theorem mem_cons_of_mem_ite_append {p : Prop} [Decidable p] {rest : List Diagnostic}
    (member : d ∈ (if p then [] else [first]) ++ rest) : d ∈ first :: rest := by
  split at member
  · exact List.mem_cons_of_mem first member
  · exact member

/-- If there is an END, the findings point at the first one or at those that repeat it. -/
theorem mem_ending_of_ends (ends : program.ends = first :: later)
    (member : d ∈ EndPlacement.check policy program) :
    d = EndPlacement.notLast program first.1 ∨
      ∃ entry ∈ later, d = EndPlacement.duplicated program entry.1 := by
  have listed : d ∈ EndPlacement.notLast program first.1 ::
      later.map fun entry => EndPlacement.duplicated program entry.1 := by
    simp only [EndPlacement.check, ends] at member
    split at member
    · rename_i last lastIndex final
      split at member
      · rw [List.mem_singleton.mp member]
        exact List.mem_cons_of_mem _ (List.mem_map_of_mem (List.mem_of_getLast? final))
      · exact mem_cons_of_mem_ite_append member
    · exact mem_cons_of_mem_ite_append member
  rcases List.mem_cons.mp listed with same | repeated
  · exact .inl same
  · obtain ⟨entry, inside, same⟩ := List.mem_map.mp repeated
    exact .inr ⟨entry, inside, same.symm⟩

/-- There are three findings about END; two of them point at an END of the program. -/
theorem ending_cases (member : d ∈ EndPlacement.check policy program) :
    d = EndPlacement.missing ∨ ∃ entry ∈ program.ends,
      d = EndPlacement.notLast program entry.1 ∨ d = EndPlacement.duplicated program entry.1 := by
  cases ends : program.ends with
  | nil => exact .inl (by simpa [EndPlacement.check, ends] using member)
  | cons first later =>
    rcases mem_ending_of_ends ends member with same | ⟨entry, inside, same⟩
    · exact .inr ⟨first, List.mem_cons_self, .inl same⟩
    · exact .inr ⟨entry, List.mem_cons_of_mem first inside, .inr same⟩

theorem isError_of_mem_ending (member : d ∈ EndPlacement.check policy program) :
    d.isError = false := by
  rcases ending_cases member with rfl | ⟨entry, -, rfl | rfl⟩ <;> rfl

/-- The errors are the findings about single lines, then the branches to nowhere. -/
theorem diagnostics_filter_isError (settings : Settings) (program : Program) :
    (program.check settings).diagnostics.filter (·.isError) =
      program.lines.flatMap (checkLine settings program.file) ++ Wiring.dangling program := by
  have lines : (program.lines.flatMap (checkLine settings program.file)).filter (·.isError) =
      program.lines.flatMap (checkLine settings program.file) := by
    refine List.filter_eq_self.mpr fun d member => ?_
    obtain ⟨line, -, found⟩ := List.mem_flatMap.mp member
    exact isError_of_mem_checkLine found
  have warnings : (Wiring.unreferenced program).filter (·.isError) = [] :=
    List.filter_eq_nil_iff.mpr fun d member => by simp [isError_of_mem_unreferenced member]
  have branches : (Wiring.dangling program).filter (·.isError) = Wiring.dangling program :=
    List.filter_eq_self.mpr fun d member => isError_of_mem_dangling member
  have ending : (EndPlacement.check settings.endDuplicates program).filter (·.isError) = [] :=
    List.filter_eq_nil_iff.mpr fun d member => by simp [isError_of_mem_ending member]
  simp only [Findings.diagnostics, Findings.wide, Program.check, Wiring.check, List.flatMap_map,
    List.filter_append, lines, warnings, branches, ending, List.nil_append, List.append_nil]

/-- A program is valid exactly if every line passes its checks and branches to a declared name, if
to any. -/
theorem isValid_iff (settings : Settings) (program : Program) :
    (program.check settings).isValid = true ↔
      ∀ line ∈ program.lines, checkLine settings program.file line = [] ∧
        stray? program.file (labels program) line = none := by
  have errors : (program.check settings).isValid = true ↔
      (program.check settings).diagnostics.filter (·.isError) = [] := by
    simp [Findings.isValid]
  rw [errors, diagnostics_filter_isError, List.append_eq_nil_iff, List.flatMap_eq_nil_iff,
    dangling_eq, List.filterMap_eq_nil_iff]
  exact forall₂_and.symm

end MalLint.Verdict
