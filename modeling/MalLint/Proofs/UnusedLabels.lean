import MalLint.Proofs.Acceptance

/-! Labels that nothing uses. The warnings about them stand in front of all other findings about
labels. There is one for each well-formed name that some line declares and no line mentions, in the
order in which the names are first declared, and it points to the line that does so first. -/
namespace MalLint.UnusedLabels

open Acceptance LabelWiring Verdict

/-- The first line of a program that declares a name. -/
def firstDeclaring? (program : Program) (name : String) : Option ProgramLine :=
  program.lines.find? fun line => line.parts.label.any (·.text == name)

/-- The warning about a name, at the first column of the line that declares it first. -/
def warning (program : Program) (name : String) : Diagnostic :=
  ⟨.unreferencedLabel, s!"the label '{name}' is not being branched to",
    (firstDeclaring? program name).map fun line => ⟨program.file, line.number, 1⟩, some name, none⟩

/-- The well-formed names that are declared and not mentioned, each once, by first declaration. -/
def unusedNames (program : Program) : List String :=
  ((distinctBy (·.text) (declarations program)).filter fun token =>
    Operand.isIdentifier token.text && decide (token.text ∉ mentions program)).map (·.text)

/-- The declaration that is kept for a name is made by the first line that declares it. -/
theorem firstDeclaring?_of_kept {token : ProgramToken}
    (kept : token ∈ distinctBy (·.text) (declarations program)) :
    ∃ line, firstDeclaring? program token.text = some line ∧ declaration? line = some token := by
  have first := find?_of_mem_distinctBy kept
  rw [declarations, List.find?_filterMap] at first
  obtain ⟨line, found, declared⟩ := Option.bind_eq_some_iff.mp first
  refine ⟨line, ?_, declared⟩
  rw [← found, firstDeclaring?]
  congr 1
  funext line
  cases label : line.parts.label <;> simp [declaration?, label]

theorem warning_of_kept {token : ProgramToken}
    (kept : token ∈ distinctBy (·.text) (declarations program)) :
    unmentioned program.file token = warning program token.text := by
  obtain ⟨line, first, declared⟩ := firstDeclaring?_of_kept kept
  obtain ⟨label, labelled, rfl⟩ := Option.map_eq_some_iff.mp declared
  have column := (beforeColon?_of_label labelled).2
  simp only [unmentioned, warning, first, column]
  rfl

theorem unreferenced_eq_warnings (program : Program) :
    Wiring.unreferenced program = (unusedNames program).map (warning program) := by
  rw [unreferenced_eq, unusedNames, List.map_map]
  apply List.map_congr_left
  intro token member
  exact warning_of_kept (List.mem_filter.mp member).1

theorem mem_unusedNames (program : Program) (name : String) :
    name ∈ unusedNames program ↔
      name ∈ labels program ∧ IsName name.toList ∧ name ∉ mentions program := by
  have warned : name ∈ unusedNames program ↔
      ∃ d ∈ Wiring.unreferenced program, d.subject = some name := by
    simp [unreferenced_eq_warnings, warning]
  rw [warned, warned_iff, isIdentifier_iff_isName]

theorem unusedNames_inOrder (program : Program) :
    (unusedNames program).Pairwise fun a b =>
      (labels program).idxOf a < (labels program).idxOf b := by
  have order := distinctBy_inOrder (·.text) (declarations program)
  rw [declarations_map_text] at order
  rw [unusedNames, List.pairwise_map]
  exact order.filter _

theorem firstDeclaring?_of_mem_labels (declared : name ∈ labels program) :
    ∃ line, firstDeclaring? program name = some line := by
  obtain ⟨line, listed, labelled⟩ := List.mem_filterMap.mp declared
  obtain ⟨label, read, same⟩ := Option.map_eq_some_iff.mp labelled
  apply Option.isSome_iff_exists.mp
  rw [firstDeclaring?, List.find?_isSome]
  exact ⟨line, listed, by simp [read, same]⟩

/-- The findings about labels open with the warnings about unused ones: exactly one for each
well-formed name that some line declares and no line mentions, in order of first declaration and at
the line that makes it. -/
theorem unused_labels_warned (program : Program) :
    ∃ (names : List String) (others : List Diagnostic),
    Wiring.check program = names.map (warning program) ++ others ∧
      (∀ d ∈ others, d.category ≠ .unreferencedLabel) ∧ names.Nodup ∧
      names.Pairwise (fun a b => (labels program).idxOf a < (labels program).idxOf b) ∧
      (∀ name, name ∈ names ↔
        name ∈ labels program ∧ IsName name.toList ∧ name ∉ mentions program) ∧
      ∀ name ∈ names, ∃ line, firstDeclaring? program name = some line ∧
        (warning program name).location = some ⟨program.file, line.number, 1⟩ := by
  have order := unusedNames_inOrder program
  refine ⟨unusedNames program, Wiring.dangling program, ?_, ?_, ?_, order,
    mem_unusedNames program, ?_⟩
  · rw [Wiring.check, unreferenced_eq_warnings]
  · intro d member same
    cases same.symm.trans (dangling_category member)
  · apply order.imp
    intro a b before same
    rw [same] at before
    omega
  · intro name member
    have declared := ((mem_unusedNames program name).mp member).1
    obtain ⟨line, first⟩ := firstDeclaring?_of_mem_labels declared
    exact ⟨line, first, by rw [warning, first]; rfl⟩

end MalLint.UnusedLabels
