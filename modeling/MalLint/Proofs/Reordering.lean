import MalLint.Proofs.SourceComposition
import Mathlib.Data.List.FinRange

/-! The lines of a program in another order. Labels and branches find each other wherever they
stand, so if every line keeps its number, a new order of the lines moves the findings about them and
changes neither the errors nor the names that are warned about. Of the findings about END only the
one that an END is not the last depends on the order. -/
namespace MalLint.Reordering

open LabelWiring SourceComposition Verdict

/-- The program made of lines that bring their numbers. -/
def numberedProgram (file : String) (lines : List (Int × String)) : Program :=
  Program.ofLines (lines.map fun (number, text) => (some number, text)) file

/-- The elements in another order: at each place stands what stood at the place that `order`
gives. -/
def rearranged (elements : List α) (order : Equiv.Perm (Fin elements.length)) : List α :=
  List.ofFn fun place => elements.get (order place)

/-- The findings about one program in two orders of its lines, where the order of the lines is set
aside. -/
structure SameButOrder (first second : Findings) : Prop where
  /-- The same branches lead nowhere, with the same subjects and locations. -/
  dangling : (wiringOf .danglingBranchTarget second).Perm (wiringOf .danglingBranchTarget first)
  /-- The same names are warned about, each once. -/
  unreferenced : ((wiringOf .unreferencedLabel second).map (·.subject)).Perm
    ((wiringOf .unreferencedLabel first).map (·.subject))
  valid : second.isValid = first.isValid
  errors : second.tally.errors = first.tally.errors
  /-- The same identifiers are in use. -/
  identifiers : second.identifiers.Perm first.identifiers
  /-- That there is no END is found in both or in neither. -/
  endMissing : (∃ d ∈ second.ending, d.category = .endMissing) ↔
    ∃ d ∈ first.ending, d.category = .endMissing

theorem numberedProgram_eq (file : String) (lines : List (Int × String)) :
    numberedProgram file lines = ⟨lines.map fun line => ⟨line.1, line.2⟩, file⟩ := by
  have unnumbered (start : Nat) :
      ((lines.map fun line => (some line.1, line.2)).zipIdx start).map
          (fun entry => (⟨entry.1.1.getD entry.2, entry.1.2⟩ : ProgramLine)) =
        lines.map fun line => ⟨line.1, line.2⟩ := by
    induction lines generalizing start with
    | nil => rfl
    | cons line rest ih => exact congrArg (_ :: ·) (ih (start + 1))
  exact congrArg (Program.mk · file) (unnumbered 1)

theorem rearranged_perm (elements : List α) (order : Equiv.Perm (Fin elements.length)) :
    (rearranged elements order).Perm elements := by
  have moved := order.ofFn_comp_perm elements.get
  rwa [List.ofFn_get] at moved

theorem labels_perm {first second : Program} (lines : second.lines.Perm first.lines) :
    (labels second).Perm (labels first) :=
  lines.filterMap _

theorem mentions_perm {first second : Program} (lines : second.lines.Perm first.lines) :
    (mentions second).Perm (mentions first) :=
  lines.flatMap_right _

theorem stray?_congr (same : ∀ name, name ∈ declared ↔ name ∈ others) (file : String)
    (line : ProgramLine) : stray? file declared line = stray? file others line := by
  simp only [stray?, same]

/-- Whether a branch leads nowhere depends on which names are declared, not on where. -/
theorem dangling_perm {first second : Program} (file : second.file = first.file)
    (lines : second.lines.Perm first.lines) :
    (Wiring.dangling second).Perm (Wiring.dangling first) := by
  have known := stray?_congr (fun name => (labels_perm lines).mem_iff) first.file
  rw [dangling_eq, dangling_eq, file, List.filterMap_congr fun line _ => known line]
  exact lines.filterMap _

theorem unreferenced_subjects_nodup (program : Program) :
    ((Wiring.unreferenced program).map (·.subject)).Nodup := by
  have once := distinctBy_pairwise (·.text) (declarations program)
  rw [unreferenced_eq, List.map_map, List.Nodup, List.pairwise_map]
  exact (once.filter _).imp fun differ same => differ (Option.some.inj same)

/-- The first declaration of a name may be another one, but its name is warned about in either
order. -/
theorem unreferenced_subjects_perm {first second : Program}
    (lines : second.lines.Perm first.lines) :
    ((Wiring.unreferenced second).map (·.subject)).Perm
      ((Wiring.unreferenced first).map (·.subject)) := by
  refine (List.perm_ext_iff_of_nodup (unreferenced_subjects_nodup second)
    (unreferenced_subjects_nodup first)).mpr fun subject => ?_
  cases subject with
  | none =>
    have named (program : Program) : none ∉ (Wiring.unreferenced program).map (·.subject) := by
      simp [unreferenced_eq, unmentioned]
    exact iff_of_false (named second) (named first)
  | some name =>
    rw [List.mem_map, List.mem_map, warned_iff, warned_iff, (labels_perm lines).mem_iff,
      (mentions_perm lines).mem_iff]

theorem errors_perm (settings : Settings) {first second : Program}
    (file : second.file = first.file) (lines : second.lines.Perm first.lines) :
    ((second.check settings).diagnostics.filter (·.isError)).Perm
      ((first.check settings).diagnostics.filter (·.isError)) := by
  rw [diagnostics_filter_isError, diagnostics_filter_isError]
  refine List.Perm.append ?_ (dangling_perm file lines)
  rw [file]
  exact lines.flatMap_right _

theorem identifiers_perm (settings : Settings) {first second : Program}
    (lines : second.lines.Perm first.lines) :
    (second.check settings).identifiers.Perm (first.check settings).identifiers := by
  simp only [Program.check, distinctWords_eq_distinctBy]
  refine (List.perm_ext_iff_of_nodup (distinct_nodup _) (distinct_nodup _)).mpr fun name => ?_
  rw [mem_distinct, mem_distinct]
  exact (lines.flatMap_right _).mem_iff

theorem ends_length (program : Program) :
    program.ends.length =
      program.tokens.countP fun token =>
        token.role = .opcode && token.text == Instruction.endMnemonic := by
  have tokens : program.tokens = program.tokens.zipIdx.map (·.1) := by simp
  conv => rhs; rw [tokens]
  rw [Program.ends, ← List.countP_eq_length_filter, List.countP_map]
  rfl

/-- A new order of the lines keeps the number of ENDs. -/
theorem ends_length_eq {first second : Program} (lines : second.lines.Perm first.lines) :
    second.ends.length = first.ends.length := by
  rw [ends_length, ends_length]
  exact (lines.flatMap_right _).countP_eq _

/-- Whatever else is reported, that there is no END is found where there is none. -/
theorem endMissing_iff (policy : EndPolicy) (program : Program) :
    (∃ d ∈ EndPlacement.check policy program, d.category = .endMissing) ↔
      program.ends.length = 0 := by
  cases ends : program.ends with
  | nil => simp [EndPlacement.check, ends, EndPlacement.missing]
  | cons first later =>
    refine iff_of_false ?_ (by simp)
    rintro ⟨d, member, category⟩
    rcases mem_ending_of_ends ends member with rfl | ⟨other, -, rfl⟩ <;> cases category

/-- Where each repeated END is reported, all but one are. -/
theorem duplicated_every (program : Program) :
    (EndPlacement.check .every program).countP (·.category = .endDuplicated) =
      program.ends.length - 1 := by
  cases ends : program.ends with
  | nil => simp [EndPlacement.check, ends, EndPlacement.missing]
  | cons entry later =>
    have repeated : (later.map fun entry => EndPlacement.duplicated program entry.1).countP
        (·.category = .endDuplicated) = later.length := by
      simp [List.countP_map, EndPlacement.duplicated, Function.comp_def]
    simp only [EndPlacement.check, ends, List.countP_append, repeated, List.length_cons]
    split <;> simp [EndPlacement.notLast]

theorem check_perm (settings : Settings) {first second : Program}
    (file : second.file = first.file) (lines : second.lines.Perm first.lines) :
    SameButOrder (first.check settings) (second.check settings) where
  dangling := by
    rw [wiringOf_danglingBranchTarget, wiringOf_danglingBranchTarget]
    exact dangling_perm file lines
  unreferenced := by
    rw [wiringOf_unreferencedLabel, wiringOf_unreferencedLabel]
    exact unreferenced_subjects_perm lines
  valid := by
    have none := (errors_perm settings file lines).length_eq
    rw [Bool.eq_iff_iff]
    simp only [Findings.isValid, Bool.not_eq_true', List.any_eq_false, ← List.filter_eq_nil_iff,
      ← List.length_eq_zero_iff, none]
  errors := by
    have count := (errors_perm settings file lines).length_eq
    rw [← List.countP_eq_length_filter, ← List.countP_eq_length_filter] at count
    exact (Tally.ofSeverity_ofList _ _).trans (count.trans (Tally.ofSeverity_ofList _ _).symm)
  identifiers := identifiers_perm settings lines
  endMissing := by
    simp only [Program.check, endMissing_iff, ends_length_eq lines]

/-- The lines of a program in another order, each with its number: the findings about single lines
move with the lines, and those about the whole stay the same, but for the order and for what is said
about the END that is not last. -/
theorem check_rearranged (settings : Settings) (file : String) (lines : List (Int × String))
    (order : Equiv.Perm (Fin lines.length)) :
    let first := (numberedProgram file lines).check settings
    let second := (numberedProgram file (rearranged lines order)).check settings
    (second.lines.length = lines.length ∧
      ∀ place : Fin lines.length, second.lines[place.val]? = first.lines[(order place).val]?) ∧
    SameButOrder first second ∧
    (settings.endDuplicates = .every →
      second.ending.countP (·.category = .endDuplicated) =
        first.ending.countP (·.category = .endDuplicated)) := by
  intro first second
  have moved : (numberedProgram file (rearranged lines order)).lines.Perm
      (numberedProgram file lines).lines := by
    rw [numberedProgram_eq, numberedProgram_eq]
    exact (rearranged_perm lines order).map _
  refine ⟨⟨?_, fun place => ?_⟩, check_perm settings rfl moved, fun every => ?_⟩
  · simp [second, Program.check, numberedProgram_eq, rearranged]
  · simp [first, second, Program.check, numberedProgram_eq, rearranged]
  · simp only [first, second, Program.check, every, duplicated_every, ends_length_eq moved]

/-- Two ENDs change places, one of them behind a label that the other line declares too. -/
theorem check_rearranged_two_ends :
    let lines : List (Int × String) := [(7, "END"), (3, "A: BR B"), (3, "A: END")]
    let order : Equiv.Perm (Fin lines.length) := Equiv.swap 0 2
    let second := (numberedProgram "a.mal" (rearranged lines order)).check {}
    rearranged lines order = [(3, "A: END"), (3, "A: BR B"), (7, "END")] ∧
      ({} : Settings).endDuplicates = .every ∧
      second.ending.countP (·.category = .endDuplicated) =
        ((numberedProgram "a.mal" lines).check {}).ending.countP (·.category = .endDuplicated) := by
  intro lines order second
  exact ⟨by decide, rfl, (check_rearranged {} "a.mal" lines order).2.2 rfl⟩

end MalLint.Reordering
