import MalLint.Proofs.Verdict

/-! What settings can change. Of all that a user can choose, a check of a program sees the letters
that are tried for suggestions and the policy on repeated ENDs. The letters show in the hints about
unknown opcodes and nowhere else; the policy decides which ENDs are reported, but not whether there
is something to report. -/
namespace MalLint.SettingsInfluence

open Verdict

/-- The finding without its hint, if it is about an unknown opcode. -/
def withoutHint (d : Diagnostic) : Diagnostic :=
  if d.category = .invalidOpcode then { d with message := "", suggestion := none } else d

/-- The findings about a line, without hints. -/
def lineWithoutHints (entry : LineFindings) : LineFindings :=
  { entry with diagnostics := entry.diagnostics.map withoutHint }

/-- Two checks of one program come to the same verdict, and what else they say differs only where
the settings do. -/
structure SameVerdict (a b : Settings) (first second : Findings) : Prop where
  wiring : first.wiring = second.wiring
  identifiers : first.identifiers = second.identifiers
  isValid : first.isValid = second.isValid
  errors : first.tally.errors = second.tally.errors
  counts : ∀ category : Category, category.severity = .error →
    first.tally.count category = second.tally.count category
  lines : first.lines.map lineWithoutHints = second.lines.map lineWithoutHints
  hints : a.alphabet = b.alphabet → first.lines = second.lines
  ending : first.ending = [] ↔ second.ending = []
  policy : a.endDuplicates = b.endDuplicates → first.ending = second.ending

section Lines

theorem category_withoutHint (d : Diagnostic) : (withoutHint d).category = d.category := by
  unfold withoutHint
  split <;> rfl

/-- The letters show only in the hint. -/
theorem opcode_withoutHint (first second : String) (origin : Origin) (line : String) :
    (LineCheck.opcode first origin line).map withoutHint =
      (LineCheck.opcode second origin line).map withoutHint := by
  unfold LineCheck.opcode
  cases (Line.split line).opcode with
  | none => rfl
  | some opcode =>
    simp only
    by_cases known : Instruction.isMnemonic opcode.text = true
    · rw [if_pos known, if_pos known]
    · rw [if_neg known, if_neg known]
      rfl

theorem checkLine_withoutHint (a b : Settings) (file : String) (line : ProgramLine) :
    (checkLine a file line).map withoutHint = (checkLine b file line).map withoutHint := by
  have checks (settings : Settings) : (checkLine settings file line).map withoutHint =
      ([LineCheck.label ⟨file, some line.number⟩ line.text,
        LineCheck.opcode settings.alphabet ⟨file, some line.number⟩ line.text,
        LineCheck.form ⟨file, some line.number⟩ line.text,
        LineCheck.arity ⟨file, some line.number⟩ line.text].map
          (Option.map withoutHint)).filterMap id := by
    rw [checkLine, List.map_filterMap, List.filterMap_map]
    rfl
  have opcode := opcode_withoutHint a.alphabet b.alphabet ⟨file, some line.number⟩ line.text
  rw [checks, checks, List.map_cons, List.map_cons, opcode]
  rfl

/-- The categories of what is found on a line are the same under all settings. -/
theorem checkLine_categories (a b : Settings) (file : String) (line : ProgramLine) :
    (checkLine a file line).map (·.category) = (checkLine b file line).map (·.category) := by
  have same := congrArg (List.map (·.category)) (checkLine_withoutHint a b file line)
  simpa only [List.map_map, Function.comp_def, category_withoutHint] using same

theorem checkLine_of_alphabet {a b : Settings} (alphabet : a.alphabet = b.alphabet) :
    checkLine a = checkLine b := by
  funext file line
  rw [checkLine, checkLine, alphabet]

end Lines

section Errors

/-- The categories of the errors, in report order. -/
def errorCategories (findings : Findings) : List Category :=
  (findings.diagnostics.filter (·.isError)).map (·.category)

theorem isValid_eq (findings : Findings) :
    findings.isValid = (errorCategories findings).isEmpty := by
  rw [Bool.eq_iff_iff]
  simp [Findings.isValid, errorCategories]

theorem count_eq (findings : Findings) (error : category.severity = .error) :
    findings.tally.count category = (errorCategories findings).count category := by
  rw [Findings.tally, Tally.ofList, Tally.count_extend, Tally.count_empty, Nat.zero_add,
    errorCategories, List.count, List.countP_map, List.countP_filter]
  refine List.countP_congr fun d _ => ?_
  simp only [Function.comp_apply, decide_eq_true_eq, Bool.and_eq_true, beq_iff_eq]
  constructor
  · rintro rfl
    exact ⟨rfl, decide_eq_true error⟩
  · intro both
    exact both.1

theorem errors_eq (findings : Findings) :
    findings.tally.errors = (errorCategories findings).length := by
  rw [Tally.errors, Findings.tally, Tally.ofSeverity_ofList, List.countP_eq_length_filter,
    errorCategories, List.length_map]
  rfl

theorem errorCategories_check (a b : Settings) (program : Program) :
    errorCategories (program.check a) = errorCategories (program.check b) := by
  have lines : (program.lines.flatMap (checkLine a program.file)).map (·.category) =
      (program.lines.flatMap (checkLine b program.file)).map (·.category) := by
    simp only [List.map_flatMap, checkLine_categories a b]
  rw [errorCategories, errorCategories, diagnostics_filter_isError, diagnostics_filter_isError,
    List.map_append, List.map_append, lines]

end Errors

/-- Under either policy there is nothing to report about END exactly if it appears once, as the
last token. -/
theorem ending_eq_nil_iff (policy : EndPolicy) (program : Program) :
    EndPlacement.check policy program = [] ↔
      ∃ entry, program.ends = [entry] ∧ entry.2 + 1 = program.tokens.length := by
  cases ends : program.ends with
  | nil => simp [EndPlacement.check, ends]
  | cons first later =>
    cases later with
    | nil =>
      -- without a repeated END the policies agree
      cases policy <;> simp [EndPlacement.check, ends]
    | cons second rest =>
      -- the legacy policy clears what came before, but only to put a repeated END in its place
      refine iff_of_false ?_ (by simp)
      simp only [EndPlacement.check, ends]
      split
      · split <;> simp
      · simp

/-- Settings do not influence the verdict. Whatever two users choose, a check of a program finds the
same errors, labels and identifiers. The findings about its lines are the same but for the hints
about unknown opcodes, and these follow from the letters; those about END follow from the policy,
and under no policy does a misplaced END go unreported. -/
theorem check_sameVerdict (a b : Settings) (program : Program) :
    SameVerdict a b (program.check a) (program.check b) := by
  have errors := errorCategories_check a b program
  exact {
    wiring := rfl
    identifiers := rfl
    isValid := by rw [isValid_eq, isValid_eq, errors]
    errors := by rw [errors_eq, errors_eq, errors]
    counts := by
      intro category error
      rw [count_eq _ error, count_eq _ error, errors]
    lines := by
      simp only [Program.check, List.map_map]
      refine List.map_congr_left fun line _ => ?_
      simp only [Function.comp_apply, lineWithoutHints, checkLine_withoutHint a b]
    hints := by
      intro alphabet
      simp only [Program.check, checkLine_of_alphabet alphabet]
    ending := (ending_eq_nil_iff _ program).trans (ending_eq_nil_iff _ program).symm
    policy := by
      intro policy
      simp only [Program.check, policy] }

/-- Where the settings differ, hints and reported ENDs do as well. -/
theorem check_sameVerdict_apart :
    let program : Program := ⟨[⟨1, "END"⟩, ⟨2, "MOV R1, R2"⟩, ⟨3, "END"⟩], "a.mal"⟩
    let other : Settings := { endDuplicates := .legacy, alphabet := "X" }
    (program.check {}).lines ≠ (program.check other).lines ∧
      (program.check {}).ending ≠ (program.check other).ending ∧
      SameVerdict {} other (program.check {}) (program.check other) := by
  intro program other
  have hints : (program.check {}).lines ≠ (program.check other).lines := by decide +kernel
  have ending : (program.check {}).ending ≠ (program.check other).ending := by decide +kernel
  exact ⟨hints, ending, check_sameVerdict {} other program⟩

end MalLint.SettingsInfluence
