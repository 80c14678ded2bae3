import MalLint.Proofs.ReportTotals

/-! Tallies over time. Findings are counted one by one or in lists, and the counts are asked for in
between. Whatever the calls and their order, the tally is that of one list, which holds the findings
given so far; so each answer is a count over that list, and how it was cut up does not matter. -/
namespace MalLint.TallyHistory

open ReportTotals

/-- A call on a tally. -/
inductive Call where
  | add (d : Diagnostic)
  | extend (diagnostics : List Diagnostic)
  | count (category : Category)
  | categories (severity : Option Severity)
  deriving DecidableEq, Repr

/-- What a call answers. -/
inductive Answer where
  | nothing
  | count (number : Nat)
  | categories (entries : List (Category × Nat))
  deriving DecidableEq, Repr

/-- The findings that a call gives to be counted. -/
def Call.given : Call → List Diagnostic
  | .add d => [d]
  | .extend diagnostics => diagnostics
  | .count _ | .categories _ => []

/-- The tally after a call, and the answer. -/
def Call.perform (t : Tally) : Call → Tally × Answer
  | .add d => (t.add d, .nothing)
  | .extend diagnostics => (t.extend diagnostics, .nothing)
  | .count category => (t, .count (t.count category))
  | .categories severity => (t, .categories (t.categories severity))

/-- The tally after some calls. -/
def after (t : Tally) (calls : List Call) : Tally :=
  calls.foldl (fun t call => (call.perform t).1) t

/-- The findings given by a tally's first list and by the calls on it. -/
def given (initial : List Diagnostic) (calls : List Call) : List Diagnostic :=
  initial ++ calls.flatMap Call.given

/-- How many findings are of a category. -/
def number (diagnostics : List Diagnostic) (category : Category) : Nat :=
  diagnostics.countP (·.category = category)

/-- The categories of the findings with their numbers, in report order; of one severity if one is
asked for. -/
structure Lists (diagnostics : List Diagnostic) (severity : Option Severity)
    (entries : List (Category × Nat)) : Prop where
  ordered : entries.Pairwise fun a b => a.1.index < b.1.index
  mem : ∀ category count, (category, count) ∈ entries ↔
    (∀ asked ∈ severity, category.severity = asked) ∧ count ≠ 0 ∧
      count = number diagnostics category

/-- A tally accounts for the findings. -/
structure Accounts (diagnostics : List Diagnostic) (t : Tally) : Prop where
  count : ∀ category, t.count category = number diagnostics category
  total : t.total = diagnostics.length
  severities : t.errors + t.warnings = t.total
  hasErrors : t.hasErrors = true ↔ ∃ d ∈ diagnostics, d.isError = true
  lists : ∀ severity, Lists diagnostics severity (t.categories severity)
  sum : t.categories.foldr (fun entry sum => entry.2 + sum) 0 = t.total
  partition : (t.categories (some .error) ++ t.categories (some .warning)).Perm t.categories

/-- The answer that the findings ask for. -/
def Call.Answered (diagnostics : List Diagnostic) : Call → Answer → Prop
  | .add _, answer | .extend _, answer => answer = .nothing
  | .count category, answer => answer = .count (number diagnostics category)
  | .categories severity, answer =>
    ∃ entries, answer = .categories entries ∧ Lists diagnostics severity entries

section Runs

theorem extend_ofList (diagnostics more : List Diagnostic) :
    (Tally.ofList diagnostics).extend more = Tally.ofList (diagnostics ++ more) := by
  rw [Tally.ofList, Tally.ofList, Tally.extend, Tally.extend, Tally.extend, List.foldl_append]

/-- A call counts what it gives, and nothing else. -/
theorem perform_ofList (diagnostics : List Diagnostic) (call : Call) :
    (call.perform (Tally.ofList diagnostics)).1 = Tally.ofList (diagnostics ++ call.given) := by
  cases call with
  | add d => exact extend_ofList diagnostics [d]
  | extend more => exact extend_ofList diagnostics more
  | count category => rw [Call.given, List.append_nil]; rfl
  | categories severity => rw [Call.given, List.append_nil]; rfl

theorem after_ofList (initial : List Diagnostic) (calls : List Call) :
    after (Tally.ofList initial) calls = Tally.ofList (given initial calls) := by
  induction calls generalizing initial with
  | nil => rw [given, List.flatMap_nil, List.append_nil]; rfl
  | cons call rest ih =>
    rw [after, List.foldl_cons, perform_ofList, ← after, ih, given, given, List.flatMap_cons,
      List.append_assoc]

end Runs

section Counts

theorem count_ofList (diagnostics : List Diagnostic) (category : Category) :
    (Tally.ofList diagnostics).count category = number diagnostics category := by
  rw [Tally.ofList, Tally.count_extend, Tally.count_empty, Nat.zero_add, number]

theorem total_ofList (diagnostics : List Diagnostic) :
    (Tally.ofList diagnostics).total = diagnostics.length := by
  have once : Category.all.Nodup := by decide
  have none : Tally.empty.among Category.all = 0 := by decide
  have every : ∀ d ∈ diagnostics, decide (d.category ∈ Category.all) = true :=
    fun d _ => decide_eq_true (Category.mem_all d.category)
  rw [Tally.total, Tally.ofList, Tally.among_extend _ _ once, none, Nat.zero_add,
    List.countP_eq_length.mpr every]

theorem severities_ofList (diagnostics : List Diagnostic) :
    (Tally.ofList diagnostics).errors + (Tally.ofList diagnostics).warnings =
      diagnostics.length := by
  rw [Tally.errors, Tally.warnings, Tally.ofSeverity_ofList, Tally.ofSeverity_ofList,
    List.length_eq_countP_add_countP (·.severity = .error)]
  congr 1
  refine List.countP_congr fun d _ => ?_
  cases d.severity <;> simp

theorem hasErrors_ofList (diagnostics : List Diagnostic) :
    (Tally.ofList diagnostics).hasErrors = true ↔ ∃ d ∈ diagnostics, d.isError = true := by
  rw [Tally.hasErrors, decide_eq_true_iff, Tally.errors, Tally.ofSeverity_ofList,
    List.countP_pos_iff]
  rfl

end Counts

section Listings

theorem mem_categories_iff {t : Tally} {severity : Option Severity} {category : Category}
    {count : Nat} :
    (category, count) ∈ t.categories severity ↔
      (∀ asked ∈ severity, category.severity = asked) ∧ count ≠ 0 ∧ count = t.count category := by
  have kept (c : Category) : c ∈ Category.all.filter (fun c => severity.all (c.severity = ·)) ↔
      ∀ asked ∈ severity, c.severity = asked := by
    rw [List.mem_filter, and_iff_right (Category.mem_all c)]
    cases severity <;> simp
  rw [Tally.categories, List.mem_filterMap]
  constructor
  · rintro ⟨c, listed, met⟩
    obtain ⟨nonzero, same⟩ := Option.ite_none_left_eq_some.mp met
    obtain ⟨rfl, rfl⟩ := Prod.mk.inj (Option.some.inj same)
    exact ⟨(kept c).mp listed, nonzero, rfl⟩
  · rintro ⟨asked, nonzero, rfl⟩
    exact ⟨category, (kept category).mpr asked, if_neg nonzero⟩

theorem lists_ofList (diagnostics : List Diagnostic) (severity : Option Severity) :
    Lists diagnostics severity ((Tally.ofList diagnostics).categories severity) where
  ordered := categories_ordered _ severity
  mem category count := by rw [mem_categories_iff, count_ofList]

theorem categories_filter (t : Tally) (severity : Severity) :
    t.categories (some severity) = t.categories.filter (·.1.severity = severity) := by
  rw [Tally.categories, Tally.categories, List.filterMap_filter, List.filterMap_filter,
    List.filter_filterMap]
  refine List.filterMap_congr fun c _ => ?_
  by_cases met : t.count c = 0 <;> by_cases same : c.severity = severity <;>
    simp [met, same, Option.filter]

theorem categories_partition (t : Tally) :
    (t.categories (some .error) ++ t.categories (some .warning)).Perm t.categories := by
  have rest : t.categories (some .warning) =
      t.categories.filter fun entry => !decide (entry.1.severity = .error) := by
    rw [categories_filter]
    refine List.filter_congr fun entry _ => ?_
    cases entry.1.severity <;> rfl
  rw [categories_filter, rest]
  exact List.filter_append_perm _ _

end Listings

theorem accounts_ofList (diagnostics : List Diagnostic) :
    Accounts diagnostics (Tally.ofList diagnostics) where
  count := count_ofList diagnostics
  total := total_ofList diagnostics
  severities := by rw [severities_ofList, total_ofList]
  hasErrors := hasErrors_ofList diagnostics
  lists := lists_ofList diagnostics
  sum := sum_met _ _
  partition := categories_partition _

theorem answered_ofList (diagnostics : List Diagnostic) (call : Call) :
    call.Answered diagnostics (call.perform (Tally.ofList diagnostics)).2 := by
  cases call with
  | add d => rfl
  | extend more => rfl
  | count category => exact congrArg Answer.count (count_ofList diagnostics category)
  | categories severity => exact ⟨_, rfl, lists_ofList diagnostics severity⟩

/-- A tally is its counts. -/
theorem eq_of_count {t u : Tally} (same : ∀ category, t.count category = u.count category) :
    t = u := by
  -- Every place of the vector belongs to a category, so the counts leave none of it open.
  have reached : ∀ i : Fin 11, ∃ category ∈ Category.all, category.index = i := by decide
  obtain ⟨counts⟩ := t
  obtain ⟨others⟩ := u
  congr 1
  refine Vector.ext fun i bound => ?_
  obtain ⟨category, -, index⟩ := reached ⟨i, bound⟩
  simpa [Tally.count, index] using same category

theorem ofList_perm {diagnostics others : List Diagnostic} (same : diagnostics.Perm others) :
    Tally.ofList diagnostics = Tally.ofList others := by
  refine eq_of_count fun category => ?_
  rw [count_ofList, count_ofList, number, number, same.countP_eq]

theorem isValid_eq_not_hasErrors (findings : Findings) :
    findings.isValid = !findings.tally.hasErrors := by
  have errors := hasErrors_ofList findings.diagnostics
  rw [← List.any_eq_true, Bool.coe_iff_coe] at errors
  rw [Findings.isValid, Findings.tally, errors]

/-- Whatever calls are made on a tally, it accounts for the findings given so far and answers by
them; the same findings in another order, or handed over in other lists, leave the same tally. A
program is valid exactly if the tally of its findings has no errors. -/
theorem tally_accounts_for_calls :
    (∀ initial calls, Accounts (given initial calls) (after (Tally.ofList initial) calls)) ∧
    (∀ initial calls (call : Call), call.Answered (given initial calls)
      (call.perform (after (Tally.ofList initial) calls)).2) ∧
    (∀ initial calls other others, (given initial calls).Perm (given other others) →
      after (Tally.ofList initial) calls = after (Tally.ofList other) others) ∧
    ∀ findings : Findings, findings.isValid = !findings.tally.hasErrors := by
  refine ⟨fun initial calls => ?_, fun initial calls call => ?_,
    fun initial calls other others same => ?_, isValid_eq_not_hasErrors⟩
  · rw [after_ofList]
    exact accounts_ofList _
  · rw [after_ofList]
    exact answered_ofList _ call
  · rw [after_ofList, after_ofList]
    exact ofList_perm same

/-- An error and two warnings, given in one list after a question, or one by one with the error
last. -/
theorem tally_accounts_for_calls_regrouped :
    let error : Diagnostic := ⟨.invalidOpcode, "", none, none, none⟩
    let warning : Diagnostic := ⟨.endNotLast, "", none, none, none⟩
    let first := [Call.categories none, .extend [warning, error]]
    let second := [Call.add warning, .count .endNotLast, .add warning, .add error]
    (given [warning] first).Perm (given [] second) ∧
      after (Tally.ofList [warning]) first = after (Tally.ofList []) second := by
  intro error warning first second
  have same : (given [warning] first).Perm (given [] second) := by decide
  exact ⟨same, tally_accounts_for_calls.2.2.1 [warning] first [] second same⟩

end MalLint.TallyHistory
