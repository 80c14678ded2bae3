import MalLint.Diagnostic

/-! Counting findings by category. Main statement: a count is the number of findings of its category
among all that were given, in whatever order and grouping. -/
namespace MalLint

/-- One counter for each category, in report order. -/
structure Tally where
  counts : Vector Nat 11
  deriving DecidableEq, Repr

namespace Tally

/-- The tally before anything is counted. -/
def empty : Tally :=
  ⟨Vector.replicate 11 0⟩

/-- How many findings of a category were counted. -/
def count (t : Tally) (category : Category) : Nat :=
  t.counts[category.index]

/-- Counts one finding. -/
def add (t : Tally) (d : Diagnostic) : Tally :=
  ⟨t.counts.set d.category.index (t.count d.category + 1)⟩

/-- Counts every finding of a list. -/
def extend (t : Tally) (diagnostics : List Diagnostic) : Tally :=
  diagnostics.foldl add t

/-- The tally of a list of findings. -/
def ofList (diagnostics : List Diagnostic) : Tally :=
  empty.extend diagnostics

@[simp]
theorem count_empty (category : Category) : empty.count category = 0 := by
  simp [empty, count]

theorem count_add (t : Tally) (d : Diagnostic) (category : Category) :
    (t.add d).count category = t.count category + if d.category = category then 1 else 0 := by
  by_cases same : d.category = category
  · subst same
    simp [add, count]
  · have apart : d.category.index.val ≠ category.index.val :=
      fun equal => same (Category.index_injective (Fin.ext equal))
    simp [add, count, same, Vector.getElem_set_ne _ _ apart]

theorem count_extend (t : Tally) (diagnostics : List Diagnostic) (category : Category) :
    (t.extend diagnostics).count category =
      t.count category + diagnostics.countP (·.category = category) := by
  induction diagnostics generalizing t with
  | nil => rfl
  | cons d rest ih =>
    have step := ih (t.add d)
    rw [count_add] at step
    simp only [extend, List.foldl_cons, List.countP_cons, decide_eq_true_eq] at step ⊢
    omega

/-- The findings counted in some categories. -/
def among (t : Tally) (categories : List Category) : Nat :=
  categories.foldr (fun category sum => t.count category + sum) 0

theorem among_add (t : Tally) (d : Diagnostic) {categories : List Category}
    (once : categories.Nodup) :
    (t.add d).among categories =
      t.among categories + if d.category ∈ categories then 1 else 0 := by
  induction categories with
  | nil => rfl
  | cons category rest ih =>
    obtain ⟨fresh, once⟩ := List.nodup_cons.mp once
    have later := ih once
    simp only [among, List.foldr_cons, count_add, List.mem_cons] at later ⊢
    by_cases same : d.category = category
    · simp only [same, fresh, ↓reduceIte, true_or] at later ⊢
      omega
    · simp only [same, ↓reduceIte, false_or] at later ⊢
      omega

theorem among_extend (t : Tally) (diagnostics : List Diagnostic) {categories : List Category}
    (once : categories.Nodup) :
    (t.extend diagnostics).among categories =
      t.among categories + diagnostics.countP (·.category ∈ categories) := by
  induction diagnostics generalizing t with
  | nil => rfl
  | cons d rest ih =>
    have step := ih (t.add d)
    rw [among_add t d once] at step
    simp only [extend, List.foldl_cons, List.countP_cons, decide_eq_true_eq] at step ⊢
    omega

/-- The findings counted with one severity. -/
def ofSeverity (t : Tally) (severity : Severity) : Nat :=
  t.among (Category.all.filter (·.severity = severity))

/-- The count of a severity is the number of findings with it. -/
theorem ofSeverity_ofList (diagnostics : List Diagnostic) (severity : Severity) :
    (ofList diagnostics).ofSeverity severity =
      diagnostics.countP (·.severity = severity) := by
  have once : (Category.all.filter (·.severity = severity)).Nodup := by
    cases severity <;> decide
  have none : empty.among (Category.all.filter (·.severity = severity)) = 0 := by
    cases severity <;> decide
  rw [ofSeverity, ofList, among_extend empty diagnostics once, none, Nat.zero_add]
  refine List.countP_congr fun d _ => ?_
  rw [decide_eq_true_iff, List.mem_filter, and_iff_right (Category.mem_all d.category)]
  rfl

/-- The errors counted. -/
def errors (t : Tally) : Nat :=
  t.ofSeverity .error

/-- The warnings counted. -/
def warnings (t : Tally) : Nat :=
  t.ofSeverity .warning

/-- All findings counted. -/
def total (t : Tally) : Nat :=
  t.among Category.all

/-- Whether an error was counted. -/
def hasErrors (t : Tally) : Bool :=
  0 < t.errors

/-- The categories that were met, with their counts, in report order; of one severity if one is
asked for. -/
def categories (t : Tally) (severity : Option Severity := none) : List (Category × Nat) :=
  (Category.all.filter (fun c => severity.all (c.severity = ·))).filterMap fun c =>
    if t.count c = 0 then none else some (c, t.count c)

end Tally

end MalLint
