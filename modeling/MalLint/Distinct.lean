import MalLint.WordSet

/-! Lists without repetitions, and texts in ascending order. Main statements: `distinctBy` keeps
exactly the first element of each key, in order, `distinct` has the members of the list, each once,
and `distinctWords` is `distinctBy` for keys that are words. -/
namespace MalLint

/-- The elements that are the first with their key, in the order in which they stand. -/
def distinctBy [BEq β] (key : α → β) : List α → List α
  | [] => []
  | a :: rest => a :: (distinctBy key rest).filter (fun b => !(key b == key a))

/-- The elements without repetitions, each at its first place. -/
def distinct [BEq α] (elements : List α) : List α :=
  distinctBy id elements

/-- The elements that are the first with their word, and whose word is not among those seen. -/
def distinctWordsFrom (key : α → String) : WordSet → List α → List α
  | _, [] => []
  | seen, a :: rest =>
    if seen.contains (key a) then distinctWordsFrom key seen rest
    else a :: distinctWordsFrom key (seen.insert (key a)) rest

/-- The elements that are the first with their word, in the order in which they stand. The words are
kept in a set, so that long lists are no burden. -/
def distinctWords (key : α → String) (elements : List α) : List α :=
  distinctWordsFrom key .empty elements

/-- The different texts of a list, ascending by code points. -/
def ascending (texts : List String) : List String :=
  (distinctWords id texts).mergeSort (fun a b => decide (a ≤ b))

theorem mem_of_mem_distinctBy [BEq β] {key : α → β} {elements : List α} {a : α}
    (member : a ∈ distinctBy key elements) : a ∈ elements := by
  induction elements with
  | nil => exact member
  | cons first rest ih =>
    rcases List.mem_cons.mp member with same | later
    · exact same ▸ List.mem_cons_self
    · exact List.mem_cons_of_mem first (ih (List.mem_filter.mp later).1)

theorem exists_mem_distinctBy [BEq β] [LawfulBEq β] {key : α → β} {elements : List α} {k : β} :
    (∃ a ∈ distinctBy key elements, key a = k) ↔ ∃ a ∈ elements, key a = k := by
  constructor
  · rintro ⟨a, member, same⟩
    exact ⟨a, mem_of_mem_distinctBy member, same⟩
  · rintro ⟨a, member, same⟩
    induction elements with
    | nil => cases member
    | cons first rest ih =>
      by_cases headKey : key first = k
      · exact ⟨first, List.mem_cons_self, headKey⟩
      · have later : a ∈ rest := by
          rcases List.mem_cons.mp member with rfl | later
          · exact absurd same headKey
          · exact later
        obtain ⟨b, kept, keyed⟩ := ih later
        refine ⟨b, List.mem_cons_of_mem first (List.mem_filter.mpr ⟨kept, ?_⟩), keyed⟩
        simpa [keyed] using fun equal : k = key first => headKey equal.symm

theorem distinctBy_pairwise [BEq β] [LawfulBEq β] (key : α → β) (elements : List α) :
    (distinctBy key elements).Pairwise (fun a b => key a ≠ key b) := by
  induction elements with
  | nil => exact List.Pairwise.nil
  | cons first rest ih =>
    refine List.pairwise_cons.mpr ⟨fun b member => ?_, ih.filter _⟩
    have differs := (List.mem_filter.mp member).2
    simp only [Bool.not_eq_true', beq_eq_false_iff_ne, ne_eq] at differs
    exact fun equal => differs equal.symm

/-- Each element that is kept is the first with its key. -/
theorem find?_of_mem_distinctBy [BEq β] [LawfulBEq β] {key : α → β} {elements : List α} {a : α}
    (member : a ∈ distinctBy key elements) : elements.find? (key · == key a) = some a := by
  induction elements with
  | nil => cases member
  | cons first rest ih =>
    rcases List.mem_cons.mp member with rfl | later
    · exact List.find?_cons_of_pos (beq_self_eq_true (key a))
    · obtain ⟨kept, differs⟩ := List.mem_filter.mp later
      have skipped : (key first == key a) = false := by
        rw [Bool.beq_comm]
        simpa using differs
      simp only [List.find?_cons, skipped]
      exact ih kept

/-- The elements that are kept stand in the order in which their keys come up. -/
theorem distinctBy_inOrder [BEq β] [LawfulBEq β] (key : α → β) (elements : List α) :
    (distinctBy key elements).Pairwise fun a b =>
      (elements.map key).idxOf (key a) < (elements.map key).idxOf (key b) := by
  induction elements with
  | nil => exact List.Pairwise.nil
  | cons first rest ih =>
    have moved (b : α) (differs : (!(key b == key first)) = true) :
        ((first :: rest).map key).idxOf (key b) = (rest.map key).idxOf (key b) + 1 := by
      have skipped : (key first == key b) = false := by
        rw [Bool.beq_comm]
        simpa using differs
      rw [List.map_cons, List.idxOf_cons, skipped]
      rfl
    refine List.pairwise_cons.mpr ⟨?_, ?_⟩
    · intro b member
      rw [moved b (List.mem_filter.mp member).2, List.map_cons, List.idxOf_cons_self]
      omega
    · refine (ih.filter _).imp_of_mem ?_
      intro a b left right before
      rw [moved a (List.mem_filter.mp left).2, moved b (List.mem_filter.mp right).2]
      omega

/-- The numbers of a numbered list ascend. -/
theorem zipIdx_inOrder (elements : List α) (start : Nat) :
    (elements.zipIdx start).Pairwise fun a b => a.2 < b.2 := by
  rw [← List.pairwise_map, List.zipIdx_map_snd]
  exact List.pairwise_lt_range'

theorem distinctBy_sublist [BEq β] (key : α → β) (elements : List α) :
    (distinctBy key elements).Sublist elements := by
  induction elements with
  | nil => exact List.Sublist.refl []
  | cons first rest ih => exact (List.filter_sublist.trans ih).cons_cons first

/-- In a list that is ordered, the element that is kept comes before all others with its key. -/
theorem distinctBy_first [BEq β] [LawfulBEq β] {key : α → β} {elements : List α}
    {before : α → α → Prop} (ordered : elements.Pairwise before) {a b : α}
    (kept : a ∈ distinctBy key elements) (member : b ∈ elements) (same : key b = key a) :
    b = a ∨ before a b := by
  induction ordered with
  | nil => cases member
  | @cons first rest ahead _ ih =>
    rcases List.mem_cons.mp kept with rfl | later
    · exact (List.mem_cons.mp member).imp_right (ahead b)
    · obtain ⟨listed, differs⟩ := List.mem_filter.mp later
      rcases List.mem_cons.mp member with rfl | behind
      · simp [same] at differs
      · exact ih listed behind

theorem distinctBy_map [BEq γ] (key : β → γ) (f : α → β) (elements : List α) :
    distinctBy key (elements.map f) = (distinctBy (key ∘ f) elements).map f := by
  induction elements with
  | nil => rfl
  | cons first rest ih =>
    rw [List.map_cons, distinctBy, ih, distinctBy, List.map_cons, List.filter_map]
    rfl

/-- What follows a list adds the elements whose keys have not come up. -/
theorem distinctBy_append [BEq β] [LawfulBEq β] (key : α → β) (first second : List α) :
    distinctBy key (first ++ second) =
      distinctBy key first ++
        (distinctBy key second).filter fun b => decide (key b ∉ first.map key) := by
  induction first with
  | nil => exact (List.filter_eq_self.mpr fun b _ => by simp).symm
  | cons a rest ih =>
    rw [List.cons_append, distinctBy, ih, List.filter_append, List.filter_filter, distinctBy,
      List.cons_append]
    refine congrArg _ (congrArg _ (List.filter_congr fun b _ => ?_))
    rw [Bool.eq_iff_iff]
    simp [not_or]

@[simp]
theorem mem_distinct [BEq α] [LawfulBEq α] {elements : List α} {a : α} :
    a ∈ distinct elements ↔ a ∈ elements := by
  have kept : (∃ b ∈ distinctBy id elements, id b = a) ↔ ∃ b ∈ elements, id b = a :=
    exists_mem_distinctBy
  simpa [distinct] using kept

private theorem distinctWordsFrom_eq_filter (key : α → String) (seen : WordSet)
    (elements : List α) :
    distinctWordsFrom key seen elements =
      (distinctBy key elements).filter (fun a => !seen.contains (key a)) := by
  induction elements generalizing seen with
  | nil => rfl
  | cons a rest ih =>
    by_cases met : seen.contains (key a) = true
    · rw [distinctWordsFrom, if_pos met, ih, distinctBy, List.filter_cons_of_neg (by simp [met]),
        List.filter_filter]
      refine List.filter_congr fun b _ => ?_
      by_cases same : key b = key a <;> simp [same, met]
    · rw [distinctWordsFrom, if_neg met, ih, distinctBy, List.filter_cons_of_pos (by simp [met]),
        List.filter_filter]
      refine congrArg (a :: ·) (List.filter_congr fun b _ => ?_)
      rw [WordSet.contains_insert, Bool.not_or, Bool.and_comm]

theorem distinctWords_eq_distinctBy (key : α → String) (elements : List α) :
    distinctWords key elements = distinctBy key elements := by
  simp [distinctWords, distinctWordsFrom_eq_filter]

theorem distinct_nodup [BEq α] [LawfulBEq α] (elements : List α) : (distinct elements).Nodup := by
  simpa [distinct, List.Nodup] using distinctBy_pairwise id elements

end MalLint
