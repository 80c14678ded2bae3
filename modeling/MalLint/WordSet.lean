/-! Sets of words, kept as a tree that branches on characters, so that a look-up follows the word
and does not depend on how many words there are. Main statement: a set made from a list contains
exactly the words of the list. -/
namespace MalLint

/-- A set of words: whether the empty word is one, and the sets of what follows each first
character. -/
inductive WordSet where
  | node (hasEmpty : Bool) (branches : List (Char × WordSet))

namespace WordSet

/-- The set without words. -/
def empty : WordSet :=
  .node false []

/-- Whether the empty word is in the set. -/
def hasEmpty : WordSet → Bool
  | .node hasEmpty _ => hasEmpty

/-- What follows a character in the words that start with it. -/
def after (c : Char) : WordSet → WordSet
  | .node _ branches => (branches.lookup c).getD empty

/-- Whether a word, given by its characters, is in the set. -/
def containsChars : WordSet → List Char → Bool
  | set, [] => set.hasEmpty
  | set, c :: rest => (set.after c).containsChars rest

/-- The set with one more word, given by its characters. -/
def insertChars : WordSet → List Char → WordSet
  | .node _ branches, [] => .node true branches
  | .node hasEmpty branches, c :: rest =>
    let below := insertChars ((branches.lookup c).getD empty) rest
    .node hasEmpty ((c, below) :: branches.filter (·.1 ≠ c))

/-- Whether a word is in the set. -/
def contains (set : WordSet) (word : String) : Bool :=
  set.containsChars word.toList

/-- The set with one more word. -/
def insert (set : WordSet) (word : String) : WordSet :=
  set.insertChars word.toList

/-- The set of the words of a list. -/
def ofList (words : List String) : WordSet :=
  words.foldl insert empty

private theorem lookup_filter_branch_of_ne {c other : Char} (apart : other ≠ c)
    (branches : List (Char × WordSet)) :
    (branches.filter (·.1 ≠ c)).lookup other = branches.lookup other := by
  induction branches with
  | nil => rfl
  | cons first rest ih =>
    obtain ⟨there, below⟩ := first
    simp only [ne_eq, decide_not] at ih
    by_cases same : there = c
    · have missed : (other == there) = false := by simpa [same] using apart
      simp [same, List.lookup_cons, ih, same ▸ missed]
    · simp [same, List.lookup_cons, ih]

theorem containsChars_empty (word : List Char) : empty.containsChars word = false := by
  induction word with
  | nil => rfl
  | cons c rest ih => exact ih

theorem containsChars_insertChars (set : WordSet) (word probe : List Char) :
    (set.insertChars word).containsChars probe = (probe == word || set.containsChars probe) := by
  induction word generalizing set probe with
  | nil =>
    cases set with
    | node hasEmpty branches =>
      cases probe <;> simp [insertChars, containsChars, after, WordSet.hasEmpty]
  | cons c rest ih =>
    cases set with
    | node hasEmpty branches =>
      cases probe with
      | nil => simp [insertChars, containsChars, WordSet.hasEmpty]
      | cons first tail =>
        by_cases same : first = c
        · simp [insertChars, containsChars, after, same, ih]
        · have skipped : (first == c) = false := by simpa using same
          have kept := lookup_filter_branch_of_ne same branches
          simp only [ne_eq, decide_not] at kept
          simp [insertChars, containsChars, after, List.lookup_cons, skipped, kept]

theorem contains_insert (set : WordSet) (word probe : String) :
    (set.insert word).contains probe = (probe == word || set.contains probe) := by
  rw [insert, contains, containsChars_insertChars, contains, Bool.eq_iff_iff]
  simp [String.toList_inj]

@[simp]
theorem contains_empty (word : String) : empty.contains word = false :=
  containsChars_empty word.toList

@[simp]
theorem contains_ofList (words : List String) (word : String) :
    (ofList words).contains word = words.contains word := by
  have grow (words : List String) (set : WordSet) :
      (words.foldl insert set).contains word = (words.contains word || set.contains word) := by
    induction words generalizing set with
    | nil => simp
    | cons first rest ih =>
      rw [List.foldl_cons, ih, contains_insert, List.contains_cons]
      cases rest.contains word <;> cases word == first <;> simp
  simpa [ofList] using grow words empty

end WordSet

end MalLint
