import MalLint.Proofs.SpellingRepair
import Mathlib.Data.List.Basic
import Mathlib.Data.Prod.Lex
import Mathlib.Order.Bounds.Basic

/-! Which suggestion is made. The words one edit away are tried in a fixed order: removals first,
then insertions, replacements and swaps, each from the front of the word to its end and with the
letters as the alphabet lists them. So the suggestion is the known word that the least edit leads
to. It does not depend on how the known words are listed, nor on letters that are listed twice. -/
namespace MalLint.SuggestionOrder

open Spelling SpellingRepair

/-- An edit by its place: the position in the word, and the index of the letter in the alphabet.
Both are counted from 0. -/
inductive Change where
  | remove (position : Nat)
  | insert (position letter : Nat)
  | replace (position letter : Nat)
  | swap (position : Nat)

namespace Change

/-- Removals come first, then insertions, replacements and swaps. -/
def kind : Change → Nat
  | remove _ => 0
  | insert _ _ => 1
  | replace _ _ => 2
  | swap _ => 3

def position : Change → Nat
  | remove i | insert i _ | replace i _ | swap i => i

def letter : Change → Nat
  | insert _ k | replace _ k => k
  | remove _ | swap _ => 0

/-- Changes are compared by their kind, then by the position, then by the letter. -/
def key (change : Change) : ℕ ×ₗ ℕ ×ₗ ℕ :=
  toLex (change.kind, toLex (change.position, change.letter))

theorem key_injective : Function.Injective key := by
  intro a b same
  simp only [key, toLex_inj, Prod.mk.injEq] at same
  cases a <;> cases b <;> simp_all [kind, position, letter]

instance : LinearOrder Change :=
  LinearOrder.lift' key key_injective

/-- The word after a change, if the word has the position and the alphabet the letter. A character
is not replaced by itself. -/
def outcome? (alphabet word : List Char) : Change → Option (List Char)
  | remove i => if i < word.length then some (word.eraseIdx i) else none
  | insert i k => alphabet[k]?.bind fun letter =>
      if i ≤ word.length then some (word.insertIdx i letter) else none
  | replace i k => alphabet[k]?.bind fun letter => word[i]?.bind fun c =>
      if letter ≠ c then some (word.set i letter) else none
  | swap i => word[i]?.bind fun a => word[i + 1]?.bind fun b =>
      some (word.take i ++ b :: a :: word.drop (i + 2))

/-- The same change one position further on. -/
def later : Change → Change
  | remove i => remove (i + 1)
  | insert i k => insert (i + 1) k
  | replace i k => replace (i + 1) k
  | swap i => swap (i + 1)

/-- A change behind the first character leaves it as it is. -/
theorem outcome?_later (alphabet : List Char) (c : Char) (rest : List Char) (change : Change) :
    change.later.outcome? alphabet (c :: rest) = (change.outcome? alphabet rest).map (c :: ·) := by
  cases change with
  | remove i => by_cases inside : i < rest.length <;> simp [later, outcome?, inside]
  | insert i k =>
    cases letter : alphabet[k]? with
    | none => simp [later, outcome?, letter]
    | some d => by_cases inside : i ≤ rest.length <;> simp [later, outcome?, letter, inside]
  | replace i k =>
    cases letter : alphabet[k]? with
    | none => simp [later, outcome?, letter]
    | some d =>
      cases held : rest[i]? with
      | none => simp [later, outcome?, letter, held]
      | some e => by_cases same : d = e <;> simp [later, outcome?, letter, held, same]
  | swap i =>
    cases held : rest[i]? with
    | none => simp [later, outcome?, held]
    | some a => cases next : rest[i + 1]? <;> simp [later, outcome?, held, next]

end Change

/-- The changes that turn a word into a known one. -/
def repairs (alphabet : String) (vocabulary : List String) (word : String) : Set Change :=
  {change | ∃ known ∈ vocabulary, change.outcome? alphabet.toList word.toList = some known.toList}

/-- What a suggestion is and what it depends on. -/
structure Canonical (alphabet : String) (vocabulary : List String) (word : String) : Prop where
  /-- It is the first known word among all words one edit away. -/
  first : suggest alphabet vocabulary word =
    ((neighbours alphabet.toList word.toList).map String.ofList).find? (· ∈ vocabulary)
  /-- It is the known word that the least change leads to. -/
  least : ∀ known, suggest alphabet vocabulary word = some known ↔
    ∃ change, IsLeast (repairs alphabet vocabulary word) change ∧
      change.outcome? alphabet.toList word.toList = some known.toList
  /-- It is missing only if no change leads to a known word. -/
  missing : suggest alphabet vocabulary word = none ↔ repairs alphabet vocabulary word = ∅
  /-- It depends on which words are known, and on the letters in the order of their first
  occurrences. -/
  listing : ∀ letters words, distinct letters.toList = distinct alphabet.toList →
    (∀ known, known ∈ words ↔ known ∈ vocabulary) →
      suggest letters words word = suggest alphabet vocabulary word
  /-- Whether there is one does not depend on the order of the letters. -/
  sameLetters : ∀ letters : String, (∀ c, c ∈ letters.toList ↔ c ∈ alphabet.toList) →
    (suggest letters vocabulary word = none ↔ suggest alphabet vocabulary word = none)
  /-- It does not get lost when letters are added. -/
  moreLetters : ∀ letters : String, (∀ c ∈ alphabet.toList, c ∈ letters.toList) →
    suggest alphabet vocabulary word ≠ none → suggest letters vocabulary word ≠ none

section Order

variable {a b : Change}

theorem Change.lt_of_kind (before : a.kind < b.kind) : a < b :=
  Prod.Lex.lt_iff.mpr (.inl before)

theorem Change.lt_of_position (same : a.kind = b.kind) (before : a.position < b.position) : a < b :=
  Prod.Lex.lt_iff.mpr (.inr ⟨same, Prod.Lex.lt_iff.mpr (.inl before)⟩)

theorem Change.lt_of_letter (same : a.kind = b.kind) (there : a.position = b.position)
    (before : a.letter < b.letter) : a < b :=
  Prod.Lex.lt_iff.mpr (.inr ⟨same, Prod.Lex.lt_iff.mpr (.inr ⟨there, before⟩)⟩)

end Order

section Enumeration

variable (alphabet : List Char)

/-- The letters by their indices. -/
theorem filterMap_range_getElem? (letters : List α) (f : α → Option β) :
    (List.range letters.length).filterMap (fun k => letters[k]?.bind f) = letters.filterMap f := by
  induction letters with
  | nil => rfl
  | cons letter rest ih =>
    rw [List.length_cons, List.range_succ_eq_map, List.filterMap_cons, List.filterMap_cons,
      List.filterMap_map]
    simp only [Function.comp_def, List.getElem?_cons_succ, ih]
    rfl

theorem deletions_eq (word : List Char) :
    deletions word =
      (List.range word.length).filterMap fun i => (Change.remove i).outcome? alphabet word := by
  induction word with
  | nil => rfl
  | cons c rest ih =>
    have next (i : Nat) := Change.outcome?_later alphabet c rest (.remove i)
    simp only [Change.later] at next
    rw [deletions, ih, List.length_cons, List.range_succ_eq_map, List.filterMap_cons,
      List.filterMap_map]
    simp only [Function.comp_def, next, List.map_filterMap]
    simp [Change.outcome?]

theorem insertions_eq (word : List Char) :
    insertions alphabet word = (List.range (word.length + 1)).flatMap fun i =>
      (List.range alphabet.length).filterMap fun k =>
        (Change.insert i k).outcome? alphabet word := by
  have front (word : List Char) :
      ((List.range alphabet.length).filterMap fun k => (Change.insert 0 k).outcome? alphabet word) =
        alphabet.map (· :: word) := by
    simp [Change.outcome?, filterMap_range_getElem?]
  induction word with
  | nil => simp [insertions, front]
  | cons c rest ih =>
    have next (i k : Nat) := Change.outcome?_later alphabet c rest (.insert i k)
    simp only [Change.later] at next
    rw [insertions, List.length_cons, List.range_succ_eq_map, List.flatMap_cons, front,
      List.flatMap_map, ih]
    simp only [next, List.map_flatMap, List.map_filterMap]

theorem substitutions_eq (word : List Char) :
    substitutions alphabet word = (List.range word.length).flatMap fun i =>
      (List.range alphabet.length).filterMap fun k =>
        (Change.replace i k).outcome? alphabet word := by
  induction word with
  | nil => rfl
  | cons c rest ih =>
    have front : ((List.range alphabet.length).filterMap fun k =>
        (Change.replace 0 k).outcome? alphabet (c :: rest)) =
          (alphabet.filter (· ≠ c)).map (· :: rest) := by
      simp only [Change.outcome?, filterMap_range_getElem?]
      rw [← List.filterMap_eq_map, List.filterMap_filter]
      apply List.filterMap_congr
      intro letter _
      by_cases same : letter = c <;> simp [same]
    have next (i k : Nat) := Change.outcome?_later alphabet c rest (.replace i k)
    simp only [Change.later] at next
    rw [substitutions, List.length_cons, List.range_succ_eq_map, List.flatMap_cons, front,
      List.flatMap_map, ih]
    simp only [next, List.map_flatMap, List.map_filterMap]

theorem transpositions_eq (word : List Char) :
    transpositions word =
      (List.range (word.length - 1)).filterMap fun i => (Change.swap i).outcome? alphabet word := by
  induction word with
  | nil => rfl
  | cons a rest ih =>
    cases rest with
    | nil => rfl
    | cons b rest =>
      have next (i : Nat) := Change.outcome?_later alphabet a (b :: rest) (.swap i)
      simp only [Change.later] at next
      rw [transpositions, ih]
      simp only [List.length_cons, Nat.add_one_sub_one, List.range_succ_eq_map,
        List.filterMap_cons, List.filterMap_map, Function.comp_def, next, List.map_filterMap]
      simp [Change.outcome?]

/-- The changes that a word may undergo, in the order in which they are tried. -/
def changes (word : List Char) : List Change :=
  (List.range word.length).map .remove ++
    (List.range (word.length + 1)).flatMap
      (fun i => (List.range alphabet.length).map (.insert i)) ++
    (List.range word.length).flatMap (fun i => (List.range alphabet.length).map (.replace i)) ++
    (List.range (word.length - 1)).map .swap

/-- The words that are tried are the outcomes of the changes, one after the other. -/
theorem neighbours_eq (word : List Char) :
    neighbours alphabet word = (changes alphabet word).filterMap (·.outcome? alphabet word) := by
  rw [neighbours, deletions_eq alphabet, insertions_eq, substitutions_eq,
    transpositions_eq alphabet, changes]
  simp only [List.filterMap_append, List.filterMap_map, List.filterMap_flatMap, Function.comp_def]

theorem range_inOrder {f : Nat → Change} (rising : ∀ i j, i < j → f i < f j) (n : Nat) :
    ((List.range n).map f).Pairwise (· < ·) := by
  rw [List.pairwise_map]
  exact List.pairwise_lt_range.imp fun before => rising _ _ before

theorem grid_inOrder {f : Nat → Nat → Change} (letters : ∀ i k l, k < l → f i k < f i l)
    (positions : ∀ i j k l, i < j → f i k < f j l) (n m : Nat) :
    ((List.range n).flatMap fun i => (List.range m).map (f i)).Pairwise (· < ·) := by
  rw [List.pairwise_flatMap]
  refine ⟨fun i _ => range_inOrder (letters i) m, List.pairwise_lt_range.imp ?_⟩
  intro i j before
  simp only [List.mem_map]
  rintro _ ⟨k, -, rfl⟩ _ ⟨l, -, rfl⟩
  exact positions i j k l before

theorem changes_inOrder (word : List Char) : (changes alphabet word).Pairwise (· < ·) := by
  simp only [changes, List.pairwise_append, List.mem_append, List.mem_map, List.mem_flatMap]
  refine ⟨⟨⟨range_inOrder ?_ _, grid_inOrder ?_ ?_ _ _, ?_⟩, grid_inOrder ?_ ?_ _ _, ?_⟩,
    range_inOrder ?_ _, ?_⟩
  · exact fun i j before => Change.lt_of_position rfl before
  · exact fun i k l before => Change.lt_of_letter rfl rfl before
  · exact fun i j k l before => Change.lt_of_position rfl before
  · rintro _ ⟨i, -, rfl⟩ _ ⟨j, -, l, -, rfl⟩
    exact Change.lt_of_kind (by simp [Change.kind])
  · exact fun i k l before => Change.lt_of_letter rfl rfl before
  · exact fun i j k l before => Change.lt_of_position rfl before
  · rintro _ (⟨i, -, rfl⟩ | ⟨i, -, k, -, rfl⟩) _ ⟨j, -, l, -, rfl⟩
    all_goals exact Change.lt_of_kind (by simp [Change.kind])
  · exact fun i j before => Change.lt_of_position rfl before
  · rintro _ ((⟨i, -, rfl⟩ | ⟨i, -, k, -, rfl⟩) | ⟨i, -, k, -, rfl⟩) _ ⟨j, -, rfl⟩
    all_goals exact Change.lt_of_kind (by simp [Change.kind])

/-- Every change that can be made is tried. -/
theorem mem_changes {change : Change} {word other : List Char}
    (made : change.outcome? alphabet word = some other) : change ∈ changes alphabet word := by
  simp only [changes, List.mem_append, List.mem_flatMap, List.mem_map, List.mem_range]
  cases change with
  | remove i =>
    obtain ⟨inside, -⟩ := Option.ite_none_right_eq_some.mp made
    exact .inl (.inl (.inl ⟨i, inside, rfl⟩))
  | insert i k =>
    obtain ⟨letter, held, made⟩ := Option.bind_eq_some_iff.mp made
    obtain ⟨inside, -⟩ := Option.ite_none_right_eq_some.mp made
    obtain ⟨listed, -⟩ := List.getElem?_eq_some_iff.mp held
    exact .inl (.inl (.inr ⟨i, Nat.lt_succ_of_le inside, k, listed, rfl⟩))
  | replace i k =>
    obtain ⟨letter, held, made⟩ := Option.bind_eq_some_iff.mp made
    obtain ⟨c, there, -⟩ := Option.bind_eq_some_iff.mp made
    obtain ⟨listed, -⟩ := List.getElem?_eq_some_iff.mp held
    obtain ⟨inside, -⟩ := List.getElem?_eq_some_iff.mp there
    exact .inl (.inr ⟨i, inside, k, listed, rfl⟩)
  | swap i =>
    obtain ⟨a, -, made⟩ := Option.bind_eq_some_iff.mp made
    obtain ⟨b, there, -⟩ := Option.bind_eq_some_iff.mp made
    obtain ⟨inside, -⟩ := List.getElem?_eq_some_iff.mp there
    exact .inr ⟨i, Nat.lt_sub_of_add_lt inside, rfl⟩

end Enumeration

section Least

variable {alphabet : String} {vocabulary : List String} {word : String}

/-- In a list that ascends, what is found first is the least that is looked for. -/
theorem find?_eq_some_iff_isLeast {elements : List Change} {p : Change → Bool}
    (ascending : elements.Pairwise (· < ·)) :
    elements.find? p = some change ↔ IsLeast {a | a ∈ elements ∧ p a = true} change := by
  constructor
  · intro found
    obtain ⟨holds, front, back, shape, fails⟩ := List.find?_eq_some_iff_append.mp found
    refine ⟨⟨List.mem_of_find?_eq_some found, holds⟩, ?_⟩
    rintro other ⟨member, held⟩
    rw [shape] at member ascending
    rcases List.mem_append.mp member with early | late
    · exact absurd held (by simpa using fails other early)
    · rcases List.mem_cons.mp late with rfl | behind
      · exact le_refl _
      · have order := (List.pairwise_append.mp ascending).2.1
        exact le_of_lt ((List.pairwise_cons.mp order).1 other behind)
  · rintro ⟨⟨member, holds⟩, least⟩
    obtain ⟨front, back, rfl⟩ := List.append_of_mem member
    apply List.find?_eq_some_iff_append.mpr
    refine ⟨holds, front, back, rfl, ?_⟩
    intro other early
    have before := (List.pairwise_append.mp ascending).2.2 other early change List.mem_cons_self
    rw [Bool.not_eq_true', Bool.eq_false_iff]
    intro held
    exact absurd (least ⟨List.mem_append_left _ early, held⟩) (not_le_of_gt before)

/-- The search by characters finds what a search through all words one edit away finds. -/
theorem suggest_eq_plain (alphabet : String) (vocabulary : List String) (word : String) :
    suggest alphabet vocabulary word =
      ((neighbours alphabet.toList word.toList).map String.ofList).find? (· ∈ vocabulary) := by
  have known : (fun other => decide (String.ofList other ∈ vocabulary)) =
      (vocabulary.map String.toList).contains := by
    funext other
    rw [Bool.eq_iff_iff, decide_eq_true_iff, List.contains_iff_mem, List.mem_map]
    constructor
    · exact fun member => ⟨_, member, String.toList_ofList⟩
    · rintro ⟨known, listed, rfl⟩
      rwa [String.ofList_toList]
  rw [suggest_eq_find?, List.find?_map, ← known]
  rfl

theorem suggest_eq_none_iff :
    suggest alphabet vocabulary word = none ↔
      ∀ known ∈ vocabulary, known.toList ∉ neighbours alphabet.toList word.toList := by
  simp only [suggest_eq_plain, List.find?_eq_none, List.mem_map, decide_eq_true_eq]
  constructor
  · intro nothing known listed tried
    exact nothing known ⟨known.toList, tried, String.ofList_toList⟩ listed
  · rintro nothing _ ⟨other, tried, rfl⟩ listed
    exact nothing _ listed (by rwa [String.toList_ofList])

/-- A word is tried exactly if some change leads to it. -/
theorem mem_neighbours_iff_change (alphabet word other : List Char) :
    other ∈ neighbours alphabet word ↔ ∃ change : Change,
      change.outcome? alphabet word = some other := by
  rw [neighbours_eq, List.mem_filterMap]
  constructor
  · rintro ⟨change, -, made⟩
    exact ⟨change, made⟩
  · rintro ⟨change, made⟩
    exact ⟨change, mem_changes alphabet made, made⟩

theorem repairs_eq_empty_iff :
    repairs alphabet vocabulary word = ∅ ↔ suggest alphabet vocabulary word = none := by
  simp only [Set.eq_empty_iff_forall_notMem, suggest_eq_none_iff, mem_neighbours_iff_change]
  constructor
  · rintro nothing known listed ⟨change, made⟩
    exact nothing change ⟨known, listed, made⟩
  · rintro nothing change ⟨known, listed, made⟩
    exact nothing known listed ⟨change, made⟩

/-- A change repairs a word exactly if it is tried and found to lead to a known word. -/
theorem repairs_eq :
    repairs alphabet vocabulary word = {change | change ∈ changes alphabet.toList word.toList ∧
      (change.outcome? alphabet.toList word.toList).any
        (fun other => String.ofList other ∈ vocabulary) = true} := by
  ext change
  simp only [repairs, Set.mem_ofPred_eq, Option.any_eq_true, decide_eq_true_eq]
  constructor
  · rintro ⟨known, listed, made⟩
    exact ⟨mem_changes _ made, known.toList, made, by rwa [String.ofList_toList]⟩
  · rintro ⟨-, other, made, listed⟩
    exact ⟨String.ofList other, listed, by rw [made, String.toList_ofList]⟩

theorem suggest_eq_some_iff :
    suggest alphabet vocabulary word = some known ↔
      ∃ change, IsLeast (repairs alphabet vocabulary word) change ∧
        change.outcome? alphabet.toList word.toList = some known.toList := by
  rw [suggest_eq_plain, List.find?_map, neighbours_eq, List.find?_filterMap]
  simp only [Option.map_eq_some_iff, Option.bind_eq_some_iff, Function.comp_def,
    find?_eq_some_iff_isLeast (changes_inOrder _ _), ← repairs_eq]
  constructor
  · rintro ⟨other, ⟨change, least, made⟩, rfl⟩
    exact ⟨change, least, by rw [made, String.toList_ofList]⟩
  · rintro ⟨change, least, made⟩
    exact ⟨known.toList, ⟨change, least, made⟩, String.ofList_toList⟩

end Least

section Lists

theorem find?_distinct [BEq α] [LawfulBEq α] (elements : List α) (p : α → Bool) :
    (distinct elements).find? p = elements.find? p := by
  induction elements with
  | nil => rfl
  | cons first rest ih =>
    rw [distinct, distinctBy, List.find?_cons, List.find?_cons, List.find?_filter]
    cases held : p first with
    | true => rfl
    | false =>
      -- what is struck out as a repetition fails like the first of its kind
      have kept : (fun a => decide ((!(id a == id first)) = true ∧ p a = true)) = p := by
        funext a
        by_cases same : a = first <;> simp [same, held]
      rw [kept]
      exact ih

theorem firstInsertion_distinct (alphabet : List Char) (words : List (List Char))
    (word : List Char) :
    firstInsertion (distinct alphabet) words word = firstInsertion alphabet words word := by
  induction word generalizing words with
  | nil => simp only [firstInsertion, List.find?_map, find?_distinct]
  | cons c rest ih => simp only [firstInsertion, List.find?_map, find?_distinct, ih]

theorem firstSubstitution_distinct (alphabet : List Char) (words : List (List Char))
    (word : List Char) :
    firstSubstitution (distinct alphabet) words word = firstSubstitution alphabet words word := by
  induction word generalizing words with
  | nil => rfl
  | cons c rest ih =>
    simp only [firstSubstitution, List.find?_map, List.find?_filter, find?_distinct, ih]

/-- A letter that is listed again changes nothing. -/
theorem suggest_distinct (alphabet : String) (vocabulary : List String) (word : String) :
    suggest (String.ofList (distinct alphabet.toList)) vocabulary word =
      suggest alphabet vocabulary word := by
  simp only [suggest, firstNeighbour, String.toList_ofList, firstInsertion_distinct,
    firstSubstitution_distinct]

theorem suggest_of_words (same : ∀ known, known ∈ words ↔ known ∈ vocabulary)
    (alphabet word : String) :
    suggest alphabet words word = suggest alphabet vocabulary word := by
  simp only [suggest_eq_plain, same]

theorem neighbours_of_more (more : ∀ c ∈ alphabet, c ∈ letters)
    (tried : other ∈ neighbours alphabet word) : other ∈ neighbours letters word := by
  obtain ⟨front, x, y, made, rfl, rfl⟩ := mem_neighbours.mp tried
  apply mem_neighbours.mpr
  refine ⟨front, x, y, ?_, rfl, rfl⟩
  cases made with
  | remove c rest => exact .remove c y
  | insert allowed rest => exact .insert (more _ allowed) x
  | replace allowed different rest => exact .replace (more _ allowed) different rest
  | swap a b rest => exact .swap a b rest

/-- More letters can only help. -/
theorem suggest_of_more (more : ∀ c ∈ alphabet.toList, c ∈ letters.toList)
    (found : suggest alphabet vocabulary word ≠ none) : suggest letters vocabulary word ≠ none := by
  intro missing
  apply found
  rw [suggest_eq_none_iff] at missing ⊢
  intro known listed tried
  exact missing known listed (neighbours_of_more more tried)

end Lists

/-- Comparing lengths first does not change what is suggested, and the choice is canonical: it is
the first known word among all words one edit away, which the least change leads to. So it depends
on the set of known words and on the letters in the order in which they first occur; and with more
letters there is a suggestion wherever there was one before. -/
theorem suggest_canonical (alphabet : String) (vocabulary : List String) (word : String) :
    Canonical alphabet vocabulary word where
  first := suggest_eq_plain alphabet vocabulary word
  least known := suggest_eq_some_iff
  missing := repairs_eq_empty_iff.symm
  listing letters words order same := by
    rw [← suggest_distinct letters, order, suggest_distinct, suggest_of_words same]
  sameLetters letters same := by
    apply not_iff_not.mp
    constructor
    · exact suggest_of_more fun c member => (same c).mp member
    · exact suggest_of_more fun c member => (same c).mpr member
  moreLetters letters more found := suggest_of_more more found

/-- Letters and known words that are listed twice or in another order: the one changes nothing, the
other may change which word is suggested, but not whether there is one. -/
theorem suggest_canonical_letters :
    suggest "BAB" ["XA", "XB", "XA"] "X" = suggest "BA" ["XB", "XA"] "X" ∧
      suggest "AB" ["XB", "XA"] "X" ≠ suggest "BA" ["XB", "XA"] "X" ∧
        suggest "CAB" ["XB", "XA"] "X" ≠ none := by
  have canonical := suggest_canonical "BA" ["XB", "XA"] "X"
  have same : ∀ known, known ∈ ["XA", "XB", "XA"] ↔ known ∈ ["XB", "XA"] := by
    intro known
    simp only [List.mem_cons, List.not_mem_nil]
    grind
  have letters : ∀ known ∈ ["BA"], ∀ c ∈ known.toList, c ∈ "CAB".toList :=
    letters_of_all (by decide)
  refine ⟨canonical.listing "BAB" _ (by decide) same, by decide +kernel, ?_⟩
  exact canonical.moreLetters "CAB" (letters "BA" List.mem_cons_self) (by decide +kernel)

end MalLint.SuggestionOrder
