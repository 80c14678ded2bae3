import MalLint.Proofs.SuggestionOrder
import Mathlib.Algebra.BigOperators.Fin

/-! The words one edit away, by the places at which a word can be edited. Each place is tried with
each letter, so that their number follows from the length of the word and the alphabet, less the
letters that are in place already. A word is tried for itself only where two equal neighbours are
swapped. An edit between words over the alphabet can be taken back within the alphabet. -/
namespace MalLint.Neighbourhood

open Spelling SpellingRepair SuggestionOrder

/-- What one edit makes of a word. Positions are counted from 0; a letter can be inserted before
each character and at the end. -/
inductive Reached (alphabet word : List Char) : List Char → Prop where
  | removed (inside : i < word.length) : Reached alphabet word (word.eraseIdx i)
  | inserted (inside : i ≤ word.length) (listed : letter ∈ alphabet) :
      Reached alphabet word (word.insertIdx i letter)
  | replaced (held : word[i]? = some c) (listed : letter ∈ alphabet) (different : letter ≠ c) :
      Reached alphabet word (word.set i letter)
  | swapped (held : word[i]? = some a) (next : word[i + 1]? = some b) :
      Reached alphabet word (word.take i ++ b :: a :: word.drop (i + 2))

/-- The positions of a word, each with the letters of the alphabet that do not stand there. Letters
go by their index, so a letter that is listed twice counts twice. -/
def differing (alphabet word : List Char) : Finset (Fin word.length × Fin alphabet.length) :=
  {place | alphabet.get place.2 ≠ word.get place.1}

/-- Which words are one edit away, and how many of them are tried. -/
structure Exact (alphabet word : List Char) : Prop where
  mem_iff : ∀ other, other ∈ neighbours alphabet word ↔ Reached alphabet word other
  /-- Repetitions count: removals, insertions, replacements and swaps, in this order. -/
  length_eq : (neighbours alphabet word).length =
    word.length + (word.length + 1) * alphabet.length + (differing alphabet word).card +
      (word.length - 1)
  self_iff : word ∈ neighbours alphabet word ↔ ∃ front c back, word = front ++ c :: c :: back
  /-- Between words over the alphabet, edits lead both ways or neither way. -/
  symmetric : ∀ other, (∀ c ∈ word, c ∈ alphabet) → (∀ c ∈ other, c ∈ alphabet) →
    (other ∈ neighbours alphabet word ↔ word ∈ neighbours alphabet other)

section Places

variable {alphabet word other : List Char}

theorem reached_of_outcome (change : Change) (made : change.outcome? alphabet word = some other) :
    Reached alphabet word other := by
  cases change with
  | remove i =>
    obtain ⟨inside, made⟩ := Option.ite_none_right_eq_some.mp made
    cases made
    exact .removed inside
  | insert i k =>
    obtain ⟨letter, listed, made⟩ := Option.bind_eq_some_iff.mp made
    obtain ⟨inside, made⟩ := Option.ite_none_right_eq_some.mp made
    cases made
    exact .inserted inside (List.mem_of_getElem? listed)
  | replace i k =>
    obtain ⟨letter, listed, made⟩ := Option.bind_eq_some_iff.mp made
    obtain ⟨c, held, made⟩ := Option.bind_eq_some_iff.mp made
    obtain ⟨different, made⟩ := Option.ite_none_right_eq_some.mp made
    cases made
    exact .replaced held (List.mem_of_getElem? listed) different
  | swap i =>
    obtain ⟨a, held, made⟩ := Option.bind_eq_some_iff.mp made
    obtain ⟨b, next, made⟩ := Option.bind_eq_some_iff.mp made
    cases made
    exact .swapped held next

theorem outcome_of_reached (reached : Reached alphabet word other) :
    ∃ change : Change, change.outcome? alphabet word = some other := by
  cases reached with
  | @removed i inside => exact ⟨.remove i, if_pos inside⟩
  | @inserted i letter inside listed =>
    obtain ⟨k, place⟩ := List.mem_iff_getElem?.mp listed
    exact ⟨.insert i k, by simp [Change.outcome?, place, inside]⟩
  | @replaced i c letter held listed different =>
    obtain ⟨k, place⟩ := List.mem_iff_getElem?.mp listed
    exact ⟨.replace i k, by simp [Change.outcome?, place, held, different]⟩
  | @swapped i a b held next => exact ⟨.swap i, by simp [Change.outcome?, held, next]⟩

theorem mem_neighbours_iff_reached :
    other ∈ neighbours alphabet word ↔ Reached alphabet word other := by
  rw [mem_neighbours_iff_change]
  constructor
  · rintro ⟨change, made⟩
    exact reached_of_outcome change made
  · exact outcome_of_reached

end Places

section Count

variable (alphabet word : List Char)

theorem deletions_length : (deletions word).length = word.length := by
  induction word with
  | nil => rfl
  | cons c rest ih => simp [deletions, ih]

theorem insertions_length :
    (insertions alphabet word).length = (word.length + 1) * alphabet.length := by
  induction word with
  | nil => simp [insertions]
  | cons c rest ih =>
    rw [insertions, List.length_append, List.length_map, List.length_map, ih, List.length_cons,
      Nat.succ_mul (rest.length + 1), Nat.add_comm]

theorem transpositions_length : (transpositions word).length = word.length - 1 := by
  induction word with
  | nil => rfl
  | cons a rest ih =>
    cases rest with
    | nil => rfl
    | cons b rest => simpa [transpositions] using ih

/-- The letters that differ from a character, by their indices. -/
theorem card_letters (c : Char) :
    (Finset.univ.filter fun k : Fin alphabet.length => alphabet.get k ≠ c).card =
      (alphabet.filter (· ≠ c)).length := by
  rw [Finset.card_def, Finset.filter_val, ← Multiset.countP_map alphabet.get _ (· ≠ c),
    Fin.univ_val_map, List.ofFn_get, Multiset.coe_countP, List.countP_eq_length_filter]

theorem card_differing_cons (c : Char) :
    (differing alphabet (c :: word)).card =
      (alphabet.filter (· ≠ c)).length + (differing alphabet word).card := by
  rw [← card_letters]
  simp only [differing, Finset.card_filter, Fintype.sum_prod_type]
  exact Fin.sum_univ_succ _

/-- Only replacements skip letters: those that stand in the word already. -/
theorem substitutions_length :
    (substitutions alphabet word).length = (differing alphabet word).card := by
  induction word with
  | nil => rfl
  | cons c rest ih =>
    rw [substitutions, List.length_append, List.length_map, List.length_map, ih,
      card_differing_cons]

theorem neighbours_length :
    (neighbours alphabet word).length =
      word.length + (word.length + 1) * alphabet.length + (differing alphabet word).card +
        (word.length - 1) := by
  simp only [neighbours, List.length_append, deletions_length, insertions_length,
    substitutions_length, transpositions_length]

end Count

/-- An edit that changes nothing swaps two equal characters. -/
theorem doubled_of_editHere (edit : EditHere letter x y) (same : x = y) :
    ∃ c rest, x = c :: c :: rest := by
  cases edit with
  | remove c rest => simp at same
  | insert allowed rest => simp at same
  | replace allowed different rest => exact absurd (List.cons.inj same).1.symm different
  | swap a b rest =>
    obtain rfl : a = b := (List.cons.inj same).1
    exact ⟨a, rest, rfl⟩

theorem self_mem_neighbours_iff :
    word ∈ neighbours alphabet word ↔ ∃ front c back, word = front ++ c :: c :: back := by
  rw [mem_neighbours]
  constructor
  · rintro ⟨front, x, y, edit, before, after⟩
    have same : x = y := List.append_cancel_left (before.symm.trans after)
    obtain ⟨c, back, rfl⟩ := doubled_of_editHere edit same
    exact ⟨front, c, back, before⟩
  · rintro ⟨front, c, back, rfl⟩
    exact ⟨front, _, _, .swap c c back, rfl, rfl⟩

/-- An edit is taken back with letters of the word that it was made to. -/
theorem mem_neighbours_back (letters : ∀ c ∈ word, c ∈ alphabet)
    (tried : other ∈ neighbours alphabet word) : word ∈ neighbours alphabet other :=
  mem_neighbours.mpr ((mem_neighbours.mp tried).back letters)

/-- The words that are tried are exactly those that one edit makes, and there are as many as there
are places for an edit. The word itself is among them only if it has two equal neighbours, and words
over the alphabet are tried for each other. -/
theorem neighbours_exact (alphabet word : List Char) : Exact alphabet word where
  mem_iff _ := mem_neighbours_iff_reached
  length_eq := neighbours_length alphabet word
  self_iff := self_mem_neighbours_iff
  symmetric _ here there := ⟨mem_neighbours_back here, mem_neighbours_back there⟩

/-- A word with two equal neighbours, and an alphabet that lists a letter twice. -/
theorem neighbours_exact_doubled :
    let alphabet := ['D', 'A', 'D']
    let word := ['A', 'D', 'D']
    (neighbours alphabet word).length = 21 ∧ word ∈ neighbours alphabet word ∧
      ['A', 'D'] ∈ neighbours alphabet word ∧ word ∈ neighbours alphabet ['A', 'D'] := by
  intro alphabet word
  have exactly := neighbours_exact alphabet word
  have shorter : ['A', 'D'] ∈ neighbours alphabet word :=
    (exactly.mem_iff ['A', 'D']).mpr (.removed (i := 2) (Nat.lt_succ_self 2))
  have letters : ∀ c ∈ word, c ∈ alphabet := by simp [word, alphabet]
  have fewer : ∀ c ∈ ['A', 'D'], c ∈ alphabet := by simp [alphabet]
  refine ⟨exactly.length_eq.trans (by decide), ?_, shorter, ?_⟩
  · exact exactly.self_iff.mpr ⟨['A'], 'D', [], rfl⟩
  · exact (exactly.symmetric ['A', 'D'] letters fewer).mp shorter

end MalLint.Neighbourhood
