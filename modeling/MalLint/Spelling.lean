/-! Words one edit away from a given word. An edit removes a character, inserts a letter of an
alphabet, replaces a character by another letter of the alphabet, or swaps two neighbours. Main
statement: `firstNeighbour` finds what a search through all such words would find first. -/
namespace MalLint.Spelling

/-- The letters that are tried when no alphabet is given. -/
def defaultAlphabet : String :=
  "ABCDEFGHIJKLMNOPQRSTUVWXYZ"

/-- The words with one character removed, by ascending position. -/
def deletions : List Char → List (List Char)
  | [] => []
  | c :: rest => rest :: (deletions rest).map (c :: ·)

/-- The words with one letter inserted, by ascending position, then by the order of the alphabet. -/
def insertions (alphabet : List Char) : List Char → List (List Char)
  | [] => alphabet.map ([·])
  | c :: rest => alphabet.map (· :: c :: rest) ++ (insertions alphabet rest).map (c :: ·)

/-- The words with one character replaced by another letter, by ascending position, then by the
order of the alphabet. -/
def substitutions (alphabet : List Char) : List Char → List (List Char)
  | [] => []
  | c :: rest =>
    (alphabet.filter (· ≠ c)).map (· :: rest) ++ (substitutions alphabet rest).map (c :: ·)

/-- The words with two neighbours swapped, by ascending position. Equal neighbours are swapped
too, and give the word itself. -/
def transpositions : List Char → List (List Char)
  | a :: b :: rest => (b :: a :: rest) :: (transpositions (b :: rest)).map (a :: ·)
  | _ => []

/-- Every word one edit away, in the order in which suggestions are tried. A word that several
edits reach is repeated. -/
def neighbours (alphabet word : List Char) : List (List Char) :=
  deletions word ++ insertions alphabet word ++ substitutions alphabet word ++ transpositions word

/-- What follows a character in the words that start with it. -/
def after (c : Char) (words : List (List Char)) : List (List Char) :=
  words.filterMap fun
    | [] => none
    | first :: rest => if first = c then some rest else none

/-- The first deletion that is among some words. The words are followed along the given one, so
that nothing is built but what is found. -/
def firstDeletion : List (List Char) → List Char → Option (List Char)
  | _, [] => none
  | words, c :: rest =>
    if words.contains rest then some rest
    else (firstDeletion (after c words) rest).map (c :: ·)

/-- The first insertion that is among some words. -/
def firstInsertion (alphabet : List Char) : List (List Char) → List Char → Option (List Char)
  | words, [] => (alphabet.map ([·])).find? words.contains
  | words, c :: rest =>
    (alphabet.map (· :: c :: rest)).find? words.contains <|>
      (firstInsertion alphabet (after c words) rest).map (c :: ·)

/-- The first substitution that is among some words. -/
def firstSubstitution (alphabet : List Char) : List (List Char) → List Char → Option (List Char)
  | _, [] => none
  | words, c :: rest =>
    ((alphabet.filter (· ≠ c)).map (· :: rest)).find? words.contains <|>
      (firstSubstitution alphabet (after c words) rest).map (c :: ·)

/-- The first transposition that is among some words. -/
def firstTransposition : List (List Char) → List Char → Option (List Char)
  | words, a :: b :: rest =>
    if words.contains (b :: a :: rest) then some (b :: a :: rest)
    else (firstTransposition (after a words) (b :: rest)).map (a :: ·)
  | _, _ => none

/-- The first word one edit away that is among some words. -/
def firstNeighbour (alphabet : List Char) (words : List (List Char)) (word : List Char) :
    Option (List Char) :=
  firstDeletion words word <|> firstInsertion alphabet words word <|>
    firstSubstitution alphabet words word <|> firstTransposition words word

/-- Whether no known word can be one edit away, by length alone. -/
def outOfReach (vocabulary : List String) (word : List Char) : Bool :=
  vocabulary.all fun known =>
    1 < word.length - known.toList.length || 1 < known.toList.length - word.length

/-- The first word one edit away that is known. -/
def suggest (alphabet : String) (vocabulary : List String) (word : String) : Option String :=
  if outOfReach vocabulary word.toList then
    none
  else
    (firstNeighbour alphabet.toList (vocabulary.map String.toList) word.toList).map String.ofList

theorem mem_after {c : Char} {words : List (List Char)} {word : List Char} :
    word ∈ after c words ↔ c :: word ∈ words := by
  simp only [after, List.mem_filterMap]
  constructor
  · rintro ⟨found, member, follows⟩
    cases found with
    | nil => cases follows
    | cons first rest =>
      by_cases same : first = c
      · simp only [same, ↓reduceIte, Option.some.injEq] at follows
        exact same ▸ follows ▸ member
      · simp [same] at follows
  · exact fun member => ⟨c :: word, member, by simp⟩

/-- Words that all start with one character are looked up by what follows it. -/
theorem find?_map_cons (c : Char) (words candidates : List (List Char)) :
    (candidates.map (c :: ·)).find? words.contains =
      (candidates.find? (after c words).contains).map (c :: ·) := by
  have rule : words.contains ∘ (c :: ·) = (after c words).contains := by
    funext word
    simp [mem_after]
  rw [List.find?_map, rule]

theorem firstDeletion_eq_find? (words : List (List Char)) (word : List Char) :
    firstDeletion words word = (deletions word).find? words.contains := by
  induction word generalizing words with
  | nil => rfl
  | cons c rest ih =>
    rw [firstDeletion, deletions, List.find?_cons, ih, find?_map_cons]
    split <;> simp_all

theorem firstInsertion_eq_find? (alphabet : List Char) (words : List (List Char))
    (word : List Char) :
    firstInsertion alphabet words word = (insertions alphabet word).find? words.contains := by
  induction word generalizing words with
  | nil => rfl
  | cons c rest ih =>
    rw [firstInsertion, insertions, List.find?_append, ih, find?_map_cons, Option.orElse_eq_orElse,
      Option.orElse_eq_or]

theorem firstSubstitution_eq_find? (alphabet : List Char) (words : List (List Char))
    (word : List Char) :
    firstSubstitution alphabet words word =
      (substitutions alphabet word).find? words.contains := by
  induction word generalizing words with
  | nil => rfl
  | cons c rest ih =>
    rw [firstSubstitution, substitutions, List.find?_append, ih, find?_map_cons,
      Option.orElse_eq_orElse, Option.orElse_eq_or]

theorem firstTransposition_eq_find? (words : List (List Char)) (word : List Char) :
    firstTransposition words word = (transpositions word).find? words.contains := by
  induction word generalizing words with
  | nil => rfl
  | cons a rest ih =>
    cases rest with
    | nil => rfl
    | cons b rest =>
      rw [firstTransposition, transpositions, List.find?_cons, ih, find?_map_cons]
      split <;> simp_all

/-- The search finds what a search through all neighbours would find first. -/
theorem firstNeighbour_eq_find? (alphabet : List Char) (words : List (List Char))
    (word : List Char) :
    firstNeighbour alphabet words word = (neighbours alphabet word).find? words.contains := by
  simp only [firstNeighbour, neighbours, List.find?_append, firstDeletion_eq_find?,
    firstInsertion_eq_find?, firstSubstitution_eq_find?, firstTransposition_eq_find?,
    Option.orElse_eq_orElse, Option.orElse_eq_or, Option.or_assoc]

end MalLint.Spelling
