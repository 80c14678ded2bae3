import MalLint.LineCheck
import MalLint.Proofs.LineLayout

/-! What a suggestion is worth. The search edits the misspelled word, not the known ones, and only
with letters of an alphabet. Since every edit can be taken back, it still finds a known word
whenever one edit of any kind leads from a known word to the misspelled one. -/
namespace MalLint.SpellingRepair

open Spelling

/-- An edit at the start of a word. Characters that it brings in are of the kind `letter`. -/
inductive EditHere (letter : Char → Prop) : List Char → List Char → Prop where
  | remove (c : Char) (rest : List Char) : EditHere letter (c :: rest) rest
  | insert (allowed : letter c) (rest : List Char) : EditHere letter rest (c :: rest)
  | replace (allowed : letter d) (different : d ≠ c) (rest : List Char) :
      EditHere letter (c :: rest) (d :: rest)
  | swap (a b : Char) (rest : List Char) : EditHere letter (a :: b :: rest) (b :: a :: rest)

/-- A change that is made after some common beginning of two words. -/
def Somewhere (here : List Char → List Char → Prop) (word other : List Char) : Prop :=
  ∃ front x y, here x y ∧ word = front ++ x ∧ other = front ++ y

/-- One edit leads from the first word to the second, and it brings in no character but letters. -/
def Edit (letter : Char → Prop) : List Char → List Char → Prop :=
  Somewhere (EditHere letter)

/-- One edit leads from the first word to the second, with whatever characters. -/
def OneEdit : List Char → List Char → Prop :=
  Edit fun _ => True

/-- A suggestion that says all there is to say: it is missing only if no known word is one edit
away, it is a known word one edit away, and it is the right one if there is only one. -/
structure Repairs (vocabulary : List String) (word : String) (suggestion : Option String) :
    Prop where
  none_iff : suggestion = none ↔ ∀ known ∈ vocabulary, ¬OneEdit known.toList word.toList
  sound : ∀ known, suggestion = some known →
    known ∈ vocabulary ∧ OneEdit known.toList word.toList
  unique : ∀ known ∈ vocabulary, OneEdit known.toList word.toList →
    (∀ other ∈ vocabulary, OneEdit other.toList word.toList → other = known) →
      suggestion = some known

/-- A finding offers a known opcode that one edit spoils to the word at hand, and offers the
original one if no other would do. -/
def Offers (finding : Option Diagnostic) (word original : String) : Prop :=
  ∃ d known, finding = some d ∧ d.suggestion = some known ∧ known ∈ Instruction.mnemonics ∧
    OneEdit known.toList word.toList ∧
    ((∀ other ∈ Instruction.mnemonics, OneEdit other.toList word.toList → other = original) →
      known = original)

theorem somewhere_nil : Somewhere here [] other ↔ here [] other := by
  constructor
  · rintro ⟨front, x, y, made, shape, rfl⟩
    obtain ⟨rfl, rfl⟩ := List.nil_eq_append_iff.mp shape
    exact made
  · exact fun made => ⟨[], [], other, made, rfl, rfl⟩

/-- A change is made at the first character or after it. -/
theorem somewhere_cons :
    Somewhere here (c :: rest) other ↔
      here (c :: rest) other ∨ ∃ later, Somewhere here rest later ∧ c :: later = other := by
  constructor
  · rintro ⟨front, x, y, made, shape, rfl⟩
    cases front with
    | nil => exact .inl (shape ▸ made)
    | cons d front =>
      obtain ⟨rfl, rfl⟩ := List.cons.inj shape
      exact .inr ⟨front ++ y, ⟨front, x, y, made, rfl, rfl⟩, rfl⟩
  · rintro (made | ⟨later, ⟨front, x, y, made, rfl, rfl⟩, rfl⟩)
    · exact ⟨[], c :: rest, other, made, rfl, rfl⟩
    · exact ⟨c :: front, x, y, made, rfl, rfl⟩

theorem mem_deletions :
    other ∈ deletions word ↔ Somewhere (fun x y => ∃ c, c :: y = x) word other := by
  induction word generalizing other with
  | nil => simp [deletions, somewhere_nil]
  | cons c rest ih => simp [deletions, somewhere_cons, ih]

theorem mem_insertions :
    other ∈ insertions alphabet word ↔
      Somewhere (fun x y => ∃ c ∈ alphabet, c :: x = y) word other := by
  induction word generalizing other with
  | nil => simp [insertions, somewhere_nil]
  | cons c rest ih => simp [insertions, somewhere_cons, ih]

theorem mem_substitutions :
    other ∈ substitutions alphabet word ↔
      Somewhere (fun x y => ∃ d ∈ alphabet, ∃ c rest, c :: rest = x ∧ d ≠ c ∧ d :: rest = y)
        word other := by
  induction word generalizing other with
  | nil => simp [substitutions, somewhere_nil]
  | cons c rest ih => simp [substitutions, somewhere_cons, ih, and_assoc]

theorem mem_transpositions :
    other ∈ transpositions word ↔
      Somewhere (fun x y => ∃ a b rest, a :: b :: rest = x ∧ b :: a :: rest = y) word other := by
  induction word generalizing other with
  | nil => simp [transpositions, somewhere_nil]
  | cons a rest ih =>
    cases rest with
    | nil => simp [transpositions, somewhere_cons, somewhere_nil]
    | cons b rest =>
      rw [somewhere_cons, transpositions, List.mem_cons, List.mem_map, eq_comm (a := other)]
      simp [ih, and_assoc]

theorem editHere_iff :
    EditHere letter x y ↔
      (∃ c, c :: y = x) ∨ (∃ c, letter c ∧ c :: x = y) ∨
        (∃ d, letter d ∧ ∃ c rest, c :: rest = x ∧ d ≠ c ∧ d :: rest = y) ∨
          ∃ a b rest, a :: b :: rest = x ∧ b :: a :: rest = y := by
  constructor
  · rintro (⟨c, rest⟩ | ⟨allowed, rest⟩ | ⟨allowed, different, rest⟩ | ⟨a, b, rest⟩)
    · exact .inl ⟨c, rfl⟩
    · exact .inr (.inl ⟨_, allowed, rfl⟩)
    · exact .inr (.inr (.inl ⟨_, allowed, _, rest, rfl, different, rfl⟩))
    · exact .inr (.inr (.inr ⟨a, b, rest, rfl, rfl⟩))
  · rintro (⟨c, rfl⟩ | ⟨c, allowed, rfl⟩ | ⟨d, allowed, c, rest, rfl, different, rfl⟩ |
      ⟨a, b, rest, rfl, rfl⟩)
    · exact .remove c y
    · exact .insert allowed x
    · exact .replace allowed different rest
    · exact .swap a b rest

/-- The words that are tried are those that one edit reaches, if it only uses the alphabet. -/
theorem mem_neighbours :
    other ∈ neighbours alphabet word ↔ Edit (· ∈ alphabet) word other := by
  simp only [neighbours, List.mem_append, mem_deletions, mem_insertions, mem_substitutions,
    mem_transpositions, Edit, Somewhere, editHere_iff, or_and_right, exists_or, or_assoc]

/-- An edit can be taken back with the characters of the word that it started from. -/
theorem Edit.back (edit : Edit kind word other) (letters : ∀ c ∈ word, letter c) :
    Edit letter other word := by
  obtain ⟨front, x, y, made, rfl, rfl⟩ := edit
  refine ⟨front, y, x, ?_, rfl, rfl⟩
  cases made with
  | remove c rest => exact .insert (letters c (by simp)) y
  | insert allowed rest => exact .remove _ x
  | replace allowed different rest => exact .replace (letters _ (by simp)) different.symm rest
  | swap a b rest => exact .swap b a rest

theorem Edit.lengths (edit : Edit letter word other) :
    word.length ≤ other.length + 1 ∧ other.length ≤ word.length + 1 := by
  obtain ⟨front, x, y, made, rfl, rfl⟩ := edit
  cases made <;> simp [Nat.add_assoc]

/-- A known word is tried exactly if one edit spoils it to the misspelled word. -/
theorem mem_neighbours_iff_oneEdit (letters : ∀ c ∈ known, c ∈ alphabet) :
    known ∈ neighbours alphabet word ↔ OneEdit known word := by
  rw [mem_neighbours]
  exact ⟨fun edit => edit.back fun _ _ => trivial, fun edit => edit.back letters⟩

/-- Lengths rule nothing out that the search would find. -/
theorem suggest_eq_find? (alphabet : String) (vocabulary : List String) (word : String) :
    suggest alphabet vocabulary word =
      ((neighbours alphabet.toList word.toList).find?
        (vocabulary.map String.toList).contains).map String.ofList := by
  rw [suggest, firstNeighbour_eq_find?]
  split
  · rename_i far
    have nothing : (neighbours alphabet.toList word.toList).find?
        (vocabulary.map String.toList).contains = none := by
      refine List.find?_eq_none.mpr fun other tried known => ?_
      obtain ⟨listed, member, rfl⟩ := List.mem_map.mp (List.contains_iff_mem.mp known)
      have apart := List.all_eq_true.mp far listed member
      have near := (mem_neighbours.mp tried).lengths
      simp only [Bool.or_eq_true, decide_eq_true_eq] at apart
      omega
    rw [nothing, Option.map_none]
  · rfl

theorem suggest_sound (found : suggest alphabet vocabulary word = some known) :
    known ∈ vocabulary ∧ OneEdit known.toList word.toList := by
  rw [suggest_eq_find?] at found
  obtain ⟨other, first, rfl⟩ := Option.map_eq_some_iff.mp found
  have listed := List.contains_iff_mem.mp (List.find?_some first)
  obtain ⟨text, member, rfl⟩ := List.mem_map.mp listed
  have tried := mem_neighbours.mp (List.mem_of_find?_eq_some first)
  rw [String.ofList_toList]
  exact ⟨member, tried.back fun _ _ => trivial⟩

theorem suggest_complete (letters : ∀ c ∈ known.toList, c ∈ alphabet.toList)
    (member : known ∈ vocabulary) (edit : OneEdit known.toList word.toList) :
    suggest alphabet vocabulary word ≠ none := by
  intro missing
  rw [suggest_eq_find?, Option.map_eq_none_iff, List.find?_eq_none] at missing
  refine missing known.toList ((mem_neighbours_iff_oneEdit letters).mpr edit) ?_
  exact List.contains_iff_mem.mpr (List.mem_map_of_mem member)

/-- With the letters of all known words at hand, suggestions are as good as they can be. -/
theorem suggest_repairs
    (letters : ∀ known ∈ vocabulary, ∀ c ∈ known.toList, c ∈ alphabet.toList) (word : String) :
    Repairs vocabulary word (suggest alphabet vocabulary word) where
  none_iff := by
    constructor
    · exact fun missing known member edit =>
        suggest_complete (letters known member) member edit missing
    · intro distant
      refine Option.eq_none_iff_forall_ne_some.mpr fun known found => ?_
      obtain ⟨member, edit⟩ := suggest_sound found
      exact distant known member edit
  sound known found := suggest_sound found
  unique known member edit only := by
    -- Something is found, and whatever is found is one edit away.
    obtain ⟨other, found⟩ := Option.ne_none_iff_exists'.mp
      (suggest_complete (letters known member) member edit)
    obtain ⟨listed, near⟩ := suggest_sound found
    rw [found, only other listed near]

theorem isMnemonic_iff (text : String) :
    Instruction.isMnemonic text = true ↔ text ∈ Instruction.mnemonics := by
  simp [Instruction.isMnemonic, Instruction.find?, Instruction.mnemonics]

theorem opcode_suggestion (alphabet : String) (origin : Origin)
    (read : (Line.split line).opcode = some token)
    (unknown : token.text ∉ Instruction.mnemonics) :
    ∃ d, LineCheck.opcode alphabet origin line = some d ∧
      d.suggestion = suggest alphabet Instruction.mnemonics token.text := by
  have other : ¬Instruction.isMnemonic token.text = true := mt (isMnemonic_iff _).mp unknown
  simp only [LineCheck.opcode, read, if_neg other]
  exact ⟨_, rfl, rfl⟩

theorem letters_of_all {alphabet : String} {vocabulary : List String}
    (all : vocabulary.all (fun known => known.toList.all alphabet.toList.contains) = true) :
    ∀ known ∈ vocabulary, ∀ c ∈ known.toList, c ∈ alphabet.toList := by
  intro known listed c member
  have letters := List.all_eq_true.mp all known listed
  exact List.contains_iff_mem.mp (List.all_eq_true.mp letters c member)

theorem mnemonics_letters :
    ∀ known ∈ Instruction.mnemonics, ∀ c ∈ known.toList, c ∈ defaultAlphabet.toList :=
  letters_of_all (by decide)

/-- A misspelled opcode gets a suggestion wherever it is read as the opcode of a line. -/
theorem offers_of_read (origin : Origin) (read : (Line.split line).opcode = some token)
    (original : mnemonic ∈ Instruction.mnemonics)
    (edit : OneEdit mnemonic.toList token.text.toList)
    (unknown : token.text ∉ Instruction.mnemonics) :
    Offers (LineCheck.opcode defaultAlphabet origin line) token.text mnemonic := by
  obtain ⟨d, found, suggestion⟩ := opcode_suggestion defaultAlphabet origin read unknown
  have repairs := suggest_repairs mnemonics_letters token.text
  rw [← suggestion] at repairs
  obtain ⟨known, offered⟩ := Option.ne_none_iff_exists'.mp fun missing =>
    repairs.none_iff.mp missing mnemonic original edit
  obtain ⟨listed, near⟩ := repairs.sound known offered
  refine ⟨d, known, found, offered, listed, near, fun only => ?_⟩
  exact Option.some.inj (offered.symm.trans (repairs.unique mnemonic original edit only))

theorem mnemonics_long : ∀ known ∈ Instruction.mnemonics, 1 < known.toList.length := by
  decide

/-- A word without blanks and colons is the opcode of the line that it makes up. -/
theorem split_word (word : List Char) (nonempty : word ≠ [])
    (whole : ∀ c ∈ word, Text.isBlank c = false) (plain : ':' ∉ word) :
    (Line.split (String.ofList word)).opcode = some ⟨String.ofList word, 1⟩ := by
  let written : LineLayout.WrittenInstruction :=
    ⟨[], word, [], [], by simp, nonempty, whole, by simp, by simp [LineLayout.writeOperands]⟩
  let layout : LineLayout.Layout :=
    ⟨none, .instruction written, by simp, fun _ other same _ => by cases same; exact plain⟩
  have text : layout.text = word := by
    simp [layout, written, LineLayout.Layout.text, LineLayout.Layout.opening, LineLayout.Body.text,
      LineLayout.WrittenInstruction.text, LineLayout.writeOperands]
  rw [← text, LineLayout.split_text, text]
  rfl

/-- A suggestion is missing only if no known word is one edit away from the misspelled one, it is
such a word otherwise, and the only one if there is only one. So a known opcode spoilt by one edit
is repaired where it is read as the opcode of a line, and it is read so if it makes up the line and
holds neither a blank nor a colon. -/
theorem one_edit_is_repaired :
    (∀ (alphabet : String) (vocabulary : List String) (word : String),
      (∀ known ∈ vocabulary, ∀ c ∈ known.toList, c ∈ alphabet.toList) →
        Repairs vocabulary word (suggest alphabet vocabulary word)) ∧
      ∀ (origin : Origin) (original word : String), original ∈ Instruction.mnemonics →
        OneEdit original.toList word.toList → word ∉ Instruction.mnemonics →
          (∀ line column, (Line.split line).opcode = some ⟨word, column⟩ →
            Offers (LineCheck.opcode defaultAlphabet origin line) word original) ∧
          ((∀ c ∈ word.toList, Text.isBlank c = false ∧ c ≠ ':') →
            Offers (LineCheck.opcode defaultAlphabet origin word) word original) := by
  refine ⟨fun alphabet vocabulary word letters => suggest_repairs letters word, ?_⟩
  intro origin original word listed edit unknown
  have wherever (line : String) (column : Nat)
      (read : (Line.split line).opcode = some ⟨word, column⟩) :
      Offers (LineCheck.opcode defaultAlphabet origin line) word original :=
    offers_of_read origin read listed edit unknown
  refine ⟨wherever, fun plain => wherever word 1 ?_⟩
  -- An opcode has at least two characters, so one edit leaves something to be read.
  have nonempty : word.toList ≠ [] := by
    intro empty
    have long := mnemonics_long original listed
    have near := edit.lengths.1
    rw [empty, List.length_nil] at near
    omega
  have alone := split_word word.toList nonempty (fun c member => (plain c member).1)
    (fun colon => (plain ':' colon).2 rfl)
  rwa [String.ofList_toList] at alone

theorem one_edit_is_repaired_move :
    Repairs ["MOVE", "MUL"] "MVE" (suggest "EMOVLU" ["MOVE", "MUL"] "MVE") ∧
      Offers (LineCheck.opcode defaultAlphabet {} "MO_VE") "MO_VE" "MOVE" := by
  have edit : OneEdit "MOVE".toList "MO_VE".toList :=
    ⟨['M', 'O'], ['V', 'E'], ['_', 'V', 'E'], .insert trivial _, rfl, rfl⟩
  have plain : "MO_VE".toList.all (fun c => !Text.isBlank c && decide (c ≠ ':')) = true := by decide
  exact ⟨one_edit_is_repaired.1 _ _ _ (letters_of_all (by decide)),
    (one_edit_is_repaired.2 {} "MOVE" "MO_VE" (by decide) edit (by decide)).2
      fun c member => by simpa using List.all_eq_true.mp plain c member⟩

/-- A blank that gets into an opcode cuts it in two, and the first half gets no suggestion. -/
theorem blank_in_opcode_is_not_repaired :
    "MOVE" ∈ Instruction.mnemonics ∧ OneEdit "MOVE".toList "MO VE".toList ∧
      "MO VE" ∉ Instruction.mnemonics ∧
        (LineCheck.opcode defaultAlphabet {} "MO VE").map (·.suggestion) = some none := by
  refine ⟨by decide, ?_, by decide, by decide⟩
  exact ⟨['M', 'O'], ['V', 'E'], [' ', 'V', 'E'], .insert trivial _, rfl, rfl⟩

end MalLint.SpellingRepair
