import MalLint.Proofs.LineTiling

/-! The words of a line. Cut at blanks alone, a line falls into words; cut by the rules for labels,
opcodes and operands, it falls into parts. The two cuts differ in what ends a piece and in where
they start, but on a line without commas they have the same borders, except for the colon behind the
label: it ends the label, and it ends a word only if a blank follows it. -/
namespace MalLint.LineWords

open Text Line LineLayout LineTiling

/-- The words of a line are its parts. The colon of a label stands in the column behind the label,
so that what comes next on the line is in the column after that. -/
structure Agree (line : String) (parts : Parts) (words : List Token) : Prop where
  /-- Without a label, the words are the opcode and the operands. -/
  unlabelled : parts.label = none → words = parts.opcode.toList ++ parts.operands
  /-- A label and its colon are a word if a blank comes next, or nothing at all. -/
  apart : ∀ label ∈ parts.label, (∀ c, Holds line (stop label + 1) c → isBlank c = true) →
    words = ⟨label.text ++ ":", 1⟩ :: (parts.opcode.toList ++ parts.operands)
  /-- Otherwise there is an opcode, and it belongs to the same word. -/
  joined : ∀ label ∈ parts.label, ∀ c, Holds line (stop label + 1) c → isBlank c = false →
    ∃ opcode ∈ parts.opcode, words = ⟨label.text ++ ":" ++ opcode.text, 1⟩ :: parts.operands

/-- The words of a text that comes after `before` on its line. -/
def words (before text : List Char) : List Token :=
  (runs (!isBlank ·) (1 + before.length) text).map tokenOf

section Words

/-- What is kept of a text depends on how its own characters are judged. -/
theorem runs_congr {keep hold : Char → Bool} {text : List Char}
    (same : ∀ c ∈ text, keep c = hold c) (column : Nat) :
    runs keep column text = runs hold column text := by
  induction text generalizing column with
  | nil => rfl
  | cons c rest ih =>
    have later := ih (fun d member => same d (List.mem_cons_of_mem c member)) (column + 1)
    rw [runs, runs, later, same c List.mem_cons_self]

theorem words_of_blank {gap : List Char} (blank : ∀ c ∈ gap, isBlank c = true)
    (before rest : List Char) : words before (gap ++ rest) = words (before ++ gap) rest := by
  have skipped : ∀ c ∈ gap, (!isBlank c) = false := by simpa using blank
  rw [words, runs_append_of_not_keep skipped, words, List.length_append, Nat.add_assoc]

/-- A stretch without blanks is a word if a blank or nothing follows. -/
theorem words_of_whole {word rest : List Char} (nonempty : word ≠ [])
    (whole : ∀ c ∈ word, isBlank c = false) (ends : ∀ c ∈ rest.head?, isBlank c = true)
    (before : List Char) :
    words before (word ++ rest) = placed before word :: words (before ++ word) rest := by
  have kept : ∀ c ∈ word, (!isBlank c) = true := by simpa using whole
  have bounded : ∀ c ∈ rest.head?, (!isBlank c) = false := by simpa using ends
  rw [words, runs_append_of_keep nonempty kept _ bounded, words, List.length_append,
    ← Nat.add_assoc]
  rfl

/-- Where there are no commas, blanks alone separate operands. -/
theorem words_operands (before : List Char) (operands : List WrittenOperand)
    (trail_apart : ∀ c ∈ trail, isBlank c = true ∨ c = ',')
    (commaless : ',' ∉ writeOperands operands trail) :
    words before (writeOperands operands trail) = placeOperands before operands := by
  have same : ∀ c ∈ writeOperands operands trail, (!isBlank c) = inOperand c := by
    intro c member
    have other : c ≠ ',' := fun comma => commaless (comma ▸ member)
    simp [inOperand, other]
  rw [words, runs_congr same, runs_writeOperands before operands trail_apart]

theorem words_body (before : List Char) (body : Body) (commaless : ',' ∉ body.text) :
    words before body.text = (body.tokens before).1.toList ++ (body.tokens before).2 := by
  cases body with
  | blank gap gap_blank =>
    have none := words_of_blank gap_blank before []
    rw [List.append_nil] at none
    exact none
  | instruction written =>
    have behind : ',' ∉ writeOperands written.operands written.trail :=
      fun member => commaless (List.mem_append_right _ member)
    rw [Body.text, WrittenInstruction.text, List.append_assoc, words_of_blank written.gap_blank,
      words_of_whole written.opcode_ne written.opcode_whole written.opcode_ends,
      words_operands _ _ written.trail_apart behind]
    rfl

end Words

section Labels

variable {layout : Layout} {name : List Char}

theorem opening_whole (named : layout.label = some name) :
    ∀ c ∈ layout.opening, isBlank c = false := by
  intro c member
  simp only [Layout.opening, named, List.mem_append, List.mem_singleton] at member
  rcases member with inside | rfl
  · exact (layout.label_plain name named c inside).1
  · decide

/-- What comes after the colon of the label is what the body starts with. -/
theorem holds_behind_label (named : layout.label = some name) {c : Char} :
    Holds (String.ofList layout.text) (stop (placed [] name) + 1) c ↔
      c ∈ layout.body.text.head? := by
  have colon : stop (placed [] name) = layout.opening.length :=
    stop_label layout (by simp [named])
  rw [Holds, colon, String.toList_ofList, Layout.text, Nat.add_sub_cancel,
    List.getElem?_append_right (Nat.le_refl _), Nat.sub_self, ← List.head?_eq_getElem?]
  simp

/-- An opcode comes directly after the colon if anything but a blank does. -/
theorem instruction_of_head {body : Body} (first : c ∈ body.text.head?)
    (whole : isBlank c = false) :
    ∃ written, body = .instruction written ∧ written.gap = [] := by
  cases body with
  | blank gap gap_blank =>
    have blank := gap_blank c (List.mem_of_mem_head? first)
    simp [whole] at blank
  | instruction written =>
    refine ⟨written, rfl, ?_⟩
    cases leading : written.gap with
    | nil => rfl
    | cons d gap =>
      have same : d = c := by simpa [Body.text, WrittenInstruction.text, leading] using first
      have blank := written.gap_blank d (by simp [leading])
      simp [same, whole] at blank

end Labels

theorem tokenize_ofList (text : List Char) : tokenize (String.ofList text) = words [] text := by
  rw [tokenize, String.toList_ofList]
  rfl

theorem words_unlabelled {layout : Layout} (commaless : ',' ∉ layout.text)
    (unnamed : layout.label = none) :
    words [] layout.text = layout.parts.opcode.toList ++ layout.parts.operands := by
  have opening : layout.opening = [] := by simp [Layout.opening, unnamed]
  rw [Layout.text, opening, List.nil_append] at commaless ⊢
  rw [words_body [] layout.body commaless, Layout.parts, opening]

theorem words_apart {layout : Layout} (commaless : ',' ∉ layout.text)
    (named : layout.label = some name) (ends : ∀ c ∈ layout.body.text.head?, isBlank c = true) :
    words [] layout.text =
      placed [] layout.opening :: (layout.parts.opcode.toList ++ layout.parts.operands) := by
  have nonempty : layout.opening ≠ [] := by simp [Layout.opening, named]
  have behind : ',' ∉ layout.body.text := fun member => commaless (List.mem_append_right _ member)
  rw [Layout.text, words_of_whole nonempty (opening_whole named) ends, List.nil_append,
    words_body _ _ behind]
  rfl

theorem words_joined {layout : Layout} (commaless : ',' ∉ layout.text)
    (named : layout.label = some name) (body : layout.body = .instruction written)
    (touching : written.gap = []) :
    words [] layout.text =
      placed [] (layout.opening ++ written.opcode) :: layout.parts.operands := by
  have nonempty : layout.opening ++ written.opcode ≠ [] := by simp [written.opcode_ne]
  have whole : ∀ c ∈ layout.opening ++ written.opcode, isBlank c = false :=
    List.forall_mem_append.mpr ⟨opening_whole named, written.opcode_whole⟩
  rw [text_instruction layout body] at commaless ⊢
  have behind : ',' ∉ writeOperands written.operands written.trail :=
    fun member => commaless (List.mem_append_right _ member)
  rw [touching, List.append_nil, words_of_whole nonempty whole written.opcode_ends,
    List.nil_append, words_operands _ _ written.trail_apart behind]
  simp [Layout.parts, body, Body.tokens, touching]

/-- On a line without commas, cutting at blanks and splitting find the same pieces in the same
columns. Only a label makes a difference: its colon belongs to the word that the label starts, and
so does the opcode if it comes directly after the colon. -/
theorem split_agrees_with_words (line : String) (commaless : ',' ∉ line.toList) :
    Agree line (Line.split line) (tokenize line) := by
  obtain ⟨layout, rfl, split⟩ := exists_split line
  rw [String.toList_ofList] at commaless
  rw [split, tokenize_ofList]
  refine ⟨fun unnamed => ?_, fun label member ends => ?_, fun label member c first whole => ?_⟩
  · exact words_unlabelled commaless (Option.map_eq_none_iff.mp unnamed)
  · obtain ⟨name, named, rfl⟩ := Option.map_eq_some_iff.mp member
    rw [words_apart commaless named fun c first => ends c ((holds_behind_label named).mpr first)]
    simp [placed, Layout.opening, named]
  · obtain ⟨name, named, rfl⟩ := Option.map_eq_some_iff.mp member
    obtain ⟨written, body, touching⟩ :=
      instruction_of_head ((holds_behind_label named).mp first) whole
    refine ⟨placed (layout.opening ++ written.gap) written.opcode, ?_, ?_⟩
    · simp [Layout.parts, body, Body.tokens]
    · rw [words_joined commaless named body touching]
      simp [placed, Layout.opening, named, String.append_assoc]

/-- A blank before the first colon, a blank behind it, and an empty label with an opcode directly
after the colon that holds another one. -/
theorem split_agrees_with_words_colons :
    ',' ∉ "\tBR: L:".toList ∧ tokenize "\tBR: L:" = [⟨"BR:", 2⟩, ⟨"L:", 6⟩] ∧
      ',' ∉ "L: INC  R1".toList ∧
        tokenize "L: INC  R1" = [⟨"L:", 1⟩, ⟨"INC", 4⟩, ⟨"R1", 9⟩] ∧
      ',' ∉ ":A:B R1:".toList ∧ tokenize ":A:B R1:" = [⟨":A:B", 1⟩, ⟨"R1:", 6⟩] := by
  have bare : ',' ∉ "\tBR: L:".toList := by simp
  have apart : ',' ∉ "L: INC  R1".toList := by simp
  have joined : ',' ∉ ":A:B R1:".toList := by simp
  have blank : ∀ c, Holds "L: INC  R1" 3 c → isBlank c = true := by
    rintro c ⟨-, held⟩
    obtain rfl : ' ' = c := by simpa using held
    rfl
  obtain ⟨opcode, read, found⟩ :=
    (split_agrees_with_words _ joined).joined ⟨"", 1⟩ rfl 'A' ⟨by simp, rfl⟩ rfl
  obtain rfl : ⟨"A:B", 2⟩ = opcode := Option.some.inj read
  refine ⟨bare, ?_, apart, ?_, joined, found⟩
  · exact (split_agrees_with_words _ bare).unlabelled rfl
  · exact (split_agrees_with_words _ apart).apart ⟨"L", 1⟩ rfl blank

end MalLint.LineWords
