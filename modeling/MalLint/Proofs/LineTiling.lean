import MalLint.Proofs.Positions

/-! Splitting loses nothing. The tokens of a line stand in it from left to right and never touch;
between them there is only what separates them: the colon behind the label, blanks, and commas to
the right of the opcode. Since nothing else lies between tokens, none of them could be longer. -/
namespace MalLint.LineTiling

open Text Line LineLayout Positions

/-- The tokens of a line, from left to right. -/
def tokens (parts : Parts) : List Token :=
  parts.label.toList ++ parts.opcode.toList ++ parts.operands

/-- The column behind a token. -/
def stop (token : Token) : Nat :=
  token.column + token.text.length

/-- A column lies within a token. -/
def Within (token : Token) (column : Nat) : Prop :=
  token.column ≤ column ∧ column < stop token

/-- The character that stands in a column, counted from 1. -/
def Holds (line : String) (column : Nat) (c : Char) : Prop :=
  1 ≤ column ∧ line.toList[column - 1]? = some c

/-- What follows the label and its colon, or the whole line if there is no label. -/
def behindLabel (line : String) : Option Token → List Char
  | none => line.toList
  | some label => line.toList.drop (label.text.length + 1)

/-- The parts make up the line. -/
structure Tiles (line : String) (parts : Parts) : Prop where
  /-- Every token stands in the line where its column says. -/
  placed : ∀ token ∈ tokens parts, StandsAt line token.column token.text
  /-- Tokens come from left to right, with something between any two of them. -/
  apart : (tokens parts).Pairwise fun a b => stop a < b.column
  /-- A label is all that stands before a colon, if no blank stands there. -/
  label : ∀ label, label ∈ parts.label ↔ label.column = 1 ∧
    (∀ c ∈ label.text.toList, isBlank c = false ∧ c ≠ ':') ∧ StandsAt line 1 (label.text ++ ":")
  /-- An opcode goes from the label's colon, a blank or the start of the line to a blank or the end
  of the line. -/
  opcode : ∀ opcode ∈ parts.opcode, opcode.text ≠ "" ∧
    (∀ c ∈ opcode.text.toList, isBlank c = false) ∧
    (∀ c, Holds line (opcode.column - 1) c → isBlank c = true ∨
      c = ':' ∧ ∃ label ∈ parts.label, opcode.column = stop label + 1) ∧
    (∀ c, Holds line (stop opcode) c → isBlank c = true)
  /-- An operand lies between blanks or commas. -/
  operand : ∀ operand ∈ parts.operands, operand.text ≠ "" ∧
    (∀ c ∈ operand.text.toList, isBlank c = false ∧ c ≠ ',') ∧
    (∃ c, Holds line (operand.column - 1) c ∧ (isBlank c = true ∨ c = ',')) ∧
    (∀ c, Holds line (stop operand) c → isBlank c = true ∨ c = ',')
  /-- All that is not in a token only separates tokens. -/
  outside : ∀ column c, Holds line column c → (∀ token ∈ tokens parts, ¬ Within token column) →
    (c = ':' ∧ ∃ label ∈ parts.label, column = stop label) ∨ isBlank c = true ∨
      c = ',' ∧ ∃ opcode ∈ parts.opcode, stop opcode ≤ column
  /-- The opcode is absent exactly where there is nothing to read. -/
  bare : parts.opcode = none ↔ ∀ c ∈ behindLabel line parts.label, isBlank c = true
  alone : parts.opcode = none → parts.operands = []

section Operands

theorem column_le_stop (token : Token) : token.column ≤ stop token :=
  Nat.le_add_right _ _

theorem stop_placed (before piece : List Char) :
    stop (placed before piece) = 1 + (before ++ piece).length := by
  simp only [stop, placed, String.length_ofList, List.length_append]
  omega

/-- A separator stands before each operand. -/
theorem placeOperands_behind (before : List Char) {operands : List WrittenOperand}
    (member : token ∈ placeOperands before operands) : 1 + before.length < token.column := by
  induction operands generalizing before with
  | nil => cases member
  | cons operand rest ih =>
    have some : 0 < operand.separator.length := List.length_pos_iff.mpr operand.separator_ne
    rcases List.mem_cons.mp member with rfl | later
    · simp only [placed, List.length_append]
      omega
    · have := ih _ later
      simp only [List.length_append] at this
      omega

theorem placeOperands_apart (before : List Char) (operands : List WrittenOperand) :
    (placeOperands before operands).Pairwise fun a b => stop a < b.column := by
  induction operands generalizing before with
  | nil => exact .nil
  | cons operand rest ih =>
    refine .cons (fun later member => ?_) (ih _)
    rw [stop_placed]
    exact placeOperands_behind _ member

theorem placeOperands_whole (before : List Char) {operands : List WrittenOperand}
    (member : token ∈ placeOperands before operands) :
    ∀ c ∈ token.text.toList, isBlank c = false ∧ c ≠ ',' := by
  induction operands generalizing before with
  | nil => cases member
  | cons operand rest ih =>
    rcases List.mem_cons.mp member with rfl | later
    · simpa [placed] using operand.text_whole
    · exact ih _ later

/-- A character of a piece of text, by its place. -/
theorem mem_piece {front piece back : List Char} {i : Nat} {c : Char}
    (held : (front ++ (piece ++ back))[i]? = some c) (low : front.length ≤ i)
    (high : i < front.length + piece.length) : c ∈ piece := by
  rw [List.getElem?_append_right low, List.getElem?_append_left (by omega)] at held
  exact List.mem_of_getElem? held

/-- Behind the opcode, all that is in no operand separates operands. -/
theorem outside_operands {trail : List Char} (trail_apart : ∀ c ∈ trail, isBlank c = true ∨ c = ',')
    {before : List Char} {operands : List WrittenOperand} {i : Nat} {c : Char}
    (held : (before ++ writeOperands operands trail)[i]? = some c) (low : before.length ≤ i)
    (free : ∀ token ∈ placeOperands before operands, ¬ Within token (i + 1)) :
    isBlank c = true ∨ c = ',' := by
  -- What has been passed moves into `before`, so that places go on counting from the line's start.
  induction operands generalizing before with
  | nil =>
    rw [writeOperands, List.getElem?_append_right low] at held
    exact trail_apart c (List.mem_of_getElem? held)
  | cons operand rest ih =>
    rw [writeOperands, List.append_assoc] at held
    by_cases high : i < before.length + operand.separator.length
    · exact operand.separator_apart c (mem_piece held low high)
    · have own := free _ List.mem_cons_self
      rw [Within, stop_placed] at own
      simp only [placed, List.length_append] at own
      have behind : (before ++ operand.separator ++ operand.text ++ writeOperands rest trail)[i]? =
          some c := by
        simpa using held
      refine ih behind ?_ fun token later => free token (List.mem_cons_of_mem _ later)
      simp only [List.length_append]
      omega

end Operands

section Lines

theorem tokens_instruction (layout : Layout) (body : layout.body = .instruction written) :
    tokens layout.parts = (layout.label.map (placed [])).toList ++
      placed (layout.opening ++ written.gap) written.opcode ::
        placeOperands (layout.opening ++ written.gap ++ written.opcode) written.operands := by
  simp [tokens, Layout.parts, body, Body.tokens]

theorem tokens_blank (layout : Layout) (body : layout.body = .blank gap blank) :
    tokens layout.parts = (layout.label.map (placed [])).toList := by
  simp [tokens, Layout.parts, body, Body.tokens]

/-- The colon stands between the label and all that follows. -/
theorem stop_label (layout : Layout) (named : label ∈ layout.label.map (placed [])) :
    stop label = layout.opening.length := by
  obtain ⟨name, held, rfl⟩ := Option.map_eq_some_iff.mp named
  simp [stop_placed, Layout.opening, held, Nat.add_comm]

theorem tokens_apart (layout : Layout) :
    (tokens layout.parts).Pairwise fun a b => stop a < b.column := by
  have labels : (layout.label.map (placed [])).toList.Pairwise fun a b => stop a < b.column := by
    cases layout.label <;> simp
  cases body : layout.body with
  | blank gap blank => rwa [tokens_blank layout body]
  | instruction written =>
    rw [tokens_instruction layout body, List.pairwise_append, List.pairwise_cons]
    refine ⟨labels, ⟨fun operand member => ?_, placeOperands_apart _ _⟩, ?_⟩
    · rw [stop_placed]
      exact placeOperands_behind _ member
    · intro label named token member
      have short := stop_label layout (Option.mem_toList.mp named)
      rcases List.mem_cons.mp member with rfl | operand
      · simp only [placed, List.length_append]
        omega
      · have := placeOperands_behind _ operand
        simp only [List.length_append] at this
        omega

/-- In front of the body, only the colon of the label is in no token. -/
theorem outside_opening (layout : Layout) {i : Nat} {c : Char} (held : layout.text[i]? = some c)
    (opens : i < layout.opening.length)
    (free : ∀ token ∈ tokens layout.parts, ¬ Within token (i + 1)) :
    c = ':' ∧ ∃ label ∈ layout.parts.label, i + 1 = stop label := by
  cases named : layout.label with
  | none => simp [Layout.opening, named] at opens
  | some name =>
    have own := free (placed [] name) (by simp [tokens, Layout.parts, named])
    have opening : layout.opening = name ++ [':'] := by simp [Layout.opening, named]
    rw [Within, stop_placed] at own
    simp only [opening, placed, List.length_append, List.length_nil, List.length_singleton,
      List.nil_append] at own opens
    obtain rfl : i = name.length := by omega
    refine ⟨?_, placed [] name, by simp [Layout.parts, named], ?_⟩
    · simpa [Layout.text, opening, eq_comm] using held
    · simp [stop_placed, Nat.add_comm]

theorem text_instruction (layout : Layout) (body : layout.body = .instruction written) :
    layout.text = layout.opening ++ written.gap ++ written.opcode ++
      writeOperands written.operands written.trail := by
  simp [Layout.text, body, Body.text, WrittenInstruction.text]

theorem outside_instruction (layout : Layout) (body : layout.body = .instruction written)
    {i : Nat} {c : Char} (held : layout.text[i]? = some c) (low : layout.opening.length ≤ i)
    (free : ∀ token ∈ tokens layout.parts, ¬ Within token (i + 1)) :
    isBlank c = true ∨ c = ',' ∧ ∃ opcode ∈ layout.parts.opcode, stop opcode ≤ i + 1 := by
  rw [tokens_instruction layout body] at free
  rw [text_instruction layout body] at held
  by_cases gap : i < layout.opening.length + written.gap.length
  · rw [List.append_assoc, List.append_assoc] at held
    exact .inl (written.gap_blank c (mem_piece held low gap))
  · have own := free (placed (layout.opening ++ written.gap) written.opcode) (by simp)
    rw [Within, stop_placed] at own
    simp only [placed, List.length_append] at own
    have behind : (layout.opening ++ written.gap ++ written.opcode).length ≤ i := by
      simp only [List.length_append]
      omega
    have separates := outside_operands written.trail_apart held behind fun token member =>
      free token (List.mem_append_right _ (List.mem_cons_of_mem _ member))
    refine separates.imp_right fun comma =>
      ⟨comma, placed (layout.opening ++ written.gap) written.opcode, ?_, ?_⟩
    · simp [Layout.parts, body, Body.tokens]
    · rw [stop_placed]
      omega

theorem outside_tokens (layout : Layout) {i : Nat} {c : Char} (held : layout.text[i]? = some c)
    (free : ∀ token ∈ tokens layout.parts, ¬ Within token (i + 1)) :
    (c = ':' ∧ ∃ label ∈ layout.parts.label, i + 1 = stop label) ∨ isBlank c = true ∨
      c = ',' ∧ ∃ opcode ∈ layout.parts.opcode, stop opcode ≤ i + 1 := by
  by_cases opens : i < layout.opening.length
  · exact .inl (outside_opening layout held opens free)
  · have low : layout.opening.length ≤ i := by omega
    right
    cases body : layout.body with
    | instruction written => exact outside_instruction layout body held low free
    | blank gap blank =>
      rw [Layout.text, body, List.getElem?_append_right low] at held
      exact .inl (blank c (List.mem_of_getElem? held))

theorem instruction_of_opcode (layout : Layout) (read : opcode ∈ layout.parts.opcode) :
    ∃ written, layout.body = .instruction written ∧
      opcode = placed (layout.opening ++ written.gap) written.opcode := by
  cases body : layout.body with
  | blank gap blank => simp [Layout.parts, body, Body.tokens] at read
  | instruction written =>
    exact ⟨written, rfl, by simpa [Layout.parts, body, Body.tokens, eq_comm] using read⟩

theorem instruction_of_operand (layout : Layout) (listed : operand ∈ layout.parts.operands) :
    ∃ written, layout.body = .instruction written ∧
      operand ∈ placeOperands (layout.opening ++ written.gap ++ written.opcode)
        written.operands := by
  cases body : layout.body with
  | blank gap blank => simp [Layout.parts, body, Body.tokens] at listed
  | instruction written =>
    exact ⟨written, rfl, by simpa [Layout.parts, body, Body.tokens] using listed⟩

/-- An opcode ends only at a blank. -/
theorem opcode_ends (layout : Layout) (read : opcode ∈ layout.parts.opcode)
    (held : layout.text[stop opcode - 1]? = some c) : isBlank c = true := by
  obtain ⟨written, body, rfl⟩ := instruction_of_opcode layout read
  rw [text_instruction layout body, stop_placed, Nat.add_sub_cancel_left,
    List.getElem?_append_right (Nat.le_refl _), Nat.sub_self, ← List.head?_eq_getElem?] at held
  exact written.opcode_ends c held

theorem behindLabel_eq (layout : Layout) :
    behindLabel (String.ofList layout.text) layout.parts.label = layout.body.text := by
  cases named : layout.label with
  | none => simp [behindLabel, Layout.parts, Layout.text, Layout.opening, named]
  | some name =>
    have opening : layout.opening = name ++ [':'] := by simp [Layout.opening, named]
    have long : (placed [] name).text.length + 1 = layout.opening.length := by
      simp [placed, opening]
    simp only [Layout.parts, named, Option.map_some, behindLabel, String.toList_ofList, long,
      Layout.text, List.drop_left]

theorem opcode_absent_iff (layout : Layout) :
    layout.parts.opcode = none ↔ ∀ c ∈ layout.body.text, isBlank c = true := by
  cases body : layout.body with
  | blank gap blank => simpa [Layout.parts, body, Body.tokens, Body.text] using blank
  | instruction written =>
    obtain ⟨c, rest, spelled⟩ := List.exists_cons_of_ne_nil written.opcode_ne
    have whole : isBlank c = false := written.opcode_whole c (by simp [spelled])
    refine iff_of_false (by simp [Layout.parts, body, Body.tokens]) fun blank => ?_
    have := blank c (by simp [Body.text, WrittenInstruction.text, spelled])
    simp [whole] at this

end Lines

section Borders

theorem exists_split (line : String) :
    ∃ layout : Layout, String.ofList layout.text = line ∧ Line.split line = layout.parts := by
  obtain ⟨layout, written⟩ := exists_layout line.toList
  have same : String.ofList layout.text = line := by rw [written, String.ofList_toList]
  exact ⟨layout, same, same ▸ split_text layout⟩

theorem split_apart (line : String) :
    (tokens (Line.split line)).Pairwise fun a b => stop a < b.column := by
  obtain ⟨layout, -, split⟩ := exists_split line
  exact split ▸ tokens_apart layout

theorem split_outside (line : String) {column : Nat} {c : Char} (held : Holds line column c)
    (free : ∀ token ∈ tokens (Line.split line), ¬ Within token column) :
    (c = ':' ∧ ∃ label ∈ (Line.split line).label, column = stop label) ∨ isBlank c = true ∨
      c = ',' ∧ ∃ opcode ∈ (Line.split line).opcode, stop opcode ≤ column := by
  obtain ⟨layout, rfl, split⟩ := exists_split line
  obtain ⟨i, rfl⟩ : ∃ i, column = i + 1 := ⟨column - 1, by have := held.1; omega⟩
  rw [split] at free ⊢
  have shown : layout.text[i]? = some c := by simpa using held.2
  exact outside_tokens layout shown free

/-- Tokens never touch, so the columns next to a token are in no token. -/
theorem free_of_border (line : String) (member : token ∈ tokens (Line.split line))
    (next : column = stop token ∨ column + 1 = token.column) :
    ∀ other ∈ tokens (Line.split line), ¬ Within other column := by
  obtain ⟨front, back, shape⟩ := List.append_of_mem member
  have apart := split_apart line
  rw [shape, List.pairwise_append, List.pairwise_cons] at apart
  obtain ⟨-, ⟨later, -⟩, earlier⟩ := apart
  have length := column_le_stop token
  intro other listed within
  obtain ⟨low, high⟩ := within
  rw [shape, List.mem_append, List.mem_cons] at listed
  rcases listed with before | rfl | behind
  · have := earlier other before token List.mem_cons_self
    omega
  · omega
  · have := later other behind
    omega

theorem mem_tokens_of_opcode {parts : Parts} (read : opcode ∈ parts.opcode) :
    opcode ∈ tokens parts := by
  simp [tokens, Option.mem_def.mp read]

theorem mem_tokens_of_operand {parts : Parts} (listed : operand ∈ parts.operands) :
    operand ∈ tokens parts :=
  List.mem_append_right _ listed

theorem label_before_opcode (line : String) (named : label ∈ (Line.split line).label)
    (read : opcode ∈ (Line.split line).opcode) : stop label < opcode.column := by
  have apart := split_apart line
  rw [tokens, List.pairwise_append, List.pairwise_append] at apart
  exact apart.1.2.2 label (by simpa using named) opcode (by simpa using read)

theorem opcode_before_operand (line : String) (read : opcode ∈ (Line.split line).opcode)
    (listed : operand ∈ (Line.split line).operands) : stop opcode < operand.column := by
  have apart := split_apart line
  rw [tokens, List.pairwise_append] at apart
  refine apart.2.2 opcode (List.mem_append_right _ ?_) operand listed
  simpa using read

/-- There are no operands without an opcode. -/
theorem opcode_of_operand (line : String) (listed : operand ∈ (Line.split line).operands) :
    ∃ opcode, opcode ∈ (Line.split line).opcode := by
  obtain ⟨layout, -, split⟩ := exists_split line
  rw [split] at listed ⊢
  obtain ⟨written, body, -⟩ := instruction_of_operand layout listed
  simp [Layout.parts, body, Body.tokens]

/-- What stands next to an operand separates it from what is beyond. -/
theorem operand_border (line : String) (listed : operand ∈ (Line.split line).operands)
    (next : column = stop operand ∨ column + 1 = operand.column) (held : Holds line column c) :
    isBlank c = true ∨ c = ',' := by
  obtain ⟨opcode, read⟩ := opcode_of_operand line listed
  have free := free_of_border line (mem_tokens_of_operand listed) next
  rcases split_outside line held free with ⟨-, label, named, place⟩ | blank | ⟨comma, -⟩
  · -- The colon of the label lies on the other side of the opcode.
    have first := label_before_opcode line named read
    have second := opcode_before_operand line read listed
    have length := column_le_stop opcode
    have width := column_le_stop operand
    omega
  · exact .inl blank
  · exact .inr comma

/-- What stands before an opcode is the colon of the label or a blank. -/
theorem opcode_border (line : String) (read : opcode ∈ (Line.split line).opcode)
    (next : column + 1 = opcode.column) (held : Holds line column c) :
    isBlank c = true ∨
      c = ':' ∧ ∃ label ∈ (Line.split line).label, opcode.column = stop label + 1 := by
  have free := free_of_border line (mem_tokens_of_opcode read) (.inr next)
  rcases split_outside line held free with ⟨colon, label, named, place⟩ | blank |
    ⟨-, same, again, behind⟩
  · exact .inr ⟨colon, label, named, by omega⟩
  · exact .inl blank
  · obtain rfl := Option.some.inj (read.symm.trans again)
    have length := column_le_stop opcode
    omega

theorem label_iff (line : String) (label : Token) :
    label ∈ (Line.split line).label ↔ label.column = 1 ∧
      (∀ c ∈ label.text.toList, isBlank c = false ∧ c ≠ ':') ∧
      StandsAt line 1 (label.text ++ ":") := by
  rw [Option.mem_def, LabelWiring.split_label, Option.map_eq_some_iff]
  constructor
  · rintro ⟨name, found, rfl⟩
    obtain ⟨plain, rest, shape⟩ := label?_eq_some_iff.mp found
    exact ⟨rfl, by simpa using plain, [], rest, by simp [shape], rfl⟩
  · rintro ⟨first, plain, before, after, shape, place⟩
    obtain rfl : before = [] := List.length_eq_zero_iff.mp (by omega)
    refine ⟨label.text.toList, label?_eq_some_iff.mpr ⟨plain, after, by simpa using shape⟩, ?_⟩
    rw [String.ofList_toList, ← first]

theorem split_placed (line : String) (member : token ∈ tokens (Line.split line)) :
    StandsAt line token.column token.text := by
  rw [tokens, List.append_assoc, List.mem_append, Option.mem_toList] at member
  rcases member with label | other
  · exact label_stands line label
  · exact (split_stand line other).2

theorem opcode_whole (line : String) (read : opcode ∈ (Line.split line).opcode) :
    ∀ c ∈ opcode.text.toList, isBlank c = false := by
  obtain ⟨layout, -, split⟩ := exists_split line
  rw [split] at read
  obtain ⟨written, -, rfl⟩ := instruction_of_opcode layout read
  simpa [placed] using written.opcode_whole

theorem operand_whole (line : String) (listed : operand ∈ (Line.split line).operands) :
    ∀ c ∈ operand.text.toList, isBlank c = false ∧ c ≠ ',' := by
  obtain ⟨layout, -, split⟩ := exists_split line
  rw [split] at listed
  obtain ⟨written, -, placed⟩ := instruction_of_operand layout listed
  exact placeOperands_whole _ placed

/-- Something stands before an operand. -/
theorem exists_before_operand (line : String) (listed : operand ∈ (Line.split line).operands) :
    ∃ c, Holds line (operand.column - 1) c := by
  obtain ⟨opcode, read⟩ := opcode_of_operand line listed
  have order := opcode_before_operand line read listed
  obtain ⟨first, -, -, start⟩ := (opcode_stands line read).2
  obtain ⟨before, after, shape, place⟩ := (operand_stands line listed).2
  have length := column_le_stop opcode
  have bound : operand.column - 1 - 1 < line.toList.length := by
    rw [shape]
    simp only [List.length_append]
    omega
  exact ⟨_, by omega, List.getElem?_eq_getElem bound⟩

end Borders

/-- Splitting loses nothing: the parts of any line make up the line. -/
theorem split_tiles (line : String) : Tiles line (Line.split line) where
  placed token member := split_placed line member
  apart := split_apart line
  label := label_iff line
  opcode opcode read := by
    refine ⟨(opcode_stands line read).1, opcode_whole line read, fun c held => ?_, fun c held => ?_⟩
    · exact opcode_border line read (by have := held.1; omega) held
    · obtain ⟨layout, rfl, split⟩ := exists_split line
      rw [split] at read
      exact opcode_ends layout read (by simpa using held.2)
  operand operand listed := by
    obtain ⟨c, before⟩ := exists_before_operand line listed
    refine ⟨(operand_stands line listed).1, operand_whole line listed, ⟨c, before, ?_⟩,
      fun c held => operand_border line listed (.inl rfl) held⟩
    exact operand_border line listed (.inr (by have := before.1; omega)) before
  outside column c held free := split_outside line held free
  bare := by
    obtain ⟨layout, rfl, split⟩ := exists_split line
    rw [split, behindLabel_eq, opcode_absent_iff]
  alone absent := by
    refine List.eq_nil_iff_forall_not_mem.mpr fun operand listed => ?_
    obtain ⟨opcode, read⟩ := opcode_of_operand line listed
    cases absent.symm.trans read

end MalLint.LineTiling
