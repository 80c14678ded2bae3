import MalLint.Line
import Mathlib.Data.List.TakeWhile

/-! Lines as they are written. A layout fixes the label, the opcode, the operands and all that
stands around them; its text is their concatenation. Splitting the text of a layout gives back its
parts, and every line is the text of some layout, so that what a split says about a line can be
read off a layout of it. -/
namespace MalLint.LineLayout

open Text Line

/-- An operand as it is written: at least one blank or comma, then its text. -/
structure WrittenOperand where
  separator : List Char
  text : List Char
  separator_ne : separator ≠ []
  separator_apart : ∀ c ∈ separator, isBlank c = true ∨ c = ','
  text_ne : text ≠ []
  text_whole : ∀ c ∈ text, isBlank c = false ∧ c ≠ ','

/-- The text of some operands and of what follows the last one. -/
def writeOperands : List WrittenOperand → List Char → List Char
  | [], trail => trail
  | operand :: rest, trail => operand.separator ++ operand.text ++ writeOperands rest trail

/-- An instruction as it is written. Commas belong to the opcode, so the opcode ends only at a
blank or at the end of the line. -/
structure WrittenInstruction where
  /-- What stands before the opcode. -/
  gap : List Char
  opcode : List Char
  operands : List WrittenOperand
  /-- What stands after the last operand, or after the opcode if there is none. -/
  trail : List Char
  gap_blank : ∀ c ∈ gap, isBlank c = true
  opcode_ne : opcode ≠ []
  opcode_whole : ∀ c ∈ opcode, isBlank c = false
  trail_apart : ∀ c ∈ trail, isBlank c = true ∨ c = ','
  opcode_ends : ∀ c ∈ (writeOperands operands trail).head?, isBlank c = true

/-- The text of an instruction. -/
def WrittenInstruction.text (written : WrittenInstruction) : List Char :=
  written.gap ++ written.opcode ++ writeOperands written.operands written.trail

/-- What a line holds besides its label. -/
inductive Body where
  | blank (gap : List Char) (gap_blank : ∀ c ∈ gap, isBlank c = true)
  | instruction (written : WrittenInstruction)

/-- The text of a body. -/
def Body.text : Body → List Char
  | .blank gap _ => gap
  | .instruction written => written.text

/-- A line as it is written. A label holds neither blanks nor colons. On a line without a label, a
colon in the opcode would make one, unless a blank stands before it. -/
structure Layout where
  label : Option (List Char)
  body : Body
  label_plain : ∀ name ∈ label, ∀ c ∈ name, isBlank c = false ∧ c ≠ ':'
  opcode_plain : label = none → ∀ written, body = .instruction written → written.gap = [] →
    ':' ∉ written.opcode

/-- The label and its colon. -/
def Layout.opening (layout : Layout) : List Char :=
  match layout.label with
  | none => []
  | some name => name ++ [':']

/-- The text of a line. -/
def Layout.text (layout : Layout) : List Char :=
  layout.opening ++ layout.body.text

/-- A piece of a line, in the column that the text before it leaves. -/
def placed (before piece : List Char) : Token :=
  ⟨String.ofList piece, 1 + before.length⟩

/-- The operands as tokens, where `before` is the text of the line up to the first separator. -/
def placeOperands (before : List Char) : List WrittenOperand → List Token
  | [] => []
  | operand :: rest =>
    placed (before ++ operand.separator) operand.text ::
      placeOperands (before ++ operand.separator ++ operand.text) rest

/-- The opcode and the operands of a body as tokens, where `before` is the text of the line up to
the body. -/
def Body.tokens (before : List Char) : Body → Option Token × List Token
  | .blank _ _ => (none, [])
  | .instruction written =>
    (some (placed (before ++ written.gap) written.opcode),
      placeOperands (before ++ written.gap ++ written.opcode) written.operands)

/-- The parts of a line as they were written, each in the column where it stands. -/
def Layout.parts (layout : Layout) : Parts :=
  ⟨layout.label.map (placed []), (layout.body.tokens layout.opening).1,
    (layout.body.tokens layout.opening).2⟩

private theorem inOperand_eq_false : inOperand c = false ↔ isBlank c = true ∨ c = ',' := by
  simp only [inOperand, Bool.and_eq_false_iff, Bool.not_eq_false', decide_eq_false_iff_not,
    ne_eq, Decidable.not_not]

private theorem inOperand_eq_true : inOperand c = true ↔ isBlank c = false ∧ c ≠ ',' := by
  simp only [inOperand, Bool.and_eq_true, Bool.not_eq_true', decide_eq_true_eq]

/-- What follows an operand starts with a blank or a comma. -/
private theorem writeOperands_head_apart (operands : List WrittenOperand)
    (trail_apart : ∀ c ∈ trail, isBlank c = true ∨ c = ',') :
    ∀ c ∈ (writeOperands operands trail).head?, inOperand c = false := by
  intro c first
  cases operands with
  | nil => exact inOperand_eq_false.mpr (trail_apart c (List.mem_of_mem_head? first))
  | cons operand rest =>
    obtain ⟨d, others, shape⟩ := List.exists_cons_of_ne_nil operand.separator_ne
    simp only [writeOperands, shape, List.cons_append, List.head?_cons, Option.mem_some_iff] at first
    exact inOperand_eq_false.mpr (operand.separator_apart c (by simp [shape, first]))

/-- The runs after the opcode are the operands, each in its column. -/
theorem runs_writeOperands (before : List Char) (operands : List WrittenOperand)
    (trail_apart : ∀ c ∈ trail, isBlank c = true ∨ c = ',') :
    (runs inOperand (1 + before.length) (writeOperands operands trail)).map tokenOf =
      placeOperands before operands := by
  induction operands generalizing before with
  | nil =>
    have skipped : ∀ c ∈ trail, inOperand c = false :=
      fun c member => inOperand_eq_false.mpr (trail_apart c member)
    have none := runs_append_of_not_keep skipped (1 + before.length) []
    simp only [List.append_nil, runs] at none
    simp [writeOperands, placeOperands, none]
  | cons operand rest ih =>
    have column : 1 + before.length + operand.separator.length + operand.text.length =
        1 + (before ++ operand.separator ++ operand.text).length := by
      simp only [List.length_append]
      omega
    rw [writeOperands, List.append_assoc, runs_append_of_not_keep
      (fun c member => inOperand_eq_false.mpr (operand.separator_apart c member)),
      runs_append_of_keep operand.text_ne
        (fun c member => inOperand_eq_true.mpr (operand.text_whole c member)) _
        (writeOperands_head_apart rest trail_apart),
      List.map_cons, column, ih, placeOperands]
    simp only [tokenOf, placed, List.length_append, Nat.add_assoc]

theorem placeOperands_texts (before : List Char) (operands : List WrittenOperand) :
    (placeOperands before operands).map (·.text) =
      operands.map fun operand => String.ofList operand.text := by
  induction operands generalizing before with
  | nil => rfl
  | cons operand rest ih => simp [placeOperands, placed, ih]

private theorem takeWhile_append_stop {p : Char → Bool} {front rest : List Char}
    (taken : ∀ c ∈ front, p c = true)
    (stop : ∀ c ∈ rest.head?, p c = false) : (front ++ rest).takeWhile p = front := by
  rw [List.takeWhile_append_of_pos taken]
  cases rest with
  | nil => simp
  | cons c rest => simp [stop c rfl]

private theorem dropWhile_append_stop {p : Char → Bool} {front rest : List Char}
    (taken : ∀ c ∈ front, p c = true)
    (stop : ∀ c ∈ rest.head?, p c = false) : (front ++ rest).dropWhile p = rest := by
  rw [List.dropWhile_append_of_pos taken]
  cases rest with
  | nil => rfl
  | cons c rest => simp [stop c rfl]

/-- The text of a body gives its opcode and its operands, each in its column. -/
theorem instruction_text (before : List Char) (body : Body) :
    Line.instruction (1 + before.length) body.text = body.tokens before := by
  cases body with
  | blank gap gap_blank =>
    have nothing : trimStart gap = [] := List.dropWhile_eq_nil_iff.mpr gap_blank
    simp [Line.instruction, Body.text, Body.tokens, nothing]
  | instruction written =>
    let after := writeOperands written.operands written.trail
    have shape : written.text = written.gap ++ (written.opcode ++ after) := List.append_assoc ..
    have opens : ∀ c ∈ (written.opcode ++ after).head?, isBlank c = false := by
      intro c first
      obtain ⟨d, others, spelled⟩ := List.exists_cons_of_ne_nil written.opcode_ne
      simp only [spelled, List.cons_append, List.head?_cons, Option.mem_some_iff] at first
      exact written.opcode_whole c (by simp [spelled, first])
    have unbroken : ∀ c ∈ written.opcode, (!isBlank c) = true := by
      simpa using written.opcode_whole
    have ends : ∀ c ∈ after.head?, (!isBlank c) = false := by
      simpa using written.opcode_ends
    have gap : written.text.takeWhile isBlank = written.gap := by
      rw [shape, takeWhile_append_stop written.gap_blank opens]
    have rest : trimStart written.text = written.opcode ++ after := by
      rw [trimStart, shape, dropWhile_append_stop written.gap_blank opens]
    have column : 1 + before.length + written.gap.length + written.opcode.length =
        1 + (before ++ written.gap ++ written.opcode).length := by
      simp only [List.length_append]
      omega
    simp only [Line.instruction, Body.text, Body.tokens, gap, rest,
      takeWhile_append_stop unbroken ends, dropWhile_append_stop unbroken ends,
      if_neg written.opcode_ne, column, after, runs_writeOperands _ _ written.trail_apart]
    simp only [tokenOf, placed, List.length_append, Nat.add_assoc]

theorem isBlank_ne_colon (blank : isBlank c = true) : c ≠ ':' := by
  rintro rfl
  exact absurd blank (by decide)

/-- What stands before the first colon. -/
theorem beforeColon?_eq_some_iff :
    beforeColon? line = some name ↔ ':' ∉ name ∧ ∃ rest, line = name ++ ':' :: rest := by
  rw [beforeColon?, Option.ite_none_right_eq_some, Option.some.injEq]
  constructor
  · rintro ⟨member, rfl⟩
    obtain ⟨front, rest, rfl, plain⟩ := List.eq_append_cons_of_mem member
    have before : (front ++ ':' :: rest).takeWhile (· ≠ ':') = front :=
      takeWhile_append_stop (fun c held => by simpa using fun same : c = ':' => plain (same ▸ held))
        (by simp)
    exact before.symm ▸ ⟨plain, rest, rfl⟩
  · rintro ⟨plain, rest, rfl⟩
    refine ⟨by simp, takeWhile_append_stop (fun c held => ?_) (by simp)⟩
    simpa using fun same : c = ':' => plain (same ▸ held)

theorem beforeColon?_eq_none_iff : beforeColon? line = none ↔ ':' ∉ line := by
  simp [beforeColon?]

/-- A label is what stands before the first colon, if no blank stands there. -/
theorem label?_eq_some_iff :
    label? line = some name ↔
      (∀ c ∈ name, isBlank c = false ∧ c ≠ ':') ∧ ∃ rest, line = name ++ ':' :: rest := by
  rw [label?, Option.filter_eq_some_iff, beforeColon?_eq_some_iff]
  constructor
  · rintro ⟨⟨plain, rest⟩, unbroken⟩
    refine ⟨fun c member => ⟨?_, fun same => plain (same ▸ member)⟩, rest⟩
    simpa using List.all_eq_true.mp unbroken c member
  · rintro ⟨plain, rest⟩
    refine ⟨⟨fun member => (plain ':' member).2 rfl, rest⟩, ?_⟩
    simpa using fun c member => (plain c member).1

/-- A blank before every colon leaves no label. -/
theorem label?_of_blank_first (plain : ':' ∉ front) (blank : isBlank d = true)
    (rest : List Char) : label? (front ++ d :: rest) = none := by
  refine Option.eq_none_iff_forall_ne_some.mpr fun name found => ?_
  obtain ⟨unbroken, tail, shape⟩ := label?_eq_some_iff.mp found
  have apart : d ≠ ':' := isBlank_ne_colon blank
  rcases List.append_eq_append_iff.mp shape with ⟨middle, rfl, behind⟩ | ⟨middle, rfl, behind⟩
  · cases middle with
    | nil => exact apart (List.cons.inj behind).1
    | cons c middle =>
      have held : d ∈ front ++ c :: middle := by simp [(List.cons.inj behind).1]
      exact absurd blank (by simp [(unbroken d held).1])
  · cases middle with
    | nil => exact apart (List.cons.inj behind).1.symm
    | cons c middle =>
      have colon : ':' = c := (List.cons.inj behind).1
      exact plain (by simp [← colon])

theorem label?_of_colonless (plain : ':' ∉ line) : label? line = none := by
  simp [label?, beforeColon?, plain]

/-- The label of a layout is found in its text, and no other one. -/
theorem label?_text (layout : Layout) : label? layout.text = layout.label := by
  obtain ⟨label, body, label_plain, opcode_plain⟩ := layout
  cases label with
  | some name =>
    exact label?_eq_some_iff.mpr ⟨label_plain name rfl, body.text, by
      simp [Layout.text, Layout.opening]⟩
  | none =>
    cases body with
    | blank gap gap_blank =>
      exact label?_of_colonless fun member => isBlank_ne_colon (gap_blank ':' member) rfl
    | instruction written =>
      -- Either the gap or what follows the opcode puts a blank before the first colon.
      cases leading : written.gap with
      | cons d gap =>
        have blank : isBlank d = true := written.gap_blank d (by simp [leading])
        have plain : ':' ∉ ([] : List Char) := List.not_mem_nil
        simpa [Layout.text, Layout.opening, Body.text, WrittenInstruction.text, leading] using
          label?_of_blank_first plain blank _
      | nil =>
        have colonless := opcode_plain rfl written rfl leading
        cases trailing : writeOperands written.operands written.trail with
        | nil =>
          simpa [Layout.text, Layout.opening, Body.text, WrittenInstruction.text, leading,
            trailing] using label?_of_colonless colonless
        | cons d rest =>
          have blank : isBlank d = true := written.opcode_ends d (by simp [trailing])
          simpa [Layout.text, Layout.opening, Body.text, WrittenInstruction.text, leading,
            trailing] using label?_of_blank_first colonless blank rest

/-- Splitting gives back what was written. -/
theorem split_text (layout : Layout) : Line.split (String.ofList layout.text) = layout.parts := by
  have label := label?_text layout
  cases named : layout.label with
  | none =>
    have bare : layout.text = layout.body.text := by simp [Layout.text, Layout.opening, named]
    have body := instruction_text [] layout.body
    simp only [List.length_nil, Nat.add_zero] at body
    rw [Line.split, String.toList_ofList, label, named, bare]
    simp [Layout.parts, Layout.opening, named, body]
  | some name =>
    have opening : layout.opening = name ++ [':'] := by simp [Layout.opening, named]
    have rest : layout.text.drop (name.length + 1) = layout.body.text := by
      rw [Layout.text, opening, List.drop_left' (by simp)]
    have body := instruction_text layout.opening layout.body
    have column : 1 + layout.opening.length = name.length + 2 := by
      rw [opening, List.length_append, List.length_singleton]
      omega
    rw [column] at body
    rw [Line.split, String.toList_ofList, label, named]
    simp [Layout.parts, named, rest, body, tokenOf, placed]

/-- Any text is an operand's worth of characters, perhaps none, and operands as they are written
after it. -/
private theorem exists_writeOperands (text : List Char) :
    ∃ first operands trail, (∀ c ∈ first, isBlank c = false ∧ c ≠ ',') ∧
      (∀ c ∈ trail, isBlank c = true ∨ c = ',') ∧
      text = first ++ writeOperands operands trail := by
  induction text with
  | nil => exact ⟨[], [], [], by simp, by simp, rfl⟩
  | cons c text ih =>
    obtain ⟨first, operands, trail, whole, apart, shape⟩ := ih
    by_cases kept : isBlank c = false ∧ c ≠ ','
    · exact ⟨c :: first, operands, trail, List.forall_mem_cons.mpr ⟨kept, whole⟩, apart,
        by simp [shape]⟩
    · have separates : isBlank c = true ∨ c = ',' := by
        by_cases comma : c = ','
        · exact .inr comma
        · exact .inl (by simpa [comma] using kept)
      -- A separator ends the word behind it, or else it prolongs the gap behind it.
      by_cases empty : first = []
      · subst empty
        cases operands with
        | nil =>
          exact ⟨[], [], c :: trail, by simp, List.forall_mem_cons.mpr ⟨separates, apart⟩,
            by simp [shape, writeOperands]⟩
        | cons operand rest =>
          let wider : WrittenOperand :=
            { operand with
              separator := c :: operand.separator
              separator_ne := List.cons_ne_nil _ _
              separator_apart := List.forall_mem_cons.mpr ⟨separates, operand.separator_apart⟩ }
          exact ⟨[], wider :: rest, trail, by simp, apart, by simp [shape, writeOperands, wider]⟩
      · let operand : WrittenOperand :=
          ⟨[c], first, List.cons_ne_nil _ _, by simpa using separates, empty, whole⟩
        exact ⟨[], operand :: operands, trail, by simp, apart,
          by simp [shape, writeOperands, operand]⟩

private theorem dropWhile_stops (p : Char → Bool) (text : List Char) :
    ∀ c ∈ (text.dropWhile p).head?, p c = false := by
  intro c first
  have stopped := List.head?_dropWhile_not p text
  rw [Option.mem_def.mp first] at stopped
  exact stopped

/-- Any text can be what a line holds besides its label. -/
theorem exists_body (text : List Char) : ∃ body : Body, body.text = text := by
  let rest := text.dropWhile isBlank
  have whole : text.takeWhile isBlank ++ rest = text := List.takeWhile_append_dropWhile
  have gap_blank : ∀ c ∈ text.takeWhile isBlank, isBlank c = true :=
    fun c member => List.mem_takeWhile_imp member
  by_cases empty : rest = []
  · exact ⟨.blank _ gap_blank, by simpa [empty, Body.text] using whole⟩
  · let opcode := rest.takeWhile (!isBlank ·)
    let after := rest.dropWhile (!isBlank ·)
    have opcode_ne : opcode ≠ [] := by
      obtain ⟨c, others, shape⟩ := List.exists_cons_of_ne_nil empty
      have opens : isBlank c = false := dropWhile_stops isBlank text c (by simp [rest, shape])
      simp [opcode, shape, opens]
    have opcode_whole : ∀ c ∈ opcode, isBlank c = false :=
      fun c member => by simpa using List.mem_takeWhile_imp member
    have ends : ∀ c ∈ after.head?, isBlank c = true :=
      fun c first => by simpa using dropWhile_stops (!isBlank ·) rest c first
    obtain ⟨first, operands, trail, first_whole, apart, shape⟩ := exists_writeOperands after
    have none : first = [] := by
      cases first with
      | nil => rfl
      | cons c first =>
        have blank := ends c (by simp [shape])
        have kept := (first_whole c List.mem_cons_self).1
        exact absurd blank (by simp [kept])
    rw [none, List.nil_append] at shape
    let written : WrittenInstruction :=
      ⟨text.takeWhile isBlank, opcode, operands, trail, gap_blank, opcode_ne, opcode_whole, apart,
        shape ▸ ends⟩
    refine ⟨.instruction written, ?_⟩
    have tiled : opcode ++ after = rest := List.takeWhile_append_dropWhile
    simp only [Body.text, WrittenInstruction.text, written, ← shape, List.append_assoc, tiled, whole]

/-- Every line is the text of a layout. -/
theorem exists_layout (line : List Char) : ∃ layout : Layout, layout.text = line := by
  cases found : label? line with
  | some name =>
    obtain ⟨plain, rest, rfl⟩ := label?_eq_some_iff.mp found
    obtain ⟨body, rfl⟩ := exists_body rest
    refine ⟨⟨some name, body, fun other same => Option.some.inj same ▸ plain, by simp⟩, ?_⟩
    simp [Layout.text, Layout.opening]
  | none =>
    obtain ⟨body, rfl⟩ := exists_body line
    refine ⟨⟨none, body, by simp, ?_⟩, by simp [Layout.text, Layout.opening]⟩
    rintro - written rfl leading member
    -- A colon in an opcode that opens the line would have made a label.
    obtain ⟨name, others, spelled, plain⟩ := List.eq_append_cons_of_mem member
    have labelled : label? (Body.instruction written).text = some name := by
      refine label?_eq_some_iff.mpr ⟨fun c held => ⟨?_, fun same => plain (same ▸ held)⟩, ?_⟩
      · exact written.opcode_whole c (by simp [spelled, held])
      · exact ⟨others ++ writeOperands written.operands written.trail, by
          simp [Body.text, WrittenInstruction.text, leading, spelled]⟩
    exact absurd (found.symm.trans labelled) (by simp)

/-- Splitting is the inverse of writing: it gives back every label, opcode and operand in the column
where it was written, and each line can be had by writing. -/
theorem split_inverts_writing :
    (∀ layout : Layout, Line.split (String.ofList layout.text) = layout.parts) ∧
      ∀ line : String, ∃ layout : Layout, String.ofList layout.text = line := by
  refine ⟨split_text, fun line => ?_⟩
  obtain ⟨layout, written⟩ := exists_layout line.toList
  exact ⟨layout, by rw [written, String.ofList_toList]⟩

example : Line.split ":ADD,B  C:,,R2 ," =
    ⟨some ⟨"", 1⟩, some ⟨"ADD,B", 2⟩, [⟨"C:", 9⟩, ⟨"R2", 13⟩]⟩ := by
  decide

end MalLint.LineLayout
