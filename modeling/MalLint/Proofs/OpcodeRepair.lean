import MalLint.Proofs.LineReports
import MalLint.Proofs.SpellingRepair

/-! Taking a suggestion. Putting the suggested opcode in the place of the misspelled one changes
nothing else: the label and the operands stay what they were, and the operands only move along with
the length of the opcode. A misspelled opcode may hold colons and commas, but the colon that makes a
label stands before it, so nothing is read differently once they are gone. -/
namespace MalLint.OpcodeRepair

open LineLayout LineRules LineReports SpellingRepair

/-- The line in which `length` characters, from a column on, make way for a word. Columns count
from 1. -/
def replaceAt (line : String) (column length : Nat) (word : String) : String :=
  String.ofList (line.toList.take (column - 1) ++ word.toList ++
    line.toList.drop (column - 1 + length))

/-- The line with another word in the place of its opcode. -/
def respelled (line : String) (opcode : Token) (word : String) : String :=
  replaceAt line opcode.column opcode.text.toList.length word

/-- How far the text behind the opcode moves. -/
def shift (opcode : Token) (word : String) : Int :=
  word.toList.length - opcode.text.toList.length

/-- The same token some columns further on. -/
structure Moved (distance : Int) (old new : Token) : Prop where
  text : new.text = old.text
  column : (new.column : Int) = old.column + distance

/-- The same finding some columns further on. -/
def moveColumn (distance : Int) (d : Diagnostic) : Diagnostic :=
  { d with
    location := d.location.map fun place => { place with column := place.column + distance } }

/-- What becomes of a line whose misspelled opcode makes way for a known one. -/
structure Repaired (line : String) (misspelled : Token) (known : String) : Prop where
  label : (Line.split (respelled line misspelled known)).label = (Line.split line).label
  opcode : (Line.split (respelled line misspelled known)).opcode = some ⟨known, misspelled.column⟩
  operands : List.Forall₂ (Moved (shift misspelled known)) (Line.split line).operands
    (Line.split (respelled line misspelled known)).operands
  /-- Nothing is wrong with the opcode any more. -/
  accepted : ∀ alphabet origin,
    LineCheck.opcode alphabet origin (respelled line misspelled known) = none
  /-- The same operand is reported as ill-formed, or none as before. -/
  form : ∀ origin, LineCheck.form origin (respelled line misspelled known) =
    (LineCheck.form origin line).map (moveColumn (shift misspelled known))

theorem replaceAt_text (before piece after : List Char) (word : String) :
    replaceAt (String.ofList (before ++ piece ++ after)) (1 + before.length) piece.length word =
      String.ofList (before ++ word.toList ++ after) := by
  have start : 1 + before.length - 1 = before.length := by omega
  rw [replaceAt, String.toList_ofList, start, ← List.length_append, List.drop_left,
    List.append_assoc before piece, List.take_left]

/-- An instruction with another word for its opcode. -/
def withOpcode (written : WrittenInstruction) (word : List Char) (nonempty : word ≠ [])
    (whole : ∀ c ∈ word, Text.isBlank c = false) : WrittenInstruction :=
  { written with opcode := word, opcode_ne := nonempty, opcode_whole := whole }

theorem placeOperands_moved {before other : List Char} {distance : Int}
    (apart : (other.length : Int) = before.length + distance) (operands : List WrittenOperand) :
    List.Forall₂ (Moved distance) (placeOperands before operands) (placeOperands other operands) := by
  induction operands generalizing before other with
  | nil => exact .nil
  | cons operand rest ih =>
    refine .cons ⟨rfl, ?_⟩ (ih ?_)
    · simp only [placed, List.length_append]
      omega
    · simp only [List.length_append]
      omega

/-- A word without blanks and colons can stand in the place of any opcode. -/
theorem split_respelled (read : (Line.split line).opcode = some opcode) (nonempty : word ≠ "")
    (plain : ∀ c ∈ word.toList, Text.isBlank c = false ∧ c ≠ ':') :
    (Line.split (respelled line opcode word)).label = (Line.split line).label ∧
      (Line.split (respelled line opcode word)).opcode = some ⟨word, opcode.column⟩ ∧
      List.Forall₂ (Moved (shift opcode word)) (Line.split line).operands
        (Line.split (respelled line opcode word)).operands := by
  obtain ⟨layout, text⟩ := exists_layout line.toList
  obtain rfl : String.ofList layout.text = line := by rw [text, String.ofList_toList]
  rw [split_text] at read ⊢
  cases body : layout.body with
  | blank gap gap_blank => simp [Layout.parts, body, Body.tokens] at read
  | instruction written =>
    simp only [Layout.parts, body, Body.tokens, Option.some.injEq] at read
    subst read
    have filled : word.toList ≠ [] := by simpa using nonempty
    let mended : Layout :=
      { label := layout.label
        body := .instruction (withOpcode written word.toList filled fun c member =>
          (plain c member).1)
        label_plain := layout.label_plain
        opcode_plain := by
          rintro - other same -
          cases same
          exact fun colon => (plain ':' colon).2 rfl }
    have shape : layout.text = layout.opening ++ written.gap ++ written.opcode ++
        writeOperands written.operands written.trail := by
      simp [Layout.text, body, Body.text, WrittenInstruction.text]
    have spelled : respelled (String.ofList layout.text)
        (placed (layout.opening ++ written.gap) written.opcode) word =
          String.ofList mended.text := by
      rw [respelled, shape, placed, String.toList_ofList, replaceAt_text]
      simp [mended, withOpcode, Layout.text, Layout.opening, Body.text, WrittenInstruction.text]
    rw [spelled, split_text]
    refine ⟨rfl, ?_, ?_⟩
    · simp [Layout.parts, mended, Body.tokens, withOpcode, placed, Layout.opening]
    · simp only [Layout.parts, body, mended, Body.tokens, withOpcode]
      apply placeOperands_moved
      simp only [shift, placed, String.toList_ofList, List.length_append, Layout.opening]
      omega

/-- Operands that only move are reported as before, where they now stand. -/
theorem form_moved (origin : Origin)
    (operands : List.Forall₂ (Moved distance) (Line.split line).operands
      (Line.split other).operands) :
    LineCheck.form origin other = (LineCheck.form origin line).map (moveColumn distance) := by
  have kept : List.Forall₂ (Moved distance)
      ((Line.split line).operands.filter (!Operand.isWellFormed ·.text))
      ((Line.split other).operands.filter (!Operand.isWellFormed ·.text)) := by
    refine List.rel_filter ?_ operands
    intro old new moved
    simp only [moved.text]
  simp only [LineCheck.form, ← List.head?_filter]
  generalize (Line.split line).operands.filter _ = before,
    (Line.split other).operands.filter _ = after at kept
  cases kept with
  | nil => rfl
  | @cons old new _ _ moved _ =>
    simp [moveColumn, Origin.at, moved.text, moved.column, Function.comp_def]

theorem mnemonics_plain (listed : known ∈ Instruction.mnemonics) :
    known ≠ "" ∧ ∀ c ∈ known.toList, Text.isBlank c = false ∧ c ≠ ':' := by
  have all : Spelling.defaultAlphabet.toList.all (fun c => !Text.isBlank c && c != ':') = true := by
    decide
  have plain : ∀ c ∈ Spelling.defaultAlphabet.toList, Text.isBlank c = false ∧ c ≠ ':' := by
    simpa using all
  refine ⟨?_, fun c member => plain c (mnemonics_letters known listed c member)⟩
  rintro rfl
  exact absurd (mnemonics_long "" listed) (by decide)

/-- What is suggested is a known opcode. -/
theorem known_of_suggestion (found : LineCheck.opcode alphabet origin line = some d)
    (offered : d.suggestion = some known) : known ∈ Instruction.mnemonics := by
  obtain ⟨-, opcode, read, -⟩ := opcode_reports found
  have unknown : opcode.text ∉ Instruction.mnemonics := by
    intro member
    simp [LineCheck.opcode, read, (isMnemonic_iff _).mpr member] at found
  obtain ⟨other, same, suggestion⟩ := opcode_suggestion alphabet origin read unknown
  obtain rfl : d = other := Option.some.inj (found.symm.trans same)
  exact (suggest_sound (suggestion.symm.trans offered)).1

/-- Whoever takes a suggestion, putting it where the finding says that the opcode stands, gets a
line with the same label and the same operands whose opcode is known. -/
theorem suggestion_repairs_line (found : LineCheck.opcode alphabet origin line = some d)
    (offered : d.suggestion = some known) :
    ∃ opcode, (Line.split line).opcode = some opcode ∧ d.subject = some opcode.text ∧
      d.location = origin.at opcode.column ∧ Repaired line opcode known := by
  obtain ⟨-, opcode, read, location, subject⟩ := opcode_reports found
  have listed := known_of_suggestion found offered
  obtain ⟨nonempty, plain⟩ := mnemonics_plain listed
  obtain ⟨label, replaced, operands⟩ := split_respelled read nonempty plain
  refine ⟨opcode, read, subject, location, label, replaced, operands, ?_, ?_⟩
  · intro alphabet origin
    simp [LineCheck.opcode, replaced, (isMnemonic_iff _).mpr listed]
  · intro origin
    exact form_moved origin operands

/-- An opcode with a colon in it, right behind the colon of an empty label. -/
theorem suggestion_repairs_line_colon :
    let line := ":A:DD R1,,8 :X"
    let d : Diagnostic := ⟨.invalidOpcode, "invalid opcode 'A:DD' - did you mean 'ADD'?",
      some ⟨"a.mal", 4, 2⟩, some "A:DD", some "ADD"⟩
    LineCheck.opcode Spelling.defaultAlphabet ⟨"a.mal", some 4⟩ line = some d ∧
      respelled line ⟨"A:DD", 2⟩ "ADD" = ":ADD R1,,8 :X" ∧ Repaired line ⟨"A:DD", 2⟩ "ADD" := by
  intro line d
  have found : LineCheck.opcode Spelling.defaultAlphabet ⟨"a.mal", some 4⟩ line = some d := by
    decide
  obtain ⟨opcode, read, -, -, repaired⟩ := suggestion_repairs_line found rfl
  have spelled : (Line.split line).opcode = some ⟨"A:DD", 2⟩ := by decide
  obtain rfl := Option.some.inj (spelled.symm.trans read)
  exact ⟨found, by decide, repaired⟩

end MalLint.OpcodeRepair
