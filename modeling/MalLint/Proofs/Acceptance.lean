import MalLint.Proofs.LabelWiring
import MalLint.Proofs.LineRules
import MalLint.Proofs.SourceLines
import MalLint.Proofs.Verdict

/-! The language that the checks accept. A grammar says which lines a valid program is made of:
where a label may stand, how an instruction is written, and what each operand is. A source is valid
exactly if every line of code in it belongs to this language, where the names that may be branched
to are those declared in the same source. -/
namespace MalLint.Acceptance

open Text LineLayout LineRules LabelWiring Verdict

/-- The lines of code of a source: without comments and outer blanks, and not empty. -/
def codeLines (source : String) : List (List Char) :=
  ((splitLines source.toList).map Line.clean).filter (· ≠ [])

/-- Some line of code has the name before its first colon. -/
def Declares (lines : List (List Char)) (name : List Char) : Prop :=
  ∃ line ∈ lines, ':' ∉ name ∧ ∃ rest, line = name ++ ':' :: rest

/-- One to five letters. -/
def IsName (text : List Char) : Prop :=
  1 ≤ text.length ∧ text.length ≤ 5 ∧ ∀ c ∈ text, isLetter c = true

/-- What may stand where an instruction asks for an operand. -/
inductive Meets (declared : List Char → Prop) : Constraint → List Char → Prop where
  | register (digit : Operand.isOctalDigit d = true) : Meets declared .sourceOrDestination ['R', d]
  | identifier (name : IsName text) : Meets declared .sourceOrDestination text
  | octal (nonempty : text ≠ []) (digits : ∀ c ∈ text, Operand.isOctalDigit c = true) :
      Meets declared .octal text
  | label (name : IsName text) (known : declared text) : Meets declared .label text

/-- What may follow the label: nothing, or an instruction with the operands that its row of the
instruction set asks for. -/
inductive AcceptedBody (declared : List Char → Prop) : List Char → Prop where
  | blank (gap : ∀ c ∈ text, isBlank c = true) : AcceptedBody declared text
  | instruction (written : WrittenInstruction) (row : i ∈ Instruction.table)
      (named : written.opcode = i.mnemonic.toList)
      (operands : List.Forall₂ (Meets declared) i.operands (written.operands.map (·.text))) :
      AcceptedBody declared written.text

/-- A line of a valid program. It holds no colon, or at most five letters stand before the first
colon. -/
inductive AcceptedLine (declared : List Char → Prop) : List Char → Prop where
  | plain (colonless : ':' ∉ line) (body : AcceptedBody declared line) : AcceptedLine declared line
  | labelled (short : name.length ≤ 5) (letters : ∀ c ∈ name, isLetter c = true)
      (body : AcceptedBody declared rest) : AcceptedLine declared (name ++ ':' :: rest)

private def octalDigits : List Char :=
  ['0', '1', '2', '3', '4', '5', '6', '7']

private theorem mem_octalDigits : d ∈ octalDigits ↔ Operand.isOctalDigit d = true := by
  constructor
  · have all : octalDigits.all Operand.isOctalDigit = true := by decide
    exact List.all_eq_true.mp all d
  · intro digit
    have bounds : 48 ≤ d.toNat ∧ d.toNat ≤ 55 := by
      simpa [Operand.isOctalDigit, Char.le_def, UInt32.le_iff_toNat_le] using digit
    have all : ∀ n : Fin 8, Char.ofNat (48 + n) ∈ octalDigits := by decide
    have found := all ⟨d.toNat - 48, by omega⟩
    rwa [show 48 + (d.toNat - 48) = d.toNat by omega, Char.ofNat_toNat] at found

theorem isRegister_iff (text : List Char) :
    Operand.isRegister (String.ofList text) = true ↔
      ∃ d, Operand.isOctalDigit d = true ∧ text = ['R', d] := by
  have registers : Operand.registers = octalDigits.map fun d => String.ofList ['R', d] := by decide
  rw [Operand.isRegister, registers, List.contains_iff_mem, List.mem_map]
  simp only [mem_octalDigits, String.ofList_inj]
  exact exists_congr fun d => and_congr Iff.rfl eq_comm

theorem isOctal_iff (text : List Char) :
    Operand.isOctal (String.ofList text) = true ↔
      text ≠ [] ∧ ∀ c ∈ text, Operand.isOctalDigit c = true := by
  simp [Operand.isOctal]

theorem isIdentifier_iff (text : List Char) :
    Operand.isIdentifier (String.ofList text) = true ↔ IsName text := by
  simp only [Operand.isIdentifier, Operand.identifierLimit, IsName, String.toList_ofList,
    Bool.and_eq_true, Bool.not_eq_true', List.isEmpty_eq_false_iff, List.all_eq_true,
    decide_eq_true_eq, ← List.length_pos_iff]
  constructor
  · rintro ⟨⟨nonempty, letters⟩, short⟩
    exact ⟨nonempty, short, letters⟩
  · rintro ⟨nonempty, short, letters⟩
    exact ⟨⟨nonempty, letters⟩, short⟩

theorem isIdentifier_iff_isName (text : String) :
    Operand.isIdentifier text = true ↔ IsName text.toList := by
  rw [← isIdentifier_iff, String.ofList_toList]

/-- A register, an octal number or an identifier, as one of which the check of operands knows each
operand of a passing line. -/
def WellFormed (text : List Char) : Prop :=
  Operand.isRegister (String.ofList text) = true ∨ Operand.isOctal (String.ofList text) = true ∨
    Operand.isIdentifier (String.ofList text) = true

theorem colon_not_mem_of_wellFormed (wellFormed : WellFormed text) : ':' ∉ text := by
  intro member
  rcases wellFormed with register | octal | identifier
  · obtain ⟨d, digit, rfl⟩ := (isRegister_iff text).mp register
    have colon : ':' = d := by simpa using member
    exact absurd digit (by rw [← colon]; decide)
  · exact absurd (((isOctal_iff text).mp octal).2 ':' member) (by decide)
  · exact isLetter_ne_colon (((isIdentifier_iff text).mp identifier).2.2 ':' member) rfl

/-- The colon that the check of types lets pass is refused by the check of operands. -/
private theorem stripColon_of_wellFormed (wellFormed : WellFormed text) :
    Operand.stripColon (String.ofList text) = String.ofList text := by
  rw [Operand.stripColon, String.toList_ofList, if_neg]
  intro last
  exact colon_not_mem_of_wellFormed wellFormed (List.mem_of_getLast? last)

/-- The labels that the pass over labels has gathered are the declared names, as far as an operand
can name them. -/
private def Gathered (declared : List Char → Prop) (names : List String) : Prop :=
  ∀ name, IsName name → (declared name ↔ String.ofList name ∈ names)

/-- One operand: what the three checks that look at it accept together. -/
private theorem meets_iff (known : Gathered declared names) (c : Constraint) (text : List Char) :
    Meets declared c text ↔
      c.accepts (String.ofList text) = true ∧ WellFormed text ∧
        (c = .label → Operand.stripColon (String.ofList text) ∈ names) := by
  cases c with
  | sourceOrDestination =>
    simp only [Constraint.accepts, Operand.isSourceOrDestination, Bool.or_eq_true, reduceCtorEq,
      false_imp_iff, and_true]
    constructor
    · intro met
      cases met with
      | register digit =>
        have register := (isRegister_iff _).mpr ⟨_, digit, rfl⟩
        exact ⟨.inl register, .inl register⟩
      | identifier name =>
        have identifier := (isIdentifier_iff text).mpr name
        exact ⟨.inr identifier, .inr (.inr identifier)⟩
    · rintro ⟨register | identifier, -⟩
      · obtain ⟨d, digit, rfl⟩ := (isRegister_iff text).mp register
        exact .register digit
      · exact .identifier ((isIdentifier_iff text).mp identifier)
  | octal =>
    simp only [Constraint.accepts, reduceCtorEq, false_imp_iff, and_true]
    constructor
    · intro met
      cases met with
      | octal nonempty digits =>
        have octal := (isOctal_iff text).mpr ⟨nonempty, digits⟩
        exact ⟨octal, .inr (.inl octal)⟩
    · rintro ⟨octal, -⟩
      obtain ⟨nonempty, digits⟩ := (isOctal_iff text).mp octal
      exact .octal nonempty digits
  | label =>
    simp only [Constraint.accepts, Operand.isLabel, true_imp_iff]
    constructor
    · intro met
      cases met with
      | label name declared =>
        have wellFormed : WellFormed text := .inr (.inr ((isIdentifier_iff text).mpr name))
        rw [stripColon_of_wellFormed wellFormed]
        exact ⟨(isIdentifier_iff text).mpr name, wellFormed, (known text name).mp declared⟩
    · rintro ⟨label, wellFormed, declared⟩
      rw [stripColon_of_wellFormed wellFormed] at label declared
      have name := (isIdentifier_iff text).mp label
      exact .label name ((known text name).mpr declared)

/-- Every row has its label, if any, where a branch looks for its target. -/
theorem targetIndex?_of_label (row : i ∈ Instruction.table)
    (held : i.operands[index]? = some .label) : i.targetIndex? = some index := by
  have rows : ∀ i ∈ Instruction.table, ∀ index, index < i.operands.length →
      i.operands[index]? = some .label → i.targetIndex? = some index := by decide
  exact rows i row index (List.getElem?_eq_some_iff.mp held).1 held

/-- The operands of a row: what the checks of a line and the pass over labels accept together. -/
private theorem operands_iff (known : Gathered declared names) (row : i ∈ Instruction.table)
    (texts : List (List Char)) :
    List.Forall₂ (Meets declared) i.operands texts ↔
      List.Forall₂ (fun c text => c.accepts text = true) i.operands (texts.map String.ofList) ∧
        (∀ text ∈ texts, WellFormed text) ∧
        ∀ index text, i.targetIndex? = some index → texts[index]? = some text →
          Operand.stripColon (String.ofList text) ∈ names := by
  have pairs (index : Nat) (c : Constraint) (text : List Char)
      (left : i.operands[index]? = some c) (right : texts[index]? = some text) :
      (c, text) ∈ i.operands.zip texts :=
    List.mem_iff_getElem?.mpr ⟨index, List.getElem?_zip_eq_some.mpr ⟨left, right⟩⟩
  rw [List.forall₂_map_right_iff, List.forall₂_iff_zip, List.forall₂_iff_zip]
  constructor
  · rintro ⟨number, met⟩
    refine ⟨⟨number, fun {c text} member => ?_⟩, fun text member => ?_, ?_⟩
    · exact ((meets_iff known c text).mp (met member)).1
    · obtain ⟨index, found⟩ := List.mem_iff_getElem?.mp member
      have bound : index < i.operands.length := by
        rw [number]
        exact (List.getElem?_eq_some_iff.mp found).1
      have pair := pairs index _ text (List.getElem?_eq_getElem bound) found
      exact ((meets_iff known _ text).mp (met pair)).2.1
    · intro index text target found
      have pair := pairs index _ text (label_of_targetIndex? target) found
      exact ((meets_iff known _ text).mp (met pair)).2.2 rfl
  · rintro ⟨⟨number, accepted⟩, wellFormed, targets⟩
    refine ⟨number, fun {c text} member => (meets_iff known c text).mpr ⟨accepted member, ?_, ?_⟩⟩
    · exact wellFormed text (List.of_mem_zip member).2
    · rintro rfl
      obtain ⟨index, found⟩ := List.mem_iff_getElem?.mp member
      obtain ⟨label, operand⟩ := List.getElem?_zip_eq_some.mp found
      exact targets index text (targetIndex?_of_label row label) operand

/-- What the checks of the opcode and the operands of a line and the pass over its target ask
together. -/
private def Passes (names : List String) (opcode : Option String) (operands : List String) : Prop :=
  (∀ text ∈ opcode, ∃ i, Instruction.find? text = some i) ∧
    (∀ text ∈ operands, Operand.isRegister text = true ∨ Operand.isOctal text = true ∨
      Operand.isIdentifier text = true) ∧
    (∀ text ∈ opcode, ∀ i, Instruction.find? text = some i →
      List.Forall₂ (fun c text => c.accepts text = true) i.operands operands) ∧
    ∀ text ∈ opcode, ∀ index, Instruction.branchTarget? text = some index →
      ∀ target, operands[index]? = some target →
        Operand.isIdentifier (Operand.stripColon target) = true →
          Operand.stripColon target ∈ names

private theorem silent_iff_passes (settings : Settings) (file : String) (names : List String)
    (line : ProgramLine) :
    LineCheck.opcode settings.alphabet ⟨file, some line.number⟩ line.text = none ∧
      LineCheck.form ⟨file, some line.number⟩ line.text = none ∧
      LineCheck.arity ⟨file, some line.number⟩ line.text = none ∧
      stray? file names line = none ↔
        Passes names ((Line.split line.text).opcode.map (·.text))
          (Line.split line.text).operandTexts := by
  rw [opcode_eq_none_iff, form_eq_none_iff, arity_eq_none_iff, stray?_eq_none_iff]
  simp only [Passes, ProgramLine.parts, Line.Parts.operandTexts, Wiring.branchTarget?]
  cases opcode : (Line.split line.text).opcode with
  | none => simp
  | some token =>
    cases target : Instruction.branchTarget? token.text <;> simp [target]

/-- An opcode with operands passes if it has a row and the operands are what the row asks for. -/
private theorem passes_some_iff (known : Gathered declared names) (opcode : List Char)
    (operands : List (List Char)) :
    Passes names (some (String.ofList opcode)) (operands.map String.ofList) ↔
      ∃ i ∈ Instruction.table, opcode = i.mnemonic.toList ∧
        List.Forall₂ (Meets declared) i.operands operands := by
  have named (i : Instruction) :
      Instruction.find? (String.ofList opcode) = some i ↔
        i ∈ Instruction.table ∧ opcode = i.mnemonic.toList := by
    rw [find?_eq_some_iff, ← String.toList_inj, String.toList_ofList, eq_comm (a := opcode)]
  simp only [Passes, Option.mem_some_iff, forall_eq']
  constructor
  · rintro ⟨⟨i, found⟩, wellFormed, types, targets⟩
    have accepted := types i found
    obtain ⟨member, spelled⟩ := (named i).mp found
    refine ⟨i, member, spelled, (operands_iff known member operands).mpr ⟨accepted, ?_, ?_⟩⟩
    · exact fun text held => wellFormed _ (List.mem_map_of_mem held)
    · intro index text target held
      have operand : (operands.map String.ofList)[index]? = some (String.ofList text) := by
        simp [held]
      refine targets index (by simp [Instruction.branchTarget?, found, target]) _ operand ?_
      -- The row accepts the target as a label, so it is a name once its colon is dropped.
      have pair : (Constraint.label, String.ofList text) ∈
          i.operands.zip (operands.map String.ofList) :=
        List.mem_iff_getElem?.mpr
          ⟨index, List.getElem?_zip_eq_some.mpr ⟨label_of_targetIndex? target, operand⟩⟩
      exact (List.forall₂_iff_zip.mp accepted).2 pair
  · rintro ⟨i, member, spelled, met⟩
    have found := (named i).mpr ⟨member, spelled⟩
    obtain ⟨accepted, wellFormed, targets⟩ := (operands_iff known member operands).mp met
    refine ⟨⟨i, found⟩, ?_, ?_, ?_⟩
    · intro text held
      obtain ⟨operand, inside, rfl⟩ := List.mem_map.mp held
      exact wellFormed operand inside
    · intro other same
      exact Option.some.inj (found.symm.trans same) ▸ accepted
    · intro index target operand held _
      simp only [Instruction.branchTarget?, found, Option.bind_some] at target
      rw [List.getElem?_map, Option.map_eq_some_iff] at held
      obtain ⟨text, inside, rfl⟩ := held
      exact targets index text target inside

/-- What follows the label is accepted by the grammar if the checks pass what is read there. -/
private theorem acceptedBody_iff (known : Gathered declared names) (before text : List Char) :
    AcceptedBody declared text ↔
      Passes names ((Line.instruction (1 + before.length) text).1.map (·.text))
        ((Line.instruction (1 + before.length) text).2.map (·.text)) := by
  have read (written : WrittenInstruction) :
      Passes names ((Line.instruction (1 + before.length) written.text).1.map (·.text))
          ((Line.instruction (1 + before.length) written.text).2.map (·.text)) ↔
        ∃ i ∈ Instruction.table, written.opcode = i.mnemonic.toList ∧
          List.Forall₂ (Meets declared) i.operands (written.operands.map (·.text)) := by
    have tokens := instruction_text before (.instruction written)
    simp only [Body.text] at tokens
    rw [tokens, ← passes_some_iff known]
    simp [Body.tokens, placed, placeOperands_texts, Function.comp_def]
  constructor
  · intro accepted
    cases accepted with
    | blank gap =>
      have tokens := instruction_text before (.blank text gap)
      simp only [Body.text] at tokens
      rw [tokens]
      simp [Passes, Body.tokens]
    | instruction written row named operands =>
      exact (read written).mpr ⟨_, row, named, operands⟩
  · intro passes
    obtain ⟨body, rfl⟩ := exists_body text
    cases body with
    | blank gap gap_blank => exact .blank gap_blank
    | instruction written =>
      obtain ⟨i, row, named, operands⟩ := (read written).mp passes
      exact .instruction written row named operands

/-- A line is accepted by the grammar if it passes the check of labels and what follows its label
passes the others. -/
private theorem acceptedLine_iff (known : Gathered declared names) (origin : Origin)
    (line : String) :
    AcceptedLine declared line.toList ↔
      LineCheck.label origin line = none ∧
        Passes names ((Line.split line).opcode.map (·.text)) (Line.split line).operandTexts := by
  have plain (colonless : ':' ∉ line.toList) :
      AcceptedBody declared line.toList ↔
        Passes names ((Line.split line).opcode.map (·.text)) (Line.split line).operandTexts := by
    rw [acceptedBody_iff known [], Line.split, label?_of_colonless colonless]
    rfl
  have labelled (name rest : List Char) (shape : line.toList = name ++ ':' :: rest)
      (letters : ∀ c ∈ name, isLetter c = true) :
      AcceptedBody declared rest ↔
        Passes names ((Line.split line).opcode.map (·.text)) (Line.split line).operandTexts := by
    have found : Line.label? line.toList = some name := label?_eq_some_iff.mpr
      ⟨fun c held => ⟨isBlank_of_isLetter (letters c held), isLetter_ne_colon (letters c held)⟩,
        rest, shape⟩
    have behind : line.toList.drop (name.length + 1) = rest := by simp [shape]
    have column : 1 + (name ++ [':']).length = name.length + 2 := by
      rw [List.length_append, List.length_singleton]
      omega
    rw [acceptedBody_iff known (name ++ [':']), Line.split, found, column, ← behind]
    rfl
  rw [label_eq_none_iff]
  constructor
  · intro accepted
    generalize shape : line.toList = text at accepted
    cases accepted with
    | plain colonless body => exact ⟨.inl colonless, (plain (shape ▸ colonless)).mp (shape ▸ body)⟩
    | labelled short letters body =>
      exact ⟨.inr ⟨_, _, rfl, short, letters⟩, (labelled _ _ shape letters).mp body⟩
  · rintro ⟨colonless | ⟨name, rest, shape, short, letters⟩, passes⟩
    · exact .plain colonless ((plain colonless).mpr passes)
    · rw [shape]
      exact .labelled short letters ((labelled name rest shape letters).mpr passes)

private theorem codeLines_eq (source file : String) :
    codeLines source = (Program.ofSource source file).lines.map (·.text.toList) := by
  rw [SourceLines.ofSource_eq, SourceLines.numbered_texts, codeLines]

private theorem gathered_labels (program : Program) :
    Gathered (Declares (program.lines.map (·.text.toList))) (labels program) := by
  intro name isName
  have plain : ∀ c ∈ name, isBlank c = false ∧ c ≠ ':' := fun c held =>
    ⟨isBlank_of_isLetter (isName.2.2 c held), isLetter_ne_colon (isName.2.2 c held)⟩
  have colonless : ':' ∉ name := fun held => (plain ':' held).2 rfl
  simp only [mem_labels_iff, label?_eq_some_iff, Declares, List.mem_map, exists_exists_and_eq_and,
    and_iff_right plain, and_iff_right colonless]

/-- A source is valid exactly if each of its lines of code belongs to the language. -/
theorem valid_iff_lines_accepted (settings : Settings) (source file : String) :
    (checkSource settings source file).isValid = true ↔
      ∀ line ∈ codeLines source, AcceptedLine (Declares (codeLines source)) line := by
  let program := Program.ofSource source file
  have known := gathered_labels program
  rw [checkSource, isValid_iff, codeLines_eq source file, List.forall_mem_map]
  refine forall₂_congr fun line _ => ?_
  rw [checkLine_eq_nil_iff, acceptedLine_iff known ⟨file, some line.number⟩,
    ← silent_iff_passes settings file, and_assoc, and_assoc, and_assoc]
  rfl

end MalLint.Acceptance
