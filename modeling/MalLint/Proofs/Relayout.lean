import MalLint.Check
import MalLint.Proofs.LabelWiring
import MalLint.Proofs.LineLayout
import Mathlib.Data.List.Forall2

/-! One program in two layouts. If the lines of two programs hold the same labels, opcodes and
operands, whatever stands between them, then both have the same findings up to columns. The check of
labels is the only one that looks at more than these words: it scans for a colon, and where there is
no label it reports all that stands before the colon, blanks included. -/
namespace MalLint.Relayout

open Text LineLayout LabelWiring

/-- Lines with the same number that hold the same label, opcode and operands. -/
structure SameLine (first second : ProgramLine) : Prop where
  number : first.number = second.number
  label : first.parts.label.map (·.text) = second.parts.label.map (·.text)
  opcode : first.parts.opcode.map (·.text) = second.parts.opcode.map (·.text)
  operands : first.parts.operandTexts = second.parts.operandTexts

/-- The finding is about a label with a blank in it. -/
def AboutSpacedLabel (d : Diagnostic) : Prop :=
  d.category = .illFormedLabel ∧ ∃ text, d.subject = some text ∧ text.toList.any isBlank = true

/-- The same finding in the same line of the same file, whatever its column. Labels with blanks may
be spelled differently. -/
structure SameFinding (d e : Diagnostic) : Prop where
  category : d.category = e.category
  message : d.message = e.message
  suggestion : d.suggestion = e.suggestion
  place : d.location.map (fun location => (location.file, location.line)) =
    e.location.map (fun location => (location.file, location.line))
  subject : d.subject = e.subject ∨ AboutSpacedLabel d ∧ AboutSpacedLabel e

/-- The findings about two programs are the same, up to columns. -/
structure SameFindings (first second : Findings) : Prop where
  lines : List.Forall₂ (fun a b => a.line.number = b.line.number ∧
    List.Forall₂ SameFinding a.diagnostics b.diagnostics) first.lines second.lines
  wiring : List.Forall₂ SameFinding first.wiring second.wiring
  ending : List.Forall₂ SameFinding first.ending second.ending
  identifiers : first.identifiers = second.identifiers
  tally : first.tally = second.tally
  isValid : first.isValid = second.isValid

/-- Tokens with the same text. -/
def SameText (a b : Token) : Prop :=
  a.text = b.text

theorem sameText_of_map {a b : Option Token} (same : a.map (·.text) = b.map (·.text)) :
    Option.Rel SameText a b := by
  cases a with
  | none =>
    cases b with
    | none => exact .none
    | some t => simp at same
  | some s =>
    cases b with
    | none => simp at same
    | some t => exact .some (Option.some.inj same)

theorem sameText_getElem? {first second : List Token}
    (same : first.map (·.text) = second.map (·.text)) (index : Nat) :
    Option.Rel SameText first[index]? second[index]? := by
  apply sameText_of_map
  rw [← List.getElem?_map, same, List.getElem?_map]

theorem sameText_find? {first second : List Token}
    (same : first.map (·.text) = second.map (·.text)) (p : String → Bool) :
    Option.Rel SameText (first.find? (p ·.text)) (second.find? (p ·.text)) := by
  have texts (tokens : List Token) :
      (tokens.find? (p ·.text)).map (·.text) = (tokens.map (·.text)).find? p := by
    rw [List.find?_map]
    rfl
  apply sameText_of_map
  rw [texts, texts, same]

theorem sameFinding_refl (d : Diagnostic) : SameFinding d d :=
  ⟨rfl, rfl, rfl, rfl, .inl rfl⟩

theorem place_at (origin : Origin) (column other : Nat) :
    (origin.at column).map (fun location => (location.file, location.line)) =
      (origin.at other).map (fun location => (location.file, location.line)) := by
  simp [Origin.at, Function.comp_def]

theorem colon_mem_writeOperands (operands : List WrittenOperand)
    (trail_apart : ∀ c ∈ trail, isBlank c = true ∨ c = ',') :
    ':' ∈ writeOperands operands trail ↔ ∃ operand ∈ operands, ':' ∈ operand.text := by
  have apart (gap : List Char) (separates : ∀ c ∈ gap, isBlank c = true ∨ c = ',') : ':' ∉ gap := by
    intro member
    rcases separates ':' member with blank | comma
    · exact isBlank_ne_colon blank rfl
    · exact absurd comma (by decide)
  induction operands with
  | nil => simpa [writeOperands] using apart trail trail_apart
  | cons operand rest ih =>
    simp [writeOperands, ih, apart operand.separator operand.separator_apart]

/-- On a line without a label, every colon belongs to the opcode or to an operand. -/
theorem colon_mem_iff (line : String) (unlabelled : (Line.split line).label = none) :
    ':' ∈ line.toList ↔
      ∃ text ∈ ((Line.split line).opcode.map (·.text)).toList ++ (Line.split line).operandTexts,
        ':' ∈ text.toList := by
  obtain ⟨layout, written⟩ := exists_layout line.toList
  obtain rfl : String.ofList layout.text = line := by rw [written, String.ofList_toList]
  rw [split_text] at unlabelled ⊢
  have bare : layout.label = none := by simpa [Layout.parts] using unlabelled
  rw [String.toList_ofList, Layout.text, Layout.opening, bare, List.nil_append]
  cases body : layout.body with
  | blank gap gap_blank =>
    have plain : ':' ∉ gap := fun member => isBlank_ne_colon (gap_blank ':' member) rfl
    simp [Layout.parts, body, Body.text, Body.tokens, Line.Parts.operandTexts, plain]
  | instruction written =>
    have plain : ':' ∉ written.gap :=
      fun member => isBlank_ne_colon (written.gap_blank ':' member) rfl
    simp [Layout.parts, body, Body.text, Body.tokens, Line.Parts.operandTexts,
      WrittenInstruction.text, plain, colon_mem_writeOperands _ written.trail_apart, placed,
      placeOperands_texts]

/-- Labels stand in the first column, so equal words make equal labels. -/
theorem label_eq (same : SameLine first second) : first.parts.label = second.parts.label := by
  have placed (line : ProgramLine) :
      line.parts.label = (line.parts.label.map (·.text)).map (⟨·, 1⟩) := by
    simp only [ProgramLine.parts, split_label, Option.map_map, Function.comp_def]
  rw [placed first, same.label, ← placed second]

/-- Without a label, whatever stands before a colon is reported, as it holds a blank. -/
theorem label_spaced (origin : Origin) (unlabelled : (Line.split line).label = none)
    (colon : ':' ∈ line.toList) :
    ∃ candidate, candidate.any isBlank = true ∧ LineCheck.label origin line =
      some ⟨.illFormedLabel, "ill-formed label - label cannot contain spaces and must be " ++
        "the first token on the line", origin.at 1, some (String.ofList candidate), none⟩ := by
  have opening : Line.beforeColon? line.toList =
      some (line.toList.takeWhile (· ≠ ':')) := if_pos colon
  have blank : (line.toList.takeWhile (· ≠ ':')).any isBlank = true := by
    have absent : Line.label? line.toList = none := by simpa [split_label] using unlabelled
    simpa [Line.label?, opening, Option.filter] using absent
  exact ⟨_, blank, by simp only [LineCheck.label, opening, blank, ↓reduceIte]⟩

theorem label_alike (origin : Origin) (same : SameLine first second) :
    Option.Rel SameFinding (LineCheck.label origin first.text)
      (LineCheck.label origin second.text) := by
  have labels := label_eq same
  cases read : first.parts.label with
  | some label =>
    -- Both lines open with the same label, and the check looks at nothing else.
    have opening := (beforeColon?_of_label read).1
    have other := (beforeColon?_of_label (labels.symm.trans read)).1
    have equal : LineCheck.label origin first.text = LineCheck.label origin second.text := by
      simp only [LineCheck.label, opening, other]
    rw [equal]
    cases LineCheck.label origin second.text with
    | none => exact .none
    | some d => exact .some (sameFinding_refl d)
  | none =>
    have unlabelled : second.parts.label = none := labels ▸ read
    have colons : ':' ∈ first.text.toList ↔ ':' ∈ second.text.toList := by
      have words : first.parts.opcode.map (·.text) = second.parts.opcode.map (·.text) ∧
          first.parts.operandTexts = second.parts.operandTexts := ⟨same.opcode, same.operands⟩
      simp only [ProgramLine.parts] at words
      rw [colon_mem_iff first.text read, colon_mem_iff second.text unlabelled, words.1, words.2]
    by_cases colon : ':' ∈ second.text.toList
    · obtain ⟨a, blankA, reportA⟩ := label_spaced origin read (colons.mpr colon)
      obtain ⟨b, blankB, reportB⟩ := label_spaced origin unlabelled colon
      rw [reportA, reportB]
      refine .some ⟨rfl, rfl, rfl, rfl, .inr ⟨⟨rfl, _, rfl, ?_⟩, ⟨rfl, _, rfl, ?_⟩⟩⟩
      · rwa [String.toList_ofList]
      · rwa [String.toList_ofList]
    · have silent (line : String) (colonless : ':' ∉ line.toList) :
          LineCheck.label origin line = none := by
        simp [LineCheck.label, beforeColon?_eq_none_iff.mpr colonless]
      rw [silent _ (fun member => colon (colons.mp member)), silent _ colon]
      exact .none

theorem opcode_alike (alphabet : String) (origin : Origin) (same : SameLine first second) :
    Option.Rel SameFinding (LineCheck.opcode alphabet origin first.text)
      (LineCheck.opcode alphabet origin second.text) := by
  have opcodes := sameText_of_map same.opcode
  simp only [ProgramLine.parts] at opcodes
  unfold LineCheck.opcode
  generalize (Line.split first.text).opcode = a, (Line.split second.text).opcode = b at opcodes
  cases opcodes with
  | none => exact .none
  | @some a b text =>
    simp only [show a.text = b.text from text]
    split
    · exact .none
    · exact .some ⟨rfl, rfl, rfl, place_at origin _ _, .inl rfl⟩

theorem form_alike (origin : Origin) (same : SameLine first second) :
    Option.Rel SameFinding (LineCheck.form origin first.text)
      (LineCheck.form origin second.text) := by
  have found := sameText_find? same.operands (!Operand.isWellFormed ·)
  simp only [ProgramLine.parts] at found
  unfold LineCheck.form
  generalize (Line.split first.text).operands.find? _ = a,
    (Line.split second.text).operands.find? _ = b at found ⊢
  cases found with
  | none => exact .none
  | @some a b text =>
    simp only [Option.map_some, show a.text = b.text from text]
    exact .some ⟨rfl, rfl, rfl, place_at origin _ _, .inl rfl⟩

theorem arity_alike (origin : Origin) (same : SameLine first second) :
    Option.Rel SameFinding (LineCheck.arity origin first.text)
      (LineCheck.arity origin second.text) := by
  have opcodes := sameText_of_map same.opcode
  have operands : (Line.split first.text).operandTexts = (Line.split second.text).operandTexts :=
    same.operands
  have number : (Line.split first.text).operands.length =
      (Line.split second.text).operands.length := by
    simpa [Line.Parts.operandTexts] using congrArg List.length operands
  simp only [ProgramLine.parts] at opcodes
  unfold LineCheck.arity
  simp only [operands, number]
  generalize (Line.split first.text).opcode = a, (Line.split second.text).opcode = b at opcodes
  cases opcodes with
  | none => exact .none
  | @some a b text =>
    simp only [show a.text = b.text from text]
    cases Instruction.find? b.text with
    | none => exact .none
    | some i =>
      have extra := sameText_getElem? operands i.arity
      simp only
      generalize (Line.split first.text).operands[i.arity]? = s,
        (Line.split second.text).operands[i.arity]? = t at extra
      cases extra with
      | some _ => exact .some ⟨rfl, rfl, rfl, place_at origin _ _, .inl rfl⟩
      | none =>
        simp only
        split
        · exact .some ⟨rfl, rfl, rfl, place_at origin _ _, .inl rfl⟩
        · split
          · exact .none
          · rename_i position others failing
            refine .some ⟨rfl, rfl, rfl, ?_, .inl rfl⟩
            have rejected := sameText_getElem? operands (position - 1)
            simp only
            generalize (Line.split first.text).operands[position - 1]? = s,
              (Line.split second.text).operands[position - 1]? = t at rejected
            cases rejected with
            | none => rfl
            | some _ => exact place_at origin _ _

theorem checkLine_alike (settings : Settings) (file : String) (same : SameLine first second) :
    List.Forall₂ SameFinding (checkLine settings file first) (checkLine settings file second) := by
  simp only [checkLine, same.number]
  refine List.rel_filterMap (R := Option.Rel SameFinding) (fun _ _ related => related) ?_
  exact .cons (label_alike _ same) (.cons (opcode_alike _ _ same) (.cons (form_alike _ same)
    (.cons (arity_alike _ same) .nil)))

theorem map_lines_eq {f : ProgramLine → α} (congr : ∀ a b, SameLine a b → f a = f b)
    (lines : List.Forall₂ SameLine first second) : first.map f = second.map f := by
  induction lines with
  | nil => rfl
  | cons same _ ih => rw [List.map_cons, List.map_cons, congr _ _ same, ih]

theorem filterMap_lines_eq {f : ProgramLine → Option α} (congr : ∀ a b, SameLine a b → f a = f b)
    (lines : List.Forall₂ SameLine first second) : first.filterMap f = second.filterMap f := by
  have mapped := congrArg (List.filterMap id) (map_lines_eq congr lines)
  simpa [List.filterMap_map] using mapped

theorem flatMap_lines_eq {f : ProgramLine → List α} (congr : ∀ a b, SameLine a b → f a = f b)
    (lines : List.Forall₂ SameLine first second) : first.flatMap f = second.flatMap f := by
  rw [List.flatMap_def, List.flatMap_def, map_lines_eq congr lines]

theorem identifiers_eq (same : SameLine first second) :
    LineCheck.identifiers first.text = LineCheck.identifiers second.text := by
  have operands : (Line.split first.text).operandTexts = (Line.split second.text).operandTexts :=
    same.operands
  have target (line : String) : (Line.split line).opcode.bind (Instruction.branchTarget? ·.text) =
      ((Line.split line).opcode.map (·.text)).bind Instruction.branchTarget? := by
    rw [Option.bind_map]
    rfl
  have opcodes : (Line.split first.text).opcode.map (·.text) =
      (Line.split second.text).opcode.map (·.text) := same.opcode
  simp only [LineCheck.identifiers, operands, target, opcodes]

theorem lineMentions_eq (same : SameLine first second) :
    lineMentions first = lineMentions second := by
  have words (line : ProgramLine) : lineMentions line =
      ((line.parts.opcode.map (·.text)).toList ++ line.parts.operandTexts).map
        Operand.stripColon := by
    cases opcode : line.parts.opcode <;>
      simp [lineMentions, opcode, Line.Parts.operandTexts]
  rw [words, words, same.opcode, same.operands]

theorem branchTarget?_alike (same : SameLine first second) :
    Option.Rel SameText (Wiring.branchTarget? first) (Wiring.branchTarget? second) := by
  have opcodes := sameText_of_map same.opcode
  have steps (line : ProgramLine) : Wiring.branchTarget? line =
      line.parts.opcode.bind fun opcode => (Instruction.branchTarget? opcode.text).bind fun index =>
        line.parts.operands[index]? := rfl
  rw [steps, steps]
  generalize first.parts.opcode = a, second.parts.opcode = b at opcodes
  cases opcodes with
  | none => exact .none
  | @some a b text =>
    simp only [Option.bind_some, show a.text = b.text from text]
    cases Instruction.branchTarget? b.text with
    | none => exact .none
    | some index => exact sameText_getElem? same.operands index

theorem stray?_alike (file : String) (declared : List String) (same : SameLine first second) :
    Option.Rel SameFinding (stray? file declared first) (stray? file declared second) := by
  have targets := branchTarget?_alike same
  unfold stray?
  generalize Wiring.branchTarget? first = a, Wiring.branchTarget? second = b at targets
  cases targets with
  | none => exact .none
  | @some a b text =>
    simp only [Option.bind_some, show a.text = b.text from text]
    split
    · exact .some ⟨rfl, rfl, rfl, by simp [same.number], .inl rfl⟩
    · exact .none

theorem wiring_alike {first second : Program} (file : first.file = second.file)
    (lines : List.Forall₂ SameLine first.lines second.lines) :
    List.Forall₂ SameFinding (Wiring.check first) (Wiring.check second) := by
  have declared : declarations first = declarations second := by
    refine filterMap_lines_eq (fun a b same => ?_) lines
    simp only [declaration?, label_eq same, same.number]
  have names : labels first = labels second := by
    rw [← declarations_map_text, declared, declarations_map_text]
  have mentioned : mentions first = mentions second :=
    flatMap_lines_eq (fun a b same => lineMentions_eq same) lines
  refine List.rel_append ?_ ?_
  · -- Labels stand in the first column, so the warnings about them are equal.
    rw [unreferenced_eq, unreferenced_eq, declared, mentioned, file]
    exact List.forall₂_same.mpr fun d _ => sameFinding_refl d
  · rw [dangling_eq, dangling_eq, file, names]
    exact List.rel_filterMap (fun a b same => stray?_alike _ _ same) lines

/-- The same token in the same line, whatever its column. -/
structure SameToken (a b : ProgramToken) : Prop where
  role : a.role = b.role
  text : a.text = b.text
  line : a.line = b.line

theorem lineTokens_alike (same : SameLine first second) :
    List.Forall₂ SameToken first.tokens second.tokens := by
  have piece (role : Role) {a b : List Token} (texts : a.map (·.text) = b.map (·.text)) :
      List.Forall₂ SameToken
        (a.map fun token => ⟨role, token.text, first.number, token.column⟩)
        (b.map fun token => ⟨role, token.text, second.number, token.column⟩) := by
    have pairs : List.Forall₂ SameText a b := by
      rwa [← List.forall₂_eq_eq_eq, List.forall₂_map_left_iff, List.forall₂_map_right_iff] at texts
    exact List.rel_map (fun _ _ text => ⟨rfl, text, same.number⟩) pairs
  have listed {a b : Option Token} (texts : a.map (·.text) = b.map (·.text)) :
      a.toList.map (·.text) = b.toList.map (·.text) := by
    rw [← Option.toList_map, texts, Option.toList_map]
  exact List.rel_append (List.rel_append (piece .label (listed same.label))
    (piece .opcode (listed same.opcode))) (piece .operand same.operands)

theorem tokens_alike {first second : Program}
    (lines : List.Forall₂ SameLine first.lines second.lines) :
    List.Forall₂ SameToken first.tokens second.tokens :=
  List.rel_flatMap lines fun _ _ same => lineTokens_alike same

theorem forall₂_zipIdx {R : α → β → Prop} (related : List.Forall₂ R first second) (start : Nat) :
    List.Forall₂ (fun a b => R a.1 b.1 ∧ a.2 = b.2) (first.zipIdx start) (second.zipIdx start) := by
  induction related generalizing start with
  | nil => exact .nil
  | cons head _ ih => exact .cons ⟨head, rfl⟩ (ih (start + 1))

theorem getLast?_related {R : α → β → Prop} (related : List.Forall₂ R first second) :
    Option.Rel R first.getLast? second.getLast? := by
  have backwards := List.rel_reverse related
  rw [List.getLast?_eq_head?_reverse, List.getLast?_eq_head?_reverse]
  generalize first.reverse = a, second.reverse = b at backwards
  cases backwards with
  | nil => exact .none
  | cons head _ => exact .some head

theorem ends_alike {first second : Program}
    (lines : List.Forall₂ SameLine first.lines second.lines) :
    List.Forall₂ (fun a b => SameToken a.1 b.1 ∧ a.2 = b.2) first.ends second.ends := by
  refine List.rel_filter ?_ (forall₂_zipIdx (tokens_alike lines) 0)
  rintro ⟨a, i⟩ ⟨b, j⟩ ⟨⟨role, text, -⟩, -⟩
  simp only at role text
  simp only [role, text]

theorem ending_alike (policy : EndPolicy) {first second : Program} (file : first.file = second.file)
    (lines : List.Forall₂ SameLine first.lines second.lines) :
    List.Forall₂ SameFinding (EndPlacement.check policy first)
      (EndPlacement.check policy second) := by
  have ends := ends_alike lines
  have notLast {a b : ProgramToken} (same : SameToken a b) :
      SameFinding (EndPlacement.notLast first a) (EndPlacement.notLast second b) :=
    ⟨rfl, rfl, rfl, by simp [EndPlacement.notLast, Program.locate, file, same.line], .inl rfl⟩
  have duplicated {a b : ProgramToken} (same : SameToken a b) :
      SameFinding (EndPlacement.duplicated first a) (EndPlacement.duplicated second b) :=
    ⟨rfl, rfl, rfl, by simp [EndPlacement.duplicated, Program.locate, file, same.line], .inl rfl⟩
  unfold EndPlacement.check
  simp only [(tokens_alike lines).length_eq]
  generalize first.ends = a, second.ends = b at ends
  cases ends with
  | nil => exact .cons (sameFinding_refl _) .nil
  | @cons a b earlier later head rest =>
    obtain ⟨same, index⟩ := head
    have all : List.Forall₂ SameFinding
        ((if decide (a.2 + 1 = second.tokens.length) = true then []
          else [EndPlacement.notLast first a.1]) ++
            earlier.map fun entry => EndPlacement.duplicated first entry.1)
        ((if decide (b.2 + 1 = second.tokens.length) = true then []
          else [EndPlacement.notLast second b.1]) ++
            later.map fun entry => EndPlacement.duplicated second entry.1) := by
      refine List.rel_append ?_ (List.rel_map (fun _ _ entry => duplicated entry.1) rest)
      rw [index]
      split
      · exact .nil
      · exact .cons (notLast same) .nil
    have last := getLast?_related rest
    cases policy with
    | every => exact all
    | legacy =>
      simp only
      generalize earlier.getLast? = s, later.getLast? = t at last
      cases last with
      | none => exact all
      | @some s t final =>
        obtain ⟨same, index⟩ := final
        simp only [index]
        split
        · exact .cons (duplicated same) .nil
        · exact all

theorem tally_eq (same : List.Forall₂ SameFinding first second) :
    Tally.ofList first = Tally.ofList second := by
  refine List.rel_foldl (P := Eq) ?_ rfl same
  rintro t _ rfl d e finding
  simp only [Tally.add, finding.category]

theorem any_isError_eq (same : List.Forall₂ SameFinding first second) :
    first.any (·.isError) = second.any (·.isError) := by
  induction same with
  | nil => rfl
  | @cons d e _ _ finding _ ih =>
    have severity : d.isError = e.isError :=
      congrArg (fun category : Category => decide (category.severity = .error)) finding.category
    rw [List.any_cons, List.any_cons, severity, ih]

/-- Programs whose lines hold the same words under the same numbers have the same findings, up to
columns and to the spelling of labels with blanks. -/
theorem check_relaid (settings : Settings) {first second : Program}
    (file : first.file = second.file) (lines : List.Forall₂ SameLine first.lines second.lines) :
    SameFindings (first.check settings) (second.check settings) := by
  have perLine : List.Forall₂ (fun a b => a.line.number = b.line.number ∧
      List.Forall₂ SameFinding a.diagnostics b.diagnostics)
        (first.check settings).lines (second.check settings).lines := by
    refine List.rel_map (fun a b same => ⟨same.number, ?_⟩) lines
    rw [file]
    exact checkLine_alike settings second.file same
  have wiring := wiring_alike file lines
  have ending := ending_alike settings.endDuplicates file lines
  have all : List.Forall₂ SameFinding (first.check settings).diagnostics
      (second.check settings).diagnostics :=
    List.rel_append (List.rel_flatMap perLine fun _ _ same => same.2)
      (List.rel_append wiring ending)
  refine ⟨perLine, wiring, ending, ?_, tally_eq all, congrArg (!·) (any_isError_eq all)⟩
  exact congrArg (distinctWords id) (flatMap_lines_eq (fun a b same => identifiers_eq same) lines)

/-- The same words with blanks, commas and colons in other places. -/
theorem check_relaid_branch :
    let first : Program := ⟨[⟨1, "A:BEQ R1,R2 ,, B:"⟩, ⟨1, "BR  A:"⟩], "a.mal"⟩
    let second : Program := ⟨[⟨1, "A:  BEQ R1 R2,B:,"⟩, ⟨1, " BR A: ,"⟩], "a.mal"⟩
    List.Forall₂ SameLine first.lines second.lines ∧
      SameFindings (first.check {}) (second.check {}) := by
  intro first second
  have lines : List.Forall₂ SameLine first.lines second.lines :=
    .cons ⟨rfl, by decide, by decide, by decide⟩
      (.cons ⟨rfl, by decide, by decide, by decide⟩ .nil)
  exact ⟨lines, check_relaid {} rfl lines⟩

end MalLint.Relayout
