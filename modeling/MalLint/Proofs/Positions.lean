import MalLint.Proofs.LineReports
import MalLint.Proofs.Verdict

/-! Where findings point. Whoever follows a location comes to the text that the finding is about:
the tokens of a line stand where their columns say, and a finding takes its column from the right
one of them. Only the warning that there is no END has no place. -/
namespace MalLint.Positions

open LineLayout LineReports LabelWiring Verdict

/-- From the column on, the line goes on with the word. Columns count from 1. -/
def StandsAt (line : String) (column : Int) (word : String) : Prop :=
  ∃ before after, line.toList = before ++ word.toList ++ after ∧ column = 1 + before.length

/-- The column is the right one for the finding. Most findings point at their subject; one about
operands points at the operand that is the first too many or the first of a wrong type. -/
def RightColumn (line : ProgramLine) (d : Diagnostic) (column : Int) : Prop :=
  match d.category with
  | .illFormedLabel | .invalidOpcode | .illFormedOperand | .tooFewOperands | .unreferencedLabel
  | .danglingBranchTarget | .endNotLast | .endDuplicated =>
    ∃ subject, d.subject = some subject ∧ subject ≠ "" ∧ StandsAt line.text column subject
  | .tooManyOperands =>
    ∃ opcode i surplus, line.parts.opcode = some opcode ∧ Instruction.find? opcode.text = some i ∧
      line.parts.operands[i.arity]? = some surplus ∧ column = surplus.column ∧
        StandsAt line.text column surplus.text
  | .invalidOperandType =>
    ∃ opcode i operand, line.parts.opcode = some opcode ∧ Instruction.find? opcode.text = some i ∧
      FirstRejected i line.parts.operands operand ∧ column = operand.column ∧
        StandsAt line.text column operand.text
  | .endMissing => False

/-- The finding has a location, which is in the file, on the line and in the right column. -/
def PlacedOn (file : String) (line : ProgramLine) (d : Diagnostic) : Prop :=
  ∃ column, d.location = some ⟨file, line.number, column⟩ ∧ RightColumn line d column

theorem placeOperands_stand (before : List Char) (operands : List WrittenOperand)
    (trail : List Char) (member : token ∈ placeOperands before operands) :
    token.text ≠ "" ∧ StandsAt (String.ofList (before ++ writeOperands operands trail))
      token.column token.text := by
  induction operands generalizing before with
  | nil => cases member
  | cons operand rest ih =>
    rcases List.mem_cons.mp member with rfl | later
    · refine ⟨by simpa [placed] using operand.text_ne, before ++ operand.separator,
        writeOperands rest trail, ?_, by simp [placed]⟩
      simp [writeOperands, placed]
    · simpa [writeOperands] using ih _ later

/-- Opcodes and operands are not empty and stand where they say. -/
theorem split_stand (line : String)
    (member : token ∈ (Line.split line).opcode.toList ++ (Line.split line).operands) :
    token.text ≠ "" ∧ StandsAt line token.column token.text := by
  obtain ⟨layout, written⟩ := exists_layout line.toList
  obtain rfl : String.ofList layout.text = line := by rw [written, String.ofList_toList]
  rw [split_text, Layout.parts] at member
  cases body : layout.body with
  | blank gap gap_blank => simp [body, Body.tokens] at member
  | instruction written =>
    have whole : layout.text = layout.opening ++ written.gap ++ written.opcode ++
        writeOperands written.operands written.trail := by
      simp [Layout.text, body, Body.text, WrittenInstruction.text]
    rw [whole]
    simp only [body, Body.tokens, Option.toList_some, List.singleton_append] at member
    rcases List.mem_cons.mp member with rfl | operand
    · refine ⟨by simpa [placed] using written.opcode_ne, layout.opening ++ written.gap,
        writeOperands written.operands written.trail, ?_, by simp [placed]⟩
      simp [placed]
    · exact placeOperands_stand _ _ written.trail operand

theorem opcode_stands (line : String) (read : (Line.split line).opcode = some opcode) :
    opcode.text ≠ "" ∧ StandsAt line opcode.column opcode.text :=
  split_stand line (List.mem_append_left _ (by simp [read]))

theorem operand_stands (line : String) (member : operand ∈ (Line.split line).operands) :
    operand.text ≠ "" ∧ StandsAt line operand.column operand.text :=
  split_stand line (List.mem_append_right _ member)

/-- What stands before the first colon opens the line. -/
theorem beforeColon_stands (line : String)
    (opening : Line.beforeColon? line.toList = some candidate) :
    StandsAt line 1 (String.ofList candidate) := by
  obtain ⟨-, rest, shape⟩ := beforeColon?_eq_some_iff.mp opening
  exact ⟨[], ':' :: rest, by simp [shape], rfl⟩

theorem label_stands (line : String) (read : (Line.split line).label = some label) :
    StandsAt line label.column label.text := by
  obtain ⟨opening, first⟩ := beforeColon?_of_label read
  simpa [first] using beforeColon_stands line opening

theorem StandsAt.of_isPrefix (stands : StandsAt line column word)
    (opens : front.toList <+: word.toList) : StandsAt line column front := by
  obtain ⟨before, after, shape, place⟩ := stands
  obtain ⟨tail, whole⟩ := opens
  exact ⟨before, tail ++ after, by simp [shape, ← whole], place⟩

theorem stripColon_isPrefix (text : String) :
    (Operand.stripColon text).toList <+: text.toList := by
  unfold Operand.stripColon
  split
  · simpa using List.dropLast_prefix text.toList
  · exact List.prefix_refl _

theorem ne_empty_of_isIdentifier (identifier : Operand.isIdentifier text = true) : text ≠ "" := by
  rintro rfl
  exact absurd identifier (by decide)

theorem rightColumn_of_subject
    (kind : d.category ∈ [Category.illFormedLabel, .invalidOpcode, .illFormedOperand,
      .tooFewOperands, .unreferencedLabel, .danglingBranchTarget, .endNotLast, .endDuplicated])
    (named : d.subject = some subject) (nonempty : subject ≠ "")
    (stands : StandsAt line.text column subject) : RightColumn line d column := by
  have points : ∃ subject, d.subject = some subject ∧ subject ≠ "" ∧
      StandsAt line.text column subject := ⟨subject, named, nonempty, stands⟩
  unfold RightColumn
  cases category : d.category <;> first | exact points | simp [category] at kind

/-- Whatever is found on a line points into this line. -/
theorem placedOn_of_mem_checkLine (member : d ∈ checkLine settings file line) :
    PlacedOn file line d := by
  rcases mem_checkLine_iff.mp member with label | opcode | form | arity
  · obtain ⟨category, location, candidate, opening, named, subject⟩ := label_reports label
    refine ⟨1, location, rightColumn_of_subject (by simp [category]) subject ?_ ?_⟩
    · simpa using named
    · exact beforeColon_stands line.text opening
  · obtain ⟨category, opcode, read, location, subject⟩ := opcode_reports opcode
    obtain ⟨nonempty, stands⟩ := opcode_stands line.text read
    exact ⟨opcode.column, location,
      rightColumn_of_subject (by simp [category]) subject nonempty stands⟩
  · obtain ⟨category, operand, held, location, subject⟩ := form_reports form
    obtain ⟨nonempty, stands⟩ := operand_stands line.text held
    exact ⟨operand.column, location,
      rightColumn_of_subject (by simp [category]) subject nonempty stands⟩
  · obtain ⟨opcode, i, token, read, row, subject, location, misfit⟩ := arity_reports arity
    refine ⟨token.column, location, ?_⟩
    generalize category : d.category = kind at misfit
    cases misfit with
    | surplus extra =>
      have stands := (operand_stands line.text (List.mem_of_getElem? extra)).2
      simpa only [RightColumn, category] using ⟨opcode, i, token, read, row, extra, rfl, stands⟩
    | shortage fewer =>
      obtain ⟨nonempty, stands⟩ := opcode_stands line.text read
      exact rightColumn_of_subject (by simp [category]) subject nonempty stands
    | type number first =>
      have stands := (operand_stands line.text first.mem).2
      simpa only [RightColumn, category] using ⟨opcode, i, token, read, row, first, rfl, stands⟩

theorem placedOn_of_mem_unreferenced (member : d ∈ Wiring.unreferenced program) :
    ∃ line ∈ program.lines, PlacedOn program.file line d := by
  rw [unreferenced_eq] at member
  obtain ⟨token, kept, rfl⟩ := List.mem_map.mp member
  obtain ⟨first, named⟩ := List.mem_filter.mp kept
  obtain ⟨line, listed, declared⟩ := List.mem_filterMap.mp (mem_of_mem_distinctBy first)
  obtain ⟨label, read, rfl⟩ := Option.map_eq_some_iff.mp declared
  have identifier : Operand.isIdentifier label.text = true := (Bool.and_eq_true_iff.mp named).1
  refine ⟨line, listed, label.column, rfl, ?_⟩
  exact rightColumn_of_subject (by simp [unmentioned]) rfl (ne_empty_of_isIdentifier identifier)
    (label_stands line.text read)

theorem branchTarget?_mem (found : Wiring.branchTarget? line = some target) :
    target ∈ line.parts.operands := by
  obtain ⟨opcode, -, behind⟩ := Option.bind_eq_some_iff.mp found
  obtain ⟨index, -, held⟩ := Option.bind_eq_some_iff.mp behind
  exact List.mem_of_getElem? held

theorem placedOn_of_mem_dangling (member : d ∈ Wiring.dangling program) :
    ∃ line ∈ program.lines, PlacedOn program.file line d := by
  rw [dangling_eq] at member
  obtain ⟨line, listed, stray⟩ := List.mem_filterMap.mp member
  obtain ⟨target, branches, reported⟩ := Option.bind_eq_some_iff.mp stray
  obtain ⟨⟨identifier, -⟩, same⟩ := Option.ite_none_right_eq_some.mp reported
  obtain rfl := Option.some.inj same
  have stands := (operand_stands line.text (branchTarget?_mem branches)).2
  refine ⟨line, listed, target.column, rfl, ?_⟩
  exact rightColumn_of_subject (by simp) rfl (ne_empty_of_isIdentifier identifier)
    (stands.of_isPrefix (stripColon_isPrefix target.text))

/-- An END of the program is the opcode of one of its lines. -/
theorem exists_line_of_mem_ends {program : Program} (member : entry ∈ program.ends) :
    ∃ line ∈ program.lines, ∃ opcode, line.parts.opcode = some opcode ∧
      opcode.text = Instruction.endMnemonic ∧
        entry.1 = ⟨.opcode, opcode.text, line.number, opcode.column⟩ := by
  obtain ⟨inside, kept⟩ := List.mem_filter.mp member
  simp only [Bool.and_eq_true, decide_eq_true_eq, beq_iff_eq] at kept
  obtain ⟨line, listed, held⟩ := List.mem_flatMap.mp (List.fst_mem_of_mem_zipIdx inside)
  refine ⟨line, listed, ?_⟩
  simp only [ProgramLine.tokens, List.mem_append, List.mem_map, Option.mem_toList] at held
  rcases held with (⟨label, -, same⟩ | ⟨opcode, read, same⟩) | ⟨operand, -, same⟩
  · simp [← same] at kept
  · exact ⟨opcode, read, by simpa [← same] using kept.2, same.symm⟩
  · simp [← same] at kept

theorem placedOn_of_mem_ending (member : d ∈ EndPlacement.check policy program) :
    d = EndPlacement.missing ∨ ∃ line ∈ program.lines, PlacedOn program.file line d := by
  rcases ending_cases member with missing | ⟨entry, listed, points⟩
  · exact .inl missing
  · obtain ⟨line, inside, opcode, read, spelled, token⟩ := exists_line_of_mem_ends listed
    have stands := (opcode_stands line.text read).2
    rw [spelled] at stands
    refine .inr ⟨line, inside, opcode.column, ?_, ?_⟩
    · rcases points with rfl | rfl <;>
        simp [EndPlacement.notLast, EndPlacement.duplicated, Program.locate, token]
    · rcases points with rfl | rfl
      · exact rightColumn_of_subject (by simp [EndPlacement.notLast]) rfl (by decide) stands
      · exact rightColumn_of_subject (by simp [EndPlacement.duplicated]) rfl (by decide) stands

theorem PlacedOn.category_ne (placed : PlacedOn file line d) : d.category ≠ .endMissing := by
  obtain ⟨column, -, right⟩ := placed
  intro missing
  simp [RightColumn, missing] at right

theorem PlacedOn.location_ne (placed : PlacedOn file line d) : d.location ≠ none := by
  obtain ⟨column, location, -⟩ := placed
  simp [location]

theorem missing_or_placed (member : d ∈ (Program.check settings program).diagnostics) :
    d = EndPlacement.missing ∨ ∃ line ∈ program.lines, PlacedOn program.file line d := by
  simp only [Findings.diagnostics, Findings.wide, Program.check, Wiring.check, List.mem_append,
    List.mem_flatMap, List.mem_map, exists_exists_and_eq_and] at member
  rcases member with ⟨line, listed, found⟩ | (unreferenced | dangling) | ending
  · exact .inr ⟨line, listed, placedOn_of_mem_checkLine found⟩
  · exact .inr (placedOn_of_mem_unreferenced unreferenced)
  · exact .inr (placedOn_of_mem_dangling dangling)
  · exact placedOn_of_mem_ending ending

/-- Every finding but that of a missing END points into a line of the program, to the text that it
is about, and the findings about a line point into this line. -/
theorem findings_point_right (settings : Settings) (program : Program) :
    (∀ entry ∈ (program.check settings).lines, entry.line ∈ program.lines ∧
      ∀ d ∈ entry.diagnostics, PlacedOn program.file entry.line d) ∧
    ∀ d ∈ (program.check settings).diagnostics,
      (d.location = none ↔ d.category = .endMissing) ∧
        (d.category ≠ .endMissing → ∃ line ∈ program.lines, PlacedOn program.file line d) := by
  constructor
  · intro entry listed
    obtain ⟨line, inside, rfl⟩ := List.mem_map.mp listed
    exact ⟨inside, fun d found => placedOn_of_mem_checkLine found⟩
  · intro d member
    rcases missing_or_placed member with rfl | ⟨line, listed, placed⟩
    · exact ⟨⟨fun _ => rfl, fun _ => rfl⟩, fun other => absurd rfl other⟩
    · have category := placed.category_ne
      have location := placed.location_ne
      exact ⟨by simp [category, location], fun _ => ⟨line, listed, placed⟩⟩

/-- A branch to nowhere whose target has a colon, on a line with an empty label. -/
theorem findings_point_right_branch :
    let program : Program := ⟨[⟨-3, ":BR DONE:"⟩], "a.mal"⟩
    let d : Diagnostic := ⟨.danglingBranchTarget, "the token 'DONE' has no label to branch to",
      some ⟨"a.mal", -3, 5⟩, some "DONE", none⟩
    d ∈ (program.check {}).diagnostics ∧ d.category ≠ .endMissing ∧
      ∃ line ∈ program.lines, PlacedOn "a.mal" line d := by
  intro program d
  have member : d ∈ (program.check {}).diagnostics := by decide
  have kind : d.category ≠ .endMissing := by decide
  exact ⟨member, kind, ((findings_point_right {} program).2 d member).2 kind⟩

end MalLint.Positions
