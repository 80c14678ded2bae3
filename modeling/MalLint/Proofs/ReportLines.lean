import MalLint.Proofs.Positions
import MalLint.Proofs.SourceForm
import MalLint.Proofs.SpellingRepair
import MalLint.Report

/-! A report has one line for each of its entries. What a program writes into its report, its lines
and the words of its findings, comes from the lines of a text and so holds no line break; and all
else that a report says is fixed. -/
namespace MalLint.ReportLines

open Text SourceForm Positions LabelWiring LineReports

variable {program : Program} {settings : Settings} {line : String} {d : Diagnostic}

/-- A text without line breaks. -/
def OneLine (text : String) : Prop :=
  Unbroken text.toList

theorem oneLine_iff (text : String) :
    OneLine text ↔ text.toList.all (!isLineBreak ·) = true := by
  simp [OneLine, Unbroken]

instance (text : String) : Decidable (OneLine text) :=
  decidable_of_iff _ (oneLine_iff text).symm

section Texts

theorem OneLine.append (first : OneLine front) (second : OneLine rest) :
    OneLine (front ++ rest) := by
  intro c member
  rw [String.toList_append] at member
  rcases List.mem_append.mp member with early | late
  · exact first c early
  · exact second c late

/-- A text that is written out is looked at character by character. -/
theorem oneLine_literal {text : List Char} (whole : text.all (!isLineBreak ·) = true) :
    OneLine (String.ofList text) := by
  rwa [oneLine_iff, String.toList_ofList]

theorem isLineBreak_of_isDigit (digit : c.isDigit = true) : isLineBreak c = false := by
  simp only [Char.isDigit, Bool.and_eq_true, decide_eq_true_eq] at digit
  have low : 48 ≤ c.toNat := digit.1
  have high : c.toNat ≤ 57 := digit.2
  simp only [isLineBreak, lineBreakRanges, inRanges]
  grind

theorem oneLine_nat (n : Nat) : OneLine (toString n) := by
  intro c member
  rw [Nat.toString_eq_repr, Nat.toList_repr] at member
  exact isLineBreak_of_isDigit (Nat.isDigit_of_mem_toDigits (by decide) (by decide) member)

theorem oneLine_int (z : Int) : OneLine (toString z) := by
  cases z with
  | ofNat n => exact oneLine_nat n
  | negSucc n => exact OneLine.append (oneLine_literal rfl) (oneLine_nat (n + 1))

theorem oneLine_intercalate (separator : OneLine between)
    (each : ∀ text ∈ texts, OneLine text) : OneLine (between.intercalate texts) := by
  induction texts with
  | nil => exact oneLine_literal rfl
  | cons text rest ih =>
    have first := each text List.mem_cons_self
    have later := ih fun other member => each other (List.mem_cons_of_mem text member)
    cases rest with
    | nil => rwa [String.intercalate_singleton]
    | cons next others =>
      rw [String.intercalate_cons_cons]
      exact (first.append separator).append later

/-- A word of a line holds no more line breaks than the line. -/
theorem OneLine.of_standsAt (whole : OneLine line) (stands : StandsAt line column word) :
    OneLine word := by
  obtain ⟨before, after, shape, -⟩ := stands
  intro c member
  exact whole c (by simp [shape, member])

end Texts

section Messages

theorem oneLine_mnemonic : ∀ i ∈ Instruction.table, OneLine i.mnemonic := by
  decide

theorem oneLine_joinNumbers (numbers : List Nat) : OneLine (Instruction.joinNumbers numbers) := by
  have front : OneLine (", ".intercalate (numbers.dropLast.map toString)) := by
    refine oneLine_intercalate (oneLine_literal rfl) fun text member => ?_
    obtain ⟨n, -, rfl⟩ := List.mem_map.mp member
    exact oneLine_nat n
  have last : OneLine ((numbers.getLast?.map toString).getD "") := by
    cases numbers.getLast? with
    | none => exact oneLine_literal rfl
    | some n => exact oneLine_nat n
  exact (front.append (oneLine_literal rfl)).append last

theorem oneLine_clause (c : Constraint) (positions : List Nat) :
    OneLine (Instruction.clause c positions) := by
  have described : OneLine c.description := by cases c <;> exact oneLine_literal rfl
  unfold Instruction.clause
  split
  · rename_i position
    exact (((oneLine_literal rfl).append (oneLine_nat position)).append
      (oneLine_literal rfl)).append described
  · exact (((oneLine_literal rfl).append (oneLine_joinNumbers _)).append
      (oneLine_literal rfl)).append described

theorem oneLine_requirements (listed : i ∈ Instruction.table) : OneLine i.requirements := by
  have named := oneLine_mnemonic i listed
  unfold Instruction.requirements
  split
  · exact named.append (oneLine_literal rfl)
  · have clauses : OneLine (" and ".intercalate
        ((distinct i.operands).map fun c => Instruction.clause c (i.positions c))) := by
      refine oneLine_intercalate (oneLine_literal rfl) fun text member => ?_
      obtain ⟨c, -, rfl⟩ := List.mem_map.mp member
      exact oneLine_clause c (i.positions c)
    exact (named.append (oneLine_literal rfl)).append clauses

theorem oneLine_required (listed : i ∈ Instruction.table) : OneLine (LineCheck.required i) := by
  have word : OneLine (if i.arity = 1 then "operand" else "operands") := by
    split <;> exact oneLine_literal rfl
  exact ((((oneLine_mnemonic i listed).append (oneLine_literal rfl)).append
    (oneLine_nat i.arity)).append (oneLine_literal rfl)).append word

theorem oneLine_rejected (each : ∀ text ∈ operands, OneLine text) (failing : List Nat) :
    OneLine (LineCheck.rejected operands failing) := by
  have listed : OneLine (", ".intercalate
      (failing.map fun n => s!"{n} ('{operands.getD (n - 1) default}')")) := by
    refine oneLine_intercalate (oneLine_literal rfl) fun text member => ?_
    obtain ⟨n, -, rfl⟩ := List.mem_map.mp member
    have shown : OneLine (operands.getD (n - 1) default) := by
      rw [List.getD_eq_getElem?_getD]
      cases held : operands[n - 1]? with
      | none => exact oneLine_literal rfl
      | some operand => exact each operand (List.mem_of_getElem? held)
    exact (((oneLine_nat n).append (oneLine_literal rfl)).append shown).append
      (oneLine_literal rfl)
  have opening : OneLine
      (if failing.length = 1 then "rejected operand " else "rejected operands ") := by
    split <;> exact oneLine_literal rfl
  exact opening.append listed

theorem oneLine_label (whole : OneLine line)
    (found : LineCheck.label origin line = some d) : OneLine d.message := by
  unfold LineCheck.label at found
  cases opening : Line.beforeColon? line.toList with
  | none => simp [opening] at found
  | some candidate =>
    have shown : OneLine (String.ofList candidate) :=
      whole.of_standsAt (beforeColon_stands line opening)
    simp only [opening] at found
    split at found
    · cases found
      exact OneLine.append (oneLine_literal rfl) (oneLine_literal rfl)
    · split at found
      · cases found
        exact ((oneLine_literal rfl).append shown).append (oneLine_literal rfl)
      · split at found <;> cases found
        exact ((oneLine_literal rfl).append shown).append (oneLine_literal rfl)

theorem oneLine_opcode (whole : OneLine line)
    (found : LineCheck.opcode alphabet origin line = some d) : OneLine d.message := by
  unfold LineCheck.opcode at found
  cases read : (Line.split line).opcode with
  | none => simp [read] at found
  | some opcode =>
    have shown : OneLine opcode.text := whole.of_standsAt (opcode_stands line read).2
    simp only [read] at found
    split at found <;> cases found
    have complaint : OneLine s!"invalid opcode '{opcode.text}'" :=
      ((oneLine_literal rfl).append shown).append (oneLine_literal rfl)
    cases meant : Spelling.suggest alphabet Instruction.mnemonics opcode.text with
    | none => exact complaint.append (oneLine_literal rfl)
    | some known =>
      have listed : OneLine known := by
        obtain ⟨i, member, rfl⟩ := List.mem_map.mp (SpellingRepair.suggest_sound meant).1
        exact oneLine_mnemonic i member
      exact complaint.append
        (((oneLine_literal rfl).append listed).append (oneLine_literal rfl))

theorem oneLine_form (whole : OneLine line)
    (found : LineCheck.form origin line = some d) : OneLine d.message := by
  obtain ⟨operand, first, rfl⟩ := Option.map_eq_some_iff.mp found
  have shown : OneLine operand.text :=
    whole.of_standsAt (operand_stands line (List.mem_of_find?_eq_some first)).2
  exact (((oneLine_literal rfl).append shown).append (oneLine_literal rfl)).append
    (oneLine_literal rfl)

theorem oneLine_arity (whole : OneLine line)
    (found : LineCheck.arity origin line = some d) : OneLine d.message := by
  unfold LineCheck.arity at found
  cases read : (Line.split line).opcode with
  | none => simp [read] at found
  | some opcode =>
    cases row : Instruction.find? opcode.text with
    | none => simp [read, row] at found
    | some i =>
      have listed : i ∈ Instruction.table := List.mem_of_find?_eq_some row
      simp only [read, row] at found
      split at found
      · cases found
        exact (oneLine_literal rfl).append (oneLine_required listed)
      · split at found
        · cases found
          exact (oneLine_literal rfl).append (oneLine_required listed)
        · split at found <;> cases found
          have operands : ∀ text ∈ (Line.split line).operandTexts, OneLine text := by
            intro text member
            obtain ⟨operand, held, rfl⟩ := List.mem_map.mp member
            exact whole.of_standsAt (operand_stands line held).2
          exact (((oneLine_literal rfl).append (oneLine_requirements listed)).append
            (oneLine_literal rfl)).append (oneLine_rejected operands _)

/-- What is said about a line fits on one line. -/
theorem oneLine_of_mem_checkLine {line : ProgramLine} (whole : OneLine line.text)
    (member : d ∈ checkLine settings file line) : OneLine d.message := by
  rcases mem_checkLine_iff.mp member with label | opcode | form | arity
  · exact oneLine_label whole label
  · exact oneLine_opcode whole opcode
  · exact oneLine_form whole form
  · exact oneLine_arity whole arity

/-- What is said about a program fits on one line. -/
theorem oneLine_message (whole : ∀ line ∈ program.lines, OneLine line.text)
    (member : d ∈ (program.check settings).diagnostics) : OneLine d.message := by
  simp only [Findings.diagnostics, Findings.wide, Program.check, Wiring.check, List.mem_append,
    List.mem_flatMap, List.mem_map, exists_exists_and_eq_and] at member
  rcases member with ⟨line, listed, found⟩ | (unreferenced | dangling) | ending
  · exact oneLine_of_mem_checkLine (whole line listed) found
  · rw [unreferenced_eq] at unreferenced
    obtain ⟨token, kept, rfl⟩ := List.mem_map.mp unreferenced
    have first := mem_of_mem_distinctBy (List.mem_filter.mp kept).1
    obtain ⟨line, listed, declared⟩ := List.mem_filterMap.mp first
    obtain ⟨label, read, rfl⟩ := Option.map_eq_some_iff.mp declared
    have shown : OneLine label.text := (whole line listed).of_standsAt (label_stands line.text read)
    exact ((oneLine_literal rfl).append shown).append (oneLine_literal rfl)
  · rw [dangling_eq] at dangling
    obtain ⟨line, listed, stray⟩ := List.mem_filterMap.mp dangling
    obtain ⟨target, branches, reported⟩ := Option.bind_eq_some_iff.mp stray
    obtain ⟨-, same⟩ := Option.ite_none_right_eq_some.mp reported
    obtain rfl := Option.some.inj same
    have stands := (operand_stands line.text (branchTarget?_mem branches)).2
    have shown : OneLine (Operand.stripColon target.text) :=
      (whole line listed).of_standsAt (stands.of_isPrefix (stripColon_isPrefix target.text))
    exact ((oneLine_literal rfl).append shown).append (oneLine_literal rfl)
  · rcases Verdict.ending_cases ending with rfl | ⟨entry, -, rfl | rfl⟩
    · exact oneLine_literal rfl
    · exact oneLine_literal rfl
    · exact oneLine_literal rfl

end Messages

section Entries

theorem oneLine_entry (whole : OneLine d.message) : OneLine d.entry := by
  have named : OneLine d.severity.name := by cases d.severity <;> exact oneLine_literal rfl
  exact (((oneLine_literal rfl).append named).append (oneLine_literal rfl)).append whole

theorem oneLine_entryWithLine (whole : OneLine d.message) : OneLine d.entryWithLine := by
  unfold Diagnostic.entryWithLine
  split
  · exact (((oneLine_entry whole).append (oneLine_literal rfl)).append (oneLine_int _)).append
      (oneLine_literal rfl)
  · exact oneLine_entry whole

theorem oneLine_listing (whole : ∀ line ∈ program.lines, OneLine line.text)
    (member : entry ∈ Report.listing (program.check settings)) : OneLine entry := by
  rcases List.mem_append.mp member with code | wide
  · obtain ⟨about, listed, inside⟩ := List.mem_flatMap.mp code
    obtain ⟨line, held, rfl⟩ := List.mem_map.mp listed
    rcases List.mem_cons.mp inside with rfl | finding
    · exact ((oneLine_int line.number).append (oneLine_literal rfl)).append (whole line held)
    · obtain ⟨d, found, rfl⟩ := List.mem_map.mp finding
      exact oneLine_entry (oneLine_of_mem_checkLine (whole line held) found)
  · unfold Report.wideEntries at wide
    split at wide
    · cases wide
    · rcases List.mem_cons.mp wide with rfl | finding
      · exact oneLine_literal rfl
      · obtain ⟨d, found, rfl⟩ := List.mem_map.mp finding
        exact oneLine_entryWithLine (oneLine_message whole (List.mem_append_right _ found))

theorem oneLine_totals (tally : Tally) (severity : Severity)
    (member : entry ∈ Report.totals tally severity) : OneLine entry := by
  have words : OneLine (Report.totalWords severity).total ∧
      OneLine (Report.totalWords severity).each ∧ OneLine (Report.totalWords severity).none := by
    cases severity <;>
      exact ⟨oneLine_literal rfl, oneLine_literal rfl, oneLine_literal rfl⟩
  have described (category : Category) : OneLine category.description := by
    cases category <;> exact oneLine_literal rfl
  simp only [Report.totals] at member
  split at member
  · rw [List.mem_singleton.mp member]
    exact words.2.2
  · rcases List.mem_cons.mp member with rfl | counted
    · exact words.1.append (oneLine_nat _)
    · obtain ⟨⟨category, count⟩, -, rfl⟩ := List.mem_map.mp counted
      exact ((((oneLine_nat count).append (oneLine_literal rfl)).append
        (described category)).append (oneLine_literal rfl)).append words.2.1

/-- An identifier is a word of some line. -/
theorem oneLine_identifier (whole : ∀ line ∈ program.lines, OneLine line.text)
    (member : name ∈ (program.check settings).identifiers) : OneLine name := by
  simp only [Program.check, distinctWords_eq_distinctBy] at member
  obtain ⟨line, listed, inside⟩ := List.mem_flatMap.mp (mem_of_mem_distinctBy member)
  obtain ⟨⟨text, index⟩, kept, rfl⟩ := List.mem_map.mp inside
  have operand := List.fst_mem_of_mem_zipIdx (List.mem_filter.mp kept).1
  obtain ⟨token, held, rfl⟩ := List.mem_map.mp operand
  exact (whole line listed).of_standsAt (operand_stands line.text held).2

theorem oneLine_footer (whole : ∀ line ∈ program.lines, OneLine line.text)
    (member : entry ∈ Report.footer (program.check settings)) : OneLine entry := by
  have verdict : OneLine (Report.verdict (program.check settings)) := by
    refine OneLine.append (oneLine_literal rfl) ?_
    split <;> exact oneLine_literal rfl
  simp only [Report.footer, List.mem_append, List.mem_cons, List.not_mem_nil, or_false,
    or_assoc] at member
  rcases member with rfl | rfl | rfl | rfl | rfl | warnings | rfl | errors | names | rfl | rfl
  · exact oneLine_literal rfl
  · exact oneLine_literal rfl
  · exact oneLine_literal rfl
  · exact OneLine.append (oneLine_literal rfl) (oneLine_nat _)
  · exact oneLine_literal rfl
  · exact oneLine_totals _ .warning warnings
  · exact oneLine_literal rfl
  · exact oneLine_totals _ .error errors
  · unfold Report.inventory at names
    split at names
    · cases names
    · rcases List.mem_cons.mp names with rfl | headed
      · exact oneLine_literal rfl
      · rcases List.mem_cons.mp headed with rfl | name
        · exact oneLine_literal rfl
        · exact oneLine_identifier whole name
  · exact oneLine_literal rfl
  · exact verdict

/-- What the header of a report takes from outside holds no line breaks. -/
structure PlainHeader (settings : Settings) (today : Date) (sourceName reportName : String) :
    Prop where
  source : OneLine sourceName
  report : OneLine reportName
  date : OneLine (today.format settings.dateFormat)
  author : ∀ author, settings.author = some author → OneLine author
  course : ∀ course, settings.course = some course → OneLine course

theorem oneLine_optionalEntry (each : ∀ text, given = some text → OneLine text)
    (member : entry ∈ Report.optionalEntry given) : OneLine entry := by
  have kept := Option.mem_toList.mp member
  exact each entry (Option.filter_eq_some_iff.mp kept).1

theorem oneLine_header (plain : PlainHeader settings today sourceName reportName)
    (member : entry ∈ Report.header settings today sourceName reportName) : OneLine entry := by
  simp only [Report.header, List.mem_append, List.mem_cons, List.not_mem_nil, or_false,
    or_assoc] at member
  rcases member with rfl | rfl | rfl | rfl | author | course | rfl | rfl | rfl | rfl
  · exact oneLine_literal rfl
  · exact plain.source
  · exact plain.report
  · exact plain.date
  · exact oneLine_optionalEntry plain.author author
  · exact oneLine_optionalEntry plain.course course
  · exact oneLine_literal rfl
  · exact oneLine_literal rfl
  · exact oneLine_literal rfl
  · exact oneLine_literal rfl

/-- Entries of one line each, every one of them ended by a line feed, are the lines of their
text. -/
theorem splitLines_entries (nonempty : entries ≠ [])
    (each : ∀ entry ∈ entries, OneLine entry) :
    splitLines ("\n".intercalate entries ++ "\n").toList = entries.map String.toList := by
  have feed : "\n" ∈ lineEndings := by decide
  have apart (rest : List Char) : "\n" = "\r" → rest.head? ≠ some '\n' :=
    fun same => absurd same (by decide)
  induction entries with
  | nil => exact absurd rfl nonempty
  | cons entry rest ih =>
    have first : Unbroken entry.toList := each entry List.mem_cons_self
    cases rest with
    | nil =>
      rw [String.intercalate_singleton, String.toList_append, ← List.append_nil (_ ++ _),
        splitLines_line feed first (apart [])]
      rfl
    | cons next others =>
      have later := ih (by simp) fun other member => each other (List.mem_cons_of_mem entry member)
      rw [String.intercalate_cons_cons, String.append_assoc, String.toList_append,
        String.toList_append, splitLines_line feed first (apart _), later]
      rfl

/-- The lines of a report are its entries, under whatever settings the report is written. -/
theorem splitLines_report (whole : ∀ line ∈ program.lines, OneLine line.text)
    (plain : PlainHeader reportSettings today
      ((sourceName.filter (· ≠ "")).getD program.file) reportName) :
    splitLines
        (Report.text reportSettings today (program.check settings) reportName sourceName).toList =
      (Report.header reportSettings today ((sourceName.filter (· ≠ "")).getD program.file)
          reportName ++
        Report.listing (program.check settings) ++
        Report.footer (program.check settings)).map String.toList := by
  refine splitLines_entries ?_ ?_
  · simp [Report.entries, Report.header]
  · intro entry member
    rcases List.mem_append.mp member with front | footer
    · rcases List.mem_append.mp front with header | listing
      · exact oneLine_header plain header
      · exact oneLine_listing whole listing
    · exact oneLine_footer whole footer

end Entries

end MalLint.ReportLines
