import MalLint.Proofs.ReportLines

/-! Reading a listing. An entry tells by how it opens what it is: a line of code opens with a digit,
a finding with a star, and an empty entry sets the findings about the whole program apart. Whatever
a program holds, its lines and what is said about each of them are read back from its listing. -/
namespace MalLint.ListingReader

open Text SourceLines LineLayout ReportLines

variable {findings others : Findings} {line other : ProgramLine} {d : Diagnostic}

/-- A line of code as an entry of a listing. -/
def numberedEntry (line : ProgramLine) : String :=
  s!"{line.number}. {line.text}"

/-- Whether an entry opens with one of the digits 0 to 9. -/
def opensWithDigit (entry : String) : Bool :=
  entry.toList.head?.any Char.isDigit

/-- The entries that open with a digit, each with the entries after it that do not. -/
def blocks : List String → List (String × List String)
  | [] => []
  | entry :: rest =>
    if opensWithDigit entry then
      (entry, rest.takeWhile (!opensWithDigit ·)) :: blocks rest
    else
      blocks rest

/-- What is read from a listing. -/
structure Reading where
  /-- The lines of code, each with the findings about it. -/
  lines : List (String × List String)
  /-- The findings about the whole program. -/
  wide : List String
  deriving DecidableEq, Repr

/-- Reads a listing: up to the first empty entry there are lines of code with their findings, and
after it the findings about the whole program. -/
def read (listing : List String) : Reading :=
  ⟨blocks (listing.takeWhile (· ≠ "")), (listing.dropWhile (· ≠ "")).tail⟩

/-- Numbers of lines count from 0 upwards. -/
def Counted (line : ProgramLine) : Prop :=
  ∃ n : Nat, line.number = n

theorem ofSource_counted (source file : String) :
    ∀ line ∈ (Program.ofSource source file).lines, Counted line := by
  intro line member
  obtain ⟨⟨raw, number⟩, -, kept⟩ := List.mem_filterMap.mp member
  simp only [Option.ite_none_left_eq_some, Option.some.injEq] at kept
  exact ⟨number, by rw [← kept.2]⟩

theorem ofSource_oneLine (source file : String) :
    ∀ line ∈ (Program.ofSource source file).lines, OneLine line.text := by
  intro line member
  obtain ⟨⟨raw, number⟩, inside, kept⟩ := List.mem_filterMap.mp member
  simp only [Option.ite_none_left_eq_some, Option.some.injEq] at kept
  have whole := SourceForm.unbroken_of_mem_splitLines (List.fst_mem_of_mem_zipIdx inside)
  rw [← kept.2, OneLine, String.toList_ofList]
  exact SourceForm.unbroken_clean whole

section Openings

theorem toList_numberedEntry (number : line.number = (n : Nat)) :
    (numberedEntry line).toList = Nat.toDigits 10 n ++ '.' :: ' ' :: line.text.toList := by
  have digits : (toString line.number).toList = Nat.toDigits 10 n := by
    rw [number]
    exact Nat.toList_repr
  rw [numberedEntry, String.toList_append, String.toList_append, digits, List.append_assoc]
  rfl

theorem isDigit_of_mem_toDigits (member : c ∈ Nat.toDigits 10 n) : c.isDigit = true :=
  Nat.isDigit_of_mem_toDigits (by decide) (by decide) member

theorem opensWithDigit_numberedEntry (counted : Counted line) :
    opensWithDigit (numberedEntry line) = true := by
  obtain ⟨n, number⟩ := counted
  obtain ⟨c, rest, digits⟩ := List.exists_cons_of_ne_nil (@Nat.toDigits_ne_nil n 10)
  have digit : c.isDigit = true := isDigit_of_mem_toDigits (digits ▸ List.mem_cons_self)
  simp [opensWithDigit, toList_numberedEntry number, digits, digit]

/-- A line of code is read from its entry: the digits end at the first dot. -/
theorem numberedEntry_injective (first : Counted line) (second : Counted other)
    (same : numberedEntry line = numberedEntry other) : line = other := by
  obtain ⟨m, left⟩ := first
  obtain ⟨n, right⟩ := second
  have spelled := congrArg String.toList same
  rw [toList_numberedEntry left, toList_numberedEntry right] at spelled
  have digits (n : Nat) (rest : List Char) :
      (Nat.toDigits 10 n ++ '.' :: rest).takeWhile Char.isDigit = Nat.toDigits 10 n := by
    rw [List.takeWhile_append_of_pos fun c member => isDigit_of_mem_toDigits member]
    simp
  have numbers : m = n := by
    have equal := congrArg (List.takeWhile Char.isDigit) spelled
    rw [digits, digits] at equal
    simpa using congrArg (Nat.ofDigitChars 10 · 0) equal
  subst numbers
  have texts : line.text = other.text := by simpa [String.toList_inj] using spelled
  cases line
  cases other
  simp_all

theorem head?_entry (d : Diagnostic) : d.entry.toList.head? = some '*' := by
  show ("** " ++ d.severity.name ++ ": " ++ d.message).toList.head? = some '*'
  simp

theorem head?_entryWithLine (d : Diagnostic) : d.entryWithLine.toList.head? = some '*' := by
  unfold Diagnostic.entryWithLine
  split
  · rename_i line _
    show (d.entry ++ " (line " ++ toString line ++ ")").toList.head? = some '*'
    simp [head?_entry]
  · exact head?_entry d

theorem opensWithDigit_of_star (star : entry.toList.head? = some '*') :
    opensWithDigit entry = false := by
  simp +decide [opensWithDigit, star]

theorem ne_empty_of_opensWithDigit (digit : opensWithDigit entry = true) : entry ≠ "" := by
  rintro rfl
  exact absurd digit (by decide)

theorem ne_empty_of_star (star : entry.toList.head? = some '*') : entry ≠ "" := by
  rintro rfl
  exact absurd star (by decide)

end Openings

section Blocks

/-- Entries that do not open with a digit begin no block. -/
theorem blocks_append (plain : ∀ entry ∈ front, opensWithDigit entry = false)
    (rest : List String) : blocks (front ++ rest) = blocks rest := by
  induction front with
  | nil => rfl
  | cons entry front ih =>
    have first := plain entry List.mem_cons_self
    rw [List.cons_append, blocks, if_neg (by simp [first])]
    exact ih fun other member => plain other (List.mem_cons_of_mem entry member)

/-- Blocks written one after the other. -/
def inSequence (written : List (String × List String)) : List String :=
  written.flatMap fun block => block.1 :: block.2

/-- Blocks that are written one after the other are found again. -/
theorem blocks_inSequence {written : List (String × List String)}
    (shape : ∀ block ∈ written, opensWithDigit block.1 = true ∧
      ∀ entry ∈ block.2, opensWithDigit entry = false) :
    blocks (inSequence written) = written := by
  induction written with
  | nil => rfl
  | cons block rest ih =>
    obtain ⟨digit, plain⟩ := shape block List.mem_cons_self
    have later := ih fun other member => shape other (List.mem_cons_of_mem block member)
    have stop : (inSequence rest).takeWhile (!opensWithDigit ·) = [] := by
      cases rest with
      | nil => rfl
      | cons next others =>
        have opening := (shape next (by simp)).1
        simp [inSequence, opening]
    have own : (block.2 ++ inSequence rest).takeWhile (!opensWithDigit ·) = block.2 := by
      rw [List.takeWhile_append_of_pos fun entry member => by simp [plain entry member], stop,
        List.append_nil]
    rw [inSequence, List.flatMap_cons, List.cons_append, blocks, if_pos digit]
    rw [inSequence] at own later
    rw [own, blocks_append plain, later]

theorem filter_inSequence {written : List (String × List String)}
    (shape : ∀ block ∈ written, opensWithDigit block.1 = true ∧
      ∀ entry ∈ block.2, opensWithDigit entry = false) :
    (inSequence written).filter opensWithDigit = written.map (·.1) := by
  induction written with
  | nil => rfl
  | cons block rest ih =>
    obtain ⟨digit, plain⟩ := shape block List.mem_cons_self
    have later := ih fun other member => shape other (List.mem_cons_of_mem block member)
    have own : block.2.filter opensWithDigit = [] :=
      List.filter_eq_nil_iff.mpr fun entry member => by simp [plain entry member]
    rw [inSequence] at later ⊢
    rw [List.flatMap_cons, List.filter_append, later, List.filter_cons_of_pos digit, own]
    rfl

end Blocks

/-- The line of code and the findings about it, as they stand in a listing. -/
def lineBlock (entry : LineFindings) : String × List String :=
  (numberedEntry entry.line, entry.diagnostics.map (·.entry))

theorem listing_eq (findings : Findings) :
    Report.listing findings =
      inSequence (findings.lines.map lineBlock) ++ Report.wideEntries findings.wide := by
  rw [Report.listing, inSequence, List.flatMap_map]
  rfl

theorem lineBlock_shape (counted : ∀ entry ∈ findings.lines, Counted entry.line) :
    ∀ block ∈ findings.lines.map lineBlock, opensWithDigit block.1 = true ∧
      ∀ entry ∈ block.2, opensWithDigit entry = false := by
  intro block member
  obtain ⟨entry, listed, rfl⟩ := List.mem_map.mp member
  refine ⟨opensWithDigit_numberedEntry (counted entry listed), fun finding held => ?_⟩
  obtain ⟨d, -, rfl⟩ := List.mem_map.mp held
  exact opensWithDigit_of_star (head?_entry d)

/-- None of the entries before the findings about the whole program is empty. -/
theorem code_ne_empty (counted : ∀ entry ∈ findings.lines, Counted entry.line)
    (member : entry ∈ inSequence (findings.lines.map lineBlock)) : entry ≠ "" := by
  obtain ⟨block, written, held⟩ := List.mem_flatMap.mp member
  obtain ⟨about, listed, rfl⟩ := List.mem_map.mp written
  rcases List.mem_cons.mp held with rfl | finding
  · exact ne_empty_of_opensWithDigit (opensWithDigit_numberedEntry (counted about listed))
  · obtain ⟨d, -, rfl⟩ := List.mem_map.mp finding
    exact ne_empty_of_star (head?_entry d)

/-- What is written in a listing is read from it. -/
theorem read_listing (counted : ∀ entry ∈ findings.lines, Counted entry.line) :
    read (Report.listing findings) =
      ⟨findings.lines.map lineBlock, findings.wide.map (·.entryWithLine)⟩ := by
  have inside : ∀ entry ∈ inSequence (findings.lines.map lineBlock),
      decide (entry ≠ "") = true := fun entry member => by
    simpa using code_ne_empty counted member
  have found := blocks_inSequence (lineBlock_shape counted)
  rw [read, listing_eq, List.takeWhile_append_of_pos inside, List.dropWhile_append_of_pos inside]
  cases wide : findings.wide with
  | nil => simp [Report.wideEntries, found]
  | cons d rest => simp [Report.wideEntries, found]

/-- After the empty entry that sets them apart, the findings about the whole program open with a
star. -/
theorem mem_wideEntries (member : entry ∈ Report.wideEntries wide) :
    entry = "" ∨ entry.toList.head? = some '*' := by
  unfold Report.wideEntries at member
  split at member
  · cases member
  · rcases List.mem_cons.mp member with rfl | finding
    · exact .inl rfl
    · obtain ⟨d, -, rfl⟩ := List.mem_map.mp finding
      exact .inr (head?_entryWithLine d)

/-- Lines of code are the entries that open with a digit. -/
theorem filter_listing (counted : ∀ entry ∈ findings.lines, Counted entry.line) :
    (Report.listing findings).filter opensWithDigit =
      findings.lines.map (numberedEntry ·.line) := by
  have wide : (Report.wideEntries findings.wide).filter opensWithDigit = [] := by
    refine List.filter_eq_nil_iff.mpr fun entry member => ?_
    rcases mem_wideEntries member with rfl | star
    · decide
    · simp [opensWithDigit_of_star star]
  rw [listing_eq, List.filter_append, filter_inSequence (lineBlock_shape counted), wide,
    List.append_nil, List.map_map]
  rfl

/-- There is one empty entry if there are findings about the whole program, and none otherwise. -/
theorem count_empty_listing (counted : ∀ entry ∈ findings.lines, Counted entry.line) :
    (Report.listing findings).count "" = if findings.wide = [] then 0 else 1 := by
  have code : (inSequence (findings.lines.map lineBlock)).count "" = 0 :=
    List.count_eq_zero.mpr fun member => code_ne_empty counted member rfl
  have wide : (findings.wide.map (·.entryWithLine)).count "" = 0 := by
    refine List.count_eq_zero.mpr fun member => ?_
    obtain ⟨d, -, empty⟩ := List.mem_map.mp member
    exact ne_empty_of_star (head?_entryWithLine d) empty
  rw [listing_eq, List.count_append, code, Nat.zero_add, Report.wideEntries]
  by_cases none : findings.wide = []
  · simp [none]
  · simp [none, wide]

/-- The lines and what is said about each of them. -/
def annotated (findings : Findings) : List (ProgramLine × List String) :=
  findings.lines.map fun entry => (entry.line, entry.diagnostics.map (·.entry))

theorem annotated_of_blocks {first second : List LineFindings}
    (left : ∀ entry ∈ first, Counted entry.line) (right : ∀ entry ∈ second, Counted entry.line)
    (same : first.map lineBlock = second.map lineBlock) :
    first.map (fun entry => (entry.line, entry.diagnostics.map (·.entry))) =
      second.map fun entry => (entry.line, entry.diagnostics.map (·.entry)) := by
  induction first generalizing second with
  | nil =>
    rw [List.map_nil, eq_comm, List.map_eq_nil_iff] at same
    rw [same]
  | cons entry first ih =>
    obtain ⟨other, rest, rfl, equal, later⟩ := List.map_eq_cons_iff.mp same.symm
    obtain ⟨numbers, findings⟩ := Prod.mk.inj equal
    rw [List.forall_mem_cons] at left right
    have lines : entry.line = other.line :=
      numberedEntry_injective left.1 right.1 numbers.symm
    rw [List.map_cons, List.map_cons, lines, findings, ih left.2 right.2 later.symm]

/-- Equal listings list the same lines, and the same is said in them about each line and about the
whole program. -/
theorem listing_injective (first : ∀ entry ∈ findings.lines, Counted entry.line)
    (second : ∀ entry ∈ others.lines, Counted entry.line)
    (same : Report.listing findings = Report.listing others) :
    annotated findings = annotated others ∧
      findings.wide.map (·.entryWithLine) = others.wide.map (·.entryWithLine) := by
  have readings := congrArg read same
  rw [read_listing first, read_listing second, Reading.mk.injEq] at readings
  obtain ⟨lines, wide⟩ := readings
  exact ⟨annotated_of_blocks first second lines, wide⟩

theorem checkSource_counted (settings : Settings) (source file : String) :
    ∀ entry ∈ (checkSource settings source file).lines, Counted entry.line := by
  intro entry member
  obtain ⟨line, listed, rfl⟩ := List.mem_map.mp member
  exact ofSource_counted source file line listed

/-- A report cannot be forged by the program that it is about. Its lines are its entries, if what
comes from outside into its header holds no line breaks. In the listing, the entries that open with
a digit are the lines of code; each is read back with exactly what is said about it, and what is
said about the whole program stands behind the only empty entry. So sources with the same listing
have the same lines, with the same findings about each of them. -/
theorem report_read_back (settings reportSettings : Settings) (today : Date)
    (source file reportName : String) (sourceName : Option String)
    (plain : PlainHeader reportSettings today ((sourceName.filter (· ≠ "")).getD file)
      reportName) :
    let findings := checkSource settings source file
    splitLines (Report.text reportSettings today findings reportName sourceName).toList =
        (Report.header reportSettings today ((sourceName.filter (· ≠ "")).getD file) reportName ++
          Report.listing findings ++ Report.footer findings).map String.toList ∧
      (Report.listing findings).filter opensWithDigit =
        (Program.ofSource source file).lines.map numberedEntry ∧
      read (Report.listing findings) =
        ⟨findings.lines.map lineBlock, findings.wide.map (·.entryWithLine)⟩ ∧
      (Report.listing findings).count "" = (if findings.wide = [] then 0 else 1) ∧
      ∀ (otherSettings : Settings) (otherSource otherFile : String),
        let others := checkSource otherSettings otherSource otherFile
        Report.listing findings = Report.listing others →
          findings.program.lines = others.program.lines ∧
            annotated findings = annotated others ∧
            findings.wide.map (·.entryWithLine) = others.wide.map (·.entryWithLine) := by
  intro findings
  have counted := checkSource_counted settings source file
  refine ⟨splitLines_report (ofSource_oneLine source file) plain, ?_, read_listing counted,
    count_empty_listing counted, ?_⟩
  · rw [filter_listing counted]
    simp only [checkSource, Program.check, List.map_map]
    rfl
  · intro otherSettings otherSource otherFile others same
    obtain ⟨lines, wide⟩ := listing_injective counted
      (checkSource_counted otherSettings otherSource otherFile) same
    have texts := congrArg (List.map (·.1)) lines
    refine ⟨?_, lines, wide⟩
    simpa [annotated, findings, others, checkSource, Program.check, Function.comp_def] using texts

/-- A source that imitates a finding and the lines of a listing is listed as it is. -/
theorem report_read_back_imitation :
    let source := "2. END\u2028** error: no\u2028\u2028;\r\n7. BR X"
    PlainHeader {} ⟨2024, 3, 1⟩ "a.mal" "a.log" ∧
      (Report.listing (checkSource {} source "a.mal")).filter opensWithDigit =
        ["1. 2. END", "2. ** error: no", "5. 7. BR X"] := by
  intro source
  have plain : PlainHeader {} ⟨2024, 3, 1⟩ "a.mal" "a.log" :=
    ⟨by decide, by decide, by decide +kernel, by simp, by simp⟩
  obtain ⟨-, lines, -⟩ := report_read_back {} {} ⟨2024, 3, 1⟩ source "a.mal" "a.log" none plain
  exact ⟨plain, lines.trans (by decide)⟩

end MalLint.ListingReader
