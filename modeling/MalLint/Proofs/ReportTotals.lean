import MalLint.Proofs.Acceptance
import MalLint.Proofs.ListingReader

/-! The totals of a report. What a footer counts is read from its text, and it is what a reader of
the listing counts: so many findings of each severity, so many lines of code. The counts by category
come in report order and add up to the totals, and the verdict says whether an error is listed. -/
namespace MalLint.ReportTotals

open Text ListingReader Acceptance

/-- The words with which a report speaks of the findings of one severity. -/
structure Wording where
  /-- Opens the entry of a finding. -/
  finding : String
  /-- Stands before the total. -/
  total : String
  /-- Closes the count of a category. -/
  each : String
  /-- Stands where there is nothing to count. -/
  clear : String

/-- The words for each severity. -/
def wording : Severity → Wording
  | .error => ⟨"** error: ", "Total Errors = ", " error(s)", "No Errors Found!"⟩
  | .warning => ⟨"** warning: ", "Total Warnings = ", " warning(s)", "No Warnings!"⟩

/-- Whether an entry of a listing is a finding of a severity. -/
def announces (severity : Severity) (entry : String) : Bool :=
  (wording severity).finding.toList.isPrefixOf entry.toList

/-- The number that is written with some digits. -/
def number? (digits : List Char) : Option Nat :=
  if !digits.isEmpty && digits.all Char.isDigit then some (Nat.ofDigitChars 10 digits 0) else none

/-- The number that an entry gives behind some words. -/
def numberAfter? (words : String) (entry : List Char) : Option Nat :=
  (entry.dropPrefix? words.toList).bind number?

/-- The number in front of an entry and the category that the entry goes on with. -/
def counted? (each : String) (entry : List Char) : Option (Category × Nat) :=
  (number? (entry.takeWhile Char.isDigit)).bind fun count =>
    (Category.all.find? fun category =>
      entry.dropWhile Char.isDigit == ' ' :: (category.description.toList ++ each.toList)).map
        (·, count)

/-- What an entry of a footer counts. -/
inductive Item where
  | lines (count : Nat)
  | total (severity : Severity) (count : Nat)
  | each (severity : Severity) (category : Category) (count : Nat)
  /-- There is nothing of this severity. -/
  | clear (severity : Severity)
  deriving DecidableEq, Repr

/-- What an entry counts of one severity. -/
def severityItem? (severity : Severity) (entry : List Char) : Option Item :=
  if entry == (wording severity).clear.toList then some (.clear severity)
  else
    ((numberAfter? (wording severity).total entry).map (.total severity)).or
      ((counted? (wording severity).each entry).map fun (category, count) =>
        .each severity category count)

/-- Reads an entry of a footer. -/
def item? (entry : String) : Option Item :=
  ((numberAfter? "Total Lines of Code: " entry.toList).map .lines).or
    ((severityItem? .warning entry.toList).or (severityItem? .error entry.toList))

section Numbers

theorem number?_toDigits (n : Nat) : number? (Nat.toDigits 10 n) = some n := by
  have digits : (Nat.toDigits 10 n).all Char.isDigit = true := by
    rw [List.all_eq_true]
    intro c member
    exact isDigit_of_mem_toDigits member
  simp [number?, digits]

theorem toList_nat (n : Nat) : (toString n).toList = Nat.toDigits 10 n := by
  rw [Nat.toString_eq_repr, Nat.toList_repr]

/-- An entry that does not open with a digit has no number in front. -/
theorem counted?_of_plain (each : String) (plain : entry.head?.any Char.isDigit = false) :
    counted? each entry = none := by
  have digits : entry.takeWhile Char.isDigit = [] := by
    cases entry with
    | nil => rfl
    | cons c rest => exact List.takeWhile_cons_of_neg (by simpa using plain)
  rw [counted?, digits]
  rfl

/-- Behind its words a number is read back. -/
theorem numberAfter?_self (words : String) (n : Nat) :
    numberAfter? words (words.toList ++ Nat.toDigits 10 n) = some n := by
  rw [numberAfter?, List.dropPrefix?_append_of_beq _ (beq_self_eq_true words.toList)]
  exact number?_toDigits n

theorem item?_lines (n : Nat) :
    item? ("Total Lines of Code: " ++ toString n) = some (.lines n) := by
  rw [item?, String.toList_append, toList_nat, numberAfter?_self]
  rfl

theorem severityItem?_total (severity other : Severity) (n : Nat) :
    severityItem? other ((wording severity).total.toList ++ Nat.toDigits 10 n) =
      if other = severity then some (.total severity n) else none := by
  have plain : ((wording severity).total.toList ++ Nat.toDigits 10 n).head?.any Char.isDigit =
      false := by
    cases severity <;> rfl
  have unclear : ((wording severity).total.toList ++ Nat.toDigits 10 n ==
      (wording other).clear.toList) = false := by
    cases severity <;> cases other <;> rfl
  rw [severityItem?, unclear, counted?_of_plain _ plain]
  by_cases same : other = severity
  · rw [same, numberAfter?_self]
    simp
  · have missed : numberAfter? (wording other).total
        ((wording severity).total.toList ++ Nat.toDigits 10 n) = none := by
      cases severity <;> cases other <;> first | contradiction | rfl
    simp [missed, same]

theorem item?_total (severity : Severity) (n : Nat) :
    item? ((wording severity).total ++ toString n) = some (.total severity n) := by
  have lines : numberAfter? "Total Lines of Code: "
      ((wording severity).total.toList ++ Nat.toDigits 10 n) = none := by
    cases severity <;> rfl
  rw [item?, String.toList_append, toList_nat, lines, severityItem?_total, severityItem?_total]
  cases severity <;> rfl

end Numbers

section Counts

/-- The count of a category as it stands in a footer. -/
def countEntry (severity : Severity) (category : Category) (count : Nat) : List Char :=
  Nat.toDigits 10 count ++ ' ' :: (category.description.toList ++ (wording severity).each.toList)

/-- The words of a count tell category and severity. -/
theorem countWords_injective {a b : Category} {first second : Severity}
    (same : a.description.toList ++ (wording first).each.toList =
      b.description.toList ++ (wording second).each.toList) : a = b ∧ first = second := by
  have both (severity : Severity) : severity ∈ [Severity.error, .warning] := by
    cases severity <;> decide
  have table : ∀ a ∈ Category.all, ∀ b ∈ Category.all,
      ∀ first ∈ [Severity.error, .warning], ∀ second ∈ [Severity.error, .warning],
        a.description.toList ++ (wording first).each.toList =
          b.description.toList ++ (wording second).each.toList → a = b ∧ first = second := by
    decide +kernel
  exact table a a.mem_all b b.mem_all first (both first) second (both second) same

theorem counted?_countEntry (severity other : Severity) (category : Category) (n : Nat) :
    counted? (wording other).each (countEntry severity category n) =
      if other = severity then some (category, n) else none := by
  have digits : ∀ c ∈ Nat.toDigits 10 n, Char.isDigit c = true :=
    fun c member => isDigit_of_mem_toDigits member
  have front : (countEntry severity category n).takeWhile Char.isDigit = Nat.toDigits 10 n := by
    rw [countEntry, List.takeWhile_append_of_pos digits]
    exact List.append_nil _
  have back : (countEntry severity category n).dropWhile Char.isDigit =
      ' ' :: (category.description.toList ++ (wording severity).each.toList) := by
    rw [countEntry, List.dropWhile_append_of_pos digits]
    rfl
  have named (c : Category) : (' ' :: (category.description.toList ++
      (wording severity).each.toList) == ' ' :: (c.description.toList ++
        (wording other).each.toList)) = decide (c = category ∧ other = severity) := by
    rw [Bool.eq_iff_iff, beq_iff_eq, decide_eq_true_iff, List.cons_inj_right]
    constructor
    · intro same
      exact countWords_injective same.symm
    · rintro ⟨rfl, rfl⟩
      rfl
  rw [counted?, front, back, number?_toDigits]
  simp only [named, Option.bind_some]
  by_cases same : other = severity
  · cases category <;> simp [same, Category.all]
  · simp [same]

theorem countEntry_opens (severity : Severity) (category : Category) (n : Nat) :
    (countEntry severity category n).head?.any Char.isDigit = true := by
  obtain ⟨digit, rest, digits⟩ := List.exists_cons_of_ne_nil (@Nat.toDigits_ne_nil n 10)
  rw [countEntry, digits]
  exact isDigit_of_mem_toDigits (digits ▸ List.mem_cons_self)

/-- Words are not found at the start of an entry that opens with a digit, if they do not. -/
theorem dropPrefix?_of_digit {entry words : List Char} (digit : entry.head?.any Char.isDigit = true)
    (plain : words.head?.any Char.isDigit = false) (nonempty : words ≠ []) :
    entry.dropPrefix? words = none := by
  cases entry with
  | nil => cases digit
  | cons c rest =>
    cases words with
    | nil => exact absurd rfl nonempty
    | cons d others =>
      have apart : c ≠ d := by
        rintro rfl
        cases digit.symm.trans plain
      simp [List.dropPrefix?, apart]

theorem severityItem?_countEntry (severity other : Severity) (category : Category) (n : Nat) :
    severityItem? other (countEntry severity category n) =
      if other = severity then some (.each severity category n) else none := by
  have digit := countEntry_opens severity category n
  have total :
      (countEntry severity category n).dropPrefix? (wording other).total.toList = none := by
    apply dropPrefix?_of_digit digit
    · cases other <;> rfl
    · cases other <;> decide
  have unclear : (countEntry severity category n == (wording other).clear.toList) = false := by
    rw [beq_eq_false_iff_ne]
    intro same
    rw [same] at digit
    cases other <;> cases digit
  rw [severityItem?, unclear, numberAfter?, total, counted?_countEntry]
  by_cases same : other = severity
  · simp [same]
  · simp [same]

theorem item?_each (severity : Severity) (category : Category) (n : Nat)
    (spelled : entry.toList = countEntry severity category n) :
    item? entry = some (.each severity category n) := by
  have lines : (countEntry severity category n).dropPrefix? "Total Lines of Code: ".toList = none :=
    dropPrefix?_of_digit (countEntry_opens severity category n) rfl (by decide)
  rw [item?, spelled, numberAfter?, lines, severityItem?_countEntry, severityItem?_countEntry]
  cases severity <;> rfl

end Counts

section Names

/-- Words are not found at the start of an entry that is shorter. -/
theorem dropPrefix?_of_short {entry words : List Char} (short : entry.length < words.length) :
    entry.dropPrefix? words = none := by
  cases found : entry.dropPrefix? words with
  | none => rfl
  | some rest =>
    obtain ⟨front, shape, same⟩ := List.dropPrefix?_eq_some_iff.mp found
    rw [shape, eq_of_beq same, List.length_append] at short
    omega

theorem severityItem?_name (severity : Severity) (name : IsName entry) :
    severityItem? severity entry = none := by
  obtain ⟨-, short, letters⟩ := name
  have plain : entry.head?.any Char.isDigit = false := by
    cases entry with
    | nil => rfl
    | cons c rest => exact LineRules.isDigit_of_isLetter (letters c List.mem_cons_self)
  have long : 5 < (wording severity).total.toList.length ∧
      5 < (wording severity).clear.toList.length := by
    cases severity <;> decide
  have total : entry.dropPrefix? (wording severity).total.toList = none :=
    dropPrefix?_of_short (by omega)
  have unclear : (entry == (wording severity).clear.toList) = false := by
    rw [beq_eq_false_iff_ne]
    rintro rfl
    omega
  rw [severityItem?, unclear, numberAfter?, total, counted?_of_plain _ plain]
  rfl

/-- A name counts nothing. -/
theorem item?_name (name : IsName entry.toList) : item? entry = none := by
  have long : 5 < "Total Lines of Code: ".toList.length := by decide
  have lines : entry.toList.dropPrefix? "Total Lines of Code: ".toList = none := by
    apply dropPrefix?_of_short
    have short := name.2.1
    omega
  rw [item?, numberAfter?, lines, severityItem?_name .warning name, severityItem?_name .error name]
  rfl

end Names

section Footer

/-- What a footer says of one severity: the total and the counts that make it up, or that there is
nothing to count. -/
def stated (severity : Severity) (total : Nat) (counts : List (Category × Nat)) : List Item :=
  if total = 0 then [.clear severity]
  else .total severity total :: counts.map fun (category, count) => .each severity category count

theorem item?_count (severity : Severity) (category : Category) (n : Nat) :
    item? s!"{n} {category.description} {(Report.totalWords severity).each}" =
      some (.each severity category n) := by
  have closing : ' ' :: (Report.totalWords severity).each.toList =
      (wording severity).each.toList := by
    cases severity <;> rfl
  apply item?_each
  show (toString n ++ " " ++ category.description ++ " " ++
    (Report.totalWords severity).each).toList = countEntry severity category n
  simp only [String.toList_append, toList_nat, countEntry, ← closing, List.append_assoc]
  rfl

theorem item?_clear (severity : Severity) :
    item? (Report.totalWords severity).none = some (.clear severity) := by
  cases severity <;> decide

/-- What is said of one severity is read back. -/
theorem totals_items (tally : Tally) (severity : Severity) :
    (Report.totals tally severity).filterMap item? =
      stated severity (tally.ofSeverity severity) (tally.categories (some severity)) := by
  have opening : (Report.totalWords severity).total = (wording severity).total := by
    cases severity <;> rfl
  have total : item? s!"{(Report.totalWords severity).total}{tally.ofSeverity severity}" =
      some (.total severity (tally.ofSeverity severity)) := by
    rw [opening]
    exact item?_total severity (tally.ofSeverity severity)
  by_cases nothing : tally.ofSeverity severity = 0
  · simp [Report.totals, stated, nothing, item?_clear]
  · simp only [Report.totals, stated, nothing, ↓reduceIte, List.filterMap_cons_some total,
      List.filterMap_map]
    congr 1
    rw [← List.filterMap_eq_map]
    apply List.filterMap_congr
    rintro ⟨category, count⟩ -
    simp only [Function.comp_apply, item?_count]

/-- The heading and the names count nothing. -/
theorem inventory_items (names : ∀ name ∈ identifiers, IsName name.toList) :
    (Report.inventory identifiers).filterMap item? = [] := by
  rw [List.filterMap_eq_nil_iff]
  intro entry member
  unfold Report.inventory at member
  split at member
  · cases member
  · rcases List.mem_cons.mp member with rfl | member
    · decide
    · rcases List.mem_cons.mp member with rfl | member
      · decide
      · exact item?_name (names entry member)

theorem footer_items (names : ∀ name ∈ findings.identifiers, IsName name.toList) :
    (Report.footer findings).filterMap item? =
      .lines findings.program.lines.length ::
        (stated .warning (findings.tally.ofSeverity .warning)
            (findings.tally.categories (some .warning)) ++
          stated .error (findings.tally.ofSeverity .error)
            (findings.tally.categories (some .error))) := by
  have empty : item? "" = none := by decide
  have opening : (["", Report.rule, "",
      s!"Total Lines of Code: {findings.program.lines.length}", ""]).filterMap item? =
        [.lines findings.program.lines.length] := by
    have rule : item? Report.rule = none := by decide
    have lines : item? s!"Total Lines of Code: {findings.program.lines.length}" =
        some (.lines findings.program.lines.length) := item?_lines findings.program.lines.length
    rw [List.filterMap_cons_none empty, List.filterMap_cons_none rule,
      List.filterMap_cons_none empty, List.filterMap_cons_some lines,
      List.filterMap_cons_none empty]
    rfl
  have closing : ["", Report.verdict findings].filterMap item? = [] := by
    have verdict : item? (Report.verdict findings) = none := by
      unfold Report.verdict
      split <;> decide
    rw [List.filterMap_cons_none empty, List.filterMap_cons_none verdict]
    rfl
  have gap : [""].filterMap item? = [] := List.filterMap_cons_none empty
  simp only [Report.footer, List.filterMap_append, opening, totals_items, gap,
    inventory_items names, closing, List.append_nil]
  rfl

end Footer

section Listing

theorem announces_opening (severity own : Severity) (rest : String) :
    announces severity ("** " ++ own.name ++ ": " ++ rest) = decide (own = severity) := by
  rw [announces, String.toList_append]
  cases severity <;> cases own <;> rfl

theorem announces_entry (severity : Severity) (d : Diagnostic) :
    announces severity d.entry = decide (d.severity = severity) :=
  announces_opening severity d.severity d.message

theorem announces_entryWithLine (severity : Severity) (d : Diagnostic) :
    announces severity d.entryWithLine = decide (d.severity = severity) := by
  unfold Diagnostic.entryWithLine
  split
  · rename_i line _
    show announces severity ("** " ++ d.severity.name ++ ": " ++ d.message ++ " (line " ++
      toString line ++ ")") = _
    rw [String.append_assoc, String.append_assoc, String.append_assoc]
    exact announces_opening severity d.severity _
  · exact announces_entry severity d

/-- A line of code is no finding. -/
theorem announces_of_opensWithDigit (severity : Severity) (digit : opensWithDigit entry = true) :
    announces severity entry = false := by
  cases announced : announces severity entry with
  | false => rfl
  | true =>
    obtain ⟨rest, shape⟩ := List.isPrefixOf_iff_prefix.mp announced
    rw [opensWithDigit, ← shape] at digit
    cases severity <;> cases digit

/-- Findings are counted in their entries, whichever form these take. -/
theorem countP_entries (severity : Severity) {entry : Diagnostic → String}
    (announced : ∀ d, announces severity (entry d) = decide (d.severity = severity))
    (diagnostics : List Diagnostic) :
    (diagnostics.map entry).countP (announces severity) =
      diagnostics.countP (·.severity = severity) := by
  rw [List.countP_map]
  refine List.countP_congr fun d _ => ?_
  rw [Function.comp_apply, announced]

theorem countP_code (severity : Severity) {lines : List LineFindings}
    (counted : ∀ about ∈ lines, Counted about.line) :
    (lines.flatMap Report.lineEntries).countP (announces severity) =
      (lines.flatMap (·.diagnostics)).countP (·.severity = severity) := by
  induction lines with
  | nil => rfl
  | cons about lines ih =>
    obtain ⟨first, later⟩ := List.forall_mem_cons.mp counted
    have code : ¬announces severity (numberedEntry about.line) = true := by
      rw [announces_of_opensWithDigit severity (opensWithDigit_numberedEntry first)]
      decide
    have own : (Report.lineEntries about).countP (announces severity) =
        about.diagnostics.countP (·.severity = severity) :=
      (List.countP_cons_of_neg code).trans
        (countP_entries severity (announces_entry severity) about.diagnostics)
    rw [List.flatMap_cons, List.flatMap_cons, List.countP_append, List.countP_append, own, ih later]

/-- A listing shows each finding once. -/
theorem countP_listing (severity : Severity)
    (counted : ∀ about ∈ findings.lines, Counted about.line) :
    (Report.listing findings).countP (announces severity) =
      findings.diagnostics.countP (·.severity = severity) := by
  have apart : ¬announces severity "" = true := by
    cases severity <;> decide
  have wide : (Report.wideEntries findings.wide).countP (announces severity) =
      findings.wide.countP (·.severity = severity) := by
    rw [← countP_entries severity (announces_entryWithLine severity) findings.wide,
      Report.wideEntries]
    by_cases none : findings.wide = []
    · simp [none]
    · simp [none, List.countP_cons_of_neg apart]
  rw [Report.listing, Findings.diagnostics, List.countP_append, List.countP_append,
    countP_code severity counted, wide]

end Listing

section Itemization

/-- Counts that make up the total of a severity: each of another category of it, in report order,
none of them zero. -/
structure Itemizes (severity : Severity) (total : Nat) (counts : List (Category × Nat)) :
    Prop where
  ordered : counts.Pairwise fun a b => a.1.index < b.1.index
  graded : ∀ entry ∈ counts, entry.1.severity = severity
  positive : ∀ entry ∈ counts, 0 < entry.2
  sum : counts.foldr (fun entry sum => entry.2 + sum) 0 = total

theorem met_cases {tally : Tally} {category : Category} {entry : Category × Nat}
    (kept : (if tally.count category = 0 then none
      else some (category, tally.count category)) = some entry) :
    entry.1 = category ∧ 0 < entry.2 := by
  obtain ⟨met, same⟩ := Option.ite_none_left_eq_some.mp kept
  rw [← Option.some.inj same]
  exact ⟨rfl, Nat.pos_of_ne_zero met⟩

theorem mem_categories (member : entry ∈ Tally.categories tally (some severity)) :
    entry.1.severity = severity ∧ 0 < entry.2 := by
  obtain ⟨category, listed, kept⟩ := List.mem_filterMap.mp member
  obtain ⟨rfl, positive⟩ := met_cases kept
  have graded := (List.mem_filter.mp listed).2
  exact ⟨by simpa using graded, positive⟩

theorem sum_met (tally : Tally) (categories : List Category) :
    (categories.filterMap fun c =>
        if tally.count c = 0 then none else some (c, tally.count c)).foldr
      (fun entry sum => entry.2 + sum) 0 = tally.among categories := by
  induction categories with
  | nil => rfl
  | cons category rest ih =>
    rw [Tally.among, List.foldr_cons, ← Tally.among, ← ih]
    by_cases met : tally.count category = 0
    · simp [met]
    · simp [met]

theorem categories_ordered (tally : Tally) (severity : Option Severity) :
    (tally.categories severity).Pairwise fun a b => a.1.index < b.1.index := by
  have all : Category.all.Pairwise fun a b => a.index < b.index := by decide
  refine List.Pairwise.filterMap _ ?_ (all.filter _)
  intro a b before x kept y keptToo
  rw [(met_cases kept).1, (met_cases keptToo).1]
  exact before

/-- The categories that were met itemize what was counted of their severity. -/
theorem categories_itemize (tally : Tally) (severity : Severity) :
    Itemizes severity (tally.ofSeverity severity) (tally.categories (some severity)) where
  ordered := categories_ordered tally (some severity)
  graded _ member := (mem_categories member).1
  positive _ member := (mem_categories member).2
  sum := sum_met tally (Category.all.filter fun c => (some severity).all (c.severity = ·))

end Itemization

section Verdict

theorem getLast?_footer (findings : Findings) :
    (Report.footer findings).getLast? = some (Report.verdict findings) := by
  rw [Report.footer, List.getLast?_append]
  rfl

/-- A program is called valid if no error is listed. -/
theorem verdict_eq (counted : ∀ about ∈ findings.lines, Counted about.line) :
    Report.verdict findings = "Processing Complete - MAL Program is " ++
      if (Report.listing findings).countP (announces .error) = 0 then "valid" else "not valid" := by
  have valid : findings.isValid = true ↔
      (Report.listing findings).countP (announces .error) = 0 := by
    rw [countP_listing .error counted, List.countP_eq_zero]
    simp [Findings.isValid, Diagnostic.isError]
  unfold Report.verdict
  by_cases none : (Report.listing findings).countP (announces .error) = 0
  · rw [if_pos (valid.mpr none), if_pos none]
  · rw [if_neg (mt valid.mp none), if_neg none]

end Verdict

/-- Whatever a check finds, each identifier that it lists is a name. -/
theorem isName_of_mem_identifiers (member : name ∈ (Program.check settings program).identifiers) :
    IsName name.toList := by
  simp only [Program.check, distinctWords_eq_distinctBy] at member
  obtain ⟨line, listed, inside⟩ := List.mem_flatMap.mp (mem_of_mem_distinctBy member)
  obtain ⟨⟨text, index⟩, kept, rfl⟩ := List.mem_map.mp inside
  have named := (List.mem_filter.mp kept).2
  rw [Bool.and_eq_true] at named
  rw [← isIdentifier_iff, String.ofList_toList]
  exact named.2

/-- The totals of a report agree with its listing. What a reader finds counted in the footer is the
number of lines of code in the listing, then for warnings and for errors the number of findings that
the listing announces, made up of the counts by category, or the words for none. The last entry
calls the program valid exactly if the listing announces no error. -/
theorem totals_agree_with_listing (settings : Settings) (source file : String) :
    let findings := checkSource settings source file
    let listed (severity : Severity) := (Report.listing findings).countP (announces severity)
    ∃ counts : Severity → List (Category × Nat),
      (Report.footer findings).filterMap item? =
          .lines ((Report.listing findings).countP opensWithDigit) ::
            (stated .warning (listed .warning) (counts .warning) ++
              stated .error (listed .error) (counts .error)) ∧
        (∀ severity, Itemizes severity (listed severity) (counts severity)) ∧
        (Report.listing findings).filter opensWithDigit =
          (Program.ofSource source file).lines.map numberedEntry ∧
        (Report.footer findings).getLast? =
          some ("Processing Complete - MAL Program is " ++
            if listed .error = 0 then "valid" else "not valid") := by
  intro findings listed
  have counted := checkSource_counted settings source file
  have listing (severity : Severity) : listed severity = findings.tally.ofSeverity severity :=
    (countP_listing severity counted).trans (Tally.ofSeverity_ofList _ severity).symm
  have code : (Report.listing findings).filter opensWithDigit =
      (Program.ofSource source file).lines.map numberedEntry := by
    rw [filter_listing counted]
    simp only [checkSource, Program.check, List.map_map]
    rfl
  have names : ∀ name ∈ findings.identifiers, IsName name.toList :=
    fun name member => isName_of_mem_identifiers member
  refine ⟨fun severity => findings.tally.categories (some severity), ?_, ?_, code, ?_⟩
  · rw [footer_items names, listing, listing, List.countP_eq_length_filter, code, List.length_map]
    rfl
  · intro severity
    rw [listing]
    exact categories_itemize findings.tally severity
  · rw [getLast?_footer, verdict_eq counted]

/-- A footer with totals of both severities, read. -/
example : (Report.footer (checkSource {} "A: MOVE R1, R8\nADD" "a.mal")).filterMap item? =
    [.lines 2, .total .warning 2, .each .warning .unreferencedLabel 1, .each .warning .endMissing 1,
      .total .error 3, .each .error .illFormedOperand 1, .each .error .invalidOperandType 1,
      .each .error .tooFewOperands 1] := by
  decide +kernel

end MalLint.ReportTotals
