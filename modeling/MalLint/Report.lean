import MalLint.DatePattern
import MalLint.Findings
import MalLint.Settings

/-! The report on a check: a header, a listing of the program with its findings, and a footer with
the totals and the verdict. A report is a list of entries; its text has one entry on each line. -/
namespace MalLint

/-- A finding as an entry of a listing. -/
def Diagnostic.entry (d : Diagnostic) : String :=
  s!"** {d.severity.name}: {d.message}"

/-- A finding as an entry that names its line, if it has one. -/
def Diagnostic.entryWithLine (d : Diagnostic) : String :=
  match d.line with
  | some line => s!"{d.entry} (line {line})"
  | none => d.entry

namespace Report

/-- The first entry. -/
def title : String :=
  "MAL Syntax Checker Results"

/-- The entry that divides the parts. -/
def rule : String :=
  "----------"

/-- Author or course, unless it is absent or empty. -/
def optionalEntry (text : Option String) : List String :=
  (text.filter (· ≠ "")).toList

/-- What is said before the program: title, names of source and report, date, author, course. -/
def header (settings : Settings) (today : Date) (sourceName reportName : String) : List String :=
  [title, sourceName, reportName, today.format settings.dateFormat] ++
    optionalEntry settings.author ++ optionalEntry settings.course ++
    [rule, "", "MAL Program Listing:", ""]

/-- A line of code, then the findings about it. -/
def lineEntries (entry : LineFindings) : List String :=
  s!"{entry.line.number}. {entry.line.text}" :: entry.diagnostics.map (·.entry)

/-- The findings about the whole program, set apart by an empty entry. -/
def wideEntries (wide : List Diagnostic) : List String :=
  if wide.isEmpty then [] else "" :: wide.map (·.entryWithLine)

/-- The program with its findings. -/
def listing (findings : Findings) : List String :=
  findings.lines.flatMap lineEntries ++ wideEntries findings.wide

/-- The words of the totals of one severity. -/
structure TotalWords where
  /-- Opens the total. -/
  total : String
  /-- Follows the count of a category. -/
  each : String
  /-- Stands in place of the total when there is nothing to count. -/
  none : String

/-- The words for each severity. -/
def totalWords : Severity → TotalWords
  | .warning => ⟨"Total Warnings = ", "warning(s)", "No Warnings!"⟩
  | .error => ⟨"Total Errors = ", "error(s)", "No Errors Found!"⟩

/-- The total of one severity, then the count of each category that was met. -/
def totals (tally : Tally) (severity : Severity) : List String :=
  let words := totalWords severity
  if tally.ofSeverity severity = 0 then
    [words.none]
  else
    s!"{words.total}{tally.ofSeverity severity}" ::
      (tally.categories (some severity)).map fun (category, count) =>
        s!"{count} {category.description} {words.each}"

/-- The identifiers, under a heading. -/
def inventory (identifiers : List String) : List String :=
  if identifiers.isEmpty then [] else "" :: "Identifiers:" :: identifiers

/-- The last entry. -/
def verdict (findings : Findings) : String :=
  "Processing Complete - MAL Program is " ++ (if findings.isValid then "valid" else "not valid")

/-- What is said after the program: lines of code, totals, identifiers, verdict. -/
def footer (findings : Findings) : List String :=
  ["", rule, "", s!"Total Lines of Code: {findings.program.lines.length}", ""] ++
    totals findings.tally .warning ++ [""] ++ totals findings.tally .error ++
    inventory findings.identifiers ++ ["", verdict findings]

/-- The entries of a report. -/
def entries (settings : Settings) (today : Date) (sourceName reportName : String)
    (findings : Findings) : List String :=
  header settings today sourceName reportName ++ listing findings ++ footer findings

/-- The text of a report. The source is named as it was when it was checked, unless another name
is given. -/
def text (settings : Settings) (today : Date) (findings : Findings) (reportName : String := "")
    (sourceName : Option String := none) : String :=
  let source := (sourceName.filter (· ≠ "")).getD findings.program.file
  "\n".intercalate (entries settings today source reportName findings) ++ "\n"

end Report

end MalLint
