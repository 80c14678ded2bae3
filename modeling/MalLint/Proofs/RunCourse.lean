import MalLint.Proofs.SourceLookup
import MalLint.Run

/-! The course of a run. What a run can come to is said once: it stops at the first step that fails,
and then leaves the files alone, or it delivers the report and ends with the verdict. -/
namespace MalLint.RunCourse

open PathNames FileAccess SourceLookup

/-- The settings of a run: those of the environment, with what the request asks for on top. -/
def settled (environment : Environment) (request : Request) : Settings :=
  { environment.settings with
    endDuplicates := request.endDuplicates.getD environment.settings.endDuplicates
    author := request.author.or environment.settings.author
    course := request.course.or environment.settings.course }

/-- The request leads to a source and to the findings about it. -/
structure Reached (environment : Environment) (tree : FileTree) (request : Request) (source : Path)
    (findings : Findings) : Prop where
  chosen : tree.resolveSource (Path.ofString request.source)
    (settled environment request).sourceSuffix = .ok source
  checked : tree.checkFile (settled environment request) source = .ok findings

/-- Where the report on a source goes: to the path that is asked for, or beside the source, under its
name with the suffix of reports. -/
def reportFile (request : Request) (source : Path) : Path :=
  request.output.elim (beside source (resuffixed source.name ".log")) Path.ofString

/-- The status that the findings alone ask for. -/
def verdictStatus (findings : Findings) : ExitStatus :=
  if findings.isValid then .success else .checkFailed

/-- How a run with findings can end. -/
inductive Finish (environment : Environment) (today : Date) (tree : FileTree) (request : Request)
    (source : Path) (findings : Findings) (outcome : Outcome) : Prop where
  /-- The report is printed. -/
  | printed (toStdout : request.toStdout = true) (status : outcome.status = verdictStatus findings)
      (out : outcome.out = Text.ControlSequence.strip
        (Report.text (settled environment request) today findings "<stdout>"))
      (files : outcome.tree = tree)
  /-- The report cannot be written. -/
  | unwritten (toFile : request.toStdout = false)
      (failed : Report.write (settled environment request) today findings
        (reportFile request source) tree = .error f)
      (status : outcome.status = f.status) (files : outcome.tree = tree)
  /-- The report is written. -/
  | written (toFile : request.toStdout = false)
      (saved : Report.write (settled environment request) today findings
        (reportFile request source) tree = .ok outcome.tree)
      (status : outcome.status = verdictStatus findings)

/-- What a run that checks a source can come to. -/
inductive Course (environment : Environment) (today : Date) (tree : FileTree) (request : Request)
    (outcome : Outcome) : Prop where
  /-- There is no such source. -/
  | unresolved
      (failed : tree.resolveSource (Path.ofString request.source)
        (settled environment request).sourceSuffix = .error f)
      (status : outcome.status = f.status) (files : outcome.tree = tree)
  /-- The source cannot be read. -/
  | unread
      (chosen : tree.resolveSource (Path.ofString request.source)
        (settled environment request).sourceSuffix = .ok source)
      (failed : tree.checkFile (settled environment request) source = .error f)
      (status : outcome.status = f.status) (files : outcome.tree = tree)
  /-- There are findings to report. -/
  | finished (reached : Reached environment tree request source findings)
      (finish : Finish environment today tree request source findings outcome)

variable {environment : Environment} {tree after : FileTree} {request : Request}
  {source path : Path}

/-- The suffix that a source may lack stays within its name. -/
theorem slash_not_mem_sourceSuffix (environment : Environment) (request : Request) :
    '/' ∉ (settled environment request).sourceSuffix.toList := by
  show '/' ∉ ".mal".toList
  decide

/-- The source of a run is a file with a proper name. -/
theorem source_file
    (chosen : tree.resolveSource (Path.ofString request.source)
      (settled environment request).sourceSuffix = .ok source) :
    Proper source ∧ source.name ≠ "" ∧ tree.isFile source.render = .ok true :=
  (resolveSource_cases (ofString_proper _) (slash_not_mem_sourceSuffix environment request)
    chosen).2

/-- The default path of a report, whose suffix neither environment nor arguments can change. -/
theorem defaultPath_settled (environment : Environment) (request : Request)
    (named : source.name ≠ "") :
    Report.defaultPath (settled environment request) source =
      .ok (beside source (resuffixed source.name ".log")) := by
  have valid : Path.isSuffix ".log".toList = true := by decide
  exact withSuffix_eq source valid named

/-- The report on a source always has a path to go to. -/
theorem reportPath_settled (environment : Environment) (request : Request)
    (named : source.name ≠ "") :
    Run.reportPath (settled environment request) request source =
      .ok (reportFile request source) := by
  cases own : request.output with
  | none =>
    simp only [Run.reportPath, reportFile, own, defaultPath_settled environment request named]
    rfl
  | some text => simp only [Run.reportPath, reportFile, own, Option.elim_some]

/-- To write a report is to write the bytes of its text. -/
theorem write_of_report (saved : Report.write settings today findings path tree = .ok after) :
    tree.write path.render
      (Text.Utf8.encode (Report.textFor settings today findings path).toList) = .ok after := by
  simp only [Report.write] at saved
  split at saved
  · rename_i written
    rw [written, Except.ok.inj saved]
  · cases saved
  · cases saved

/-- Neither the environment nor the arguments can ask for settings that are refused. -/
theorem override_settled (environment : Environment) (request : Request) :
    environment.settings.override (Run.overrides request) = .ok (settled environment request) := by
  have letters : environment.settings.alphabet ≠ "" := environment.settings.alphabet_ne
  unfold Settings.override Run.overrides
  simp only [Option.getD_none, letters, ↓reduceDIte]
  cases policy : request.endDuplicates <;> simp [settled, policy]

theorem check_finish (today : Date)
    (reached : Reached environment tree request source findings) :
    Finish environment today tree request source findings
      (Run.check environment today tree request) := by
  have placed := reportPath_settled environment request (source_file reached.chosen).2.1
  obtain ⟨chosen, checked⟩ := reached
  cases asked : request.toStdout with
  | true =>
    refine .printed asked ?_ ?_ ?_ <;>
      simp [Run.check, override_settled, chosen, checked, Run.deliver, asked, verdictStatus]
  | false =>
    cases saved : Report.write (settled environment request) today findings
        (reportFile request source) tree with
    | error f =>
      refine .unwritten asked saved ?_ ?_ <;>
        simp [Run.check, override_settled, chosen, checked, Run.deliver, asked, placed, saved,
          Run.failed]
    | ok after =>
      refine .written asked ?_ ?_ <;>
        simp [Run.check, override_settled, chosen, checked, Run.deliver, asked, placed, saved,
          verdictStatus]

theorem check_course (environment : Environment) (today : Date) (tree : FileTree)
    (request : Request) :
    Course environment today tree request (Run.check environment today tree request) := by
  cases chosen : tree.resolveSource (Path.ofString request.source)
      (settled environment request).sourceSuffix with
  | error f =>
    refine .unresolved chosen ?_ ?_ <;> simp [Run.check, override_settled, chosen, Run.failed]
  | ok source =>
    cases checked : tree.checkFile (settled environment request) source with
    | error f =>
      refine .unread chosen checked ?_ ?_ <;>
        simp [Run.check, override_settled, chosen, checked, Run.failed]
    | ok findings => exact .finished ⟨chosen, checked⟩ (check_finish today ⟨chosen, checked⟩)

variable {arguments : List String}

theorem run_finish (today : Date)
    (asked : Command.ofArguments tree arguments = .ok (.check request))
    (reached : Reached environment tree request source findings) :
    Finish environment today tree request source findings
      (run environment today tree arguments) := by
  simp only [run, asked]
  exact check_finish today reached

theorem run_course (environment : Environment) (today : Date)
    (asked : Command.ofArguments tree arguments = .ok (.check request)) :
    Course environment today tree request (run environment today tree arguments) := by
  simp only [run, asked]
  exact check_course environment today tree request

end MalLint.RunCourse
