import MalLint.Proofs.RunCourse

/-! What becomes of the source. A run that is not told where the report goes writes it beside the
source, under the name of the source with the suffix of reports. That is another file, unless the
source has this suffix already: then the report takes its place. Trees have no links, by which
another name could lead to the source. -/
namespace MalLint.SourceSafety

open PathNames FileAccess SourceLookup RunCourse

variable {tree : FileTree} {arguments : List String} {environment : Environment}
  {request : Request} {source : Path}

theorem beside_resuffixed_eq_self_iff (named : source.name ≠ "") :
    beside source (resuffixed source.name ".log") = source ↔ source.suffix = ".log" := by
  rw [Path.suffix, ← resuffixed_eq_self_iff]
  constructor
  · intro same
    simpa using congrArg Path.name same
  · intro same
    rw [same, beside_name named]

/-- A report that is written under another name than that of the source leaves the source alone. -/
theorem read_source_of_written (proper : Proper source) (named : source.name ≠ "")
    (file : tree.isFile source.render = .ok true) (other : source.suffix ≠ ".log")
    (saved : Report.write settings today findings
      (beside source (resuffixed source.name ".log")) tree = .ok after) :
    after.read source.render = tree.read source.render := by
  have name : ProperName (resuffixed source.name ".log") :=
    (name_proper proper named).resuffixed (by decide) (by decide)
  have apart : source.name ≠ resuffixed source.name ".log" := by
    intro same
    refine other ((beside_resuffixed_eq_self_iff named).mp ?_)
    rw [← same, beside_name named]
  obtain ⟨place, bytes, found, -⟩ := isFile_iff.mp file
  exact read_write_beside proper named name apart found (write_of_report saved)

/-- Nothing stands in the way of a report that goes to the source itself. -/
theorem write_report_over (proper : Proper source) (named : source.name ≠ "")
    (file : tree.isFile source.render = .ok true) (log : source.suffix = ".log")
    (settings : Settings) (today : Date) (findings : Findings) :
    ∃ after, Report.write settings today findings source tree = .ok after := by
  have notUp : source.name ≠ ".." := by
    intro up
    rw [Path.suffix, up] at log
    exact absurd log (by decide)
  obtain ⟨place, bytes, found, held⟩ := isFile_iff.mp file
  simp only [Report.write, write_over proper named notUp found held, Except.ok.injEq,
    exists_eq']

section Default

/-! Runs that are not told where the report goes. -/

variable (asked : Command.ofArguments tree arguments = .ok (.check request))
  (own : request.output = none)
  (chosen : tree.resolveSource (Path.ofString request.source)
    (settled environment request).sourceSuffix = .ok source)

include asked own chosen

/-- Unless the report is written under the name of the source, the source is left alone. -/
theorem run_spares_source (today : Date)
    (spared : source.suffix ≠ ".log" ∨ request.toStdout = true ∨
      ∃ f, tree.checkFile (settled environment request) source = .error f) :
    (run environment today tree arguments).tree.read source.render = tree.read source.render := by
  obtain ⟨proper, named, file⟩ := source_file chosen
  have placed : reportFile request source = beside source (resuffixed source.name ".log") := by
    rw [reportFile, own, Option.elim_none]
  cases run_course environment today asked with
  | unresolved _ _ files => rw [files]
  | unread _ _ _ files => rw [files]
  | finished reached finish =>
    obtain rfl := Except.ok.inj (chosen.symm.trans reached.chosen)
    cases finish with
    | printed _ _ _ files => rw [files]
    | unwritten _ _ _ files => rw [files]
    | written toFile saved _ =>
      have other : source.suffix ≠ ".log" := by
        simpa [toFile, reached.checked] using spared
      exact read_source_of_written proper named file other (placed ▸ saved)

/-- A source with the suffix of reports makes way for the report. -/
theorem run_replaces_source (today : Date) (log : source.suffix = ".log")
    (toFile : request.toStdout = false)
    (checked : tree.checkFile (settled environment request) source = .ok findings) :
    (run environment today tree arguments).tree.read source.render =
      .ok (Text.Utf8.encode
        (Report.textFor (settled environment request) today findings source).toList) := by
  obtain ⟨proper, named, file⟩ := source_file chosen
  have placed : reportFile request source = source := by
    rw [reportFile, own, Option.elim_none, (beside_resuffixed_eq_self_iff named).mpr log]
  obtain ⟨after, saved⟩ := write_report_over proper named file log
    (settled environment request) today findings
  cases run_finish today asked ⟨chosen, checked⟩ with
  | printed toStdout _ _ _ => cases toFile.symm.trans toStdout
  | unwritten _ failed _ _ =>
    rw [placed] at failed
    cases saved.symm.trans failed
  | written _ written _ =>
    rw [placed] at written
    exact read_write (write_of_report written)

end Default

/-- What becomes of the source of a run without `--output`. The default path of the report is the
source itself exactly if the source has the suffix of reports. A source with another suffix holds
after the run what it held before, and so does every source whose report is printed or that cannot
be checked; a source with the suffix of reports is replaced by the report. -/
theorem source_survives_unless_log (today : Date)
    (asked : Command.ofArguments tree arguments = .ok (.check request))
    (own : request.output = none)
    (chosen : tree.resolveSource (Path.ofString request.source)
      (settled environment request).sourceSuffix = .ok source) :
    (Report.defaultPath (settled environment request) source = .ok source ↔
      source.suffix = ".log") ∧
    ((source.suffix ≠ ".log" ∨ request.toStdout = true ∨
        ∃ f, tree.checkFile (settled environment request) source = .error f) →
      (run environment today tree arguments).tree.read source.render =
        tree.read source.render) ∧
    ∀ findings, source.suffix = ".log" → request.toStdout = false →
      tree.checkFile (settled environment request) source = .ok findings →
      (run environment today tree arguments).tree.read source.render =
        .ok (Text.Utf8.encode
          (Report.textFor (settled environment request) today findings source).toList) := by
  have named := (source_file chosen).2.1
  refine ⟨?_, run_spares_source asked own chosen today,
    fun findings => run_replaces_source asked own chosen today⟩
  rw [defaultPath_settled environment request named, Except.ok.injEq,
    beside_resuffixed_eq_self_iff named]

/-- A report opens with the first letter of its title. -/
theorem head?_report (settings : Settings) (today : Date) (findings : Findings) (path : Path) :
    (Text.Utf8.encode (Report.textFor settings today findings path).toList).head? = some 77 := by
  have opens : (Report.textFor settings today findings path).toList.head? = some 'M' := by
    simp [Report.textFor, Report.text, Report.entries, Report.header, Report.title]
  obtain ⟨rest, shape⟩ := List.head?_eq_some_iff.mp opens
  rw [shape]
  rfl

/-- A program of three letters in a file with the suffix of reports is lost. -/
theorem source_survives_unless_log_lost :
    let tree : FileTree :=
      { entries := [(["w"], .directory), (["w", "a.log"], .file [69, 78, 68])]
        workingDirectory := ["w"] }
    tree.read "a.log" = .ok [69, 78, 68] ∧
      ∃ report, (run [] ⟨2024, 3, 1⟩ tree ["a.log"]).tree.read "a.log" = .ok report ∧
        report.head? = some 77 := by
  intro tree
  let request : Request := ⟨"a.log", none, false, none, none, none, false⟩
  have asked : Command.ofArguments tree ["a.log"] = .ok (.check request) := by decide
  have chosen : tree.resolveSource (Path.ofString request.source)
      (settled [] request).sourceSuffix = .ok (Path.ofString "a.log") := by decide
  obtain ⟨findings, checked⟩ : ∃ findings,
      tree.checkFile (settled [] request) (Path.ofString "a.log") = .ok findings := ⟨_, rfl⟩
  have rendered : (Path.ofString "a.log").render = "a.log" := by decide
  have replaced := (source_survives_unless_log ⟨2024, 3, 1⟩ asked rfl chosen).2.2 findings
    (by decide) rfl checked
  rw [rendered] at replaced
  exact ⟨by decide, _, replaced, head?_report _ _ _ _⟩

end MalLint.SourceSafety
