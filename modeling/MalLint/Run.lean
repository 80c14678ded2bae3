import MalLint.CommandLine
import MalLint.SourceFile
import MalLint.Text.ControlSequence

/-! A run of the command, as a function of its arguments, the environment, the date and the files.
Nothing is read or written here: a run gives back what is to be printed and the files after it.

Printing is assumed to succeed. Standard output and standard error take every text, in an encoding
that has all its characters; how a run ends where a character cannot be shown is left out. -/
namespace MalLint

/-- The end of a run. -/
structure Outcome where
  status : ExitStatus
  /-- What is printed to standard output. -/
  out : String
  /-- What is printed to standard error. -/
  err : String
  /-- The files after the run. -/
  tree : FileTree
  deriving DecidableEq, Repr

namespace Run

/-- What `--version` prints. -/
def versionText : String :=
  "malcheck, version 1.0.0\n"

/-- What `--help` prints. -/
def helpText : String :=
  "\n".intercalate
    ["Usage: malcheck [OPTIONS] SOURCE",
     "",
     "  Check a MAL program for syntax and wiring errors.",
     "",
     "  SOURCE is the MAL file to check; the .mal suffix may be omitted.",
     "",
     "  Exit status:",
     "      0  the program is valid (warnings allowed)",
     "      1  the program has errors, or the report could not be written",
     "      2  invalid arguments or unreadable source",
     "",
     "Options:",
     "  -o, --output FILE               Report file (default: SOURCE with .log suffix)",
     "  --stdout                        Print the report to standard output instead of",
     "                                  writing a file",
     "  --end-duplicates [every|legacy]",
     "                                  How repeated END instructions are reported.",
     "                                  'every' warns for each extra END; 'legacy'",
     "                                  lets a final duplicate END replace earlier END",
     "                                  warnings. Default: every (or",
     "                                  MALCHECK_END_DUPLICATES).",
     "  --author TEXT                   Author line for the report header",
     "  --course TEXT                   Course line for the report header",
     "  -v, --verbose                   Verbose output",
     "  --version                       Show the version and exit.",
     "  --help                          Show this message and exit.",
     ""]

/-- How a run shows its messages: all of them with their levels, or only the warnings, bare. -/
def showLog (verbose : Bool) (records : List LogRecord) : String :=
  if verbose then
    String.join (records.map fun record => s!"{record.render}\n")
  else
    String.join ((records.filter (·.level = .warning)).map fun record => s!"{record.message}\n")

/-- The settings that a request asks for, on top of those of the environment. -/
def overrides (request : Request) : Overrides :=
  { endDuplicates := request.endDuplicates.map .policy
    author := request.author
    course := request.course }

/-- What is reached after a check: what is printed, the messages, and the files. -/
structure Delivery where
  out : String
  log : List LogRecord
  tree : FileTree
  deriving DecidableEq, Repr

/-- Where the report on a source is to be written. -/
def reportPath (settings : Settings) (request : Request) (source : Path) : Except Failure Path :=
  match request.output with
  | some text => .ok (Path.ofString text)
  | none => (Report.defaultPath settings source).mapError .badPath

/-- Delivers the report on a checked source: printed, or written where the request or the settings
say. -/
def deliver (settings : Settings) (today : Date) (tree : FileTree) (request : Request)
    (source : Path) (findings : Findings) : Except Failure Delivery :=
  if request.toStdout then
    .ok ⟨Report.text settings today findings "<stdout>", [], tree⟩
  else
    match reportPath settings request source with
    | .error e => .error e
    | .ok path =>
      match Report.write settings today findings path tree with
      | .error e => .error e
      | .ok after =>
        let tally := findings.tally
        .ok ⟨s!"Finished creating the log for {source.render}\n" ++
            (if request.verbose then
              s!"{tally.errors} error(s), {tally.warnings} warning(s) -> {path.render}\n"
            else ""),
          [Report.writeLog settings today findings path], after⟩

/-- The end of a run that fails after some messages. -/
def failed (verbose : Bool) (tree : FileTree) (log : List LogRecord) (f : Failure) : Outcome :=
  ⟨f.status, "", showLog verbose log ++ f.report verbose, tree⟩

/-- Checks a source and delivers the report. A report that is printed is delivered, since printing
is assumed to succeed. -/
def check (environment : Environment) (today : Date) (tree : FileTree) (request : Request) :
    Outcome :=
  let log := environment.log
  match environment.settings.override (overrides request) with
  | .error e => failed request.verbose tree log e.failure
  | .ok settings =>
    match tree.resolveSource (Path.ofString request.source) settings.sourceSuffix with
    | .error e => failed request.verbose tree log e
    | .ok source =>
      let log := log ++ [⟨.debug, s!"Reading {source.render}"⟩]
      match tree.checkFile settings source with
      | .error e => failed request.verbose tree log e
      | .ok findings =>
        let log := log ++ findings.log
        match deliver settings today tree request source findings with
        | .error e => failed request.verbose tree log e
        | .ok delivery =>
          ⟨if findings.isValid then .success else .checkFailed,
            Text.ControlSequence.strip delivery.out,
            showLog request.verbose (log ++ delivery.log), delivery.tree⟩

/-- The texts by which a run may ask for files: the arguments as typed, the paths that they name,
the sibling that a source may mean, and the reports beside them. -/
def lookups (environment : Environment) (arguments : List String) : List String :=
  match Arguments.parse arguments with
  | .error _ => []
  | .ok parsed =>
    let settings := environment.settings
    let typed := parsed.plain.take 1 ++ (parsed.value? .output).toList
    let paths := typed.map Path.ofString
    let siblings := paths.filterMap fun path =>
      (path.withName (path.name ++ settings.sourceSuffix)).toOption
    let reports := (paths ++ siblings).filterMap fun path =>
      (Report.defaultPath settings path).toOption
    typed ++ (paths ++ siblings ++ reports).map (·.render)

end Run

/-- A run of the command. -/
def run (environment : Environment) (today : Date) (tree : FileTree) (arguments : List String) :
    Outcome :=
  match Command.ofArguments tree arguments with
  | .error e => ⟨e.status, "", e.report, tree⟩
  | .ok .help => ⟨.success, Run.helpText, "", tree⟩
  | .ok .version => ⟨.success, Run.versionText, "", tree⟩
  | .ok (.check request) => Run.check environment today tree request

end MalLint
