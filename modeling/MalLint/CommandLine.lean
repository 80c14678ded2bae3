import MalLint.EndPlacement
import MalLint.Failure
import MalLint.FileTree
import MalLint.Text.ControlSequence

/-! The arguments of the command: options in any order around the name of the source. All arguments
are cut into options and plain ones before any value is looked at. -/
namespace MalLint

/-- The options of the command. -/
inductive CommandOption where
  | output
  | stdout
  | endDuplicates
  | author
  | course
  | verbose
  | version
  | help
  deriving DecidableEq, Repr

namespace CommandOption

/-- Whether an option is followed by a value. -/
def takesValue : CommandOption → Bool
  | .output | .endDuplicates | .author | .course => true
  | .stdout | .verbose | .version | .help => false

/-- The option with a long name. -/
def ofLong? : String → Option CommandOption
  | "--output" => some .output
  | "--stdout" => some .stdout
  | "--end-duplicates" => some .endDuplicates
  | "--author" => some .author
  | "--course" => some .course
  | "--verbose" => some .verbose
  | "--version" => some .version
  | "--help" => some .help
  | _ => none

/-- The option with a letter. -/
def ofLetter? : Char → Option CommandOption
  | 'o' => some .output
  | 'v' => some .verbose
  | _ => none

end CommandOption

/-- Why arguments are refused. -/
inductive UsageError where
  | noSuchOption (name : String)
  | missingValue (name : String)
  | unexpectedValue (name : String)
  | missingSource
  | extraArguments (arguments : List String)
  | outputIsDirectory (text : String)
  | sourceIsDirectory (text : String)
  | invalidPolicy (text : String)
  /-- A text that is to name a file holds a null character. -/
  | nullCharacter
  deriving DecidableEq, Repr

namespace UsageError

/-- What is wrong with the arguments. -/
def message : UsageError → String
  | .noSuchOption name => s!"No such option {Text.quote name}."
  | .missingValue name => s!"Option {Text.quote name} requires an argument."
  | .unexpectedValue name => s!"Option {Text.quote name} does not take a value."
  | .missingSource => "Missing argument 'SOURCE'."
  | .extraArguments [argument] => s!"Got unexpected extra argument ({argument})"
  | .extraArguments arguments =>
    "Got unexpected extra arguments (" ++ " ".intercalate arguments ++ ")"
  | .outputIsDirectory text =>
    s!"Invalid value for '-o' / '--output': File {Text.quote text} is a directory."
  | .sourceIsDirectory text =>
    s!"Invalid value for 'SOURCE': File {Text.quote text} is a directory."
  | .invalidPolicy text =>
    s!"Invalid value for '--end-duplicates': {Text.quote text} is not one of 'every', 'legacy'."
  | .nullCharacter => AccessError.nullCharacter.message ""

/-- Whether the complaint is preceded by a reminder of the usage. -/
def showsUsage : UsageError → Bool
  | .missingValue _ | .unexpectedValue _ | .nullCharacter => false
  | _ => true

/-- What is printed about arguments that are refused. A null character breaks the run off without
a word. -/
def report (e : UsageError) : String :=
  let reminder := "Usage: malcheck [OPTIONS] SOURCE\nTry 'malcheck --help' for help.\n\n"
  match e with
  | .nullCharacter => ""
  | e => (if e.showsUsage then reminder else "") ++
      Text.ControlSequence.strip s!"Error: {e.message}\n"

/-- The status that refused arguments end a run with. -/
def status : UsageError → ExitStatus
  | .nullCharacter => .checkFailed
  | _ => .invalidArguments

end UsageError

/-- Arguments cut into options, in the order given, and plain arguments. -/
structure Arguments where
  /-- Each option with its value, which is empty for an option that takes none. -/
  options : List (CommandOption × String)
  plain : List String
  deriving DecidableEq, Repr

namespace Arguments

/-- An option that waits for its value, under the name that it was given by. -/
structure Waiting where
  option : CommandOption
  name : String
  deriving DecidableEq, Repr

/-- What one argument that starts with a dash holds: options with their values and, at the end, an
option whose value is the next argument. -/
structure Cluster where
  options : List (CommandOption × String)
  waiting : Option Waiting
  deriving DecidableEq, Repr

/-- An argument with a long name. A value may follow an equals sign. -/
def long (argument : String) : Except UsageError Cluster :=
  let name := String.ofList (argument.toList.takeWhile (· ≠ '='))
  let value? := if '=' ∈ argument.toList then
      some (String.ofList ((argument.toList.dropWhile (· ≠ '=')).drop 1))
    else none
  match CommandOption.ofLong? name, value? with
  | none, _ => .error (.noSuchOption name)
  | some option, some value =>
    if option.takesValue then .ok ⟨[(option, value)], none⟩ else .error (.unexpectedValue name)
  | some option, none =>
    if option.takesValue then .ok ⟨[], some ⟨option, name⟩⟩ else .ok ⟨[(option, "")], none⟩

/-- Letters after a single dash. The letters after one that takes a value are its value. -/
def letters : List Char → Except UsageError Cluster
  | [] => .ok ⟨[], none⟩
  | c :: rest =>
    let name := String.ofList ['-', c]
    match CommandOption.ofLetter? c with
    | none => .error (.noSuchOption name)
    | some option =>
      if option.takesValue then
        if rest = [] then .ok ⟨[], some ⟨option, name⟩⟩
        else .ok ⟨[(option, String.ofList rest)], none⟩
      else
        (letters rest).map fun later => { later with options := (option, "") :: later.options }

/-- An argument that starts with a dash. -/
def cluster (argument : String) : Except UsageError Cluster :=
  match argument.toList with
  | '-' :: '-' :: _ => long argument
  | _ => letters (argument.toList.drop 1)

/-- Whether an argument holds options: a dash and more. -/
def holdsOptions (argument : String) : Bool :=
  argument.toList.head? = some '-' && argument.toList ≠ ['-']

/-- Cuts arguments apart. Two dashes alone end the options. The value of an option is the next
argument, whatever it looks like. -/
def parseFrom : Option Waiting → List String → Except UsageError Arguments
  | none, [] => .ok ⟨[], []⟩
  | some waiting, [] => .error (.missingValue waiting.name)
  | some waiting, value :: rest =>
    (parseFrom none rest).map fun later =>
      { later with options := (waiting.option, value) :: later.options }
  | none, argument :: rest =>
    if argument = "--" then
      .ok ⟨[], rest⟩
    else if holdsOptions argument then
      match cluster argument with
      | .error e => .error e
      | .ok found =>
        (parseFrom found.waiting rest).map fun later =>
          { later with options := found.options ++ later.options }
    else
      (parseFrom none rest).map fun later => { later with plain := argument :: later.plain }

/-- Cuts the arguments of a command apart. -/
def parse (arguments : List String) : Except UsageError Arguments :=
  parseFrom none arguments

/-- The value of an option that is given; of several the last counts. -/
def value? (arguments : Arguments) (option : CommandOption) : Option String :=
  arguments.options.reverse.lookup option

/-- Whether an option is given. -/
def has (arguments : Arguments) (option : CommandOption) : Bool :=
  (arguments.value? option).isSome

end Arguments

/-- What a run is asked to do. -/
structure Request where
  source : String
  output : Option String
  toStdout : Bool
  endDuplicates : Option EndPolicy
  author : Option String
  course : Option String
  verbose : Bool
  deriving DecidableEq, Repr

/-- What the arguments of a command ask for. -/
inductive Command where
  | help
  | version
  | check (request : Request)
  deriving DecidableEq, Repr

namespace Command

/-- Help or version, whichever is asked for first. -/
def information? (arguments : Arguments) : Option Command :=
  arguments.options.findSome? fun (option, _) =>
    match option with
    | .help => some .help
    | .version => some .version
    | _ => none

/-- What is wrong with a text that is to name a file, where `e` complains about a directory. -/
def fileError? (tree : FileTree) (text : String) (e : UsageError) : Option UsageError :=
  match tree.isDirectory text with
  | .error _ => some .nullCharacter
  | .ok true => some e
  | .ok false => none

/-- What is wrong with the value of an option. -/
def optionError? (tree : FileTree) (arguments : Arguments) (option : CommandOption) :
    Option UsageError :=
  match option, arguments.value? option with
  | .output, some text => fileError? tree text (.outputIsDirectory text)
  | .endDuplicates, some text =>
    if (EndPolicy.ofName? text).isSome then none else some (.invalidPolicy text)
  | _, _ => none

/-- What the arguments of a command ask for, or the first thing that is wrong with them: an option
that cannot be read, a bad value in the order in which the options are given, the source, arguments
that are left over. Help and version are given before values are looked at. -/
def ofArguments (tree : FileTree) (texts : List String) : Except UsageError Command :=
  match Arguments.parse texts with
  | .error e => .error e
  | .ok arguments =>
    match information? arguments with
    | some command => .ok command
    | none =>
      match arguments.options.findSome? fun (option, _) => optionError? tree arguments option with
      | some e => .error e
      | none =>
        match arguments.plain with
        | [] => .error .missingSource
        | source :: extra =>
          match fileError? tree source (.sourceIsDirectory source) with
          | some e => .error e
          | none =>
            if extra ≠ [] then .error (.extraArguments extra)
            else .ok (.check
              { source
                output := arguments.value? .output
                toStdout := arguments.has .stdout
                endDuplicates := (arguments.value? .endDuplicates).bind EndPolicy.ofName?
                author := arguments.value? .author
                course := arguments.value? .course
                verbose := arguments.has .verbose })

end Command

end MalLint
