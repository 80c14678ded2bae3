import MalLint.EndPlacement
import MalLint.Log
import MalLint.Spelling
import MalLint.Text.Quoted

/-! What a user can choose: defaults, then the environment, then explicit overrides. -/
namespace MalLint

/-- The choices of a user. -/
structure Settings where
  /-- How repeated ENDs are reported. -/
  endDuplicates : EndPolicy := .every
  /-- The letters tried for suggestions. -/
  alphabet : String := Spelling.defaultAlphabet
  /-- What is appended to the name of a source that is given without it. -/
  sourceSuffix : String := ".mal"
  /-- The suffix of a report. -/
  reportSuffix : String := ".log"
  /-- A line for the header of a report. -/
  author : Option String := none
  /-- A line for the header of a report. -/
  course : Option String := none
  /-- The pattern of the date in a report. -/
  dateFormat : String := "%m/%d/%Y"
  /-- Some letter can be tried. -/
  alphabet_ne : alphabet ≠ "" := by decide
  deriving DecidableEq, Repr

/-- A value of no particular type, as it comes from outside. -/
inductive RawValue where
  | null
  | bool (b : Bool)
  | int (n : Int)
  | text (s : String)
  deriving DecidableEq, Repr

/-- A value as it is shown in a message. -/
def RawValue.render : RawValue → String
  | .null => "None"
  | .bool true => "True"
  | .bool false => "False"
  | .int n => toString n
  | .text s => Text.quote s

/-- What may be handed over as the policy for repeated ENDs. -/
inductive PolicyValue where
  | policy (p : EndPolicy)
  | other (v : RawValue)
  deriving DecidableEq, Repr

/-- Why settings are refused. -/
inductive SettingsError where
  | emptyAlphabet
  | invalidPolicy (v : RawValue)
  deriving DecidableEq, Repr

/-- What is wrong. -/
def SettingsError.message : SettingsError → String
  | .emptyAlphabet => "spelling alphabet must not be empty"
  | .invalidPolicy v => s!"invalid END duplicate policy {v.render}"

/-- How it can be mended, where that needs saying. -/
def SettingsError.hint : SettingsError → Option String
  | .emptyAlphabet => none
  | .invalidPolicy _ => some ("use one of: " ++ ", ".intercalate (EndPolicy.all.map (·.name)))

/-- New values for some of the settings. -/
structure Overrides where
  endDuplicates : Option PolicyValue := none
  alphabet : Option String := none
  sourceSuffix : Option String := none
  reportSuffix : Option String := none
  author : Option String := none
  course : Option String := none
  dateFormat : Option String := none
  deriving DecidableEq, Repr

/-- Whether nothing is overridden. -/
def Overrides.isEmpty (o : Overrides) : Bool :=
  o = {}

namespace Settings

/-- The settings with the given values replaced. An empty alphabet is refused, then a policy that is
none. -/
def override (settings : Settings) (o : Overrides) : Except SettingsError Settings :=
  let alphabet := o.alphabet.getD settings.alphabet
  if nonempty : alphabet = "" then
    .error .emptyAlphabet
  else
    let build (policy : EndPolicy) : Settings :=
      { endDuplicates := policy
        alphabet := alphabet
        sourceSuffix := o.sourceSuffix.getD settings.sourceSuffix
        reportSuffix := o.reportSuffix.getD settings.reportSuffix
        author := o.author.or settings.author
        course := o.course.or settings.course
        dateFormat := o.dateFormat.getD settings.dateFormat
        alphabet_ne := nonempty }
    match o.endDuplicates with
    | none => .ok (build settings.endDuplicates)
    | some (.policy policy) => .ok (build policy)
    | some (.other v) => .error (.invalidPolicy v)

end Settings

/-- Variables and their values. -/
abbrev Environment := List (String × String)

namespace Environment

/-- The variable for the policy on repeated ENDs. -/
def policyVariable : String :=
  "MALCHECK_END_DUPLICATES"

/-- The variable for the letters tried for suggestions. -/
def alphabetVariable : String :=
  "MALCHECK_ALPHABET"

/-- The variable for the author. -/
def authorVariable : String :=
  "MALCHECK_AUTHOR"

/-- The variable for the course. -/
def courseVariable : String :=
  "MALCHECK_COURSE"

/-- The variables that settings are taken from. -/
def names : List String :=
  [policyVariable, alphabetVariable, authorVariable, courseVariable]

/-- The value of a variable; an empty value is none. -/
def value? (environment : Environment) (name : String) : Option String :=
  (environment.lookup name).filter (· ≠ "")

theorem value?_ne_empty {environment : Environment} {name value : String}
    (found : environment.value? name = some value) : value ≠ "" := by
  simpa using (Option.filter_eq_some_iff.mp found).2

/-- The alphabet that the environment asks for. -/
def alphabet (environment : Environment) : String :=
  (environment.value? alphabetVariable).getD Spelling.defaultAlphabet

theorem alphabet_ne_empty (environment : Environment) : environment.alphabet ≠ "" := by
  unfold alphabet
  cases found : environment.value? alphabetVariable with
  | none => decide
  | some value => exact value?_ne_empty found

/-- The settings that the environment asks for. A policy that is none is passed over. -/
def settings (environment : Environment) : Settings :=
  { endDuplicates := ((environment.value? policyVariable).bind EndPolicy.ofName?).getD .every
    alphabet := environment.alphabet
    author := environment.value? authorVariable
    course := environment.value? courseVariable
    alphabet_ne := environment.alphabet_ne_empty }

/-- The warning about a policy that was passed over. -/
def log (environment : Environment) : List LogRecord :=
  match environment.value? policyVariable with
  | none => []
  | some value =>
    if (EndPolicy.ofName? value).isSome then []
    else [⟨.warning, s!"Ignoring invalid {policyVariable}={Text.quote value}"⟩]

end Environment

end MalLint
