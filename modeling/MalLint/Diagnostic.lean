/-! What the checks report: a category, which fixes the severity, a message, and the place in the
source it is about. -/
namespace MalLint

/-- A place in a source. Lines are numbered by the caller; columns count characters from 1. -/
structure Location where
  file : String
  line : Int
  column : Int := 1
  deriving DecidableEq, Repr

/-- A location as it opens a message. -/
def Location.render (location : Location) : String :=
  s!"{location.file}:{location.line}:{location.column}"

/-- How grave a finding is. Only errors make a program invalid. -/
inductive Severity where
  | error
  | warning
  deriving DecidableEq, Repr

/-- The word that names a severity. -/
def Severity.name : Severity → String
  | .error => "error"
  | .warning => "warning"

/-- The kinds of findings, in the order in which reports list them. -/
inductive Category where
  | illFormedLabel
  | invalidOpcode
  | illFormedOperand
  | invalidOperandType
  | tooManyOperands
  | tooFewOperands
  | unreferencedLabel
  | danglingBranchTarget
  | endMissing
  | endNotLast
  | endDuplicated
  deriving DecidableEq, Repr

namespace Category

/-- Every category, in report order. -/
def all : List Category :=
  [.illFormedLabel, .invalidOpcode, .illFormedOperand, .invalidOperandType, .tooManyOperands,
   .tooFewOperands, .unreferencedLabel, .danglingBranchTarget, .endMissing, .endNotLast,
   .endDuplicated]

/-- The place of a category in report order. -/
def index : Category → Fin 11
  | .illFormedLabel => 0
  | .invalidOpcode => 1
  | .illFormedOperand => 2
  | .invalidOperandType => 3
  | .tooManyOperands => 4
  | .tooFewOperands => 5
  | .unreferencedLabel => 6
  | .danglingBranchTarget => 7
  | .endMissing => 8
  | .endNotLast => 9
  | .endDuplicated => 10

theorem mem_all (category : Category) : category ∈ all := by
  cases category <;> decide

theorem index_injective {a b : Category} (same : a.index = b.index) : a = b := by
  cases a <;> cases b <;> first | rfl | exact absurd same (by decide)

/-- The hyphenated name of a category. -/
def label : Category → String
  | .illFormedLabel => "ill-formed-label"
  | .invalidOpcode => "invalid-opcode"
  | .illFormedOperand => "ill-formed-operand"
  | .invalidOperandType => "invalid-operand-type"
  | .tooManyOperands => "too-many-operands"
  | .tooFewOperands => "too-few-operands"
  | .unreferencedLabel => "unreferenced-label"
  | .danglingBranchTarget => "dangling-branch-target"
  | .endMissing => "end-missing"
  | .endNotLast => "end-not-last"
  | .endDuplicated => "end-duplicated"

/-- The category with a given hyphenated name. -/
def ofLabel? (text : String) : Option Category :=
  all.find? (·.label == text)

/-- An unused label and a misplaced END leave a program valid; all else is an error. -/
def severity : Category → Severity
  | .unreferencedLabel | .endMissing | .endNotLast | .endDuplicated => .warning
  | _ => .error

/-- The phrase that stands for a category in the totals of a report. -/
def description : Category → String
  | .illFormedLabel => "ill formed label"
  | .invalidOpcode => "invalid opcode"
  | .illFormedOperand => "ill formed operand"
  | .invalidOperandType => "invalid operand type"
  | .tooManyOperands => "too many operands"
  | .tooFewOperands => "too few operands"
  | .unreferencedLabel => "unreferenced label"
  | .danglingBranchTarget => "dangling branch target"
  | .endMissing => "missing END"
  | .endNotLast => "END not last"
  | .endDuplicated => "duplicated END"

end Category

/-- One finding. -/
structure Diagnostic where
  category : Category
  message : String
  /-- Absent for findings about the program as a whole. -/
  location : Option Location := none
  /-- The label, opcode or operand that the finding is about. -/
  subject : Option String := none
  /-- The opcode that may have been meant. -/
  suggestion : Option String := none
  deriving DecidableEq, Repr

namespace Diagnostic

/-- The severity is that of the category. -/
def severity (d : Diagnostic) : Severity :=
  d.category.severity

/-- Whether the finding makes the program invalid. -/
def isError (d : Diagnostic) : Bool :=
  d.severity = .error

/-- The source line, for findings that have a place. -/
def line (d : Diagnostic) : Option Int :=
  d.location.map (·.line)

/-- The finding on one line, opened by its location if it has one. -/
def render (d : Diagnostic) : String :=
  match d.location with
  | some location => s!"{location.render}: {d.severity.name}: {d.message}"
  | none => s!"{d.severity.name}: {d.message}"

end Diagnostic

end MalLint
