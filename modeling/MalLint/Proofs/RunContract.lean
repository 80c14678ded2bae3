import MalLint.Proofs.CommandReading
import MalLint.Proofs.FileCheck
import MalLint.Proofs.RunCourse

/-! What a run promises to those who start it: its status, the files that it leaves, and the verdict
at the end of its report agree with each other. The machine is one that asks nothing of names, so
that paths which lead nowhere and bytes which are no text are all that can go wrong.

Two things are assumed. Printing takes every text: where standard output or standard error lacks a
character, nothing is promised. And no two places hold the same file, since trees have no links. -/
namespace MalLint.RunContract

open FileAccess SourceLookup RunCourse CommandReading FileCheck

/-- The report on a source is printed, or there is a place where it can be written. -/
def Delivered (tree : FileTree) (request : Request) (source : Path) : Prop :=
  request.toStdout = true ∨ ∃ place, WritableAt tree (reportFile request source).render place

/-- After a file is written under a name, this name leads to the bytes. They stand at one place, and
every other place holds what it held before. -/
structure WritesOnly (tree after : FileTree) (text : String) (place : Place) (bytes : List UInt8) :
    Prop where
  read : after.read text = .ok bytes
  held : after.get? place = some (.file bytes)
  others : ∀ other, other ≠ place → after.get? other = tree.get? other

/-- What a run with findings promises. -/
structure Fulfilled (environment : Environment) (today : Date) (tree : FileTree)
    (request : Request) (source : Path) (findings : Findings) (outcome : Outcome) : Prop where
  success : outcome.status.code = 0 ↔ findings.isValid = true ∧ Delivered tree request source
  checkFailed : outcome.status.code = 1 ↔
    findings.isValid = false ∨ ¬ Delivered tree request source
  printed : request.toStdout = true → outcome.out = Text.ControlSequence.strip
    (Report.text (settled environment request) today findings "<stdout>")
  untouched : request.toStdout = true ∨ ¬ Delivered tree request source → outcome.tree = tree
  /-- The file that is written decodes to the report, and its end tells whether the run is a
  success. -/
  written : request.toStdout = false →
    ∀ place, WritableAt tree (reportFile request source).render place → ∃ bytes text,
      WritesOnly tree outcome.tree (reportFile request source).render place bytes ∧
      Text.Utf8.decode bytes = .ok text ∧
      String.ofList text = Report.text (settled environment request) today findings
        (reportFile request source).render ∧
      ("MAL Program is valid\n".toList <:+ text ↔ outcome.status.code = 0)

variable {tree : FileTree} {arguments : List String} {environment : Environment}
  {today : Date} {request : Request} {source path : Path} {findings : Findings}
  {outcome : Outcome} {place : Place}

/-- A run with findings ends with one of two statuses. -/
theorem Fulfilled.status
    (fulfilled : Fulfilled environment today tree request source findings outcome) :
    outcome.status.code = 0 ∨ outcome.status.code = 1 := by
  rw [fulfilled.success, fulfilled.checkFailed]
  by_cases delivered : Delivered tree request source
  · cases findings.isValid <;> simp [delivered]
  · simp [delivered]

end MalLint.RunContract
