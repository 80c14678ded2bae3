import MalLint.Check
import MalLint.Proofs.LabelWiring
import MalLint.Proofs.SourceLines

/-! Findings follow the numbers of the lines. If all lines of a program move by the same distance,
every finding about them moves with them, and nothing else about it changes. -/
namespace MalLint.Renumbering

open LabelWiring SourceLines

/-- The same place, further down. -/
def moveLocation (distance : Nat) (location : Location) : Location :=
  { location with line := location.line + distance }

/-- The same finding about a place further down. -/
def moveDiagnostic (distance : Nat) (d : Diagnostic) : Diagnostic :=
  { d with location := d.location.map (moveLocation distance) }

/-- The findings about a line further down. -/
def moveFindings (distance : Nat) (findings : LineFindings) : LineFindings :=
  ⟨moveLine distance findings.line, findings.diagnostics.map (moveDiagnostic distance)⟩

/-- The same token on a line further down. -/
def moveToken (distance : Nat) (token : ProgramToken) : ProgramToken :=
  { token with line := token.line + distance }

/-- The same origin with a greater number. -/
def moveOrigin (distance : Nat) (origin : Origin) : Origin :=
  { origin with line := origin.line.map (· + (distance : Int)) }

theorem moveOrigin_at (distance : Nat) (origin : Origin) (column : Nat) :
    (moveOrigin distance origin).at column = (origin.at column).map (moveLocation distance) := by
  simp [Origin.at, moveOrigin, moveLocation, Function.comp_def]

theorem label_moveOrigin (distance : Nat) (origin : Origin) (line : String) :
    LineCheck.label (moveOrigin distance origin) line =
      (LineCheck.label origin line).map (moveDiagnostic distance) := by
  unfold LineCheck.label
  cases Line.beforeColon? line.toList with
  | none => rfl
  | some candidate =>
    simp only [moveOrigin_at]
    split
    · rfl
    · split
      · rfl
      · split <;> rfl

theorem opcode_moveOrigin (alphabet : String) (distance : Nat) (origin : Origin) (line : String) :
    LineCheck.opcode alphabet (moveOrigin distance origin) line =
      (LineCheck.opcode alphabet origin line).map (moveDiagnostic distance) := by
  unfold LineCheck.opcode
  cases (Line.split line).opcode with
  | none => rfl
  | some token =>
    simp only [moveOrigin_at]
    split <;> rfl

theorem form_moveOrigin (distance : Nat) (origin : Origin) (line : String) :
    LineCheck.form (moveOrigin distance origin) line =
      (LineCheck.form origin line).map (moveDiagnostic distance) := by
  simp only [LineCheck.form, moveOrigin_at, Option.map_map]
  rfl

theorem arity_moveOrigin (distance : Nat) (origin : Origin) (line : String) :
    LineCheck.arity (moveOrigin distance origin) line =
      (LineCheck.arity origin line).map (moveDiagnostic distance) := by
  unfold LineCheck.arity
  cases opcode : (Line.split line).opcode with
  | none => simp only [opcode, Option.map_none]
  | some token =>
    simp only [opcode, moveOrigin_at]
    split
    · rfl
    · split
      · rfl
      · split
        · rfl
        · split
          · rfl
          · simp only [Option.map_some, moveDiagnostic, Option.map_bind]
            rfl

/-- The findings about a line move with it. -/
theorem checkLine_moveLine (settings : Settings) (file : String) (distance : Nat)
    (line : ProgramLine) :
    checkLine settings file (moveLine distance line) =
      (checkLine settings file line).map (moveDiagnostic distance) := by
  have origin : (⟨file, some (moveLine distance line).number⟩ : Origin) =
      moveOrigin distance ⟨file, some line.number⟩ := rfl
  simp only [checkLine, origin, label_moveOrigin, opcode_moveOrigin, form_moveOrigin,
    arity_moveOrigin, List.map_filterMap]
  exact List.filterMap_map (f := Option.map (moveDiagnostic distance)) (l := [_, _, _, _])

theorem declaration?_moveLine (distance : Nat) (line : ProgramLine) :
    declaration? (moveLine distance line) = (declaration? line).map (moveToken distance) := by
  simp only [declaration?, Option.map_map]
  rfl

theorem unmentioned_moveToken (file : String) (distance : Nat) (token : ProgramToken) :
    unmentioned file (moveToken distance token) =
      moveDiagnostic distance (unmentioned file token) :=
  rfl

theorem stray?_moveLine (file : String) (declared : List String) (distance : Nat)
    (line : ProgramLine) :
    stray? file declared (moveLine distance line) =
      (stray? file declared line).map (moveDiagnostic distance) := by
  have target : Wiring.branchTarget? (moveLine distance line) = Wiring.branchTarget? line := rfl
  rw [stray?, stray?, target, Option.map_bind]
  refine congrArg _ (funext fun token => ?_)
  simp only [Function.comp_apply]
  split <;> rfl

end MalLint.Renumbering
