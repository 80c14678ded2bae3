import MalLint.Proofs.LineRules

/-! What the checks of a line report. Each check that speaks names what it is about and the column
where that stands, so all that is said about single findings follows from four descriptions. -/
namespace MalLint.LineReports

open LineRules

/-- A label is reported with all that stands before the first colon, from the start of the line. -/
theorem label_reports (found : LineCheck.label origin line = some d) :
    d.category = .illFormedLabel ∧ d.location = origin.at 1 ∧
      ∃ candidate, Line.beforeColon? line.toList = some candidate ∧ candidate ≠ [] ∧
        d.subject = some (String.ofList candidate) := by
  unfold LineCheck.label at found
  cases opening : Line.beforeColon? line.toList with
  | none => simp [opening] at found
  | some candidate =>
    simp only [opening] at found
    have named : candidate ≠ [] := by
      rintro rfl
      simp at found
    split at found
    · cases found
      exact ⟨rfl, rfl, candidate, rfl, named, rfl⟩
    · split at found
      · cases found
        exact ⟨rfl, rfl, candidate, rfl, named, rfl⟩
      · split at found
        · cases found
          exact ⟨rfl, rfl, candidate, rfl, named, rfl⟩
        · cases found

theorem opcode_reports (found : LineCheck.opcode alphabet origin line = some d) :
    d.category = .invalidOpcode ∧
      ∃ opcode, (Line.split line).opcode = some opcode ∧ d.location = origin.at opcode.column ∧
        d.subject = some opcode.text := by
  unfold LineCheck.opcode at found
  cases read : (Line.split line).opcode with
  | none => simp [read] at found
  | some opcode =>
    simp only [read] at found
    split at found <;> cases found
    exact ⟨rfl, opcode, rfl, rfl, rfl⟩

theorem form_reports (found : LineCheck.form origin line = some d) :
    d.category = .illFormedOperand ∧
      ∃ operand ∈ (Line.split line).operands, d.location = origin.at operand.column ∧
        d.subject = some operand.text := by
  obtain ⟨operand, first, rfl⟩ := Option.map_eq_some_iff.mp found
  exact ⟨rfl, operand, List.mem_of_find?_eq_some first, rfl, rfl⟩

/-- The operand is the first that the constraint of its position rejects. -/
def FirstRejected (i : Instruction) (operands : List Token) (operand : Token) : Prop :=
  ∃ (index : Nat) (c : Constraint), i.operands[index]? = some c ∧
    operands[index]? = some operand ∧ c.accepts operand.text = false ∧
      ∀ earlier < index, ∀ (c : Constraint) (token : Token), i.operands[earlier]? = some c →
        operands[earlier]? = some token → c.accepts token.text = true

theorem FirstRejected.mem (first : FirstRejected i operands operand) : operand ∈ operands := by
  obtain ⟨index, c, -, held, -⟩ := first
  exact List.mem_of_getElem? held

theorem failing_first {operands : List Token}
    (failing : Instruction.failing i (operands.map (·.text)) = position :: others) :
    ∃ operand, operands[position - 1]? = some operand ∧ FirstRejected i operands operand := by
  obtain ⟨⟨⟨c, text⟩, number⟩, rest, filtered, rfl, -⟩ := List.map_eq_cons_iff.mp failing
  obtain ⟨before, after, pairs, accepted, rejected, -⟩ := List.filter_eq_cons_iff.mp filtered
  have pair (index : Nat) (c : Constraint) (text : String) :
      ((i.operands.zip (operands.map (·.text))).zipIdx 1)[index]? = some ((c, text), 1 + index) ↔
        i.operands[index]? = some c ∧
          ∃ token, operands[index]? = some token ∧ token.text = text := by
    rw [List.getElem?_zipIdx]
    simp [List.getElem?_zip_eq_some]
  have found : ((i.operands.zip (operands.map (·.text))).zipIdx 1)[before.length]? =
      some ((c, text), number) := by
    rw [pairs, List.getElem?_append_right (Nat.le_refl _), Nat.sub_self, List.getElem?_cons_zero]
  obtain rfl : number = 1 + before.length := by
    rw [List.getElem?_zipIdx, Option.map_eq_some_iff] at found
    obtain ⟨zipped, -, same⟩ := found
    exact (Prod.mk.inj same).2.symm
  obtain ⟨left, operand, right, rfl⟩ := (pair _ c text).mp found
  refine ⟨operand, by simpa using right, before.length, c, left, right, by simpa using rejected, ?_⟩
  intro earlier fewer other token held placed
  -- A pair at an earlier position stands before the first one that is kept.
  have listed := (pair earlier other token.text).mpr ⟨held, token, placed, rfl⟩
  rw [pairs, List.getElem?_append_left fewer] at listed
  simpa using accepted _ (List.mem_of_getElem? listed)

/-- What the check of numbers and types can find, and the token that it points at. -/
inductive Misfit (opcode : Token) (operands : List Token) (i : Instruction) :
    Category → Token → Prop where
  | surplus (extra : operands[i.arity]? = some token) :
      Misfit opcode operands i .tooManyOperands token
  | shortage (fewer : operands.length < i.arity) : Misfit opcode operands i .tooFewOperands opcode
  | type (number : operands.length = i.arity) (first : FirstRejected i operands token) :
      Misfit opcode operands i .invalidOperandType token

theorem arity_reports (found : LineCheck.arity origin line = some d) :
    ∃ opcode i token, (Line.split line).opcode = some opcode ∧
      Instruction.find? opcode.text = some i ∧ d.subject = some opcode.text ∧
      d.location = origin.at token.column ∧
        Misfit opcode (Line.split line).operands i d.category token := by
  unfold LineCheck.arity at found
  cases read : (Line.split line).opcode with
  | none => simp [read] at found
  | some opcode =>
    cases row : Instruction.find? opcode.text with
    | none => simp [read, row] at found
    | some i =>
      have named : i.mnemonic = opcode.text := (find?_eq_some_iff.mp row).2
      simp only [read, row, named] at found
      split at found
      · rename_i surplus extra
        cases found
        exact ⟨opcode, i, surplus, rfl, row, rfl, rfl, .surplus extra⟩
      · rename_i none
        split at found
        · rename_i fewer
          cases found
          exact ⟨opcode, i, opcode, rfl, row, rfl, rfl, .shortage fewer⟩
        · rename_i enough
          have number : (Line.split line).operands.length = i.arity :=
            Nat.le_antisymm (List.getElem?_eq_none_iff.mp none) (Nat.le_of_not_lt enough)
          split at found
          · cases found
          · rename_i position others failing
            obtain ⟨operand, placed, first⟩ := failing_first failing
            simp only [placed, Option.bind_some, Option.some.injEq] at found
            subst found
            exact ⟨opcode, i, operand, rfl, row, rfl, rfl, .type number first⟩

/-- A finding about a line comes from one of the four checks. -/
theorem mem_checkLine_iff :
    d ∈ checkLine settings file line ↔
      LineCheck.label ⟨file, some line.number⟩ line.text = some d ∨
        LineCheck.opcode settings.alphabet ⟨file, some line.number⟩ line.text = some d ∨
        LineCheck.form ⟨file, some line.number⟩ line.text = some d ∨
        LineCheck.arity ⟨file, some line.number⟩ line.text = some d := by
  simp [checkLine, eq_comm (a := some d)]

end MalLint.LineReports
