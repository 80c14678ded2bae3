import MalLint.Proofs.LineRules

/-! What is said about the operands of a known opcode. Their number comes first: too many or too few
are reported whatever they are. Only operands that are as many as they should be are looked at one
by one, and then a single finding lists all that are rejected, each with its position. -/
namespace MalLint.OperandVerdict

open LineRules

/-- The constraint of a position, counted from 1, rejects the operand that stands there. -/
def Rejected (i : Instruction) (operands : List Token) (entry : Nat × Token) : Prop :=
  ∃ index c, entry.1 = index + 1 ∧ i.operands[index]? = some c ∧
    operands[index]? = some entry.2 ∧ c.accepts entry.2.text = false

/-- Exactly the rejected operands, by ascending positions. -/
structure ListsRejected (i : Instruction) (operands : List Token) (entries : List (Nat × Token)) :
    Prop where
  mem_iff : ∀ entry, entry ∈ entries ↔ Rejected i operands entry
  ascending : entries.Pairwise fun a b => a.1 < b.1

/-- Rejected operands in a message: each position with the operand in quotes. -/
def listing (entries : List (Nat × Token)) : String :=
  (if entries.length = 1 then "rejected operand " else "rejected operands ") ++
    ", ".intercalate (entries.map fun entry => s!"{entry.1} ('{entry.2.text}')")

/-- The finding that there may be is of a category. -/
def IsOf (finding : Option Diagnostic) (category : Category) : Prop :=
  finding.map (·.category) = some category

/-- What is found about some operands is what the instruction asks of them. -/
structure Judged (i : Instruction) (operands : List Token) (finding : Option Diagnostic) :
    Prop where
  tooMany : IsOf finding .tooManyOperands ↔ i.arity < operands.length
  tooFew : IsOf finding .tooFewOperands ↔ operands.length < i.arity
  types : IsOf finding .invalidOperandType ↔
    operands.length = i.arity ∧ ∃ entry, Rejected i operands entry
  /-- There is no other finding. -/
  silent : finding = none ↔ operands.length = i.arity ∧ ∀ entry, ¬Rejected i operands entry
  /-- The finding about types lists all operands that are rejected. -/
  message : ∀ d, finding = some d → d.category = .invalidOperandType →
    ∃ entries, ListsRejected i operands entries ∧
      d.message = s!"invalid operand type - {i.requirements}; " ++ listing entries

section Rejections

variable (i : Instruction) (operands : List Token)

/-- The operands that are rejected, position by position. -/
def rejections : List (Nat × Token) :=
  (((i.operands.zip operands).zipIdx 1).filter fun entry =>
    !entry.1.1.accepts entry.1.2.text).map fun entry => (entry.2, entry.1.2)

theorem mem_rejections (entry : Nat × Token) :
    entry ∈ rejections i operands ↔ Rejected i operands entry := by
  simp only [rejections, List.mem_map, List.mem_filter, Prod.exists, Bool.not_eq_true']
  constructor
  · rintro ⟨c, token, position, ⟨member, rejected⟩, rfl⟩
    obtain ⟨above, found⟩ := List.mk_mem_zipIdx_iff_le_and_getElem?_sub.mp member
    obtain ⟨left, right⟩ := List.getElem?_zip_eq_some.mp found
    exact ⟨position - 1, c, by simp only; omega, left, right, rejected⟩
  · rintro ⟨index, c, place, left, right, rejected⟩
    refine ⟨c, entry.2, entry.1, ⟨?_, rejected⟩, rfl⟩
    apply List.mk_mem_zipIdx_iff_le_and_getElem?_sub.mpr
    rw [place, Nat.add_sub_cancel]
    exact ⟨by omega, List.getElem?_zip_eq_some.mpr ⟨left, right⟩⟩

theorem rejections_inOrder : (rejections i operands).Pairwise fun a b => a.1 < b.1 := by
  rw [rejections, List.pairwise_map]
  exact (zipIdx_inOrder _ 1).filter _

/-- The positions that fail are those of the rejected operands. -/
theorem failing_eq :
    i.failing (operands.map (·.text)) = (rejections i operands).map (·.1) := by
  rw [Instruction.failing, rejections, List.zip_map_right, List.zipIdx_map, List.filter_map,
    List.map_map, List.map_map]
  rfl

/-- The words about failing positions are the words about the rejected operands. -/
theorem rejected_eq :
    LineCheck.rejected (operands.map (·.text)) (i.failing (operands.map (·.text))) =
      listing (rejections i operands) := by
  rw [failing_eq, LineCheck.rejected, listing, List.length_map, List.map_map]
  congr 2
  apply List.map_congr_left
  intro entry member
  obtain ⟨index, c, place, -, held, -⟩ := (mem_rejections i operands entry).mp member
  simp [place, held]

end Rejections

section Known

variable {line : String} {opcode : Token} {i : Instruction} (origin : Origin)

theorem arity_of_more (read : (Line.split line).opcode = some opcode)
    (row : Instruction.find? opcode.text = some i)
    (more : i.arity < (Line.split line).operands.length) :
    ∃ d, LineCheck.arity origin line = some d ∧ d.category = .tooManyOperands := by
  simp only [LineCheck.arity, read, row, List.getElem?_eq_getElem more]
  exact ⟨_, rfl, rfl⟩

theorem arity_of_fewer (read : (Line.split line).opcode = some opcode)
    (row : Instruction.find? opcode.text = some i)
    (fewer : (Line.split line).operands.length < i.arity) :
    ∃ d, LineCheck.arity origin line = some d ∧ d.category = .tooFewOperands := by
  simp only [LineCheck.arity, read, row, List.getElem?_eq_none (Nat.le_of_lt fewer), if_pos fewer]
  exact ⟨_, rfl, rfl⟩

theorem arity_of_rejections (read : (Line.split line).opcode = some opcode)
    (row : Instruction.find? opcode.text = some i)
    (number : (Line.split line).operands.length = i.arity)
    (bad : rejections i (Line.split line).operands ≠ []) :
    ∃ d, LineCheck.arity origin line = some d ∧ d.category = .invalidOperandType ∧
      d.message = s!"invalid operand type - {i.requirements}; " ++
        listing (rejections i (Line.split line).operands) := by
  have words := rejected_eq i (Line.split line).operands
  have enough : ¬(Line.split line).operands.length < i.arity := by omega
  simp only [LineCheck.arity, read, row, List.getElem?_eq_none (Nat.le_of_eq number), if_neg enough,
    Line.Parts.operandTexts]
  split
  · rename_i none
    rw [failing_eq, List.map_eq_nil_iff] at none
    exact absurd none bad
  · rename_i first others failing
    rw [failing] at words
    exact ⟨_, rfl, rfl, by rw [words]⟩

theorem arity_of_no_rejections (read : (Line.split line).opcode = some opcode)
    (row : Instruction.find? opcode.text = some i)
    (number : (Line.split line).operands.length = i.arity)
    (good : rejections i (Line.split line).operands = []) :
    LineCheck.arity origin line = none := by
  apply (arity_eq_none_iff origin line).mpr
  intro token found j same
  obtain rfl := Option.some.inj (read.symm.trans found)
  obtain rfl := Option.some.inj (row.symm.trans same)
  apply (forall₂_accepts_iff i _).mpr
  rw [Line.Parts.operandTexts, failing_eq, good, List.length_map]
  exact ⟨number.symm, rfl⟩

/-- What is found about the operands of a known opcode depends on their number first. -/
theorem arity_judged (read : (Line.split line).opcode = some opcode)
    (row : Instruction.find? opcode.text = some i) :
    Judged i (Line.split line).operands (LineCheck.arity origin line) := by
  rcases Nat.lt_trichotomy i.arity (Line.split line).operands.length with more | same | fewer
  · obtain ⟨d, found, category⟩ := arity_of_more origin read row more
    rw [found]
    exact
      { tooMany := by simpa [IsOf, category] using more
        tooFew := by simpa [IsOf, category] using Nat.le_of_lt more
        types := by simp [IsOf, category, Nat.ne_of_gt more]
        silent := by simp [Nat.ne_of_gt more]
        message := by simp [category] }
  · have none_iff : rejections i (Line.split line).operands = [] ↔
        ∀ entry, ¬Rejected i (Line.split line).operands entry := by
      simp only [List.eq_nil_iff_forall_not_mem, mem_rejections]
    by_cases good : rejections i (Line.split line).operands = []
    · rw [arity_of_no_rejections origin read row same.symm good]
      exact
        { tooMany := by simp [IsOf, same]
          tooFew := by simp [IsOf, same]
          types := by simpa [IsOf, same] using none_iff.mp good
          silent := by simpa [same] using none_iff.mp good
          message := by simp }
    · obtain ⟨d, found, category, message⟩ := arity_of_rejections origin read row same.symm good
      rw [none_iff] at good
      rw [found]
      exact
        { tooMany := by simp [IsOf, category, same]
          tooFew := by simp [IsOf, category, same]
          types := by simpa [IsOf, category, same] using good
          silent := by simpa [same] using good
          message := by
            intro other same _
            obtain rfl := Option.some.inj same
            exact ⟨rejections i (Line.split line).operands,
              ⟨mem_rejections i _, rejections_inOrder i _⟩, message⟩ }
  · obtain ⟨d, found, category⟩ := arity_of_fewer origin read row fewer
    rw [found]
    exact
      { tooMany := by simpa [IsOf, category] using Nat.le_of_lt fewer
        tooFew := by simpa [IsOf, category] using fewer
        types := by simp [IsOf, category, Nat.ne_of_lt fewer]
        silent := by simp [Nat.ne_of_lt fewer]
        message := by simp [category] }

end Known

/-- The check of operands says nothing about a line whose opcode is missing or unknown. Otherwise it
reports too many or too few operands exactly if they are so, whatever they are, and among the right
number of operands exactly those that their constraints reject, in one finding. -/
theorem operands_judged (origin : Origin) (line : String) :
    ((∀ opcode ∈ (Line.split line).opcode, opcode.text ∉ Instruction.mnemonics) →
        LineCheck.arity origin line = none) ∧
      ∀ opcode ∈ (Line.split line).opcode, ∀ i ∈ Instruction.table, i.mnemonic = opcode.text →
        Judged i (Line.split line).operands (LineCheck.arity origin line) := by
  constructor
  · intro unknown
    apply (arity_eq_none_iff origin line).mpr
    intro opcode read i row
    obtain ⟨listed, named⟩ := find?_eq_some_iff.mp row
    exact absurd (named ▸ List.mem_map_of_mem listed) (unknown opcode read)
  · intro opcode read i listed named
    exact arity_judged origin read (find?_eq_some_iff.mpr ⟨listed, named⟩)

/-- Three operands, of which the first and the last are of a wrong type. -/
theorem operands_judged_branch :
    let line := "L:BEQ 8 ,R2,, R3"
    let operands : List Token := [⟨"8", 7⟩, ⟨"R2", 10⟩, ⟨"R3", 15⟩]
    let i : Instruction := ⟨"BEQ", [.sourceOrDestination, .sourceOrDestination, .label]⟩
    i ∈ Instruction.table ∧ Judged i operands (LineCheck.arity {} line) ∧
      IsOf (LineCheck.arity {} line) .invalidOperandType ∧
      (LineCheck.arity {} line).map (·.message) = some
        ("invalid operand type - BEQ requires operands 1 and 2 to each be a valid source or " ++
          "destination and operand 3 to be a valid label; rejected operands 1 ('8'), 3 ('R3')") := by
  intro line operands i
  have member : i ∈ Instruction.table := by decide
  have read : (Line.split line).opcode = some ⟨"BEQ", 3⟩ := by decide
  have judged := (operands_judged {} line).2 ⟨"BEQ", 3⟩ read i member rfl
  have held : (Line.split line).operands = operands := by decide
  rw [held] at judged
  refine ⟨member, judged, judged.types.mpr ⟨rfl, (1, ⟨"8", 7⟩), ?_⟩, by decide +kernel⟩
  exact ⟨0, .sourceOrDestination, rfl, rfl, rfl, by decide⟩

end MalLint.OperandVerdict
