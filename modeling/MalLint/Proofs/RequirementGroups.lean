import MalLint.Instruction
import Mathlib.Data.List.Induction
import Mathlib.Data.List.Nodup

/-! What an instruction says about its operands. The sentence names each position once: positions
with the same constraint stand together in one clause, and the clauses come in the order in which
the constraints first come up. Numbers are joined only where a clause names two or more. The groups
that the sentence names are those that a walk over the operands gathers. -/
namespace MalLint.RequirementGroups

/-- A constraint and the positions that a clause names for it. -/
structure Group where
  constraint : Constraint
  positions : List Nat

/-- One more position is entered with its constraint. It joins the group of the constraint, which is
opened behind the others if there is none. -/
def enter (groups : List Group) (entry : Constraint × Nat) : List Group :=
  if groups.any (·.constraint = entry.1) then
    groups.map fun group =>
      if group.constraint = entry.1 then { group with positions := group.positions ++ [entry.2] }
      else group
  else
    groups ++ [⟨entry.1, [entry.2]⟩]

/-- The groups that a walk over the operands gathers. -/
def gathered (operands : List Constraint) : List Group :=
  (operands.zipIdx 1).foldl enter []

/-- The groups into which a list of constraints falls. Positions are counted from 1. -/
structure Grouping (operands : List Constraint) (groups : List Group) : Prop where
  constraint_iff : ∀ c, (∃ group ∈ groups, group.constraint = c) ↔ c ∈ operands
  /-- No constraint has two groups, and the one that comes up first comes first. -/
  inOrder : groups.Pairwise fun a b => operands.idxOf a.constraint < operands.idxOf b.constraint
  position_iff : ∀ group ∈ groups, ∀ position, position ∈ group.positions ↔
    1 ≤ position ∧ operands[position - 1]? = some group.constraint
  ascending : ∀ group ∈ groups, group.positions.Pairwise (· < ·)

/-- The words about a group. A single position stands for itself. Numbers are joined if there are
two or more of them: by commas, and the last one by a word. -/
inductive Worded : Group → String → Prop where
  | one (c : Constraint) (position : Nat) :
      Worded ⟨c, [position]⟩ s!"operand {position} to be {c.description}"
  | several (c : Constraint) (two : 2 ≤ positions.length) (shape : positions = front ++ [last])
      (joined : Instruction.joinNumbers positions =
        ", ".intercalate (front.map toString) ++ " and " ++ toString last) :
      Worded ⟨c, positions⟩
        s!"operands {Instruction.joinNumbers positions} to each be {c.description}"

namespace Grouping

variable {operands : List Constraint} {groups : List Group}

/-- Every clause has a position to name. -/
theorem positions_ne_nil (grouping : Grouping operands groups) (member : group ∈ groups) :
    group.positions ≠ [] := by
  have listed := (grouping.constraint_iff group.constraint).mp ⟨group, member, rfl⟩
  obtain ⟨index, held⟩ := List.mem_iff_getElem?.mp listed
  have named := (grouping.position_iff group member (index + 1)).mpr ⟨by omega, held⟩
  exact List.ne_nil_of_mem named

/-- No position is named in two clauses, nor twice in one. -/
theorem positions_nodup (grouping : Grouping operands groups) :
    (groups.flatMap (·.positions)).Nodup := by
  apply List.nodup_flatMap.mpr
  constructor
  · intro group member
    exact (grouping.ascending group member).imp Nat.ne_of_lt
  · apply grouping.inOrder.imp_of_mem
    intro a b first second before position left right
    have one := ((grouping.position_iff a first position).mp left).2
    have other := ((grouping.position_iff b second position).mp right).2
    have same : a.constraint = b.constraint := Option.some.inj (one.symm.trans other)
    rw [same] at before
    exact Nat.lt_irrefl _ before

theorem mem_positions_iff (grouping : Grouping operands groups) (position : Nat) :
    position ∈ groups.flatMap (·.positions) ↔ 1 ≤ position ∧ position - 1 < operands.length := by
  rw [List.mem_flatMap]
  constructor
  · rintro ⟨group, member, named⟩
    obtain ⟨low, held⟩ := (grouping.position_iff group member position).mp named
    exact ⟨low, (List.getElem?_eq_some_iff.mp held).1⟩
  · rintro ⟨low, high⟩
    have held := List.getElem?_eq_getElem high
    obtain ⟨group, member, same⟩ := (grouping.constraint_iff _).mpr (List.mem_of_getElem? held)
    exact ⟨group, member, (grouping.position_iff group member position).mpr ⟨low, same ▸ held⟩⟩

/-- The clauses share out all positions among them. -/
theorem positions_perm (grouping : Grouping operands groups) :
    (groups.flatMap (·.positions)).Perm (List.range' 1 operands.length) := by
  apply (List.perm_ext_iff_of_nodup grouping.positions_nodup List.nodup_range').mpr
  intro position
  rw [grouping.mem_positions_iff, List.mem_range'_1]
  omega

end Grouping

section Sentence

variable (i : Instruction)

/-- The groups of which the sentence speaks. -/
def groups : List Group :=
  (distinct i.operands).map fun c => ⟨c, i.positions c⟩

theorem mem_positions (c : Constraint) (position : Nat) :
    position ∈ i.positions c ↔ 1 ≤ position ∧ i.operands[position - 1]? = some c := by
  simp only [Instruction.positions, List.mem_map, List.mem_filter, Prod.exists, decide_eq_true_eq,
    List.mk_mem_zipIdx_iff_le_and_getElem?_sub]
  constructor
  · rintro ⟨d, _, ⟨held, rfl⟩, rfl⟩
    exact held
  · exact fun held => ⟨c, position, ⟨held, rfl⟩, rfl⟩

theorem positions_ascending (c : Constraint) : (i.positions c).Pairwise (· < ·) := by
  rw [Instruction.positions, List.pairwise_map]
  exact (zipIdx_inOrder i.operands 1).filter _

theorem grouping_groups : Grouping i.operands (groups i) where
  constraint_iff c := by simp [groups]
  inOrder := by
    have ordered := distinctBy_inOrder id i.operands
    rw [List.map_id] at ordered
    exact List.pairwise_map.mpr ordered
  position_iff group member := by
    obtain ⟨c, -, rfl⟩ := List.mem_map.mp member
    exact mem_positions i c
  ascending group member := by
    obtain ⟨c, -, rfl⟩ := List.mem_map.mp member
    exact positions_ascending i c

/-- An operand behind the others adds its position to those of its constraint only. -/
theorem positions_concat (mnemonic : String) (front : List Constraint) (last c : Constraint) :
    Instruction.positions ⟨mnemonic, front ++ [last]⟩ c =
      Instruction.positions ⟨mnemonic, front⟩ c ++
        if c = last then [front.length + 1] else [] := by
  simp only [Instruction.positions, List.zipIdx_append, List.filter_append, List.map_append]
  by_cases same : c = last
  · simp [same, Nat.add_comm]
  · simp [same, Ne.symm same]

/-- The sentence about one operand more has the groups of the others, with this operand entered. -/
theorem groups_concat (mnemonic : String) (front : List Constraint) (last : Constraint) :
    groups ⟨mnemonic, front ++ [last]⟩ =
      enter (groups ⟨mnemonic, front⟩) (last, front.length + 1) := by
  have known : (groups ⟨mnemonic, front⟩).any (·.constraint = last) = true ↔ last ∈ front := by
    simp [groups]
  have constraints : distinct (front ++ [last]) =
      distinct front ++ if last ∈ front then [] else [last] := by
    rw [distinct, distinctBy_append, List.map_id]
    by_cases member : last ∈ front <;> simp [distinctBy, distinct, member]
  simp only [enter, known]
  by_cases member : last ∈ front
  · rw [if_pos member, groups, constraints, if_pos member, List.append_nil, groups, List.map_map]
    refine List.map_congr_left fun c _ => ?_
    by_cases same : c = last <;> simp [positions_concat, same]
  · have fresh : Instruction.positions ⟨mnemonic, front⟩ last = [] := by
      apply List.eq_nil_iff_forall_not_mem.mpr
      intro position named
      exact member (List.mem_of_getElem? ((mem_positions _ last position).mp named).2)
    rw [if_neg member, groups, constraints, if_neg member, List.map_append, groups]
    congr 1
    · refine List.map_congr_left fun c listed => ?_
      have other : c ≠ last := by
        rintro rfl
        exact member (mem_distinct.mp listed)
      simp [positions_concat, other]
    · simp [positions_concat, fresh]

/-- The groups of the sentence are those that a walk over the operands gathers. -/
theorem gathered_eq_groups (mnemonic : String) (operands : List Constraint) :
    gathered operands = groups ⟨mnemonic, operands⟩ := by
  -- The walk goes from the front, so the operands are taken off at the end.
  induction operands using List.reverseRecOn with
  | nil => rfl
  | append_singleton front last ih =>
    have step : gathered (front ++ [last]) = enter (gathered front) (last, front.length + 1) := by
      simp only [gathered, List.zipIdx_append, List.foldl_append, Nat.add_comm]
      rfl
    rw [step, ih, groups_concat]

theorem joinNumbers_concat (front : List Nat) (last : Nat) :
    Instruction.joinNumbers (front ++ [last]) =
      ", ".intercalate (front.map toString) ++ " and " ++ toString last := by
  simp [Instruction.joinNumbers]

theorem worded_clause (c : Constraint) {positions : List Nat} (nonempty : positions ≠ []) :
    Worded ⟨c, positions⟩ (Instruction.clause c positions) := by
  rcases List.eq_nil_or_concat positions with rfl | ⟨front, last, rfl⟩
  · exact absurd rfl nonempty
  · cases front with
    | nil => exact .one c last
    | cons first others =>
      rw [List.concat_eq_append]
      have two : 2 ≤ (first :: others ++ [last]).length := by simp
      have words := Worded.several c two rfl (joinNumbers_concat (first :: others) last)
      -- whether there is a second number is seen only once the list is opened
      cases others <;> exact words

theorem requirements_eq (nonempty : i.operands ≠ []) :
    i.requirements = i.mnemonic ++ " requires " ++ " and ".intercalate
      ((groups i).map fun group => Instruction.clause group.constraint group.positions) := by
  have present : i.operands.isEmpty = false := by simpa using nonempty
  rw [Instruction.requirements, present, groups, List.map_map]
  rfl

end Sentence

/-- The sentence about the operands of an instruction has a clause for each constraint, in the order
in which they first come up. The clause of a constraint names exactly the positions at which it
stands, so that all clauses together name each position once. The clauses are about the groups that
a walk over the operands gathers. -/
theorem requirements_name_each_position (mnemonic : String) (operands : List Constraint)
    (nonempty : operands ≠ []) :
    let groups := gathered operands
    Grouping operands groups ∧
      Instruction.requirements ⟨mnemonic, operands⟩ =
        mnemonic ++ " requires " ++ " and ".intercalate
          (groups.map fun group => Instruction.clause group.constraint group.positions) ∧
      (∀ group ∈ groups, Worded group (Instruction.clause group.constraint group.positions)) ∧
      (groups.flatMap (·.positions)).Perm (List.range' 1 operands.length) := by
  intro groups
  have same : groups = RequirementGroups.groups ⟨mnemonic, operands⟩ :=
    gathered_eq_groups mnemonic operands
  have grouping : Grouping operands groups := by
    rw [same]
    exact grouping_groups ⟨mnemonic, operands⟩
  refine ⟨grouping, ?_, ?_, grouping.positions_perm⟩
  · rw [requirements_eq _ nonempty, same]
  · intro group member
    exact worded_clause group.constraint (grouping.positions_ne_nil member)

/-- A constraint that comes up again after others. -/
theorem requirements_name_each_position_mixed :
    let operands := [.label, .octal, .label, .sourceOrDestination, .label]
    let groups := gathered operands
    operands ≠ [] ∧
      (Grouping operands groups ∧
        Instruction.requirements ⟨"JMP", operands⟩ =
          "JMP" ++ " requires " ++ " and ".intercalate
            (groups.map fun group => Instruction.clause group.constraint group.positions) ∧
        (∀ group ∈ groups, Worded group (Instruction.clause group.constraint group.positions)) ∧
        (groups.flatMap (·.positions)).Perm [1, 2, 3, 4, 5]) ∧
      Instruction.requirements ⟨"JMP", operands⟩ =
        "JMP requires operands 1, 3 and 5 to each be a valid label and operand 2 to be " ++
          "a number in octal form and operand 4 to be a valid source or destination" := by
  intro operands groups
  have nonempty : operands ≠ [] := List.cons_ne_nil _ _
  exact ⟨nonempty, requirements_name_each_position "JMP" operands nonempty, by decide +kernel⟩

end MalLint.RequirementGroups
