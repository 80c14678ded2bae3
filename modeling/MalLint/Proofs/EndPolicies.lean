import MalLint.Proofs.EndLines

/-! The two policies on repeated ENDs. Both report the first END, if it is not the last token, and
then one END after the other; the legacy policy withdraws what it has reported when it comes to an
END that is the last token. This can only be the last END of all, so nothing is lost behind it, and
the policies part ways exactly where the last token of a program repeats END. -/
namespace MalLint.EndPolicies

open EndPlacement EndLines

/-- The program has at least two ENDs, and its last token is one. -/
def ClosesAgain (program : Program) : Prop :=
  2 ≤ (program.tokens.filter isEnd).length ∧
    ∃ token, program.tokens.getLast? = some token ∧ isEnd token = true

/-- One more END is met. Under the legacy policy it withdraws all that was reported before, if it
is the last token. -/
def meet (policy : EndPolicy) (program : Program) (reported : List Diagnostic)
    (entry : ProgramToken × Nat) : List Diagnostic :=
  (if policy = .legacy ∧ entry.2 + 1 = program.tokens.length then [] else reported) ++
    [duplicated program entry.1]

/-- What a walk over the ENDs of a program reports. -/
def gathered (policy : EndPolicy) (program : Program) : List Diagnostic :=
  match program.ends with
  | [] => [missing]
  | first :: later =>
    later.foldl (meet policy program)
      (if first.2 + 1 = program.tokens.length then [] else [notLast program first.1])

variable {program : Program} {policy : EndPolicy} {first last entry : ProgramToken × Nat}
  {front later : List (ProgramToken × Nat)}

theorem mem_ends_iff :
    entry ∈ program.ends ↔ program.tokens[entry.2]? = some entry.1 ∧ isEnd entry.1 = true := by
  rw [ends_eq, List.mem_filter, List.mem_zipIdx_iff_getElem?]

theorem index_lt (member : entry ∈ program.ends) : entry.2 < program.tokens.length :=
  (List.getElem?_eq_some_iff.mp (mem_ends_iff.mp member).1).1

theorem ends_inOrder (program : Program) : program.ends.Pairwise fun a b => a.2 < b.2 :=
  (zipIdx_inOrder program.tokens 0).filter _

/-- No END but the last one can be the last token. -/
theorem inner_of_ends (ends : program.ends = front ++ [last]) (member : entry ∈ front) :
    entry.2 + 1 < program.tokens.length := by
  have listed : last ∈ program.ends := by simp [ends]
  have bound := index_lt listed
  have order := ends_inOrder program
  rw [ends] at order
  have before := (List.pairwise_append.mp order).2.2 entry member last List.mem_cons_self
  omega

/-- The last END is the last token exactly if the last token is an END. -/
theorem closes_iff (ends : program.ends = front ++ [last]) :
    last.2 + 1 = program.tokens.length ↔
      ∃ token, program.tokens.getLast? = some token ∧ isEnd token = true := by
  have listed : last ∈ program.ends := by simp [ends]
  have bound := index_lt listed
  obtain ⟨held, named⟩ := mem_ends_iff.mp listed
  rw [List.getLast?_eq_getElem?]
  constructor
  · intro closes
    refine ⟨last.1, ?_, named⟩
    rw [← closes, Nat.add_sub_cancel, held]
  · rintro ⟨token, final, spelled⟩
    have member : (token, program.tokens.length - 1) ∈ program.ends :=
      mem_ends_iff.mpr ⟨final, spelled⟩
    rw [ends] at member
    rcases List.mem_append.mp member with inside | same
    · have inner := inner_of_ends ends inside
      simp only at inner
      omega
    · rw [← List.mem_singleton.mp same]
      simp only
      omega

/-- An END that is not the last token only adds its warning, whatever the policy. -/
theorem meet_of_inner (inner : entry.2 + 1 < program.tokens.length) (reported : List Diagnostic) :
    meet policy program reported entry = reported ++ [duplicated program entry.1] := by
  rw [meet, if_neg]
  rintro ⟨-, closes⟩
  omega

/-- A walk over such ENDs withdraws nothing. -/
theorem foldl_meet_of_inner (inner : ∀ entry ∈ later, entry.2 + 1 < program.tokens.length)
    (reported : List Diagnostic) :
    later.foldl (meet policy program) reported =
      reported ++ later.map fun entry => duplicated program entry.1 := by
  induction later generalizing reported with
  | nil => simp
  | cons entry rest ih =>
    rw [List.foldl_cons, meet_of_inner (inner entry List.mem_cons_self),
      ih fun other member => inner other (List.mem_cons_of_mem entry member)]
    simp

/-- Where END is repeated, only the last step of the walk depends on the policy. -/
theorem gathered_of_repeated (policy : EndPolicy)
    (ends : program.ends = first :: (front ++ [last])) :
    gathered policy program = meet policy program
      (notLast program first.1 :: front.map fun entry => duplicated program entry.1) last := by
  have inner : ∀ entry ∈ first :: front, entry.2 + 1 < program.tokens.length := by
    intro entry member
    exact inner_of_ends ends member
  have followed := inner first List.mem_cons_self
  have start : (if first.2 + 1 = program.tokens.length then [] else [notLast program first.1]) =
      [notLast program first.1] := if_neg (by omega)
  rw [gathered, ends]
  simp only
  rw [start, List.foldl_append, foldl_meet_of_inner
    fun entry member => inner entry (List.mem_cons_of_mem first member)]
  rfl

/-- The findings about END are those of the walk. -/
theorem check_eq_gathered (policy : EndPolicy) (program : Program) :
    check policy program = gathered policy program := by
  cases ends : program.ends with
  | nil => simp [check, gathered, ends]
  | cons first later =>
    rcases List.eq_nil_or_concat later with rfl | ⟨front, last, rfl⟩
    · cases policy <;> simp [check, gathered, ends]
    · rw [List.concat_eq_append] at ends
      have followed : first.2 + 1 < program.tokens.length :=
        inner_of_ends (by simpa using ends) List.mem_cons_self
      rw [gathered_of_repeated policy ends]
      cases policy with
      | every => simp [check, ends, meet, Nat.ne_of_lt followed]
      | legacy =>
        by_cases closes : last.2 + 1 = program.tokens.length <;>
          simp [check, ends, meet, closes, Nat.ne_of_lt followed]

theorem filter_isEnd_length (program : Program) :
    (program.tokens.filter isEnd).length = program.ends.length := by
  rw [← filter_zipIdx_map_fst program.tokens 0, List.length_map, ends_eq]

theorem closesAgain_iff (ends : program.ends = first :: (front ++ [last])) :
    ClosesAgain program ↔ last.2 + 1 = program.tokens.length := by
  have twice : 2 ≤ (program.tokens.filter isEnd).length := by
    simp [filter_isEnd_length, ends]
  have parted : program.ends = (first :: front) ++ [last] := ends
  rw [ClosesAgain, and_iff_right twice, closes_iff parted]

/-- Either the last token repeats END, and only the last of several warnings is left, or the
policies agree. -/
theorem policies_compared (program : Program) :
    (ClosesAgain program ∧ 2 ≤ (check .every program).length ∧
      ∃ last, (check .every program).getLast? = some last ∧ check .legacy program = [last]) ∨
    (¬ClosesAgain program ∧ check .legacy program = check .every program) := by
  rw [check_eq_gathered, check_eq_gathered]
  have once (few : program.ends.length < 2) : ¬ClosesAgain program := by
    rintro ⟨twice, -⟩
    rw [filter_isEnd_length] at twice
    omega
  cases ends : program.ends with
  | nil => exact .inr ⟨once (by simp [ends]), by simp [gathered, ends]⟩
  | cons first later =>
    rcases List.eq_nil_or_concat later with rfl | ⟨front, last, rfl⟩
    · exact .inr ⟨once (by simp [ends]), by simp [gathered, ends]⟩
    · rw [List.concat_eq_append] at ends
      rw [closesAgain_iff ends, gathered_of_repeated .every ends, gathered_of_repeated .legacy ends]
      by_cases closes : last.2 + 1 = program.tokens.length
      · left
        simp [meet, closes, List.getLast?_cons]
      · right
        simp [meet, closes]

/-- Under the legacy policy the last warnings of the other policy are left: all of them, unless END
is repeated and the last token is an END, in which case it is the very last one of at least two.
Under either policy they are those of a walk over the ENDs, on which an END that is the last token
may withdraw what was reported before it. -/
theorem legacy_against_every (program : Program) :
    (∀ policy, check policy program = gathered policy program) ∧
    check .legacy program <:+ check .every program ∧
    ((ClosesAgain program ∧ 2 ≤ (check .every program).length ∧
      ∃ last, (check .every program).getLast? = some last ∧ check .legacy program = [last]) ∨
    (¬ClosesAgain program ∧ check .legacy program = check .every program)) ∧
    (check .legacy program = [] ↔ check .every program = []) ∧
    (check .legacy program ≠ check .every program ↔ ClosesAgain program) := by
  have compared := policies_compared program
  refine ⟨fun policy => check_eq_gathered policy program, ?_, compared, ?_, ?_⟩
  · rcases compared with ⟨-, -, last, final, left⟩ | ⟨-, same⟩
    · obtain ⟨front, shape⟩ := List.getLast?_eq_some_iff.mp final
      rw [left, shape]
      exact List.suffix_append front [last]
    · exact same ▸ List.suffix_refl _
  · rcases compared with ⟨-, several, last, -, left⟩ | ⟨-, same⟩
    · apply iff_of_false
      · simp [left]
      · intro nothing
        simp [nothing] at several
    · rw [same]
  · rcases compared with ⟨closes, several, last, -, left⟩ | ⟨agree, same⟩
    · refine iff_of_true ?_ closes
      intro same
      rw [← same, left] at several
      simp at several
    · exact iff_of_false (not_not_intro same) agree

end MalLint.EndPolicies
