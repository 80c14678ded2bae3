import MalLint.EndPlacement
import Mathlib.Data.List.Basic

/-! Where END stands, line by line. The check of END counts the tokens of a whole program. What it
reports is told here by lines: which line has the first END, whether anything follows it there or
further down, and which later lines have one too. -/
namespace MalLint.EndLines

open EndPlacement

/-- The opcode of a line, if it is END. A label or an operand that is spelled so does not count. -/
def endOpcode? (line : ProgramLine) : Option Token :=
  line.parts.opcode.filter (·.text == "END")

/-- Something follows the END of a line: operands there, or a label or an opcode further down. -/
def Followed (line : ProgramLine) (after : List ProgramLine) : Prop :=
  line.parts.operands ≠ [] ∨
    ∃ later ∈ after, later.parts.label ≠ none ∨ later.parts.opcode ≠ none

instance (line : ProgramLine) (after : List ProgramLine) : Decidable (Followed line after) :=
  inferInstanceAs (Decidable (line.parts.operands ≠ [] ∨
    ∃ later ∈ after, later.parts.label ≠ none ∨ later.parts.opcode ≠ none))

/-- The first END of a program is the opcode of the line between `before` and `after`. -/
structure FirstEnd (program : Program) (before : List ProgramLine) (line : ProgramLine)
    (opcode : Token) (after : List ProgramLine) : Prop where
  lines : program.lines = before ++ line :: after
  read : endOpcode? line = some opcode
  fresh : ∀ earlier ∈ before, endOpcode? earlier = none

/-- END is the opcode of one line only and has no operands, and no later line holds a label or an
opcode. -/
def WellEnded (program : Program) : Prop :=
  ∃ before line opcode after, FirstEnd program before line opcode after ∧
    (∀ later ∈ after, endOpcode? later = none) ∧ line.parts.operands = [] ∧
      ∀ later ∈ after, later.parts.label = none ∧ later.parts.opcode = none

/-- The warning at the first END, if it is followed by something. -/
def misplaced (file : String) (line : ProgramLine) (opcode : Token) : Diagnostic :=
  ⟨.endNotLast, "the END opcode is not the last instruction for this program",
    some ⟨file, line.number, opcode.column⟩, some "END", none⟩

/-- The warning at an END that is not the first. -/
def repeated (file : String) (line : ProgramLine) (opcode : Token) : Diagnostic :=
  ⟨.endDuplicated, "the END opcode appears more than once",
    some ⟨file, line.number, opcode.column⟩, some "END", none⟩

section Tokens

variable {program : Program} {token : ProgramToken} {front back : List ProgramToken}

/-- Whether a token is an END. -/
def isEnd (token : ProgramToken) : Bool :=
  token.role = .opcode && token.text == "END"

theorem ends_eq (program : Program) :
    program.ends = program.tokens.zipIdx.filter (fun entry => isEnd entry.1) :=
  rfl

theorem filter_zipIdx_map_fst (tokens : List ProgramToken) (start : Nat) :
    ((tokens.zipIdx start).filter (fun entry => isEnd entry.1)).map (·.1) =
      tokens.filter isEnd := by
  have whole : (tokens.zipIdx start).map (·.1) = tokens := List.zipIdx_map_fst start tokens
  conv => rhs; rw [← whole]
  rw [List.filter_map]
  rfl

/-- The first END comes with the number of tokens in front of it. -/
theorem ends_of_first (tokens : program.tokens = front ++ token :: back)
    (fresh : front.filter isEnd = []) (found : isEnd token = true) :
    program.ends = (token, front.length) ::
      (back.zipIdx (front.length + 1)).filter (fun entry => isEnd entry.1) := by
  have none : front.zipIdx.filter (fun entry => isEnd entry.1) = [] := by
    rw [← List.map_eq_nil_iff, filter_zipIdx_map_fst, fresh]
  rw [ends_eq, tokens, List.zipIdx_append, List.filter_append, none, List.zipIdx_cons,
    List.nil_append, List.filter_cons, if_pos found, Nat.zero_add]

/-- What is reported about END depends on what follows the first one. -/
theorem check_every_of_first (tokens : program.tokens = front ++ token :: back)
    (fresh : front.filter isEnd = []) (found : isEnd token = true) :
    check .every program = (if back = [] then [] else [notLast program token]) ++
      (back.filter isEnd).map (duplicated program) := by
  have closes : front.length + 1 = program.tokens.length ↔ back = [] := by
    rw [tokens, List.length_append, List.length_cons, ← List.length_eq_zero_iff]
    omega
  rw [check, ends_of_first tokens fresh found, ← filter_zipIdx_map_fst back (front.length + 1),
    List.map_map]
  simp only [decide_eq_true_eq, closes]
  rfl

end Tokens

section Lines

variable {program : Program} {before after : List ProgramLine} {line : ProgramLine} {opcode : Token}

/-- The END of a line as a token of its program. -/
def endToken (line : ProgramLine) (opcode : Token) : ProgramToken :=
  ⟨.opcode, opcode.text, line.number, opcode.column⟩

theorem instruction_of_bare (bare : (Line.instruction column body).1 = none) :
    (Line.instruction column body).2 = [] := by
  by_cases blank : (Text.trimStart body).takeWhile (!Text.isBlank ·) = []
  · simp [Line.instruction, blank]
  · simp [Line.instruction, blank] at bare

theorem operands_of_bare (bare : line.parts.opcode = none) : line.parts.operands = [] := by
  unfold ProgramLine.parts Line.split at bare ⊢
  split at bare <;> exact instruction_of_bare bare

theorem tokens_eq_nil_iff (line : ProgramLine) :
    line.tokens = [] ↔ line.parts.label = none ∧ line.parts.opcode = none := by
  simp only [ProgramLine.tokens, List.append_eq_nil_iff, List.map_eq_nil_iff,
    Option.toList_eq_nil_iff]
  constructor
  · exact fun empty => empty.1
  · exact fun empty => ⟨empty, operands_of_bare empty.2⟩

theorem filter_isEnd_of_role {role : Role} (other : role ≠ .opcode) (line : ProgramLine)
    (tokens : List Token) :
    (tokens.map fun token =>
      (⟨role, token.text, line.number, token.column⟩ : ProgramToken)).filter isEnd = [] := by
  apply List.filter_eq_nil_iff.mpr
  intro placed member
  obtain ⟨token, -, rfl⟩ := List.mem_map.mp member
  simp [isEnd, other]

/-- Only the opcode of a line counts as END. -/
theorem tokens_filter_isEnd (line : ProgramLine) :
    line.tokens.filter isEnd = ((endOpcode? line).map (endToken line)).toList := by
  have label : Role.label ≠ .opcode := by simp
  have operand : Role.operand ≠ .opcode := by simp
  rw [ProgramLine.tokens, List.filter_append, List.filter_append, filter_isEnd_of_role label,
    filter_isEnd_of_role operand, List.nil_append, List.append_nil, endOpcode?]
  cases line.parts.opcode with
  | none => rfl
  | some opcode =>
    by_cases named : opcode.text = "END" <;> simp [isEnd, endToken, Option.filter_some, named]

/-- A line with END holds it behind at most a label and in front of its operands. -/
theorem tokens_of_end (read : endOpcode? line = some opcode) :
    ∃ front back, line.tokens = front ++ endToken line opcode :: back ∧
      front.filter isEnd = [] ∧ back.filter isEnd = [] ∧
        (back = [] ↔ line.parts.operands = []) := by
  obtain ⟨spelled, -⟩ := Option.filter_eq_some_iff.mp read
  have label : Role.label ≠ .opcode := by simp
  have operand : Role.operand ≠ .opcode := by simp
  refine ⟨_, _, ?_, filter_isEnd_of_role label line line.parts.label.toList,
    filter_isEnd_of_role operand line line.parts.operands, List.map_eq_nil_iff⟩
  simp [ProgramLine.tokens, spelled, endToken]

theorem flatMap_filter_isEnd (lines : List ProgramLine) :
    (lines.flatMap (·.tokens)).filter isEnd =
      lines.filterMap fun line => (endOpcode? line).map (endToken line) := by
  rw [List.filter_flatMap, List.filterMap_eq_flatMap_toList]
  simp only [tokens_filter_isEnd]

theorem isEnd_endToken (read : endOpcode? line = some opcode) :
    isEnd (endToken line opcode) = true := by
  have named := (Option.filter_eq_some_iff.mp read).2
  simpa [isEnd, endToken] using named

/-- Nothing follows the END of a line exactly if no token does. -/
theorem not_followed_iff (behind : back = [] ↔ line.parts.operands = []) :
    back ++ after.flatMap (·.tokens) = [] ↔ ¬Followed line after := by
  simp only [Followed, List.append_eq_nil_iff, List.flatMap_eq_nil_iff, tokens_eq_nil_iff, behind,
    not_or, not_exists, not_and, ne_eq, not_not]

/-- The warnings under the policy that reports every repeated END, by lines. -/
theorem FirstEnd.check_every (first : FirstEnd program before line opcode after) :
    check .every program =
      (if Followed line after then [misplaced program.file line opcode] else []) ++
        after.filterMap fun later => (endOpcode? later).map (repeated program.file later) := by
  obtain ⟨front, back, held, early, late, behind⟩ := tokens_of_end first.read
  have fresh : (before.flatMap (·.tokens) ++ front).filter isEnd = [] := by
    rw [List.filter_append, flatMap_filter_isEnd, early, List.append_nil,
      List.filterMap_eq_nil_iff]
    intro earlier member
    rw [first.fresh earlier member, Option.map_none]
  have tokens : program.tokens = (before.flatMap (·.tokens) ++ front) ++
      endToken line opcode :: (back ++ after.flatMap (·.tokens)) := by
    simp [Program.tokens, first.lines, held]
  rw [check_every_of_first tokens fresh (isEnd_endToken first.read), List.filter_append, late,
    List.nil_append, flatMap_filter_isEnd, List.map_filterMap]
  congr 1
  · by_cases followed : Followed line after
    · rw [if_pos followed, if_neg (mt (not_followed_iff behind).mp (not_not_intro followed))]
      rfl
    · rw [if_neg followed, if_pos ((not_followed_iff behind).mpr followed)]
  · simp only [Option.map_map]
    rfl

theorem exists_firstEnd (program : Program) :
    (∀ line ∈ program.lines, endOpcode? line = none) ∨
      ∃ before line opcode after, FirstEnd program before line opcode after := by
  cases found : program.lines.find? (fun line => (endOpcode? line).isSome) with
  | none =>
    left
    simpa using found
  | some line =>
    right
    obtain ⟨named, before, after, lines, fresh⟩ := List.find?_eq_some_iff_append.mp found
    obtain ⟨opcode, read⟩ := Option.isSome_iff_exists.mp named
    refine ⟨before, line, opcode, after, lines, read, ?_⟩
    intro earlier member
    simpa using fresh earlier member

theorem check_of_no_end (policy : EndPolicy)
    (without : ∀ line ∈ program.lines, endOpcode? line = none) :
    check policy program = [missing] := by
  have ends : program.ends = [] := by
    rw [ends_eq, ← List.map_eq_nil_iff, filter_zipIdx_map_fst, Program.tokens,
      flatMap_filter_isEnd, List.filterMap_eq_nil_iff]
    intro line member
    rw [without line member, Option.map_none]
  rw [check, ends]

theorem check_every_eq_nil_iff (program : Program) :
    check .every program = [] ↔ WellEnded program := by
  constructor
  · intro silent
    rcases exists_firstEnd program with without | ⟨before, line, opcode, after, first⟩
    · rw [check_of_no_end .every without] at silent
      cases silent
    · rw [first.check_every, List.append_eq_nil_iff, List.filterMap_eq_nil_iff] at silent
      obtain ⟨unfollowed, once⟩ := silent
      have alone : ¬Followed line after := by
        intro followed
        rw [if_pos followed] at unfollowed
        cases unfollowed
      simp only [Followed, not_or, not_exists, not_and, ne_eq, not_not] at alone
      refine ⟨before, line, opcode, after, first, ?_, alone.1, alone.2⟩
      intro later member
      exact Option.map_eq_none_iff.mp (once later member)
  · rintro ⟨before, line, opcode, after, first, once, bare, nothing⟩
    have alone : ¬Followed line after := by
      rintro (operands | ⟨later, member, label | opcode⟩)
      · exact operands bare
      · exact label (nothing later member).1
      · exact opcode (nothing later member).2
    rw [first.check_every, if_neg alone, List.nil_append, List.filterMap_eq_nil_iff]
    intro later member
    rw [once later member, Option.map_none]

/-- Where there is an END, none is reported to be missing. -/
theorem FirstEnd.category_ne (first : FirstEnd program before line opcode after)
    (member : d ∈ check .every program) : d.category ≠ .endMissing := by
  rw [first.check_every] at member
  rcases List.mem_append.mp member with head | tail
  · split at head
    · rw [List.mem_singleton.mp head]
      simp [misplaced]
    · cases head
  · obtain ⟨later, -, found⟩ := List.mem_filterMap.mp tail
    obtain ⟨opcode, -, rfl⟩ := Option.map_eq_some_iff.mp found
    simp [repeated]

end Lines

/-- What is reported about END where every repeated END counts. It is nothing exactly if END is the
opcode of one line only, has no operands and is not followed by a label or an opcode; it is that
END is missing, without a place, exactly if no line has it; and otherwise it is that the first END
is not the last token, if anything follows it, and then each later line that has END, in order and
at its opcode. -/
theorem end_told_by_lines (program : Program) :
    (check .every program = [] ↔ WellEnded program) ∧
    ((∃ d, check .every program = [d] ∧ d.category = .endMissing ∧ d.location = none) ↔
      ∀ line ∈ program.lines, endOpcode? line = none) ∧
    ((∀ line ∈ program.lines, endOpcode? line = none) ∨
      ∃ before line opcode after, FirstEnd program before line opcode after ∧
        check .every program =
          (if Followed line after then [misplaced program.file line opcode] else []) ++
            after.filterMap fun later =>
              (endOpcode? later).map (repeated program.file later)) := by
  refine ⟨check_every_eq_nil_iff program, ⟨?_, ?_⟩, ?_⟩
  · rintro ⟨d, only, category, -⟩
    rcases exists_firstEnd program with without | ⟨before, line, opcode, after, first⟩
    · exact without
    · have member : d ∈ check .every program := by simp [only]
      exact absurd category (first.category_ne member)
  · intro without
    exact ⟨missing, check_of_no_end .every without, rfl, rfl⟩
  · apply (exists_firstEnd program).imp_right
    rintro ⟨before, line, opcode, after, first⟩
    exact ⟨before, line, opcode, after, first, first.check_every⟩

end MalLint.EndLines
