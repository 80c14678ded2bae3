import MalLint.Proofs.Renumbering
import MalLint.Proofs.Verdict

/-! Checking two sources that are joined by a line feed. What the whole says follows from what the
parts say: a finding of one part is dropped if the other part declares or mentions its name, and no
other finding is added or lost. -/
namespace MalLint.SourceComposition

open LabelWiring SourceLines Renumbering Verdict

/-- The findings about labels that belong to one category. -/
def wiringOf (category : Category) (findings : Findings) : List Diagnostic :=
  findings.wiring.filter (·.category = category)

/-- The findings that are about none of some names. -/
def without (names : List String) (findings : List Diagnostic) : List Diagnostic :=
  findings.filter fun d => d.subject.all (· ∉ names)

/-- How the findings about two joined sources come from those about the parts, where the lines of
the second part are moved by `distance`. -/
structure Composed (first second joined : Findings) (distance : Nat) : Prop where
  /-- The lines of code of the parts follow each other. -/
  program : joined.program =
    ⟨first.program.lines ++ second.program.lines.map (moveLine distance), first.program.file⟩
  /-- The findings about single lines follow each other. -/
  lines : joined.lines = first.lines ++ second.lines.map (moveFindings distance)
  /-- The second part adds the identifiers that the first does not use. -/
  identifiers : joined.identifiers =
    first.identifiers ++ second.identifiers.filter (· ∉ first.identifiers)
  /-- A mention in the other part saves a label, and so does an earlier declaration. -/
  unreferenced : wiringOf .unreferencedLabel joined =
    without (mentions second.program) (wiringOf .unreferencedLabel first) ++
      (without (mentions first.program ++ labels first.program)
        (wiringOf .unreferencedLabel second)).map (moveDiagnostic distance)
  /-- A declaration in the other part saves a branch. -/
  dangling : wiringOf .danglingBranchTarget joined =
    without (labels second.program) (wiringOf .danglingBranchTarget first) ++
      (without (labels first.program)
        (wiringOf .danglingBranchTarget second)).map (moveDiagnostic distance)
  /-- There are no other findings about labels. -/
  wiring : joined.wiring =
    wiringOf .unreferencedLabel joined ++ wiringOf .danglingBranchTarget joined
  /-- Valid parts make a valid whole. -/
  valid : first.isValid = true → second.isValid = true → joined.isValid = true

/-- One program after another, whose lines are moved by `distance`. -/
def joinedPrograms (first second : Program) (distance : Nat) : Program :=
  ⟨first.lines ++ second.lines.map (moveLine distance), first.file⟩

theorem declarations_joined (first second : Program) (distance : Nat) :
    declarations (joinedPrograms first second distance) =
      declarations first ++ (declarations second).map (moveToken distance) := by
  simp only [declarations, joinedPrograms, List.filterMap_append, List.filterMap_map,
    List.map_filterMap, Function.comp_def, declaration?_moveLine]

theorem labels_joined (first second : Program) (distance : Nat) :
    labels (joinedPrograms first second distance) = labels first ++ labels second := by
  rw [← declarations_map_text, declarations_joined, List.map_append, List.map_map,
    declarations_map_text, ← declarations_map_text second]
  rfl

theorem mentions_joined (first second : Program) (distance : Nat) :
    mentions (joinedPrograms first second distance) = mentions first ++ mentions second := by
  simp only [mentions, joinedPrograms, List.flatMap_append, List.flatMap_map]
  rfl

theorem without_unmentioned (names : List String) (file : String) (tokens : List ProgramToken) :
    without names (tokens.map (unmentioned file)) =
      (tokens.filter fun token => decide (token.text ∉ names)).map (unmentioned file) := by
  rw [without, List.filter_map]
  rfl

theorem unreferenced_joined (first second : Program) (distance : Nat)
    (file : first.file = second.file) :
    Wiring.unreferenced (joinedPrograms first second distance) =
      without (mentions second) (Wiring.unreferenced first) ++
        (without (mentions first ++ labels first) (Wiring.unreferenced second)).map
          (moveDiagnostic distance) := by
  have sameFile : (joinedPrograms first second distance).file = second.file := file
  have moved : unmentioned second.file ∘ moveToken distance =
      moveDiagnostic distance ∘ unmentioned second.file :=
    funext (unmentioned_moveToken second.file distance)
  have text : (·.text) ∘ moveToken distance = (·.text) := rfl
  simp only [unreferenced_eq, declarations_joined, mentions_joined, sameFile, file,
    distinctBy_append, distinctBy_map, text, declarations_map_text, without_unmentioned,
    List.filter_append, List.map_append, List.filter_filter, List.filter_map, List.map_map, moved]
  -- The first declaration of a name counts, so the second part is also cut by the labels of the
  -- first; both parts are cut by all mentions.
  congr 2
  · refine List.filter_congr fun token _ => ?_
    rw [Bool.eq_iff_iff]
    simp only [Bool.and_eq_true, decide_eq_true_eq, List.mem_append, not_or]
    tauto
  · refine List.filter_congr fun token _ => ?_
    rw [Bool.eq_iff_iff]
    have same : (moveToken distance token).text = token.text := congrFun text token
    simp only [Function.comp_apply, same, Bool.and_eq_true, decide_eq_true_eq, List.mem_append,
      not_or]
    tauto

/-- A branch that is stray among some declared names stays so among more of them, unless its target
is one of the new ones. -/
theorem stray?_more (every declared more : List String)
    (covers : ∀ name, name ∈ every ↔ name ∈ declared ∨ name ∈ more) (file : String)
    (line : ProgramLine) :
    stray? file every line =
      (stray? file declared line).filter fun d => d.subject.all fun name => decide (name ∉ more) := by
  cases target : Wiring.branchTarget? line with
  | none => simp [stray?, target]
  | some token =>
    simp only [stray?, target, covers, not_or, Option.bind_some]
    by_cases stray : Operand.isIdentifier (Operand.stripColon token.text) = true ∧
        Operand.stripColon token.text ∉ declared
    · by_cases new : Operand.stripColon token.text ∈ more <;> simp [stray, new, Option.filter]
    · rw [if_neg stray, if_neg (fun both => stray ⟨both.1, both.2.1⟩)]
      rfl

theorem dangling_joined (first second : Program) (distance : Nat)
    (file : first.file = second.file) :
    Wiring.dangling (joinedPrograms first second distance) =
      without (labels second) (Wiring.dangling first) ++
        (without (labels first) (Wiring.dangling second)).map (moveDiagnostic distance) := by
  have sameFile : (joinedPrograms first second distance).file = second.file := file
  have inFirst := stray?_more (labels first ++ labels second) (labels first) (labels second)
    (fun name => List.mem_append) second.file
  have inSecond := stray?_more (labels first ++ labels second) (labels second) (labels first)
    (fun name => List.mem_append.trans or_comm) second.file
  simp only [dangling_eq, labels_joined, sameFile, file, without, List.filter_filterMap,
    List.map_filterMap]
  simp only [joinedPrograms, List.filterMap_append, List.filterMap_map, Function.comp_def,
    stray?_moveLine]
  congr 1
  · exact List.filterMap_congr fun line _ => inFirst line
  · exact List.filterMap_congr fun line _ => congrArg _ (inSecond line)

theorem wiringOf_unreferencedLabel (settings : Settings) (program : Program) :
    wiringOf .unreferencedLabel (program.check settings) = Wiring.unreferenced program := by
  have kept : (Wiring.unreferenced program).filter (·.category = .unreferencedLabel) =
      Wiring.unreferenced program :=
    List.filter_eq_self.mpr fun d member => by simp [unreferenced_category member]
  have dropped : (Wiring.dangling program).filter (·.category = .unreferencedLabel) = [] :=
    List.filter_eq_nil_iff.mpr fun d member => by simp [dangling_category member]
  simp only [wiringOf, Program.check, Wiring.check, List.filter_append, kept, dropped,
    List.append_nil]

theorem wiringOf_danglingBranchTarget (settings : Settings) (program : Program) :
    wiringOf .danglingBranchTarget (program.check settings) = Wiring.dangling program := by
  have dropped : (Wiring.unreferenced program).filter (·.category = .danglingBranchTarget) = [] :=
    List.filter_eq_nil_iff.mpr fun d member => by simp [unreferenced_category member]
  have kept : (Wiring.dangling program).filter (·.category = .danglingBranchTarget) =
      Wiring.dangling program :=
    List.filter_eq_self.mpr fun d member => by simp [dangling_category member]
  simp only [wiringOf, Program.check, Wiring.check, List.filter_append, kept, dropped,
    List.nil_append]

theorem lines_joined (settings : Settings) (first second : Program) (distance : Nat)
    (file : first.file = second.file) :
    ((joinedPrograms first second distance).check settings).lines =
      (first.check settings).lines ++
        (second.check settings).lines.map (moveFindings distance) := by
  simp only [Program.check, joinedPrograms, file, List.map_append, List.map_map, Function.comp_def,
    checkLine_moveLine]
  rfl

theorem identifiers_joined (settings : Settings) (first second : Program) (distance : Nat) :
    ((joinedPrograms first second distance).check settings).identifiers =
      (first.check settings).identifiers ++
        (second.check settings).identifiers.filter (· ∉ (first.check settings).identifiers) := by
  have used (name : String) : name ∈ (first.check settings).identifiers ↔
      name ∈ first.lines.flatMap (LineCheck.identifiers ·.text) := by
    simp only [Program.check, distinctWords_eq_distinctBy]
    exact mem_distinct
  simp only [used]
  simp only [Program.check, joinedPrograms, distinctWords_eq_distinctBy, List.flatMap_append,
    List.flatMap_map, distinctBy_append, List.map_id, id]
  rfl

/-- Joined programs are valid if both are: each line passes as it did before, and it finds more
labels than before. -/
theorem isValid_joined (settings : Settings) (first second : Program) (distance : Nat)
    (file : first.file = second.file) (left : (first.check settings).isValid = true)
    (right : (second.check settings).isValid = true) :
    ((joinedPrograms first second distance).check settings).isValid = true := by
  have sameFile : (joinedPrograms first second distance).file = second.file := file
  rw [isValid_iff] at left right ⊢
  intro line member
  rw [labels_joined]
  rcases List.mem_append.mp member with early | late
  · obtain ⟨silent, wired⟩ := left line early
    refine ⟨silent, ?_⟩
    rw [stray?_more _ (labels first) (labels second) (fun name => List.mem_append)]
    exact congrArg (Option.filter _) wired
  · obtain ⟨original, listed, rfl⟩ := List.mem_map.mp late
    obtain ⟨silent, wired⟩ := right original listed
    rw [checkLine_moveLine, stray?_moveLine, sameFile, silent,
      stray?_more _ (labels second) (labels first) (fun name => List.mem_append.trans or_comm), wired]
    exact ⟨rfl, rfl⟩

/-- The check of joined programs is made of the checks of both. -/
theorem check_joined (settings : Settings) (first second : Program) (distance : Nat)
    (file : first.file = second.file) :
    Composed (first.check settings) (second.check settings)
      ((joinedPrograms first second distance).check settings) distance where
  program := rfl
  lines := lines_joined settings first second distance file
  identifiers := identifiers_joined settings first second distance
  unreferenced := by
    simp only [wiringOf_unreferencedLabel]
    exact unreferenced_joined first second distance file
  dangling := by
    simp only [wiringOf_danglingBranchTarget]
    exact dangling_joined first second distance file
  wiring := by
    rw [wiringOf_unreferencedLabel, wiringOf_danglingBranchTarget]
    rfl
  valid := isValid_joined settings first second distance file

/-- The check of two sources joined by a line feed is made of the checks of both, with the lines of
the second moved by the number of lines of the first. It makes no difference to the first part
whether it is checked with the line feed or without it. -/
theorem checkSource_joined (settings : Settings) (first second file : String) :
    Composed (checkSource settings (first ++ "\n") file) (checkSource settings second file)
        (checkSource settings (first ++ "\n" ++ second) file)
        (Text.splitLines (first ++ "\n").toList).length ∧
      checkSource settings (first ++ "\n") file = checkSource settings first file := by
  constructor
  · rw [checkSource, checkSource, checkSource, ofSource_joined]
    exact check_joined settings (Program.ofSource (first ++ "\n") file)
      (Program.ofSource second file) _ rfl
  · rw [checkSource, checkSource, ofSource_trailing_newline]

end MalLint.SourceComposition
