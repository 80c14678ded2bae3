import MalLint.Wiring
import Mathlib.Data.List.Basic

/-! Labels and branches, line by line. The pass over labels works on the tokens of the whole program
and on sets of words; here its two lists of findings are described by what each line declares,
mentions and branches to. -/
namespace MalLint.LabelWiring

open Wiring

/-- The labels that the lines of a program declare, in order and with repetitions. -/
def labels (program : Program) : List String :=
  program.lines.filterMap fun line => line.parts.label.map (·.text)

/-- The names that a line mentions: its opcode and its operands, each without one colon at its
end. -/
def lineMentions (line : ProgramLine) : List String :=
  (line.parts.opcode.toList ++ line.parts.operands).map (Operand.stripColon ·.text)

/-- The names that the lines of a program mention. -/
def mentions (program : Program) : List String :=
  program.lines.flatMap lineMentions

/-- The declaration that a line makes, as a token of its program. -/
def declaration? (line : ProgramLine) : Option ProgramToken :=
  line.parts.label.map fun label => ⟨.label, label.text, line.number, label.column⟩

/-- The declarations of a program, in order and with repetitions. -/
def declarations (program : Program) : List ProgramToken :=
  program.lines.filterMap declaration?

/-- The warning about a label that nothing mentions. -/
def unmentioned (file : String) (token : ProgramToken) : Diagnostic :=
  ⟨.unreferencedLabel, s!"the label '{token.text}' is not being branched to",
    some ⟨file, token.line, token.column⟩, some token.text, none⟩

/-- The error about a line that branches to a name which is not among the declared ones. -/
def stray? (file : String) (declared : List String) (line : ProgramLine) : Option Diagnostic :=
  (branchTarget? line).bind fun target =>
    let name := Operand.stripColon target.text
    if Operand.isIdentifier name = true ∧ name ∉ declared then
      some ⟨.danglingBranchTarget, s!"the token '{name}' has no label to branch to",
        some ⟨file, line.number, target.column⟩, some name, none⟩
    else
      none

private theorem filter_role_place (role : Role) (keep : Role → Bool) (line : ProgramLine)
    (tokens : List Token) :
    (tokens.map fun token => (⟨role, token.text, line.number, token.column⟩ : ProgramToken)).filter
        (fun token => keep token.role) =
      if keep role = true then
        tokens.map fun token => ⟨role, token.text, line.number, token.column⟩
      else [] := by
  induction tokens with
  | nil => simp
  | cons token rest ih =>
    rw [List.map_cons, List.filter_cons, ih]
    split <;> simp_all

private theorem tokens_filter_label (line : ProgramLine) :
    line.tokens.filter (fun token => decide (token.role = .label)) =
      (declaration? line).toList := by
  have keep := fun role => filter_role_place role (fun role => decide (role = .label)) line
  simp only [ProgramLine.tokens, List.filter_append, keep]
  cases label : line.parts.label <;> simp [declaration?, label]

private theorem tokens_filter_reference (line : ProgramLine) :
    (line.tokens.filter (fun token => decide (token.role ≠ .label))).map
        (Operand.stripColon ·.text) = lineMentions line := by
  have keep := fun role => filter_role_place role (fun role => decide (role ≠ .label)) line
  simp only [ProgramLine.tokens, List.filter_append, keep]
  simp [lineMentions, Function.comp_def]

theorem split_label (line : String) :
    (Line.split line).label = (Line.label? line.toList).map fun name => ⟨String.ofList name, 1⟩ := by
  rw [Line.split]
  cases Line.label? line.toList <;> rfl

/-- The label of a line is all that stands before the first colon, from the first column on. -/
theorem beforeColon?_of_label (read : (Line.split line).label = some label) :
    Line.beforeColon? line.toList = some label.text.toList ∧ label.column = 1 := by
  rw [split_label, Option.map_eq_some_iff] at read
  obtain ⟨name, found, rfl⟩ := read
  exact ⟨by simpa using (Option.filter_eq_some_iff.mp found).1, rfl⟩

/-- A name is declared where it is read as the label of a line. -/
theorem mem_labels_iff (program : Program) (name : List Char) :
    String.ofList name ∈ labels program ↔
      ∃ line ∈ program.lines, Line.label? line.text.toList = some name := by
  simp only [labels, List.mem_filterMap, ProgramLine.parts, split_label, Option.map_map,
    Option.map_eq_some_iff, Function.comp_apply, String.ofList_inj, exists_eq_right]

/-- The declarations are the tokens of a program that are labels. -/
theorem tokens_filter_eq_declarations (program : Program) :
    program.tokens.filter (fun token => decide (token.role = .label)) = declarations program := by
  simp only [Program.tokens, List.filter_flatMap, tokens_filter_label, declarations,
    List.filterMap_eq_flatMap_toList]

theorem declarations_map_text (program : Program) :
    (declarations program).map (·.text) = labels program := by
  simp only [declarations, labels, List.map_filterMap, declaration?, Option.map_map]
  rfl

/-- The table of labels holds the declared names. -/
theorem mem_declaredNames (program : Program) (name : String) :
    name ∈ (LabelTable.ofProgram program).declaredNames ↔ name ∈ labels program := by
  simp only [LabelTable.declaredNames, LabelTable.ofProgram, distinctWords_eq_distinctBy,
    tokens_filter_eq_declarations, ← declarations_map_text, List.mem_map]
  exact exists_mem_distinctBy

/-- The table of labels holds the mentioned names. -/
theorem mem_referencedNames (program : Program) (name : String) :
    name ∈ (LabelTable.ofProgram program).referencedNames ↔ name ∈ mentions program := by
  have references : ((LabelTable.ofProgram program).references.map (Operand.stripColon ·.text)) =
      mentions program := by
    simp only [LabelTable.ofProgram, Program.tokens, List.filter_flatMap, List.map_flatMap,
      tokens_filter_reference, mentions]
  rw [LabelTable.referencedNames, references, distinctWords_eq_distinctBy]
  exact mem_distinct

/-- Warned about are the first declarations of well-formed names that no line mentions. -/
theorem unreferenced_eq (program : Program) :
    unreferenced program =
      ((distinctBy (·.text) (declarations program)).filter fun token =>
        Operand.isIdentifier token.text && decide (token.text ∉ mentions program)).map
          (unmentioned program.file) := by
  have known (token : ProgramToken) :
      (!(WordSet.ofList (LabelTable.ofProgram program).referencedNames).contains token.text) =
        decide (token.text ∉ mentions program) := by
    rw [WordSet.contains_ofList, Bool.eq_iff_iff]
    simp [mem_referencedNames]
  simp only [unreferenced, known]
  simp only [LabelTable.ofProgram, distinctWords_eq_distinctBy, tokens_filter_eq_declarations]
  rfl

/-- A name is warned about exactly if it is declared, well-formed and not mentioned. -/
theorem warned_iff (program : Program) (name : String) :
    (∃ d ∈ unreferenced program, d.subject = some name) ↔
      name ∈ labels program ∧ Operand.isIdentifier name = true ∧ name ∉ mentions program := by
  rw [unreferenced_eq, ← declarations_map_text, List.mem_map]
  constructor
  · rintro ⟨d, member, subject⟩
    obtain ⟨token, kept, rfl⟩ := List.mem_map.mp member
    obtain rfl : token.text = name := Option.some.inj subject
    obtain ⟨first, named⟩ := List.mem_filter.mp kept
    simp only [Bool.and_eq_true, decide_eq_true_eq] at named
    exact ⟨⟨token, mem_of_mem_distinctBy first, rfl⟩, named⟩
  · rintro ⟨declared, named⟩
    obtain ⟨token, first, rfl⟩ := exists_mem_distinctBy.mpr declared
    refine ⟨unmentioned program.file token, List.mem_map_of_mem ?_, rfl⟩
    exact List.mem_filter.mpr ⟨first, by simpa using named⟩

/-- Errors are the branches of single lines to names that no line declares. -/
theorem dangling_eq (program : Program) :
    dangling program = program.lines.filterMap (stray? program.file (labels program)) := by
  have known (name : String) :
      (!(WordSet.ofList (LabelTable.ofProgram program).declaredNames).contains name) =
        decide (name ∉ labels program) := by
    rw [WordSet.contains_ofList, Bool.eq_iff_iff]
    simp [mem_declaredNames]
  simp only [dangling, known]
  refine List.filterMap_congr fun line _ => ?_
  cases target : branchTarget? line <;> simp [stray?, target]

/-- A line is silent about its target if the target is no name or is declared. -/
theorem stray?_eq_none_iff (file : String) (declared : List String) (line : ProgramLine) :
    stray? file declared line = none ↔
      ∀ target, branchTarget? line = some target →
        Operand.isIdentifier (Operand.stripColon target.text) = true →
          Operand.stripColon target.text ∈ declared := by
  cases target : branchTarget? line with
  | none => simp [stray?, target]
  | some token => simp [stray?, target]

end MalLint.LabelWiring
