import MalLint.Program
import Mathlib.Data.List.Basic

/-! The lines of a source. Breaking a text into lines is compositional at a line feed, also where a
carriage return stands before it, and the lines of code of a program are numbered by where they
stand among all lines of the text. -/
namespace MalLint.SourceLines

open Text

/-- The lines of a text with one more character in front of the first. -/
def prepend (c : Char) : List (List Char) → List (List Char)
  | [] => [[c]]
  | line :: lines => (c :: line) :: lines

theorem prepend_append (c : Char) (nonempty : lines ≠ []) (more : List (List Char)) :
    prepend c (lines ++ more) = prepend c lines ++ more := by
  cases lines with
  | nil => exact absurd rfl nonempty
  | cons line lines => rfl

/-- A character that does not open a pair of carriage return and line feed is looked at alone. -/
theorem splitLines_cons (single : ¬(c = '\r' ∧ rest.head? = some '\n')) :
    splitLines (c :: rest) =
      if isLineBreak c then [] :: splitLines rest else prepend c (splitLines rest) := by
  rw [splitLines.eq_def]
  split
  · contradiction
  · rename_i same
    obtain ⟨rfl, rfl⟩ := List.cons.inj same
    exact absurd ⟨rfl, rfl⟩ single
  · rename_i same
    obtain ⟨rfl, rfl⟩ := List.cons.inj same
    rfl

@[simp]
theorem splitLines_pair (rest : List Char) :
    splitLines ('\r' :: '\n' :: rest) = [] :: splitLines rest := by
  rw [splitLines]

@[simp]
theorem splitLines_newline (rest : List Char) :
    splitLines ('\n' :: rest) = [] :: splitLines rest := by
  rw [splitLines_cons (fun both => absurd both.1 (by decide)), if_pos (by decide)]

theorem splitLines_ne_nil (nonempty : text ≠ []) : splitLines text ≠ [] := by
  rw [splitLines.eq_def]
  split
  · contradiction
  · simp
  · split
    · simp
    · split <;> simp

/-- What follows a line feed is broken into lines on its own. -/
theorem splitLines_append_newline (first second : List Char) :
    splitLines (first ++ '\n' :: second) = splitLines (first ++ ['\n']) ++ splitLines second := by
  induction first with
  | nil => simp [splitLines]
  | cons c rest ih =>
    have same : (rest ++ '\n' :: second).head? = (rest ++ ['\n']).head? := by cases rest <;> rfl
    by_cases pair : c = '\r' ∧ (rest ++ ['\n']).head? = some '\n'
    · -- The pair counts as one break, whether its line feed is the one that joins the texts or not.
      obtain ⟨rfl, feed⟩ := pair
      cases rest with
      | nil => simp [splitLines]
      | cons d rest =>
        obtain rfl : d = '\n' := by simpa using feed
        simpa using ih
    · rw [List.cons_append, List.cons_append, splitLines_cons (same ▸ pair), splitLines_cons pair, ih]
      split
      · rfl
      · exact prepend_append c (splitLines_ne_nil (by simp)) _

/-- A line feed at the end of a text adds an empty line or none. -/
theorem splitLines_trailing_newline (text : List Char) :
    splitLines (text ++ ['\n']) = splitLines text ∨
      splitLines (text ++ ['\n']) = splitLines text ++ [[]] := by
  induction text with
  | nil => exact .inr (by simp [splitLines])
  | cons c rest ih =>
    by_cases pair : c = '\r' ∧ (rest ++ ['\n']).head? = some '\n'
    · obtain ⟨rfl, feed⟩ := pair
      cases rest with
      | nil => exact .inl (by decide)
      | cons d rest =>
        obtain rfl : d = '\n' := by simpa using feed
        simpa using ih
    · have single : ¬(c = '\r' ∧ rest.head? = some '\n') := by
        rintro ⟨rfl, feed⟩
        exact pair ⟨rfl, by simp [List.head?_append, feed]⟩
      rw [List.cons_append, splitLines_cons pair, splitLines_cons single]
      split
      · rcases ih with same | longer
        · exact .inl (by rw [same])
        · exact .inr (by rw [longer, List.cons_append])
      · by_cases last : rest = []
        · subst last
          exact .inl (by simp [splitLines, prepend])
        · rcases ih with same | longer
          · exact .inl (by rw [same])
          · exact .inr (by rw [longer, prepend_append c (splitLines_ne_nil last)])

/-- The lines of code among some lines of text, of which the first has the number `start`. -/
def numbered (start : Nat) (raws : List (List Char)) : List ProgramLine :=
  (raws.zipIdx start).filterMap fun (raw, number) =>
    if Line.clean raw = [] then none else some ⟨number, String.ofList (Line.clean raw)⟩

theorem ofSource_eq (source file : String) :
    Program.ofSource source file = ⟨numbered 1 (splitLines source.toList), file⟩ :=
  rfl

/-- The same line under a number that is greater by `distance`. -/
def moveLine (distance : Nat) (line : ProgramLine) : ProgramLine :=
  ⟨line.number + distance, line.text⟩

theorem numbered_cons (start : Nat) (raw : List Char) (rest : List (List Char)) :
    numbered start (raw :: rest) =
      if Line.clean raw = [] then numbered (start + 1) rest
      else ⟨start, String.ofList (Line.clean raw)⟩ :: numbered (start + 1) rest := by
  simp only [numbered, List.zipIdx_cons, List.filterMap_cons]
  by_cases empty : Line.clean raw = [] <;> simp [empty]

/-- Numbers aside, the lines of code are the cleaned lines that are not empty. -/
theorem numbered_texts (start : Nat) (raws : List (List Char)) :
    (numbered start raws).map (·.text.toList) = (raws.map Line.clean).filter (· ≠ []) := by
  induction raws generalizing start with
  | nil => rfl
  | cons raw rest ih =>
    rw [numbered_cons, List.map_cons, List.filter_cons]
    by_cases empty : Line.clean raw = []
    · simpa [empty] using ih (start + 1)
    · simpa [empty] using ih (start + 1)

theorem numbered_append (start : Nat) (first second : List (List Char)) :
    numbered start (first ++ second) =
      numbered start first ++ numbered (start + first.length) second := by
  rw [numbered, List.zipIdx_append, List.filterMap_append]
  rfl

/-- An empty line at the end is no line of code. -/
theorem numbered_append_empty (start : Nat) (raws : List (List Char)) :
    numbered start (raws ++ [[]]) = numbered start raws := by
  have empty : Line.clean [] = [] := by decide
  rw [numbered_append, numbered_cons, if_pos empty]
  exact List.append_nil _

/-- Lines of code keep their distances wherever the count starts. -/
theorem numbered_add (start distance : Nat) (raws : List (List Char)) :
    numbered (start + distance) raws = (numbered start raws).map (moveLine distance) := by
  induction raws generalizing start with
  | nil => rfl
  | cons raw rest ih =>
    have later := ih (start + 1)
    rw [Nat.add_right_comm] at later
    rw [numbered_cons, numbered_cons, later]
    split
    · rfl
    · rw [List.map_cons]
      congr 1

/-- A line feed at the end of a source adds no line of code. -/
theorem ofSource_trailing_newline (source file : String) :
    Program.ofSource (source ++ "\n") file = Program.ofSource source file := by
  have lines : numbered 1 (splitLines (source.toList ++ ['\n'])) =
      numbered 1 (splitLines source.toList) := by
    rcases splitLines_trailing_newline source.toList with same | longer
    · rw [same]
    · rw [longer, numbered_append_empty]
  have shape : (source ++ "\n").toList = source.toList ++ ['\n'] := String.toList_append
  rw [ofSource_eq, ofSource_eq, shape, lines]

/-- Joined by a line feed, two sources give the lines of code of the first and then those of the
second, whose numbers grow by the number of lines before them. -/
theorem ofSource_joined (first second file : String) :
    Program.ofSource (first ++ "\n" ++ second) file =
      ⟨(Program.ofSource (first ++ "\n") file).lines ++
        (Program.ofSource second file).lines.map
          (moveLine (splitLines (first ++ "\n").toList).length), file⟩ := by
  have shape : (first ++ "\n" ++ second).toList = first.toList ++ '\n' :: second.toList := by
    simp [String.toList_append]
  have opening : (first ++ "\n").toList = first.toList ++ ['\n'] := String.toList_append
  simp only [ofSource_eq]
  rw [shape, opening, splitLines_append_newline, numbered_append, numbered_add]

end MalLint.SourceLines
