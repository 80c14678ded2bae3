import MalLint.Check
import MalLint.Proofs.SourceLines
import Mathlib.Data.List.DropRight

/-! Texts that hold the same program. Comments, the blanks around a line and the way in which lines
end leave no trace: a source written anew, from its cleaned lines and with any one line ending, has
the same findings, and cleaning a line twice is cleaning it once. -/
namespace MalLint.SourceForm

open Text SourceLines

/-- What may stand at the end of a line. -/
def lineEndings : List String :=
  ["\n", "\r", "\r\n", "\x0b", "\x0c", "\x1c", "\x1d", "\x1e", "\u0085", "\u2028", "\u2029"]

/-- The source written anew: each line is cleaned, and the lines are joined by the given ending. -/
def tidied (ending source : String) : String :=
  ending.intercalate ((splitLines source.toList).map fun raw => Line.normalize (String.ofList raw))

/-- A line that goes on to its end. -/
def Unbroken (line : List Char) : Prop :=
  ∀ c ∈ line, isLineBreak c = false

theorem trimEnd_isPrefix (text : List Char) : trimEnd text <+: text :=
  List.rdropWhile_prefix isBlank text

theorem trimStart_trim (text : List Char) : trimStart (trim text) = trim text := by
  obtain ⟨tail, whole⟩ := trimEnd_isPrefix (trimStart text)
  cases left : trim text with
  | nil => rfl
  | cons c rest =>
    -- Only the end of the text is cut off, so what is left opens as the text did.
    have opening : (trimStart text).head? = some c := by
      have shape : trim text ++ tail = trimStart text := whole
      rw [← shape, left]
      rfl
    have stopped := List.head?_dropWhile_not isBlank text
    rw [show (text.dropWhile isBlank).head? = some c from opening] at stopped
    exact List.dropWhile_cons_of_neg (by simpa using stopped)

theorem trim_trim (text : List Char) : trim (trim text) = trim text := by
  rw [trim, trimStart_trim]
  exact List.rdropWhile_idempotent isBlank (trimStart text)

theorem mem_of_mem_clean (member : c ∈ Line.clean raw) : c ∈ raw ∧ c ≠ ';' := by
  have kept : c ∈ trimStart (raw.takeWhile (· ≠ ';')) :=
    (trimEnd_isPrefix _).subset member
  have before : c ∈ raw.takeWhile (· ≠ ';') := (List.dropWhile_suffix isBlank).subset kept
  exact ⟨(List.takeWhile_prefix _).subset before, by simpa using List.mem_takeWhile_imp before⟩

theorem clean_clean (raw : List Char) : Line.clean (Line.clean raw) = Line.clean raw := by
  have plain : (Line.clean raw).takeWhile (· ≠ ';') = Line.clean raw :=
    List.takeWhile_eq_self_iff.mpr fun c member => by simpa using (mem_of_mem_clean member).2
  rw [Line.clean, plain]
  exact trim_trim _

theorem normalize_normalize (raw : String) :
    Line.normalize (Line.normalize raw) = Line.normalize raw := by
  simp only [Line.normalize, String.toList_ofList, clean_clean]

theorem unbroken_clean (unbroken : Unbroken raw) : Unbroken (Line.clean raw) :=
  fun c member => unbroken c (mem_of_mem_clean member).1

theorem unbroken_of_mem_splitLines (member : line ∈ splitLines text) : Unbroken line := by
  fun_induction splitLines text generalizing line with
  | case1 => cases member
  | case2 rest ih =>
    rcases List.mem_cons.mp member with rfl | later
    · exact fun c held => absurd held List.not_mem_nil
    · exact ih later
  | case3 c rest single breaks ih =>
    rcases List.mem_cons.mp member with rfl | later
    · exact fun c held => absurd held List.not_mem_nil
    · exact ih later
  | case4 c rest single whole none ih =>
    rw [List.mem_singleton.mp member]
    intro d held
    rw [List.mem_singleton.mp held]
    simpa using whole
  | case5 c rest single whole first lines split ih =>
    rcases List.mem_cons.mp member with rfl | later
    · intro d held
      rcases List.mem_cons.mp held with rfl | inside
      · simpa using whole
      · exact ih (split ▸ List.mem_cons_self) d inside
    · exact ih (split ▸ List.mem_cons_of_mem first later)

theorem splitLines_unbroken_append (unbroken : Unbroken line) (rest : List Char) :
    splitLines (line ++ rest) = line.foldr prepend (splitLines rest) := by
  induction line with
  | nil => rfl
  | cons c line ih =>
    have whole : isLineBreak c = false := unbroken c List.mem_cons_self
    have single : ¬(c = '\r' ∧ (line ++ rest).head? = some '\n') := by
      rintro ⟨rfl, -⟩
      exact absurd whole (by decide)
    have later := ih fun d member => unbroken d (List.mem_cons_of_mem c member)
    rw [List.cons_append, splitLines_cons single, later, if_neg (by simp [whole])]
    rfl

theorem foldr_prepend_cons (line first : List Char) (lines : List (List Char)) :
    line.foldr prepend (first :: lines) = (line ++ first) :: lines := by
  induction line with
  | nil => rfl
  | cons c line ih => rw [List.foldr_cons, ih, prepend, List.cons_append]

theorem splitLines_unbroken (unbroken : Unbroken line) (nonempty : line ≠ []) :
    splitLines line = [line] := by
  have alone := splitLines_unbroken_append unbroken []
  obtain ⟨front, last, rfl⟩ := (List.eq_nil_or_concat' line).resolve_left nonempty
  rw [List.append_nil, List.foldr_append] at alone
  exact alone.trans (foldr_prepend_cons front [last] [])

/-- An ending ends one line, unless it is a carriage return that a line feed follows. -/
theorem splitLines_ending (listed : ending ∈ lineEndings)
    (apart : ending = "\r" → rest.head? ≠ some '\n') :
    splitLines (ending.toList ++ rest) = [] :: splitLines rest := by
  have shapes : ∀ ending ∈ lineEndings, ending = "\r\n" ∨
      ending.toList.length = 1 ∧ ending.toList.all isLineBreak = true := by decide
  rcases shapes ending listed with rfl | ⟨short, breaks⟩
  · exact splitLines_pair rest
  · obtain ⟨c, spelled⟩ := List.length_eq_one_iff.mp short
    have single : ¬(c = '\r' ∧ rest.head? = some '\n') := by
      rintro ⟨rfl, feed⟩
      exact apart (String.toList_inj.mp spelled) feed
    have ends : isLineBreak c = true := by simpa [spelled] using breaks
    rw [spelled, List.singleton_append, splitLines_cons single, if_pos ends]

theorem splitLines_line (listed : ending ∈ lineEndings) (unbroken : Unbroken line)
    (apart : ending = "\r" → rest.head? ≠ some '\n') :
    splitLines (line ++ ending.toList ++ rest) = line :: splitLines rest := by
  rw [List.append_assoc, splitLines_unbroken_append unbroken, splitLines_ending listed apart,
    foldr_prepend_cons, List.append_nil]

theorem feed_not_mem_joined (unbroken : ∀ line ∈ lines, Unbroken line) :
    '\n' ∉ ['\r'].intercalate lines := by
  have feedless (line : List Char) (whole : Unbroken line) : '\n' ∉ line :=
    fun member => absurd (whole '\n' member) (by decide)
  induction lines with
  | nil => simp
  | cons line lines ih =>
    have head := feedless line (unbroken line List.mem_cons_self)
    have tail := ih fun other member => unbroken other (List.mem_cons_of_mem line member)
    cases lines with
    | nil => simpa using head
    | cons next lines => simp [List.intercalate_cons_cons, head, tail]

/-- Joined lines are found again; only an empty one at the end is lost. -/
theorem splitLines_joined (listed : ending ∈ lineEndings)
    (unbroken : ∀ line ∈ lines, Unbroken line) :
    lines = splitLines (ending.toList.intercalate lines) ∨
      lines = splitLines (ending.toList.intercalate lines) ++ [[]] := by
  induction lines with
  | nil => exact .inl (by simp [splitLines])
  | cons line lines ih =>
    have whole : Unbroken line := unbroken line List.mem_cons_self
    have later : ∀ other ∈ lines, Unbroken other :=
      fun other member => unbroken other (List.mem_cons_of_mem line member)
    cases lines with
    | nil =>
      rw [List.intercalate_singleton]
      by_cases empty : line = []
      · exact .inr (by simp [empty, splitLines])
      · exact .inl (splitLines_unbroken whole empty).symm
    | cons next lines =>
      have apart : ending = "\r" →
          (ending.toList.intercalate (next :: lines)).head? ≠ some '\n' := by
        rintro rfl feed
        exact feed_not_mem_joined later (List.mem_of_mem_head? feed)
      rw [List.intercalate_cons_cons, splitLines_line listed whole apart]
      rcases ih later with same | longer
      · exact .inl (congrArg (line :: ·) same)
      · exact .inr (congrArg (line :: ·) longer)

theorem numbered_clean (start : Nat) (raws : List (List Char)) :
    numbered start (raws.map Line.clean) = numbered start raws := by
  induction raws generalizing start with
  | nil => rfl
  | cons raw rest ih => rw [List.map_cons, numbered_cons, numbered_cons, clean_clean, ih]

/-- The lines of code depend on nothing but the cleaned lines. -/
theorem ofSource_congr (same : (splitLines first.toList).map Line.clean =
      (splitLines second.toList).map Line.clean) (file : String) :
    Program.ofSource first file = Program.ofSource second file := by
  rw [ofSource_eq, ofSource_eq, ← numbered_clean, same, numbered_clean]

theorem ofSource_tidied (listed : ending ∈ lineEndings) (source file : String) :
    Program.ofSource (tidied ending source) file = Program.ofSource source file := by
  let lines := (splitLines source.toList).map Line.clean
  have unbroken : ∀ line ∈ lines, Unbroken line := by
    intro line member
    obtain ⟨raw, inside, rfl⟩ := List.mem_map.mp member
    exact unbroken_clean (unbroken_of_mem_splitLines inside)
  have text : (tidied ending source).toList = ending.toList.intercalate lines := by
    simp [tidied, Line.normalize, lines, Function.comp_def]
  have found : numbered 1 (splitLines (ending.toList.intercalate lines)) = numbered 1 lines := by
    rcases splitLines_joined listed unbroken with same | longer
    · rw [← same]
    · exact (numbered_append_empty 1 _).symm.trans (congrArg (numbered 1) longer.symm)
  rw [ofSource_eq, ofSource_eq, text, found, numbered_clean]

/-- The findings about a source are those about its cleaned lines, whatever ending joins them; so
they depend on nothing but the cleaned lines, and cleaning a clean line changes nothing. -/
theorem checkSource_tidied (settings : Settings) (source file : String)
    (listed : ending ∈ lineEndings) :
    checkSource settings (tidied ending source) file = checkSource settings source file ∧
      (∀ other : String,
        (splitLines other.toList).map Line.clean = (splitLines source.toList).map Line.clean →
          checkSource settings other file = checkSource settings source file) ∧
      ∀ raw, Line.normalize (Line.normalize raw) = Line.normalize raw := by
  refine ⟨?_, ?_, normalize_normalize⟩
  · rw [checkSource, ofSource_tidied listed, checkSource]
  · intro other same
    rw [checkSource, ofSource_congr same, checkSource]

theorem checkSource_tidied_carriage_return :
    let source := " A: INC R1 ; up\r\n\r\n\tBR A\u2028"
    "\r" ∈ lineEndings ∧
      checkSource {} "A: INC R1\r\rBR A" "a.mal" = checkSource {} source "a.mal" ∧
      checkSource {} "A: INC R1;\x0c ;\nBR A " "a.mal" = checkSource {} source "a.mal" := by
  intro source
  have listed : "\r" ∈ lineEndings := by decide
  have text : tidied "\r" source = "A: INC R1\r\rBR A" := by decide
  have lines : (splitLines "A: INC R1;\x0c ;\nBR A ".toList).map Line.clean =
      (splitLines source.toList).map Line.clean := by decide
  obtain ⟨joined, others, -⟩ := checkSource_tidied {} source "a.mal" listed
  exact ⟨listed, text ▸ joined, others _ lines⟩

end MalLint.SourceForm
