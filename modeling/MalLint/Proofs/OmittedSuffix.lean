import MalLint.Proofs.SourceLookup
import Mathlib.Data.List.TakeWhile

/-! A source that is given without its suffix. The path itself is looked at first, then the file
beside it whose name has the suffix added. The second look is taken only if the name has no suffix
of its own; a name with a dot inside has one, whatever follows the dot, and a source that lacks only
its suffix is then not found. -/
namespace MalLint.OmittedSuffix

open PathNames SourceLookup FileTree

variable {tree : FileTree} {path : Path} {suffix : String}

/-- The last dot of a name has something before it and something behind it. -/
def Dotted (name : String) : Prop :=
  ∃ stem tail, name.toList = stem ++ '.' :: tail ∧ stem ≠ [] ∧ tail ≠ [] ∧ '.' ∉ tail

/-- A walk along the path comes to a file. -/
def NamesFile (tree : FileTree) (path : Path) : Prop :=
  ∃ place bytes, tree.find path.render = .ok place ∧ tree.get? place = some (.file bytes)

/-- The machine refuses the path, or a name on the way that it does not find, for its length. -/
def TooLong (tree : FileTree) (path : Path) : Prop :=
  tree.find path.render = .error .tooLong

/-- What is said of a source that is not there. -/
def absent (path : Path) : Failure :=
  .badArgument s!"the file {path.render} does not exist"

theorem splitSuffix_of_dot (before : stem ≠ []) (behind : tail ≠ []) (last : '.' ∉ tail) :
    Path.splitSuffix (stem ++ '.' :: tail) = (stem, '.' :: tail) := by
  have plain : ∀ c ∈ tail.reverse, decide (c ≠ '.') = true := by
    intro c member
    exact decide_eq_true fun dot => last (dot ▸ List.mem_reverse.mp member)
  -- Read from its end, the name begins with what is behind the last dot.
  have cut : (stem ++ '.' :: tail).reverse.takeWhile (· ≠ '.') = tail.reverse := by
    rw [List.reverse_append, List.reverse_cons, List.append_assoc,
      List.takeWhile_append_of_pos plain]
    simp
  have rest : (stem ++ '.' :: tail).length - tail.length - 1 = stem.length := by
    simp only [List.length_append, List.length_cons]
    omega
  simp only [Path.splitSuffix, cut, List.reverse_reverse, rest, List.take_left, before, behind,
    or_self, ↓reduceIte]

/-- A path has a suffix exactly if its name has a dot inside. -/
theorem suffix_ne_empty_iff (path : Path) : path.suffix ≠ "" ↔ Dotted path.name := by
  have spelled : path.suffix ≠ "" ↔ (Path.splitSuffix path.name.toList).2 ≠ [] := by
    simp [Path.suffix]
  rw [spelled]
  constructor
  · intro some
    have whole := splitSuffix_append path.name.toList
    unfold Path.splitSuffix at some whole
    simp only at some whole
    split at some
    · exact absurd rfl some
    · rename_i both
      obtain ⟨before, behind⟩ := not_or.mp both
      rw [if_neg both] at whole
      refine ⟨_, _, whole.symm, before, behind, fun dot => ?_⟩
      simpa using List.mem_takeWhile_imp (List.mem_reverse.mp dot)
  · rintro ⟨stem, tail, shape, before, behind, last⟩
    rw [shape, splitSuffix_of_dot before behind last]
    exact List.cons_ne_nil _ _

theorem isFile_eq_true_iff : tree.isFile path.render = .ok true ↔ NamesFile tree path :=
  isFile_iff

theorem isFile_eq_error_iff {e : AccessError} :
    tree.isFile path.render = .error e ↔ e = .tooLong ∧ TooLong tree path := by
  unfold TooLong isFile
  cases tree.find path.render with
  | ok place =>
    refine iff_of_false ?_ (by simp)
    simp only
    split <;> simp
  | error reason => cases reason <;> simp [eq_comm]

theorem isFile_eq_false_iff :
    tree.isFile path.render = .ok false ↔ ¬ NamesFile tree path ∧ ¬ TooLong tree path := by
  rw [← isFile_eq_true_iff]
  cases answer : tree.isFile path.render with
  | error e => simp [(isFile_eq_error_iff.mp answer).2]
  | ok file =>
    have short : ¬ TooLong tree path := by
      intro long
      cases answer.symm.trans (isFile_eq_error_iff.mpr ⟨rfl, long⟩)
    cases file <;> simp [short]

/-- What a look for a source can come to. -/
inductive Lookup (tree : FileTree) (path : Path) (suffix : String) :
    Except Failure Path → Prop where
  /-- The path is that of a file. -/
  | itself (file : NamesFile tree path) : Lookup tree path suffix (.ok path)
  /-- The path is refused for its length. -/
  | long (refused : TooLong tree path) :
      Lookup tree path suffix (.error (.unanswered .tooLong path.render))
  /-- The name has a suffix of its own, so that no other file is looked at. -/
  | dotted (other : ¬ NamesFile tree path) (short : ¬ TooLong tree path)
      (dotted : Dotted path.name) : Lookup tree path suffix (.error (absent path))
  /-- The suffix was left out. -/
  | sibling (other : ¬ NamesFile tree path) (short : ¬ TooLong tree path)
      (plain : ¬ Dotted path.name) (file : NamesFile tree (beside path (path.name ++ suffix))) :
      Lookup tree path suffix (.ok (beside path (path.name ++ suffix)))
  /-- The name with the suffix is refused for its length. -/
  | siblingLong (other : ¬ NamesFile tree path) (short : ¬ TooLong tree path)
      (plain : ¬ Dotted path.name) (refused : TooLong tree (beside path (path.name ++ suffix))) :
      Lookup tree path suffix
        (.error (.unanswered .tooLong (beside path (path.name ++ suffix)).render))
  /-- There is no file under either name. -/
  | neither (other : ¬ NamesFile tree path) (short : ¬ TooLong tree path)
      (plain : ¬ Dotted path.name)
      (missing : ¬ NamesFile tree (beside path (path.name ++ suffix)))
      (measured : ¬ TooLong tree (beside path (path.name ++ suffix))) :
      Lookup tree path suffix (.error (absent path))

theorem TooLong.not_namesFile (refused : TooLong tree path) : ¬ NamesFile tree path := by
  rintro ⟨place, bytes, found, -⟩
  cases found.symm.trans refused

theorem resolveSource_lookup (proper : Proper path) (named : path.name ≠ "")
    (slashless : '/' ∉ suffix.toList) :
    Lookup tree path suffix (tree.resolveSource path suffix) := by
  unfold resolveSource
  split
  · rename_i e own
    obtain ⟨rfl, refused⟩ := isFile_eq_error_iff.mp own
    exact .long refused
  · rename_i own
    exact .itself (isFile_eq_true_iff.mp own)
  · rename_i own
    obtain ⟨other, short⟩ := isFile_eq_false_iff.mp own
    by_cases dotted : Dotted path.name
    · rw [if_neg fun nameable => (suffix_ne_empty_iff path).mpr dotted nameable.2]
      exact .dotted other short dotted
    · have bare : path.suffix = "" :=
        Decidable.not_not.mp fun some => dotted ((suffix_ne_empty_iff path).mp some)
      rw [if_pos ⟨named, bare⟩, withName_append proper named slashless]
      simp only
      split
      · rename_i e added
        obtain ⟨rfl, refused⟩ := isFile_eq_error_iff.mp added
        exact .siblingLong other short dotted refused
      · rename_i added
        exact .sibling other short dotted (isFile_eq_true_iff.mp added)
      · rename_i added
        obtain ⟨missing, measured⟩ := isFile_eq_false_iff.mp added
        exact .neither other short dotted missing measured

/-- A machine that asks nothing of names refuses none for its length. -/
theorem not_tooLong_of_unlimited (unlimited : tree.rules = none) (path : Path) :
    ¬ TooLong tree path := by
  intro refused
  rcases find_error unlimited refused with same | same <;> cases same

/-- The source is the path itself if that is a file. Otherwise it is the file beside it whose name
has the suffix added, unless the name has a dot inside: such a source is said not to exist, though
it does. Apart from names that the machine refuses for their length, a source is said not to exist
in this case and if there is no file under either name, and there is no other way to fail. -/
theorem source_found_unless_dotted (proper : Proper path) (named : path.name ≠ "")
    (slashless : '/' ∉ suffix.toList) :
    let sibling := beside path (path.name ++ suffix)
    let answer := tree.resolveSource path suffix
    (NamesFile tree path → answer = .ok path) ∧
    (¬ NamesFile tree path → ¬ TooLong tree path → NamesFile tree sibling →
      (answer = .ok sibling ↔ ¬ Dotted path.name)) ∧
    (answer = .error (absent path) ↔ ¬ NamesFile tree path ∧ ¬ TooLong tree path ∧
      (Dotted path.name ∨ ¬ NamesFile tree sibling ∧ ¬ TooLong tree sibling)) ∧
    (∀ f, answer = .error f → f = absent path ∨
      ∃ other ∈ [path, sibling], TooLong tree other ∧ f = .unanswered .tooLong other.render) ∧
    (tree.rules = none → ∀ other, ¬ TooLong tree other) := by
  intro sibling answer
  have lookup : Lookup tree path suffix answer := resolveSource_lookup proper named slashless
  refine ⟨?_, ?_, ?_, ?_, not_tooLong_of_unlimited⟩
  -- From here on the answer is known by its outcome only, not by how the search goes.
  all_goals generalize answer = given at lookup
  · intro file
    cases lookup with
    | itself => rfl
    | long refused => exact absurd file refused.not_namesFile
    | dotted other | sibling other | siblingLong other | neither other => exact absurd file other
  · intro other short file
    cases lookup with
    | itself own => exact absurd own other
    | long refused => exact absurd refused short
    | dotted _ _ dotted => simp [dotted]
    | sibling _ _ plain => simp [plain, sibling]
    | siblingLong _ _ _ refused => exact absurd file refused.not_namesFile
    | neither _ _ _ missing => exact absurd file missing
  · cases lookup with
    | itself file => simp [file]
    | long refused => simp [absent, refused]
    | dotted other short dotted => simp [other, short, dotted]
    | sibling other short plain file => simp [plain, file, sibling]
    | siblingLong other short plain refused => simp [absent, plain, refused, sibling]
    | neither other short plain missing measured => simp [other, short, missing, measured, sibling]
  · intro f failed
    cases lookup with
    | itself | sibling => cases failed
    | long refused => exact .inr ⟨path, by simp, refused, (Except.error.inj failed).symm⟩
    | siblingLong _ _ _ refused =>
      exact .inr ⟨sibling, by simp, refused, (Except.error.inj failed).symm⟩
    | dotted | neither => exact .inl (Except.error.inj failed).symm

/-- A version number in the name hides a source that is given without its suffix. -/
theorem source_found_unless_dotted_version :
    let tree : FileTree :=
      { entries := [(["w"], .directory), (["w", "v1.2.mal"], .file [])], workingDirectory := ["w"] }
    let path := Path.ofString "v1.2"
    ¬ NamesFile tree path ∧ NamesFile tree (beside path (path.name ++ ".mal")) ∧
      tree.resolveSource path ".mal" = .error (absent path) := by
  intro tree path
  have other : ¬ NamesFile tree path ∧ ¬ TooLong tree path := isFile_eq_false_iff.mp (by decide)
  have file : NamesFile tree (beside path (path.name ++ ".mal")) :=
    isFile_eq_true_iff.mp (by decide)
  have dotted : Dotted path.name :=
    ⟨['v', '1'], ['2'], by decide, by decide, by decide, by decide⟩
  obtain ⟨-, -, absence, -, -⟩ := @source_found_unless_dotted tree path ".mal"
    (ofString_proper "v1.2") (by decide) (by decide)
  exact ⟨other.1, file, absence.mpr ⟨other.1, other.2, .inl dotted⟩⟩

end MalLint.OmittedSuffix
