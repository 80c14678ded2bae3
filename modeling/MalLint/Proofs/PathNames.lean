import MalLint.FileTree
import Mathlib.Data.List.Basic

/-! Paths and the names that they are made of. The components of a path are proper names, so a walk
along the written path passes through exactly its components; a new suffix or a new name changes the
last of them and nothing else. -/
namespace MalLint.PathNames

open MalLint.Path (pieces components rootOf splitSuffix isSuffix isName)

variable {path : Path}

/-- What can be a component of a path. -/
structure ProperName (name : String) : Prop where
  nonempty : name ≠ ""
  notDot : name ≠ "."
  slashless : '/' ∉ name.toList

/-- A path as it is read from a text: every component is a proper name. -/
def Proper (path : Path) : Prop :=
  ∀ part ∈ path.parts, ProperName part

/-- The path with another last component. -/
def beside (path : Path) (name : String) : Path :=
  ⟨path.root, path.parts.dropLast ++ [name]⟩

theorem pieces_eq_splitOn (text : List Char) : pieces text = text.splitOn '/' := by
  induction text with
  | nil => rfl
  | cons c rest ih =>
    rw [pieces, List.splitOn_cons_eq_if_modifyHead, ih]
    have some := List.splitOn_ne_nil '/' rest
    by_cases slash : c = '/'
    · simp [slash]
    · simp only [slash, ↓reduceIte, beq_iff_eq]
      cases cut : rest.splitOn '/' with
      | nil => exact absurd cut some
      | cons piece others => rfl

theorem slash_not_mem_pieces (member : piece ∈ pieces text) : '/' ∉ piece := by
  induction text generalizing piece with
  | nil => simp [List.mem_singleton.mp member]
  | cons c rest ih =>
    rw [pieces] at member
    split at member
    · rcases List.mem_cons.mp member with rfl | later
      · exact List.not_mem_nil
      · exact ih later
    · rename_i plain
      split at member
      · simpa [List.mem_singleton.mp member] using Ne.symm plain
      · rename_i first others cut
        rcases List.mem_cons.mp member with rfl | later
        · have inside := ih (cut ▸ List.mem_cons_self)
          simpa [inside] using Ne.symm plain
        · exact ih (cut ▸ List.mem_cons_of_mem first later)

theorem ofString_proper (text : String) : Proper (Path.ofString text) := by
  intro part member
  obtain ⟨listed, kept⟩ := List.mem_filter.mp member
  obtain ⟨piece, cut, rfl⟩ := List.mem_map.mp listed
  simp only [Bool.and_eq_true, decide_eq_true_eq] at kept
  exact ⟨kept.1, kept.2, by simpa using slash_not_mem_pieces cut⟩

theorem parts_eq_of_name (named : path.name ≠ "") :
    path.parts = path.parts.dropLast ++ [path.name] := by
  obtain empty | ⟨front, last, shape⟩ := List.eq_nil_or_concat' path.parts
  · exact absurd (by simp [Path.name, empty]) named
  · simp [Path.name, shape]

theorem name_proper (proper : Proper path) (named : path.name ≠ "") : ProperName path.name :=
  proper path.name (by rw [parts_eq_of_name named]; simp)

theorem beside_name (named : path.name ≠ "") : beside path path.name = path := by
  rw [beside, ← parts_eq_of_name named]

@[simp]
theorem name_beside (path : Path) (name : String) : (beside path name).name = name := by
  simp [beside, Path.name]

theorem beside_proper (proper : Proper path) (name : ProperName last) :
    Proper (beside path last) := by
  intro part member
  rcases List.mem_append.mp member with early | late
  · exact proper part (List.dropLast_subset _ early)
  · exact List.mem_singleton.mp late ▸ name

/-- A proper name with more behind it is still one. -/
theorem ProperName.append (name : ProperName front) (plain : '/' ∉ more.toList) :
    ProperName (front ++ more) := by
  obtain ⟨nonempty, notDot, slashless⟩ := name
  refine ⟨by simp [nonempty], fun dot => ?_, by simp [slashless, plain]⟩
  have spelled : front.toList ++ more.toList = ['.'] := by
    rw [← String.toList_append, dot]
    rfl
  rcases List.append_eq_singleton_iff.mp spelled with ⟨none, -⟩ | ⟨dot, -⟩
  · exact nonempty (String.toList_eq_nil_iff.mp none)
  · exact notDot (String.toList_inj.mp dot)

theorem isName_of_proper (name : ProperName text) : isName text.toList = true := by
  obtain ⟨nonempty, notDot, slashless⟩ := name
  have plain : pieces text.toList = [text.toList] := by
    rw [pieces_eq_splitOn, List.splitOn_eq_singleton slashless]
  have last : text.toList.getLast? ≠ some '/' := fun slash => slashless (List.mem_of_getLast? slash)
  have opening : rootOf text.toList = .relative := by
    have none : text.toList.takeWhile (· = '/') = [] := by
      cases spelled : text.toList with
      | nil => rfl
      | cons c rest =>
        have apart : c ≠ '/' := fun slash => slashless (by simp [spelled, slash])
        exact List.takeWhile_cons_of_neg (by simpa using apart)
    simp [rootOf, none]
  simp [isName, last, opening, components, plain, nonempty, notDot]

/-- What is added to the name of a path stays within its last component. -/
theorem withName_append (proper : Proper path) (named : path.name ≠ "")
    (plain : '/' ∉ suffix.toList) :
    path.withName (path.name ++ suffix) = .ok (beside path (path.name ++ suffix)) := by
  have name := (name_proper proper named).append plain
  rw [Path.withName, if_neg named, isName_of_proper name]
  rfl

/-- A name is its stem and its suffix. -/
theorem splitSuffix_append (name : List Char) :
    (splitSuffix name).1 ++ (splitSuffix name).2 = name := by
  let tail := (name.reverse.takeWhile (· ≠ '.')).reverse
  let front := (name.reverse.dropWhile (· ≠ '.')).reverse
  have whole : front ++ tail = name := by
    rw [← List.reverse_append, List.takeWhile_append_dropWhile, List.reverse_reverse]
  have stem : name.take (name.length - tail.length - 1) = front.dropLast := by
    rw [List.dropLast_eq_take, ← whole, List.length_append, Nat.add_sub_cancel,
      List.take_append_of_le_length (Nat.sub_le _ _)]
  have cut : splitSuffix name =
      if front.dropLast = [] ∨ tail = [] then (name, []) else (front.dropLast, '.' :: tail) := by
    rw [← stem]
    rfl
  rw [cut]
  split
  · simp
  · rename_i both
    -- What stands before the suffix ends with the last dot of the name.
    obtain empty | ⟨rest, dot, shape⟩ := List.eq_nil_or_concat' front
    · exact absurd (by simp [empty]) both
    · have stopped := List.head?_dropWhile_not (fun c => decide (c ≠ '.')) name.reverse
      have opening : (name.reverse.dropWhile fun c => decide (c ≠ '.')).head? = some dot := by
        have reversed : name.reverse.dropWhile (· ≠ '.') = front.reverse := by simp [front]
        rw [reversed, shape]
        simp
      rw [opening] at stopped
      obtain rfl : dot = '.' := by simpa using stopped
      simp [shape, ← whole]

/-- A name with another suffix. -/
def resuffixed (name suffix : String) : String :=
  String.ofList ((splitSuffix name.toList).1 ++ suffix.toList)

/-- A new suffix leaves a name alone exactly if the name has this suffix already. -/
theorem resuffixed_eq_self_iff (name suffix : String) :
    resuffixed name suffix = name ↔ String.ofList (splitSuffix name.toList).2 = suffix := by
  have whole := splitSuffix_append name.toList
  rw [resuffixed, ← String.toList_inj, ← String.toList_inj, String.toList_ofList,
    String.toList_ofList]
  nth_rewrite 2 [← whole]
  rw [List.append_cancel_left_eq, eq_comm]

/-- A name with another suffix is a proper one, if the suffix is more than nothing. -/
theorem ProperName.resuffixed (name : ProperName text) (valid : isSuffix suffix.toList = true)
    (given : suffix ≠ "") : ProperName (resuffixed text suffix) := by
  have stem : '/' ∉ (splitSuffix text.toList).1 := fun slash =>
    name.slashless (splitSuffix_append text.toList ▸ List.mem_append_left _ slash)
  have filled : suffix.toList ≠ [] := fun none => given (String.toList_eq_nil_iff.mp none)
  simp only [isSuffix, Bool.and_eq_true, Bool.or_eq_true, Bool.not_eq_true', decide_eq_true_eq,
    List.isEmpty_iff, filled, false_or] at valid
  obtain ⟨plain, -, long⟩ := valid
  refine ⟨?_, ?_, ?_⟩
  · simpa [PathNames.resuffixed] using fun _ => given
  · intro dot
    have spelled : (splitSuffix text.toList).1 ++ suffix.toList = ['.'] := by
      simpa [PathNames.resuffixed] using congrArg String.toList dot
    rcases List.append_eq_singleton_iff.mp spelled with ⟨-, dot⟩ | ⟨-, none⟩
    · exact long dot
    · exact filled none
  · simpa [PathNames.resuffixed, stem] using plain

/-- A path with another suffix has another name in the same place. -/
theorem withSuffix_eq (path : Path) (valid : isSuffix suffix.toList = true)
    (named : path.name ≠ "") :
    path.withSuffix suffix = .ok (beside path (resuffixed path.name suffix)) := by
  simp [Path.withSuffix, valid, named, beside, resuffixed]

theorem render_eq (nonempty : path.parts ≠ []) :
    path.render.toList =
      path.root.render.toList ++ ['/'].intercalate (path.parts.map String.toList) := by
  simp [Path.render, nonempty]

theorem pieces_parts (proper : Proper path) (nonempty : path.parts ≠ []) :
    pieces (['/'].intercalate (path.parts.map String.toList)) = path.parts.map String.toList := by
  rw [pieces_eq_splitOn, List.splitOn_intercalate]
  · intro piece member
    obtain ⟨part, listed, rfl⟩ := List.mem_map.mp member
    exact (proper part listed).slashless
  · simpa using nonempty

theorem head_parts (proper : Proper path) (nonempty : path.parts ≠ []) :
    (['/'].intercalate (path.parts.map String.toList)).head? ≠ some '/' := by
  obtain ⟨part, rest, shape⟩ := List.exists_cons_of_ne_nil nonempty
  have name : ProperName part := proper part (by simp [shape])
  have filled : part.toList ≠ [] := fun none => name.nonempty (String.toList_eq_nil_iff.mp none)
  have opening : (['/'].intercalate (path.parts.map String.toList)).head? = part.toList.head? := by
    obtain ⟨c, tail, spelled⟩ := List.exists_cons_of_ne_nil filled
    rw [shape]
    cases rest <;> simp [List.intercalate_cons_cons, spelled]
  rw [opening]
  exact fun slash => name.slashless (List.mem_of_head? slash)

theorem last_parts (proper : Proper path) (named : path.name ≠ "") (front : List Char) :
    (front ++ ['/'].intercalate (path.parts.map String.toList)).getLast? ≠ some '/' := by
  have name := name_proper proper named
  have filled : path.name.toList ≠ [] := fun none => named (String.toList_eq_nil_iff.mp none)
  have ending : (front ++ ['/'].intercalate (path.parts.map String.toList)).getLast? =
      path.name.toList.getLast? := by
    have joined : ['/'].intercalate (path.parts.map String.toList) =
        ("/".intercalate path.parts).toList := by simp
    rw [joined, parts_eq_of_name named]
    by_cases alone : path.parts.dropLast = []
    · simp [alone, List.getLast?_append_of_ne_nil _ filled]
    · rw [String.intercalate_append_of_ne_nil alone (by simp), String.intercalate_singleton,
        String.toList_append, ← List.append_assoc, List.getLast?_append_of_ne_nil _ filled]
  rw [ending]
  exact fun slash => name.slashless (List.mem_of_getLast? slash)

/-- A walk along the text of a path passes through its components. -/
theorem route_render (proper : Proper path) (named : path.name ≠ "") :
    FileTree.route path.render.toList = path.parts := by
  have nonempty : path.parts ≠ [] := by
    rw [parts_eq_of_name named]
    simp
  have names : ((pieces path.render.toList).map String.ofList).filter (· ≠ "") = path.parts := by
    have filled : ∀ part ∈ path.parts, part ≠ "" := fun part member => (proper part member).nonempty
    -- The slashes of the root only add pieces that are empty.
    have inner := pieces_parts proper nonempty
    rw [render_eq nonempty]
    cases path.root <;> simpa [PathRoot.render, pieces, inner, Function.comp_def] using filled
  have last : path.render.toList.getLast? ≠ some '/' := by
    rw [render_eq nonempty]
    exact last_parts proper named _
  simp only [FileTree.route, last, ↓reduceIte, names]

/-- A walk along the text of a path starts where its root says. -/
theorem start_render (tree : FileTree) (proper : Proper path) (nonempty : path.parts ≠ []) :
    tree.start path.render.toList =
      if path.root = .relative then tree.workingDirectory else [] := by
  have head := head_parts proper nonempty
  rw [FileTree.start, render_eq nonempty]
  cases path.root <;> simp [PathRoot.render, head]

end MalLint.PathNames
