import MalLint.Proofs.PathNames

/-! Reading and writing files by their names. A file that is written never stands in the way of a
walk: whoever reached a place before reaches it after. So the written name holds what was written,
and a name beside it leads to what it led to before. -/
namespace MalLint.FileAccess

open PathNames FileTree

/-- A text leads to a place for a file: below a directory that is there, and not over a
directory. -/
inductive WritableAt (tree : FileTree) (text : String) : Place → Prop where
  | below {front : List String} {name : String} {here : Place}
      (names : route text.toList = front ++ [name])
      (reached : tree.walk (tree.start text.toList) front = .ok here)
      (directory : tree.get? here = some .directory) (notDot : name ≠ ".") (notUp : name ≠ "..")
      (free : tree.get? (here ++ [name]) ≠ some .directory) :
      WritableAt tree text (here ++ [name])

variable {tree after : FileTree} {here there place : Place} {name text : String}
  {bytes : List UInt8}

/-- A step stays, goes up, or goes down to what is there; in each case it leaves a directory. -/
theorem step_cases (reached : tree.step here name = .ok there) :
    tree.get? here = some .directory ∧
      (name = "." ∧ there = here ∨ name = ".." ∧ there = here.dropLast ∨
        name ≠ "." ∧ name ≠ ".." ∧ there = here ++ [name]) := by
  unfold step at reached
  split at reached
  · cases reached
  · cases reached
  · rename_i directory
    refine ⟨directory, ?_⟩
    split at reached
    · rename_i dot
      exact .inl ⟨dot, (Except.ok.inj reached).symm⟩
    · rename_i notDot
      split at reached
      · rename_i up
        exact .inr (.inl ⟨up, (Except.ok.inj reached).symm⟩)
      · rename_i notUp
        split at reached
        · exact .inr (.inr ⟨notDot, notUp, (Except.ok.inj reached).symm⟩)
        · split at reached <;> cases reached

theorem walk_concat (tree : FileTree) (here : Place) (front : List String) (name : String) :
    tree.walk here (front ++ [name]) =
      match tree.walk here front with
      | .error e => .error e
      | .ok middle => tree.step middle name := by
  induction front generalizing here with
  | nil =>
    simp only [List.nil_append, walk]
    split <;> simp_all
  | cons first rest ih =>
    simp only [List.cons_append, walk]
    split
    · rfl
    · exact ih _

@[simp]
theorem start_put (tree : FileTree) (place : Place) (entry : FileEntry) (text : List Char) :
    (tree.put place entry).start text = tree.start text :=
  rfl

@[simp]
theorem refusal?_put (tree : FileTree) (place : Place) (entry : FileEntry) (text : String) :
    (tree.put place entry).refusal? text = tree.refusal? text :=
  rfl

/-- A file that is put where no directory stands leaves all directories in their places. -/
theorem get?_put_file (free : tree.get? place ≠ some .directory) (bytes : List UInt8)
    (directory : Place) :
    (tree.put place (.file bytes)).get? directory = some .directory ↔
      tree.get? directory = some .directory := by
  by_cases same : directory = place
  · subst same
    have below : directory ≠ [] := fun root => free (by simp [root, get?])
    simp [get?_put_self below, free]
  · rw [get?_put_of_ne same]

theorem isSome_get?_put (found : (tree.get? there).isSome) (place : Place) (entry : FileEntry) :
    ((tree.put place entry).get? there).isSome := by
  by_cases root : there = []
  · simp [root, get?]
  · by_cases same : there = place
    · subst same
      simp [get?_put_self root]
    · rwa [get?_put_of_ne same]

/-- What a step reaches, it still reaches after a file is put somewhere. -/
theorem step_put_file (free : tree.get? place ≠ some .directory)
    (reached : tree.step here name = .ok there) :
    (tree.put place (.file bytes)).step here name = .ok there := by
  have directory := (get?_put_file free bytes here).mpr (step_cases reached).1
  unfold step at reached ⊢
  simp only [(step_cases reached).1, directory] at reached ⊢
  split at reached
  · rename_i dot
    rw [if_pos dot, reached]
  · rename_i notDot
    rw [if_neg notDot]
    split at reached
    · rename_i up
      rw [if_pos up, reached]
    · rename_i notUp
      rw [if_neg notUp]
      split at reached
      · rename_i found
        rw [if_pos (isSome_get?_put found place (.file bytes)), reached]
      · split at reached <;> cases reached

theorem walk_put_file (free : tree.get? place ≠ some .directory)
    (reached : tree.walk here names = .ok there) :
    (tree.put place (.file bytes)).walk here names = .ok there := by
  induction names generalizing here with
  | nil => exact reached
  | cons name rest ih =>
    cases taken : tree.step here name with
    | error e => simp [walk, taken] at reached
    | ok middle =>
      simp only [walk, taken] at reached
      simp only [walk, step_put_file free taken, ih reached]

/-- A file is written below a directory that is there, and not over a directory. -/
theorem target_cases (found : tree.target text = .ok place) :
    tree.refusal? text = none ∧ WritableAt tree text place := by
  unfold target at found
  cases refused : tree.refusal? text with
  | some e => simp [refused] at found
  | none =>
    refine ⟨rfl, ?_⟩
    obtain empty | ⟨front, name, names⟩ := List.eq_nil_or_concat' (route text.toList)
    · simp only [refused, empty, List.dropLast_nil, walk, List.getLast?_nil] at found
      split at found <;> cases found
    · simp only [refused, names, List.dropLast_concat, List.getLast?_concat] at found
      cases reached : tree.walk (tree.start text.toList) front with
      | error e => simp [reached] at found
      | ok here =>
        simp only [reached] at found
        split at found
        · cases found
        · cases found
        · rename_i directory
          split at found
          · cases found
          · rename_i proper
            obtain ⟨notDot, notUp⟩ := not_or.mp proper
            obtain ⟨rfl, free⟩ : here ++ [name] = place ∧
                tree.get? (here ++ [name]) ≠ some .directory := by
              split at found
              · cases found
              · rename_i held
                exact ⟨Except.ok.inj found, by simp [held]⟩
              · rename_i none
                split at found
                · exact ⟨Except.ok.inj found, by simp [none]⟩
                · cases found
            exact .below names reached directory notDot notUp free

theorem refusal?_eq_none (unlimited : tree.rules = none) (text : String) :
    tree.refusal? text = none := by
  simp [refusal?, unlimited]

/-- What writing a file does: the place that its name leads to holds the bytes, and everything else
is as it was. -/
theorem write_cases (written : tree.write text bytes = .ok after) :
    ∃ place, tree.target text = .ok place ∧ after = tree.put place (.file bytes) := by
  unfold write at written
  split at written
  · cases written
  · rename_i place found
    exact ⟨place, found, (Except.ok.inj written).symm⟩

theorem find_eq_ok_iff (plain : tree.refusal? text = none) :
    tree.find text = .ok place ↔
      text ≠ "" ∧ tree.walk (tree.start text.toList) (route text.toList) = .ok place := by
  unfold find
  rw [plain]
  by_cases empty : text = "" <;> simp [empty]

/-- A written file can be read under the name by which it was written. -/
theorem read_write (written : tree.write text bytes = .ok after) : after.read text = .ok bytes := by
  obtain ⟨place, found, rfl⟩ := write_cases written
  obtain ⟨plain, @⟨front, name, here, names, reached, directory, notDot, notUp, free⟩⟩ :=
    target_cases found
  have held : (tree.put (here ++ [name]) (.file bytes)).get? (here ++ [name]) =
      some (.file bytes) := get?_put_self (by simp)
  have located : (tree.put (here ++ [name]) (.file bytes)).find text = .ok (here ++ [name]) := by
    refine (find_eq_ok_iff (by simpa using plain)).mpr ⟨?_, ?_⟩
    · rintro rfl
      simp [route, Path.pieces] at names
    · have step : (tree.put (here ++ [name]) (.file bytes)).step here name =
          .ok (here ++ [name]) := by
        simp [step, (get?_put_file free bytes here).mpr directory, notDot, notUp, held]
      simp only [names, walk_concat, start_put, walk_put_file free reached, step]
  simp only [FileTree.read, located, held]

/-- The name of a file leads through the directory of the path to a place of its own. -/
theorem find_render {path : Path} (proper : Proper path) (named : path.name ≠ "")
    (found : tree.find path.render = .ok place) :
    tree.refusal? path.render = none ∧
      ∃ here, tree.walk (tree.start path.render.toList) path.parts.dropLast = .ok here ∧
        tree.step here path.name = .ok place := by
  have plain : tree.refusal? path.render = none := by
    cases refused : tree.refusal? path.render with
    | none => rfl
    | some e => simp [find, refused] at found
  refine ⟨plain, ?_⟩
  obtain ⟨-, reached⟩ := (find_eq_ok_iff plain).mp found
  rw [route_render proper named, parts_eq_of_name named, walk_concat] at reached
  split at reached
  · cases reached
  · rename_i here walked
    exact ⟨here, walked, reached⟩

/-- Writing a file changes nothing about a file beside it. -/
theorem read_write_beside {path : Path} (proper : Proper path) (named : path.name ≠ "")
    (other : ProperName name) (apart : path.name ≠ name)
    (found : tree.find path.render = .ok place)
    (written : tree.write (beside path name).render bytes = .ok after) :
    after.read path.render = tree.read path.render := by
  obtain ⟨plain, here, walked, reached⟩ := find_render proper named found
  obtain ⟨target, chosen, rfl⟩ := write_cases written
  obtain ⟨-, @⟨front, last, middle, names, passed, -, -, -, free⟩⟩ := target_cases chosen
  -- Both names are looked up from the same directory.
  obtain ⟨rfl, rfl⟩ : front = path.parts.dropLast ∧ last = name := by
    rw [route_render (beside_proper proper other) (by simpa using other.nonempty)] at names
    simpa [beside, eq_comm] using names
  have filled : path.parts ≠ [] := fun none => named (by simp [Path.name, none])
  have start : tree.start (beside path last).render.toList = tree.start path.render.toList := by
    rw [start_render tree (beside_proper proper other) (by simp [beside]),
      start_render tree proper filled]
    rfl
  obtain rfl : here = middle := Except.ok.inj (walked.symm.trans (start ▸ passed))
  have elsewhere : place ≠ here ++ [last] := by
    rcases (step_cases reached).2 with ⟨-, rfl⟩ | ⟨-, rfl⟩ | ⟨-, -, rfl⟩
    · simp
    · intro same
      have lengths := congrArg List.length same
      simp at lengths
    · simpa using apart
  have still : (tree.put (here ++ [last]) (.file bytes)).find path.render = .ok place := by
    obtain ⟨spelled, whole⟩ := (find_eq_ok_iff plain).mp found
    exact (find_eq_ok_iff (by simpa using plain)).mpr ⟨spelled, walk_put_file free whole⟩
  simp only [FileTree.read, found, still, get?_put_of_ne elsewhere]

/-- A file that is there can be written over. -/
theorem write_over {path : Path} (proper : Proper path) (named : path.name ≠ "")
    (notUp : path.name ≠ "..") (found : tree.find path.render = .ok place)
    (held : tree.get? place = some (.file old)) (bytes : List UInt8) :
    tree.write path.render bytes = .ok (tree.put place (.file bytes)) := by
  obtain ⟨plain, here, walked, reached⟩ := find_render proper named found
  have notDot := (name_proper proper named).notDot
  obtain ⟨directory, moved⟩ := step_cases reached
  obtain rfl : place = here ++ [path.name] := by
    simpa [notDot, notUp] using moved
  have target : tree.target path.render = .ok (here ++ [path.name]) := by
    have last : path.parts.getLast? = some path.name := by
      rw [parts_eq_of_name named, List.getLast?_concat]
    simp only [target, plain, route_render proper named, walked, last, directory, notDot, notUp,
      or_self, ↓reduceIte, held]
  simp only [write, target]

end MalLint.FileAccess
