import MalLint.Proofs.FileAccess
import MalLint.SourceFile

/-! Finding the source. Whatever path a user gives, the source that is found is a file with a proper
name; and where a machine asks nothing of names, the only other answer is that there is no such
file. -/
namespace MalLint.SourceLookup

open PathNames FileAccess FileTree

variable {tree : FileTree} {path source : Path} {place : Place} {text suffix : String}

theorem isFile_iff :
    tree.isFile text = .ok true ↔
      ∃ place bytes, tree.find text = .ok place ∧ tree.get? place = some (.file bytes) := by
  cases found : tree.find text with
  | error e =>
    refine iff_of_false ?_ (by simp)
    cases e <;> simp [isFile, found]
  | ok place =>
    cases held : tree.get? place with
    | none => simp [isFile, found, held]
    | some entry => cases entry <;> simp [isFile, found, held]

/-- A walk that stays where it starts comes to no file. -/
theorem isFile_of_route_dot (dot : route text.toList = ["."]) : tree.isFile text ≠ .ok true := by
  intro file
  obtain ⟨place, bytes, found, held⟩ := isFile_iff.mp file
  cases refused : tree.refusal? text with
  | some e => simp [find, refused] at found
  | none =>
    obtain ⟨-, reached⟩ := (find_eq_ok_iff refused).mp found
    rw [dot, ← List.nil_append ["."], walk_concat] at reached
    have stays : place = tree.start text.toList := by
      simp only [walk, step] at reached
      split at reached
      · cases reached
      · cases reached
      · exact (Except.ok.inj reached).symm
    have directory := (step_cases reached).1
    rw [← stays, held] at directory
    cases directory

/-- The path of a file has a last component. -/
theorem name_ne_of_isFile (proper : Proper path) (file : tree.isFile path.render = .ok true) :
    path.name ≠ "" := by
  intro unnamed
  have empty : path.parts = [] := by
    obtain empty | ⟨front, last, shape⟩ := List.eq_nil_or_concat' path.parts
    · exact empty
    · have last : last = "" := by simpa [Path.name, shape] using unnamed
      exact absurd last (proper _ (by simp [shape])).nonempty
  have dot : route path.render.toList = ["."] := by
    simp only [Path.render, empty]
    cases path.root <;> decide
  exact isFile_of_route_dot dot file

/-- The source that is found is a file with a proper name: the path that was given, or the one
beside it with the suffix added. -/
theorem resolveSource_cases (proper : Proper path) (plain : '/' ∉ suffix.toList)
    (chosen : tree.resolveSource path suffix = .ok source) :
    (source = path ∨ source = beside path (path.name ++ suffix)) ∧ Proper source ∧
      source.name ≠ "" ∧ tree.isFile source.render = .ok true := by
  unfold resolveSource at chosen
  split at chosen
  · cases chosen
  · rename_i file
    obtain rfl := Except.ok.inj chosen
    exact ⟨.inl rfl, proper, name_ne_of_isFile proper file, file⟩
  · split at chosen
    · rename_i nameable
      rw [withName_append proper nameable.1 plain] at chosen
      have name := (name_proper proper nameable.1).append plain
      simp only at chosen
      split at chosen
      · cases chosen
      · rename_i file
        obtain rfl := Except.ok.inj chosen
        exact ⟨.inr rfl, beside_proper proper name, by simpa using name.nonempty, file⟩
      · cases chosen
    · cases chosen

section Unlimited

/-! Where a machine asks nothing of names, looking at files cannot fail. -/

variable (unlimited : tree.rules = none)

include unlimited

theorem step_error (failed : tree.step here name = .error e) : e = .missing ∨ e = .notDirectory := by
  unfold step at failed
  split at failed
  · exact .inl (Except.error.inj failed).symm
  · exact .inr (Except.error.inj failed).symm
  · simp only [allows, unlimited, Option.all_none, ↓reduceIte] at failed
    split at failed
    · cases failed
    · split at failed
      · cases failed
      · split at failed
        · cases failed
        · exact .inl (Except.error.inj failed).symm

theorem walk_error (failed : tree.walk here names = .error e) : e = .missing ∨ e = .notDirectory := by
  induction names generalizing here with
  | nil => cases failed
  | cons name rest ih =>
    cases taken : tree.step here name with
    | error reason =>
      simp only [walk, taken] at failed
      exact step_error unlimited (taken.trans failed)
    | ok there =>
      simp only [walk, taken] at failed
      exact ih failed

theorem find_error (failed : tree.find text = .error e) : e = .missing ∨ e = .notDirectory := by
  simp only [find, refusal?_eq_none unlimited] at failed
  split at failed
  · exact .inl (Except.error.inj failed).symm
  · exact walk_error unlimited failed

end Unlimited

end MalLint.SourceLookup
