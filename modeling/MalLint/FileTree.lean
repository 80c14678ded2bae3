import MalLint.Access
import MalLint.Path

/-! Files and directories. A tree maps places to what stands there; a text names a place, walked
component by component from the root or from the working directory.

A tree has no links, so that one file never stands at two places and a step up undoes a step down.
What `SourceSafety` and `RunContract` prove is thus about file systems without links. -/
namespace MalLint

/-- What can stand at a place. -/
inductive FileEntry where
  | directory
  | file (bytes : List UInt8)
  deriving DecidableEq, Repr

/-- A place, as the names from the root on. -/
abbrev Place := List String

/-- Places with what stands there, and the working directory. The root is always a directory. -/
structure FileTree where
  entries : List (Place × FileEntry)
  workingDirectory : Place
  /-- The rules for names, if there are any. -/
  rules : Option NameRules := some .usual
  deriving DecidableEq, Repr

namespace FileTree

/-- What stands at a place. -/
def get? (tree : FileTree) (place : Place) : Option FileEntry :=
  if place = [] then some .directory else tree.entries.lookup place

/-- Puts an entry at a place, over what stood there. -/
def put (tree : FileTree) (place : Place) (entry : FileEntry) : FileTree :=
  { tree with entries := (place, entry) :: tree.entries.filter (·.1 ≠ place) }

theorem get?_put_self {tree : FileTree} {place : Place} {entry : FileEntry}
    (below : place ≠ []) : (tree.put place entry).get? place = some entry := by
  simp [get?, put, below]

private theorem lookup_filter_of_ne {place other : Place} (apart : other ≠ place)
    (entries : List (Place × FileEntry)) :
    (entries.filter (·.1 ≠ place)).lookup other = entries.lookup other := by
  induction entries with
  | nil => rfl
  | cons first rest ih =>
    obtain ⟨there, found⟩ := first
    simp only [ne_eq, decide_not] at ih
    by_cases same : there = place
    · have missed : (other == there) = false := by simpa [same] using apart
      simp [same, List.lookup_cons, ih, same ▸ missed]
    · simp [same, List.lookup_cons, ih]

theorem get?_put_of_ne {tree : FileTree} {place other : Place} {entry : FileEntry}
    (apart : other ≠ place) : (tree.put place entry).get? other = tree.get? other := by
  have skipped : (other == place) = false := by simpa using apart
  simp only [get?, put, List.lookup_cons, skipped, lookup_filter_of_ne apart]

/-- Makes a directory and those above it, where nothing stands. -/
def makeDirectory (tree : FileTree) (place : Place) : FileTree :=
  ((List.range place.length).map fun n => place.take (n + 1)).foldl
    (fun tree above => if (tree.get? above).isSome then tree else tree.put above .directory) tree

/-- Puts a file at a place and makes the directories above it. -/
def addFile (tree : FileTree) (place : Place) (bytes : List UInt8) : FileTree :=
  (tree.makeDirectory place.dropLast).put place (.file bytes)

/-- A tree with nothing but an empty working directory. -/
def empty (workingDirectory : Place) : FileTree :=
  makeDirectory { entries := [], workingDirectory } workingDirectory

/-- Why a text is refused before any file is looked at. -/
def refusal? (tree : FileTree) (text : String) : Option AccessError :=
  tree.rules.bind (·.refusal? text)

/-- Whether a file can have a name. -/
def allows (tree : FileTree) (name : String) : Bool :=
  tree.rules.all (·.allows name)

/-- The names that a text walks along. A slash at the end asks for a directory, like a dot. -/
def route (text : List Char) : List String :=
  let names := ((Path.pieces text).map String.ofList).filter (· ≠ "")
  if text.getLast? = some '/' then names ++ ["."] else names

/-- Where a text starts to walk. -/
def start (tree : FileTree) (text : List Char) : Place :=
  if text.head? = some '/' then [] else tree.workingDirectory

/-- One step of a walk, which only a directory allows. A name is measured only if it is not
found. -/
def step (tree : FileTree) (here : Place) (name : String) : Except AccessError Place :=
  match tree.get? here with
  | none => .error .missing
  | some (.file _) => .error .notDirectory
  | some .directory =>
    if name = "." then .ok here
    else if name = ".." then .ok here.dropLast
    else if (tree.get? (here ++ [name])).isSome then .ok (here ++ [name])
    else if tree.allows name then .error .missing
    else .error .tooLong

/-- The place that a walk along some names reaches. -/
def walk (tree : FileTree) (here : Place) : List String → Except AccessError Place
  | [] => .ok here
  | name :: rest =>
    match tree.step here name with
    | .error e => .error e
    | .ok there => tree.walk there rest

/-- The places that a walk along some names may ask about. -/
def visited (here : Place) : List String → List Place
  | [] => [here]
  | "." :: rest => visited here rest
  | ".." :: rest => here :: visited here.dropLast rest
  | name :: rest => here :: visited (here ++ [name]) rest

/-- The place that a text names. The empty text names none. -/
def find (tree : FileTree) (text : String) : Except AccessError Place :=
  match tree.refusal? text with
  | some e => .error e
  | none =>
    if text = "" then .error .missing else tree.walk (tree.start text.toList) (route text.toList)

/-- Whether a text names a file. That a text is too long is no answer. -/
def isFile (tree : FileTree) (text : String) : Except AccessError Bool :=
  match tree.find text with
  | .ok place =>
    match tree.get? place with
    | some (.file _) => .ok true
    | _ => .ok false
  | .error .tooLong => .error .tooLong
  | .error _ => .ok false

/-- Whether a text names a directory. That a text holds a null character is no answer. -/
def isDirectory (tree : FileTree) (text : String) : Except AccessError Bool :=
  match tree.find text with
  | .ok place => .ok (tree.get? place = some .directory)
  | .error .nullCharacter => .error .nullCharacter
  | .error _ => .ok false

/-- The bytes of the file that a text names. -/
def read (tree : FileTree) (text : String) : Except AccessError (List UInt8) :=
  match tree.find text with
  | .error e => .error e
  | .ok place =>
    match tree.get? place with
    | some (.file bytes) => .ok bytes
    | some .directory => .error .isDirectory
    | none => .error .missing

/-- The place where a file named by a text is to be written: in a directory that is there, and not
over a directory. -/
def target (tree : FileTree) (text : String) : Except AccessError Place :=
  let names := route text.toList
  match tree.refusal? text with
  | some e => .error e
  | none =>
    match tree.walk (tree.start text.toList) names.dropLast, names.getLast? with
    | .error e, _ => .error e
    | .ok _, none => if text = "" then .error .missing else .error .isDirectory
    | .ok here, some name =>
      match tree.get? here with
      | none => .error .missing
      | some (.file _) => .error .notDirectory
      | some .directory =>
        if name = "." ∨ name = ".." then .error .isDirectory
        else
          match tree.get? (here ++ [name]) with
          | some .directory => .error .isDirectory
          | some (.file _) => .ok (here ++ [name])
          | none => if tree.allows name then .ok (here ++ [name]) else .error .tooLong

/-- The tree after a file is written. -/
def write (tree : FileTree) (text : String) (bytes : List UInt8) : Except AccessError FileTree :=
  match tree.target text with
  | .error e => .error e
  | .ok place => .ok (tree.put place (.file bytes))

/-- The files of a later tree that are not in this one with the same bytes. -/
def changes (tree later : FileTree) : List (Place × List UInt8) :=
  later.entries.filterMap fun (place, entry) =>
    match entry with
    | .directory => none
    | .file bytes => if tree.get? place = some (.file bytes) then none else some (place, bytes)

end FileTree

end MalLint
