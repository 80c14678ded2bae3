import MalLint.Text.Quoted

/-! Names of files. A path is kept as its components; empty ones and those that are a single dot
say nothing and are dropped. -/
namespace MalLint

/-- Where a path starts. -/
inductive PathRoot where
  | relative
  | absolute
  /-- Exactly two slashes at the start are kept apart from one. -/
  | doubleSlash
  deriving DecidableEq, Repr

/-- What a path starts with. -/
def PathRoot.render : PathRoot → String
  | .relative => ""
  | .absolute => "/"
  | .doubleSlash => "//"

/-- The name of a file or directory. -/
structure Path where
  root : PathRoot
  parts : List String
  deriving DecidableEq, Repr

namespace Path

/-- The pieces between slashes; there is always one piece more than slashes. -/
def pieces : List Char → List (List Char)
  | [] => [[]]
  | c :: rest =>
    if c = '/' then
      [] :: pieces rest
    else
      match pieces rest with
      | [] => [[c]]
      | piece :: others => (c :: piece) :: others

/-- The components that say something. -/
def components (text : List Char) : List String :=
  ((pieces text).map String.ofList).filter fun piece => piece ≠ "" && piece ≠ "."

/-- The root that the slashes at the start of a text give. -/
def rootOf (text : List Char) : PathRoot :=
  match (text.takeWhile (· = '/')).length with
  | 0 => .relative
  | 2 => .doubleSlash
  | _ => .absolute

/-- The path that a text names. -/
def ofString (text : String) : Path :=
  ⟨rootOf text.toList, components text.toList⟩

/-- The path as a text. The path without components is a dot. -/
def render (path : Path) : String :=
  if path.root = .relative && path.parts.isEmpty then "."
  else path.root.render ++ "/".intercalate path.parts

/-- The last component; empty if there is none. -/
def name (path : Path) : String :=
  path.parts.getLast?.getD ""

/-- A name cut before its suffix, which is the last dot and what follows it. A dot at the start or
at the end of the name begins no suffix. -/
def splitSuffix (name : List Char) : List Char × List Char :=
  let tail := (name.reverse.takeWhile (· ≠ '.')).reverse
  let stem := name.take (name.length - tail.length - 1)
  if stem = [] ∨ tail = [] then (name, []) else (stem, '.' :: tail)

/-- The suffix of the last component; empty if it has none. -/
def suffix (path : Path) : String :=
  String.ofList (splitSuffix path.name.toList).2

/-- Why a path cannot be changed. -/
inductive Error where
  | invalidSuffix (suffix : String)
  | invalidName (name : String)
  | emptyName (path : Path)
  deriving DecidableEq, Repr

/-- What is said about a path that cannot be changed. -/
def Error.message : Error → String
  | .invalidSuffix suffix => s!"Invalid suffix {Text.quote suffix}"
  | .invalidName name => s!"Invalid name {Text.quote name}"
  | .emptyName path => s!"PosixPath({Text.quote path.render}) has an empty name"

/-- Whether a text can be a suffix: it is empty, or a dot and more, without slashes. -/
def isSuffix (text : List Char) : Bool :=
  !text.contains '/' && (text.isEmpty || (text.head? = some '.' && text ≠ ['.']))

/-- The path with the suffix of its last component replaced, or added if it has none. -/
def withSuffix (path : Path) (suffix : String) : Except Error Path :=
  if !isSuffix suffix.toList then .error (.invalidSuffix suffix)
  else if path.name = "" then .error (.emptyName path)
  else
    let stem := (splitSuffix path.name.toList).1
    .ok ⟨path.root, path.parts.dropLast ++ [String.ofList (stem ++ suffix.toList)]⟩

/-- Whether a text can be a last component: it names one component and does not end in a slash. -/
def isName (text : List Char) : Bool :=
  text.getLast? ≠ some '/' && rootOf text = .relative && (components text).length = 1

/-- The path with its last component replaced. -/
def withName (path : Path) (name : String) : Except Error Path :=
  if path.name = "" then .error (.emptyName path)
  else if !isName name.toList then .error (.invalidName name)
  else .ok ⟨path.root, path.parts.dropLast ++ [name]⟩

end Path

end MalLint
