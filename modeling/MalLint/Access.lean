import MalLint.Text.Quoted

/-! What a machine asks of the texts that name files, and why it may not open one. -/
namespace MalLint

/-- What a machine asks of the texts that name files. Lengths are counted in bytes. A machine with
rules also refuses a text that holds a null character. -/
structure NameRules where
  /-- The greatest length of one name on the way. -/
  longestName : Nat
  /-- The greatest length of the whole text. -/
  longestText : Nat
  deriving DecidableEq, Repr

/-- The rules that machines have. -/
def NameRules.usual : NameRules :=
  ⟨255, 4095⟩

/-- Why a file cannot be read or written. -/
inductive AccessError where
  | missing
  | notDirectory
  | isDirectory
  | tooLong
  | nullCharacter
  deriving DecidableEq, Repr

/-- The failure as it is told, with the text that was to be opened. -/
def AccessError.message (text : String) : AccessError → String
  | .missing => s!"[Errno 2] No such file or directory: {Text.quote text}"
  | .notDirectory => s!"[Errno 20] Not a directory: {Text.quote text}"
  | .isDirectory => s!"[Errno 21] Is a directory: {Text.quote text}"
  | .tooLong => s!"[Errno 36] File name too long: {Text.quote text}"
  | .nullCharacter => "embedded null byte"

namespace NameRules

/-- Why a text is refused before any file is looked at. -/
def refusal? (rules : NameRules) (text : String) : Option AccessError :=
  if '\x00' ∈ text.toList then some .nullCharacter
  else if text.utf8ByteSize > rules.longestText then some .tooLong
  else none

/-- Whether a file can have a name. -/
def allows (rules : NameRules) (name : String) : Bool :=
  name.utf8ByteSize ≤ rules.longestName

end NameRules

end MalLint
