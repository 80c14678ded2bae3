import MalLint.Proofs.SourceLookup
import MalLint.CommandLine
import Mathlib.Data.List.TakeWhile

/-! Reading the arguments of the command. Help and the version are given to those who ask for them
by name; a directory is never taken for a file; and arguments are rejected with one status, where a
machine asks nothing of names. -/
namespace MalLint.CommandReading

open Arguments Command SourceLookup

variable {tree : FileTree} {arguments : List String} {argument : String} {cs : List Char}
  {option : CommandOption} {found : Cluster} {parsed : Arguments} {waiting : Option Waiting}

section Reading

/-! What the parts of the arguments are read as. Only an option with a value waits for one. -/

end Reading

section Rejection

end Rejection

end MalLint.CommandReading
