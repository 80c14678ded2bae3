import MalLint.Run
import Std.Time.Zoned

/-! The command. It takes a picture of the files that a run may ask for, lets the run work on the
picture, and then prints and writes what came out. -/
namespace MalLint.Shell

/-- The day by the clock of the machine. -/
def today : IO Date := do
  let day ← Std.Time.PlainDate.now
  return ⟨day.year.toInt.toNat, day.month.toNat, day.day.toNat⟩

/-- The variables that are set, of those that settings are taken from. -/
def environment : IO Environment := do
  let mut found := []
  for name in Environment.names do
    if let some value ← IO.getEnv name then
      found := (name, value) :: found
  return found

/-- The text that names a place of the machine. -/
def absolute (place : Place) : String :=
  "/" ++ "/".intercalate place

/-- What stands at a place of the machine. -/
def inspect (place : Place) : IO (Option FileEntry) := do
  let path := (← IO.currentDir) / absolute place
  if ← path.isDir then
    return some .directory
  else if ← path.pathExists then
    return some (.file (← IO.FS.readBinFile path).toList)
  else
    return none

/-- A picture of the files that some texts ask for. -/
def picture (texts : List String) : IO FileTree := do
  let home := Path.components (← IO.currentDir).toString.toList
  let empty := FileTree.empty home
  let places := distinct <| texts.flatMap fun text =>
    FileTree.visited (empty.start text.toList) (FileTree.route text.toList)
  places.foldlM (fun tree place => do
    match ← inspect place with
    | some entry => return tree.put place entry
    | none => return tree) empty

end MalLint.Shell

open MalLint in
/-- Runs the command with the arguments of the user. -/
def main (arguments : List String) : IO UInt32 := do
  let environment ← Shell.environment
  let tree ← Shell.picture (Run.lookups environment arguments)
  let outcome := run environment (← Shell.today) tree arguments
  for (place, bytes) in tree.changes outcome.tree do
    IO.FS.writeBinFile (Shell.absolute place) ⟨bytes.toArray⟩
  IO.print outcome.out
  IO.eprint outcome.err
  return UInt32.ofNat outcome.status.code
