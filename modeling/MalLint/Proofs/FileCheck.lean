import MalLint.Proofs.SourceLines
import MalLint.Proofs.Utf8Coding
import MalLint.SourceFile

/-! Checking a file is checking the text that its bytes encode. The reader of a file turns every
carriage return into a line feed before the text is broken into lines; no line is won or lost by
that, so all lines keep their numbers. Bytes that encode no text are no program. -/
namespace MalLint.FileCheck

open Text Text.Utf8 SourceLines Utf8Coding

/-- A path names a file with the given bytes. -/
def Holds (tree : FileTree) (path : Path) (bytes : List UInt8) : Prop :=
  ∃ place, tree.find path.render = .ok place ∧ tree.get? place = some (.file bytes)

/-- A carriage return ends the same line as the line feed that it is turned into, alone or with a
line feed of its own. -/
theorem splitLines_unifyLineEnds (text : List Char) :
    splitLines (unifyLineEnds text) = splitLines text := by
  fun_induction unifyLineEnds text with
  | case1 => rfl
  | case2 rest ih => rw [splitLines_newline, splitLines_pair, ih]
  | case3 c rest unpaired ih =>
    have single : ¬(c = '\r' ∧ rest.head? = some '\n') := by
      rintro ⟨carriage, feed⟩
      obtain ⟨tail, shape⟩ := List.head?_eq_some_iff.mp feed
      exact unpaired tail carriage shape
    by_cases carriage : c = '\r'
    · have ends : isLineBreak c = true := by
        rw [carriage]
        decide
      rw [if_pos carriage, splitLines_newline, splitLines_cons single, if_pos ends, ih]
    · -- No carriage return is in front, so none can pair with what follows.
      have apart : ¬(c = '\r' ∧ (unifyLineEnds rest).head? = some '\n') := by
        intro both
        exact carriage both.1
      rw [if_neg carriage, splitLines_cons apart, splitLines_cons single, ih]

theorem checkSource_unifyLineEnds (settings : Settings) (text file : String) :
    checkSource settings (String.ofList (unifyLineEnds text.toList)) file =
      checkSource settings text file := by
  have lines : Program.ofSource (String.ofList (unifyLineEnds text.toList)) file =
      Program.ofSource text file := by
    rw [ofSource_eq, ofSource_eq, String.toList_ofList, splitLines_unifyLineEnds]
  rw [checkSource, checkSource, lines]

theorem read_of_holds (held : Holds tree path bytes) : tree.read path.render = .ok bytes := by
  obtain ⟨place, found, file⟩ := held
  rw [FileTree.read, found]
  simp only [file]

/-- What checking makes of a file is settled by decoding its bytes. -/
theorem checkFile_of_read {tree : FileTree} {path : Path} (settings : Settings)
    (content : tree.read path.render = .ok bytes) :
    tree.checkFile settings path =
      match decode bytes with
      | .ok text => .ok (checkSource settings (String.ofList text) path.render)
      | .error fault => .error (.unreadable path.render fault.message) := by
  rw [FileTree.checkFile, FileTree.readSource, content]
  cases decoded : decode bytes with
  | error fault => simp only [decoded]; rfl
  | ok text =>
    have same := checkSource_unifyLineEnds settings (String.ofList text) path.render
    rw [String.toList_ofList] at same
    simp only [decoded, ← same]
    rfl

/-- A file whose bytes encode a text has the findings of this text, under the name of its path,
however its lines end. A file whose bytes encode no text has none: it is refused, and the reason is
the first fault in its bytes. -/
theorem checkFile_eq_checkSource (settings : Settings) (held : Holds tree path bytes) :
    (∀ text : String, bytes = encode text.toList →
      tree.checkFile settings path = .ok (checkSource settings text path.render)) ∧
    ((∀ text : String, bytes ≠ encode text.toList) → ∃ fault, decode bytes = .error fault ∧
      tree.checkFile settings path = .error (.unreadable path.render fault.message)) := by
  rw [checkFile_of_read settings (read_of_holds held)]
  constructor
  · intro text encoded
    rw [decode_eq_ok_iff.mpr encoded]
    simp only [String.ofList_toList]
  · intro undecodable
    cases decoded : decode bytes with
    | error fault => exact ⟨fault, rfl, rfl⟩
    | ok text =>
      have encoded : bytes = encode (String.ofList text).toList := by
        rw [String.toList_ofList]
        exact decode_eq_ok_iff.mp decoded
      exact absurd encoded (undecodable (String.ofList text))

/-- Of two files, one mixes three ways to end a line, and in the other a character breaks off. -/
theorem checkFile_eq_checkSource_mixed :
    let text := "A:\r\rINC é\r\n BR A\nEND"
    let tree : FileTree :=
      { entries := [(["w"], .directory), (["w", "a.mal"], .file (encode text.toList)),
          (["w", "b.mal"], .file [0x45, 0xC3, 0x28])]
        workingDirectory := ["w"] }
    tree.checkFile {} (Path.ofString "a.mal") = .ok (checkSource {} text "a.mal") ∧
      ∃ reason, tree.checkFile {} (Path.ofString "b.mal") =
        .error (.unreadable "b.mal" reason) := by
  intro text tree
  have first : Holds tree (Path.ofString "a.mal") (encode text.toList) :=
    ⟨["w", "a.mal"], by decide, by decide⟩
  have second : Holds tree (Path.ofString "b.mal") [0x45, 0xC3, 0x28] :=
    ⟨["w", "b.mal"], by decide, by decide⟩
  have broken : decode [0x45, 0xC3, 0x28] = .error ⟨1, [0xC3], .invalidContinuation⟩ := rfl
  have undecodable : ∀ text : String, [0x45, 0xC3, 0x28] ≠ encode text.toList := by
    intro text encoded
    cases broken.symm.trans (decode_eq_ok_iff.mpr encoded)
  obtain ⟨fault, -, refused⟩ := (checkFile_eq_checkSource {} second).2 undecodable
  exact ⟨(checkFile_eq_checkSource {} first).1 text rfl, fault.message, refused⟩

end MalLint.FileCheck
