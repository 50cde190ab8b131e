import RepoAtlas.Text.Utf8

/-!
# Source files as bytes

A syntax tree refers to its source by byte offsets. A `Source` turns offsets into what a reader of
the file sees: the text between two of them, and the line on which one of them lies.
-/

namespace RepoAtlas

/-- The bytes of a source file. -/
structure Source where
  bytes : List UInt8
deriving DecidableEq, Repr

namespace Source

def lineFeed : UInt8 := 10

/-- The text between two offsets, whatever the bytes there hold. -/
def textBetween (source : Source) (start stop : Nat) : String :=
  Text.decodeLossy ((source.bytes.drop start).take (stop - start))

/-- The line of an offset, counted from one: the line feeds before it, and one. -/
def lineAt (source : Source) (offset : Nat) : Nat :=
  (source.bytes.take offset).count lineFeed + 1

/-- The number of lines, a last line without a line feed included. -/
def lineCount (source : Source) : Nat := source.bytes.count lineFeed + 1

theorem one_le_lineAt (source : Source) (offset : Nat) : 1 ≤ source.lineAt offset := by
  simp [lineAt]

/-- Later offsets lie on later lines or on the same one. -/
theorem lineAt_mono (source : Source) {first second : Nat} (h : first ≤ second) :
    source.lineAt first ≤ source.lineAt second := by
  have sub : (source.bytes.take first).Sublist (source.bytes.take second) :=
    (List.take_prefix_take_left h).sublist
  simpa [lineAt] using sub.count_le lineFeed

theorem lineAt_le_lineCount (source : Source) (offset : Nat) :
    source.lineAt offset ≤ source.lineCount := by
  simpa [lineAt, lineCount] using (List.take_sublist offset source.bytes).count_le lineFeed

end Source

end RepoAtlas
