/-!
# Cutting text at separators

Paths are cut at `/`, dotted names at `.`, and a number of notations keep only what stands before
the first or after the last separator. Every function here keeps the text it does not cut away
unchanged, and `joined_segments` says that cutting loses nothing.
-/

namespace RepoAtlas.Text

/-! ## Cutting at one character -/

/-- The pieces of `s` between occurrences of `separator`, empty ones included; a text without the
separator is its own only piece. -/
def segments (separator : Char) (s : String) : List String :=
  (s.toList.splitOn separator).map String.ofList

/-- The parts written one after the other with `separator` between neighbours. -/
def joined (separator : String) (parts : List String) : String :=
  String.ofList (separator.toList.intercalate (parts.map String.toList))

/-- Joining the pieces of a text with the separator they were cut at gives the text back. -/
theorem joined_segments (separator : Char) (s : String) :
    joined (String.singleton separator) (segments separator s) = s := by
  have back : (segments separator s).map String.toList = s.toList.splitOn separator := by
    simp [segments, Function.comp_def]
  simp [joined, back, List.intercalate_splitOn]

theorem segments_ne_nil (separator : Char) (s : String) : segments separator s ≠ [] := by
  simp [segments, List.splitOn, List.splitOnP_ne_nil]

/-- What stands before the first `separator`, or all of `s` if there is none. -/
def beforeFirst (separator : Char) (s : String) : String :=
  String.ofList (s.toList.takeWhile (· != separator))

/-- What stands after the last `separator`, or all of `s` if there is none. -/
def afterLast (separator : Char) (s : String) : String :=
  String.ofList (s.toList.reverse.takeWhile (· != separator)).reverse

/-- What stands before the last `separator`, or `none` if there is none. -/
def beforeLast? (separator : Char) (s : String) : Option String :=
  match s.toList.reverse.dropWhile (· != separator) with
  | [] => none
  | _ :: before => some (String.ofList before.reverse)

/-! ## Cutting at a longer text -/

/-- The rest of `cs` after `start`, when it begins so. -/
def restAfter? : (start : List Char) → (cs : List Char) → Option (List Char)
  | [], cs => some cs
  | _ :: _, [] => none
  | a :: start, c :: cs => if a = c then restAfter? start cs else none

/-- The text before and the text after the first place where `needle` is written. -/
def splitAtFirst? (needle : List Char) : List Char → Option (List Char × List Char)
  | [] => (restAfter? needle []).map fun rest => ([], rest)
  | c :: cs =>
    match restAfter? needle (c :: cs) with
    | some rest => some ([], rest)
    | none => (splitAtFirst? needle cs).map fun (before, after) => (c :: before, after)

/-- What stands before the first `needle`, or all of `s` if it is not written there. -/
def beforeText (needle : String) (s : String) : String :=
  match splitAtFirst? needle.toList s.toList with
  | some (before, _) => String.ofList before
  | none => s

/-- What stands after the first `needle`, if it is written in `s`. -/
def afterText? (needle : String) (s : String) : Option String :=
  (splitAtFirst? needle.toList s.toList).map fun (_, after) => String.ofList after

def contains (needle : String) (s : String) : Bool :=
  (splitAtFirst? needle.toList s.toList).isSome

def startsWith (start : String) (s : String) : Bool := start.toList.isPrefixOf s.toList

def endsWith (ending : String) (s : String) : Bool := ending.toList.isSuffixOf s.toList

/-- The rest of `s` after `start`, when it begins so. -/
def dropStart? (start : String) (s : String) : Option String :=
  (restAfter? start.toList s.toList).map String.ofList

def dropLeading (c : Char) (s : String) : String :=
  String.ofList (s.toList.dropWhile (· == c))

def without (c : Char) (s : String) : String := String.ofList (s.toList.filter (· != c))

def replaceChar (c : Char) (replacement : String) (s : String) : String :=
  joined replacement (segments c s)

end RepoAtlas.Text
