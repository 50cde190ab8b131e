/-!
# Globs

A glob describes texts with wildcards: `*` stands for any text, slashes included, `?` for any one
character, and brackets for one character of a set or, after an exclamation mark, of none. A bracket
that is not closed stands for itself.

`Glob.parse` turns the writing into a list of parts, and `Glob.fits` says whether a text is
described by them from beginning to end.
-/

namespace RepoAtlas.Text

/-- A set of characters as single ones and ranges. -/
structure CharSet where
  chars : List Char
  ranges : List (Char × Char)
deriving DecidableEq, Repr

def CharSet.contains (s : CharSet) (c : Char) : Bool :=
  s.chars.contains c || s.ranges.any fun (first, last) => first ≤ c && c ≤ last

namespace Glob

/-- A part of a glob. -/
inductive Part where
  | anyText
  /-- One character that passes a test on a set. -/
  | one (negated : Bool) (set : CharSet)
deriving DecidableEq, Repr

abbrev Parts := List Part

def anyChar : Part := .one true ⟨[], []⟩

def exactly (c : Char) : Part := .one false ⟨[c], []⟩

/-! ## Bracket sets

The inside of a pair of brackets is cut at the hyphens that stand between two characters. The ends
of neighbouring pieces then are the ends of a range, and a range that runs backwards is left out. -/

/-- What follows the first `mark` after `count` characters is shorter than the whole. -/
theorem length_after_mark {mark found : Char} {count : Nat} {cs after : List Char}
    (h : (cs.drop count).dropWhile (· != mark) = found :: after) : after.length < cs.length := by
  have shorter :=
    ((List.dropWhile_sublist (· != mark)).trans (List.drop_sublist count cs)).length_le
  rw [h, List.length_cons] at shorter
  omega

/-- The pieces of the inside of brackets. The first `kept` characters do not count as hyphens. -/
def pieces (kept : Nat) (cs : List Char) : List (List Char) :=
  match _h : (cs.drop kept).dropWhile (· != '-') with
  | [] => [cs]
  | _ :: after =>
    let piece := cs.take (cs.length - after.length - 1)
    if after.isEmpty then [piece ++ ['-']]
    else piece :: pieces 2 after
termination_by cs.length
decreasing_by exact length_after_mark _h

/-- Joins pieces whose ends would be a range that runs backwards; both ends are dropped. -/
def dropBackward : List (List Char) → List (List Char)
  | [] => []
  | piece :: rest =>
    match dropBackward rest with
    | next :: more =>
      match piece.getLast?, next.head? with
      | some first, some last =>
        if last < first then (piece.dropLast ++ next.tail) :: more else piece :: next :: more
      | _, _ => piece :: next :: more
    | [] => [piece]

def rangesOf (parts : List (List Char)) : List (Char × Char) :=
  (parts.zip parts.tail).filterMap fun (piece, next) => do
    pure (← piece.getLast?, ← next.head?)

def setPart (inside : List Char) : Part :=
  let kept := if inside.head? = some '!' then 2 else 1
  let parts := dropBackward (pieces kept inside)
  match parts with
  | ('!' :: first) :: rest => .one true ⟨first ++ rest.flatten, rangesOf (first :: rest)⟩
  | parts => .one false ⟨parts.flatten, rangesOf parts⟩

/-! ## Parsing -/

/-- The number of characters at the front of a bracket's inside that cannot close it. -/
def openingLength (cs : List Char) : Nat :=
  match cs with
  | '!' :: ']' :: _ => 2
  | '!' :: _ => 1
  | ']' :: _ => 1
  | _ => 0

/-- The inside of brackets and what follows them, if they are closed. -/
def bracketed? (cs : List Char) : Option (List Char × List Char) :=
  match (cs.drop (openingLength cs)).dropWhile (· != ']') with
  | [] => none
  | _ :: after => some (cs.take (cs.length - after.length - 1), after)

theorem length_of_bracketed? {cs inside after : List Char}
    (h : bracketed? cs = some (inside, after)) : after.length < cs.length := by
  unfold bracketed? at h
  split at h
  · simp at h
  · rename_i found
    simp only [Option.some.injEq, Prod.mk.injEq] at h
    exact h.2 ▸ length_after_mark found

def parseChars : List Char → Parts
  | [] => []
  | '*' :: rest => .anyText :: parseChars rest
  | '?' :: rest => anyChar :: parseChars rest
  | '[' :: rest =>
    match _h : bracketed? rest with
    | some (inside, after) => setPart inside :: parseChars after
    | none => exactly '[' :: parseChars rest
  | c :: rest => exactly c :: parseChars rest
termination_by cs => cs.length
decreasing_by
  all_goals simp only [List.length_cons]
  all_goals first | omega | exact Nat.lt_succ_of_lt (length_of_bracketed? _h)

def parse (pattern : String) : Parts := parseChars pattern.toList

/-! ## Fitting -/

def someSuffix (test : List Char → Bool) : List Char → Bool
  | [] => test []
  | c :: cs => test (c :: cs) || someSuffix test cs

def fitsChars : Parts → List Char → Bool
  | [], cs => cs.isEmpty
  | .anyText :: parts, cs => someSuffix (fitsChars parts) cs
  | .one _ _ :: _, [] => false
  | .one negated set :: parts, c :: cs => (set.contains c != negated) && fitsChars parts cs

def fits (pattern s : String) : Bool := fitsChars (parse pattern) s.toList

end Glob

end RepoAtlas.Text
