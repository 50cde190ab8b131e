import RepoAtlas.Text.CaseTables

/-!
# Changing and testing letter case

`lower` and `upper` follow the full case mappings of Unicode: one character may become several
(`ß` is written `SS` in upper case), and a capital sigma that ends a word becomes the final sigma.
`isUpperText` is the test for a text in capitals, and `foldAscii` is the coarser equivalence under
which names are searched for fixed words without regard to case.
-/

namespace RepoAtlas.Text

/-! ## Looking up the tables -/

def inRanges (ranges : List (Nat × Nat)) (n : Nat) : Bool :=
  ranges.any fun (first, last) => first ≤ n && n ≤ last

def onSteps (ranges : List (Nat × Nat × Nat)) (n : Nat) : Bool :=
  ranges.any fun (first, last, step) => first ≤ n && n ≤ last && (n - first) % step == 0

def shifted (table : List (Nat × Nat × Nat × Int)) (c : Char) : Char :=
  let n := c.toNat
  match table.find? fun (first, last, step, _) =>
      first ≤ n && n ≤ last && (n - first) % step == 0 with
  | some (_, _, _, shift) => Char.ofNat (n + shift).toNat
  | none => c

def isUpper (c : Char) : Bool := onSteps upperCaseRanges c.toNat

def isLower (c : Char) : Bool := onSteps lowerCaseRanges c.toNat

def isTitle (c : Char) : Bool := inRanges titleCaseRanges c.toNat

/-- A letter that has case at all, as seen from a neighbouring sigma. -/
def isCased (c : Char) : Bool := inRanges casedRanges c.toNat

def isCaseIgnorable (c : Char) : Bool := inRanges caseIgnorableRanges c.toNat

/-! ## Lower case -/

/-- Whether the characters next to a sigma, nearest first, continue its word. -/
def meetsCased (neighbours : List Char) : Bool :=
  match neighbours.dropWhile isCaseIgnorable with
  | c :: _ => isCased c
  | [] => false

/-- Lower case of `cs`, given what stands before it in reverse order. A capital sigma is final when
its word goes on before it and not after it. -/
def lowerAfter (before : List Char) : List Char → List Char
  | [] => []
  | c :: after =>
    let written :=
      if c = 'Σ' then
        if meetsCased before && !meetsCased after then ['ς'] else ['σ']
      else if c = 'İ' then ['i', '\u0307']
      else [shifted lowerShifts c]
    written ++ lowerAfter (c :: before) after

def lower (s : String) : String := String.ofList (lowerAfter [] s.toList)

/-! ## Upper case -/

def upperOf (c : Char) : List Char :=
  match upperExpansions.lookup c.toNat with
  | some several => several.map Char.ofNat
  | none => [shifted upperShifts c]

def upper (s : String) : String := String.ofList (s.toList.flatMap upperOf)

/-- Whether the text has an upper case letter and neither a lower nor a title case one. -/
def isUpperText (s : String) : Bool :=
  s.toList.any isUpper && s.toList.all fun c => !isLower c && !isTitle c

/-! ## Comparing without case -/

/-- The ASCII letter `c` stands for when case is disregarded: besides the capitals, the Kelvin
sign is a `k`, the dotted and the dotless i are an `i`, and the long s is an `s`. -/
def foldAscii (c : Char) : Char :=
  if 'A' ≤ c ∧ c ≤ 'Z' then Char.ofNat (c.toNat + 32)
  else if c = '\u212A' then 'k'
  else if c = 'İ' ∨ c = 'ı' then 'i'
  else if c = 'ſ' then 's'
  else c

end RepoAtlas.Text
