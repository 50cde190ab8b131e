import RepoAtlas.Text.Blank
import RepoAtlas.Text.Split
import RepoAtlas.Text.Word
import RepoAtlas.Number.Binary64

/-!
# Numbers written by people

Sizes, budgets and weights may be given as texts. `readInt?` and `readFloat?` accept what stands
between blanks: a sign, then decimal digits of any script, with single underscores between digits
allowed for grouping; a floating-point number may have a point, an exponent, or be one of the words
for the non-finite values.
-/

namespace RepoAtlas.Numeral

open Text

/-- The blanks that may surround a numeral: all but the information separators. -/
def isMargin (c : Char) : Bool := isBlank c && !(28 ≤ c.toNat && c.toNat ≤ 31)

def core (s : String) : List Char :=
  ((s.toList.dropWhile isMargin).reverse.dropWhile isMargin).reverse

/-- Whether a minus is written in front, and what follows the sign. -/
def signed : List Char → Bool × List Char
  | '-' :: rest => (true, rest)
  | '+' :: rest => (false, rest)
  | rest => (false, rest)

/-- The values of digits that may be grouped by single underscores. There is at least one digit,
and each underscore stands between two. -/
def groupedDigits? (cs : List Char) : Option (List Nat) := do
  let groups ← (cs.splitOn '_').mapM fun group => group.mapM digitValue?
  if groups.any (·.isEmpty) then none else pure groups.flatten

/-- The number that decimal digits write, the most significant first. -/
def ofDigits (digits : List Nat) : Nat := digits.foldl (fun n d => 10 * n + d) 0

def readInt? (s : String) : Option Int :=
  let (negative, rest) := signed (core s)
  (groupedDigits? rest).map fun digits =>
    if negative then -(ofDigits digits : Int) else ofDigits digits

/-- The greatest number of digits that an integer may have where it is written, and where it is read
from a text. -/
def maxDigits : Nat := 4300

def isWritable (n : Int) : Bool := n.natAbs < Binary64.tenTo maxDigits

/-- What is said of an integer that is too long, with the number of its digits if it was read. -/
def tooLongMessage (digits : Option Nat) : String :=
  "Exceeds the limit (" ++ toString maxDigits ++ " digits) for integer string conversion"
    ++ (digits.map fun count => ": value has " ++ toString count ++ " digits").getD ""
    ++ "; use sys.set_int_max_str_digits() to increase the limit"

/-- An integer that is not too long to be read. -/
def readShortInt? (s : String) : Option Int :=
  if maxDigits < s.toList.countP (digitValue? · |>.isSome) then none else readInt? s

def optionalDigits? (cs : List Char) : Option (List Nat) :=
  if cs.isEmpty then some [] else groupedDigits? cs

/-- The digits before and after the point of an unsigned number. -/
def mantissa? (cs : List Char) : Option (List Nat × List Nat) := do
  let whole ← optionalDigits? (cs.takeWhile (· != '.'))
  let fraction ← optionalDigits? (cs.dropWhile (· != '.')).tail
  if whole.isEmpty && fraction.isEmpty then none else pure (whole, fraction)

def isExponentMark (c : Char) : Bool := c == 'e' || c == 'E'

/-- The value of the exponent that starts at its mark, zero if there is none. -/
def exponent? : List Char → Option Int
  | [] => some 0
  | _ :: rest =>
    let (negative, digits) := signed rest
    (groupedDigits? digits).map fun digits =>
      if negative then -(ofDigits digits : Int) else ofDigits digits

/-- The value of an unsigned decimal with a sign given beside it. -/
def decimal? (negative : Bool) (cs : List Char) : Option Binary64 := do
  let (whole, fraction) ← mantissa? (cs.takeWhile fun c => !isExponentMark c)
  let exponent ← exponent? (cs.dropWhile fun c => !isExponentMark c)
  pure (.ofDecimal negative (ofDigits (whole ++ fraction)) (exponent - fraction.length))

def readFloat? (s : String) : Option Binary64 :=
  let (negative, rest) := signed (core s)
  let word := String.ofList (rest.map fun c => if isAsciiCapital c then c.toLower else c)
  if word = "inf" ∨ word = "infinity" then some (.infinite negative)
  else if word = "nan" then some .nan
  else decimal? negative rest

end RepoAtlas.Numeral
