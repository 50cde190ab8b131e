import RepoAtlas.Text.WordRanges
import RepoAtlas.Text.Case

/-!
# Word characters and digits

A word character is a letter, a numeral or the underscore. A decimal digit of any script has the
value 0 to 9 that its place after its script's zero gives it.
-/

namespace RepoAtlas.Text

/-- A letter, a numeral or the underscore. -/
def isWordChar (c : Char) : Bool := c == '_' || inRanges alphanumericRanges c.toNat

def digitValue? (c : Char) : Option Nat :=
  (decimalZeros.find? fun first => first ≤ c.toNat && c.toNat ≤ first + 9).map (c.toNat - ·)

/-- The value of an ASCII digit in a base up to sixteen. -/
def asciiDigit? (base : Nat) (c : Char) : Option Nat :=
  let value :=
    if '0' ≤ c ∧ c ≤ '9' then some (c.toNat - 48)
    else if 'a' ≤ c ∧ c ≤ 'f' then some (c.toNat - 87)
    else if 'A' ≤ c ∧ c ≤ 'F' then some (c.toNat - 55)
    else none
  value.filter (· < base)

/-- Whether `c` is one of the ASCII digits 0 to 9. -/
def isAsciiDigit (c : Char) : Bool := '0' ≤ c && c ≤ '9'

def isAsciiCapital (c : Char) : Bool := 'A' ≤ c && c ≤ 'Z'

end RepoAtlas.Text
