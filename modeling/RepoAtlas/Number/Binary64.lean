/-!
# Binary floating-point numbers

`Binary64` is the 64-bit binary format of IEEE 754: signed integers of at most 53 bits times a power
of two, the two infinities, and a single not-a-number. Its finite values are exact rationals, and
every operation is defined as *the exact result, rounded to the nearest representable number, ties
to the even mantissa*. `ofFraction` is the only place where rounding happens, so a statement about
an operation is a statement about one rounding of one rational.
-/

namespace RepoAtlas

namespace Binary64

def twoTo (n : Nat) : Nat := Nat.pow 2 n

def tenTo (n : Nat) : Nat := Nat.pow 10 n

/-- The mantissas and exponents of the format: a mantissa fills its 53 bits unless the exponent is
already the least one. Each finite value therefore has one mantissa and one exponent, zero apart
from its sign included. -/
def IsCanonical (mantissa : Nat) (exponent : Int) : Prop :=
  mantissa < twoTo 53 ∧ -1074 ≤ exponent ∧ exponent ≤ 971 ∧
    (twoTo 52 ≤ mantissa ∨ exponent = -1074)

instance (mantissa : Nat) (exponent : Int) : Decidable (IsCanonical mantissa exponent) := by
  unfold IsCanonical; infer_instance

end Binary64

/-- A 64-bit binary floating-point number. -/
inductive Binary64 where
  /-- `mantissa * 2 ^ exponent`, with its sign. -/
  | finite (negative : Bool) (mantissa : Nat) (exponent : Int)
      (canonical : Binary64.IsCanonical mantissa exponent)
  | infinite (negative : Bool)
  | nan
deriving DecidableEq, Repr

namespace Binary64

/-! ## Rounding -/

/-- The quotient rounded to the nearest integer, a half going to the even neighbour. -/
def roundHalfEven (num den : Nat) : Nat :=
  if 2 * (num % den) < den then num / den
  else if den < 2 * (num % den) then num / den + 1
  else num / den + num / den % 2

/-- A rounded quotient is within half a unit of the exact one. -/
theorem roundHalfEven_near (num den : Nat) (h : 0 < den) :
    2 * num ≤ den * (2 * roundHalfEven num den + 1) ∧
      den * (2 * roundHalfEven num den) ≤ 2 * num + den := by
  have small := Nat.mod_lt num h
  have whole := Nat.div_add_mod num den
  unfold roundHalfEven
  generalize num / den = q at *
  generalize num % den = r at *
  have parity : q % 2 = 0 ∨ q % 2 = 1 := by omega
  split
  · constructor <;> grind
  · split
    · constructor <;> grind
    · rcases parity with even | odd
      · rw [even]; constructor <;> grind
      · rw [odd]; constructor <;> grind

/-- `num / den` divided by `2 ^ exponent`, again as a fraction. -/
def unscale (num den : Nat) (exponent : Int) : Nat × Nat :=
  if 0 ≤ exponent then (num, den * twoTo exponent.toNat)
  else (num * twoTo (-exponent).toNat, den)

/-- The exponent of the last place of `num / den`: the one that leaves a quotient of 53 bits, or
the least exponent of the format if the fraction is smaller than that. -/
def lastPlace (num den : Nat) : Int :=
  let guess : Int := (num.log2 : Int) - (den.log2 : Int) - 53
  let (n, d) := unscale num den guess
  max (-1074) (if n < d * twoTo 53 then guess else guess + 1)

/-- The number with these parts, or an infinity where no canonical number has them; only a number
that is too large comes to that. -/
def ofParts (negative : Bool) (mantissa : Nat) (exponent : Int) : Binary64 :=
  if canonical : IsCanonical mantissa exponent then .finite negative mantissa exponent canonical
  else .infinite negative

/-- The number nearest to `num / den`, with the given sign. -/
def ofFraction (negative : Bool) (num den : Nat) : Binary64 :=
  if num = 0 then ofParts negative 0 (-1074)
  else
    let exponent := lastPlace num den
    let (n, d) := unscale num den exponent
    let mantissa := roundHalfEven n d
    if mantissa = twoTo 53 then ofParts negative (twoTo 52) (exponent + 1)
    else ofParts negative mantissa exponent

/-- The number nearest to a rational; zero is positive. -/
def ofRat (q : Rat) : Binary64 := ofFraction (q < 0) q.num.natAbs q.den

def ofInt (n : Int) : Binary64 := ofFraction (n < 0) n.natAbs 1

instance : OfNat Binary64 n := ⟨ofInt n⟩

/-- The number nearest to `digits * 10 ^ exponent`. Exponents far outside the format's range are
settled without computing the power. -/
def ofDecimal (negative : Bool) (digits : Nat) (exponent : Int) : Binary64 :=
  let size : Int := (Nat.toDigits 10 digits).length + exponent
  if digits = 0 ∨ size < -400 then ofFraction negative 0 1
  else if 400 < size then .infinite negative
  else if 0 ≤ exponent then ofFraction negative (digits * tenTo exponent.toNat) 1
  else ofFraction negative digits (tenTo (-exponent).toNat)

/-! ## Values -/

def toRat? : Binary64 → Option Rat
  | .finite negative mantissa exponent _ =>
    let (n, d) := unscale mantissa 1 (-exponent)
    some (mkRat (if negative then -n else n) d)
  | _ => none

/-- Whether the sign is a minus; a not-a-number has none. -/
def isNegative : Binary64 → Bool
  | .finite negative .. => negative
  | .infinite negative => negative
  | .nan => false

/-- Neither an infinity nor a not-a-number. -/
def isFinite (x : Binary64) : Bool := x.toRat?.isSome

def negate : Binary64 → Binary64
  | .finite negative mantissa exponent canonical => .finite (!negative) mantissa exponent canonical
  | .infinite negative => .infinite (!negative)
  | .nan => .nan

/-! ## Comparison -/

/-- `x < y`; never true of a not-a-number. -/
def less : Binary64 → Binary64 → Bool
  | .nan, _ => false
  | _, .nan => false
  | .infinite a, .infinite b => a && !b
  | .infinite a, _ => a
  | _, .infinite b => !b
  | x, y => match x.toRat?, y.toRat? with
    | some p, some q => p < q
    | _, _ => false

/-- `x = y` as numbers: the two zeros are equal, and a not-a-number equals nothing. -/
def same : Binary64 → Binary64 → Bool
  | .nan, _ => false
  | _, .nan => false
  | .infinite a, .infinite b => a == b
  | x, y => match x.toRat?, y.toRat? with
    | some p, some q => p == q
    | _, _ => false

/-! ## Arithmetic -/

/-- The rounded sum. A sum of zeros is negative only if both are. -/
def add : Binary64 → Binary64 → Binary64
  | .nan, _ => .nan
  | _, .nan => .nan
  | .infinite a, .infinite b => if a = b then .infinite a else .nan
  | .infinite a, _ => .infinite a
  | _, .infinite b => .infinite b
  | x, y => match x.toRat?, y.toRat? with
    | some p, some q =>
      if p + q = 0 then ofFraction (x.isNegative && y.isNegative) 0 1 else ofRat (p + q)
    | _, _ => .nan

def divide (x y : Binary64) : Binary64 :=
  let negative := x.isNegative != y.isNegative
  match x, y with
  | .nan, _ => .nan
  | _, .nan => .nan
  | .infinite _, .infinite _ => .nan
  | .infinite _, _ => .infinite negative
  | _, .infinite _ => ofFraction negative 0 1
  | _, _ => match x.toRat?, y.toRat? with
    | some p, some q =>
      if q = 0 then (if p = 0 then .nan else .infinite negative)
      else if p = 0 then ofFraction negative 0 1
      else ofRat (p / q)
    | _, _ => .nan

/-- The exact value rounded to `places` decimal places, a half going to the even digit, and that
decimal fraction rounded to the format. -/
def roundTo (places : Nat) (x : Binary64) : Binary64 :=
  match x.toRat? with
  | some q =>
    let unit := tenTo places
    ofFraction x.isNegative (roundHalfEven (q.num.natAbs * unit) q.den) unit
  | none => x

/-- The integer part of a finite number, the fraction cut off. -/
def truncate? (x : Binary64) : Option Int :=
  x.toRat?.map fun q => q.num.tdiv q.den

end Binary64

end RepoAtlas
