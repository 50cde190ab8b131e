import RepoAtlas.Number.Binary64

/-!
# The shortest decimal that reads back

A number is written with the fewest significant digits that still tell it apart from every other
number of the format, and with those digits as close to its exact value as that many digits allow.
`shortest` finds them by exact arithmetic: the reals that round to the number form an interval, and
for one digit, two digits and so on the two decimals next to the number are tried until one lies in
that interval. Seventeen digits always suffice.

`render` then decides the notation: positional where the first digit stands between the fourth place
after the point and the sixteenth place before it, with an exponent of at least two digits
otherwise.
-/

namespace RepoAtlas.Binary64

/-! ## The interval of a number -/

/-- The reals that round to a finite positive number, in units of a common power of two: the number
is `value`, and `low` and `high` are halfway to its neighbours. The ends belong to the interval iff
the mantissa is even. -/
structure Interval where
  low : Nat
  value : Nat
  high : Nat
  closed : Bool

/-- The interval of a number in quarters of its last place. Below a power of two the neighbours are
twice as dense. -/
def intervalOf (mantissa : Nat) (exponent : Int) : Interval :=
  { low := if mantissa = twoTo 52 ∧ exponent ≠ -1074 then 4 * mantissa - 1 else 4 * mantissa - 2
    value := 4 * mantissa
    high := 4 * mantissa + 2
    closed := mantissa % 2 == 0 }

/-- The decimals `digits * 10 ^ exponent`. -/
structure Decimal where
  digits : Nat
  exponent : Int
deriving DecidableEq, Repr

/-- Whether `candidate * 10 ^ place` lies in the interval, whose unit is `unit.1 / unit.2` in the
same power of ten. -/
def Interval.holds (i : Interval) (unit : Nat × Nat) (candidate : Nat) : Bool :=
  let position := candidate * unit.2
  if i.closed then i.low * unit.1 ≤ position && position ≤ i.high * unit.1
  else i.low * unit.1 < position && position < i.high * unit.1

/-! ## The search -/

def decimalLength (n : Nat) : Nat := (Nat.toDigits 10 n).length

/-- The place of the leading digit of `num / den`: the `p` with `10 ^ p ≤ num / den < 10 ^ (p + 1)`.
-/
def leadingPlace (num den : Nat) : Int :=
  if den ≤ num then (decimalLength (num / den) : Int) - 1
  else -(decimalLength ((den + num - 1) / num - 1) : Int)

/-- A quarter of the last place measured in `10 ^ place`, as a fraction. -/
def quarterUnit (exponent place : Int) : Nat × Nat :=
  let (n, d) := unscale 1 4 (-exponent)
  if 0 ≤ place then (n, d * tenTo place.toNat) else (n * tenTo (-place).toNat, d)

/-- The better of the two neighbours with last digit at `place`, if one of them reads back. -/
def neighbour? (i : Interval) (exponent place : Int) : Option Nat :=
  let unit := quarterUnit exponent place
  let below := i.value * unit.1 / unit.2
  let gapBelow := i.value * unit.1 - below * unit.2
  let gapAbove := (below + 1) * unit.2 - i.value * unit.1
  let nearer := if gapBelow < gapAbove then below
    else if gapAbove < gapBelow then below + 1
    else below + below % 2
  let further := if nearer = below then below + 1 else below
  if i.holds unit nearer then some nearer
  else if i.holds unit further then some further
  else none

def searchFrom (i : Interval) (exponent place : Int) : (count : Nat) → Decimal
  | 0 => ⟨i.value, exponent⟩
  | count + 1 =>
    match neighbour? i exponent place with
    | some digits => ⟨digits, place⟩
    | none => searchFrom i exponent (place - 1) count

def shortest (mantissa : Nat) (exponent : Int) : Decimal :=
  let (n, d) := unscale mantissa 1 (-exponent)
  searchFrom (intervalOf mantissa exponent) exponent (leadingPlace n d) 18

/-! ## The notation -/

/-- Decimal digits without the zeros they end with, and the place of the point after the first
`point` of them. -/
structure Significand where
  digits : List Char
  point : Int

def Decimal.significand (d : Decimal) : Significand :=
  let all := Nat.toDigits 10 d.digits
  { digits := (all.reverse.dropWhile (· == '0')).reverse
    point := all.length + d.exponent }

def renderExponent (n : Int) : List Char :=
  let digits := Nat.toDigits 10 n.natAbs
  (if n < 0 then '-' else '+') :: (if digits.length < 2 then '0' :: digits else digits)

def Significand.render (s : Significand) : List Char :=
  let count := s.digits.length
  if s.point < -3 ∨ 16 < s.point then
    let fraction := if count ≤ 1 then [] else '.' :: s.digits.drop 1
    s.digits.take 1 ++ fraction ++ 'e' :: renderExponent (s.point - 1)
  else if s.point ≤ 0 then
    '0' :: '.' :: List.replicate (-s.point).toNat '0' ++ s.digits
  else if (count : Int) ≤ s.point then
    s.digits ++ List.replicate (s.point.toNat - count) '0' ++ ['.', '0']
  else
    s.digits.take s.point.toNat ++ '.' :: s.digits.drop s.point.toNat

/-- The number as a decimal text that reads back to it. -/
def render : Binary64 → String
  | .nan => "nan"
  | .infinite negative => if negative then "-inf" else "inf"
  | .finite negative mantissa exponent _ =>
    let sign := if negative then ['-'] else []
    if mantissa = 0 then String.ofList (sign ++ ['0', '.', '0'])
    else String.ofList (sign ++ (shortest mantissa exponent).significand.render)

end RepoAtlas.Binary64
