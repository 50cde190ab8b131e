import RepoAtlas.Data.Value

/-!
# Weights of entry heuristics

Five heuristics speak for a module being an entry point of the program, each with a weight. What a
module scores is the sum of the weights of the heuristics that hold of it, as a share of the sum of
all weights. The arithmetic is a parameter: `Scale.binary64` is what runs, and `Scale.exact` is the
same on rationals, where a score can be reasoned about without the rounding of every sum.
-/

namespace RepoAtlas

/-- A reason to take a module for an entry point, in the order in which reasons are listed. -/
inductive Heuristic where
  | manifestMain
  | zeroInDegree
  | entryFilename
  | routeRegistrations
  | mainGuard
deriving DecidableEq, Repr

namespace Heuristic

def all : List Heuristic :=
  [.manifestMain, .zeroInDegree, .entryFilename, .routeRegistrations, .mainGuard]

theorem mem_all (heuristic : Heuristic) : heuristic ∈ all := by
  cases heuristic <;> decide

def label : Heuristic → String
  | .manifestMain => "manifest_main"
  | .zeroInDegree => "zero_in_degree"
  | .entryFilename => "entry_filename"
  | .routeRegistrations => "route_registrations"
  | .mainGuard => "main_guard"

def ofLabel? (label : String) : Option Heuristic := all.find? (·.label == label)

end Heuristic

abbrev Weights (α : Type) := Heuristic → α

/-- How weights are added and compared, and how one is written as a share of another. -/
structure Scale (α : Type) where
  zero : α
  add : α → α → α
  /-- The quotient rounded to four decimal places, and zero if the whole is zero. -/
  share : (part whole : α) → α
  less : α → α → Bool

namespace Scale

/-- The sum of some weights, added from the left. -/
def sum {α : Type} (scale : Scale α) (weights : List α) : α :=
  weights.foldl scale.add scale.zero

/-- Floating-point arithmetic: every sum, the quotient and the rounded share are floating-point
numbers. -/
def binary64 : Scale Binary64 where
  zero := 0
  add := Binary64.add
  share part whole := if whole.same 0 then 0 else (part.divide whole).roundTo 4
  less := Binary64.less

/-- A rational rounded to four decimal places, a half going to the even digit. -/
def roundToFour (q : Rat) : Rat :=
  let rounded : Int := Binary64.roundHalfEven (q.num.natAbs * 10000) q.den
  mkRat (if q < 0 then -rounded else rounded) 10000

/-- Exact arithmetic: only the share is rounded. -/
def exact : Scale Rat where
  zero := 0
  add := (· + ·)
  share part whole := if whole = 0 then 0 else roundToFour (part / whole)
  less a b := a < b

end Scale

namespace Weights

/-- The weights that hold unless others are given. -/
def standard {α : Type} [OfNat α 2] [OfNat α 3] [OfNat α 4] : Weights α
  | .manifestMain => 4
  | .zeroInDegree => 3
  | .entryFilename => 3
  | .routeRegistrations => 2
  | .mainGuard => 2

def toList {α : Type} (weights : Weights α) : List α := Heuristic.all.map weights

def set {α : Type} (heuristic : Heuristic) (weight : α) (weights : Weights α) : Weights α :=
  fun other => if other = heuristic then weight else weights other

end Weights

/-- Why given weights are refused. -/
inductive WeightError where
  | unknown (name : String)
  | negative (name : String)
  | notPositive (name : String)
  | notANumber
  | tooLarge
  | notAMapping
deriving DecidableEq, Repr

/-- The wording of a refusal, where it has one. -/
def WeightError.message : WeightError → String
  | .unknown name => "Unknown entry point heuristic: " ++ name
  | .negative name => "Heuristic weight for " ++ name ++ " must be non-negative"
  | .notPositive name => "Heuristic weight for " ++ name ++ " must be positive"
  | .notANumber => "weight is not a number"
  | .tooLarge => "weight is too large"
  | .notAMapping => "weights are not a mapping"

namespace Weights

/-- How a given weight compares with zero, and the number it is. -/
structure Given where
  isNegative : Bool
  isPositive : Bool
  /-- The floating-point number; an integer beyond its range has none. -/
  number : Option Binary64

def given? : Value → Option Given
  | .float x => some ⟨x.less 0, !(x.less 0 || x.same 0), some x⟩
  | v => v.toInt?.map fun n =>
      let x := Binary64.ofInt n
      ⟨n < 0, 0 < n, if x.isFinite then some x else none⟩

/-- A module that nothing imports must always score above zero, so its weight must be positive; no
weight may be negative. -/
def check (name : String) (value : Value) : Except WeightError (Heuristic × Binary64) :=
  match Heuristic.ofLabel? name with
  | none => .error (.unknown name)
  | some heuristic =>
    match given? value with
    | none => .error .notANumber
    | some given =>
      if given.isNegative then .error (.negative name)
      else if !given.isPositive && heuristic = .zeroInDegree then .error (.notPositive name)
      else match given.number with
        | none => .error .tooLarge
        | some x => .ok (heuristic, x)

def ofEntries (entries : List (String × Value)) : Except WeightError (Weights Binary64) :=
  entries.foldlM (fun weights (name, value) => do
    let (heuristic, weight) ← check name value
    pure (weights.set heuristic weight)) standard

/-- The weights that a value gives; one that counts as false gives none. -/
def ofValue (value : Value) : Except WeightError (Weights Binary64) :=
  match value with
  | .dict entries => ofEntries entries
  | value => if value.isTruthy then .error .notAMapping else .ok standard

end Weights

end RepoAtlas
