import RepoAtlas.Entry.Weights
import RepoAtlas.Proofs.Data.Except
import RepoAtlas.Proofs.Number.Rounding
import Mathlib.Algebra.BigOperators.Group.List.Basic
import Mathlib.Algebra.Order.BigOperators.Group.List
import Mathlib.Data.List.Nodup
import Mathlib.Data.List.Perm.Subperm
import Mathlib.Tactic.Linarith
import Mathlib.Tactic.NormNum

/-!
# Weights and shares, without rounding errors

The weights that are accepted are finite or not; those that are finite are rationals, and this
module is about what scores are when nothing but the share is rounded.

**What is accepted** has no negative weight and a positive one for modules that nothing imports
(`isSound_exact`).  The sum of all weights is therefore positive, a share lies between zero and one,
and more heuristics never have a smaller share (`share_le_share`).

**Rounding** goes to the nearest multiple of one ten-thousandth, a half going to the even one
(`roundsToFour_roundToFour`).  It keeps the order and the bounds of shares, but not their sign:
`roundToFour_pos_iff` says which shares are rounded to zero.
-/

namespace RepoAtlas

open List

/-! ## Weights as rationals -/

namespace Weights

variable {weights : Weights ℚ} {heuristics others : List Heuristic}

/-- The values of finite weights. -/
def exact (weights : Weights Binary64) : Weights ℚ := fun heuristic =>
  ((weights heuristic).toRat?).getD 0

/-- No weight is negative, and that of a module that nothing imports is positive. -/
structure IsSound (weights : Weights ℚ) : Prop where
  nonneg : ∀ heuristic, 0 ≤ weights heuristic
  positive : 0 < weights .zeroInDegree

/-- What a weight must be worth if it is finite. -/
def IsAllowed (heuristic : Heuristic) (weight : Binary64) : Prop :=
  ∀ q, weight.toRat? = some q → 0 ≤ q ∧ (heuristic = .zeroInDegree → 0 < q)

lemma isAllowed_ofInt {heuristic : Heuristic} {n : ℤ} (hn : 0 ≤ n)
    (hpos : heuristic = .zeroInDegree → 0 < n) : IsAllowed heuristic (.ofInt n) := by
  intro q hq
  have hsign := Binary64.sign_ofInt hn hq
  exact ⟨hsign.1, fun hroot => hsign.2 (hpos hroot)⟩

lemma isAllowed_standard (heuristic : Heuristic) :
    IsAllowed heuristic (standard heuristic : Binary64) := by
  cases heuristic with
  | manifestMain => exact isAllowed_ofInt (n := 4) (by decide) (by decide)
  | zeroInDegree => exact isAllowed_ofInt (n := 3) (by decide) (by decide)
  | entryFilename => exact isAllowed_ofInt (n := 3) (by decide) (by decide)
  | routeRegistrations => exact isAllowed_ofInt (n := 2) (by decide) (by decide)
  | mainGuard => exact isAllowed_ofInt (n := 2) (by decide) (by decide)

/-- What is given is compared with zero by its value. -/
lemma isAllowed_given {value : Value} {given : Given} {heuristic : Heuristic} {x : Binary64}
    (h : given? value = some given) (hnegative : given.isNegative = false)
    (hpositive : heuristic = .zeroInDegree → given.isPositive = true)
    (hnumber : given.number = some x) : IsAllowed heuristic x := by
  unfold given? at h
  split at h
  · rename_i y
    cases h
    cases hnumber
    intro q hq
    have hle : 0 ≤ q := by
      have hless : x.less 0 = false := hnegative
      rw [← not_lt, ← Binary64.less_zero_iff hq, hless]
      exact Bool.false_ne_true
    refine ⟨hle, ?_⟩
    intro hroot
    have hne : q ≠ 0 := by
      intro hzero
      have hsame := (Binary64.same_zero_iff hq).2 hzero
      simpa [hsame] using hpositive hroot
    exact lt_of_le_of_ne hle hne.symm
  · obtain ⟨n, -, rfl⟩ := Option.map_eq_some_iff.1 h
    simp only [decide_eq_false_iff_not, not_lt, decide_eq_true_eq] at hnegative hpositive
    simp only at hnumber
    split_ifs at hnumber
    cases hnumber
    exact isAllowed_ofInt hnegative hpositive

lemma isAllowed_of_check {name : String} {value : Value} {heuristic : Heuristic} {x : Binary64}
    (h : check name value = .ok (heuristic, x)) : IsAllowed heuristic x := by
  unfold check at h
  split at h
  · cases h
  · rename_i known hknown
    split at h
    · cases h
    · rename_i given hgiven
      split_ifs at h with hnegative hpositive
      split at h
      · cases h
      · rename_i y hnumber
        cases h
        refine isAllowed_given hgiven (by simpa using hnegative) ?_ hnumber
        intro hroot
        simpa [hroot] using hpositive

/-- **Every weight that is set is allowed**, and the others keep their standard. -/
lemma isAllowed_of_ofEntries {entries : List (String × Value)} {given : Weights Binary64}
    (h : ofEntries entries = .ok given) : ∀ heuristic, IsAllowed heuristic (given heuristic) := by
  refine foldlM_preserves (p := fun weights => ∀ heuristic, IsAllowed heuristic (weights heuristic))
    ?_ isAllowed_standard h
  rintro weights weights' ⟨name, value⟩ - hallowed hstep
  obtain ⟨⟨known, x⟩, hcheck, hstep⟩ := bind_eq_ok.1 hstep
  cases hstep
  intro heuristic
  unfold set
  split_ifs with heq
  · subst heq
    exact isAllowed_of_check hcheck
  · exact hallowed heuristic

lemma isAllowed_of_ofValue {value : Value} {given : Weights Binary64}
    (h : ofValue value = .ok given) : ∀ heuristic, IsAllowed heuristic (given heuristic) := by
  unfold ofValue at h
  split at h
  · exact isAllowed_of_ofEntries h
  · split_ifs at h
    cases h
    exact isAllowed_standard

/-- **Accepted weights that are finite are sound.** -/
lemma isSound_exact {value : Value} {given : Weights Binary64} (h : ofValue value = .ok given)
    (hfinite : ∀ heuristic, (given heuristic).isFinite) : given.exact.IsSound := by
  have hworth : ∀ heuristic, (given heuristic).toRat? = some (given.exact heuristic) := by
    intro heuristic
    obtain ⟨q, hq⟩ := Option.isSome_iff_exists.1 (hfinite heuristic)
    rw [exact, hq, Option.getD_some]
  have hallowed := isAllowed_of_ofValue h
  refine ⟨?_, ?_⟩
  · intro heuristic
    exact (hallowed heuristic _ (hworth heuristic)).1
  · exact (hallowed .zeroInDegree _ (hworth .zeroInDegree)).2 rfl

/-! ## Sums and shares -/

/-- The sum of the weights of some heuristics. -/
def sumOf (weights : Weights ℚ) (heuristics : List Heuristic) : ℚ := (heuristics.map weights).sum

/-- What some heuristics weigh, as a share of what all of them weigh. -/
def share (weights : Weights ℚ) (heuristics : List Heuristic) : ℚ :=
  weights.sumOf heuristics / weights.sumOf Heuristic.all

lemma sumOf_nonneg (h : weights.IsSound) (heuristics : List Heuristic) :
    0 ≤ weights.sumOf heuristics := by
  refine sum_nonneg ?_
  intro weight hweight
  obtain ⟨heuristic, -, rfl⟩ := mem_map.1 hweight
  exact h.nonneg heuristic

lemma sumOf_le_sumOf (h : weights.IsSound) (hdistinct : heuristics.Nodup)
    (hsubset : heuristics ⊆ others) : weights.sumOf heuristics ≤ weights.sumOf others := by
  obtain ⟨permuted, hperm, hsublist⟩ := subperm_of_subset hdistinct hsubset
  calc weights.sumOf heuristics = weights.sumOf permuted := ((hperm.map weights).sum_eq).symm
    _ ≤ weights.sumOf others := by
      refine (hsublist.map weights).sum_le_sum ?_
      intro weight hweight
      obtain ⟨heuristic, -, rfl⟩ := mem_map.1 hweight
      exact h.nonneg heuristic

lemma le_sumOf_of_mem (h : weights.IsSound) {heuristic : Heuristic}
    (hmem : heuristic ∈ heuristics) : weights heuristic ≤ weights.sumOf heuristics := by
  have hsum := sumOf_le_sumOf h (List.nodup_singleton heuristic) (by simpa using hmem)
  simpa [sumOf] using hsum

/-- All weights together are something, because that of a module that nothing imports is. -/
lemma sumOf_all_pos (h : weights.IsSound) : 0 < weights.sumOf Heuristic.all :=
  h.positive.trans_le (le_sumOf_of_mem h (Heuristic.mem_all .zeroInDegree))

lemma share_nonneg (h : weights.IsSound) (heuristics : List Heuristic) :
    0 ≤ weights.share heuristics :=
  div_nonneg (sumOf_nonneg h heuristics) (sumOf_all_pos h).le

/-- **More heuristics never have a smaller share.** -/
lemma share_le_share (h : weights.IsSound) (hdistinct : heuristics.Nodup)
    (hsubset : heuristics ⊆ others) : weights.share heuristics ≤ weights.share others :=
  div_le_div_of_nonneg_right (sumOf_le_sumOf h hdistinct hsubset) (sumOf_all_pos h).le

lemma share_le_one (h : weights.IsSound) (hdistinct : heuristics.Nodup) :
    weights.share heuristics ≤ 1 := by
  calc weights.share heuristics ≤ weights.share Heuristic.all :=
        share_le_share h hdistinct fun heuristic _ => heuristic.mem_all
    _ = 1 := div_self (sumOf_all_pos h).ne'

end Weights

/-! ## Rounded shares -/

namespace Scale

variable {p q : ℚ}

lemma sum_exact (weights : List ℚ) : exact.sum weights = weights.sum := by
  rw [sum_eq_foldl]
  rfl

lemma share_exact {weights : Weights ℚ} (h : weights.IsSound) (heuristics : List Heuristic) :
    exact.share (exact.sum (heuristics.map weights)) (exact.sum weights.toList) =
      roundToFour (weights.share heuristics) := by
  rw [sum_exact, sum_exact]
  exact if_neg (Weights.sumOf_all_pos h).ne'

/-- `r` is the multiple of one ten-thousandth that is nearest to `q`, the even one of two. -/
structure RoundsToFour (q r : ℚ) : Prop where
  near : |r - q| ≤ 1 / 20000
  units : ∃ n : ℕ, r = n / 10000 ∧ (|r - q| = 1 / 20000 → Even n)

/-- How many ten-thousandths a share is rounded to. -/
def tenThousandths (q : ℚ) : ℕ := Binary64.roundHalfEven (q.num.natAbs * 10000) q.den

lemma roundToFour_of_nonneg (h : 0 ≤ q) : roundToFour q = tenThousandths q / 10000 := by
  simp only [roundToFour, if_neg h.not_gt, Rat.mkRat_eq_div]
  rfl

lemma num_eq_mul_den (h : 0 ≤ q) : (q.num.natAbs : ℚ) = q * q.den := by
  have hnum : ((q.num.natAbs : ℤ) : ℚ) = q.num := by
    rw [Int.natAbs_of_nonneg (Rat.num_nonneg.2 h)]
  rw [← Int.cast_natCast, hnum, Rat.mul_den_eq_num]

lemma tenThousandths_near (h : 0 ≤ q) :
    20000 * q ≤ 2 * tenThousandths q + 1 ∧ 2 * tenThousandths q ≤ 20000 * q + 1 := by
  have hden : (0 : ℚ) < q.den := by exact_mod_cast q.den_pos
  have hnum := num_eq_mul_den h
  obtain ⟨hlow, hhigh⟩ := Binary64.roundHalfEven_near (q.num.natAbs * 10000) q.den q.den_pos
  have hlow' : 2 * (q * q.den * 10000) ≤ q.den * (2 * tenThousandths q + 1) := by
    rw [← hnum]
    exact_mod_cast hlow
  have hhigh' : q.den * (2 * tenThousandths q) ≤ 2 * (q * q.den * 10000) + q.den := by
    rw [← hnum]
    exact_mod_cast hhigh
  constructor
  · refine le_of_mul_le_mul_left ?_ hden
    linarith
  · refine le_of_mul_le_mul_left ?_ hden
    linarith

lemma even_tenThousandths (h : 0 ≤ q)
    (hhalf : 2 * tenThousandths q + 1 = 20000 * q ∨ 2 * tenThousandths q = 20000 * q + 1) :
    Even (tenThousandths q) := by
  have hnum := num_eq_mul_den h
  refine Binary64.even_roundHalfEven q.den_pos ?_
  rcases hhalf with hhalf | hhalf
  · have hlow : (q.den * (2 * tenThousandths q + 1) : ℚ) = 2 * (q.num.natAbs * 10000) := by
      rw [hnum, hhalf]
      ring
    exact Or.inl (by exact_mod_cast hlow)
  · have hhigh : (q.den * (2 * tenThousandths q) : ℚ) = 2 * (q.num.natAbs * 10000) + q.den := by
      rw [hnum, hhalf]
      ring
    exact Or.inr (by exact_mod_cast hhigh)

/-- **Shares are rounded to the nearest ten-thousandth.** -/
lemma roundsToFour_roundToFour (h : 0 ≤ q) : RoundsToFour q (roundToFour q) := by
  obtain ⟨hlow, hhigh⟩ := tenThousandths_near h
  rw [roundToFour_of_nonneg h]
  refine ⟨?_, tenThousandths q, rfl, ?_⟩
  · rw [abs_le]
    constructor <;> linarith
  · intro hhalf
    refine even_tenThousandths h ?_
    rcases eq_or_eq_neg_of_abs_eq hhalf with hup | hdown
    · exact Or.inr (by linarith)
    · exact Or.inl (by linarith)

/-- **Rounding keeps the order of shares.** -/
lemma roundToFour_le_roundToFour (hp : 0 ≤ p) (h : p ≤ q) : roundToFour p ≤ roundToFour q := by
  have hq := hp.trans h
  rw [roundToFour_of_nonneg hp, roundToFour_of_nonneg hq]
  have hcross : p.num.natAbs * 10000 * q.den ≤ q.num.natAbs * 10000 * p.den := by
    have hscaled : p * (p.den * q.den * 10000) ≤ q * (p.den * q.den * 10000) :=
      mul_le_mul_of_nonneg_right h (by positivity)
    have hcross : (p.num.natAbs * 10000 * q.den : ℚ) ≤ q.num.natAbs * 10000 * p.den := by
      rw [num_eq_mul_den hp, num_eq_mul_den hq]
      linarith
    exact_mod_cast hcross
  have hround : tenThousandths p ≤ tenThousandths q :=
    Binary64.roundHalfEven_le_of_cross p.den_pos q.den_pos hcross
  have hround' : (tenThousandths p : ℚ) ≤ tenThousandths q := by exact_mod_cast hround
  linarith

lemma roundToFour_nonneg (h : 0 ≤ q) : 0 ≤ roundToFour q := by
  rw [roundToFour_of_nonneg h]
  positivity

lemma roundToFour_le_one (h : 0 ≤ q) (hone : q ≤ 1) : roundToFour q ≤ 1 := by
  have hround : roundToFour 1 = 1 := by decide +kernel
  exact hround ▸ roundToFour_le_roundToFour h hone

/-- **Only shares above one twenty-thousandth are rounded to something.** -/
lemma roundToFour_pos_iff (h : 0 ≤ q) : 0 < roundToFour q ↔ 1 / 20000 < q := by
  have hden : (0 : ℚ) < q.den := by exact_mod_cast q.den_pos
  have hpos : 0 < tenThousandths q ↔ q.den < 2 * (q.num.natAbs * 10000) :=
    Binary64.roundHalfEven_pos_iff q.den_pos
  have hscaled : q.den < 2 * (q.num.natAbs * 10000) ↔ q.den * 1 < q.den * (20000 * q) := by
    rw [← Nat.cast_lt (α := ℚ)]
    push_cast
    rw [num_eq_mul_den h, mul_one]
    constructor <;> intro hlt <;> linarith
  rw [roundToFour_of_nonneg h, div_pos_iff_of_pos_right (by norm_num), Nat.cast_pos, hpos, hscaled,
    mul_lt_mul_iff_right₀ hden]
  constructor <;> intro hlt <;> linarith

end Scale

end RepoAtlas
