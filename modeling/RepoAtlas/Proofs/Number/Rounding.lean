import RepoAtlas.Number.Binary64
import Mathlib.Data.Rat.Lemmas
import Mathlib.Algebra.Order.Field.Basic
import Mathlib.Algebra.Order.Field.Rat
import Mathlib.Algebra.Ring.Parity
import Mathlib.Tactic.Lemma
import Mathlib.Tactic.Ring
import Mathlib.Tactic.SplitIfs

/-!
# Rounding keeps order and sign

A quotient is rounded to the nearest integer, a half going to the even neighbour.  **Rounding is
monotone in the quotient** (`roundHalfEven_le_of_cross`), although the two quotients may be given
with different denominators: widening a fraction changes nothing (`roundHalfEven_mul_mul`), so they
may be brought to one denominator, and there a larger numerator has a larger integer part, or the
same one and a larger remainder.

**What is rounded to zero** are the quotients up to one half, the half included
(`roundHalfEven_pos_iff`).  A number of the format keeps the sign of the integer it was made from.
-/

namespace RepoAtlas.Binary64

variable {a b c d num den : ℕ}

/-! ## Quotients -/

lemma div_le_roundHalfEven (num den : ℕ) : num / den ≤ roundHalfEven num den := by
  unfold roundHalfEven
  split_ifs <;> omega

lemma roundHalfEven_le_succ (num den : ℕ) : roundHalfEven num den ≤ num / den + 1 := by
  unfold roundHalfEven
  split_ifs <;> omega

/-- With one denominator, a larger numerator is rounded to no less. -/
lemma roundHalfEven_mono (hle : a ≤ b) (den : ℕ) : roundHalfEven a den ≤ roundHalfEven b den := by
  have hdiv : a / den ≤ b / den := Nat.div_le_div_right hle
  rcases hdiv.lt_or_eq with hlt | heq
  · calc roundHalfEven a den ≤ a / den + 1 := roundHalfEven_le_succ a den
      _ ≤ b / den := hlt
      _ ≤ roundHalfEven b den := div_le_roundHalfEven b den
  · -- The integer parts are equal, so the remainders decide.
    have hmod : a % den ≤ b % den := by
      have ha := Nat.div_add_mod a den
      have hb := Nat.div_add_mod b den
      rw [heq] at ha
      omega
    unfold roundHalfEven
    rw [heq]
    split_ifs <;> omega

/-- Widening a fraction does not change what it is rounded to. -/
lemma roundHalfEven_mul_mul {k : ℕ} (hk : 0 < k) (num den : ℕ) :
    roundHalfEven (num * k) (den * k) = roundHalfEven num den := by
  have hdiv : num * k / (den * k) = num / den := Nat.mul_div_mul_right num den hk
  have hmod : 2 * (num * k % (den * k)) = 2 * (num % den) * k := by
    rw [Nat.mul_mod_mul_right, Nat.mul_assoc]
  simp only [roundHalfEven, hdiv, hmod, Nat.mul_lt_mul_right hk]

/-- **Rounding is monotone**, whatever the denominators are. -/
lemma roundHalfEven_le_of_cross (hb : 0 < b) (hd : 0 < d) (h : a * d ≤ c * b) :
    roundHalfEven a b ≤ roundHalfEven c d := by
  calc roundHalfEven a b = roundHalfEven (a * d) (b * d) := (roundHalfEven_mul_mul hd a b).symm
    _ ≤ roundHalfEven (c * b) (b * d) := roundHalfEven_mono h _
    _ = roundHalfEven (c * b) (d * b) := by rw [Nat.mul_comm b d]
    _ = roundHalfEven c d := roundHalfEven_mul_mul hb c d

/-- **More than one half is needed to be rounded to something.** -/
lemma roundHalfEven_pos_iff (h : 0 < den) : 0 < roundHalfEven num den ↔ den < 2 * num := by
  rcases Nat.lt_or_ge num den with hlt | hge
  · have hdiv : num / den = 0 := Nat.div_eq_of_lt hlt
    have hmod : num % den = num := Nat.mod_eq_of_lt hlt
    simp only [roundHalfEven, hdiv, hmod]
    split_ifs <;> omega
  · have hdiv : 1 ≤ num / den := (Nat.one_le_div_iff h).2 hge
    have hround := div_le_roundHalfEven num den
    constructor <;> omega

/-- **A half goes to the even neighbour**: a quotient halfway between two integers is not rounded
to an odd one. -/
lemma even_roundHalfEven (h : 0 < den)
    (hhalf : den * (2 * roundHalfEven num den + 1) = 2 * num ∨
      den * (2 * roundHalfEven num den) = 2 * num + den) : Even (roundHalfEven num den) := by
  have hwhole := Nat.div_add_mod num den
  have hsmall := Nat.mod_lt num h
  unfold roundHalfEven at hhalf ⊢
  generalize num / den = q at *
  generalize num % den = r at *
  split_ifs at hhalf ⊢ with hdown hup
  · exfalso
    rcases hhalf with hhalf | hhalf <;> ring_nf at hhalf hwhole hdown <;> omega
  · exfalso
    rcases hhalf with hhalf | hhalf <;> ring_nf at hhalf hwhole hup <;> omega
  · rw [Nat.even_iff]
    omega

/-! ## Signs -/

variable {x : Binary64} {q : ℚ}

lemma zero_eq : (0 : Binary64) = .finite false 0 (-1074) (by decide) := by decide

lemma toRat?_zero : (0 : Binary64).toRat? = some 0 := by decide +kernel

/-- A finite number is less than zero when its value is. -/
lemma less_zero_iff (h : x.toRat? = some q) : x.less 0 = true ↔ q < 0 := by
  cases x with
  | finite negative mantissa exponent canonical =>
      have hless : less (.finite negative mantissa exponent canonical) 0 = decide (q < 0) := by
        rw [less, h, toRat?_zero] <;> simp [zero_eq]
      rw [hless, decide_eq_true_iff]
  | infinite negative => cases h
  | nan => cases h

lemma zero_less_iff (h : x.toRat? = some q) : less 0 x = true ↔ 0 < q := by
  cases x with
  | finite negative mantissa exponent canonical =>
      have hless : less 0 (.finite negative mantissa exponent canonical) = decide (0 < q) := by
        rw [less, h, toRat?_zero] <;> simp [zero_eq]
      rw [hless, decide_eq_true_iff]
  | infinite negative => cases h
  | nan => cases h

lemma same_zero_iff (h : x.toRat? = some q) : x.same 0 = true ↔ q = 0 := by
  cases x with
  | finite negative mantissa exponent canonical =>
      have hsame : same (.finite negative mantissa exponent canonical) 0 = (q == 0) := by
        rw [same, h, toRat?_zero] <;> simp [zero_eq]
      rw [hsame, beq_iff_eq]
  | infinite negative => cases h
  | nan => cases h

/-- What is neither less than zero nor zero is more than zero, or no number at all. -/
lemma zero_less_or_eq_nan (hless : x.less 0 = false) (hsame : x.same 0 = false) :
    less 0 x = true ∨ x = .nan := by
  cases x with
  | finite negative mantissa exponent canonical =>
      obtain ⟨q, hq⟩ : ∃ q, toRat? (.finite negative mantissa exponent canonical) = some q :=
        ⟨_, rfl⟩
      rw [← Bool.not_eq_true, less_zero_iff hq] at hless
      rw [← Bool.not_eq_true, same_zero_iff hq] at hsame
      exact Or.inl ((zero_less_iff hq).2 ((not_lt.1 hless).lt_of_ne' hsame))
  | infinite negative =>
      cases negative with
      | true => exact absurd hless (by decide)
      | false => exact Or.inl (by decide)
  | nan => exact Or.inr rfl

/-! ## Numbers made from integers -/

lemma twoTo_pos (n : ℕ) : 0 < twoTo n := Nat.two_pow_pos n

lemma unscale_den_pos (hden : 0 < den) (num : ℕ) (exponent : ℤ) :
    0 < (unscale num den exponent).2 := by
  unfold unscale
  split_ifs
  · exact Nat.mul_pos hden (twoTo_pos _)
  · exact hden

lemma unscale_num_pos (hnum : 0 < num) (den : ℕ) (exponent : ℤ) :
    0 < (unscale num den exponent).1 := by
  unfold unscale
  split_ifs
  · exact hnum
  · exact Nat.mul_pos hnum (twoTo_pos _)

lemma sign_ofParts {mantissa : ℕ} {exponent : ℤ}
    (h : (ofParts false mantissa exponent).toRat? = some q) :
    0 ≤ q ∧ (0 < mantissa → 0 < q) := by
  unfold ofParts at h
  split_ifs at h with hcanonical
  · simp only [toRat?, Option.some.injEq, Bool.false_eq_true, if_false] at h
    subst h
    have hden := unscale_den_pos Nat.one_pos mantissa (-exponent)
    rw [Rat.mkRat_eq_div]
    constructor
    · exact div_nonneg (by exact_mod_cast Nat.zero_le _) (by exact_mod_cast Nat.zero_le _)
    · intro hmantissa
      have hnum := unscale_num_pos hmantissa 1 (-exponent)
      exact div_pos (by exact_mod_cast hnum) (by exact_mod_cast hden)
  · cases h

lemma lastPlace_le_log2 (num : ℕ) : lastPlace num 1 ≤ num.log2 := by
  have hone : Nat.log2 1 = 0 := by decide
  simp only [lastPlace, hone]
  split_ifs <;> omega

/-- In units of its last place an integer is at least one, so it is not rounded to zero. -/
lemma roundHalfEven_unscale_pos (h : 0 < num) {exponent : ℤ} (hexponent : exponent ≤ num.log2) :
    0 < roundHalfEven (unscale num 1 exponent).1 (unscale num 1 exponent).2 := by
  have hden := unscale_den_pos Nat.one_pos num exponent
  have hnum := unscale_num_pos h 1 exponent
  have hle : (unscale num 1 exponent).2 ≤ (unscale num 1 exponent).1 := by
    unfold unscale
    split_ifs with hsign
    · have hpow : twoTo exponent.toNat ≤ twoTo num.log2 :=
        Nat.pow_le_pow_right (by decide) (by omega)
      have hself : twoTo num.log2 ≤ num := Nat.log2_self_le (by omega)
      simpa using hpow.trans hself
    · exact Nat.mul_pos h (twoTo_pos _)
  rw [roundHalfEven_pos_iff hden]
  omega

/-- What a positive integer becomes has a mantissa that is not zero. -/
lemma ofFraction_induction {p : Binary64 → Prop}
    (hp : ∀ mantissa exponent, 0 < mantissa → p (ofParts false mantissa exponent))
    (h : 0 < num) : p (ofFraction false num 1) := by
  unfold ofFraction
  rw [if_neg (Nat.pos_iff_ne_zero.1 h)]
  -- The exponent is made opaque first: nothing may try to compute the powers of two.
  extract_lets exponent
  have hexponent : exponent ≤ num.log2 := lastPlace_le_log2 num
  clear_value exponent
  have hmantissa := roundHalfEven_unscale_pos h hexponent
  split
  rename_i n d hunscaled
  rw [hunscaled] at hmantissa
  extract_lets mantissa
  have hpos : 0 < mantissa := hmantissa
  clear_value mantissa
  by_cases hfull : mantissa = twoTo 53
  · rw [if_pos hfull]
    exact hp _ _ (twoTo_pos 52)
  · rw [if_neg hfull]
    exact hp _ _ hpos

/-- **Integers keep their sign** when they become numbers of the format. -/
lemma sign_ofInt {n : ℤ} (hn : 0 ≤ n) (h : (ofInt n).toRat? = some q) :
    0 ≤ q ∧ (0 < n → 0 < q) := by
  rcases hn.eq_or_lt with rfl | hpos
  · have hzero : (ofInt 0).toRat? = some 0 := toRat?_zero
    rw [hzero, Option.some.injEq] at h
    subst h
    simp
  · have hsign : decide (n < 0) = false := by simpa using hn
    rw [ofInt, hsign] at h
    have hq : ∀ q, (ofFraction false n.natAbs 1).toRat? = some q → 0 < q := by
      refine ofFraction_induction (p := fun x => ∀ q, x.toRat? = some q → 0 < q) ?_
        (Int.natAbs_pos.2 hpos.ne')
      intro mantissa exponent hmantissa q hq
      exact (sign_ofParts hq).2 hmantissa
    exact ⟨(hq q h).le, fun _ => hq q h⟩

end RepoAtlas.Binary64
