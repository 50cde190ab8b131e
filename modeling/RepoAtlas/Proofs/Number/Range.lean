import RepoAtlas.Proofs.Number.Rounding

/-!
# Integers beyond the range

The largest finite number of the format is `2 ^ 1024 - 2 ^ 971`.  The integers from halfway between
it and `2 ^ 1024` on have no finite number nearest to them (`isFinite_ofInt_iff`): the midpoint is a
tie, which goes to the even mantissa, and that is the one out of range.

The exponent of an integer is read off its length (`lastPlace_one`), so only the integers of one
length have to be looked at more closely (`roundHalfEven_lt_iff`).
-/

namespace RepoAtlas.Binary64

variable {num half bound : ℕ}

lemma twoTo_eq (n : ℕ) : twoTo n = 2 ^ n := rfl

lemma tenTo_eq (n : ℕ) : tenTo n = 10 ^ n := rfl

/-! ## Lengths -/

/-- **What an integer is in units of its last place** fills a mantissa. -/
lemma unscale_log2_bounds (hpos : 0 < num) {n d : ℕ}
    (h : unscale num 1 ((num.log2 : ℤ) - 52) = (n, d)) : d * 2 ^ 52 ≤ n ∧ n < d * 2 ^ 53 := by
  have hself : 2 ^ num.log2 ≤ num := Nat.log2_self_le hpos.ne'
  have hlt : num < 2 ^ (num.log2 + 1) := Nat.lt_log2_self
  generalize num.log2 = length at hself hlt h
  unfold unscale at h
  simp only [twoTo_eq, Nat.one_mul] at h
  split_ifs at h with hlong
  · obtain ⟨shift, rfl⟩ : ∃ shift, length = shift + 52 := ⟨length - 52, by omega⟩
    have hshift : (((shift + 52 : ℕ) : ℤ) - 52).toNat = shift := by omega
    rw [hshift] at h
    obtain ⟨rfl, rfl⟩ := Prod.mk.inj h
    rw [← Nat.pow_add, ← Nat.pow_add]
    exact ⟨hself, hlt⟩
  · obtain ⟨shift, hshort⟩ : ∃ shift, length + shift = 52 := ⟨52 - length, by omega⟩
    have hshift : (-((length : ℤ) - 52)).toNat = shift := by omega
    rw [hshift] at h
    obtain ⟨rfl, rfl⟩ := Prod.mk.inj h
    have hfull : length + 1 + shift = 53 := by omega
    rw [Nat.one_mul, Nat.one_mul, ← hshort, ← hfull, Nat.pow_add, Nat.pow_add 2 (length + 1)]
    exact ⟨Nat.mul_le_mul_right _ hself, Nat.mul_lt_mul_of_pos_right hlt (Nat.two_pow_pos shift)⟩

/-- The exponent of an integer leaves the 53 digits of a mantissa. -/
lemma lastPlace_one (hpos : 0 < num) : lastPlace num 1 = (num.log2 : ℤ) - 52 := by
  have hself : 2 ^ num.log2 ≤ num := Nat.log2_self_le hpos.ne'
  have hone : Nat.log2 1 = 0 := by decide
  have hfilled : ¬ (unscale num 1 ((num.log2 : ℤ) - 53)).1 <
      (unscale num 1 ((num.log2 : ℤ) - 53)).2 * 2 ^ 53 := by
    generalize num.log2 = length at hself
    unfold unscale
    simp only [twoTo_eq, Nat.one_mul]
    split_ifs with hlong
    · have hlength : ((length : ℤ) - 53).toNat + 53 = length := by omega
      rw [← Nat.pow_add, hlength]
      exact hself.not_gt
    · have hlength : length + (-((length : ℤ) - 53)).toNat = 53 := by omega
      rw [Nat.one_mul]
      nth_rewrite 1 [← hlength]
      rw [Nat.pow_add]
      exact (Nat.mul_le_mul_right _ hself).not_gt
  simp only [lastPlace, hone, twoTo_eq, Nat.cast_zero, sub_zero, if_neg hfilled]
  omega

/-! ## The last length in range -/

/-- Adding a half and cutting off rounds up every half. -/
lemma div_add_half (hhalf : 0 < half) (num : ℕ) : (num + half) / (2 * half) =
    if num % (2 * half) < half then num / (2 * half) else num / (2 * half) + 1 := by
  have hwhole := Nat.div_add_mod num (2 * half)
  have hsmall := Nat.mod_lt num (show 0 < 2 * half by omega)
  have hnext := Nat.mul_add_one (2 * half) (num / (2 * half))
  have hafter := Nat.mul_add_one (2 * half) (num / (2 * half) + 1)
  split_ifs with hbelow
  · refine Nat.div_eq_of_lt_le ?_ ?_ <;> rw [Nat.mul_comm] <;> omega
  · refine Nat.div_eq_of_lt_le ?_ ?_ <;> rw [Nat.mul_comm] <;> omega

/-- A quotient is rounded below an even bound unless it comes within a half of it. -/
lemma roundHalfEven_lt_iff (hhalf : 0 < half) (hbound : Even bound) :
    roundHalfEven num (2 * half) < bound ↔ num + half < bound * (2 * half) := by
  rw [← Nat.div_lt_iff_lt_mul (show 0 < 2 * half by omega), div_add_half hhalf]
  rw [Nat.even_iff] at hbound
  unfold roundHalfEven
  split_ifs <;> omega

/-! ## The range -/

lemma isFinite_ofParts_iff {negative : Bool} {mantissa : ℕ} {exponent : ℤ} :
    (ofParts negative mantissa exponent).isFinite = true ↔ IsCanonical mantissa exponent := by
  unfold ofParts
  split_ifs with hcanonical
  · exact iff_of_true rfl hcanonical
  · exact iff_of_false (by decide +revert) hcanonical

/-- A positive integer is in range if its length is, once it is rounded. -/
lemma isFinite_ofFraction_iff (hpos : 0 < num) {negative : Bool} {n d : ℕ}
    (h : unscale num 1 ((num.log2 : ℤ) - 52) = (n, d)) :
    (ofFraction negative num 1).isFinite = true ↔
      num.log2 < 1023 ∨ num.log2 = 1023 ∧ roundHalfEven n d < 2 ^ 53 := by
  obtain ⟨hlow, hhigh⟩ := unscale_log2_bounds hpos h
  have hd : 0 < d := by
    by_contra hzero
    simp only [Nat.eq_zero_of_not_pos hzero, Nat.zero_mul, Nat.not_lt_zero] at hhigh
  have hleast : 2 ^ 52 ≤ roundHalfEven n d :=
    ((Nat.le_div_iff_mul_le hd).2 (by rwa [Nat.mul_comm])).trans (div_le_roundHalfEven n d)
  have hmost : roundHalfEven n d ≤ 2 ^ 53 :=
    (roundHalfEven_le_succ n d).trans ((Nat.div_lt_iff_lt_mul hd).2 (by rwa [Nat.mul_comm]))
  unfold ofFraction
  rw [if_neg hpos.ne', lastPlace_one hpos]
  simp only [h, twoTo_eq]
  generalize roundHalfEven n d = mantissa at hleast hmost
  generalize num.log2 = length
  split_ifs with hfull
  · rw [isFinite_ofParts_iff, IsCanonical, twoTo_eq, twoTo_eq]
    omega
  · rw [isFinite_ofParts_iff, IsCanonical, twoTo_eq, twoTo_eq]
    omega

/-- Which integers do not grow in length when they are rounded at a place. -/
lemma roundHalfEven_unscale_lt_iff (num place : ℕ) :
    roundHalfEven (unscale num 1 (place + 1 : ℕ)).1 (unscale num 1 (place + 1 : ℕ)).2 < 2 ^ 53 ↔
      num + 2 ^ place < 2 ^ (place + 54) := by
  have hunscale : unscale num 1 (place + 1 : ℕ) = (num, 2 * 2 ^ place) := by
    rw [unscale, if_pos (Int.natCast_nonneg _), Int.toNat_natCast, Nat.one_mul, twoTo_eq,
      Nat.pow_succ']
  have hlimit : 2 ^ 53 * (2 * 2 ^ place) = 2 ^ (place + 54) := by
    have hsum : 53 + place.succ = place + 54 := by omega
    rw [← Nat.pow_succ', ← Nat.pow_add, hsum]
  rw [hunscale, roundHalfEven_lt_iff (Nat.two_pow_pos place) (by decide), hlimit]

/-- The integers that have at most a certain length once they are rounded. -/
lemma rounded_length_iff (hpos : 0 < num) (place : ℕ) :
    num.log2 < place + 53 ∨ num.log2 = place + 53 ∧
        roundHalfEven (unscale num 1 ((num.log2 : ℤ) - 52)).1
          (unscale num 1 ((num.log2 : ℤ) - 52)).2 < 2 ^ 53 ↔
      num + 2 ^ place < 2 ^ (place + 54) := by
  have hdouble : 2 ^ (place + 54) = 2 ^ (place + 53) + 2 ^ (place + 53) := Nat.two_pow_succ _
  have hpow : 2 ^ place ≤ 2 ^ (place + 53) := Nat.pow_le_pow_right Nat.two_pos (by omega)
  have hunit : 0 < 2 ^ place := Nat.two_pow_pos place
  rcases lt_trichotomy num.log2 (place + 53) with hshort | hlong | hbeyond
  · have hlt : num < 2 ^ (place + 53) := (Nat.log2_lt hpos.ne').1 hshort
    exact iff_of_true (Or.inl hshort) (by omega)
  · have hplace : (num.log2 : ℤ) - 52 = (place + 1 : ℕ) := by omega
    rw [hplace, roundHalfEven_unscale_lt_iff]
    simp only [hlong, lt_irrefl, false_or, true_and]
  · have hle : 2 ^ (place + 54) ≤ num := (Nat.le_log2 hpos.ne').1 hbeyond
    exact iff_of_false (by omega) (by omega)

/-- **The integers in range**, be it as the number of the format that is nearest to them. -/
lemma isFinite_ofInt_iff (n : ℤ) :
    (ofInt n).isFinite = true ↔ n.natAbs + 2 ^ 970 < 2 ^ 1024 := by
  rw [ofInt]
  rcases Nat.eq_zero_or_pos n.natAbs with hzero | hpos
  · have hsmall : 0 + 2 ^ 970 < 2 ^ 1024 := by decide +kernel
    rw [hzero, ofFraction, if_pos rfl, isFinite_ofParts_iff]
    exact iff_of_true (by decide) hsmall
  · have hsum : 1024 = 970 + 54 := rfl
    rw [isFinite_ofFraction_iff hpos (Prod.mk.eta).symm, hsum]
    exact rounded_length_iff hpos 970

end RepoAtlas.Binary64
