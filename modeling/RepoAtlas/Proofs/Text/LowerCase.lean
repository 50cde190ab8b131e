import RepoAtlas.Text.Case
import Mathlib.Tactic.Lemma

/-!
# Names that are their own lower case

Looking a character up among the ones that change goes through a long table, most of it about other
scripts.  Below the first accented capital there is nothing in it but the capitals `A` to `Z`
(`lowerShifts_of_lt`), so **a text without these is its own lower case** (`lower_eq_self`).
-/

namespace RepoAtlas.Text

open List

/-- A character of the Latin alphabet, a digit or a sign, and not a capital. -/
def IsPlain (c : Char) : Prop := c.toNat < 0xC0 ∧ ¬ (0x41 ≤ c.toNat ∧ c.toNat ≤ 0x5A)

instance (c : Char) : Decidable (IsPlain c) := inferInstanceAs (Decidable (_ ∧ _))

variable {c : Char} {s : String}

/-- The table only has capitals. -/
lemma lowerShifts_of_lt : ∀ entry ∈ lowerShifts,
    entry.1 = 0x41 ∧ entry.2.1 = 0x5A ∨ 0xC0 ≤ entry.1 := by
  decide +kernel

lemma shifted_lowerShifts (h : IsPlain c) : shifted lowerShifts c = c := by
  rw [shifted]
  split
  case h_1 first last step shift hfind =>
    have hentry := lowerShifts_of_lt _ (mem_of_find?_eq_some hfind)
    have hfits := find?_some hfind
    simp only [Bool.and_eq_true, decide_eq_true_eq] at hfits
    rcases hentry with ⟨hfirst, hlast⟩ | hfirst
    · exact absurd ⟨hfirst ▸ hfits.1.1, hlast ▸ hfits.1.2⟩ h.2
    · exact absurd h.1 (Nat.not_lt.2 (Nat.le_trans hfirst hfits.1.1))
  case h_2 => rfl

lemma lowerAfter_eq_self {cs : List Char} (h : ∀ c ∈ cs, IsPlain c) (before : List Char) :
    lowerAfter before cs = cs := by
  induction cs generalizing before with
  | nil => rfl
  | cons c rest ih =>
      rw [forall_mem_cons] at h
      have hsigma : c ≠ 'Σ' := by
        rintro rfl
        exact absurd h.1 (by decide)
      have hdotted : c ≠ 'İ' := by
        rintro rfl
        exact absurd h.1 (by decide)
      rw [lowerAfter, if_neg hsigma, if_neg hdotted, shifted_lowerShifts h.1, ih h.2]
      rfl

/-- **A text without capitals is its own lower case**, as far as it is written in plain letters. -/
lemma lower_eq_self (h : ∀ c ∈ s.toList, IsPlain c) : lower s = s := by
  rw [lower, lowerAfter_eq_self h, String.ofList_toList]

end RepoAtlas.Text
