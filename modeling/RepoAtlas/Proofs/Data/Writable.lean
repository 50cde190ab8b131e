import Mathlib.Data.List.Basic
import Mathlib.Tactic.Lemma
import RepoAtlas.Proofs.Number.Range
import RepoAtlas.Data.Value

/-!
# Values that can be written

An integer can be written unless it has too many digits.  Any other value can be written unless
such an integer stands somewhere in it, however deep (`Value.isWritable_eq_false_iff`).
-/

namespace RepoAtlas

open List

lemma Numeral.isWritable_iff {n : ℤ} :
    Numeral.isWritable n = true ↔ n.natAbs < 10 ^ Numeral.maxDigits := by
  rw [Numeral.isWritable, decide_eq_true_iff, Binary64.tenTo_eq]

namespace Value

/-- The integer stands somewhere in the value. -/
inductive Holds (n : ℤ) : Value → Prop
  | int : Holds n (.int n)
  | item {items : List Value} {item : Value} (hmem : item ∈ items) (h : Holds n item) :
      Holds n (.list items)
  | entry {entries : List (String × Value)} {entry : String × Value} (hmem : entry ∈ entries)
      (h : Holds n entry.2) : Holds n (.dict entries)

/-- Some integer in the value has too many digits to be written. -/
def HoldsLong (value : Value) : Prop := ∃ n, value.Holds n ∧ 10 ^ Numeral.maxDigits ≤ n.natAbs

lemma holdsLong_int {n : ℤ} : (Value.int n).HoldsLong ↔ 10 ^ Numeral.maxDigits ≤ n.natAbs := by
  constructor
  · rintro ⟨_, ⟨⟩, h⟩
    exact h
  · exact fun h => ⟨n, .int, h⟩

lemma holdsLong_list {items : List Value} :
    (Value.list items).HoldsLong ↔ ∃ item ∈ items, item.HoldsLong := by
  constructor
  · rintro ⟨n, hholds, hlong⟩
    cases hholds with
    | item hmem h => exact ⟨_, hmem, n, h, hlong⟩
  · rintro ⟨item, hmem, n, h, hlong⟩
    exact ⟨n, .item hmem h, hlong⟩

lemma holdsLong_dict {entries : List (String × Value)} :
    (Value.dict entries).HoldsLong ↔ ∃ entry ∈ entries, entry.2.HoldsLong := by
  constructor
  · rintro ⟨n, hholds, hlong⟩
    cases hholds with
    | entry hmem h => exact ⟨_, hmem, n, h, hlong⟩
  · rintro ⟨entry, hmem, n, h, hlong⟩
    exact ⟨n, .entry hmem h, hlong⟩

mutual

/-- **A value cannot be written exactly if an integer in it is too long.** -/
lemma isWritable_eq_false_iff : ∀ {value : Value}, value.isWritable = false ↔ value.HoldsLong
  | .int n => by
      rw [holdsLong_int, isWritable, ← Bool.not_eq_true, Numeral.isWritable_iff, not_lt]
  | .list items => by rw [holdsLong_list, isWritable, areWritable_eq_false_iff]
  | .dict entries => by rw [holdsLong_dict, isWritable, entriesWritable_eq_false_iff]
  | .null | .bool _ | .float _ | .str _ | .moment _ => by
      refine iff_of_false (by simp [isWritable]) ?_
      rintro ⟨_, ⟨⟩, _⟩

lemma areWritable_eq_false_iff : ∀ {items : List Value},
    areWritable items = false ↔ ∃ item ∈ items, item.HoldsLong
  | [] => by simp [areWritable]
  | item :: items => by
      rw [areWritable, Bool.and_eq_false_iff, exists_mem_cons_iff, isWritable_eq_false_iff,
        areWritable_eq_false_iff]

lemma entriesWritable_eq_false_iff : ∀ {entries : List (String × Value)},
    entriesWritable entries = false ↔ ∃ entry ∈ entries, entry.2.HoldsLong
  | [] => by simp [entriesWritable]
  | (key, value) :: entries => by
      rw [entriesWritable, Bool.and_eq_false_iff, exists_mem_cons_iff, isWritable_eq_false_iff,
        entriesWritable_eq_false_iff]

end

end Value

end RepoAtlas
