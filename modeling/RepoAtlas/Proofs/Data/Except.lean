import Mathlib.Data.List.Basic
import Mathlib.Tactic.Lemma

/-!
# Computations that may fail

What is known of a computation from its having succeeded: `bind_eq_ok` takes a sequence apart, and
the lemmas about lists carry a property through a fold (`foldlM_preserves`), or trace a result back
to the item it came from (`exists_of_mem_mapM`).  `exists_mapM_eq_ok` and `mapM_map_eq_ok` go the
other way.  A traversal that fails does so for the first item that does
(`mapM_append_eq_error`).

`FailsOnly` is what is known of the errors of a computation that is put together from others.
-/

namespace RepoAtlas

open List

variable {ε α β γ : Type}

lemma map_eq_ok {x : Except ε α} {f : α → β} {b : β} :
    x.map f = .ok b ↔ ∃ a, x = .ok a ∧ f a = b := by
  cases x <;> simp [Except.map]

lemma bind_eq_ok {x : Except ε α} {f : α → Except ε β} {b : β} :
    (x >>= f) = .ok b ↔ ∃ a, x = .ok a ∧ f a = .ok b := by
  cases x with
  | error e =>
      constructor
      · intro h
        cases h
      · rintro ⟨a, h, -⟩
        cases h
  | ok a =>
      constructor
      · exact fun h => ⟨a, rfl, h⟩
      · rintro ⟨a', h, hf⟩
        cases h
        exact hf

/-- **What every step preserves, a fold preserves.** -/
lemma foldlM_preserves {p : β → Prop} {step : β → α → Except ε β} {items : List α}
    (hstep : ∀ b b', ∀ a ∈ items, p b → step b a = .ok b' → p b') {b result : β} (hb : p b)
    (h : items.foldlM step b = .ok result) : p result := by
  induction items generalizing b with
  | nil =>
      cases h
      exact hb
  | cons a rest ih =>
      rw [foldlM_cons, bind_eq_ok] at h
      obtain ⟨b', hfirst, hrest⟩ := h
      refine ih (fun c c' x hx => hstep c c' x (mem_cons_of_mem _ hx)) ?_ hrest
      exact hstep b b' a mem_cons_self hb hfirst

lemma exists_of_mem_mapM {f : α → Except ε β} {items : List α} {results : List β}
    (h : items.mapM f = .ok results) : ∀ b ∈ results, ∃ a ∈ items, f a = .ok b := by
  induction items generalizing results with
  | nil =>
      cases h
      simp
  | cons a rest ih =>
      rw [mapM_cons, bind_eq_ok] at h
      obtain ⟨first, hfirst, h⟩ := h
      obtain ⟨others, hothers, h⟩ := bind_eq_ok.1 h
      cases h
      intro b hb
      rcases mem_cons.1 hb with rfl | hb
      · exact ⟨a, mem_cons_self, hfirst⟩
      · obtain ⟨a', ha', hb'⟩ := ih hothers b hb
        exact ⟨a', mem_cons_of_mem _ ha', hb'⟩

lemma exists_mapM_eq_ok {f : α → Except ε β} {items : List α}
    (h : ∀ item ∈ items, ∃ b, f item = .ok b) : ∃ results, items.mapM f = .ok results := by
  induction items with
  | nil => exact ⟨[], rfl⟩
  | cons item rest ih =>
      obtain ⟨first, hfirst⟩ := h item mem_cons_self
      obtain ⟨others, hothers⟩ := ih fun other hother => h other (mem_cons_of_mem _ hother)
      refine ⟨first :: others, ?_⟩
      rw [mapM_cons, hfirst, hothers]
      rfl

lemma mapM_map_eq_ok {write : α → β} {read : β → Except ε γ} {result : α → γ} {items : List α}
    (h : ∀ item ∈ items, read (write item) = .ok (result item)) :
    (items.map write).mapM read = .ok (items.map result) := by
  induction items with
  | nil => rfl
  | cons item rest ih =>
      rw [map_cons, mapM_cons, h item mem_cons_self,
        ih fun other hother => h other (mem_cons_of_mem _ hother)]
      rfl

/-! ## Computations that do fail -/

lemma bind_eq_error {x : Except ε α} {f : α → Except ε β} {e : ε} :
    (x >>= f) = .error e ↔ x = .error e ∨ ∃ a, x = .ok a ∧ f a = .error e := by
  cases x <;> simp [bind, Except.bind]

lemma exists_error_map_iff {x : Except ε α} {f : α → β} :
    (∃ e, x.map f = .error e) ↔ ∃ e, x = .error e := by
  cases x <;> simp [Except.map]

lemma exists_error_bind_iff {x : Except ε α} {f : α → Except ε β} :
    (∃ e, (x >>= f) = .error e) ↔ (∃ e, x = .error e) ∨ ∃ a, x = .ok a ∧ ∃ e, f a = .error e := by
  cases x with
  | error e => exact ⟨fun _ => Or.inl ⟨e, rfl⟩, fun _ => ⟨e, rfl⟩⟩
  | ok a => simp [bind, Except.bind]

lemma exists_error_mapM_iff {f : α → Except ε β} {items : List α} :
    (∃ e, items.mapM f = .error e) ↔ ∃ item ∈ items, ∃ e, f item = .error e := by
  induction items with
  | nil => simp [pure, Except.pure]
  | cons item rest ih =>
      rw [mapM_cons, exists_error_bind_iff, exists_mem_cons_iff]
      refine or_congr_right' fun hfirst => ?_
      cases hitem : f item with
      | error e => exact absurd ⟨e, hitem⟩ hfirst
      | ok first => simp [exists_error_bind_iff, ih, pure, Except.pure]

/-- A traversal that succeeds has succeeded for each item. -/
lemma exists_eq_ok_of_mapM {f : α → Except ε β} {items : List α} {results : List β}
    (h : items.mapM f = .ok results) : ∀ item ∈ items, ∃ b, f item = .ok b := by
  intro item hitem
  cases hresult : f item with
  | ok b => exact ⟨b, rfl⟩
  | error e =>
      obtain ⟨first, hfirst⟩ := exists_error_mapM_iff.2 ⟨item, hitem, e, hresult⟩
      rw [hfirst] at h
      cases h

/-- **The first item that fails decides**, whatever comes after it. -/
lemma mapM_append_eq_error {f : α → Except ε β} {before after : List α} {item : α} {e : ε}
    (hbefore : ∀ a ∈ before, ∃ b, f a = .ok b) (h : f item = .error e) :
    (before ++ item :: after).mapM f = .error e := by
  induction before with
  | nil =>
      rw [nil_append, mapM_cons, h]
      rfl
  | cons a rest ih =>
      rw [forall_mem_cons] at hbefore
      obtain ⟨b, hb⟩ := hbefore.1
      rw [cons_append, mapM_cons, hb, ih hbefore.2]
      rfl

/-- **A fold fails when one of its steps does**, provided that it is the item that makes a step
fail and not what was collected before. -/
lemma exists_error_foldlM_iff {step : β → α → Except ε β} {bad : α → Prop} {items : List α}
    (hstep : ∀ b, ∀ a ∈ items, (∃ e, step b a = .error e) ↔ bad a) (b : β) :
    (∃ e, items.foldlM step b = .error e) ↔ ∃ a ∈ items, bad a := by
  induction items generalizing b with
  | nil => simp [pure, Except.pure]
  | cons a rest ih =>
      have hrest := ih fun c x hx => hstep c x (mem_cons_of_mem _ hx)
      rw [foldlM_cons, exists_error_bind_iff, exists_mem_cons_iff, hstep b a mem_cons_self]
      refine or_congr_right' fun hgood => ?_
      cases hfirst : step b a with
      | error e => exact absurd ((hstep b a mem_cons_self).1 ⟨e, hfirst⟩) hgood
      | ok c => simp [hrest]

/-! ## Causes of errors -/

/-- Every error that a computation may end in has a certain cause. -/
def FailsOnly (cause : ε → Prop) (x : Except ε α) : Prop := ∀ e, x = .error e → cause e

namespace FailsOnly

variable {cause : ε → Prop} {x : Except ε α} {e : ε}

lemma ok (a : α) : FailsOnly cause (.ok a : Except ε α) := fun _ h => by cases h

lemma error_iff : FailsOnly cause (.error e : Except ε α) ↔ cause e := by
  constructor
  · exact fun h => h e rfl
  · rintro h _ ⟨⟩
    exact h

lemma error (h : cause e) : FailsOnly cause (.error e : Except ε α) := error_iff.2 h

lemma map_iff {f : α → β} : FailsOnly cause (x.map f) ↔ FailsOnly cause x := by
  cases x with
  | error e => exact error_iff.trans error_iff.symm
  | ok a => exact iff_of_true (ok (f a)) (ok a)

/-- When the first step is known to fail only so, it is the steps behind it that matter. -/
lemma bind_iff {f : α → Except ε β} (hx : FailsOnly cause x) :
    FailsOnly cause (x >>= f) ↔ ∀ a, x = .ok a → FailsOnly cause (f a) := by
  cases x with
  | error e => exact iff_of_true (error (error_iff.1 hx)) fun _ h => by cases h
  | ok a =>
      constructor
      · rintro h _ ⟨⟩
        exact h
      · exact fun h => h a rfl

lemma bind {f : α → Except ε β} (hx : FailsOnly cause x)
    (hf : ∀ a, x = .ok a → FailsOnly cause (f a)) : FailsOnly cause (x >>= f) := (bind_iff hx).2 hf

lemma mapM {f : α → Except ε β} {items : List α}
    (hf : ∀ item ∈ items, FailsOnly cause (f item)) : FailsOnly cause (items.mapM f) := by
  induction items with
  | nil => exact ok []
  | cons item rest ih =>
      rw [forall_mem_cons] at hf
      rw [mapM_cons]
      exact hf.1.bind fun _ _ => (ih hf.2).bind fun _ _ => ok _

end FailsOnly

end RepoAtlas
