import Mathlib.Data.List.Basic
import Mathlib.Tactic.Lemma

/-!
# Lists of which items are missing

`Thinned r gone` relates two lists of which the second is like the first: item by item they are
related by `r`, but some items of the first are missing from the second.  Whether an item may be
missing can depend on what stands before and after it.

What is computed from the items one by one, and makes nothing of those that are missing, is the same
for both lists (`Thinned.flatMap_eq`, `Thinned.filterMap_eq`, `Thinned.any_eq`).  What is picked out
is picked out of both (`Thinned.find?`, `Thinned.head?`, `Thinned.getLast?`), even if such items are
missing, as long as there is another one in front of them (`Thinned.find?_of_before`).
-/

namespace RepoAtlas

open List

/-! ## Items that there may be -/

section Optional

variable {α β : Type} {r : α → α → Prop} {a? b? : Option α}

lemma none_or_some_of_rel (h : Option.Rel r a? b?) :
    (a? = none ∧ b? = none) ∨ ∃ a b, a? = some a ∧ b? = some b ∧ r a b := by
  cases h with
  | none => exact .inl ⟨rfl, rfl⟩
  | some hab => exact .inr ⟨_, _, rfl, rfl, hab⟩

lemma map_eq_of_rel {f g : α → β} (h : Option.Rel r a? b?) (hr : ∀ {a b}, r a b → g b = f a) :
    b?.map g = a?.map f := by
  cases h with
  | none => rfl
  | some hab => rw [Option.map_some, Option.map_some, hr hab]

lemma bind_eq_of_rel {f g : α → Option β} (h : Option.Rel r a? b?)
    (hr : ∀ {a b}, r a b → g b = f a) : b?.bind g = a?.bind f := by
  cases h with
  | none => rfl
  | some hab => rw [Option.bind_some, Option.bind_some, hr hab]

lemma or_of_rel {c? d? : Option α} (h : Option.Rel r a? b?) (h' : Option.Rel r c? d?) :
    Option.Rel r (a?.or c?) (b?.or d?) := by
  cases h with
  | none => exact h'
  | some hab => exact .some hab

end Optional

/-! ## Thinned lists -/

/-- The second list is like the first, without some items.  The list in front is what stands before
both. -/
inductive Thinned {α : Type} (r : α → α → Prop) (gone : List α → α → List α → Prop) :
    List α → List α → List α → Prop
  | nil {before : List α} : Thinned r gone before [] []
  | keep {before rest rest' : List α} {a b : α} (hr : r a b)
      (hrest : Thinned r gone (before ++ [a]) rest rest') :
      Thinned r gone before (a :: rest) (b :: rest')
  | drop {before rest rest' : List α} {a : α} (hgone : gone before a rest)
      (hrest : Thinned r gone (before ++ [a]) rest rest') :
      Thinned r gone before (a :: rest) rest'

namespace Thinned

variable {α β : Type} {r : α → α → Prop} {gone gone' : List α → α → List α → Prop}
  {before items items' : List α}

/-! ## Parts of the lists -/

/-- The two filters may differ, as long as they keep related items alike. -/
lemma filter {p q : α → Bool} (h : Thinned r gone before items items')
    (hr : ∀ {a b}, r a b → q b = p a)
    (hgone : ∀ {before a after}, gone before a after → p a = true →
      gone' (before.filter p) a (after.filter p)) :
    Thinned r gone' (before.filter p) (items.filter p) (items'.filter q) := by
  induction h with
  | nil => exact .nil
  | @keep before rest rest' a b hab _ ih =>
      by_cases ha : p a = true
      · rw [filter_cons_of_pos ha, filter_cons_of_pos ((hr hab).trans ha)]
        rw [filter_append, filter_cons_of_pos ha, filter_nil] at ih
        exact .keep hab ih
      · rw [filter_cons_of_neg ha, filter_cons_of_neg (by rwa [hr hab])]
        rwa [filter_append, filter_cons_of_neg ha, filter_nil, append_nil] at ih
  | @drop before rest rest' a ha _ ih =>
      by_cases hp : p a = true
      · rw [filter_cons_of_pos hp]
        rw [filter_append, filter_cons_of_pos hp, filter_nil] at ih
        exact .drop (hgone ha hp) ih
      · rw [filter_cons_of_neg hp]
        rwa [filter_append, filter_cons_of_neg hp, filter_nil, append_nil] at ih

/-- If only items are missing that a filter leaves out, then none of those it keeps is. -/
lemma filter_kept {p : α → Bool} (h : Thinned r gone before items items')
    (hr : ∀ {a b}, r a b → p b = p a)
    (hgone : ∀ {before a after}, gone before a after → p a = false) :
    Thinned r (fun _ _ _ => False) (before.filter p) (items.filter p) (items'.filter p) :=
  h.filter hr fun ha hp => absurd hp (by rw [hgone ha]; exact Bool.false_ne_true)

lemma imp {s : α → α → Prop} (h : Thinned r gone before items items')
    (hr : ∀ {a b}, r a b → s a b)
    (hgone : ∀ {before a after}, gone before a after → gone' before a after) :
    Thinned s gone' before items items' := by
  induction h with
  | nil => exact .nil
  | keep hab _ ih => exact .keep (hr hab) ih
  | drop ha _ ih => exact .drop (hgone ha) ih

/-- If it does not matter where items are missing, then it does not matter what stands before. -/
lemma anywhere (h : Thinned r gone before items items')
    (hgone : ∀ {before a after}, gone before a after → ∀ before' after', gone' before' a after')
    (before' : List α) : Thinned r gone' before' items items' := by
  induction h generalizing before' with
  | nil => exact .nil
  | keep hr _ ih => exact .keep hr (ih _)
  | drop ha _ ih => exact .drop (hgone ha _ _) (ih _)

lemma append {more more' : List α} (h : Thinned r gone before items items')
    (hmore : ∀ before, Thinned r gone before more more')
    (hgone : ∀ {before a after}, gone before a after → ∀ after', gone before a after') :
    Thinned r gone before (items ++ more) (items' ++ more') := by
  induction h with
  | nil => exact hmore _
  | keep hr _ ih => exact .keep hr ih
  | drop ha _ ih => exact .drop (hgone ha _) ih

lemma map {s : β → β → Prop} {lost : List β → β → List β → Prop} {f g : α → β}
    (h : Thinned r gone before items items') (hr : ∀ {a b}, r a b → s (f a) (g b))
    (hgone : ∀ {before a after}, gone before a after →
      ∀ before' after', lost before' (f a) after') (before' : List β) :
    Thinned s lost before' (items.map f) (items'.map g) := by
  induction h generalizing before' with
  | nil => exact .nil
  | keep hab _ ih => exact .keep (hr hab) (ih _)
  | drop ha _ ih => exact .drop (hgone ha _ _) (ih _)

/-- Items may lead to others, which are not missing unless they come from one that is. -/
lemma filterMap {s : β → β → Prop} {f g : α → Option β} (h : Thinned r gone before items items')
    (hr : ∀ {a b}, r a b → Option.Rel s (f a) (g b))
    (hgone : ∀ {before a after}, gone before a after → f a = none) (before' : List β) :
    Thinned s (fun _ _ _ => False) before' (items.filterMap f) (items'.filterMap g) := by
  induction h generalizing before' with
  | nil => exact .nil
  | @keep _ _ _ a b hab _ ih =>
      obtain ⟨hnone, hnone'⟩ | ⟨c, d, hsome, hsome', hcd⟩ := none_or_some_of_rel (hr hab)
      · rw [filterMap_cons_none hnone, filterMap_cons_none hnone']
        exact ih _
      · rw [filterMap_cons_some hsome, filterMap_cons_some hsome']
        exact .keep hcd (ih _)
  | drop ha _ ih =>
      rw [filterMap_cons_none (hgone ha)]
      exact ih _

/-! ## What is computed item by item -/

lemma flatMap_eq {f g : α → List β} (h : Thinned r gone before items items')
    (hr : ∀ {a b}, r a b → g b = f a) (hgone : ∀ {before a after}, gone before a after → f a = []) :
    items'.flatMap g = items.flatMap f := by
  induction h with
  | nil => rfl
  | keep hab _ ih => rw [flatMap_cons, flatMap_cons, hr hab, ih]
  | drop ha _ ih => rw [flatMap_cons, hgone ha, nil_append, ih]

lemma filterMap_eq {f g : α → Option β} (h : Thinned r gone before items items')
    (hr : ∀ {a b}, r a b → g b = f a)
    (hgone : ∀ {before a after}, gone before a after → f a = none) :
    items'.filterMap g = items.filterMap f := by
  rw [filterMap_eq_flatMap_toList, filterMap_eq_flatMap_toList]
  exact h.flatMap_eq (fun hab => by rw [hr hab]) fun ha => by rw [hgone ha, Option.toList_none]

lemma map_eq {f g : α → β} (h : Thinned r gone before items items')
    (hr : ∀ {a b}, r a b → g b = f a) (hgone : ∀ {before a after}, ¬ gone before a after) :
    items'.map g = items.map f := by
  rw [map_eq_flatMap, map_eq_flatMap]
  exact h.flatMap_eq (fun hab => by rw [hr hab]) fun ha => absurd ha hgone

lemma any_eq {p q : α → Bool} (h : Thinned r gone before items items')
    (hr : ∀ {a b}, r a b → q b = p a)
    (hgone : ∀ {before a after}, gone before a after → p a = false) :
    items'.any q = items.any p := by
  induction h with
  | nil => rfl
  | keep hab _ ih => rw [any_cons, any_cons, hr hab, ih]
  | drop ha _ ih => rw [any_cons, hgone ha, Bool.false_or, ih]

/-! ## What is picked out -/

lemma find? {p : α → Bool} (h : Thinned r gone before items items')
    (hr : ∀ {a b}, r a b → p b = p a)
    (hgone : ∀ {before a after}, gone before a after → p a = false) :
    Option.Rel r (items.find? p) (items'.find? p) := by
  induction h with
  | nil => exact .none
  | @keep before rest rest' a b hab _ ih =>
      by_cases ha : p a = true
      · rw [find?_cons_of_pos ha, find?_cons_of_pos ((hr hab).trans ha)]
        exact .some hab
      · rw [find?_cons_of_neg ha, find?_cons_of_neg (by rwa [hr hab])]
        exact ih
  | drop ha _ ih =>
      rw [find?_cons_of_neg (by rw [hgone ha]; exact Bool.false_ne_true)]
      exact ih

/-- Items that are looked for may be missing behind one that is found. -/
lemma find?_of_before {p : α → Bool} (h : Thinned r gone before items items')
    (hr : ∀ {a b}, r a b → p b = p a)
    (hgone : ∀ {before a after}, gone before a after → ∃ b ∈ before, p b = true)
    (hbefore : ∀ b ∈ before, p b = false) : Option.Rel r (items.find? p) (items'.find? p) := by
  induction h with
  | nil => exact .none
  | @keep before rest rest' a b hab _ ih =>
      by_cases ha : p a = true
      · rw [find?_cons_of_pos ha, find?_cons_of_pos ((hr hab).trans ha)]
        exact .some hab
      · rw [find?_cons_of_neg ha, find?_cons_of_neg (by rwa [hr hab])]
        refine ih fun b hb => ?_
        rcases mem_append.1 hb with hb | hb
        · exact hbefore b hb
        · obtain rfl := mem_singleton.1 hb
          exact Bool.eq_false_iff.2 ha
  | drop ha _ _ =>
      obtain ⟨b, hb, hfound⟩ := hgone ha
      rw [hbefore b hb] at hfound
      cases hfound

lemma findSome?_eq {f g : α → Option β} (h : Thinned r gone before items items')
    (hr : ∀ {a b}, r a b → g b = f a)
    (hgone : ∀ {before a after}, gone before a after → f a = none) :
    items'.findSome? g = items.findSome? f := by
  rw [← head?_filterMap, h.filterMap_eq hr hgone, head?_filterMap]

/-- The first item is not missing. -/
lemma head? (h : Thinned r gone [] items items') (hgone : ∀ {a after}, ¬ gone [] a after) :
    Option.Rel r items.head? items'.head? := by
  cases h with
  | nil => exact .none
  | keep hab _ => exact .some hab
  | drop ha _ => exact absurd ha hgone

/-- The last item is not missing. -/
lemma getLast? (h : Thinned r gone before items items') (hgone : ∀ {before a}, ¬ gone before a []) :
    Option.Rel r items.getLast? items'.getLast? := by
  induction h with
  | nil => exact .none
  | @keep before rest rest' a b hab _ ih =>
      rw [getLast?_cons, getLast?_cons]
      generalize rest.getLast? = last at ih ⊢
      generalize rest'.getLast? = last' at ih ⊢
      cases ih with
      | none => exact .some hab
      | some hlast => exact .some hlast
  | @drop before rest rest' a ha _ ih =>
      cases rest with
      | nil => exact absurd ha hgone
      | cons next more => rwa [getLast?_cons_cons]

end Thinned

end RepoAtlas
