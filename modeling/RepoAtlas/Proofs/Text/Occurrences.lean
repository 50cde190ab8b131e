import RepoAtlas.Text.Split
import Mathlib.Data.List.Infix
import Mathlib.Data.List.TakeWhile

/-!
# Where a text is written in another

Texts are looked for from the front, one place after the other.  What is said of the search is said
in terms of prefixes and infixes: a search for a beginning gives the rest
(`restAfter?_eq_some_iff`), and **a text contains another one exactly if that is an infix of it**
(`contains_iff`).  A character that the other text does not have cuts a text into two parts that are
searched one by one (`infix_append_cons_iff`).
-/

namespace RepoAtlas.Text

open List

variable {start s rest needle : String}

/-! ## Beginnings -/

lemma restAfter?_eq_some_iff {start cs rest : List Char} :
    restAfter? start cs = some rest ↔ cs = start ++ rest := by
  induction start generalizing cs with
  | nil => simp [restAfter?]
  | cons a start ih =>
      cases cs with
      | nil => simp [restAfter?]
      | cons c cs =>
          rw [restAfter?, Option.ite_none_right_eq_some, ih, cons_append, cons.injEq, eq_comm]

lemma dropStart?_eq_some_iff : dropStart? start s = some rest ↔ s = start ++ rest := by
  rw [dropStart?, Option.map_eq_some_iff]
  constructor
  · rintro ⟨chars, hchars, rfl⟩
    rw [← String.toList_inj, String.toList_append, String.toList_ofList]
    exact restAfter?_eq_some_iff.1 hchars
  · rintro rfl
    exact ⟨rest.toList, restAfter?_eq_some_iff.2 String.toList_append, String.ofList_toList⟩

lemma isSome_restAfter?_iff {start cs : List Char} :
    (restAfter? start cs).isSome = true ↔ start <+: cs := by
  rw [Option.isSome_iff_exists]
  simp only [restAfter?_eq_some_iff, prefix_iff_exists_eq_append]

/-! ## Any place -/

lemma isSome_splitAtFirst?_iff {needle cs : List Char} :
    (splitAtFirst? needle cs).isSome = true ↔ needle <:+: cs := by
  induction cs with
  | nil => rw [splitAtFirst?, Option.isSome_map, isSome_restAfter?_iff, prefix_nil, infix_nil]
  | cons c cs ih =>
      rw [splitAtFirst?, infix_cons_iff, ← isSome_restAfter?_iff, ← ih]
      cases restAfter? needle (c :: cs) with
      | none => simp
      | some rest => simp

lemma contains_iff : contains needle s = true ↔ needle.toList <:+: s.toList :=
  isSome_splitAtFirst?_iff

/-- A character that is not in `needle` stands in no place where `needle` is written. -/
lemma infix_append_cons_iff {needle before after : List Char} {c : Char} (h : c ∉ needle) :
    needle <:+: before ++ c :: after ↔ needle <:+: before ∨ needle <:+: after := by
  have hfront : ∀ {front : List Char}, c ∉ front → front <+: c :: after → front = [] := by
    intro front hc hprefix
    rcases prefix_cons_iff.1 hprefix with rfl | ⟨rest, rfl, -⟩
    · rfl
    · exact absurd mem_cons_self hc
  constructor
  · intro hinfix
    rcases infix_append_iff.1 hinfix with hbefore | hafter | ⟨front, back, rfl, hsuffix, hprefix⟩
    · exact Or.inl hbefore
    · rcases infix_cons_iff.1 hafter with hhere | hafter
      · rw [hfront h hhere]
        exact Or.inl nil_infix
      · exact Or.inr hafter
    · rw [mem_append, not_or] at h
      rw [hfront h.2 hprefix, append_nil]
      exact Or.inl hsuffix.isInfix
  · rintro (hbefore | hafter)
    · exact infix_append_of_infix_left hbefore
    · exact infix_append_of_infix_right (infix_cons hafter)

/-- What shares no character with `needle` may be left out at the end. -/
lemma infix_append_iff_of_disjoint {needle before after : List Char} (hsome : needle ≠ [])
    (h : ∀ c ∈ after, c ∉ needle) : needle <:+: before ++ after ↔ needle <:+: before := by
  cases after with
  | nil => rw [append_nil]
  | cons c after =>
      obtain ⟨d, hd⟩ := exists_mem_of_ne_nil needle hsome
      rw [infix_append_cons_iff (h c mem_cons_self), or_iff_left]
      exact fun hafter => h d (mem_cons_of_mem c (hafter.mem hd)) hd

/-! ## Up to a character -/

lemma takeWhile_bne_append_of_mem {cs : List Char} {c : Char} (h : c ∈ cs) (more : List Char) :
    (cs ++ more).takeWhile (· != c) = cs.takeWhile (· != c) := by
  rw [takeWhile_append, if_neg]
  intro hall
  have hwhole := (takeWhile_sublist (· != c)).eq_of_length hall
  rw [← hwhole] at h
  exact absurd (mem_takeWhile_imp h) (by simp)

lemma takeWhile_bne_append_of_notMem {cs : List Char} {c : Char} (h : c ∉ cs)
    (more : List Char) : (cs ++ more).takeWhile (· != c) = cs ++ more.takeWhile (· != c) := by
  refine takeWhile_append_of_pos fun d hd => ?_
  rw [bne_iff_ne]
  rintro rfl
  exact h hd

lemma takeWhile_bne_of_notMem {cs : List Char} {c : Char} (h : c ∉ cs) :
    cs.takeWhile (· != c) = cs := by
  simpa using takeWhile_bne_append_of_notMem h []

end RepoAtlas.Text
