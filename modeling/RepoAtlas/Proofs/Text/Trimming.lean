import RepoAtlas.Text.Blank
import Mathlib.Data.List.DropRight

/-!
# Trimming

Trimming takes off the blanks at both ends of a text and nothing else.  So blanks that are written
at an end do not show (`trimOf_blank_append`, `trimOf_append_blank`), and **what is no blank is kept
and keeps everything between it and the next such character** (`mem_trimOf_iff`,
`trimEndOf_append_cons`).
-/

namespace RepoAtlas.Text

open List

variable {cs blanks : List Char} {c : Char}

lemma notMem_of_isBlank (h : ∀ d ∈ blanks, isBlank d = true) (hc : isBlank c = false) :
    c ∉ blanks := by
  intro hmem
  rw [h c hmem] at hc
  cases hc

/-! ## One end -/

lemma trimEndOf_eq (cs : List Char) : trimEndOf cs = cs.rdropWhile isBlank := rfl

lemma isPrefix_trimEndOf (cs : List Char) : trimEndOf cs <+: cs := rdropWhile_prefix isBlank cs

/-- What is trimmed off the end of a text are blanks. -/
lemma exists_eq_trimEndOf_append (cs : List Char) :
    ∃ blanks, (∀ c ∈ blanks, isBlank c = true) ∧ cs = trimEndOf cs ++ blanks :=
  ⟨cs.rtakeWhile isBlank, fun _ hc => mem_rtakeWhile_imp hc,
    (rdropWhile_append_rtakeWhile).symm⟩

lemma trimEndOf_eq_self_iff :
    trimEndOf cs = cs ↔ ∀ c, cs.getLast? = some c → isBlank c = false := by
  rw [trimEndOf_eq, rdropWhile_eq_self_iff]
  constructor
  · intro h c hc
    obtain ⟨front, rfl⟩ := getLast?_eq_some_iff.1 hc
    simpa using h (by simp)
  · intro h hsome
    rw [Bool.not_eq_true]
    exact h _ (getLast?_eq_some_getLast hsome)

lemma trimStartOf_blank_append (h : ∀ c ∈ blanks, isBlank c = true) :
    trimStartOf (blanks ++ cs) = trimStartOf cs :=
  dropWhile_append_of_pos h

lemma trimStartOf_cons (h : isBlank c = false) : trimStartOf (c :: cs) = c :: cs :=
  dropWhile_cons_of_neg (by simp [h])

lemma trimStartOf_append_cons (h : isBlank c = false) (before after : List Char) :
    trimStartOf (before ++ c :: after) = trimStartOf before ++ c :: after := by
  rw [trimStartOf, dropWhile_append, ← trimStartOf]
  split_ifs with hnone
  · rw [isEmpty_iff.1 hnone]
    exact trimStartOf_cons h
  · rfl

lemma trimEndOf_append_blank (h : ∀ c ∈ blanks, isBlank c = true) :
    trimEndOf (cs ++ blanks) = trimEndOf cs := by
  rw [trimEndOf, reverse_append, dropWhile_append_of_pos, trimEndOf]
  intro c hc
  exact h c (mem_reverse.1 hc)

/-- Up to a character that is no blank, nothing is trimmed off the end. -/
lemma trimEndOf_append_cons (h : isBlank c = false) (before after : List Char) :
    trimEndOf (before ++ c :: after) = before ++ c :: trimEndOf after := by
  simp only [trimEndOf_eq]
  induction after using reverseRecOn with
  | nil =>
      rw [rdropWhile_concat_neg _ _ _ (by simp [h]), rdropWhile_nil]
  | append_singleton after d ih =>
      rw [← cons_append, ← append_assoc, rdropWhile_concat, rdropWhile_concat, ih]
      split_ifs
      · rfl
      · simp

/-! ## Both ends -/

lemma trimOf_blank_append (h : ∀ c ∈ blanks, isBlank c = true) :
    trimOf (blanks ++ cs) = trimOf cs := by
  rw [trimOf, trimStartOf_blank_append h, trimOf]

lemma trimOf_append_blank (h : ∀ c ∈ blanks, isBlank c = true) :
    trimOf (cs ++ blanks) = trimOf cs := by
  have hblanks : trimStartOf blanks = [] := dropWhile_eq_nil_iff.2 h
  rw [trimOf, trimOf, trimStartOf, dropWhile_append, ← trimStartOf, ← trimStartOf, hblanks]
  split_ifs with hnone
  · rw [isEmpty_iff.1 hnone]
  · exact trimEndOf_append_blank h

/-- What is trimmed off a text are blanks. -/
lemma exists_eq_append_trimOf_append (cs : List Char) :
    ∃ before after, (∀ c ∈ before, isBlank c = true) ∧ (∀ c ∈ after, isBlank c = true) ∧
      cs = before ++ (trimOf cs ++ after) := by
  obtain ⟨after, hafter, hstart⟩ := exists_eq_trimEndOf_append (trimStartOf cs)
  refine ⟨cs.takeWhile isBlank, after, fun c hc => mem_takeWhile_imp hc, hafter, ?_⟩
  rw [trimOf, ← hstart, trimStartOf, takeWhile_append_dropWhile]

lemma trimOf_trimOf (cs : List Char) : trimOf (trimOf cs) = trimOf cs := by
  obtain ⟨before, after, hbefore, hafter, hcs⟩ := exists_eq_append_trimOf_append cs
  conv_rhs => rw [hcs, trimOf_blank_append hbefore, trimOf_append_blank hafter]

lemma isBlank_of_trimOf_eq_cons {rest : List Char} (h : trimOf cs = c :: rest) :
    isBlank c = false := by
  have hprefix : c :: rest <+: cs.dropWhile isBlank := h ▸ isPrefix_trimEndOf (trimStartOf cs)
  obtain ⟨more, hmore⟩ := hprefix
  have hsome : cs.dropWhile isBlank ≠ [] := by
    rw [← hmore]
    exact cons_ne_nil _ _
  have hhead := head_dropWhile_not isBlank hsome
  simpa [← hmore] using hhead

lemma trimOf_trimEndOf (cs : List Char) : trimOf (trimEndOf cs) = trimOf cs := by
  obtain ⟨blanks, hblanks, hcs⟩ := exists_eq_trimEndOf_append cs
  conv_rhs => rw [hcs, trimOf_append_blank hblanks]

/-- A text is trimmed before and after any character that is no blank. -/
lemma trimOf_append_cons (h : isBlank c = false) (before after : List Char) :
    trimOf (before ++ c :: after) = trimStartOf before ++ c :: trimEndOf after := by
  rw [trimOf, trimStartOf_append_cons h, trimEndOf_append_cons h]

/-- A text that begins with no blank is trimmed at its end only. -/
lemma trimOf_cons (h : isBlank c = false) (cs : List Char) :
    trimOf (c :: cs) = c :: trimEndOf cs :=
  trimOf_append_cons h [] cs

/-- A text without blanks is kept as a whole in front of what follows. -/
lemma trimOf_append_of_forall {solid : List Char} (hsome : solid ≠ [])
    (h : ∀ c ∈ solid, isBlank c = false) (after : List Char) :
    trimOf (solid ++ after) = solid ++ trimEndOf after := by
  obtain ⟨front, c, rfl⟩ := (eq_nil_or_concat' solid).resolve_left hsome
  have hfront : trimStartOf front = front := by
    cases front with
    | nil => rfl
    | cons d front => exact trimStartOf_cons (h d (by simp))
  rw [append_assoc, singleton_append, trimOf_append_cons (h c (by simp)), hfront, append_assoc,
    singleton_append]

lemma trimOf_eq_self_of_ends (hfirst : ∀ c, cs.head? = some c → isBlank c = false)
    (hlast : ∀ c, cs.getLast? = some c → isBlank c = false) : trimOf cs = cs := by
  cases cs with
  | nil => rfl
  | cons c cs =>
      rw [trimOf, trimStartOf_cons (hfirst c rfl)]
      exact trimEndOf_eq_self_iff.2 hlast

/-- There is nothing to trim where there are no blanks. -/
lemma trimOf_eq_self (h : ∀ c ∈ cs, isBlank c = false) : trimOf cs = cs :=
  trimOf_eq_self_of_ends (fun c hc => h c (mem_of_head? hc)) fun c hc => h c (mem_of_getLast? hc)

lemma mem_of_mem_trimOf (h : c ∈ trimOf cs) : c ∈ cs :=
  (dropWhile_sublist isBlank).mem ((isPrefix_trimEndOf _).mem h)

/-- **What is no blank is not trimmed off.** -/
lemma mem_trimOf_iff (h : isBlank c = false) : c ∈ trimOf cs ↔ c ∈ cs := by
  refine ⟨mem_of_mem_trimOf, fun hmem => ?_⟩
  obtain ⟨before, after, rfl⟩ := append_of_mem hmem
  rw [trimOf_append_cons h]
  exact mem_append_right _ mem_cons_self

end RepoAtlas.Text
