import RepoAtlas.Text.Blank
import Mathlib.Data.List.Basic

/-!
# The lines of a text

A carriage return and a line feed end one line together, and a break at the end of a text begins no
other line.  Both only leave out lines with nothing on them.  So **who is not interested in empty
lines may cut a text at every line break** (`filterMap_linesOf`), and a line that stands by itself
between two texts can be changed without changing what is read off the lines around it
(`filterMap_linesOf_append`).
-/

namespace RepoAtlas.Text

open List

variable {c : Char} {before line after rest : List Char}

/-! ## One character -/

lemma linesOf_cons_of_break (hpair : ∀ more, c = '\r' → rest = '\n' :: more → False)
    (h : isLineBreak c = true) : linesOf (c :: rest) = [] :: linesOf rest := by
  rw [linesOf.eq_def]
  split
  · next heq => cases heq
  · next heq =>
      obtain ⟨rfl, rfl⟩ := cons.inj heq
      exact (hpair _ rfl rfl).elim
  · next heq =>
      obtain ⟨rfl, rfl⟩ := cons.inj heq
      exact if_pos h

/-- A character that ends no line belongs to the first line of the text. -/
lemma linesOf_cons (h : isLineBreak c = false) (rest : List Char) :
    linesOf (c :: rest) = (c :: (linesOf rest).headD []) :: (linesOf rest).tail := by
  rw [linesOf.eq_def]
  split
  · next heq => cases heq
  · next heq =>
      obtain ⟨rfl, -⟩ := cons.inj heq
      exact absurd h (by decide)
  · next d tail _ heq =>
      obtain ⟨hfirst, hmore⟩ := cons.inj heq
      rw [← hfirst, ← hmore, h, if_neg Bool.false_ne_true]
      cases rest with
      | nil => rfl
      | cons d rest =>
          cases linesOf (d :: rest) with
          | nil => rfl
          | cons line more => rfl

/-! ## Lines and pieces -/

section

variable {β : Type} {f : List Char → Option β} (hf : f [] = none)

include hf

lemma filterMap_eq_headD_append (texts : List (List Char)) :
    texts.filterMap f = (f (texts.headD [])).toList ++ texts.tail.filterMap f := by
  cases texts with
  | nil => simp [hf]
  | cons text texts => cases hvalue : f text <;> simp [hvalue]

/-- The first line is the first piece between line breaks, and the lines that follow it differ from
the other pieces in empty ones only. -/
lemma linesOf_agrees (cs : List Char) :
    (linesOf cs).headD [] = (cs.splitOnP isLineBreak).headD [] ∧
      (linesOf cs).tail.filterMap f = (cs.splitOnP isLineBreak).tail.filterMap f := by
  have hwhole : ∀ {rest : List Char},
      (linesOf rest).headD [] = (rest.splitOnP isLineBreak).headD [] ∧
        (linesOf rest).tail.filterMap f = (rest.splitOnP isLineBreak).tail.filterMap f →
      (linesOf rest).filterMap f = (rest.splitOnP isLineBreak).filterMap f := by
    rintro rest ⟨hhead, htail⟩
    rw [filterMap_eq_headD_append hf, hhead, htail, ← filterMap_eq_headD_append hf]
  have hmore : ∀ {c : Char} {rest : List Char}, ¬ isLineBreak c = true →
      (linesOf rest).headD [] = (rest.splitOnP isLineBreak).headD [] ∧
        (linesOf rest).tail.filterMap f = (rest.splitOnP isLineBreak).tail.filterMap f →
      (linesOf (c :: rest)).headD [] = ((c :: rest).splitOnP isLineBreak).headD [] ∧
        (linesOf (c :: rest)).tail.filterMap f =
          ((c :: rest).splitOnP isLineBreak).tail.filterMap f := by
    rintro c rest hbreak ⟨hhead, htail⟩
    rw [linesOf_cons (Bool.not_eq_true _ ▸ hbreak), splitOnP_cons_eq_if_modifyHead, if_neg hbreak]
    obtain ⟨piece, pieces, hpieces⟩ := exists_cons_of_ne_nil (splitOnP_ne_nil isLineBreak rest)
    rw [hpieces] at hhead htail ⊢
    rw [hhead]
    exact ⟨rfl, htail⟩
  induction cs using linesOf.induct with
  | case1 => exact ⟨rfl, rfl⟩
  | case2 rest ih =>
      have hreturn : isLineBreak '\r' = true := by decide
      have hfeed : isLineBreak '\n' = true := by decide
      rw [linesOf, splitOnP_cons_eq_if_modifyHead, if_pos hreturn, splitOnP_cons_eq_if_modifyHead,
        if_pos hfeed, tail_cons, tail_cons, filterMap_cons_none hf]
      exact ⟨rfl, hwhole ih⟩
  | case3 c rest hpair hbreak ih =>
      rw [linesOf_cons_of_break hpair hbreak, splitOnP_cons_eq_if_modifyHead, if_pos hbreak]
      exact ⟨rfl, hwhole ih⟩
  | case4 c hbreak line more d rest hpair hlines ih => exact hmore hbreak ih
  | case5 c rest hpair hbreak hnone ih => exact hmore hbreak ih

/-- **Lines are the pieces between line breaks**, but for empty ones. -/
lemma filterMap_linesOf (cs : List Char) :
    (linesOf cs).filterMap f = (cs.splitOnP isLineBreak).filterMap f := by
  obtain ⟨hhead, htail⟩ := linesOf_agrees hf cs
  rw [filterMap_eq_headD_append hf, hhead, htail, ← filterMap_eq_headD_append hf]

/-- **What is read off a line of its own** stands between what is read off the lines before and
after it. -/
lemma filterMap_linesOf_append (hbefore : ∀ c ∈ before.getLast?, isLineBreak c = true)
    (hline : ∀ c ∈ line, isLineBreak c = false)
    (hafter : ∀ c ∈ after.head?, isLineBreak c = true) :
    (linesOf (before ++ (line ++ after))).filterMap f =
      (linesOf before).filterMap f ++ ((f line).toList ++ (linesOf after).filterMap f) := by
  simp only [filterMap_linesOf hf]
  have hrest : ((line ++ after).splitOnP isLineBreak).filterMap f =
      (f line).toList ++ (after.splitOnP isLineBreak).filterMap f := by
    cases after with
    | nil =>
        rw [append_nil, splitOnP_eq_singleton hline, splitOnP_nil, filterMap_cons_none hf,
          filterMap_eq_headD_append hf]
        rfl
    | cons c after =>
        have hbreak : isLineBreak c = true := hafter c rfl
        rw [splitOnP_append_cons_of_forall_mem hline c hbreak, splitOnP_cons_eq_if_modifyHead,
          if_pos hbreak, filterMap_cons_none hf, filterMap_eq_headD_append hf]
        rfl
  rw [← hrest]
  rcases eq_nil_or_concat' before with rfl | ⟨front, c, rfl⟩
  · rw [nil_append, splitOnP_nil, filterMap_cons_none hf]
    rfl
  · have hbreak : isLineBreak c = true := hbefore c getLast?_concat
    rw [append_assoc, singleton_append, splitOnP_append_cons _ _ hbreak,
      splitOnP_append_cons _ _ hbreak, filterMap_append, filterMap_append, splitOnP_nil,
      filterMap_cons_none hf, filterMap_nil, append_nil]

end

end RepoAtlas.Text
