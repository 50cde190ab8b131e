import RepoAtlas.Proofs.Route
import RepoAtlas.Proofs.Text.Occurrences

/-!
# The canonical spelling of a route

Every normalized route has the canonical form: a slash in front unless it is the wildcard, no two
slashes side by side, and none at the end unless it is the only one (`isCanonical_normalize`).

A canonical spelling should also be left as it is when it is normalized again.  **That fails for
blanks in front of a slash at the end**: the route is trimmed before that slash is dropped, so in
`users /` the blank is at no end when blanks are looked for, and at the end when all is done.  It is
the last character that is no slash which decides, and normalizing keeps all of those
(`filter_normalizeTrimmed`).  A second pass takes the blanks off, with a slash that may stand in
front of them, and changes nothing else (`normalizeTrimmed_trimOf`).
-/

namespace RepoAtlas.Route

open List Text

/-- The form that a normalized route should have. -/
structure IsCanonical (route : String) : Prop where
  rooted : route = "*" ∨ startsWith "/" route = true
  single : contains "//" route = false
  closed : endsWith "/" route = true → route = "/"

/-- The last character of the trimmed route that is no slash. -/
def lastSolid? (route : String) : Option Char :=
  ((trim route).toList.filter (· != '/')).getLast?

variable {cs : List Char} {c : Char} {route : String}

/-! ## The form -/

/-- No two slashes stand side by side. -/
def IsSingle (cs : List Char) : Prop := cs.IsChain fun a b => ¬ (a = '/' ∧ b = '/')

lemma IsSingle.of_isPrefix {front : List Char} (h : IsSingle cs) (hfront : front <+: cs) :
    IsSingle front := by
  obtain ⟨rest, rfl⟩ := hfront
  exact IsChain.left_of_append h

lemma IsSingle.not_slashes (h : IsSingle cs) : ¬ ['/', '/'] <:+: cs := by
  intro hslashes
  have hpair := IsChain.infix h hslashes
  simp at hpair

lemma isPrefix_dropFinalSlash (cs : List Char) : dropFinalSlash cs <+: cs := by
  unfold dropFinalSlash
  split_ifs
  · exact dropLast_prefix cs
  · exact prefix_rfl

lemma isSingle_normalizeTrimmed (cs : List Char) : IsSingle (normalizeTrimmed cs) := by
  have hdrop : ∀ ds : List Char, IsSingle (dropFinalSlash (squeezeSlashes ds)) := fun ds =>
    IsSingle.of_isPrefix (isChain_squeezeSlashes ds) (isPrefix_dropFinalSlash _)
  unfold normalizeTrimmed
  split_ifs
  · exact isChain_singleton '/'
  · exact hdrop _
  · exact hdrop _

/-- A normalized route begins with a slash or is the wildcard. -/
lemma normalizeTrimmed_begins (cs : List Char) :
    normalizeTrimmed cs = ['*'] ∨ ∃ rest, normalizeTrimmed cs = '/' :: rest := by
  by_cases hwild : cs = ['*']
  · subst hwild
    exact Or.inl (by decide)
  · exact Or.inr (exists_normalizeTrimmed_eq hwild)

lemma isCanonical_normalize (route : String) : IsCanonical (normalize route) := by
  have hchars : (normalize route).toList = normalizeTrimmed (trimOf route.toList) :=
    String.toList_ofList
  constructor
  · rcases normalizeTrimmed_begins (trimOf route.toList) with hwild | ⟨rest, hrest⟩
    · left
      rw [← String.toList_inj, hchars, hwild]
      rfl
    · right
      rw [startsWith, hchars, hrest]
      rfl
  · rw [Bool.eq_false_iff, ne_eq, contains_iff, hchars]
    exact (isSingle_normalizeTrimmed _).not_slashes
  · intro hend
    rw [endsWith, hchars, isSuffixOf_iff_suffix] at hend
    obtain ⟨front, hfront⟩ := hend
    rcases normalizeTrimmed_ends (trimOf route.toList) with htop | hlast
    · rw [← String.toList_inj, hchars, htop]
      rfl
    · refine absurd ?_ hlast
      rw [← hfront]
      exact getLast?_concat

/-! ## Normalizing again -/

lemma squeezeSlashes_eq_self (h : IsSingle cs) : squeezeSlashes cs = cs := by
  induction cs using squeezeSlashes.induct with
  | case1 rest ih => exact absurd ⟨rfl, rfl⟩ (isChain_cons_cons.1 h).1
  | case2 c rest hsingle ih =>
      rw [squeezeSlashes]
      · rw [ih (isChain_cons.1 h).2]
      · exact hsingle
  | case3 => rfl

/-- What is normalized already and then loses something at its end, is squeezed and rooted still. -/
lemma normalizeTrimmed_of_isSingle {rest : List Char} (h : IsSingle ('/' :: rest)) :
    normalizeTrimmed ('/' :: rest) = dropFinalSlash ('/' :: rest) := by
  rw [normalizeTrimmed, if_neg (cons_ne_nil _ _)]
  simp only [head?_cons, true_or, if_true]
  rw [squeezeSlashes_eq_self h]

/-- **Normalizing again takes off blanks at the end**, and then a slash that was in front of
them. -/
lemma normalizeTrimmed_trimOf (cs : List Char) :
    normalizeTrimmed (trimOf (normalizeTrimmed cs)) =
      dropFinalSlash (trimEndOf (normalizeTrimmed cs)) := by
  have hsingle := isSingle_normalizeTrimmed cs
  rcases normalizeTrimmed_begins cs with hwild | ⟨rest, hrest⟩
  · rw [hwild]
    decide
  · rw [hrest] at hsingle ⊢
    have htrim : trimEndOf ('/' :: rest) = '/' :: trimEndOf rest :=
      trimEndOf_append_cons (by decide) [] rest
    rw [trimOf_cons (by decide), htrim]
    exact normalizeTrimmed_of_isSingle
      (hsingle.of_isPrefix ((prefix_cons_inj '/').2 (isPrefix_trimEndOf rest)))

lemma toList_normalize_normalize (route : String) :
    (normalize (normalize route)).toList = dropFinalSlash (trimEndOf (normalize route).toList) := by
  rw [normalize, String.toList_ofList, normalize, String.toList_ofList, normalizeTrimmed_trimOf]

lemma dropFinalSlash_normalizeTrimmed (cs : List Char) :
    dropFinalSlash (normalizeTrimmed cs) = normalizeTrimmed cs := by
  refine if_neg ?_
  rintro ⟨hlong, hlast⟩
  rcases normalizeTrimmed_ends cs with htop | hend
  · rw [htop] at hlong
    exact absurd hlong (by decide)
  · exact hend hlast

lemma normalize_normalize_eq_iff_getLast? (route : String) :
    normalize (normalize route) = normalize route ↔
      ∀ c, (normalize route).toList.getLast? = some c → isBlank c = false := by
  rw [← trimEndOf_eq_self_iff, ← String.toList_inj, toList_normalize_normalize]
  constructor
  · intro hsame
    refine (isPrefix_trimEndOf _).eq_of_length_le ?_
    conv_lhs => rw [← hsame]
    exact (isPrefix_dropFinalSlash _).length_le
  · intro hsame
    rw [hsame, normalize, String.toList_ofList]
    exact dropFinalSlash_normalizeTrimmed _

lemma exists_eq_dropFinalSlash_append (cs : List Char) :
    ∃ slashes, (∀ c ∈ slashes, c = '/') ∧ cs = dropFinalSlash cs ++ slashes := by
  unfold dropFinalSlash
  split_ifs with hslash
  · obtain ⟨front, rfl⟩ := getLast?_eq_some_iff.1 hslash.2
    exact ⟨['/'], by simp, by simp⟩
  · exact ⟨[], by simp, by simp⟩

/-- **Normalizing again changes nothing but the end.** -/
lemma exists_normalize_eq_append (route : String) :
    ∃ cut, normalize route = normalize (normalize route) ++ String.ofList cut ∧
      ∀ c ∈ cut, isBlank c = true ∨ c = '/' := by
  obtain ⟨blanks, hblanks, htrim⟩ := exists_eq_trimEndOf_append (normalize route).toList
  obtain ⟨slashes, hslashes, hdrop⟩ :=
    exists_eq_dropFinalSlash_append (trimEndOf (normalize route).toList)
  refine ⟨slashes ++ blanks, ?_, ?_⟩
  · rw [← String.toList_inj, String.toList_append, String.toList_ofList,
      toList_normalize_normalize, ← append_assoc, ← hdrop, ← htrim]
  · intro c hc
    rcases mem_append.1 hc with hc | hc
    · exact Or.inr (hslashes c hc)
    · exact Or.inl (hblanks c hc)

/-! ## Which character decides -/

lemma filter_squeezeSlashes (cs : List Char) :
    (squeezeSlashes cs).filter (· != '/') = cs.filter (· != '/') := by
  induction cs using squeezeSlashes.induct with
  | case1 rest ih =>
      rw [squeezeSlashes, ih]
      rfl
  | case2 c rest hsingle ih =>
      rw [squeezeSlashes]
      · rw [filter_cons, filter_cons, ih]
      · exact hsingle
  | case3 => rfl

lemma filter_dropFinalSlash (cs : List Char) :
    (dropFinalSlash cs).filter (· != '/') = cs.filter (· != '/') := by
  obtain ⟨slashes, hslashes, hcs⟩ := exists_eq_dropFinalSlash_append cs
  have hnone : slashes.filter (· != '/') = [] := by
    refine filter_eq_nil_iff.2 fun c hc => ?_
    simp [hslashes c hc]
  conv_rhs => rw [hcs, filter_append, hnone, append_nil]

/-- **Slashes are all that normalizing adds or takes away**, once a route is trimmed. -/
lemma filter_normalizeTrimmed (cs : List Char) :
    (normalizeTrimmed cs).filter (· != '/') = cs.filter (· != '/') := by
  unfold normalizeTrimmed
  split_ifs with hnil hrooted
  · subst hnil
    rfl
  · rw [filter_dropFinalSlash, filter_squeezeSlashes]
  · rw [filter_dropFinalSlash, filter_squeezeSlashes]
    rfl

/-- A normalized route ends in the last of its characters that are no slashes, if it has any. -/
lemma ends_in_blank_iff (cs : List Char) :
    (∀ c, (normalizeTrimmed cs).getLast? = some c → isBlank c = false) ↔
      ∀ c, (cs.filter (· != '/')).getLast? = some c → isBlank c = false := by
  rw [← filter_normalizeTrimmed cs]
  rcases normalizeTrimmed_ends cs with htop | hend
  · have hslash : isBlank '/' = false := by decide
    rw [htop]
    simp [hslash]
  · rcases eq_nil_or_concat' (normalizeTrimmed cs) with hnil | ⟨front, c, hfront⟩
    · rw [hnil]
      rfl
    · rw [hfront] at hend ⊢
      have hsolid : c ≠ '/' := by simpa using hend
      simp [filter_append, hsolid]

lemma normalize_normalize_eq_iff (route : String) :
    normalize (normalize route) = normalize route ↔
      ∀ c, lastSolid? route = some c → isBlank c = false := by
  rw [normalize_normalize_eq_iff_getLast?, lastSolid?, trim, String.toList_ofList, normalize,
    String.toList_ofList, ends_in_blank_iff]

/-- **A normalized route is canonical up to blanks at its end.**  It has the canonical form, and it
is left as it is by a second pass exactly if no blank stands right in front of the slashes at the
end of the trimmed route.  Otherwise the second pass takes off such blanks, and a slash before
them. -/
theorem normalized_routes_are_canonical_up_to_blanks (route : String) :
    IsCanonical (normalize route) ∧
    (normalize (normalize route) = normalize route ↔
      ∀ c, lastSolid? route = some c → isBlank c = false) ∧
    ∃ cut, normalize route = normalize (normalize route) ++ String.ofList cut ∧
      ∀ c ∈ cut, isBlank c = true ∨ c = '/' :=
  ⟨isCanonical_normalize route, normalize_normalize_eq_iff route, exists_normalize_eq_append route⟩

/-- **A second pass may change a route**: a blank comes to its end when a slash is dropped. -/
theorem second_pass_trims_again :
    ¬ ∀ route, normalize (normalize route) = normalize route := by
  intro h
  exact absurd (h "a /") (by decide +kernel)

end RepoAtlas.Route
