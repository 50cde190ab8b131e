import RepoAtlas.Proofs.Path.Segments

/-!
# Where paths lead

A path is followed name by name, and `..` goes back to where the last name was entered.  What is
left of that is the canonical spelling of a location.

**Back and forth.**  Names that are entered and left again change nothing (`foldl_follow_up`), and
so does a leading `./` (`normalize_join_dot`).

**Above the start.**  A path leads out of where it starts if at some point on the way more `..` have
been followed than names.  `LeadsTo` is what is known of each point on the way, and
`climbsOut_normalize_iff` says that this is what the canonical spelling shows.
-/

namespace RepoAtlas.Path

open List

variable {path base relative name : String} {names above segments : List String} {absolute : Bool}

/-! ## Segments that lead nowhere -/

/-- Following `.` leads nowhere. -/
lemma follow_dot (absolute : Bool) (above : List String) : follow absolute above "." = above :=
  if_pos (Or.inr rfl)

lemma segments_dot (relative : String) :
    Text.segments '/' ("./" ++ relative) = "." :: Text.segments '/' relative := by
  have hdot : Text.segments '/' "." = ["."] := by decide +kernel
  have hsplit := segments_append_slash "." relative
  rw [hdot] at hsplit
  exact hsplit

lemma takeWhile_slash_eq_nil (hrelative : Text.startsWith "/" relative = false) :
    relative.toList.takeWhile (· == '/') = [] := by
  unfold Text.startsWith at hrelative
  cases hchars : relative.toList with
  | nil => rfl
  | cons c cs =>
      rw [hchars] at hrelative
      refine takeWhile_cons_of_neg ?_
      intro hslash
      rw [eq_of_beq hslash] at hrelative
      exact absurd hrelative (by simp)

/-- What comes behind the slashes at the start of a path has no part in them. -/
lemma rootSlashes_append (hrelative : Text.startsWith "/" relative = false) :
    rootSlashes (base ++ relative) = rootSlashes base := by
  have hslashes : (base ++ relative).toList.takeWhile (· == '/') =
      base.toList.takeWhile (· == '/') := by
    rw [String.toList_append, takeWhile_append, takeWhile_slash_eq_nil hrelative, append_nil]
    split_ifs with hall
    · exact (( takeWhile_prefix _).eq_of_length hall).symm
    · rfl
  rw [rootSlashes, hslashes, rootSlashes]

lemma startsWith_slash_dot (relative : String) :
    Text.startsWith "/" ("./" ++ relative) = false := by
  rw [Text.startsWith, String.toList_append]
  rfl

lemma normalize_append_dot (hbase : base = "" ∨ ∃ before, base = before ++ "/")
    (hrelative : Text.startsWith "/" relative = false) :
    normalize (base ++ ("./" ++ relative)) = normalize (base ++ relative) := by
  have hroot : rootSlashes (base ++ ("./" ++ relative)) = rootSlashes (base ++ relative) := by
    rw [rootSlashes_append (startsWith_slash_dot relative), rootSlashes_append hrelative]
  -- The segments differ by one `.`, which is skipped wherever the path has led so far.
  have hfollow : ∀ absolute : Bool,
      (Text.segments '/' (base ++ ("./" ++ relative))).foldl (follow absolute) [] =
        (Text.segments '/' (base ++ relative)).foldl (follow absolute) [] := by
    intro absolute
    rcases hbase with rfl | ⟨before, rfl⟩
    · rw [String.empty_append, String.empty_append, segments_dot, foldl_cons, follow_dot]
    · rw [segments_append_slash, segments_append_slash, segments_dot, foldl_append, foldl_append,
        foldl_cons, follow_dot]
  simp only [normalize, hroot, hfollow]

/-- What a relative path is appended to. -/
lemma exists_join_eq (base : String) : ∃ before, (before = "" ∨ ∃ outer, before = outer ++ "/") ∧
    ∀ relative, Text.startsWith "/" relative = false → join base relative = before ++ relative := by
  by_cases hcomplete : base = "" ∨ Text.endsWith "/" base = true
  · refine ⟨base, ?_, ?_⟩
    · refine hcomplete.imp_right fun hslash => ?_
      obtain ⟨outer, houter⟩ := isSuffixOf_iff_suffix.1 hslash
      refine ⟨String.ofList outer, String.toList_inj.1 ?_⟩
      simpa using houter.symm
    · intro relative hrelative
      simp [join, hrelative, hcomplete]
  · refine ⟨base ++ "/", Or.inr ⟨base, rfl⟩, ?_⟩
    intro relative hrelative
    simp [join, hrelative, hcomplete]

/-- **A leading `./` changes no location.** -/
lemma normalize_join_dot (base : String) (hrelative : Text.startsWith "/" relative = false) :
    normalize (join base ("./" ++ relative)) = normalize (join base relative) := by
  obtain ⟨before, hbefore, hjoin⟩ := exists_join_eq base
  rw [hjoin _ hrelative, hjoin _ (startsWith_slash_dot relative)]
  exact normalize_append_dot hbefore hrelative

/-! ## Names -/

/-- A segment that is the name of something, and leads neither nowhere nor back. -/
def IsName (segment : String) : Prop := segment ∉ ["", ".", ".."]

instance : DecidablePred IsName := fun _ => inferInstanceAs (Decidable (¬ _))

lemma IsName.ne (h : IsName name) : name ≠ "" ∧ name ≠ "." ∧ name ≠ ".." := by
  simpa [IsName] using h

lemma follow_name (h : IsName name) : follow absolute above name = name :: above := by
  obtain ⟨hempty, hdot, hup⟩ := h.ne
  rw [follow.eq_def, if_neg (by simp [hempty, hdot]), if_neg hup]

lemma foldl_follow_names (h : ∀ name ∈ names, IsName name) :
    names.foldl (follow absolute) above = names.reverse ++ above := by
  induction names generalizing above with
  | nil => rfl
  | cons name rest ih =>
      rw [forall_mem_cons] at h
      rw [foldl_cons, follow_name h.1, ih h.2, reverse_cons, append_assoc, singleton_append]

/-- What was entered last is left first. -/
lemma follow_up (h : IsName name) : follow absolute (name :: above) ".." = above := by
  have hstays : ¬ (".." = "" ∨ ".." = ".") := by decide
  simp only [follow.eq_def, if_neg hstays, if_true, if_neg h.ne.2.2]

/-- **Going back** as often as names were entered leads to where it started. -/
lemma foldl_follow_up (h : ∀ name ∈ names, IsName name) :
    (replicate names.length "..").foldl (follow absolute) (names ++ above) = above := by
  induction names with
  | nil => rfl
  | cons name rest ih =>
      rw [forall_mem_cons] at h
      rw [length_cons, replicate_succ, foldl_cons, cons_append, follow_up h.1, ih h.2]

/-! ## Above the start -/

/-- At some point on the way, more `..` have been followed than names. -/
def LeadsAbove (segments : List String) : Prop :=
  ∃ before, before <+: segments ∧ before.countP (IsName ·) < before.count ".."

lemma leadsAbove_concat_iff {segment : String} : LeadsAbove (segments ++ [segment]) ↔
    LeadsAbove segments ∨
      (segments ++ [segment]).countP (IsName ·) < (segments ++ [segment]).count ".." := by
  simp only [LeadsAbove, prefix_concat_iff, or_and_right, exists_or, exists_eq_left]
  exact or_comm

/-- Where segments lead: `up` directories above the start, the names `entered` are entered, of which
the last comes first. -/
structure LeadsTo (segments entered : List String) (up : ℕ) : Prop where
  reached : segments.foldl (follow false) [] = entered ++ replicate up ".."
  isName : ∀ name ∈ entered, IsName name ∧ name ∈ segments
  balance : segments.countP (IsName ·) + up = segments.count ".." + entered.length
  above_iff : 0 < up ↔ LeadsAbove segments

namespace LeadsTo

variable {entered : List String} {up : ℕ} {segment : String}

/-- Whether the start has been left upwards shows in `up`, if that never shrinks and only grows when
nothing is entered. -/
lemma above_iff_concat (h : LeadsTo segments entered up) {entered' : List String} {up' : ℕ}
    (hbalance : (segments ++ [segment]).countP (IsName ·) + up' =
      (segments ++ [segment]).count ".." + entered'.length)
    (hup : up ≤ up') (hpassed : up < up' → entered' = []) :
    0 < up' ↔ LeadsAbove (segments ++ [segment]) := by
  rw [leadsAbove_concat_iff, ← h.above_iff]
  rcases hup.eq_or_lt with rfl | hlt
  · constructor
    · exact Or.inl
    · rintro (hbefore | hnow)
      · exact hbefore
      · omega
  · rw [hpassed hlt, length_nil] at hbalance
    constructor
    · intro _
      exact Or.inr (by omega)
    · intro _
      exact Nat.zero_lt_of_lt hlt

lemma isName_concat (h : LeadsTo segments entered up) (segment : String) :
    ∀ name ∈ entered, IsName name ∧ name ∈ segments ++ [segment] :=
  fun name hname => ⟨(h.isName name hname).1, mem_append_left _ (h.isName name hname).2⟩

lemma enter (h : LeadsTo segments entered up) (hname : IsName segment) :
    LeadsTo (segments ++ [segment]) (segment :: entered) up := by
  have hbalance : (segments ++ [segment]).countP (IsName ·) + up =
      (segments ++ [segment]).count ".." + (segment :: entered).length := by
    have hbefore := h.balance
    simp only [countP_append, countP_singleton, count_append, count_singleton, hname, hname.ne.2.2,
      beq_iff_eq, decide_true, if_true, if_false, length_cons]
    omega
  refine ⟨?_, ?_, hbalance, ?_⟩
  · rw [foldl_append, h.reached, foldl_cons, foldl_nil, follow_name hname, cons_append]
  · refine forall_mem_cons.2 ⟨⟨hname, mem_append_right _ (mem_singleton_self segment)⟩, ?_⟩
    exact h.isName_concat segment
  · exact h.above_iff_concat hbalance le_rfl fun hlt => absurd hlt (lt_irrefl up)

/-- Going back leaves what was entered last, or leads one directory further up. -/
lemma back (h : LeadsTo segments entered up) :
    LeadsTo (segments ++ [".."]) entered.tail (if entered = [] then up + 1 else up) := by
  have hcounts : (segments ++ [".."]).countP (IsName ·) = segments.countP (IsName ·) ∧
      (segments ++ [".."]).count ".." = segments.count ".." + 1 := by
    simp [IsName]
  have hbefore := h.balance
  cases entered with
  | nil =>
      have hbalance : (segments ++ [".."]).countP (IsName ·) + (up + 1) =
          (segments ++ [".."]).count ".." + ([] : List String).length := by
        rw [hcounts.1, hcounts.2]
        simp only [length_nil] at hbefore ⊢
        omega
      refine ⟨?_, by simp, hbalance, h.above_iff_concat hbalance (Nat.le_succ up) fun _ => rfl⟩
      rw [foldl_append, h.reached, if_pos rfl]
      cases up <;> rfl
  | cons name rest =>
      have hbalance : (segments ++ [".."]).countP (IsName ·) + up =
          (segments ++ [".."]).count ".." + rest.length := by
        rw [hcounts.1, hcounts.2]
        simp only [length_cons] at hbefore
        omega
      have hnames := forall_mem_cons.1 (h.isName_concat "..")
      rw [if_neg (cons_ne_nil name rest), tail_cons]
      refine ⟨?_, hnames.2, hbalance, h.above_iff_concat hbalance le_rfl fun hlt => ?_⟩
      · rw [foldl_append, h.reached, cons_append, foldl_cons, foldl_nil, follow_up hnames.1.1]
      · exact absurd hlt (lt_irrefl up)

lemma stay (h : LeadsTo segments entered up) (hidle : segment = "" ∨ segment = ".") :
    LeadsTo (segments ++ [segment]) entered up := by
  have hcounts : (segments ++ [segment]).countP (IsName ·) = segments.countP (IsName ·) ∧
      (segments ++ [segment]).count ".." = segments.count ".." := by
    rcases hidle with rfl | rfl <;> simp [IsName]
  have hbalance : (segments ++ [segment]).countP (IsName ·) + up =
      (segments ++ [segment]).count ".." + entered.length := by
    rw [hcounts.1, hcounts.2, h.balance]
  refine ⟨?_, h.isName_concat segment, hbalance,
    h.above_iff_concat hbalance le_rfl fun hlt => ?_⟩
  · rw [foldl_append, h.reached, foldl_cons, foldl_nil, follow.eq_def, if_pos hidle]
  · exact absurd hlt (lt_irrefl up)

end LeadsTo

/-- **Every way leads somewhere.** -/
lemma exists_leadsTo (segments : List String) : ∃ entered up, LeadsTo segments entered up := by
  induction segments using reverseRecOn with
  | nil => exact ⟨[], 0, rfl, by simp, rfl, by simp [LeadsAbove]⟩
  | append_singleton passed segment ih =>
      obtain ⟨entered, up, h⟩ := ih
      by_cases hname : IsName segment
      · exact ⟨_, _, h.enter hname⟩
      · by_cases hup : segment = ".."
        · subst hup
          exact ⟨_, _, h.back⟩
        · have hidle : segment = "" ∨ segment = "." := by
            simpa [IsName, hup, or_iff_not_imp_left] using hname
          exact ⟨_, _, h.stay hidle⟩

/-! ## Canonical spellings -/

/-- A relative path is spelled as the names that are left of it; if none are, it is `.`. -/
lemma normalize_of_relative (h : Text.startsWith "/" path = false)
    (hnames : (Text.segments '/' path).foldl (follow false) [] = names.reverse)
    (hparts : ∀ name ∈ names, name ≠ "") :
    normalize path = if names = [] then "." else Text.joined "/" names := by
  have hroot : rootSlashes path = "" := by
    rw [rootSlashes, takeWhile_slash_eq_nil h]
    rfl
  have hrelative : ("" != "") = false := by decide
  simp only [normalize, hroot, hrelative, hnames, reverse_reverse, String.empty_append,
    Text.joined_eq_empty_iff hparts]

/-- A path leads out when its first segment does. -/
lemma climbsOut_iff (path : String) :
    climbsOut path = true ↔ (Text.segments '/' path).head? = some ".." := by
  have hup : Text.segments '/' ".." = [".."] := by decide +kernel
  rw [climbsOut, Bool.or_eq_true, beq_iff_eq]
  constructor
  · rintro (rfl | hstart)
    · rw [hup, head?_cons]
    · obtain ⟨rest, rfl⟩ := (startsWith_append_slash ".." path).1 hstart
      rw [segments_append_slash, hup, singleton_append, head?_cons]
  · intro hfirst
    obtain ⟨rest, hrest⟩ := head?_eq_some_iff.1 hfirst
    have hpath := joined_segments path
    rw [hrest] at hpath
    rcases eq_or_ne rest [] with rfl | hsome
    · rw [Text.joined_singleton] at hpath
      exact Or.inl hpath.symm
    · rw [Text.joined_cons "/" hsome] at hpath
      exact Or.inr ((startsWith_append_slash ".." path).2 ⟨_, hpath.symm⟩)

/-- An absolute path stays absolute. -/
lemma climbsOut_normalize_of_absolute (h : Text.startsWith "/" path = true) :
    climbsOut (normalize path) = false := by
  have hroot : ∃ more, rootSlashes path = "/" ++ more := by
    obtain ⟨rest, rfl⟩ := (startsWith_append_slash "" path).1 h
    unfold rootSlashes
    split
    · rename_i hnone
      simp at hnone
    · exact ⟨"/", rfl⟩
    · exact ⟨"", rfl⟩
  obtain ⟨more, hmore⟩ := hroot
  have hwritten : ∃ rest, normalize path = "" ++ "/" ++ rest := by
    simp only [normalize, hmore]
    rw [if_neg (by simp)]
    exact ⟨_, String.append_assoc ..⟩
  obtain ⟨rest, hrest⟩ := hwritten
  have hempty : Text.segments '/' "" = [""] := by decide +kernel
  rw [Bool.eq_false_iff, Ne, climbsOut_iff, hrest, segments_append_slash, hempty]
  simp

/-- **Canonical spellings show what leads out**, which an absolute path never does. -/
lemma climbsOut_normalize_iff (path : String) : climbsOut (normalize path) = true ↔
    Text.startsWith "/" path = false ∧ LeadsAbove (Text.segments '/' path) := by
  cases hstart : Text.startsWith "/" path with
  | true => simp [climbsOut_normalize_of_absolute hstart]
  | false =>
      obtain ⟨entered, up, h⟩ := exists_leadsTo (Text.segments '/' path)
      have hnames : (Text.segments '/' path).foldl (follow false) [] =
          (replicate up ".." ++ entered.reverse).reverse := by
        rw [h.reached, reverse_append, reverse_reverse, reverse_replicate]
      have hparts : ∀ part ∈ replicate up ".." ++ entered.reverse, IsSegment part := by
        intro part hpart
        rcases mem_append.1 hpart with hup | hentered
        · rw [eq_of_mem_replicate hup]
          decide
        · obtain ⟨hname, hmem⟩ := h.isName part (mem_reverse.1 hentered)
          exact ⟨hname.ne.1, Text.not_mem_of_mem_segments hmem⟩
      rw [normalize_of_relative hstart hnames fun part hpart => (hparts part hpart).1,
        ← h.above_iff]
      by_cases hnone : replicate up ".." ++ entered.reverse = []
      · have hup : up = 0 := by simpa using (append_eq_nil_iff.1 hnone).1
        have hdot : climbsOut "." = false := by decide
        rw [if_pos hnone, hdot, hup]
        simp
      · rw [if_neg hnone, climbsOut_iff,
          segments_joined (fun part hpart => (hparts part hpart).2) hnone]
        cases up with
        | zero =>
            have hfirst : entered.reverse.head? ≠ some ".." := by
              intro hup
              have hmem := mem_of_head? hup
              exact (h.isName ".." (mem_reverse.1 hmem)).1.ne.2.2 rfl
            simpa using hfirst
        | succ up => simp [replicate_succ]

end RepoAtlas.Path
