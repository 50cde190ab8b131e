import RepoAtlas.Proofs.Manifest.RequirementText
import RepoAtlas.Proofs.Text.Lines
import RepoAtlas.Proofs.Text.Occurrences

/-!
# Comments in requirement lists

A requirement list is read line by line, and what a line declares does not depend on the others
(`packagesOfList_append`).  A comment begins with a blank and a number sign, and should not show.

**Only a space and a number sign begin a comment.**  Behind another blank, such as a tab, the number
sign and what follows it stay on the line (`lineContent_commented`).  They are read as the end of
the version unless a marker keeps them away from it (`sign_mem_versionIn`), and a location in them
lets the whole line be passed over as that of a location unless there is an at sign before it
(`isStated_commented`).  A comment is harmless where neither happens: the line declares what it does
without the comment.  On a line with closed brackets no other comment is
(`declaredOn?_commented_iff`).
-/

namespace RepoAtlas.Requirement

open List Text

variable {line comment : String} {blank c : Char} {before cs gap rest : List Char}

/-! ## Line by line -/

/-- What a line of a requirement list declares, if it declares something. -/
def declaredOn? (line : String) : Option Requirement :=
  let content := lineContent line
  if isStated content && (parse content).name != "" then some (parse content) else none

lemma packagesOfList_eq (text : String) :
    packagesOfList text =
      Entries.addNew []
        (((lines text).filterMap declaredOn?).map fun r => (r.name, r.version)) := by
  have hlines : ∀ texts : List String,
      (((texts.map lineContent).filter isStated).map parse).filter (·.name != "") =
        texts.filterMap declaredOn? := by
    intro texts
    induction texts with
    | nil => rfl
    | cons text texts ih =>
        rw [filterMap_cons, ← ih, map_cons, filter_cons, declaredOn?]
        cases hstated : isStated (lineContent text) with
        | false => simp
        | true =>
            cases hname : (parse (lineContent text)).name != "" with
            | false => simp [hname]
            | true => simp [hname]
  rw [packagesOfList, declared, hlines]

/-- There is no line break in the text. -/
def IsLine (text : String) : Prop := ∀ c ∈ text.toList, isLineBreak c = false

instance : DecidablePred IsLine :=
  fun text => List.decidableBAll (fun c => isLineBreak c = false) text.toList

/-- **A line declares what it does whatever is on the others.** -/
lemma packagesOfList_append {before after : String}
    (hbefore : ∀ c ∈ before.toList.getLast?, isLineBreak c = true)
    (hline : IsLine line) (hafter : ∀ c ∈ after.toList.head?, isLineBreak c = true) :
    packagesOfList (before ++ line ++ after) =
      Entries.addNew [] (((lines before).filterMap declaredOn? ++
        ((declaredOn? line).toList ++ (lines after).filterMap declaredOn?)).map
          fun r => (r.name, r.version)) := by
  have hnone : (declaredOn? ∘ String.ofList) [] = none := by decide
  have hlines := filterMap_linesOf_append hnone hbefore hline hafter
  rw [packagesOfList_eq, lines, lines, lines, filterMap_map, filterMap_map, filterMap_map,
    String.toList_append, String.toList_append, append_assoc, hlines, Function.comp_apply,
    String.ofList_toList]

/-! ## Where a comment begins -/

/-- The line with a comment behind a blank. -/
def commented (line : String) (blank : Char) (comment : String) : String :=
  line ++ String.singleton blank ++ "#" ++ comment

lemma toList_commented (line : String) (blank : Char) (comment : String) :
    (commented line blank comment).toList = line.toList ++ blank :: '#' :: comment.toList := by
  simp [commented]

/-- No comment begins before the first number sign. -/
lemma splitAtFirst?_append_of_notMem (hcs : '#' ∉ cs) (hrest : rest.head? ≠ some '#') :
    splitAtFirst? [' ', '#'] (cs ++ rest) =
      (splitAtFirst? [' ', '#'] rest).map fun (front, back) => (cs ++ front, back) := by
  induction cs with
  | nil => simp
  | cons c cs ih =>
      obtain ⟨-, hcs⟩ := not_or.1 (mem_cons.not.1 hcs)
      -- whatever `c` is, the character behind it is no number sign
      have hhere : restAfter? [' ', '#'] (c :: (cs ++ rest)) = none := by
        refine Option.eq_none_iff_forall_ne_some.2 fun more hmore => ?_
        have hsign : (cs ++ rest).head? = some '#' := by
          rw [(cons.inj (restAfter?_eq_some_iff.1 hmore)).2]
          rfl
        cases cs with
        | nil => exact hrest hsign
        | cons d cs =>
            obtain rfl : d = '#' := Option.some.inj hsign
            exact hcs mem_cons_self
      rw [cons_append, splitAtFirst?, hhere, ih hcs, Option.map_map]
      rfl

lemma lineContent_eq (line : String) :
    lineContent line = String.ofList
      (trimOf (((splitAtFirst? [' ', '#'] line.toList).map (·.1)).getD line.toList)) := by
  have hneedle : " #".toList = [' ', '#'] := rfl
  rw [lineContent, trim, beforeText, hneedle]
  cases splitAtFirst? [' ', '#'] line.toList with
  | none => rfl
  | some parts => simp

lemma lineContent_of_notMem (h : '#' ∉ line.toList) : lineContent line = trim line := by
  have hnone : ([] : List Char).head? ≠ some '#' := by simp
  have hsplit := splitAtFirst?_append_of_notMem h hnone
  rw [append_nil] at hsplit
  rw [lineContent_eq, hsplit]
  rfl

/-- **A space and a number sign begin a comment.** -/
lemma lineContent_commented_space (h : '#' ∉ line.toList) (comment : String) :
    lineContent (commented line ' ' comment) = lineContent line := by
  have hother : (' ' :: '#' :: comment.toList).head? ≠ some '#' := by simp
  have hsplit := splitAtFirst?_append_of_notMem h hother
  rw [lineContent_eq, toList_commented, hsplit, lineContent_of_notMem h]
  simp [splitAtFirst?, restAfter?, trim]

/-- **No other blank does so**, and the comment may even have a comment of its own. -/
lemma lineContent_commented (h : '#' ∉ line.toList) (hblank : isBlank blank = true)
    (hspace : blank ≠ ' ') (comment : String) :
    lineContent (commented line blank comment) = String.ofList
      (trimOf (line.toList ++ blank :: '#' :: (beforeText " #" comment).toList)) := by
  have hother : (blank :: '#' :: comment.toList).head? ≠ some '#' := by
    intro heq
    obtain rfl : blank = '#' := Option.some.inj heq
    exact absurd hblank (by decide)
  have hsplit := splitAtFirst?_append_of_notMem h hother
  have hneedle : " #".toList = [' ', '#'] := rfl
  have hskip : splitAtFirst? [' ', '#'] (blank :: '#' :: comment.toList) =
      (splitAtFirst? [' ', '#'] comment.toList).map fun (front, back) =>
        (blank :: '#' :: front, back) := by
    simp [splitAtFirst?, restAfter?, hspace.symm, Function.comp_def]
  rw [lineContent_eq, toList_commented, hsplit, hskip, beforeText, hneedle]
  cases splitAtFirst? [' ', '#'] comment.toList with
  | none => simp
  | some parts => simp

/-- What is left of a line and a comment that belongs to it, with the blanks between them. -/
lemma exists_trimOf_eq (hblank : isBlank blank = true) (hsome : trimOf cs ≠ [])
    (comment : List Char) :
    ∃ gap, gap ≠ [] ∧ (∀ c ∈ gap, isBlank c = true) ∧
      trimOf (cs ++ blank :: '#' :: comment) = trimOf cs ++ (gap ++ '#' :: trimEndOf comment) := by
  obtain ⟨front, gap, hfront, hgap, hcs⟩ := exists_eq_append_trimOf_append cs
  obtain ⟨c, rest, hrest⟩ := exists_cons_of_ne_nil hsome
  have hsolid := isBlank_of_trimOf_eq_cons hrest
  refine ⟨gap ++ [blank], by simp, ?_, ?_⟩
  · intro d hd
    rcases mem_append.1 hd with hd | hd
    · exact hgap d hd
    · rwa [mem_singleton.1 hd]
  · -- from `c` on nothing is trimmed off before the number sign, nor is the sign itself
    have hline : cs ++ blank :: '#' :: comment =
        front ++ (c :: (rest ++ (gap ++ [blank])) ++ '#' :: comment) := by
      conv_lhs => rw [hcs, hrest]
      simp
    rw [hline, trimOf_blank_append hfront, trimOf_append_cons (by decide),
      trimStartOf_cons hsolid, hrest]
    simp

/-- On a line with nothing else, the comment is all that is left. -/
lemma trimOf_eq_comment (hblank : isBlank blank = true) (hnone : trimOf cs = [])
    (comment : List Char) :
    trimOf (cs ++ blank :: '#' :: comment) = '#' :: trimEndOf comment := by
  obtain ⟨front, gap, hfront, hgap, hcs⟩ := exists_eq_append_trimOf_append cs
  rw [hnone, nil_append] at hcs
  have hline : cs ++ blank :: '#' :: comment = (front ++ gap ++ [blank]) ++ '#' :: comment := by
    conv_lhs => rw [hcs]
    simp
  rw [hline, trimOf_blank_append, trimOf_cons (by decide)]
  intro c hc
  simp only [mem_append, mem_singleton] at hc
  rcases hc with (hc | hc) | rfl
  · exact hfront c hc
  · exact hgap c hc
  · exact hblank

/-! ## Lines that are passed over -/

/-- Before an at sign there is what the locations of packages begin with. -/
def BeginsLocation (cs : List Char) : Prop := "://".toList <:+: cs.takeWhile (· != '@')

instance (cs : List Char) : Decidable (BeginsLocation cs) :=
  inferInstanceAs (Decidable ("://".toList <:+: cs.takeWhile (· != '@')))

lemma isStated_ofList (cs : List Char) :
    isStated (String.ofList cs) = true ↔
      cs ≠ [] ∧ cs.head? ≠ some '#' ∧ cs.head? ≠ some '-' ∧ ¬ BeginsLocation cs := by
  have hstart : ∀ sign, [sign].isPrefixOf cs = true ↔ cs.head? = some sign := by
    intro sign
    cases cs with
    | nil => simp
    | cons c cs => simp [isPrefixOf, eq_comm (a := sign)]
  have hsign : "#".toList = ['#'] ∧ "-".toList = ['-'] := ⟨rfl, rfl⟩
  simp only [isStated, startsWith, beforeFirst, Text.contains_iff, BeginsLocation, hsign.1, hsign.2,
    String.toList_ofList, Bool.and_eq_true, Bool.not_eq_true', bne_iff_ne, ne_eq, and_assoc,
    ← Bool.not_eq_true, hstart, String.ofList_eq_empty_iff]

/-- Blanks have no part in a location. -/
lemma beginsLocation_append_blank (hblanks : ∀ c ∈ gap, isBlank c = true) :
    BeginsLocation (cs ++ gap) ↔ BeginsLocation cs := by
  have hsolid : ∀ c ∈ "://".toList, isBlank c = false := by simp [isBlank]
  unfold BeginsLocation
  by_cases hat : '@' ∈ cs
  · rw [takeWhile_bne_append_of_mem hat]
  · rw [takeWhile_bne_append_of_notMem hat, takeWhile_bne_of_notMem hat,
      infix_append_iff_of_disjoint (by simp)]
    intro c hc hmem
    exact notMem_of_isBlank hblanks (hsolid c hmem) ((takeWhile_sublist _).mem hc)

/-- A location does not go across a number sign. -/
lemma beginsLocation_append_sign (before after : List Char) :
    BeginsLocation (before ++ '#' :: after) ↔
      BeginsLocation before ∨ '@' ∉ before ∧ BeginsLocation after := by
  unfold BeginsLocation
  by_cases hat : '@' ∈ before
  -- what is behind an at sign is not looked at
  · rw [takeWhile_bne_append_of_mem hat, or_iff_left fun hafter => hafter.1 hat]
  · rw [takeWhile_bne_append_of_notMem hat, takeWhile_cons_of_pos (by decide),
      infix_append_cons_iff (by decide), takeWhile_bne_of_notMem hat, and_iff_right hat]

lemma beginsLocation_commented (hgap : ∀ c ∈ gap, isBlank c = true) (comment : List Char) :
    BeginsLocation (cs ++ (gap ++ '#' :: trimEndOf comment)) ↔
      BeginsLocation cs ∨ '@' ∉ cs ∧ BeginsLocation comment := by
  obtain ⟨blanks, hblanks, hcomment⟩ := exists_eq_trimEndOf_append comment
  have hend : BeginsLocation (trimEndOf comment) ↔ BeginsLocation comment := by
    conv_rhs => rw [hcomment, beginsLocation_append_blank hblanks]
  have hat : '@' ∈ cs ++ gap ↔ '@' ∈ cs := by
    rw [mem_append, or_iff_left (notMem_of_isBlank hgap (by decide))]
  rw [← append_assoc, beginsLocation_append_sign, beginsLocation_append_blank hgap, hat, hend]

/-- Whether a line is passed over for its comment: there is a location in it. -/
def ShowsLocation (line comment : String) : Prop :=
  '@' ∉ line.toList ∧ BeginsLocation (beforeText " #" comment).toList

instance (line comment : String) : Decidable (ShowsLocation line comment) :=
  inferInstanceAs (Decidable (_ ∧ _))

/-! ## Versions -/

/-- A bracket that opens on the line is followed by one that closes. -/
def ClosesBrackets (cs : List Char) : Prop :=
  ∀ front back, cs = front ++ '[' :: back → ']' ∈ back

lemma ClosesBrackets.of_append (h : ClosesBrackets (before ++ rest)) : ClosesBrackets rest := by
  rintro front back rfl
  exact h (before ++ front) back (append_assoc before front _).symm

/-- There are no brackets among blanks. -/
lemma closesBrackets_append_blank (hgap : ∀ c ∈ gap, isBlank c = true) :
    ClosesBrackets (cs ++ gap) ↔ ClosesBrackets cs := by
  have hopen : '[' ∉ gap := notMem_of_isBlank hgap (by decide)
  have hclose : ']' ∉ gap := notMem_of_isBlank hgap (by decide)
  constructor
  · rintro h front back rfl
    exact (mem_append.1 (h front (back ++ gap) (by simp))).resolve_right hclose
  · intro h front back hcut
    rcases append_eq_append_iff.1 hcut with ⟨more, -, rfl⟩ | ⟨more, hmore, hback⟩
    · exact absurd (mem_append_right more mem_cons_self) hopen
    · cases more with
      | nil =>
          obtain rfl : '[' :: back = gap := hback
          exact absurd mem_cons_self hopen
      | cons c more =>
          obtain ⟨rfl, rfl⟩ := cons.inj hback
          exact mem_append_left _ (h front more hmore)

/-- A number sign stays in a version if the brackets before it are closed. -/
lemma sign_mem_dropExtras (hclosed : ∀ back, cs = '[' :: back → ']' ∈ back) (rest : List Char) :
    '#' ∈ dropExtras (cs ++ '#' :: rest) := by
  by_cases hbracket : cs.head? = some '['
  · obtain ⟨back, rfl⟩ := head?_eq_some_iff.1 hbracket
    obtain ⟨extras, more, rfl, hextras⟩ := eq_append_cons_of_mem (hclosed back rfl)
    rw [cons_append, append_assoc, cons_append, dropExtras_brackets hextras,
      mem_trimOf_iff (by decide)]
    exact mem_append_right _ mem_cons_self
  · rw [dropExtras_of_head?]
    · exact mem_append_right _ mem_cons_self
    · cases cs with
      | nil => simp
      | cons c cs => exact hbracket

lemma mem_of_mem_dropExtras (h : c ∈ dropExtras cs) : c ∈ cs := by
  unfold dropExtras at h
  split at h
  · split at h
    · exact mem_of_mem_trimOf h
    · next hafter =>
        refine (dropWhile_sublist (· != ']')).mem ?_
        rw [hafter]
        exact mem_cons_of_mem _ (mem_of_mem_trimOf h)
  · exact h

lemma mem_of_mem_versionIn (h : c ∈ versionIn cs) : c ∈ cs :=
  (takeWhile_sublist _).mem (mem_of_mem_trimOf (mem_of_mem_dropExtras h))

/-- Without a semicolon, a comment is read as a part of the version. -/
lemma sign_mem_versionIn (hclosed : ClosesBrackets cs) (hmarker : ';' ∉ cs)
    (hgap : ∀ c ∈ gap, isBlank c = true) (comment : List Char) :
    '#' ∈ versionIn (cs ++ (gap ++ '#' :: comment)) := by
  have hplain : ';' ∉ cs ++ gap := by
    rw [mem_append, not_or]
    exact ⟨hmarker, notMem_of_isBlank hgap (by decide)⟩
  rw [versionIn, ← append_assoc, takeWhile_bne_append_of_notMem hplain,
    takeWhile_cons_of_pos (by decide), trimOf_append_cons (by decide)]
  refine sign_mem_dropExtras ?_ _
  intro back hback
  refine (closesBrackets_append_blank hgap).2 hclosed ((cs ++ gap).takeWhile isBlank) back ?_
  rw [← hback, trimStartOf, takeWhile_append_dropWhile]

lemma sign_mem_versionText (version : List Char) :
    '#' ∈ (versionText version).toList ↔ '#' ∈ version := by
  unfold versionText
  split_ifs with hany
  · simp [hany]
  · rw [String.toList_ofList]

/-- Behind a semicolon nothing is read. -/
lemma versionIn_append_of_mem (h : ';' ∈ cs) (more : List Char) :
    versionIn (cs ++ more) = versionIn cs := by
  rw [versionIn, versionIn, takeWhile_bne_append_of_mem h]

/-! ## What a line with a comment declares -/

lemma declaredOn?_eq_some_iff {r : Requirement} :
    declaredOn? line = some r ↔
      isStated (lineContent line) = true ∧ (parse (lineContent line)).name ≠ "" ∧
        parse (lineContent line) = r := by
  simp only [declaredOn?, Option.ite_none_right_eq_some, Bool.and_eq_true, bne_iff_ne, ne_eq,
    Option.some.injEq, and_assoc]

lemma exists_name_append (cs : List Char) :
    ∃ name rest, cs = name ++ rest ∧ (∀ c ∈ name, endsName c = false) ∧ Stops rest := by
  refine ⟨cs.takeWhile (!endsName ·), cs.dropWhile (!endsName ·),
    takeWhile_append_dropWhile.symm, ?_, ?_⟩
  · intro c hc
    simpa using mem_takeWhile_imp hc
  · intro c hc
    have hstop := head?_dropWhile_not (!endsName ·) cs
    rw [hc] at hstop
    simpa using hstop

section

variable (hsign : '#' ∉ line.toList) (hblank : isBlank blank = true) (hspace : blank ≠ ' ')

include hsign hblank hspace

/-- **Which lines are passed over** for their comments. -/
lemma isStated_commented (comment : String) :
    isStated (lineContent (commented line blank comment)) = true ↔
      isStated (lineContent line) = true ∧ ¬ ShowsLocation line comment := by
  rw [lineContent_commented hsign hblank hspace, lineContent_of_notMem hsign, trim,
    isStated_ofList, isStated_ofList]
  by_cases hsome : trimOf line.toList = []
  · simp [trimOf_eq_comment hblank hsome, hsome]
  · obtain ⟨gap, -, hgap, hcut⟩ := exists_trimOf_eq hblank hsome (beforeText " #" comment).toList
    have hhead : ∀ more, (trimOf line.toList ++ more).head? = (trimOf line.toList).head? :=
      fun more => head?_append_of_ne_nil _ hsome
    have hat : '@' ∈ trimOf line.toList ↔ '@' ∈ line.toList := mem_trimOf_iff (by decide)
    rw [hcut, beginsLocation_commented hgap, hhead, hat, ShowsLocation]
    simp only [ne_eq, append_eq_nil_iff, hsome, false_and, not_false_eq_true, true_and, not_or,
      and_assoc]

/-- The name is read as on the line without the comment, and what is behind the name goes on in the
comment. -/
lemma exists_parse_commented (hsome : trimOf line.toList ≠ []) (comment : String) :
    ∃ name rest gap more, trimOf line.toList = name ++ rest ∧ ';' ∉ name ∧
      (∀ c ∈ gap, isBlank c = true) ∧
      parse (lineContent line) = ⟨String.ofList name, versionText (versionIn rest)⟩ ∧
      parse (lineContent (commented line blank comment)) =
        ⟨String.ofList name, versionText (versionIn (rest ++ (gap ++ '#' :: more)))⟩ := by
  obtain ⟨gap, hne, hgap, hcut⟩ := exists_trimOf_eq hblank hsome (beforeText " #" comment).toList
  obtain ⟨name, rest, hline, hname, hrest⟩ := exists_name_append (trimOf line.toList)
  refine ⟨name, rest, gap, trimEndOf (beforeText " #" comment).toList, hline, ?_, hgap, ?_, ?_⟩
  · exact fun hmem => absurd (hname ';' hmem) (by decide)
  · refine parse_eq ?_ hname hrest
    rw [lineContent_of_notMem hsign, trim, String.toList_ofList, trimOf_trimOf, hline]
  · have hgoes : Stops (gap ++ '#' :: trimEndOf (beforeText " #" comment).toList) := by
      obtain ⟨c, gap, rfl⟩ := exists_cons_of_ne_nil hne
      exact stops_cons (endsName_of_isBlank (hgap c mem_cons_self)) _
    refine parse_eq ?_ hname (hrest.append hgoes)
    rw [lineContent_commented hsign hblank hspace, String.toList_ofList, trimOf_trimOf, hcut,
      hline, append_assoc]

/-- A marker keeps a comment away from the version. -/
lemma parse_commented_of_marker (hmarker : ';' ∈ line.toList) (comment : String) :
    parse (lineContent (commented line blank comment)) = parse (lineContent line) := by
  rw [← mem_trimOf_iff (by decide)] at hmarker
  obtain ⟨name, rest, gap, more, hline, hname, -, hread, hreadAll⟩ :=
    exists_parse_commented hsign hblank hspace (ne_nil_of_mem hmarker) comment
  rw [hline, mem_append] at hmarker
  rw [hread, hreadAll, versionIn_append_of_mem (hmarker.resolve_left hname)]

lemma name_parse_commented (hsome : trimOf line.toList ≠ []) (comment : String) :
    (parse (lineContent (commented line blank comment))).name =
      (parse (lineContent line)).name := by
  obtain ⟨name, rest, gap, more, -, -, -, hread, hreadAll⟩ :=
    exists_parse_commented hsign hblank hspace hsome comment
  rw [hread, hreadAll]

/-- Without a marker, the comment shows in the version. -/
lemma parse_commented_ne (hsome : trimOf line.toList ≠ []) (hmarker : ';' ∉ line.toList)
    (hclosed : ClosesBrackets line.toList) (comment : String) :
    parse (lineContent (commented line blank comment)) ≠ parse (lineContent line) := by
  obtain ⟨name, rest, gap, more, hline, -, hgap, hread, hreadAll⟩ :=
    exists_parse_commented hsign hblank hspace hsome comment
  have hwhole : ∀ c ∈ rest, c ∈ line.toList := by
    intro c hc
    refine mem_of_mem_trimOf ?_
    rw [hline]
    exact mem_append_right _ hc
  have hrest : ClosesBrackets rest := by
    obtain ⟨front, after, -, hafter, hcut⟩ := exists_eq_append_trimOf_append line.toList
    rw [hcut, hline] at hclosed
    exact ((closesBrackets_append_blank hafter).1 hclosed.of_append).of_append
  -- the number sign is in the one version and not in the other
  have hshown : '#' ∈ versionIn (rest ++ (gap ++ '#' :: more)) :=
    sign_mem_versionIn hrest (fun hmem => hmarker (hwhole _ hmem)) hgap more
  have hhidden : '#' ∉ versionIn rest := fun hmem => hsign (hwhole _ (mem_of_mem_versionIn hmem))
  rw [hread, hreadAll]
  intro hsame
  rw [← sign_mem_versionText, (Requirement.mk.inj hsame).2, sign_mem_versionText] at hshown
  exact hhidden hshown

end

/-- Whether a comment behind another blank than a space does no harm: nothing is declared in any
case, or else a marker is in front of it and the line is not passed over. -/
def IsHarmless (line comment : String) : Prop :=
  declaredOn? line = none ∨ ';' ∈ line.toList ∧ ¬ ShowsLocation line comment

instance (line comment : String) : Decidable (IsHarmless line comment) :=
  inferInstanceAs (Decidable (_ ∨ _))

lemma trimOf_ne_nil_of_isStated (h : isStated (lineContent line) = true)
    (hsign : '#' ∉ line.toList) : trimOf line.toList ≠ [] := by
  rw [lineContent_of_notMem hsign, trim, isStated_ofList] at h
  exact h.1

lemma declaredOn?_commented_of_isHarmless (hsign : '#' ∉ line.toList)
    (hblank : isBlank blank = true) (h : blank = ' ' ∨ IsHarmless line comment) :
    declaredOn? (commented line blank comment) = declaredOn? line := by
  by_cases hspace : blank = ' '
  · subst hspace
    rw [declaredOn?, lineContent_commented_space hsign, declaredOn?]
  · rcases h.resolve_left hspace with hnone | ⟨hmarker, hshows⟩
    · rw [hnone, Option.eq_none_iff_forall_ne_some]
      intro r hr
      obtain ⟨hstated, hname, -⟩ := declaredOn?_eq_some_iff.1 hr
      have hline := ((isStated_commented hsign hblank hspace comment).1 hstated).1
      rw [name_parse_commented hsign hblank hspace (trimOf_ne_nil_of_isStated hline hsign)]
        at hname
      have hsome := declaredOn?_eq_some_iff.2 ⟨hline, hname, rfl⟩
      rw [hnone] at hsome
      cases hsome
    · ext r
      rw [declaredOn?_eq_some_iff, declaredOn?_eq_some_iff,
        isStated_commented hsign hblank hspace, and_iff_left hshows,
        parse_commented_of_marker hsign hblank hspace hmarker]

/-- **Which comments do not show** on a line on which brackets are closed. -/
lemma declaredOn?_commented_iff (hsign : '#' ∉ line.toList) (hblank : isBlank blank = true)
    (hclosed : ClosesBrackets line.toList) :
    declaredOn? (commented line blank comment) = declaredOn? line ↔
      blank = ' ' ∨ IsHarmless line comment := by
  refine ⟨fun hsame => ?_, declaredOn?_commented_of_isHarmless hsign hblank⟩
  refine or_iff_not_imp_left.2 fun hspace => ?_
  cases hline : declaredOn? line with
  | none => exact Or.inl hline
  | some r =>
      obtain ⟨hstated, -, hread⟩ := declaredOn?_eq_some_iff.1 hline
      obtain ⟨hstatedAll, -, hreadAll⟩ := declaredOn?_eq_some_iff.1 (hsame.trans hline)
      refine Or.inr ⟨?_, ((isStated_commented hsign hblank hspace comment).1 hstatedAll).2⟩
      by_contra hmarker
      exact parse_commented_ne hsign hblank hspace (trimOf_ne_nil_of_isStated hstated hsign)
        hmarker hclosed comment (hreadAll.trans hread.symm)

lemma isLine_commented (hline : IsLine line) (hcomment : IsLine comment)
    (hbreak : isLineBreak blank = false) : IsLine (commented line blank comment) := by
  intro c hc
  rw [toList_commented, mem_append, mem_cons, mem_cons] at hc
  rcases hc with hc | rfl | rfl | hc
  · exact hline c hc
  · exact hbreak
  · decide
  · exact hcomment c hc

/-- **Comments behind a space do not show**, whatever is in them and whatever is on other lines.  A
comment behind another blank does not show either where it is harmless; where brackets are closed,
it shows in all other cases. -/
theorem comments_behind_spaces_do_not_show {before after : String} (hsign : '#' ∉ line.toList)
    (hline : IsLine line) (hcomment : IsLine comment) (hblank : isBlank blank = true)
    (hbreak : isLineBreak blank = false)
    (hbefore : ∀ c ∈ before.toList.getLast?, isLineBreak c = true)
    (hafter : ∀ c ∈ after.toList.head?, isLineBreak c = true) :
    (blank = ' ' ∨ IsHarmless line comment →
      packagesOfList (before ++ commented line blank comment ++ after) =
        packagesOfList (before ++ line ++ after)) ∧
    (ClosesBrackets line.toList →
      (declaredOn? (commented line blank comment) = declaredOn? line ↔
        blank = ' ' ∨ IsHarmless line comment)) := by
  refine ⟨fun hharmless => ?_, declaredOn?_commented_iff hsign hblank⟩
  rw [packagesOfList_append hbefore (isLine_commented hline hcomment hbreak) hafter,
    packagesOfList_append hbefore hline hafter,
    declaredOn?_commented_of_isHarmless hsign hblank hharmless]

theorem comment_behind_marker_does_not_show :
    packagesOfList ("flask\n" ++ commented "requests>=2; extra == 'web'" '\t' " pinned" ++
      "\nrich\n") = [("flask", "*"), ("requests", ">=2"), ("rich", "*")] := by
  have hsame := (@comments_behind_spaces_do_not_show "requests>=2; extra == 'web'" " pinned" '\t'
    "flask\n" "\nrich\n" (by decide) (by decide) (by decide) (by decide) (by decide)
    (by simp [isLineBreak]) (by simp [isLineBreak])).1
  exact (hsame (by decide +kernel)).trans (by decide +kernel)

/-- **A comment behind a tab shows** as a version. -/
theorem comment_behind_tab_shows :
    ¬ ∀ (line comment before after : String) (blank : Char), '#' ∉ line.toList → IsLine line →
      IsLine comment → isBlank blank = true → isLineBreak blank = false →
      (∀ c ∈ before.toList.getLast?, isLineBreak c = true) →
      (∀ c ∈ after.toList.head?, isLineBreak c = true) →
      packagesOfList (before ++ commented line blank comment ++ after) =
        packagesOfList (before ++ line ++ after) := by
  intro h
  have htab := h "requests" " pinned" "" "" '\t' (by decide) (by decide) (by decide) (by decide)
    (by decide) (by simp) (by simp)
  exact absurd htab (by decide +kernel)

end RepoAtlas.Requirement
