import RepoAtlas.Manifest.Requirement
import RepoAtlas.Proofs.Text.Occurrences
import RepoAtlas.Proofs.Text.Trimming

/-!
# Requirements as they are written

The parts of a requirement are told apart by where they begin: the version and what else is behind
the name begins with a character that no name has, extras are in brackets, and a marker is behind a
semicolon.  Blanks may be written between any two of them.  `parse_eq` is what reading comes to once
the name is cut off, and `versionIn_tail` takes the rest of the requirement apart.  Together they
give that **whatever blanks there are, the name and the version are read as they are written**.
-/

namespace RepoAtlas.Requirement

open List Text

variable {name rest before after blanks cs : List Char} {c : Char}

/-! ## The name and what is behind it -/

/-- The version that is written behind a name. -/
def versionIn (rest : List Char) : List Char := dropExtras (trimOf (rest.takeWhile (· != ';')))

/-- How a version is reported; any version is written `*`. -/
def versionText (version : List Char) : String :=
  if version = [] then "*" else String.ofList version

lemma endsName_of_isBlank (h : isBlank c = true) : endsName c = true := by
  rw [endsName, h, Bool.or_true]

lemma isBlank_eq_false (h : endsName c = false) : isBlank c = false :=
  (Bool.or_eq_false_iff.1 h).2

/-- A name in front of the text does not go on in it. -/
def Stops (cs : List Char) : Prop := ∀ c ∈ cs.head?, endsName c = true

lemma Stops.append (hbefore : Stops before) (hafter : Stops after) : Stops (before ++ after) := by
  intro c hc
  cases before with
  | nil => exact hafter c hc
  | cons d before => exact hbefore c hc

lemma stops_of_blank (h : ∀ c ∈ blanks, isBlank c = true) : Stops blanks :=
  fun c hc => endsName_of_isBlank (h c (mem_of_head? hc))

lemma stops_cons (h : endsName c = true) (cs : List Char) : Stops (c :: cs) := by
  rintro d hd
  obtain rfl : c = d := Option.some.inj hd
  exact h

/-- **Reading a requirement** whose name has been found. -/
lemma parse_eq {requirement : String} (hcut : trimOf requirement.toList = name ++ rest)
    (hname : ∀ c ∈ name, endsName c = false)
    (hrest : Stops rest) :
    parse requirement = ⟨String.ofList name, versionText (versionIn rest)⟩ := by
  have hstop : rest.takeWhile (!endsName ·) = [] := by
    cases rest with
    | nil => rfl
    | cons c rest => exact takeWhile_cons_of_neg (by simp [hrest c rfl])
  have htake : (name ++ rest).takeWhile (!endsName ·) = name := by
    rw [takeWhile_append_of_pos (by simpa using hname), hstop, append_nil]
  simp only [parse, hcut, htake, drop_left, versionIn, versionText]
  congr

/-- Blanks at the end of a requirement are of no consequence for its version. -/
lemma trimOf_takeWhile_trimEndOf (p : Char → Bool) (cs : List Char) :
    trimOf ((trimEndOf cs).takeWhile p) = trimOf (cs.takeWhile p) := by
  obtain ⟨blanks, hblanks, hcs⟩ := exists_eq_trimEndOf_append cs
  conv_rhs => rw [hcs, takeWhile_append]
  split_ifs with hall
  · have hwhole : (trimEndOf cs).takeWhile p = trimEndOf cs :=
      (takeWhile_sublist p).eq_of_length hall
    rw [hwhole, trimOf_append_blank]
    intro c hc
    exact hblanks c ((takeWhile_sublist p).mem hc)
  · rfl

lemma versionIn_trimEndOf (rest : List Char) : versionIn (trimEndOf rest) = versionIn rest := by
  rw [versionIn, trimOf_takeWhile_trimEndOf, versionIn]

/-! ## Extras -/

lemma dropExtras_of_head? (h : cs.head? ≠ some '[') : dropExtras cs = cs := by
  unfold dropExtras
  split
  · exact absurd rfl h
  · rfl

/-- Extras end at the first bracket that closes. -/
lemma dropExtras_brackets (h : ']' ∉ before) (after : List Char) :
    dropExtras ('[' :: (before ++ ']' :: after)) = trimOf after := by
  have hcut : ('[' :: (before ++ ']' :: after)).dropWhile (· != ']') = ']' :: after := by
    rw [dropWhile_cons_of_pos (by decide), dropWhile_append_of_pos, dropWhile_cons_of_neg (by simp)]
    intro c hc
    rw [bne_iff_ne]
    rintro rfl
    exact h hc
  rw [dropExtras, hcut]

/-! ## The parts together -/

/-- Text in brackets, if there is any. -/
def bracketed : Option String → String
  | none => ""
  | some text => "[" ++ text ++ "]"

/-- Text behind a semicolon, if there is any. -/
def behindSemicolon : Option String → String
  | none => ""
  | some text => ";" ++ text

/-- The parts of a requirement as they are written, with the blanks around them. -/
structure Spelling where
  name : String
  extras : Option String
  /-- The version, or nothing for any version. -/
  version : String
  marker : Option String
  blanksBefore : String
  blanksAfterName : String
  blanksAfterExtras : String
  blanksAfterVersion : String
  blanksAfter : String
  name_ne : name ≠ ""
  name_plain : ∀ c ∈ name.toList, endsName c = false
  extras_plain : ∀ text ∈ extras, ']' ∉ text.toList ∧ ';' ∉ text.toList
  version_begins : ∀ c ∈ version.toList.head?, c ∈ "<>=!~@".toList
  version_ends : ∀ c ∈ version.toList.getLast?, isBlank c = false
  version_plain : ';' ∉ version.toList
  blank : ∀ gap ∈ [blanksBefore, blanksAfterName, blanksAfterExtras, blanksAfterVersion,
    blanksAfter], ∀ c ∈ gap.toList, isBlank c = true

namespace Spelling

variable (r : Spelling)

/-- What is written behind the name. -/
def tail : String :=
  r.blanksAfterName ++ bracketed r.extras ++ r.blanksAfterExtras ++ r.version ++
    r.blanksAfterVersion ++ behindSemicolon r.marker ++ r.blanksAfter

def text : String := r.blanksBefore ++ r.name ++ r.tail

/-- Extras and version begin and end without blanks, and a semicolon is not in them. -/
def core : List Char :=
  (bracketed r.extras).toList ++ (r.blanksAfterExtras.toList ++ r.version.toList)

lemma trimOf_version : trimOf r.version.toList = r.version.toList := by
  refine trimOf_eq_self_of_ends ?_ r.version_ends
  intro c hc
  have hall : ∀ d ∈ "<>=!~@".toList, isBlank d = false := by simp [isBlank]
  exact hall c (r.version_begins c hc)

/-- The version is what is left of a requirement without name, marker and extras. -/
lemma dropExtras_core : dropExtras (trimOf r.core) = r.version.toList := by
  have hblanks : ∀ c ∈ r.blanksAfterExtras.toList, isBlank c = true := r.blank _ (by simp)
  cases hextras : r.extras with
  | none =>
      have hhead : r.version.toList.head? ≠ some '[' := by
        intro hbracket
        exact absurd (r.version_begins '[' hbracket) (by decide)
      rw [core, hextras, bracketed, String.toList_empty, nil_append, trimOf_blank_append hblanks,
        r.trimOf_version, dropExtras_of_head? hhead]
  | some text =>
      have hbracketed : (bracketed (some text)).toList ++
          (r.blanksAfterExtras.toList ++ r.version.toList) =
            '[' :: (text.toList ++ ']' :: (r.blanksAfterExtras.toList ++ r.version.toList)) := by
        simp [bracketed, String.toList_append]
      rw [core, hextras, hbracketed, trimOf_cons (by decide), trimEndOf_append_cons (by decide),
        dropExtras_brackets (r.extras_plain text hextras).1, trimOf_trimEndOf,
        trimOf_blank_append hblanks, r.trimOf_version]

lemma semicolon_notMem_core : ';' ∉ r.core := by
  have hgap : ';' ∉ r.blanksAfterExtras.toList :=
    notMem_of_isBlank (r.blank _ (by simp)) (by decide)
  have hextras : ';' ∉ (bracketed r.extras).toList := by
    cases hextras : r.extras with
    | none => simp [bracketed]
    | some text => simp [bracketed, String.toList_append, (r.extras_plain text hextras).2]
  simp only [core, mem_append, not_or]
  exact ⟨hextras, hgap, r.version_plain⟩

/-- **The version is read off what is behind the name.** -/
lemma versionIn_tail : versionIn r.tail.toList = r.version.toList := by
  have hname : ∀ c ∈ r.blanksAfterName.toList, isBlank c = true := r.blank _ (by simp)
  have hversion : ∀ c ∈ r.blanksAfterVersion.toList, isBlank c = true := r.blank _ (by simp)
  have hafter : ∀ c ∈ r.blanksAfter.toList, isBlank c = true := r.blank _ (by simp)
  -- what a marker leaves of the text behind the version
  have hend : ∀ c ∈ ((behindSemicolon r.marker).toList ++ r.blanksAfter.toList).takeWhile
      (· != ';'), isBlank c = true := by
    cases r.marker with
    | none => exact fun c hc => hafter c ((takeWhile_sublist _).mem hc)
    | some text =>
        intro c hc
        simp [behindSemicolon, String.toList_append] at hc
  have htail : r.tail.toList = (r.blanksAfterName.toList ++ (r.core ++
      r.blanksAfterVersion.toList)) ++
        ((behindSemicolon r.marker).toList ++ r.blanksAfter.toList) := by
    simp only [tail, core, String.toList_append, append_assoc]
  have hplain : ';' ∉ r.blanksAfterName.toList ++ (r.core ++ r.blanksAfterVersion.toList) := by
    simp only [mem_append, not_or]
    exact ⟨notMem_of_isBlank hname (by decide), r.semicolon_notMem_core,
      notMem_of_isBlank hversion (by decide)⟩
  rw [versionIn, htail, takeWhile_bne_append_of_notMem hplain, trimOf_append_blank hend,
    trimOf_blank_append hname, trimOf_append_blank hversion, dropExtras_core]

lemma stops_tail : Stops r.tail.toList := by
  have hblank : ∀ gap ∈ [r.blanksBefore, r.blanksAfterName, r.blanksAfterExtras,
      r.blanksAfterVersion, r.blanksAfter], Stops gap.toList :=
    fun gap hgap => stops_of_blank (r.blank gap hgap)
  have hextras : Stops (bracketed r.extras).toList := by
    cases r.extras with
    | none => exact stops_of_blank (by simp [bracketed])
    | some text =>
        simp only [bracketed, String.toList_append, append_assoc]
        exact stops_cons (by decide) _
  have hversion : Stops r.version.toList := by
    have hall : ∀ c ∈ "<>=!~@".toList, endsName c = true := by simp [endsName]
    exact fun c hc => hall c (r.version_begins c hc)
  have hmarker : Stops (behindSemicolon r.marker).toList := by
    cases r.marker with
    | none => exact stops_of_blank (by simp [behindSemicolon])
    | some text =>
        simp only [behindSemicolon, String.toList_append]
        exact stops_cons (by decide) _
  simp only [tail, String.toList_append]
  exact ((((((hblank _ (by simp)).append hextras).append (hblank _ (by simp))).append
    hversion).append (hblank _ (by simp))).append hmarker).append (hblank _ (by simp))

/-- The name stays in front of what is left when a requirement is trimmed. -/
lemma trimOf_text : trimOf r.text.toList = r.name.toList ++ trimEndOf r.tail.toList := by
  have hbefore : ∀ c ∈ r.blanksBefore.toList, isBlank c = true := r.blank _ (by simp)
  have hname : r.name.toList ≠ [] := fun hnil => r.name_ne (String.toList_eq_nil_iff.1 hnil)
  simp only [text, String.toList_append, append_assoc]
  rw [trimOf_blank_append hbefore, trimOf_append_of_forall hname]
  exact fun c hc => isBlank_eq_false (r.name_plain c hc)

end Spelling

/-- **Name and version are read as they are written**, wherever blanks stand around the parts of a
requirement and whether or not there are extras and a marker. -/
theorem spelled_requirements_are_read (r : Spelling) :
    parse r.text = ⟨r.name, if r.version = "" then "*" else r.version⟩ := by
  have hstops : Stops (trimEndOf r.tail.toList) := by
    intro c hc
    obtain ⟨more, hmore⟩ := head?_eq_some_iff.1 hc
    obtain ⟨blanks, -, htail⟩ := exists_eq_trimEndOf_append r.tail.toList
    refine r.stops_tail c ?_
    rw [htail, hmore]
    rfl
  rw [parse_eq r.trimOf_text r.name_plain hstops, versionIn_trimEndOf, r.versionIn_tail,
    versionText, String.ofList_toList, String.ofList_toList]
  simp only [String.toList_eq_nil_iff]

/-- A requirement with all its parts. -/
def serverRequirement : Spelling where
  name := "uvicorn"
  extras := some "standard"
  version := ">=0.20,<1"
  marker := some " python_version > '3.8' "
  blanksBefore := " "
  blanksAfterName := "\t"
  blanksAfterExtras := ""
  blanksAfterVersion := " "
  blanksAfter := ""
  name_ne := by decide
  name_plain := by simp [endsName, isBlank]
  extras_plain := by simp
  version_begins := by simp
  version_ends := by simp [isBlank]
  version_plain := by decide
  blank := by simp [isBlank]

theorem serverRequirement_is_read :
    parse " uvicorn\t[standard]>=0.20,<1 ; python_version > '3.8' " =
      ⟨"uvicorn", ">=0.20,<1"⟩ :=
  spelled_requirements_are_read serverRequirement

end RepoAtlas.Requirement
