import RepoAtlas.Path
import Mathlib.Data.List.Infix
import Mathlib.Data.List.TakeWhile
import Mathlib.Tactic.Lemma
import Mathlib.Tactic.SplitIfs

/-!
# Cutting and joining

Names without a separator are the pieces of the text they are joined to (`segments_joined`), so a
path is as good as the list of its names.  Cutting is a homomorphism: a text with a separator in it
falls into the pieces of its two sides (`segments_append_slash`).

The directory of a path is what is left of the list without its last name (`parent_eq`), provided
that no name of a directory is empty; several slashes in a row count as one when a directory is cut
off, and then the two readings of a path differ.
-/

namespace RepoAtlas

open List

/-! ## Texts -/

namespace Text

variable {separator : Char} {s part : String} {parts more : List String}

/-- **What was joined is cut again** where it was joined. -/
lemma segments_joined (hparts : ∀ part ∈ parts, separator ∉ part.toList) (hsome : parts ≠ []) :
    segments separator (joined (String.singleton separator) parts) = parts := by
  have hchars : ∀ chars ∈ parts.map String.toList, separator ∉ chars := by
    simpa using hparts
  have hcut := splitOn_intercalate separator hchars (by simpa using hsome)
  simp only [segments, joined, String.toList_ofList, String.toList_singleton, hcut, map_map]
  simp

/-- No piece holds what was cut at. -/
lemma not_mem_of_mem_splitOn {cs piece : List Char} (h : piece ∈ cs.splitOn separator) :
    separator ∉ piece := by
  induction cs generalizing piece with
  | nil => simp_all
  | cons c cs ih =>
      rw [splitOn_cons_eq_if_modifyHead] at h
      obtain ⟨first, others, hsplit⟩ := exists_cons_of_ne_nil (splitOn_ne_nil separator cs)
      rw [hsplit] at h ih
      split_ifs at h with hc
      · rcases mem_cons.1 h with rfl | hrest
        · exact not_mem_nil
        · exact ih hrest
      · rcases mem_cons.1 h with rfl | hrest
        · have hfirst : separator ∉ first := ih mem_cons_self
          have hne : separator ≠ c := fun heq => hc (by rw [heq, beq_self_eq_true])
          exact fun hmem => (mem_cons.1 hmem).elim hne hfirst
        · exact ih (mem_cons_of_mem _ hrest)

lemma not_mem_of_mem_segments (h : part ∈ segments separator s) : separator ∉ part.toList := by
  obtain ⟨piece, hpiece, rfl⟩ := mem_map.1 h
  rw [String.toList_ofList]
  exact not_mem_of_mem_splitOn hpiece

@[simp] lemma joined_nil (glue : String) : joined glue [] = "" := rfl

@[simp] lemma joined_singleton (glue : String) : joined glue [part] = part := by
  simp [joined]

lemma joined_cons (glue : String) (hmore : more ≠ []) :
    joined glue (part :: more) = part ++ glue ++ joined glue more := by
  rw [← String.toList_inj]
  simp [joined, intercalate_cons_of_ne_nil, hmore]

lemma joined_append (glue : String) (hparts : parts ≠ []) (hmore : more ≠ []) :
    joined glue (parts ++ more) = joined glue parts ++ glue ++ joined glue more := by
  induction parts with
  | nil => exact absurd rfl hparts
  | cons part rest ih =>
      rcases eq_or_ne rest [] with rfl | hrest
      · rw [singleton_append, joined_cons glue hmore, joined_singleton]
      · rw [cons_append, joined_cons glue (by simp [hmore]), ih hrest, joined_cons glue hrest]
        simp only [String.append_assoc]

/-- Names that are not empty are joined to something. -/
lemma joined_eq_empty_iff {glue : String} (hparts : ∀ part ∈ parts, part ≠ "") :
    joined glue parts = "" ↔ parts = [] := by
  constructor
  · intro h
    cases parts with
    | nil => rfl
    | cons part rest =>
        refine absurd ?_ (hparts part mem_cons_self)
        rcases eq_or_ne rest [] with rfl | hrest
        · rwa [joined_singleton] at h
        · rw [joined_cons glue hrest, String.append_assoc] at h
          exact (String.append_eq_empty_iff.1 h).1
  · rintro rfl
    rfl

end Text

/-! ## Paths -/

namespace Path

/-- What paths without empty names are joined from. -/
def IsSegment (name : String) : Prop := name ≠ "" ∧ '/' ∉ name.toList

instance : DecidablePred IsSegment := fun _ => inferInstanceAs (Decidable (_ ∧ _))

variable {before path name relative : String} {directory names : List String}

lemma segments_append_slash (before after : String) : Text.segments '/' (before ++ "/" ++ after) =
    Text.segments '/' before ++ Text.segments '/' after := by
  simp only [Text.segments, String.toList_append, append_assoc, ← map_append]
  exact congrArg (map String.ofList) (splitOn_append_cons_self before.toList after.toList)

/-- The names of a path are those that it was joined from. -/
lemma segments_joined (hnames : ∀ name ∈ names, '/' ∉ name.toList) (hsome : names ≠ []) :
    Text.segments '/' (Text.joined "/" names) = names :=
  Text.segments_joined hnames hsome

lemma segments_eq_singleton (h : '/' ∉ name.toList) : Text.segments '/' name = [name] := by
  simp [Text.segments, splitOn_eq_singleton h]

/-- A path is joined from its names. -/
lemma joined_segments (path : String) : Text.joined "/" (Text.segments '/' path) = path :=
  Text.joined_segments '/' path

/-- What stands before the last slash, if it is something and does not end in a slash itself. -/
lemma parent_append_slash (hsome : before ≠ "") (hbefore : before.toList.getLast? ≠ some '/')
    (hname : '/' ∉ name.toList) : parent (before ++ "/" ++ name) = before := by
  have hchars : (before ++ "/" ++ name).toList.reverse =
      name.toList.reverse ++ '/' :: before.toList.reverse := by
    simp
  have hslash : (before ++ "/" ++ name).toList.reverse.dropWhile (· != '/') =
      '/' :: before.toList.reverse := by
    rw [hchars, dropWhile_append_of_pos]
    · exact dropWhile_cons_of_neg (by simp)
    · intro c hc
      have hne : c ≠ '/' := ne_of_mem_of_not_mem (mem_reverse.1 hc) hname
      simpa using hne
  have htrimmed : ('/' :: before.toList.reverse).dropWhile (· == '/') = before.toList.reverse := by
    rw [dropWhile_cons_of_pos (by simp)]
    rw [← head?_reverse] at hbefore
    cases hreverse : before.toList.reverse with
    | nil => rfl
    | cons c cs =>
        rw [hreverse] at hbefore
        exact dropWhile_cons_of_neg (by simpa using hbefore)
  simp only [parent, hslash, htrimmed]
  simp [hsome]

lemma parent_of_not_mem (h : '/' ∉ name.toList) : parent name = "" := by
  have hslash : name.toList.reverse.dropWhile (· != '/') = [] := by
    rw [dropWhile_eq_nil_iff]
    intro c hc
    have hne : c ≠ '/' := ne_of_mem_of_not_mem (mem_reverse.1 hc) h
    simpa using hne
  simp only [parent, hslash]
  rfl

/-- The last character of joined names is that of the last name. -/
lemma getLast?_joined_concat (names : List String) (hname : name ≠ "") :
    (Text.joined "/" (names ++ [name])).toList.getLast? = name.toList.getLast? := by
  have hsome : name.toList ≠ [] := by simpa using hname
  rcases eq_or_ne names [] with rfl | hnames
  · rw [nil_append, Text.joined_singleton]
  · rw [Text.joined_append "/" hnames (by simp), Text.joined_singleton, String.toList_append,
      getLast?_append_of_ne_nil _ hsome]

/-- **A directory is cut off with the last name.** -/
lemma parent_joined (hdirectory : ∀ name ∈ directory, IsSegment name)
    (hname : '/' ∉ name.toList) :
    parent (Text.joined "/" (directory ++ [name])) = Text.joined "/" directory := by
  rcases eq_nil_or_concat' directory with rfl | ⟨above, last, rfl⟩
  · rw [nil_append, Text.joined_singleton, parent_of_not_mem hname, Text.joined_nil]
  · rw [Text.joined_append "/" (by simp) (by simp), Text.joined_singleton]
    have hlast := hdirectory last (by simp)
    refine parent_append_slash ?_ ?_ hname
    · rw [Ne, Text.joined_eq_empty_iff fun part hpart => (hdirectory part hpart).1]
      simp
    · rw [getLast?_joined_concat above hlast.1]
      intro hslash
      exact hlast.2 (mem_of_getLast? hslash)

/-- The names of a directory are those of the path without the last one. -/
lemma exists_segments_eq (path : String) :
    ∃ name, '/' ∉ name.toList ∧ Text.segments '/' path = directorySegments path ++ [name] := by
  have hsome := Text.segments_ne_nil '/' path
  refine ⟨(Text.segments '/' path).getLast hsome, ?_, (dropLast_concat_getLast hsome).symm⟩
  exact Text.not_mem_of_mem_segments (getLast_mem hsome)

lemma isSegment_of_directory (h : ∀ name ∈ directorySegments path, name ≠ "") :
    ∀ name ∈ directorySegments path, IsSegment name :=
  fun name hname => ⟨h name hname, Text.not_mem_of_mem_segments (mem_of_mem_dropLast hname)⟩

/-- **The directory of a path**, if no name in it is empty. -/
lemma parent_eq (h : ∀ name ∈ directorySegments path, name ≠ "") :
    parent path = Text.joined "/" (directorySegments path) := by
  obtain ⟨name, hname, hpath⟩ := exists_segments_eq path
  calc parent path = parent (Text.joined "/" (directorySegments path ++ [name])) := by
        rw [← hpath, joined_segments]
    _ = Text.joined "/" (directorySegments path) :=
        parent_joined (isSegment_of_directory h) hname

/-! ### Slashes at the ends -/

lemma startsWith_append_slash (name path : String) : Text.startsWith (name ++ "/") path = true ↔
    ∃ rest, path = name ++ "/" ++ rest := by
  rw [Text.startsWith, isPrefixOf_iff_prefix]
  constructor
  · rintro ⟨rest, hrest⟩
    refine ⟨String.ofList rest, String.toList_inj.1 ?_⟩
    rw [String.toList_append, String.toList_ofList, hrest]
  · rintro ⟨rest, rfl⟩
    exact ⟨rest.toList, (String.toList_append ..).symm⟩

/-- A path whose first name is not empty is relative. -/
lemma startsWith_slash_of_head? (h : (Text.segments '/' path).head? ≠ some "") :
    Text.startsWith "/" path = false := by
  rw [Bool.eq_false_iff]
  intro hstart
  obtain ⟨rest, rfl⟩ := (startsWith_append_slash "" path).1 hstart
  have hempty : Text.segments '/' "" = [""] := by decide +kernel
  rw [segments_append_slash, hempty] at h
  exact h rfl

lemma join_empty (h : Text.startsWith "/" relative = false) : join "" relative = relative := by
  simp [join, h]

/-- A path is joined to a directory with one slash between them. -/
lemma join_joined (hdirectory : ∀ name ∈ directory, IsSegment name)
    (hsome : directory ≠ []) (hrelative : Text.startsWith "/" relative = false) :
    join (Text.joined "/" directory) relative = Text.joined "/" directory ++ "/" ++ relative := by
  have hne : Text.joined "/" directory ≠ "" := by
    rw [Ne, Text.joined_eq_empty_iff fun name hname => (hdirectory name hname).1]
    exact hsome
  have hend : Text.endsWith "/" (Text.joined "/" directory) = false := by
    rw [Bool.eq_false_iff]
    intro hslash
    obtain ⟨above, last, rfl⟩ := (eq_nil_or_concat' directory).resolve_left hsome
    have hlast := hdirectory last (by simp)
    have hchar := getLast?_joined_concat above hlast.1
    obtain ⟨before, hbefore⟩ := isSuffixOf_iff_suffix.1 hslash
    rw [← hbefore] at hchar
    have hmem : '/' ∈ last.toList := mem_of_getLast? (hchar.symm.trans (by simp))
    exact hlast.2 hmem
  simp [join, hrelative, hne, hend]

end Path

end RepoAtlas
