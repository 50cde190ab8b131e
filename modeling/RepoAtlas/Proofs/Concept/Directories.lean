import RepoAtlas.Concept.Surroundings
import RepoAtlas.Proofs.Data.Ascending
import RepoAtlas.Proofs.Data.Entries
import RepoAtlas.Proofs.Path.Segments
import RepoAtlas.Proofs.Text.Occurrences

/-!
# Directories and what lies in them

Rules know a directory by its path and look for modules below it by their paths: what begins with
the directory and a slash.  The directories themselves are found the other way round, by cutting the
paths of modules at slashes.  `mem_directories_iff` says that the two agree: **a directory is there
exactly if a module is below it.**

A directory inside another one has a name, and it is the only one there that has the name
(`mem_orderedChildren`).  Since no name has a slash in it, a path leads through at most one of them
(`LiesIn.name_eq`).
-/

namespace RepoAtlas

open List

namespace Surroundings

variable {here : Surroundings} {directory parent name other path : String}

/-! ## Directories above a path -/

/-- **A directory is above a path that begins with it**, up to a slash. -/
lemma mem_directoriesAbove_iff (hsome : directory ≠ "") (htop : directory ≠ top) :
    directory ∈ directoriesAbove path ↔ Text.startsWith (directory ++ "/") path = true := by
  rw [directoriesAbove, mem_map, Path.startsWith_append_slash]
  constructor
  · rintro ⟨depth, -, rfl⟩
    obtain ⟨last, -, hpath⟩ := Path.exists_segments_eq path
    rw [← take_append_drop depth (Path.directorySegments path), append_assoc] at hpath
    have hnames : (Path.directorySegments path).take depth ≠ [] := by
      intro hnil
      rw [hnil] at htop
      exact htop rfl
    have hname : Text.joined "/" ((Path.directorySegments path).take depth) ≠ "" := by
      intro hnil
      rw [hnil] at htop
      exact htop rfl
    refine ⟨Text.joined "/" ((Path.directorySegments path).drop depth ++ [last]), ?_⟩
    rw [directoryName, if_neg hname, ← Text.joined_append "/" hnames (by simp), ← hpath,
      Path.joined_segments]
  · rintro ⟨rest, rfl⟩
    have hsegments : Path.directorySegments (directory ++ "/" ++ rest) =
        Text.segments '/' directory ++ (Text.segments '/' rest).dropLast := by
      rw [Path.directorySegments, Path.segments_append_slash,
        dropLast_append_of_ne_nil (Text.segments_ne_nil '/' rest)]
    refine ⟨(Text.segments '/' directory).length, ?_, ?_⟩
    · rw [hsegments, mem_range, length_append]
      omega
    · rw [hsegments, take_left, Path.joined_segments, directoryName, if_neg hsome]

lemma mem_directories : directory ∈ here.directories ↔
    ∃ module ∈ here.modules, directory ∈ directoriesAbove module.path := by
  rw [directories, Naming.mem_ascending, mem_flatMap]

lemma nodup_directories : here.directories.Nodup := by
  simpa [directories] using (ascending_names _).nodup_keys

/-- **A directory is there if a module is below it.** -/
lemma mem_directories_iff (hsome : directory ≠ "") (htop : directory ≠ top) :
    directory ∈ here.directories ↔
      ∃ module ∈ here.modules, Text.startsWith (directory ++ "/") module.path = true := by
  simp only [mem_directories, mem_directoriesAbove_iff hsome htop]

/-! ## Directories in a directory -/

lemma childName?_eq_some_iff : childName? parent directory = some name ↔
    directory ≠ top ∧ directory = pathStart parent ++ name ∧ Path.IsSegment name := by
  rw [childName?, Option.ite_none_left_eq_some, Option.filter_eq_some_iff,
    Text.dropStart?_eq_some_iff]
  simp [Path.IsSegment]

/-- A directory inside another one is known by its name. -/
lemma mem_childDirectories : (name, path) ∈ here.childDirectories parent ↔
    path ∈ here.directories ∧ childName? parent path = some name := by
  have hdistinct : Entries.KeysDistinct (here.directories.filterMap fun directory =>
      (childName? parent directory).map (·, directory)) := by
    rw [Entries.KeysDistinct, map_filterMap]
    simp only [Option.map_map, Function.comp_def, Option.map_id']
    refine nodup_directories.filterMap fun directory other name hdirectory hother => ?_
    rw [(childName?_eq_some_iff.1 hdirectory).2.1, (childName?_eq_some_iff.1 hother).2.1]
  rw [childDirectories, Entries.ofPairs_eq_self hdistinct]
  simp

lemma mem_orderedChildren : (name, path) ∈ here.orderedChildren parent ↔
    path ∈ here.directories ∧ childName? parent path = some name :=
  (mergeSort_perm _ _).mem_iff.trans mem_childDirectories

lemma path_eq_of_mem_orderedChildren (h : (name, path) ∈ here.orderedChildren parent) :
    path = pathStart parent ++ name :=
  (childName?_eq_some_iff.1 (mem_orderedChildren.1 h).2).2.1

lemma ascending_orderedChildren (here : Surroundings) (parent : String) :
    Ascending (·.1) (here.orderedChildren parent) :=
  ascending_byKey (Entries.keysDistinct_ofPairs _)

/-! ## What lies in a directory -/

/-- The path leads through the directory of some name in a directory. -/
def LiesIn (directory name path : String) : Prop :=
  Text.startsWith (pathStart directory ++ name ++ "/") path = true

instance (directory name path : String) : Decidable (LiesIn directory name path) :=
  inferInstanceAs (Decidable (_ = true))

/-- A directory in a directory is there if a path leads through it. -/
lemma child_mem_directories_iff (hname : name ≠ "") (htop : pathStart parent ++ name ≠ top) :
    pathStart parent ++ name ∈ here.directories ↔
      ∃ module ∈ here.modules, LiesIn parent name module.path :=
  mem_directories_iff (fun hnone => hname (String.append_eq_empty_iff.1 hnone).2) htop

/-- **A path leads through one directory at most.** -/
lemma LiesIn.name_eq (h : LiesIn directory name path) (h' : LiesIn directory other path)
    (hname : '/' ∉ name.toList) (hother : '/' ∉ other.toList) : name = other := by
  obtain ⟨rest, rfl⟩ := (Path.startsWith_append_slash _ _).1 h
  obtain ⟨rest', hsame⟩ := (Path.startsWith_append_slash _ _).1 h'
  simp only [String.append_assoc, String.append_right_inj] at hsame
  simp only [← String.append_assoc] at hsame
  have hsegments := congrArg (Text.segments '/') hsame
  rw [Path.segments_append_slash, Path.segments_append_slash, Path.segments_eq_singleton hname,
    Path.segments_eq_singleton hother] at hsegments
  exact (cons.inj hsegments).1

end Surroundings

end RepoAtlas
