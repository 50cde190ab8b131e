import RepoAtlas.Proofs.Data.Ascending
import RepoAtlas.Proofs.Inventory.Intake
import RepoAtlas.Proofs.Repository.Walk

/-!
# Which snapshots are accepted

A run checks the files that it is handed, and a snapshot hands over the files of a directory.  The
two agree on everything but one character.  A backslash is a letter like any other in a name, but a
path with one is refused, since elsewhere it separates directories; so one such name ends the run.

Paths of a walk are plain and occur once, and `Intake.checkFrom_offered` says what becomes of files
with such paths.  Neither the order nor the limit matters to this (`Snapshot.paths_split_sublist`),
and a snapshot is taken of a legal tree because following a path leads to a part of the disk
(`Disk.isLegal_directoryAt`).
-/

namespace RepoAtlas

open List

/-! ## Handing over files -/

namespace SourceFile

def hasBackslash (file : SourceFile) : Bool := file.path.toList.contains '\\'

end SourceFile

section PlainPaths

variable {path : String}

lemma IsPlainPath.not_startsWith_slash (h : IsPlainPath path) :
    Text.startsWith "/" path = false := by
  rw [Bool.eq_false_iff]
  intro hslash
  obtain ⟨rest, hrest⟩ := isPrefixOf_iff_prefix.1 hslash
  have hsplit : Text.segments '/' path = "" :: (rest.splitOn '/').map String.ofList := by
    rw [Text.segments, ← hrest]
    exact congrArg (map String.ofList) (splitOn_append_cons_self [] rest)
  have hempty := h.2 "" (by rw [hsplit]; exact mem_cons_self)
  exact hempty.1 mem_cons_self

lemma IsPlainPath.not_any_isOddSegment (h : IsPlainPath path) :
    (Text.segments '/' path).any Intake.isOddSegment = false := by
  rw [any_eq_false]
  intro name hname
  simpa [Intake.isOddSegment, and_assoc] using (h.2 name hname).1

end PlainPaths

namespace Intake

variable {file : SourceFile} {files : List SourceFile} {seen : List String}

/-- **Of a plain path nothing but backslashes is refused.** -/
lemma checkFile_offered (hpath : IsPlainPath file.path) (hnew : file.path ∉ seen) (position : ℕ) :
    checkFile position seen file.offered =
      if file.hasBackslash then .error (.notRelative file.path) else .ok file := by
  have hunseen : seen.contains file.path = false := by simpa using hnew
  by_cases hback : file.hasBackslash = true
  · have hcontains : file.path.toList.contains '\\' = true := hback
    simp only [checkFile, SourceFile.offered, if_neg hpath.1, checkPath,
      hpath.not_startsWith_slash, hcontains, hback, Bool.false_or, if_true]
    rfl
  · rw [Bool.not_eq_true] at hback
    have hcontains : file.path.toList.contains '\\' = false := hback
    have hsize : ¬ (file.bytes.length : Int) < 0 := by omega
    simp only [checkFile, SourceFile.offered, if_neg hpath.1, checkPath, hpath.not_startsWith_slash,
      hpath.not_any_isOddSegment, hcontains, hback, hunseen, checkSize, if_neg hsize,
      Bool.or_self, Bool.false_eq_true, if_false, if_true]
    rfl

lemma checkFrom_offered (hpaths : ∀ file ∈ files, IsPlainPath file.path)
    (hdistinct : (files.map (·.path)).Nodup) (hnew : ∀ file ∈ files, file.path ∉ seen)
    (position : ℕ) :
    checkFrom position seen (files.map SourceFile.offered) =
      match files.find? SourceFile.hasBackslash with
      | none => .ok files
      | some file => .error (.notRelative file.path) := by
  induction files generalizing position seen with
  | nil => rfl
  | cons file rest ih =>
      rw [map_cons, nodup_cons] at hdistinct
      rw [forall_mem_cons] at hpaths hnew
      have hnew' : ∀ other ∈ rest, other.path ∉ file.path :: seen := by
        intro other hother hmem
        rcases mem_cons.1 hmem with heq | hseen
        · exact hdistinct.1 (heq ▸ mem_map_of_mem hother)
        · exact hnew.2 other hother hseen
      rw [map_cons, checkFrom, checkFile_offered hpaths.1 hnew.1, find?_cons]
      cases hback : file.hasBackslash with
      | true => rfl
      | false =>
          have hrest := ih hpaths.2 hdistinct.2 hnew' (position + 1)
          simp only [Bool.false_eq_true, if_false, bind, Except.bind, hrest]
          cases rest.find? SourceFile.hasBackslash <;> rfl

end Intake

/-! ## Snapshots -/

namespace Snapshot

variable {limit : Int} {current : List Skipped → String → List UInt8 → List UInt8}
  {skipped : List Skipped} {walk : List (String × List UInt8)} {files : List SourceFile}

/-- **Splitting a walk leaves files out**, and whatever the others hold by now, it keeps their
paths. -/
lemma paths_split_sublist (limit : Int)
    (current : List Skipped → String → List UInt8 → List UInt8) (skipped : List Skipped)
    (walk : List (String × List UInt8)) :
    ((split limit current skipped walk).1.map (·.path)).Sublist (walk.map (·.1)) := by
  induction walk generalizing skipped with
  | nil => exact Sublist.slnil
  | cons entry rest ih =>
      obtain ⟨path, bytes⟩ := entry
      simp only [split]
      split_ifs
      · exact (ih _).cons path
      · exact (ih _).cons_cons path

/-- What becomes of the files of a walk with plain paths. -/
lemma accept_ofSplit (skipped : List Skipped) (hdistinct : (files.map (·.path)).Nodup)
    (hplain : ∀ path ∈ files.map (·.path), IsPlainPath path) :
    SourceFile.accept ((ofSplit files skipped).files.map SourceFile.offered) =
      match (ofSplit files skipped).files.find? SourceFile.hasBackslash with
      | none => .ok (ofSplit files skipped).files
      | some file => .error (.notRelative file.path) := by
  have hperm : (ofSplit files skipped).files.Perm files := mergeSort_perm files _
  refine Intake.checkFrom_offered (fun file hfile => ?_) ?_ (fun _ _ => not_mem_nil) 0
  · exact hplain _ (mem_map_of_mem (hperm.mem_iff.1 hfile))
  · exact (hperm.map _).nodup_iff.2 hdistinct

/-- The manifests of a snapshot are among its files. -/
lemma manifests_ofSplit_subset (skipped : List Skipped) :
    (ofSplit files skipped).manifests.map (·.1) ⊆ (ofSplit files skipped).files.map (·.path) := by
  intro path hpath
  have hperm : (ofSplit files skipped).files.Perm files := mergeSort_perm files _
  obtain ⟨_, hmanifest, rfl⟩ := mem_map.1 hpath
  obtain ⟨file, hfile, rfl⟩ := mem_map.1 hmanifest
  exact mem_map_of_mem (hperm.mem_iff.2 (mem_of_mem_filter hfile))

end Snapshot

/-! ## Directories of a disk -/

namespace Disk

variable {disk : Disk} {path directory : String} {node : DiskNode}

/-- **Following a path leads into the tree.** -/
lemma get?_of_locateFrom {root : DiskNode} {links : ℕ} {above names : List String}
    {location : Location} (h : locateFrom root path links above names = .ok location)
    (hnode : location.node? = some node) : ∃ names, root.get? names = some node := by
  fun_induction locateFrom root path links above names with
  | case1 links above =>
      cases h
      exact ⟨above, hnode⟩
  | case2 links above name rest hidle ih => exact ih h
  | case3 links above rest hidle hdirectory ih => exact ih h
  | case4 => cases h
  | case5 above name rest hidle hdirectory hname target hlink links ih => exact ih h
  | case6 links above name rest hidle hdirectory hname other hother hlink ih => exact ih h
  | case7 =>
      cases h
      cases hnode
  | case8 => cases h
  | case9 => cases h

lemma isLegal_find? (hlegal : disk.root.IsLegal) (h : disk.find? path = some node) :
    node.IsLegal := by
  unfold find? at h
  split at h
  · rename_i location hlocate
    obtain ⟨names, hnames⟩ := get?_of_locateFrom hlocate h
    exact hlegal.get? hnames
  · cases h

lemma isLegal_directoryAt (hlegal : disk.root.IsLegal)
    (h : disk.directoryAt path = .ok (directory, node)) : node.IsLegal := by
  unfold directoryAt at h
  split at h
  · cases h
  · split at h
    · cases h
    · rename_i found hfound
      split_ifs at h
      cases h
      exact isLegal_find? hlegal hfound

lemma isLegal_survey {readYaml : Yaml.Reader} {patterns : List String} {survey : Survey}
    (hlegal : disk.root.IsLegal) (h : disk.survey readYaml path patterns = .ok survey) :
    survey.node.IsLegal := by
  obtain ⟨⟨directory, node⟩, hdirectory, h⟩ := bind_eq_ok.1 h
  have hnode := isLegal_directoryAt hlegal hdirectory
  simp only at h
  split at h
  · cases h
  · split at h
    · cases h
      exact hnode
    · cases h
    · split_ifs at h
      cases h
      exact hnode

/-- **Snapshots of a legal disk are accepted unless a path has a backslash in it**, and their
manifests are among their files.  The first path with a backslash is what is complained of. -/
theorem snapshots_accepted_without_backslashes (readYaml : Yaml.Reader) (disk : Disk)
    (path : String) (patterns : List String) (limit : Int) {snapshot : Snapshot}
    (hlegal : disk.root.IsLegal) (h : disk.snapshot readYaml path patterns limit = .ok snapshot) :
    (SourceFile.accept (snapshot.files.map SourceFile.offered) =
      match snapshot.files.find? SourceFile.hasBackslash with
      | none => .ok snapshot.files
      | some file => .error (.notRelative file.path)) ∧
    snapshot.manifests.map (·.1) ⊆ snapshot.files.map (·.path) := by
  obtain ⟨survey, hsurvey, h⟩ := bind_eq_ok.1 h
  cases h
  have hnode := isLegal_survey hlegal hsurvey
  have hsublist := Snapshot.paths_split_sublist limit (fun _ _ bytes => bytes) []
    (survey.node.filesBelow survey.rules)
  refine ⟨Snapshot.accept_ofSplit _ ?_ fun path hpath => ?_, Snapshot.manifests_ofSplit_subset _⟩
  · exact (DiskNode.nodup_paths_filesBelow hnode survey.rules).sublist hsublist
  · exact DiskNode.isPlainPath_of_mem_filesBelow hnode (hsublist.subset hpath)

/-! ### A directory seen from inside -/

section Bare

variable {entries : List (String × DiskNode)} {name : String} {readYaml : Yaml.Reader}

lemma directoryAt_top :
    directoryAt ⟨.directory entries, []⟩ "." = .ok ("/", .directory entries) := by
  have hstart : startOf [] "." = [] ∧ startOf [] "/" = [] := by decide +kernel
  have hhere : Text.segments '/' "." = ["."] := by decide +kernel
  have htop : Text.segments '/' "/" = ["", ""] := by decide +kernel
  have habsolute : absolute [] = "/" := by decide +kernel
  have hresolve : resolve ⟨.directory entries, []⟩ "." = .ok [] := by
    simp [resolve, hstart.1, hhere, resolveFrom, isIdle]
  have hfind : find? ⟨.directory entries, []⟩ "/" = some (.directory entries) := by
    simp [find?, locate, hstart.2, htop, locateFrom, isIdle, DiskNode.get?]
  simp only [directoryAt, hresolve, habsolute, hfind]
  rfl

/-- What a directory has no entry for is not found in it, and its path leads to where one
would be. -/
lemma find?_resolve_of_lookup_eq_none (path : String) (h : entries.lookup name = none)
    (hname : isIdle name = false ∧ name ≠ "..")
    (hpath : Text.startsWith "/" path = true ∧ Text.segments '/' path = ["", name]) :
    find? ⟨.directory entries, []⟩ path = none ∧
      resolve ⟨.directory entries, []⟩ path = .ok [name] := by
  have hempty : isIdle "" = true := rfl
  constructor
  · simp [find?, locate, startOf, hpath, locateFrom, hempty, hname, DiskNode.get?,
      DiskNode.isDirectory, h]
  · simp [resolve, startOf, hpath, resolveFrom, hempty, hname, DiskNode.get?, h]

/-- A directory without a file for them has the settings that everything has by default. -/
lemma configuration_of_bare (hsettings : entries.lookup Settings.fileName = none) :
    configuration readYaml ⟨.directory entries, []⟩ (Path.join "/" Settings.fileName) =
      .ok .default := by
  obtain ⟨hfile, hplace⟩ := find?_resolve_of_lookup_eq_none (Path.join "/" Settings.fileName)
    hsettings (by decide +kernel) (by decide +kernel)
  have habsolute : absolute [Settings.fileName] = Path.join "/" Settings.fileName := by
    decide +kernel
  simp only [configuration, isDirectory, hfile, Option.any_none, Bool.false_eq_true, if_false,
    hplace, habsolute, Option.isSome_none]
  rfl

/-- **A tree without an ignore file and without settings is looked at whole.** -/
lemma snapshot_of_bare (hignore : entries.lookup ".gitignore" = none)
    (hsettings : entries.lookup Settings.fileName = none) (limit : Int) :
    snapshot readYaml ⟨.directory entries, []⟩ "." [] limit =
      .ok (.ofFiles limit (DiskNode.filesBelow [] (.directory entries))) := by
  obtain ⟨hrules, -⟩ := find?_resolve_of_lookup_eq_none (Path.join "/" ".gitignore") hignore
    (by decide +kernel) (by decide +kernel)
  simp only [snapshot, survey, directoryAt_top, bind, Except.bind, ignoreRules, hrules,
    configuration_of_bare hsettings, Option.isSome_none, Bool.false_eq_true, if_false]
  rfl

end Bare

/-- A manifest, and a directory with a script and a link. -/
def plainTree : List (String × DiskNode) :=
  [("package.json", .file [123, 125]),
    ("src", .directory [("main.py", .file [120]), ("up", .link "..")])]

lemma isLegal_plainTree : (DiskNode.directory plainTree).IsLegal := by
  refine .directory _ (by decide) (by decide) ?_
  simp only [plainTree, forall_mem_cons, not_mem_nil, IsEmpty.forall_iff, implies_true, and_true]
  refine ⟨.file _, .directory _ (by decide) (by decide) ?_⟩
  simp only [forall_mem_cons, not_mem_nil, IsEmpty.forall_iff, implies_true, and_true]
  exact ⟨.file _, .link _⟩

lemma filesBelow_plainTree : DiskNode.filesBelow [] (.directory plainTree) =
    [("package.json", [123, 125]), ("src/main.py", [120])] := by
  have hinner : Branch.inOrder [⟨false, "main.py", [("src/main.py", [120])]⟩] =
      [("src/main.py", [120])] := by
    rw [Branch.inOrder, mergeSort_singleton]
    rfl
  have hbranches : DiskNode.branchesOf [] "" plainTree =
      [⟨false, "package.json", [("package.json", [123, 125])]⟩,
        ⟨true, "src", Branch.inOrder [⟨false, "main.py", [("src/main.py", [120])]⟩]⟩] := rfl
  rw [DiskNode.filesBelow, DiskNode.entries, hbranches, hinner, Branch.inOrder,
    mergeSort_of_pairwise (by decide +kernel)]
  rfl

theorem plainTree_accepted :
    ∃ snapshot, Disk.snapshot Yaml.readFlow ⟨.directory plainTree, []⟩ "." [] 100 = .ok snapshot ∧
      SourceFile.accept (snapshot.files.map SourceFile.offered) =
        .ok [⟨"package.json", [123, 125]⟩, ⟨"src/main.py", [120]⟩] ∧
      snapshot.manifests.map (·.1) = ["package.json"] ∧
      snapshot.manifests.map (·.1) ⊆ snapshot.files.map (·.path) := by
  have hsnapshot : snapshot Yaml.readFlow ⟨.directory plainTree, []⟩ "." [] 100 = _ :=
    snapshot_of_bare (by decide) (by decide) 100
  obtain ⟨haccept, hmanifests⟩ :=
    snapshots_accepted_without_backslashes _ _ "." [] 100 isLegal_plainTree hsnapshot
  have hfiles : (Snapshot.ofFiles 100 (DiskNode.filesBelow [] (.directory plainTree))).files =
      [⟨"package.json", [123, 125]⟩, ⟨"src/main.py", [120]⟩] := by
    rw [filesBelow_plainTree]
    exact (by decide : Ascending SourceFile.path
      [⟨"package.json", [123, 125]⟩, ⟨"src/main.py", [120]⟩]).byKey_eq
  refine ⟨_, hsnapshot, ?_, ?_, hmanifests⟩
  · rw [haccept, hfiles]
    rfl
  · rw [filesBelow_plainTree]
    decide +kernel

/-- A file whose name has a backslash in it. -/
def backslashTree : List (String × DiskNode) := [("a\\b.txt", .file [120])]

theorem backslashTree_not_accepted :
    (DiskNode.directory backslashTree).IsLegal ∧
    ∃ snapshot,
      Disk.snapshot Yaml.readFlow ⟨.directory backslashTree, []⟩ "." [] 100 = .ok snapshot ∧
      SourceFile.accept (snapshot.files.map SourceFile.offered) =
        .error (.notRelative "a\\b.txt") := by
  refine ⟨.directory _ (by decide) (by decide) ?_, _,
    snapshot_of_bare (by decide) (by decide) 100, ?_⟩
  · simp only [backslashTree, forall_mem_cons, not_mem_nil, IsEmpty.forall_iff, implies_true,
      and_true]
    exact .file _
  · have hbelow : DiskNode.filesBelow [] (.directory backslashTree) = [("a\\b.txt", [120])] := by
      rw [DiskNode.filesBelow, Branch.inOrder]
      exact congrArg (flatMap Branch.files) (mergeSort_singleton _)
    have hfiles : (Snapshot.ofFiles 100 [("a\\b.txt", [120])]).files = [⟨"a\\b.txt", [120]⟩] :=
      mergeSort_singleton _
    rw [hbelow, hfiles]
    decide +kernel

end Disk

end RepoAtlas
