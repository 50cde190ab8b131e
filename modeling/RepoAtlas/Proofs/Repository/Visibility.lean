import RepoAtlas.Proofs.Path.Segments
import RepoAtlas.Proofs.Repository.Acceptance

/-!
# What a snapshot holds

A walk prunes: where it does not enter a directory it never asks about what lies below.  Seen from a
file, this is a condition on the way that leads there, and it can be told without walking.  **The
way is open when every directory on it is entered and the file itself is seen**
(`DiskNode.IsOpen`), and `DiskNode.mem_branchesOf_iff` says that a walk comes to exactly the files
whose way is open.

The rules have their say about each path on the way, and the last one about a path has the last word
(`IgnoreRule.leavesOut_eq_false_iff`).  A negated rule therefore brings back what earlier rules
leave out, but nothing below a directory that is not entered (`DiskNode.Shows.enters_of_below`).

A snapshot holds the visible files, each once, on one side of the limit or the other.  It is taken
of any directory whose ignore file is a text, if it has one, and whose settings are refused at worst
(`Disk.snapshot_eq_ok`).
-/

namespace RepoAtlas

open List

/-! ## The last word of the rules -/

namespace IgnoreRule

variable {rules : List IgnoreRule} {path : String} {isDirectory : Bool}

/-- The last of the rules about a path is a negated one, or there is no rule about it. -/
def Keeps (rules : List IgnoreRule) (path : String) (isDirectory : Bool) : Prop :=
  ∀ rule ∈ (rules.filter (·.isAbout path isDirectory)).getLast?, rule.negate = true

instance (rules : List IgnoreRule) (path : String) (isDirectory : Bool) :
    Decidable (Keeps rules path isDirectory) :=
  inferInstanceAs (Decidable (∀ rule ∈ (rules.filter (·.isAbout path isDirectory)).getLast?,
    rule.negate = true))

lemma leavesOut_concat (rule : IgnoreRule) : leavesOut (rules ++ [rule]) path isDirectory =
    if rule.isAbout path isDirectory then !rule.negate else leavesOut rules path isDirectory := by
  rw [leavesOut, foldl_append]
  rfl

/-- **The last rule about a path decides.** -/
lemma leavesOut_eq_false_iff :
    leavesOut rules path isDirectory = false ↔ Keeps rules path isDirectory := by
  induction rules using reverseRecOn with
  | nil => simp [leavesOut, Keeps]
  | append_singleton rules rule ih =>
      rw [leavesOut_concat, Keeps, filter_append]
      by_cases habout : rule.isAbout path isDirectory = true
      · simp [habout]
      · simpa [habout, Keeps] using ih

end IgnoreRule

/-! ## Open ways -/

namespace DiskNode

variable {rules : List IgnoreRule} {outer above : List String} {name path : String}
  {bytes : List UInt8}

/-- A walk goes into the directory `name` of the directory that `outer` leads to. -/
def Enters (rules : List IgnoreRule) (outer : List String) (name : String) : Prop :=
  name ∉ idleDirectories ∧ IgnoreRule.Keeps rules (Text.joined "/" (outer ++ [name])) true

instance (rules : List IgnoreRule) (outer : List String) (name : String) :
    Decidable (Enters rules outer name) :=
  inferInstanceAs (Decidable (_ ∧ _))

/-- A walk that has come to the directory `outer` gets from there to the file `name` by way of the
directories `above`. -/
structure IsOpen (rules : List IgnoreRule) (outer above : List String) (name : String) : Prop where
  named : name ∉ idleFiles
  kept : IgnoreRule.Keeps rules (Text.joined "/" (outer ++ above ++ [name])) false
  entered : ∀ between inner, between ++ [inner] <+: above → Enters rules (outer ++ between) inner

lemma entryPath_joined (houter : ∀ part ∈ outer, part ≠ "") :
    entryPath (Text.joined "/" outer) name = Text.joined "/" (outer ++ [name]) := by
  rcases eq_or_ne outer [] with rfl | hsome
  · simp [entryPath]
  · have hne : Text.joined "/" outer ≠ "" := by rwa [Ne, Text.joined_eq_empty_iff houter]
    rw [entryPath, if_neg hne, Text.joined_append "/" hsome (cons_ne_nil _ _),
      Text.joined_singleton]

lemma entersDirectory_iff : entersDirectory rules name path = true ↔
    name ∉ idleDirectories ∧ IgnoreRule.Keeps rules path true := by
  simp [entersDirectory, IgnoreRule.leavesOut_eq_false_iff]

lemma seesFile_iff :
    seesFile rules name path = true ↔ name ∉ idleFiles ∧ IgnoreRule.Keeps rules path false := by
  simp [seesFile, IgnoreRule.leavesOut_eq_false_iff]

/-- The way to a file of the directory itself. -/
lemma isOpen_nil : IsOpen rules outer [] name ↔
    seesFile rules name (Text.joined "/" (outer ++ [name])) = true := by
  rw [seesFile_iff]
  constructor
  · intro h
    exact ⟨h.named, by simpa using h.kept⟩
  · rintro ⟨hnamed, hkept⟩
    exact ⟨hnamed, by simpa using hkept, by simp⟩

/-- The way to what lies deeper starts with a directory. -/
lemma isOpen_cons {directory : String} : IsOpen rules outer (directory :: above) name ↔
    entersDirectory rules directory (Text.joined "/" (outer ++ [directory])) = true ∧
      IsOpen rules (outer ++ [directory]) above name := by
  rw [entersDirectory_iff]
  constructor
  · rintro ⟨hnamed, hkept, hentered⟩
    refine ⟨?_, hnamed, by simpa using hkept, fun between inner hprefix => ?_⟩
    · simpa [Enters] using hentered [] directory (by simp)
    · simpa using hentered (directory :: between) inner (by simpa using hprefix)
  · rintro ⟨hfirst, hnamed, hkept, hentered⟩
    refine ⟨hnamed, by simpa using hkept, fun between inner hprefix => ?_⟩
    cases between with
    | nil =>
        obtain ⟨rfl, -⟩ := cons_prefix_cons.1 hprefix
        simpa [Enters] using hfirst
    | cons first between =>
        obtain ⟨rfl, hrest⟩ := cons_prefix_cons.1 hprefix
        simpa using hentered between inner hrest

/-! ## Where a walk gets to -/

lemma mem_inOrder {file : String × List UInt8} {branches : List Branch} :
    file ∈ Branch.inOrder branches ↔ ∃ branch ∈ branches, file ∈ branch.files := by
  simp [Branch.inOrder]

/-- An entry contributes itself, if it is a file that is seen, and what lies below it, if it is a
directory that is entered. -/
lemma exists_mem_branch?_iff {directory : String} {node : DiskNode} :
    (∃ branch, branch? rules directory name node = some branch ∧ (path, bytes) ∈ branch.files) ↔
      (node = .file bytes ∧ path = entryPath directory name ∧ seesFile rules name path = true) ∨
      (entersDirectory rules name (entryPath directory name) = true ∧
        (path, bytes) ∈ Branch.inOrder
          (branchesOf rules (entryPath directory name) node.entries)) := by
  cases node with
  | file held =>
      simp only [branch?, Option.ite_none_right_eq_some, Option.some.injEq, entries, branchesOf,
        mem_inOrder, DiskNode.file.injEq]
      constructor
      · rintro ⟨branch, ⟨hsees, rfl⟩, hmem⟩
        cases mem_singleton.1 hmem
        exact Or.inl ⟨rfl, rfl, hsees⟩
      · rintro (⟨rfl, rfl, hsees⟩ | ⟨-, _, hnone, -⟩)
        · exact ⟨_, ⟨hsees, rfl⟩, mem_singleton_self _⟩
        · cases hnone
  | link target => simp [branch?, entries, branchesOf, mem_inOrder]
  | directory entries =>
      simp [branch?, DiskNode.entries, and_assoc]

lemma get?_cons (node : DiskNode) (name : String) (rest : List String) :
    node.get? (name :: rest) = (node.entries.lookup name).bind (·.get? rest) := by
  cases node <;> rfl

/-- **A walk gets to the files whose way is open**, and to no others: by induction on the tree, the
way from a directory on is a file or an entered directory and the way from there. -/
lemma mem_branchesOf_iff {node : DiskNode} (h : node.IsLegal) (houter : ∀ part ∈ outer, part ≠ "") :
    (path, bytes) ∈ Branch.inOrder (branchesOf rules (Text.joined "/" outer) node.entries) ↔
      ∃ above name, path = Text.joined "/" (outer ++ above ++ [name]) ∧
        node.get? (above ++ [name]) = some (.file bytes) ∧ IsOpen rules outer above name := by
  induction h generalizing outer with
  | file held =>
      refine iff_of_false (by simp [entries, branchesOf, mem_inOrder]) ?_
      rintro ⟨above, name, -, hget, -⟩
      cases above <;> cases hget
  | link target =>
      refine iff_of_false (by simp [entries, branchesOf, mem_inOrder]) ?_
      rintro ⟨above, name, -, hget, -⟩
      cases above <;> cases hget
  | directory entries distinct names nodes ih =>
      have hparts : ∀ entry ∈ entries, ∀ part ∈ outer ++ [entry.1], part ≠ "" := by
        intro entry hentry
        rw [forall_mem_append, forall_mem_singleton]
        exact ⟨houter, fun hempty => (names entry hentry).1 (by simp [hempty])⟩
      simp only [mem_inOrder, DiskNode.entries, mem_branchesOf]
      constructor
      · rintro ⟨branch, ⟨⟨name, child⟩, hentry, hbranch⟩, hmem⟩
        have hlookup : entries.lookup name = some child := distinct.lookup_eq_some_iff.2 hentry
        obtain ⟨rfl, rfl, hsees⟩ | ⟨henters, hmem⟩ :=
          exists_mem_branch?_iff.1 ⟨branch, hbranch, hmem⟩
        · rw [entryPath_joined houter] at hsees ⊢
          exact ⟨[], name, by simp, by simp [get?, hlookup], isOpen_nil.2 hsees⟩
        · rw [entryPath_joined houter] at henters hmem
          obtain ⟨above, last, rfl, hget, hopen⟩ :=
            (ih (name, child) hentry (hparts _ hentry)).1 hmem
          exact ⟨name :: above, last, by simp, by simpa [get?, hlookup] using hget,
            isOpen_cons.2 ⟨henters, hopen⟩⟩
      · rintro ⟨above, last, rfl, hget, hopen⟩
        cases above with
        | nil =>
            rw [nil_append, get?_cons] at hget
            obtain ⟨child, hlookup, hchild⟩ := Option.bind_eq_some_iff.1 hget
            obtain rfl : child = .file bytes := by simpa [get?] using hchild
            obtain ⟨branch, hbranch, hmem⟩ := exists_mem_branch?_iff.2
              (Or.inl ⟨rfl, (entryPath_joined houter).symm, isOpen_nil.1 hopen⟩)
            have hentry := distinct.lookup_eq_some_iff.1 hlookup
            exact ⟨branch, ⟨_, hentry, hbranch⟩, by simpa using hmem⟩
        | cons name above =>
            rw [cons_append, get?_cons] at hget
            obtain ⟨child, hlookup, hbelow⟩ := Option.bind_eq_some_iff.1 hget
            obtain ⟨henters, hrest⟩ := isOpen_cons.1 hopen
            have hentry := distinct.lookup_eq_some_iff.1 hlookup
            have hmem := (ih _ hentry (hparts _ hentry)).2 ⟨above, last, by simp, hbelow, hrest⟩
            rw [← entryPath_joined houter] at henters hmem
            obtain ⟨branch, hbranch, hmem⟩ := exists_mem_branch?_iff.2 (Or.inr ⟨henters, hmem⟩)
            exact ⟨branch, ⟨_, hentry, hbranch⟩, hmem⟩

/-! ## Visible files -/

/-- A file of the tree that a walk from its top gets to: the directories on the way are directories
and no links, and each of them is entered. -/
structure IsVisible (tree : DiskNode) (rules : List IgnoreRule) (above : List String)
    (name : String) (bytes : List UInt8) : Prop where
  there : tree.get? (above ++ [name]) = some (.file bytes)
  named : name ∉ idleFiles
  kept : IgnoreRule.Keeps rules (Text.joined "/" (above ++ [name])) false
  entered : ∀ outer inner, outer ++ [inner] <+: above →
    (∃ entries, tree.get? (outer ++ [inner]) = some (.directory entries)) ∧
      Enters rules outer inner

/-- There is a visible file at the path, and it holds these bytes. -/
def Shows (tree : DiskNode) (rules : List IgnoreRule) (path : String) (bytes : List UInt8) : Prop :=
  ∃ above name, path = Text.joined "/" (above ++ [name]) ∧ tree.IsVisible rules above name bytes

variable {tree found : DiskNode} {names rest : List String}

/-- What has something in it is a directory. -/
lemma exists_directory_of_get? (h : tree.get? (names ++ name :: rest) = some found) :
    ∃ entries, tree.get? names = some (.directory entries) := by
  induction names generalizing tree with
  | nil =>
      cases tree with
      | file held => cases h
      | link target => cases h
      | directory entries => exact ⟨entries, rfl⟩
  | cons first names ih =>
      rw [cons_append, get?_cons] at h
      obtain ⟨child, hlookup, hchild⟩ := Option.bind_eq_some_iff.1 h
      obtain ⟨entries, hentries⟩ := ih hchild
      exact ⟨entries, by rw [get?_cons, hlookup, Option.bind_some, hentries]⟩

lemma IsLegal.isEntryName_of_get? (hlegal : tree.IsLegal) (h : tree.get? names = some found) :
    ∀ part ∈ names, IsEntryName part := by
  induction names generalizing tree with
  | nil => simp
  | cons first names ih =>
      rw [get?_cons] at h
      obtain ⟨child, hlookup, hchild⟩ := Option.bind_eq_some_iff.1 h
      cases hlegal with
      | file held => cases hlookup
      | link target => cases hlookup
      | directory entries distinct legal nodes =>
          have hentry := distinct.lookup_eq_some_iff.1 hlookup
          rw [forall_mem_cons]
          exact ⟨legal _ hentry, ih (nodes _ hentry) hchild⟩

/-- From the top of a tree, open ways lead to the visible files. -/
lemma isVisible_iff : tree.IsVisible rules above name bytes ↔
    tree.get? (above ++ [name]) = some (.file bytes) ∧ IsOpen rules [] above name := by
  constructor
  · rintro ⟨hthere, hnamed, hkept, hentered⟩
    exact ⟨hthere, hnamed, hkept, fun between inner hprefix => (hentered between inner hprefix).2⟩
  · rintro ⟨hthere, hnamed, hkept, hentered⟩
    refine ⟨hthere, hnamed, hkept, fun outer inner hprefix => ⟨?_, hentered outer inner hprefix⟩⟩
    obtain ⟨rest, rfl⟩ := hprefix
    cases rest with
    | nil => exact exists_directory_of_get? (by simpa using hthere)
    | cons next rest => exact exists_directory_of_get? (by simpa using hthere)

/-- **A walk lists the visible files.** -/
lemma mem_filesBelow_iff (hlegal : tree.IsLegal) :
    (path, bytes) ∈ filesBelow rules tree ↔ tree.Shows rules path bytes := by
  rw [filesBelow, ← Text.joined_nil "/", mem_branchesOf_iff hlegal (by simp)]
  simp only [Shows, isVisible_iff, nil_append]

/-- **Nothing is shown below a directory that is not entered**, whatever the rules say about it. -/
lemma Shows.enters_of_below (hlegal : tree.IsLegal) (h : tree.Shows rules path bytes)
    {inner : String} (hparts : ∀ part ∈ outer ++ [inner], '/' ∉ part.toList)
    (hbelow : Text.startsWith (Text.joined "/" (outer ++ [inner]) ++ "/") path = true) :
    Enters rules outer inner := by
  obtain ⟨above, name, rfl, hvisible⟩ := h
  have hnames := hlegal.isEntryName_of_get? hvisible.there
  obtain ⟨rest, hrest⟩ := (Path.startsWith_append_slash _ _).1 hbelow
  have hcut : above ++ [name] = outer ++ [inner] ++ Text.segments '/' rest := by
    rw [← Path.segments_joined hparts (by simp), ← Path.segments_append_slash, ← hrest,
      Path.segments_joined (fun part hpart => (hnames part hpart).2) (by simp)]
  have hprefix : outer ++ [inner] <+: above ++ [name] := ⟨_, hcut.symm⟩
  obtain heq | hprefix := prefix_concat_iff.1 hprefix
  · rw [heq] at hcut
    exact absurd (append_right_eq_self.1 hcut.symm) (Text.segments_ne_nil '/' rest)
  · exact (hvisible.entered outer inner hprefix).2

end DiskNode

/-! ## Both sides of the limit -/

namespace Snapshot

variable {limit : Int} {walk : List (String × List UInt8)} {path : String} {bytes : List UInt8}

/-- A file that is loaded. -/
def fits (limit : Int) (file : String × List UInt8) : Bool := file.2.length ≤ limit

/-- Splitting a walk whose files stay as they are is filtering it. -/
lemma split_unchanged (limit : Int) (skipped : List Skipped) (walk : List (String × List UInt8)) :
    split limit (fun _ _ bytes => bytes) skipped walk =
      ((walk.filter (fits limit)).map fun file => ⟨file.1, file.2⟩,
        skipped ++ (walk.filter (!fits limit ·)).map fun file => ⟨file.1, file.2.length⟩) := by
  induction walk generalizing skipped with
  | nil => simp [split]
  | cons file rest ih =>
      obtain ⟨path, bytes⟩ := file
      by_cases hfits : (bytes.length : Int) ≤ limit
      · have hkeep : fits limit (path, bytes) = true := decide_eq_true hfits
        simp [split, ih, hkeep, not_lt.2 hfits]
      · have hskip : fits limit (path, bytes) = false := decide_eq_false hfits
        simp [split, ih, hskip, not_le.1 hfits]

lemma files_ofFiles : (ofFiles limit walk).files = SourceFile.inPathOrder
    ((walk.filter (fits limit)).map fun file => ⟨file.1, file.2⟩) := by
  simp only [ofFiles, split_unchanged, ofSplit]

lemma skipped_ofFiles :
    (ofFiles limit walk).skipped = (walk.filter (!fits limit ·)).map (·.1) := by
  simp only [ofFiles, split_unchanged, ofSplit, nil_append, map_map]
  rfl

lemma mem_files_ofFiles : ⟨path, bytes⟩ ∈ (ofFiles limit walk).files ↔
    (path, bytes) ∈ walk ∧ (bytes.length : Int) ≤ limit := by
  simp [files_ofFiles, SourceFile.inPathOrder, fits]

lemma mem_skipped_ofFiles : path ∈ (ofFiles limit walk).skipped ↔
    ∃ bytes, (path, bytes) ∈ walk ∧ limit < (bytes.length : Int) := by
  simp [skipped_ofFiles, fits]

/-- Every file of a walk is on one side of the limit. -/
lemma paths_ofFiles_perm : (ofFiles limit walk).files.map (·.path) ++ (ofFiles limit walk).skipped ~
    walk.map (·.1) := by
  have hfiles : (ofFiles limit walk).files.map (·.path) ~
      (walk.filter (fits limit)).map (·.1) := by
    rw [files_ofFiles]
    exact ((byKey_perm SourceFile.path _).map _).trans (by rw [map_map]; rfl)
  rw [skipped_ofFiles]
  refine (hfiles.append_right _).trans ?_
  rw [← map_append]
  exact (filter_append_perm (fits limit) walk).map _

/-- The snapshot holds the visible files of a tree, those that are larger than the limit as skipped
ones. -/
structure IsOf (snapshot : Snapshot) (tree : DiskNode) (rules : List IgnoreRule) (limit : Int) :
    Prop where
  /-- No file is there twice. -/
  distinct : (snapshot.files.map (·.path) ++ snapshot.skipped).Nodup
  files : ∀ path bytes, ⟨path, bytes⟩ ∈ snapshot.files ↔
    tree.Shows rules path bytes ∧ (bytes.length : Int) ≤ limit
  skipped : ∀ path, path ∈ snapshot.skipped ↔
    ∃ bytes, tree.Shows rules path bytes ∧ limit < (bytes.length : Int)
  /-- Nothing is below a directory that is not entered. -/
  pruned : ∀ outer inner, (∀ part ∈ outer ++ [inner], IsEntryName part) →
    ¬ DiskNode.Enters rules outer inner →
    ∀ path ∈ snapshot.files.map (·.path) ++ snapshot.skipped,
      Text.startsWith (Text.joined "/" (outer ++ [inner]) ++ "/") path = false
  ascending : Ascending (·.path) snapshot.files

/-- **A snapshot of what a walk lists is one of the tree.** -/
lemma isOf_ofFiles {tree : DiskNode} (hlegal : tree.IsLegal) (rules : List IgnoreRule)
    (limit : Int) : (ofFiles limit (tree.filesBelow rules)).IsOf tree rules limit := by
  have hdistinct := DiskNode.nodup_paths_filesBelow hlegal rules
  constructor
  case distinct => exact paths_ofFiles_perm.nodup_iff.2 hdistinct
  case files =>
    intro path bytes
    rw [mem_files_ofFiles, DiskNode.mem_filesBelow_iff hlegal]
  case skipped =>
    intro path
    simp only [mem_skipped_ofFiles, DiskNode.mem_filesBelow_iff hlegal]
  case pruned =>
    intro outer inner hparts hout path hpath
    obtain ⟨⟨path, bytes⟩, hfile, rfl⟩ := mem_map.1 (paths_ofFiles_perm.mem_iff.1 hpath)
    have hshown := (DiskNode.mem_filesBelow_iff hlegal).1 hfile
    rw [Bool.eq_false_iff]
    intro hbelow
    exact hout (hshown.enters_of_below hlegal (fun part hpart => (hparts part hpart).2) hbelow)
  case ascending =>
    rw [files_ofFiles]
    refine ascending_byKey ?_
    rw [map_map]
    exact hdistinct.sublist (filter_sublist.map _)

end Snapshot

/-! ## Directories of a disk -/

namespace Disk

variable {readYaml : Yaml.Reader} {disk : Disk} {path directory text : String}
  {patterns more : List String} {tree : DiskNode}

/-- The text of a directory's ignore file; without one it is empty. -/
def HasIgnoreText (disk : Disk) (directory text : String) : Prop :=
  if (disk.find? (Path.join directory ".gitignore")).isSome
    then disk.readText (Path.join directory ".gitignore") = .ok text
    else text = ""

/-- The patterns in a directory's settings; there are none if the settings are refused. -/
def HasExcludedPaths (readYaml : Yaml.Reader) (disk : Disk) (directory : String)
    (patterns : List String) : Prop :=
  match disk.configuration readYaml (Path.join directory Settings.fileName) with
  | .ok settings => patterns = settings.excludePaths
  | .error (.refused error) => error.isRefusal = true ∧ patterns = []
  | .error (.badFile _) => False

/-- The rules of an ignore file, followed by those of some patterns. -/
def rulesOf (text : String) (patterns : List String) : List IgnoreRule :=
  IgnoreRule.ofFile text ++ patterns.filterMap (IgnoreRule.parse? · false)

lemma ignoreRules_eq_ok (h : disk.HasIgnoreText directory text) :
    disk.ignoreRules directory = .ok (IgnoreRule.ofFile text) := by
  unfold HasIgnoreText at h
  simp only [ignoreRules]
  split_ifs at h ⊢ with hfile
  · rw [h]
    rfl
  · rw [h]
    rfl

/-- **A snapshot is taken of any directory** whose ignore file is a text, if it has one, and whose
settings are refused at worst. -/
lemma snapshot_eq_ok (hdirectory : disk.directoryAt path = .ok (directory, tree))
    (hignore : disk.HasIgnoreText directory text)
    (hsettings : HasExcludedPaths readYaml disk directory more) (limit : Int) :
    disk.snapshot readYaml path patterns limit =
      .ok (.ofFiles limit (tree.filesBelow (rulesOf text (patterns ++ more)))) := by
  unfold HasExcludedPaths at hsettings
  simp only [snapshot, survey, hdirectory, ignoreRules_eq_ok hignore, bind, Except.bind]
  split at hsettings
  · rename_i settings hfound
    rw [hfound, hsettings]
    rfl
  · rename_i error hfound
    rw [hfound]
    simp only [hsettings.1, hsettings.2, if_true]
    rfl
  · exact hsettings.elim

/-! ### Files at the top -/

section Top

variable {entries : List (String × DiskNode)} {name : String} {bytes : List UInt8}

/-- A file at the top is found and read by its path, which leads to it. -/
lemma find?_readText_resolve_of_lookup (hfile : entries.lookup name = some (.file bytes))
    (hname : isIdle name = false ∧ name ≠ "..")
    (hpath : Text.startsWith "/" path = true ∧ Text.segments '/' path = ["", name])
    (htext : Text.decode? bytes = .ok text) :
    find? ⟨.directory entries, []⟩ path = some (.file bytes) ∧
      readText ⟨.directory entries, []⟩ path = .ok (Text.unifyLineEnds text) ∧
      resolve ⟨.directory entries, []⟩ path = .ok [name] := by
  have hempty : isIdle "" = true := rfl
  have hlocate : locate ⟨.directory entries, []⟩ path = .ok ⟨[name], some (.file bytes)⟩ := by
    simp [locate, startOf, hpath, locateFrom, hempty, hname, DiskNode.get?, DiskNode.isDirectory,
      hfile]
  refine ⟨by simp [find?, hlocate], ?_, ?_⟩
  · simp [readText, readBytes, hlocate, bind, Except.bind, pure, Except.pure, htext]
  · simp [resolve, startOf, hpath, resolveFrom, hempty, hname, DiskNode.get?, hfile]

lemma hasIgnoreText_of_lookup (hfile : entries.lookup ".gitignore" = some (.file bytes))
    (htext : Text.decode? bytes = .ok text) :
    HasIgnoreText ⟨.directory entries, []⟩ "/" (Text.unifyLineEnds text) := by
  obtain ⟨hfind, hread, -⟩ := find?_readText_resolve_of_lookup hfile (by decide +kernel)
    (by decide +kernel : Text.startsWith "/" (Path.join "/" ".gitignore") = true ∧ _) htext
  simp [HasIgnoreText, hfind, hread]

lemma hasExcludedPaths_of_lookup {settings : Settings}
    (hfile : entries.lookup Settings.fileName = some (.file bytes))
    (htext : Text.decode? bytes = .ok text)
    (hsettings : Settings.ofText readYaml (placeNamed ⟨.directory entries, []⟩ [])
      Settings.fileName (Text.unifyLineEnds text) = .ok settings) :
    HasExcludedPaths readYaml ⟨.directory entries, []⟩ "/" settings.excludePaths := by
  obtain ⟨hfind, hread, hresolve⟩ := find?_readText_resolve_of_lookup hfile (by decide +kernel)
    (by decide +kernel : Text.startsWith "/" (Path.join "/" Settings.fileName) = true ∧ _) htext
  have habsolute : absolute [Settings.fileName] = Path.join "/" Settings.fileName := by
    decide +kernel
  have hconfiguration : configuration readYaml ⟨.directory entries, []⟩
      (Path.join "/" Settings.fileName) = .ok settings := by
    simp [configuration, isDirectory, hfind, DiskNode.isDirectory, hresolve, habsolute, hread,
      hsettings, pure, Except.pure]
  simp [HasExcludedPaths, hconfiguration]

end Top

/-- **Snapshots hold what is visible.**  The rules are those of the ignore file, of the given
patterns and of the patterns in the settings, in this order, whatever the settings are read as. -/
theorem snapshots_hold_what_is_visible (readYaml : Yaml.Reader) (disk : Disk) (path : String)
    (patterns : List String) (limit : Int) {directory text : String} {more : List String}
    {tree : DiskNode} (hlegal : disk.root.IsLegal)
    (hdirectory : disk.directoryAt path = .ok (directory, tree))
    (hignore : disk.HasIgnoreText directory text)
    (hsettings : HasExcludedPaths readYaml disk directory more) :
    ∃ snapshot, disk.snapshot readYaml path patterns limit = .ok snapshot ∧
      snapshot.IsOf tree (rulesOf text (patterns ++ more)) limit :=
  ⟨_, snapshot_eq_ok hdirectory hignore hsettings limit,
    Snapshot.isOf_ofFiles (isLegal_directoryAt hlegal hdirectory) _ limit⟩

/-- An ignore file that leaves out the logs and tries to bring one of them back, settings that leave
out the fixtures, a file that is brought back, one that is not, one that is too large, and a
link. -/
def logsTree : List (String × DiskNode) :=
  [(".codemodel.yml", .file (Text.encode "analysis:\n  exclude_paths:\n    - fixtures/\n")),
    (".gitignore", .file (Text.encode "logs/\n!logs/keep.txt\n*.tmp\n!a.tmp\n")),
    ("a.tmp", .file [97]), ("b.tmp", .file [98]),
    ("fixtures", .directory [("sample.py", .file [99])]),
    ("logs", .directory [("keep.txt", .file [100])]),
    ("src", .directory [("big.js", .file (List.replicate 60 120)), ("up", .link "../logs")])]

/-- What the settings of the tree say. -/
def readFixtures : Yaml.Reader := fun text =>
  if text = "analysis:\n  exclude_paths:\n    - fixtures/\n" then
    some (.ofValue (.dict [("analysis", .dict [("exclude_paths", .list [.str "fixtures/"])])]))
  else none

lemma isLegal_logsTree : (DiskNode.directory logsTree).IsLegal := by
  refine .directory _ (by decide) (by decide) ?_
  simp only [logsTree, forall_mem_cons, not_mem_nil, IsEmpty.forall_iff, implies_true, and_true]
  refine ⟨.file _, .file _, .file _, .file _, .directory _ (by decide) (by decide) ?_,
    .directory _ (by decide) (by decide) ?_, .directory _ (by decide) (by decide) ?_⟩
  · simp only [forall_mem_singleton]
    exact .file _
  · simp only [forall_mem_singleton]
    exact .file _
  · simp only [forall_mem_cons, not_mem_nil, IsEmpty.forall_iff, implies_true, and_true]
    exact ⟨.file _, .link _⟩

/-- `a.tmp` is brought back, and nothing in `logs` or `fixtures` is. -/
theorem logsTree_is_pruned :
    (DiskNode.directory logsTree).IsLegal ∧
    directoryAt ⟨.directory logsTree, []⟩ "." = .ok ("/", .directory logsTree) ∧
    HasIgnoreText ⟨.directory logsTree, []⟩ "/" "logs/\n!logs/keep.txt\n*.tmp\n!a.tmp\n" ∧
    HasExcludedPaths readFixtures ⟨.directory logsTree, []⟩ "/" ["fixtures/"] ∧
    ∃ snapshot,
      Disk.snapshot readFixtures ⟨.directory logsTree, []⟩ "." ["*.md"] 50 = .ok snapshot ∧
      ⟨"a.tmp", [97]⟩ ∈ snapshot.files ∧ "src/big.js" ∈ snapshot.skipped ∧
      ∀ path ∈ snapshot.files.map (·.path) ++ snapshot.skipped,
        Text.startsWith "logs/" path = false ∧ Text.startsWith "fixtures/" path = false := by
  have hrules : Text.decode? (Text.encode "logs/\n!logs/keep.txt\n*.tmp\n!a.tmp\n") =
      .ok "logs/\n!logs/keep.txt\n*.tmp\n!a.tmp\n" := by decide +kernel
  have hignore : HasIgnoreText ⟨.directory logsTree, []⟩ "/" _ :=
    hasIgnoreText_of_lookup rfl hrules
  have htext : Text.decode? (Text.encode "analysis:\n  exclude_paths:\n    - fixtures/\n") =
      .ok "analysis:\n  exclude_paths:\n    - fixtures/\n" := by decide +kernel
  have hread : Settings.ofText readFixtures (placeNamed ⟨.directory logsTree, []⟩ [])
      Settings.fileName (Text.unifyLineEnds "analysis:\n  exclude_paths:\n    - fixtures/\n") =
        .ok { Settings.default with excludePaths := ["fixtures/"] } := by decide +kernel
  have hsettings : HasExcludedPaths readFixtures ⟨.directory logsTree, []⟩ "/" ["fixtures/"] :=
    hasExcludedPaths_of_lookup rfl htext hread
  obtain ⟨snapshot, hsnapshot, hof⟩ := snapshots_hold_what_is_visible readFixtures _ "." ["*.md"] 50
    isLegal_logsTree directoryAt_top hignore hsettings
  refine ⟨isLegal_logsTree, directoryAt_top, hignore, hsettings, snapshot, hsnapshot, ?file, ?large,
    fun path hpath => ⟨?logs, ?fixtures⟩⟩
  case file =>
    refine (hof.files _ _).2 ⟨⟨[], "a.tmp", rfl, rfl, by decide, by decide +kernel, ?_⟩, by decide⟩
    simp
  case large =>
    refine (hof.skipped _).2 ⟨_, ⟨["src"], "big.js", by decide +kernel, rfl, by decide,
      by decide +kernel, fun outer inner hprefix => ?_⟩, by decide⟩
    obtain ⟨rfl, rfl⟩ : outer = [] ∧ inner = "src" := by
      cases outer with
      | nil => simpa using hprefix
      | cons first more => simp at hprefix
    exact ⟨⟨_, rfl⟩, by decide +kernel⟩
  case logs => exact hof.pruned [] "logs" (by decide) (by decide +kernel) path hpath
  case fixtures => exact hof.pruned [] "fixtures" (by decide) (by decide +kernel) path hpath

end Disk

end RepoAtlas
