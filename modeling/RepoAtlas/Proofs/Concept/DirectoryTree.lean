import RepoAtlas.Proofs.Concept.Directories
import RepoAtlas.Proofs.Concept.Neighbours
import RepoAtlas.Proofs.Inventory.Complaints
import RepoAtlas.Proofs.Repository.Walk

/-!
# Directories form a tree

A directory is as good as the list of names that lead to it (`directoryAt`), as long as these are
names that entries of a directory may have.  In terms of the lists everything is simple: a path lies
below a directory if its names begin with those of the directory (`startsWith_pathStart_iff`), what
is above a directory has fewer names (`directoryOf_directoryAt`), and what is in it has one more
(`childName?_directoryAt`).

So a module below a directory either lies in it or is below **exactly one** of the directories in
it: the next name on its path says which (`modulesUnder_perm`).
-/

namespace RepoAtlas

open List

/-- The names on a path are names that entries of a directory may have. -/
lemma IsFilePath.isEntryName {path : String} (h : IsFilePath path) :
    ∀ name ∈ Text.segments '/' path, IsEntryName name :=
  fun name hname => ⟨h.names name hname, Text.not_mem_of_mem_segments hname⟩

lemma IsEntryName.isSegment {name : String} (h : IsEntryName name) : Path.IsSegment name :=
  ⟨fun hempty => h.1 (by simp [hempty]), h.2⟩

namespace Surroundings

/-! ## Directories as lists of names -/

/-- The directory that some names lead to from the top. -/
def directoryAt (names : List String) : String := directoryName (Text.joined "/" names)

/-- The directories above a path: the one it lies in, and whatever is above that. -/
inductive IsAbove (path : String) : String → Prop
  | lies : IsAbove path (directoryOf path)
  | outer {directory : String} : IsAbove path directory → IsAbove path (directoryOf directory)

/-- The directories are those above the modules, each has its place in another one, and they cut the
modules into parts. -/
structure FormsTree (here : Surroundings) (modules : List SourceModule) : Prop where
  directories : ∀ directory, directory ∈ here.directories ↔
    ∃ module ∈ modules, IsAbove module.path directory
  outer : ∀ directory ∈ here.directories, directoryOf directory ∈ here.directories
  /-- A directory in another one is known by the last name of its path. -/
  children : ∀ directory ∈ here.directories, ∀ name child,
    (name, child) ∈ here.childDirectories directory ↔ child ∈ here.directories ∧ child ≠ top ∧
      directoryOf child = directory ∧ (Text.segments '/' child).getLast? = some name
  distinct : ∀ directory ∈ here.directories, (here.modulesUnder directory).Nodup
  /-- What is below a directory lies in it or is below one of the directories in it. -/
  parts : ∀ directory ∈ here.directories, here.modulesUnder directory ~
    modules.filter (fun module => directoryOf module.path = directory) ++
      (here.childDirectories directory).flatMap fun child => here.modulesUnder child.2

variable {here : Surroundings} {directory name path : String} {names other : List String}

lemma mem_directoriesAbove : directory ∈ directoriesAbove path ↔
    ∃ names, names <+: Path.directorySegments path ∧ directory = directoryAt names := by
  rw [directoriesAbove, mem_map]
  constructor
  · rintro ⟨depth, -, rfl⟩
    exact ⟨_, take_prefix depth _, rfl⟩
  · rintro ⟨names, hbegins, rfl⟩
    refine ⟨names.length, ?_, ?_⟩
    · have hlength := hbegins.length_le
      rw [mem_range]
      omega
    · rw [← prefix_iff_eq_take.1 hbegins]
      rfl

lemma directoryAt_nil : directoryAt [] = top := rfl

section Names

variable (hnames : ∀ name ∈ names, IsEntryName name)

include hnames

lemma segments_joined_names (hsome : names ≠ []) :
    Text.segments '/' (Text.joined "/" names) = names :=
  Path.segments_joined (fun name hname => (hnames name hname).2) hsome

lemma directoryAt_eq_joined (hsome : names ≠ []) : directoryAt names = Text.joined "/" names := by
  refine if_neg ?_
  rwa [Text.joined_eq_empty_iff fun name hname => (hnames name hname).isSegment.1]

/-- Only no names lead to the top. -/
lemma directoryAt_eq_top_iff : directoryAt names = top ↔ names = [] := by
  refine ⟨fun htop => ?_, fun hnone => hnone ▸ directoryAt_nil⟩
  by_contra hsome
  have hdot : Text.segments '/' top = ["."] := by decide +kernel
  have hsegments := segments_joined_names hnames hsome
  rw [← directoryAt_eq_joined hnames hsome, htop, hdot] at hsegments
  have hname := hnames "." (by rw [← hsegments]; exact mem_cons_self)
  exact hname.1 (by simp)

lemma directoryAt_inj (hother : ∀ name ∈ other, IsEntryName name) :
    directoryAt names = directoryAt other ↔ names = other := by
  refine ⟨fun heq => ?_, congrArg directoryAt⟩
  rcases eq_or_ne names [] with rfl | hsome
  · exact ((directoryAt_eq_top_iff hother).1 heq.symm).symm
  · have hsome' : other ≠ [] := by
      rintro rfl
      exact hsome ((directoryAt_eq_top_iff hnames).1 heq)
    rw [← segments_joined_names hnames hsome, ← segments_joined_names hother hsome',
      ← directoryAt_eq_joined hnames hsome, heq, directoryAt_eq_joined hother hsome']

/-- What lies in a directory is written behind it. -/
lemma pathStart_directoryAt_append {rest : List String} (hrest : rest ≠ []) :
    pathStart (directoryAt names) ++ Text.joined "/" rest = Text.joined "/" (names ++ rest) := by
  rcases eq_or_ne names [] with rfl | hsome
  · rw [directoryAt_nil, pathStart, if_pos rfl, String.empty_append, nil_append]
  · rw [pathStart, if_neg (mt (directoryAt_eq_top_iff hnames).1 hsome),
      directoryAt_eq_joined hnames hsome, Text.joined_append "/" hsome hrest]

/-- **Below a directory** are the paths whose names begin with those of the directory. -/
lemma startsWith_pathStart_iff : Text.startsWith (pathStart (directoryAt names)) path = true ↔
    names <+: Path.directorySegments path := by
  obtain ⟨last, -, hpath⟩ := Path.exists_segments_eq path
  rcases eq_or_ne names [] with rfl | hsome
  · refine iff_of_true ?_ nil_prefix
    exact isPrefixOf_iff_prefix.2 nil_prefix
  · rw [pathStart, if_neg (mt (directoryAt_eq_top_iff hnames).1 hsome),
      directoryAt_eq_joined hnames hsome, Path.startsWith_append_slash]
    constructor
    · rintro ⟨rest, rfl⟩
      rw [Path.directorySegments, Path.segments_append_slash, segments_joined_names hnames hsome,
        dropLast_append_of_ne_nil (Text.segments_ne_nil '/' rest)]
      exact prefix_append _ _
    · rintro ⟨more, hmore⟩
      refine ⟨Text.joined "/" (more ++ [last]), ?_⟩
      rw [← Text.joined_append "/" hsome (by simp), ← append_assoc, hmore, ← hpath,
        Path.joined_segments]

/-- **The directory above** has the last name less, and the top is above itself. -/
lemma directoryOf_directoryAt : directoryOf (directoryAt names) = directoryAt names.dropLast := by
  rcases eq_nil_or_concat' names with rfl | ⟨above, last, rfl⟩
  · rw [directoryAt_nil, directoryOf, Path.parent_of_not_mem (by decide)]
    rfl
  · rw [forall_mem_append, forall_mem_singleton] at hnames
    rw [directoryAt_eq_joined (by simpa [or_imp, forall_and] using hnames) (by simp), directoryOf,
      Path.parent_joined (fun name hname => (hnames.1 name hname).isSegment) hnames.2.2,
      dropLast_concat]
    rfl

/-- **The directories in a directory** have one name more. -/
lemma childName?_directoryAt (hother : ∀ name ∈ other, IsEntryName name) :
    childName? (directoryAt names) (directoryAt other) = some name ↔ other = names ++ [name] := by
  rw [childName?_eq_some_iff, Ne, directoryAt_eq_top_iff hother]
  have hstart := pathStart_directoryAt_append hnames (cons_ne_nil name [])
  rw [Text.joined_singleton] at hstart
  rw [hstart]
  constructor
  · rintro ⟨hsome, hpath, hname⟩
    rw [directoryAt_eq_joined hother hsome] at hpath
    have hsegments := congrArg (Text.segments '/') hpath
    rw [segments_joined_names hother hsome, Path.segments_joined ?_ (by simp)] at hsegments
    · exact hsegments
    · rw [forall_mem_append, forall_mem_singleton]
      exact ⟨fun name hname => (hnames name hname).2, hname.2⟩
  · rintro rfl
    refine ⟨by simp, directoryAt_eq_joined hother (by simp), ?_⟩
    exact (hother name (by simp)).isSegment

end Names

/-! ## Directories above a path -/

lemma isEntryName_directory (hpath : ∀ name ∈ Text.segments '/' path, IsEntryName name)
    (hbegins : names <+: Path.directorySegments path) : ∀ name ∈ names, IsEntryName name :=
  fun name hname => hpath name (mem_of_mem_dropLast (hbegins.subset hname))

lemma directoryOf_eq (hpath : ∀ name ∈ Text.segments '/' path, IsEntryName name) :
    directoryOf path = directoryAt (Path.directorySegments path) := by
  rw [directoryOf, Path.parent_eq]
  · rfl
  · intro name hname
    exact (isEntryName_directory hpath (prefix_refl _) name hname).isSegment.1

/-- **Above a path** are the directories that the names on the way to it lead to. -/
lemma isAbove_iff (hpath : ∀ name ∈ Text.segments '/' path, IsEntryName name) :
    IsAbove path directory ↔ directory ∈ directoriesAbove path := by
  rw [mem_directoriesAbove]
  constructor
  · intro h
    induction h with
    | lies => exact ⟨_, prefix_refl _, directoryOf_eq hpath⟩
    | outer _ ih =>
        obtain ⟨names, hbegins, rfl⟩ := ih
        have hshorter : names.dropLast <+: names := dropLast_prefix names
        refine ⟨names.dropLast, hshorter.trans hbegins, ?_⟩
        exact directoryOf_directoryAt (isEntryName_directory hpath hbegins)
  · rintro ⟨names, ⟨more, hmore⟩, rfl⟩
    induction more generalizing names with
    | nil =>
        rw [append_nil] at hmore
        rw [hmore, ← directoryOf_eq hpath]
        exact .lies
    | cons name more ih =>
        have hinner : names ++ [name] ++ more = Path.directorySegments path := by
          rw [append_assoc, singleton_append, hmore]
        have houter := (ih (names ++ [name]) hinner).outer
        have hnames := isEntryName_directory hpath ⟨more, hinner⟩
        rwa [directoryOf_directoryAt hnames, dropLast_concat] at houter

/-- A module is below a directory if its names begin with those of the directory. -/
lemma mem_modulesUnder (hnames : ∀ name ∈ names, IsEntryName name) {module : SourceModule} :
    module ∈ here.modulesUnder (directoryAt names) ↔
      module ∈ here.modules ∧ names <+: Path.directorySegments module.path := by
  rw [modulesUnder, mem_filter, startsWith_pathStart_iff hnames]

/-! ## The tree -/

section Tree

variable (hpaths : ∀ module ∈ here.modules, ∀ name ∈ Text.segments '/' module.path,
  IsEntryName name)

include hpaths

lemma mem_directories_iff_isAbove : directory ∈ here.directories ↔
    ∃ module ∈ here.modules, IsAbove module.path directory := by
  rw [mem_directories]
  refine exists_congr fun module => and_congr_right fun hmodule => ?_
  exact (isAbove_iff (hpaths module hmodule)).symm

lemma exists_names_of_mem_directories (h : directory ∈ here.directories) :
    ∃ names, (∀ name ∈ names, IsEntryName name) ∧ directory = directoryAt names := by
  obtain ⟨module, hmodule, habove⟩ := mem_directories.1 h
  obtain ⟨names, hbegins, rfl⟩ := mem_directoriesAbove.1 habove
  exact ⟨names, isEntryName_directory (hpaths module hmodule) hbegins, rfl⟩

/-- The directories in a directory, in terms of names. -/
lemma mem_childDirectories_directoryAt (hnames : ∀ name ∈ names, IsEntryName name)
    {child : String} : (name, child) ∈ here.childDirectories (directoryAt names) ↔
      child ∈ here.directories ∧ IsEntryName name ∧ child = directoryAt (names ++ [name]) := by
  rw [mem_childDirectories]
  refine and_congr_right fun hchild => ?_
  obtain ⟨inner, hinner, rfl⟩ := exists_names_of_mem_directories hpaths hchild
  rw [childName?_directoryAt hnames hinner]
  constructor
  · rintro rfl
    exact ⟨hinner name (by simp), rfl⟩
  · rintro ⟨hname, hsame⟩
    refine (directoryAt_inj hinner ?_).1 hsame
    exact forall_mem_append.2 ⟨hnames, forall_mem_singleton.2 hname⟩

/-- **The directories in a directory** are those that it is directly above, by their last names. -/
lemma mem_childDirectories_iff (h : directory ∈ here.directories) {child : String} :
    (name, child) ∈ here.childDirectories directory ↔ child ∈ here.directories ∧ child ≠ top ∧
      directoryOf child = directory ∧ (Text.segments '/' child).getLast? = some name := by
  obtain ⟨names, hnames, rfl⟩ := exists_names_of_mem_directories hpaths h
  rw [mem_childDirectories]
  refine and_congr_right fun hchild => ?_
  obtain ⟨inner, hinner, rfl⟩ := exists_names_of_mem_directories hpaths hchild
  rw [childName?_directoryAt hnames hinner, Ne, directoryAt_eq_top_iff hinner,
    directoryOf_directoryAt hinner,
    directoryAt_inj (fun name hname => hinner name (mem_of_mem_dropLast hname)) hnames]
  constructor
  · rintro rfl
    rw [directoryAt_eq_joined hinner (by simp), segments_joined_names hinner (by simp)]
    simp
  · rintro ⟨hsome, rfl, hlast⟩
    rw [directoryAt_eq_joined hinner hsome, segments_joined_names hinner hsome] at hlast
    exact (dropLast_append_getLast? name hlast).symm

/-- A module lies in the directory that has the names on its path. -/
lemma directoryOf_eq_directoryAt_iff (hnames : ∀ name ∈ names, IsEntryName name)
    {module : SourceModule} (hmodule : module ∈ here.modules) :
    directoryOf module.path = directoryAt names ↔ Path.directorySegments module.path = names := by
  rw [directoryOf_eq (hpaths module hmodule), directoryAt_inj _ hnames]
  exact isEntryName_directory (hpaths module hmodule) (prefix_refl _)

/-- **A module below a directory** lies in it or is below one of the directories in it. -/
lemma mem_modulesUnder_iff (h : directory ∈ here.directories) {module : SourceModule} :
    module ∈ here.modulesUnder directory ↔
      module ∈ here.modules ∧ directoryOf module.path = directory ∨
      ∃ child ∈ here.childDirectories directory, module ∈ here.modulesUnder child.2 := by
  obtain ⟨names, hnames, rfl⟩ := exists_names_of_mem_directories hpaths h
  constructor
  · intro hmem
    obtain ⟨hmodule, hbelow⟩ := (mem_modulesUnder hnames).1 hmem
    obtain ⟨rest, hrest⟩ := hbelow
    cases rest with
    | nil =>
        rw [append_nil] at hrest
        exact .inl ⟨hmodule, (directoryOf_eq_directoryAt_iff hpaths hnames hmodule).2 hrest.symm⟩
    | cons name rest =>
        have hinner : names ++ [name] <+: Path.directorySegments module.path :=
          ⟨rest, by rw [append_assoc, singleton_append, hrest]⟩
        have hentries := isEntryName_directory (hpaths module hmodule) hinner
        refine .inr ⟨(name, directoryAt (names ++ [name])), ?_, ?_⟩
        · refine (mem_childDirectories_directoryAt hpaths hnames).2 ⟨?_, ?_, rfl⟩
          · exact mem_directories.2 ⟨module, hmodule, mem_directoriesAbove.2 ⟨_, hinner, rfl⟩⟩
          · exact hentries name (by simp)
        · exact (mem_modulesUnder hentries).2 ⟨hmodule, hinner⟩
  · rintro (⟨hmodule, hlies⟩ | ⟨⟨name, child⟩, hchild, hmem⟩)
    · rw [directoryOf_eq_directoryAt_iff hpaths hnames hmodule] at hlies
      exact (mem_modulesUnder hnames).2 ⟨hmodule, hlies ▸ prefix_refl _⟩
    · obtain ⟨-, hname, rfl⟩ := (mem_childDirectories_directoryAt hpaths hnames).1 hchild
      have hentries := forall_mem_append.2 ⟨hnames, forall_mem_singleton.2 hname⟩
      obtain ⟨hmodule, hbelow⟩ := (mem_modulesUnder hentries).1 hmem
      exact (mem_modulesUnder hnames).2 ⟨hmodule, (prefix_append _ _).trans hbelow⟩

/-- What lies in a directory is not below a directory in it. -/
lemma not_mem_modulesUnder_child (h : directory ∈ here.directories) {module : SourceModule}
    (hmodule : module ∈ here.modules) (hlies : directoryOf module.path = directory)
    {child : String × String} (hchild : child ∈ here.childDirectories directory) :
    module ∉ here.modulesUnder child.2 := by
  obtain ⟨names, hnames, rfl⟩ := exists_names_of_mem_directories hpaths h
  obtain ⟨name, child⟩ := child
  obtain ⟨-, hname, rfl⟩ := (mem_childDirectories_directoryAt hpaths hnames).1 hchild
  have hentries := forall_mem_append.2 ⟨hnames, forall_mem_singleton.2 hname⟩
  intro hmem
  have hlength := ((mem_modulesUnder hentries).1 hmem).2.length_le
  rw [(directoryOf_eq_directoryAt_iff hpaths hnames hmodule).1 hlies, length_append] at hlength
  simp at hlength

/-- A module is below one directory in a directory at most. -/
lemma child_eq_of_mem_modulesUnder (h : directory ∈ here.directories) {module : SourceModule}
    {child sibling : String × String} (hchild : child ∈ here.childDirectories directory)
    (hsibling : sibling ∈ here.childDirectories directory)
    (hmem : module ∈ here.modulesUnder child.2) (hmem' : module ∈ here.modulesUnder sibling.2) :
    child.1 = sibling.1 := by
  obtain ⟨names, hnames, rfl⟩ := exists_names_of_mem_directories hpaths h
  obtain ⟨name, child⟩ := child
  obtain ⟨other, sibling⟩ := sibling
  obtain ⟨-, hname, rfl⟩ := (mem_childDirectories_directoryAt hpaths hnames).1 hchild
  obtain ⟨-, hother, rfl⟩ := (mem_childDirectories_directoryAt hpaths hnames).1 hsibling
  have hbelow := ((mem_modulesUnder
    (forall_mem_append.2 ⟨hnames, forall_mem_singleton.2 hname⟩)).1 hmem).2
  have hbelow' := ((mem_modulesUnder
    (forall_mem_append.2 ⟨hnames, forall_mem_singleton.2 hother⟩)).1 hmem').2
  have hsame := (prefix_of_prefix_length_le hbelow hbelow' (by simp)).eq_of_length (by simp)
  simpa using hsame

/-- **The modules below a directory fall into parts**: those that lie in it, and for each directory
in it those below that one. -/
lemma modulesUnder_perm (hdistinct : (here.modules.map (·.path)).Nodup)
    (h : directory ∈ here.directories) :
    here.modulesUnder directory ~
      here.modules.filter (fun module => directoryOf module.path = directory) ++
        (here.childDirectories directory).flatMap fun child => here.modulesUnder child.2 := by
  have hmodules : here.modules.Nodup := hdistinct.of_map _
  have hchildren : (here.childDirectories directory).Pairwise fun a b => a.1 ≠ b.1 :=
    pairwise_map.1 (Entries.keysDistinct_ofPairs _)
  refine (perm_ext_iff_of_nodup (hmodules.filter _) ?_).2 fun module => ?_
  · refine nodup_append'.2 ⟨hmodules.filter _, nodup_flatMap.2 ⟨?_, ?_⟩, ?_⟩
    · exact fun child _ => hmodules.filter _
    · refine hchildren.imp_of_mem fun hchild hsibling hne module hmem hmem' => hne ?_
      exact child_eq_of_mem_modulesUnder hpaths h hchild hsibling hmem hmem'
    · intro module hlies hmem
      obtain ⟨child, hchild, hmem⟩ := mem_flatMap.1 hmem
      obtain ⟨hmodule, hlies⟩ := mem_filter.1 hlies
      exact not_mem_modulesUnder_child hpaths h hmodule (of_decide_eq_true hlies) hchild hmem
  · change module ∈ here.modulesUnder directory ↔ _
    rw [mem_modulesUnder_iff hpaths h, mem_append, mem_filter, mem_flatMap, decide_eq_true_iff]

end Tree

/-- **Directories form a tree**, whatever the modules are, as long as they have different paths of
the kind that files may have. -/
theorem directories_form_a_tree (modules : List SourceModule) (graph : DependencyGraph String)
    (analysis : GraphAnalysis String) (manifest : ManifestInfo String)
    (hpaths : ∀ module ∈ modules, IsFilePath module.path)
    (hdistinct : (modules.map (·.path)).Nodup) :
    (ofModules modules graph analysis manifest).FormsTree modules := by
  generalize hhere : ofModules modules graph analysis manifest = here
  have hperm : here.modules ~ modules := hhere ▸ mergeSort_perm modules _
  have hnames : ∀ module ∈ here.modules, ∀ name ∈ Text.segments '/' module.path,
      IsEntryName name :=
    fun module hmodule => (hpaths module (hperm.mem_iff.1 hmodule)).isEntryName
  have hdistinct' : (here.modules.map (·.path)).Nodup := (hperm.map _).nodup_iff.2 hdistinct
  have habove : ∀ directory, directory ∈ here.directories ↔
      ∃ module ∈ modules, IsAbove module.path directory := by
    intro directory
    rw [mem_directories_iff_isAbove hnames]
    exact exists_congr fun module => and_congr_left' hperm.mem_iff
  constructor
  case directories => exact habove
  case outer =>
    intro directory hdirectory
    obtain ⟨module, hmodule, hinner⟩ := (habove directory).1 hdirectory
    exact (habove _).2 ⟨module, hmodule, hinner.outer⟩
  case children => exact fun directory hdirectory name child =>
    mem_childDirectories_iff hnames hdirectory
  case distinct => exact fun directory _ => (hdistinct'.of_map _).filter _
  case parts =>
    intro directory hdirectory
    refine (modulesUnder_perm hnames hdistinct' hdirectory).trans ?_
    exact (hperm.filter _).append_right _

/-- A file at the top, and directories of which one is named like the beginning of another. -/
def nestedModules : List SourceModule :=
  [importing "ab/c/d.py" [], importing "a/b.py" [], importing "ab/e.py" [], importing "b" []]

def nestedSurroundings : Surroundings := ofModules nestedModules ⟨[], []⟩ .empty .empty

theorem nestedModules_form_a_tree :
    (∀ module ∈ nestedModules, IsFilePath module.path) ∧ (nestedModules.map (·.path)).Nodup ∧
    nestedSurroundings.FormsTree nestedModules ∧
    ("c", "ab/c") ∈ nestedSurroundings.childDirectories "ab" := by
  have hpaths : ∀ module ∈ nestedModules, IsFilePath module.path := by decide +kernel
  have hdistinct : (nestedModules.map (·.path)).Nodup := by decide +kernel
  have hform : nestedSurroundings.FormsTree nestedModules :=
    directories_form_a_tree nestedModules _ _ _ hpaths hdistinct
  have hinner : "ab/c" ∈ nestedSurroundings.directories := by
    refine (hform.directories "ab/c").2 ⟨importing "ab/c/d.py" [], mem_cons_self, ?_⟩
    have hlies : directoryOf "ab/c/d.py" = "ab/c" := by decide +kernel
    exact hlies ▸ IsAbove.lies
  have houter : directoryOf "ab/c" = "ab" := by decide +kernel
  have hlast : (Text.segments '/' "ab/c").getLast? = some "c" := by decide +kernel
  have hdirectory := hform.outer "ab/c" hinner
  rw [houter] at hdirectory
  refine ⟨hpaths, hdistinct, hform, (hform.children "ab" hdirectory "c" "ab/c").2 ?_⟩
  exact ⟨hinner, by decide, houter, hlast⟩

end Surroundings

end RepoAtlas
