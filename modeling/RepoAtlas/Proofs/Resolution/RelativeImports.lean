import RepoAtlas.Proofs.Path.Segments
import RepoAtlas.Resolution.Python

/-!
# Imports relative to a directory

A relative import counts directories upwards by its dots and goes down by a dotted name.  One dot is
the directory of the importing file, and each further one the directory above
(`ancestor?_joined`), until there is none left (`ancestor?_eq_none`).

Below the directory that is reached, **a file is found under its dotted name**
(`lookup?_joined`), whether the name is written out or its last part is imported from the rest.
-/

namespace RepoAtlas.Resolution.Python

open List

variable {known : Known} {importer file name : String} {base left directory parts : List String}
  {symbols : List String}

/-! ## Names -/

/-- What may stand between the dots of an import, and between the slashes of a path. -/
def IsPart (name : String) : Prop := name ≠ "" ∧ '.' ∉ name.toList ∧ '/' ∉ name.toList

instance : DecidablePred IsPart := fun _ => inferInstanceAs (Decidable (_ ∧ _ ∧ _))

/-- A relative import of a dotted name, seen from the directory that is `up` above. -/
def relativeTarget (up : ℕ) (parts : List String) : String :=
  String.ofList (replicate (up + 1) '.') ++ Text.joined "." parts

/-- A dotted name does not start with a dot. -/
lemma takeWhile_joined (hparts : ∀ part ∈ parts, IsPart part) :
    (Text.joined "." parts).toList.takeWhile (· == '.') = [] := by
  cases parts with
  | nil => simp
  | cons part rest =>
      obtain ⟨hsome, hdot, -⟩ := hparts part mem_cons_self
      have hchars : part.toList ≠ [] := by simpa using hsome
      obtain ⟨c, cs, hcons⟩ := exists_cons_of_ne_nil hchars
      have hc : (c == '.') = false := by
        rw [beq_eq_false_iff_ne]
        rintro rfl
        exact hdot (hcons ▸ mem_cons_self)
      rcases eq_or_ne rest [] with rfl | hrest
      · simp [hcons, hc]
      · simp [Text.joined_cons "." hrest, hcons, hc]

/-! ## Directories above -/

/-- **As many directories up as were counted.** -/
lemma ancestor?_joined (h : ∀ name ∈ base ++ left, Path.IsSegment name) :
    ancestor? left.length (Text.joined "/" (base ++ left)) = some (Text.joined "/" base) := by
  induction left using reverseRecOn with
  | nil => rw [append_nil, length_nil, ancestor?]
  | append_singleton above last ih =>
      rw [← append_assoc] at h ⊢
      rw [forall_mem_append] at h
      have hsome : Text.joined "/" (base ++ above ++ [last]) ≠ "" := by
        rw [Ne, Text.joined_eq_empty_iff (forall_mem_append.2 ⟨fun name hname => (h.1 name hname).1,
          fun name hname => (h.2 name hname).1⟩)]
        simp
      rw [length_append, length_singleton, ancestor?, if_neg hsome,
        Path.parent_joined h.1 (h.2 last (mem_singleton_self last)).2, ih h.1]

/-- There is nothing above the top. -/
lemma ancestor?_eq_none {count : ℕ} (h : ∀ name ∈ directory, Path.IsSegment name)
    (hcount : directory.length < count) :
    ancestor? count (Text.joined "/" directory) = none := by
  obtain ⟨count, rfl⟩ := Nat.exists_eq_succ_of_ne_zero (Nat.ne_zero_of_lt hcount)
  induction directory using reverseRecOn generalizing count with
  | nil => rw [ancestor?, Text.joined_nil, if_pos rfl]
  | append_singleton above last ih =>
      rw [length_append, length_singleton] at hcount
      obtain ⟨fewer, rfl⟩ := Nat.exists_eq_succ_of_ne_zero (n := count) (by omega)
      have hlast := h last (by simp)
      rw [forall_mem_append] at h
      rw [ancestor?]
      split_ifs
      · rfl
      · rw [Path.parent_joined h.1 hlast.2, ih h.1 fewer (by omega)]

/-! ## Dotted names below a directory -/

lemma below_joined (hbase : ∀ name ∈ base, Path.IsSegment name)
    (hparts : ∀ part ∈ parts, IsPart part) (hsome : parts ≠ []) :
    below (Text.joined "/" base) (Text.joined "/" parts) = Text.joined "/" (base ++ parts) := by
  simp only [below, Text.joined_eq_empty_iff fun name hname => (hbase name hname).1]
  split_ifs with hnone
  · rw [hnone, nil_append]
  · have hrelative : Text.startsWith "/" (Text.joined "/" parts) = false := by
      refine Path.startsWith_slash_of_head? ?_
      rw [Path.segments_joined (fun part hpart => (hparts part hpart).2.2) hsome]
      intro hfirst
      exact (hparts "" (mem_of_head? hfirst)).1 rfl
    rw [Path.join_joined hbase hnone hrelative, Text.joined_append "/" hnone hsome]

/-- The files that a dotted name may stand for. -/
lemma candidates_joined (hbase : ∀ name ∈ base, Path.IsSegment name)
    (hparts : ∀ part ∈ parts, IsPart part) (hsome : parts ≠ []) :
    candidates (Text.joined "/" base) (Text.joined "." parts) =
      [Text.joined "/" (base ++ parts) ++ ".py", Text.joined "/" (base ++ parts) ++ "/__init__.py",
        Text.joined "/" (base ++ parts) ++ ".pyi"] := by
  have hcut : Text.segments '.' (Text.joined "." parts) = parts :=
    Text.segments_joined (fun part hpart => (hparts part hpart).2.1) hsome
  simp only [candidates, Text.replaceChar, hcut, below_joined hbase hparts hsome]

/-- The file at `stem`, or else the package there. -/
def IsModuleAt (known : Known) (stem file : String) : Prop :=
  file ∈ known.paths ∧
    (file = stem ++ ".py" ∨ file = stem ++ "/__init__.py" ∧ stem ++ ".py" ∉ known.paths)

instance (known : Known) (stem file : String) : Decidable (IsModuleAt known stem file) :=
  inferInstanceAs (Decidable (_ ∧ _))

/-- **A file is found under its dotted name**, and a package if there is no such file. -/
lemma lookup?_joined (hbase : ∀ name ∈ base, Path.IsSegment name)
    (hparts : ∀ part ∈ parts, IsPart part) (hsome : parts ≠ [])
    (hfile : IsModuleAt known (Text.joined "/" (base ++ parts)) file) :
    lookup? known none [Text.joined "/" base] (Text.joined "." parts) = some file := by
  rw [lookup?, flatMap_singleton, candidates_joined hbase hparts hsome]
  obtain ⟨hknown, rfl | ⟨rfl, hnone⟩⟩ := hfile
  · exact find?_cons_of_pos (by simpa using hknown)
  · rw [find?_cons_of_neg (by simpa using hnone)]
    exact find?_cons_of_pos (by simpa using hknown)

/-- What is imported from a dotted name is looked up behind it. -/
lemma submodules_joined (symbols : List String) (hparts : ∀ part ∈ parts, part ≠ "")
    (hname : name ≠ "*") :
    ∃ others, submodules (Text.joined "." parts) (name :: symbols) =
      Text.joined "." (parts ++ [name]) :: others := by
  have hkeep : (name != "*") = true := by simpa using hname
  have hfiltered : (name :: symbols).filter (· != "*") = name :: symbols.filter (· != "*") :=
    filter_cons_of_pos hkeep
  simp only [submodules, hfiltered, map_cons, Text.joined_eq_empty_iff hparts]
  refine ⟨_, congrArg (· :: _) ?_⟩
  split_ifs with hnone
  · rw [hnone, nil_append, Text.joined_singleton]
  · rw [Text.joined_append "." hnone (by simp), Text.joined_singleton]

/-- The last part of a dotted name may be imported from the rest. -/
lemma moduleOrSubmodule?_joined (symbols : List String)
    (hbase : ∀ name ∈ base, Path.IsSegment name)
    (hparts : ∀ part ∈ parts ++ [name], IsPart part)
    (hfile : IsModuleAt known (Text.joined "/" (base ++ (parts ++ [name]))) file) :
    moduleOrSubmodule? known none [Text.joined "/" base] (Text.joined "." (parts ++ [name])) [] =
        some file ∧
      (name ≠ "*" → moduleOrSubmodule? known none [Text.joined "/" base] (Text.joined "." parts)
        (name :: symbols) = some file) := by
  have hfound := lookup?_joined hbase hparts (by simp) hfile
  constructor
  · have hsome : Text.joined "." (parts ++ [name]) ≠ "" := by
      rw [Ne, Text.joined_eq_empty_iff fun part hpart => (hparts part hpart).1]
      simp
    simp only [moduleOrSubmodule?, submodules, filter_nil, map_nil, findSome?_nil, if_neg hsome]
    exact hfound
  · intro hname
    obtain ⟨others, hsubmodules⟩ := submodules_joined symbols
      (fun part hpart => (hparts part (mem_append_left _ hpart)).1) hname
    simp only [moduleOrSubmodule?, hsubmodules, findSome?_cons, hfound]

/-! ## Relative imports -/

lemma takeWhile_dots (count : ℕ) (rest : String) :
    (String.ofList (replicate count '.') ++ rest).toList.takeWhile (· == '.') =
      replicate count '.' ++ rest.toList.takeWhile (· == '.') := by
  rw [String.toList_append, String.toList_ofList, takeWhile_append_of_pos]
  intro c hc
  simp [eq_of_mem_replicate hc]

lemma dropLeading_dots (count : ℕ) {rest : String} (h : rest.toList.takeWhile (· == '.') = []) :
    Text.dropLeading '.' (String.ofList (replicate count '.') ++ rest) = rest := by
  have hrest := takeWhile_append_dropWhile (p := (· == '.')) (l := rest.toList)
  rw [h, nil_append] at hrest
  rw [Text.dropLeading, String.toList_append, String.toList_ofList, dropWhile_append_of_pos, hrest,
    String.ofList_toList]
  intro c hc
  simp [eq_of_mem_replicate hc]

lemma startsWith_dots {count : ℕ} (hcount : 0 < count) (rest : String) :
    Text.startsWith "." (String.ofList (replicate count '.') ++ rest) = true := by
  obtain ⟨fewer, rfl⟩ := Nat.exists_eq_succ_of_ne_zero hcount.ne'
  simp [Text.startsWith, replicate_succ, isPrefixOf]

/-- The dots of an import lead to a directory, in which the rest of it is looked up. -/
lemma resolve_relativeTarget (hbase : ∀ name ∈ base ++ left, Path.IsSegment name)
    (hfrom : Path.directorySegments importer = base ++ left)
    (hparts : ∀ part ∈ parts, IsPart part) :
    resolve known importer (relativeTarget left.length parts) symbols =
      .ofPath? (moduleOrSubmodule? known none [Text.joined "/" base] (Text.joined "." parts)
        symbols) := by
  have hparent : Path.parent importer = Text.joined "/" (base ++ left) := by
    rw [← hfrom] at hbase ⊢
    exact Path.parent_eq fun name hname => (hbase name hname).1
  have hdots : ((relativeTarget left.length parts).toList.takeWhile (· == '.')).length - 1 =
      left.length := by
    rw [relativeTarget, takeWhile_dots, takeWhile_joined hparts, append_nil, length_replicate,
      Nat.add_sub_cancel]
  have hrest : Text.dropLeading '.' (relativeTarget left.length parts) = Text.joined "." parts :=
    dropLeading_dots (left.length + 1) (takeWhile_joined hparts)
  have hstart : Text.startsWith "." (relativeTarget left.length parts) = true :=
    startsWith_dots (Nat.succ_pos left.length) _
  rw [resolve, if_pos hstart]
  simp only [resolveRelative, hdots, hrest, hparent, ancestor?_joined hbase]

/-- More dots than there are directories lead nowhere. -/
lemma resolve_dots_eq_unresolved {count : ℕ} (rest : String)
    (hdirectory : ∀ name ∈ Path.directorySegments importer, name ≠ "")
    (hcount : (Path.directorySegments importer).length + 1 < count) :
    resolve known importer (String.ofList (replicate count '.') ++ rest) symbols =
      .unresolved := by
  have hnames := Path.isSegment_of_directory hdirectory
  rw [resolve, if_pos (startsWith_dots (by omega) rest)]
  simp only [resolveRelative, takeWhile_dots, length_append, length_replicate,
    Path.parent_eq hdirectory]
  rw [ancestor?_eq_none hnames (by omega)]

/-- **Relative imports lead to files.**  Seen from a directory above the importing file, each module
below is reached by its dotted name, and by importing the last part of the name from the rest.
Nothing lies above the top of the repository. -/
theorem relative_imports_lead_to_files (known : Known) (importer : String)
    (hdirectory : ∀ name ∈ Path.directorySegments importer, name ≠ "") :
    (∀ base left parts name file, Path.directorySegments importer = base ++ left →
      (∀ part ∈ parts ++ [name], IsPart part) →
      IsModuleAt known (Text.joined "/" (base ++ (parts ++ [name]))) file →
      resolve known importer (relativeTarget left.length (parts ++ [name])) [] = .internal file ∧
      (name ≠ "*" → ∀ others,
        resolve known importer (relativeTarget left.length parts) (name :: others) =
          .internal file)) ∧
    ∀ count rest symbols, (Path.directorySegments importer).length + 1 < count →
      resolve known importer (String.ofList (replicate count '.') ++ rest) symbols =
        .unresolved := by
  constructor
  · intro base left parts name file hfrom hparts hfile
    have hnames : ∀ name ∈ base ++ left, Path.IsSegment name :=
      hfrom ▸ Path.isSegment_of_directory hdirectory
    have hbase := (forall_mem_append.1 hnames).1
    constructor
    · rw [resolve_relativeTarget hnames hfrom hparts,
        (moduleOrSubmodule?_joined [] hbase hparts hfile).1]
      rfl
    · intro hname others
      rw [resolve_relativeTarget hnames hfrom (forall_mem_append.1 hparts).1,
        (moduleOrSubmodule?_joined others hbase hparts hfile).2 hname]
      rfl
  · exact fun count rest symbols hcount => resolve_dots_eq_unresolved rest hdirectory hcount

/-- A module beside the directory of the importing file, its package, and one dot too many. -/
theorem neighbouring_package_is_reached :
    let known : Known := ⟨["pkg/util/io.py", "pkg/data/__init__.py"], []⟩
    relativeTarget 1 ["util", "io"] = "..util.io" ∧
    resolve known "pkg/sub/mod.py" "..util.io" [] = .internal "pkg/util/io.py" ∧
    resolve known "pkg/sub/mod.py" "..util" ["io", "os"] = .internal "pkg/util/io.py" ∧
    resolve known "pkg/sub/mod.py" ".." ["data"] = .internal "pkg/data/__init__.py" ∧
    resolve known "pkg/sub/mod.py" "....util.io" [] = .unresolved := by
  intro known
  have hdirectory : Path.directorySegments "pkg/sub/mod.py" = ["pkg"] ++ ["sub"] := by
    decide +kernel
  have hlong : relativeTarget 1 ["util", "io"] = "..util.io" := by decide +kernel
  have hshort : relativeTarget 1 ["util"] = "..util" := by decide +kernel
  have hnothing : relativeTarget 1 [] = ".." := by decide +kernel
  have hmodule : IsModuleAt known "pkg/util/io" "pkg/util/io.py" := by decide +kernel
  have hpackage : IsModuleAt known "pkg/data" "pkg/data/__init__.py" := by decide +kernel
  obtain ⟨hdown, hup⟩ := relative_imports_lead_to_files known "pkg/sub/mod.py" (by decide +kernel)
  have hio := hdown ["pkg"] ["sub"] ["util"] "io" "pkg/util/io.py" hdirectory (by decide) hmodule
  have hdata := hdown ["pkg"] ["sub"] [] "data" "pkg/data/__init__.py" hdirectory (by decide)
    hpackage
  rw [length_singleton, singleton_append, hlong, hshort] at hio
  rw [length_singleton, hnothing] at hdata
  refine ⟨hlong, hio.1, hio.2 (by decide) ["os"], hdata.2 (by decide) [], ?_⟩
  exact hup 4 "util.io" [] (by decide +kernel)

end RepoAtlas.Resolution.Python
