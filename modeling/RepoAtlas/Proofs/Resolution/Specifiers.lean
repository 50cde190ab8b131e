import RepoAtlas.Inventory.Intake
import RepoAtlas.Proofs.Path.Locations
import RepoAtlas.Proofs.Resolution.Known

/-!
# Specifiers of files

A file is imported by the way that leads to it from the directory of the importing file: up with
`../` to a directory that both lie in, and down from there by name.  `relativeSpecifier` writes that
way, and **whatever directory it goes through, it resolves to the file**
(`resolve_relativeSpecifier`), since the file itself is the first thing that a location may stand
for.

A specifier of a location never leads to a package, and none at all leads out of the repository.
-/

namespace RepoAtlas

open List

namespace Path

variable {path base relative : String} {directory : List String}

/-- What is accepted as the path of a file is relative and consists of names. -/
lemma isName_of_checkPath (h : Intake.checkPath path = .ok ()) :
    ∀ name ∈ Text.segments '/' path, IsName name := by
  unfold Intake.checkPath at h
  split_ifs at h with hrelative hodd
  rw [Bool.not_eq_true, any_eq_false] at hodd
  intro name hname
  simpa [Intake.isOddSegment, IsName, and_assoc] using hodd name hname

/-- **A relative path is followed from the directory** that it is joined to. -/
lemma foldl_follow_join (hdirectory : ∀ name ∈ directory, IsName name ∧ '/' ∉ name.toList)
    (hrelative : Text.startsWith "/" relative = false) :
    (Text.segments '/' (join (Text.joined "/" directory) relative)).foldl (follow false) [] =
      (Text.segments '/' relative).foldl (follow false) directory.reverse := by
  rcases eq_or_ne directory [] with rfl | hsome
  · rw [Text.joined_nil, join_empty hrelative, reverse_nil]
  · rw [join_joined (fun name hname => (hdirectory name hname).imp_left fun h => h.ne.1) hsome
        hrelative, segments_append_slash,
      segments_joined (fun name hname => (hdirectory name hname).2) hsome, foldl_append,
      foldl_follow_names fun name hname => (hdirectory name hname).1, append_nil]

lemma startsWith_slash_join (hdirectory : ∀ name ∈ directory, IsName name ∧ '/' ∉ name.toList)
    (hrelative : Text.startsWith "/" relative = false) :
    Text.startsWith "/" (join (Text.joined "/" directory) relative) = false := by
  cases hnames : directory with
  | nil => rwa [Text.joined_nil, join_empty hrelative]
  | cons first rest =>
      rw [← hnames, join_joined (fun name hname => (hdirectory name hname).imp_left fun h => h.ne.1)
        (by simp [hnames]) hrelative]
      refine startsWith_slash_of_head? ?_
      rw [segments_append_slash,
        segments_joined (fun name hname => (hdirectory name hname).2) (by simp [hnames]), hnames]
      have hfirst := (hdirectory first (by simp [hnames])).1.ne.1
      simpa using hfirst

end Path

namespace Resolution.JavaScript

variable {known : Known} {importer path target : String} {shared up down : List String}

/-- Goes up some directories first. -/
def climbing : ℕ → String → String
  | 0, below => below
  | count + 1, below => "../" ++ climbing count below

/-- The specifier of what lies further down from the directory that is `count` above. -/
def relativeSpecifier (count : ℕ) (down : List String) : String :=
  if count = 0 then "./" ++ Text.joined "/" down else climbing count (Text.joined "/" down)

/-- What a specifier of a location says, as a path from the top of the repository. -/
def written (importer target : String) : String :=
  if Text.startsWith "/" target then Text.dropLeading '/' target
  else Path.join (Path.parent importer) target

lemma location_eq (importer target : String) :
    location importer target = Path.normalize (written importer target) := by
  unfold location written
  split_ifs <;> rfl

lemma resolve_of_location
    (htarget : Text.startsWith "." target = true ∨ Text.startsWith "/" target = true) :
    resolve known importer target = resolveLocation known (location importer target) := by
  have hsome : target ≠ "" := by
    rintro rfl
    revert htarget
    decide
  rw [resolve, if_neg hsome, if_pos (by simpa using htarget)]

lemma exists_candidates_eq (hpath : path ≠ "") : ∃ others, candidates path = path :: others := by
  simp only [candidates, if_neg hpath, cons_append]
  exact ⟨_, rfl⟩

/-- **A known file is the first thing that its path stands for.** -/
lemma resolveLocation_self (hpath : ∀ name ∈ Text.segments '/' path, Path.IsName name)
    (hknown : path ∈ known.paths) : resolveLocation known path = .internal path := by
  have hinside : Path.climbsOut path = false := by
    rw [Bool.eq_false_iff, Ne, Path.climbsOut_iff]
    intro hup
    exact (hpath ".." (mem_of_head? hup)).ne.2.2 rfl
  have hsome : path ≠ "" ∧ path ≠ "." := by
    have hempty : Text.segments '/' "" = [""] := by decide +kernel
    have hdot : Text.segments '/' "." = ["."] := by decide +kernel
    constructor
    · rintro rfl
      exact (hpath "" (by rw [hempty]; exact mem_cons_self)).ne.1 rfl
    · rintro rfl
      exact (hpath "." (by rw [hdot]; exact mem_cons_self)).ne.2.1 rfl
  obtain ⟨others, hcandidates⟩ := exists_candidates_eq hsome.1
  have hfound : known.paths.contains path = true := by simpa using hknown
  simp only [resolveLocation, hinside, Bool.false_eq_true, if_false, if_neg hsome.2, hcandidates]
  rw [find?_cons_of_pos hfound]
  rfl

/-- A location is a known module or nothing. -/
lemma resolveLocation_cases (known : Known) (location : String) :
    (∃ path ∈ known.paths, resolveLocation known location = .internal path) ∨
      resolveLocation known location = .unresolved := by
  cases hanswer : resolveLocation known location with
  | internal path => exact Or.inl ⟨path, mem_of_resolveLocation hanswer, rfl⟩
  | unresolved => exact Or.inr rfl
  | external package =>
      simp only [resolveLocation, Resolution.ofPath?] at hanswer
      split_ifs at hanswer
      all_goals split at hanswer <;> cases hanswer

lemma segments_climbing (count : ℕ) (below : String) : Text.segments '/' (climbing count below) =
    replicate count ".." ++ Text.segments '/' below := by
  have hup : Text.segments '/' ".." = [".."] := by decide +kernel
  induction count with
  | zero => rfl
  | succ count ih =>
      have hsplit : "../" ++ climbing count below = ".." ++ "/" ++ climbing count below := rfl
      rw [climbing, hsplit, Path.segments_append_slash, hup, ih, singleton_append, replicate_succ,
        cons_append]

lemma startsWith_relativeSpecifier (count : ℕ) (down : List String) :
    Text.startsWith "." (relativeSpecifier count down) = true ∧
      Text.startsWith "/" (relativeSpecifier count down) = false := by
  unfold relativeSpecifier
  cases count with
  | zero => simp [Text.startsWith, isPrefixOf]
  | succ count => simp [Text.startsWith, isPrefixOf, climbing]

/-- Following a specifier leaves the names `up` and enters the names `down`. -/
lemma foldl_follow_relativeSpecifier (hup : ∀ name ∈ up, Path.IsName name)
    (hdown : ∀ name ∈ down, Path.IsName name ∧ '/' ∉ name.toList) :
    (Text.segments '/' (relativeSpecifier up.length down)).foldl (Path.follow false)
      (shared ++ up).reverse = (shared ++ down).reverse := by
  have henter : ∀ above,
      (Text.segments '/' (Text.joined "/" down)).foldl (Path.follow false) above =
        down.reverse ++ above := by
    intro above
    rcases eq_or_ne down [] with rfl | hsome
    · have hempty : Text.segments '/' "" = [""] := by decide +kernel
      rw [Text.joined_nil, hempty, foldl_cons, foldl_nil, reverse_nil, nil_append,
        Path.follow.eq_def, if_pos (Or.inl rfl)]
    · rw [Path.segments_joined (fun name hname => (hdown name hname).2) hsome,
        Path.foldl_follow_names fun name hname => (hdown name hname).1]
  rcases eq_or_ne up [] with rfl | hsome
  · rw [relativeSpecifier, length_nil, if_pos rfl, Path.segments_dot, foldl_cons, Path.follow_dot,
      henter, append_nil, reverse_append]
  · have hcount : up.length ≠ 0 := by simpa using hsome
    have hback : (replicate up.length "..").foldl (Path.follow false)
        (up.reverse ++ shared.reverse) = shared.reverse := by
      rw [← length_reverse]
      exact Path.foldl_follow_up fun name hname => hup name (mem_reverse.1 hname)
    rw [relativeSpecifier, if_neg hcount, segments_climbing, foldl_append, reverse_append, hback,
      henter, reverse_append]

/-- **The way to a file resolves to it**, through whatever common directory it goes. -/
lemma resolve_relativeSpecifier
    (himporter : ∀ name ∈ Text.segments '/' importer, Path.IsName name)
    (hpath : ∀ name ∈ Text.segments '/' path, Path.IsName name) (hknown : path ∈ known.paths)
    (hfrom : Path.directorySegments importer = shared ++ up)
    (hto : Text.segments '/' path = shared ++ down) :
    resolve known importer (relativeSpecifier up.length down) = .internal path := by
  have hdirectory : ∀ name ∈ shared ++ up, Path.IsName name ∧ '/' ∉ name.toList := by
    intro name hname
    rw [← hfrom] at hname
    have hmem : name ∈ Text.segments '/' importer := mem_of_mem_dropLast hname
    exact ⟨himporter name hmem, Text.not_mem_of_mem_segments hmem⟩
  have hbelow : ∀ name ∈ shared ++ down, Path.IsName name ∧ '/' ∉ name.toList := by
    rw [← hto]
    exact fun name hname => ⟨hpath name hname, Text.not_mem_of_mem_segments hname⟩
  obtain ⟨hdot, hslash⟩ := startsWith_relativeSpecifier up.length down
  have hparent : Path.parent importer = Text.joined "/" (shared ++ up) := by
    rw [Path.parent_eq fun name hname => ?_, hfrom]
    exact (hdirectory name (hfrom ▸ hname)).1.ne.1
  have hlocation : location importer (relativeSpecifier up.length down) = path := by
    have hfollow := Path.foldl_follow_join hdirectory hslash
    rw [foldl_follow_relativeSpecifier (fun name hname => (hdirectory name (by simp [hname])).1)
      fun name hname => hbelow name (by simp [hname])] at hfollow
    have hsome : shared ++ down ≠ [] := hto ▸ Text.segments_ne_nil '/' path
    rw [location_eq, written, if_neg (by simp [hslash]), hparent,
      Path.normalize_of_relative (Path.startsWith_slash_join hdirectory hslash) hfollow
        fun name hname => (hbelow name hname).1.ne.1,
      if_neg hsome, ← hto, Path.joined_segments]
  rw [resolve_of_location (Or.inl hdot), hlocation, resolveLocation_self hpath hknown]

/-- **Specifiers of locations.**  The way to a known file leads to it; a location is a known module
or nothing, and nothing if the way there leads out of the repository. -/
theorem specifiers_lead_to_files (known : Known) :
    ((∀ path ∈ known.paths, Intake.checkPath path = .ok ()) →
      ∀ importer ∈ known.paths, ∀ path ∈ known.paths, ∀ shared up down,
        Path.directorySegments importer = shared ++ up → Text.segments '/' path = shared ++ down →
          resolve known importer (relativeSpecifier up.length down) = .internal path) ∧
    ∀ importer target, Text.startsWith "." target = true ∨ Text.startsWith "/" target = true →
      ((∃ path ∈ known.paths, resolve known importer target = .internal path) ∨
        resolve known importer target = .unresolved) ∧
      (Path.climbsOut (location importer target) = true ↔
        Text.startsWith "/" (written importer target) = false ∧
          Path.LeadsAbove (Text.segments '/' (written importer target))) ∧
      (Path.climbsOut (location importer target) = true →
        resolve known importer target = .unresolved) := by
  constructor
  · intro haccepted importer himporter path hknown shared up down hfrom hto
    exact resolve_relativeSpecifier (Path.isName_of_checkPath (haccepted importer himporter))
      (Path.isName_of_checkPath (haccepted path hknown)) hknown hfrom hto
  · intro importer target htarget
    rw [resolve_of_location htarget]
    refine ⟨resolveLocation_cases known (location importer target), ?_, ?_⟩
    · rw [location_eq]
      exact Path.climbsOut_normalize_iff _
    · intro hout
      rw [resolveLocation, if_pos hout]

/-- From one directory of a repository to another, and one directory too far up. -/
theorem sibling_directory_is_reached :
    let known : Known := ⟨["web/app/main.js", "web/lib/util.js", "index.js"], []⟩
    (∀ path ∈ known.paths, Intake.checkPath path = .ok ()) ∧
    relativeSpecifier 1 ["lib", "util.js"] = "../lib/util.js" ∧
    resolve known "web/app/main.js" "../lib/util.js" = .internal "web/lib/util.js" ∧
    Path.climbsOut (location "web/app/main.js" "../../../index.js") = true ∧
    resolve known "web/app/main.js" "../../../index.js" = .unresolved := by
  intro known
  have haccepted : ∀ path ∈ known.paths, Intake.checkPath path = .ok () := by decide +kernel
  have hspecifier : relativeSpecifier 1 ["lib", "util.js"] = "../lib/util.js" := by decide +kernel
  have hdot : Text.startsWith "." "../../../index.js" = true := by decide +kernel
  have hout : Path.climbsOut (location "web/app/main.js" "../../../index.js") = true := by
    decide +kernel
  obtain ⟨hround, hrules⟩ := specifiers_lead_to_files known
  have hreached := hround haccepted "web/app/main.js" (by decide) "web/lib/util.js" (by decide)
    ["web"] ["app"] ["lib", "util.js"] (by decide +kernel) (by decide +kernel)
  rw [length_singleton, hspecifier] at hreached
  exact ⟨haccepted, hspecifier, hreached, hout,
    (hrules "web/app/main.js" "../../../index.js" (Or.inl hdot)).2.2 hout⟩

end Resolution.JavaScript

end RepoAtlas
