import RepoAtlas.Manifest.Reading
import RepoAtlas.Proofs.Entry.Ranking
import RepoAtlas.Proofs.Path.Locations
import RepoAtlas.Proofs.Resolution.Known

/-!
# Entries of packages and imports of the same location

A `package.json` names files relative to itself, and so do imports in the files next to it.  Both
normalize a location and try the same candidates for it, each in its own way.  This is about when
the module that a `main` entry marks is the one that an import of the same text leads to.

**Locations.**  A leading `./` changes no location (`normalize_join_dot`), so both start from the
same one.  **Candidates.**  They agree on every location but two.  An import knows that `.` is the
top of the repository, where the index file has no directory in front of it, and that `..` is above
it; an entry knows neither.
-/

namespace RepoAtlas

open List

/-! ## Candidates -/

namespace Resolution.JavaScript

variable {known : Known} {importer target path : String}

/-- A specifier that starts with `./` is a location. -/
lemma resolve_dot (hrelative : Text.startsWith "/" target = false) :
    resolve known importer ("./" ++ target) =
      resolveLocation known (Path.normalize (Path.join (Path.parent importer) target)) := by
  have hne : "./" ++ target ≠ "" := by
    intro hempty
    have hchars := congrArg String.toList hempty
    rw [String.toList_append] at hchars
    cases hchars
  have hdot : Text.startsWith "." ("./" ++ target) = true := by
    rw [Text.startsWith, String.toList_append]
    rfl
  rw [resolve, if_neg hne, hdot, Bool.true_or, if_pos rfl, location,
    Path.startsWith_slash_dot, if_neg Bool.false_ne_true, Path.normalize_join_dot _ hrelative]

/-- Away from the top, an import leads to the first candidate, if the location is not outside. -/
lemma resolveLocation_eq_internal_iff {location : String} (htop : location ≠ ".")
    (habove : location ≠ "..") : resolveLocation known location = .internal path ↔
      Text.startsWith "../" location = false ∧
        (candidates location).find? known.paths.contains = some path := by
  have hclimbs : Path.climbsOut location = Text.startsWith "../" location := by
    rw [Path.climbsOut, beq_eq_false_iff_ne.2 habove, Bool.false_or]
  rw [resolveLocation, hclimbs, if_neg htop]
  cases Text.startsWith "../" location with
  | true => simp
  | false =>
      simp only [Bool.false_eq_true, if_false, true_and]
      constructor
      · exact ofPath?_eq_internal
      · intro hfound
        rw [hfound]
        rfl

end Resolution.JavaScript

namespace EntryPoint

open Resolution

variable {α : Type} {scale : Scale α} {weights : Weights α} {entries : List (String × Value)}
  {manifest importer target : String}

/-- The ranking says of a module that a manifest names it. -/
def IsMarked (ranked : List (EntryPoint String α)) (path : String) : Prop :=
  ∃ entry ∈ ranked, entry.path = path ∧ Heuristic.manifestMain.label ∈ entry.heuristics

lemma isMarked_rank_iff {graph : DependencyGraph String} {modules : List SourceModule}
    {hints : List (EntryHint String)} {path : String} :
    IsMarked (rank scale weights graph modules hints) path ↔
      ∃ hint ∈ hints, Names (graph.nodes.map (·.path)) hint path := by
  constructor
  · rintro ⟨_, hentry, rfl, hlabel⟩
    obtain ⟨index, node, -, rfl⟩ := mem_rank.1 hentry
    exact label_mem_heuristics_iff.1 hlabel
  · rintro ⟨hint, hhint, hnames⟩
    obtain ⟨node, hnode, rfl⟩ := mem_map.1 hnames.1
    obtain ⟨index, hindex⟩ := List.mem_iff_getElem?.1 hnode
    refine ⟨_, mem_rank.2 ⟨index, node, hindex, rfl⟩, rfl, label_mem_heuristics_iff.2 ?_⟩
    exact ⟨hint, hhint, hnames⟩

/-- The first of the hints of a package is that of its main entry. -/
lemma exists_hints_ofPackageJson (hmain : entries.lookup "main" = some (.str target)) :
    ∃ others, (Manifest.ofPackageJson manifest entries).hints =
      (Manifest.fileHint? manifest target).toList ++ others := by
  have htargets : ∃ others, Manifest.packageTargets entries = target :: others := by
    simp only [Manifest.packageTargets, hmain, Option.toList_some, singleton_append]
    exact ⟨_, rfl⟩
  obtain ⟨others, hothers⟩ := htargets
  refine ⟨others.filterMap (Manifest.fileHint? manifest), ?_⟩
  simp only [Manifest.ofPackageJson, hothers, filterMap_cons]
  cases Manifest.fileHint? manifest target <;> rfl

/-- What an entry of a package marks, in terms of its location. -/
lemma isMarked_fileHint?_iff {graph : DependencyGraph String} {modules : List SourceModule}
    {path location : String}
    (hlocation : Path.normalize (Path.join (Path.parent manifest) target) = location) :
    IsMarked (rank scale weights graph modules (Manifest.fileHint? manifest target).toList) path ↔
      Text.startsWith "../" location = false ∧
        (JavaScript.candidates location).find? (graph.nodes.map (·.path)).contains = some path := by
  rw [isMarked_rank_iff, Manifest.fileHint?, hlocation]
  simp only [names_iff]
  cases Text.startsWith "../" location with
  | true => simp
  | false => simp [hintedFiles]

/-- **An entry of a package marks the module that an import leads to, but for two locations.** -/
theorem package_entries_agree_with_imports_iff
    (hmain : entries.lookup "main" = some (.str target))
    (hrelative : Text.startsWith "/" target = false)
    (hbeside : Path.parent importer = Path.parent manifest) :
    let hint := (Manifest.fileHint? manifest target).toList
    let location := Path.normalize (Path.join (Path.parent manifest) target)
    (∃ others, (Manifest.ofPackageJson manifest entries).hints = hint ++ others) ∧
    ((∀ (graph : DependencyGraph String) (modules : List SourceModule) (packages : List String)
      (path : String), IsMarked (rank scale weights graph modules hint) path ↔
        JavaScript.resolve ⟨graph.nodes.map (·.path), packages⟩ importer ("./" ++ target) =
          .internal path) ↔
      location ≠ "." ∧ location ≠ "..") := by
  intro hint location
  refine ⟨exists_hints_ofPackageJson hmain, ?_⟩
  have hresolve : ∀ known, JavaScript.resolve known importer ("./" ++ target) =
      JavaScript.resolveLocation known location := by
    intro known
    rw [JavaScript.resolve_dot hrelative, hbeside]
  have hmarked : ∀ (graph : DependencyGraph String) (modules : List SourceModule) (path : String),
      IsMarked (rank scale weights graph modules hint) path ↔
        Text.startsWith "../" location = false ∧
          (JavaScript.candidates location).find? (graph.nodes.map (·.path)).contains =
            some path := by
    intro graph modules path
    exact isMarked_fileHint?_iff rfl
  constructor
  · intro hagree
    refine ⟨?top, ?above⟩
    case top =>
      -- The import finds the index file, for which the entry looks below a directory `.`.
      intro htop
      have hindex := hagree ⟨[⟨"index.js", .javaScript⟩], []⟩ [] [] "index.js"
      rw [hmarked, hresolve, htop] at hindex
      exact absurd (hindex.2 (by decide +kernel)).2 (by decide +kernel)
    case above =>
      -- The entry adds an extension to `..`, which the import refuses.
      intro habove
      have hdots := hagree ⟨[⟨"...js", .javaScript⟩], []⟩ [] [] "...js"
      rw [hmarked, hresolve, habove] at hdots
      exact absurd (hdots.1 ⟨by decide +kernel, by decide +kernel⟩) (by decide +kernel)
  · rintro ⟨htop, habove⟩ graph modules packages path
    rw [hmarked, hresolve, JavaScript.resolveLocation_eq_internal_iff htop habove]

/-- In the directory `web/app`, both lead to the index file of `web/lib`. -/
theorem nested_package_agrees :
    let entries : List (String × Value) := [("name", .str "shop"), ("main", .str ".././lib")]
    entries.lookup "main" = some (.str ".././lib") ∧ Text.startsWith "/" ".././lib" = false ∧
    Path.parent "web/app/start.js" = Path.parent "web/app/package.json" ∧
    ∀ (graph : DependencyGraph String) (modules : List SourceModule) (packages : List String)
      (path : String),
      IsMarked (rank .exact Weights.standard graph modules
        [⟨"path", "web/lib", "web/app/package.json"⟩]) path ↔
      JavaScript.resolve ⟨graph.nodes.map (·.path), packages⟩ "web/app/start.js" "./.././lib" =
        .internal path := by
  intro entries
  have hmain : entries.lookup "main" = some (.str ".././lib") := by decide +kernel
  have hrelative : Text.startsWith "/" ".././lib" = false := by decide +kernel
  have hbeside : Path.parent "web/app/start.js" = Path.parent "web/app/package.json" := by
    decide +kernel
  have hhint : (Manifest.fileHint? "web/app/package.json" ".././lib").toList =
      [⟨"path", "web/lib", "web/app/package.json"⟩] := by decide +kernel
  refine ⟨hmain, hrelative, hbeside, ?_⟩
  rw [← hhint]
  exact (package_entries_agree_with_imports_iff hmain hrelative hbeside).2.2
    ⟨by decide +kernel, by decide +kernel⟩

/-- **At the top of the repository they differ.**  `.` is the index file for an import, and nothing
for an entry. -/
theorem top_package_differs :
    ¬ ∀ (entries : List (String × Value)) (manifest importer target : String)
      (graph : DependencyGraph String) (modules : List SourceModule) (packages : List String)
      (path : String),
      entries.lookup "main" = some (.str target) → Text.startsWith "/" target = false →
      Path.parent importer = Path.parent manifest →
      (IsMarked (rank .exact Weights.standard graph modules
          (Manifest.fileHint? manifest target).toList) path ↔
        JavaScript.resolve ⟨graph.nodes.map (·.path), packages⟩ importer ("./" ++ target) =
          .internal path) := by
  intro h
  have hindex := h [("main", .str ".")] "package.json" "app.js" "."
    ⟨[⟨"app.js", .javaScript⟩, ⟨"index.js", .javaScript⟩], []⟩ [] [] "index.js"
    (by decide +kernel) (by decide +kernel) (by decide +kernel)
  have hmarked := isMarked_rank_iff.1 (hindex.2 (by decide +kernel))
  simp only [names_iff] at hmarked
  exact absurd hmarked (by decide +kernel)

end EntryPoint

end RepoAtlas
