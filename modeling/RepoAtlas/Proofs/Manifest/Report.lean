import RepoAtlas.Proofs.Manifest.Reading

/-!
# What manifests say together

All manifests are read into one report, and this is about how it depends on each of them.

**Packages** have the version that the first manifest in path order declares, because packages are
only ever added (`mem_packagesFor_iff`).  **Frameworks** are looked for among all names with
repetitions; these are the names of the packages, so the packages decide (`frameworks_ofTexts`).
`Reports` puts this together with what manifests leave that are not well formed.
-/

namespace RepoAtlas

open List

/-! ## Files with texts -/

namespace Manifest

variable {name version : String} {file : String × String} {language : Language}

/-- A file as it is handed to the reading. -/
def asContent (file : String × String) : String × Value := (file.1, .str file.2)

/-- A well-formed manifest of the language declares the package with this version. -/
def DeclaresAs (language : Language) (file : String × String) (name version : String) : Prop :=
  ∃ kind declared, ManifestKind.ofPath? file.1 = some kind ∧ kind.language = language ∧
    declarations kind file.1 file.2 = .ok (.ok declared) ∧ (name, version) ∈ declared.packages

/-- A well-formed manifest of the language declares the package. -/
def Declares (language : Language) (file : String × String) (name : String) : Prop :=
  ∃ version, DeclaresAs language file name version

lemma mem_packagesIn : (name, version) ∈ packagesIn language (asContent file) ↔
    DeclaresAs language file name version := by
  unfold packagesIn DeclaresAs
  constructor
  · intro hmem
    split at hmem
    · rename_i kind declared hdeclared
      split_ifs at hmem with hlanguage
      · obtain ⟨hkind, hok⟩ := declared?_eq_some_iff.1 hdeclared
        exact ⟨kind, declared, hkind, hlanguage, hok, hmem⟩
      · cases hmem
    · cases hmem
  · rintro ⟨kind, declared, hkind, hlanguage, hok, hmem⟩
    rw [asContent, declared?_eq_some_iff.2 ⟨hkind, hok⟩]
    simpa [hlanguage] using hmem

lemma mem_keys_packagesIn : name ∈ (packagesIn language (asContent file)).map (·.1) ↔
    Declares language file name := by
  rw [mem_map]
  constructor
  · rintro ⟨⟨_, version⟩, hmem, rfl⟩
    exact ⟨version, mem_packagesIn.1 hmem⟩
  · rintro ⟨version, hdeclares⟩
    exact ⟨(name, version), mem_packagesIn.2 hdeclares, rfl⟩

end Manifest

namespace ManifestInfo

open Manifest

variable {info : ManifestInfo String} {manifests : List (String × String)} {language : Language}
  {name version : String}

lemma inReadingOrder_eq (manifests : List (String × String)) :
    inReadingOrder manifests = (byKey (·.1) manifests).map asContent := by
  have hsorted : (byKey (·.1) manifests).map asContent =
      (manifests.map asContent).mergeSort fun a b => a.1 ≤ b.1 :=
    map_mergeSort fun _ _ _ _ => rfl
  exact hsorted.symm

lemma eq_of_ofTexts (h : ofTexts manifests = .ok info) :
    info = (Gathered.ofFiles ((byKey (·.1) manifests).map asContent)).withFrameworks := by
  obtain ⟨entries, hentries, rfl⟩ := exists_eq_of_ofValue h
  cases hentries
  rw [← inReadingOrder_eq]
  rfl

/-- Some of the manifests can be read if all can. -/
lemma exists_ofTexts_filter (h : ofTexts manifests = .ok info) (keep : String × String → Bool) :
    ofTexts (manifests.filter keep) = .ok (Gathered.ofFiles
      ((byKey (·.1) (manifests.filter keep)).map asContent)).withFrameworks := by
  cases hkept : ofTexts (manifests.filter keep) with
  | error e =>
      obtain ⟨file, hfile, hscalar⟩ := exists_error_ofTexts_iff.1 ⟨e, hkept⟩
      obtain ⟨e', he'⟩ := exists_error_ofTexts_iff.2 ⟨file, mem_of_mem_filter hfile, hscalar⟩
      rw [h] at he'
      cases he'
  | ok others => rw [eq_of_ofTexts hkept]

/-! ## Packages -/

lemma packagesFor_ofTexts (h : ofTexts manifests = .ok info) (language : Language) :
    info.packagesFor language = Entries.addNew []
      (((byKey (·.1) manifests).map asContent).flatMap (packagesIn language)) := by
  rw [eq_of_ofTexts h, packagesFor_ofFiles]

/-- **A package is listed when a well-formed manifest declares it.** -/
lemma mem_keys_packagesFor_iff (h : ofTexts manifests = .ok info) :
    name ∈ (info.packagesFor language).map (·.1) ↔
      ∃ file ∈ manifests, Declares language file name := by
  rw [packagesFor_ofTexts h, Entries.mem_keys_addNew, nil_append, flatMap_map, map_flatMap,
    mem_flatMap]
  refine exists_congr fun file => and_congr ?_ mem_keys_packagesIn
  exact (byKey_perm _ _).mem_iff

/-- **The first manifest that declares a package says which version counts.** -/
lemma mem_packagesFor_iff (h : ofTexts manifests = .ok info)
    (hdistinct : (manifests.map (·.1)).Nodup) : (name, version) ∈ info.packagesFor language ↔
      ∃ file ∈ manifests, DeclaresAs language file name version ∧
        ∀ other ∈ manifests, Declares language other name → file.1 ≤ other.1 := by
  have hkeys : Entries.KeysDistinct (info.packagesFor language) := by
    rw [eq_of_ofTexts h]
    exact keysDistinct_packagesFor _ language
  have hlookup : ∀ file, (packagesIn language (asContent file)).lookup name = some version ↔
      DeclaresAs language file name version := by
    intro file
    rw [(keysDistinct_packagesIn language _).lookup_eq_some_iff, mem_packagesIn]
  have hmisses : ∀ file, (packagesIn language (asContent file)).lookup name = none ↔
      ¬ Declares language file name := by
    intro file
    rw [← mem_keys_packagesIn, ← Entries.lookup_isSome_iff_mem, Option.not_isSome_iff_eq_none]
  -- Adding new names only, all manifests are looked through for the name, one after the other.
  rw [← hkeys.lookup_eq_some_iff, packagesFor_ofTexts h, Entries.lookup_addNew, nil_append,
    flatMap_map, Entries.lookup_flatMap, findSome?_eq_some_iff]
  simp only [hlookup, hmisses]
  rw [(ascending_byKey hdistinct).exists_first_iff]
  simp only [(byKey_perm _ manifests).mem_iff]

/-! ## Frameworks -/

lemma frameworksAmong_congr {known : List (String × String)} {names others : List String}
    (h : ∀ name, name ∈ names ↔ name ∈ others) :
    frameworksAmong known names = frameworksAmong known others := by
  have hlowered : ∀ package, package ∈ names.map Text.lower ↔ package ∈ others.map Text.lower := by
    intro package
    simp only [mem_map, h]
  simp only [frameworksAmong, contains_eq_mem, hlowered]

lemma eraseDups_of_nodup {items : List String} (h : items.Nodup) : items.eraseDups = items := by
  induction items with
  | nil => rfl
  | cons item rest ih =>
      obtain ⟨hnew, hrest⟩ := nodup_cons.1 h
      have hkept : rest.filter (fun other => !other == item) = rest := by
        refine filter_eq_self.2 fun other hother => ?_
        simpa using fun heq : other = item => hnew (heq ▸ hother)
      rw [eraseDups_cons, hkept, ih hrest]

/-- No framework is known by two packages. -/
lemma nodup_frameworks (names others : List String) :
    (frameworksAmong pythonFrameworks names ++ frameworksAmong nodeFrameworks others).Nodup := by
  have hknown : (pythonFrameworks.map (·.2) ++ nodeFrameworks.map (·.2)).Nodup := by decide
  refine hknown.sublist (Sublist.append ?_ ?_)
  · exact filter_sublist.map _
  · exact filter_sublist.map _

/-- **The names of the packages decide about the frameworks.** -/
lemma frameworks_ofTexts (h : ofTexts manifests = .ok info) : info.frameworks =
    frameworksAmong pythonFrameworks (info.pythonPackages.map (·.1)) ++
      frameworksAmong nodeFrameworks (info.nodePackages.map (·.1)) := by
  have hnames : ∀ (packages : List (String × String)) (name : String),
      name ∈ packages.map (·.1) ↔ name ∈ (Entries.addNew [] packages).map (·.1) := by
    intro packages name
    rw [Entries.mem_keys_addNew, nil_append]
  rw [eq_of_ofTexts h, Gathered.withFrameworks, eraseDups_of_nodup (nodup_frameworks _ _)]
  exact congrArg₂ (· ++ ·) (frameworksAmong_congr (hnames _)) (frameworksAmong_congr (hnames _))

/-! ## Leaving files out -/

/-- Without a manifest that is not well formed, its path and its warning are missing. -/
lemma exists_without_malformed (hdistinct : Entries.KeysDistinct manifests)
    (h : ofTexts manifests = .ok info) {file : String × String} (hfile : file ∈ manifests)
    {problem : ManifestProblem} (hproblem : problem? file.1 (.str file.2) = some problem) :
    ∃ others paths paths' warnings warnings',
      ofTexts (manifests.filter (·.1 != file.1)) = .ok others ∧
      others.manifests = paths ++ paths' ∧ others.warnings = warnings ++ warnings' ∧
      info = { others with
        manifests := paths ++ file.1 :: paths'
        warnings := warnings ++ warningOf file.1 problem :: warnings'
        degraded := true } := by
  obtain ⟨before, after, hsplit⟩ := append_of_mem ((byKey_perm (·.1) manifests).mem_iff.2 hfile)
  -- Without the file, the others are read in the same order.
  have hothers : byKey (·.1) (manifests.filter (·.1 != file.1)) = before ++ after := by
    rw [byKey_filter hdistinct, hsplit]
    exact filter_key_ne (hsplit ▸ (ascending_byKey hdistinct).nodup_keys)
  have hread := exists_ofTexts_filter h (·.1 != file.1)
  rw [hothers, map_append] at hread
  have hbroken : problem? (asContent file).1 (asContent file).2 = some problem := hproblem
  have hinfo := eq_of_ofTexts h
  rw [hsplit, map_append, map_cons, Gathered.ofFiles_of_problem? hbroken] at hinfo
  exact ⟨_, _, _, _, _, hread, flatMap_append, flatMap_append, hinfo⟩

/-- Files that are no manifests may be left out. -/
lemma ofTexts_filter_of_keeps (hdistinct : Entries.KeysDistinct manifests)
    (h : ofTexts manifests = .ok info) {keep : String × String → Bool}
    (hkeep : ∀ file ∈ manifests, isManifest file.1 = true → keep file = true) :
    ofTexts (manifests.filter keep) = .ok info := by
  have hkept : ∀ file ∈ byKey (·.1) manifests,
      isManifest (asContent file).1 = true → keep file = true :=
    fun file hfile => hkeep file ((byKey_perm _ manifests).mem_iff.1 hfile)
  rw [exists_ofTexts_filter h, byKey_filter hdistinct, Gathered.ofFiles_map_filter hkept,
    ← eq_of_ofTexts h]

/-! ## All manifests -/

/-- What manifests say together, as a relation to what each of them says. -/
structure Reports (info : ManifestInfo String) (manifests : List (String × String)) : Prop where
  distinct : ∀ language, Entries.KeysDistinct (info.packagesFor language)
  names : ∀ language name, name ∈ (info.packagesFor language).map (·.1) ↔
    ∃ file ∈ manifests, Declares language file name
  /-- The version is that of the first manifest in path order that declares the package. -/
  versions : ∀ language name version, (name, version) ∈ info.packagesFor language ↔
    ∃ file ∈ manifests, DeclaresAs language file name version ∧
      ∀ other ∈ manifests, Declares language other name → file.1 ≤ other.1
  /-- A manifest that is not well formed adds its path and a warning to what the others say. -/
  malformed : ∀ file ∈ manifests, ∀ problem, problem? file.1 (.str file.2) = some problem →
    ∃ others paths paths' warnings warnings',
      ofTexts (manifests.filter (·.1 != file.1)) = .ok others ∧
      others.manifests = paths ++ paths' ∧ others.warnings = warnings ++ warnings' ∧
      info = { others with
        manifests := paths ++ file.1 :: paths'
        warnings := warnings ++ warningOf file.1 problem :: warnings'
        degraded := true }
  degraded : info.degraded = false ↔ info.warnings = []
  /-- Files that are no manifests may be left out. -/
  unrecognised : ∀ keep : String × String → Bool,
    (∀ file ∈ manifests, isManifest file.1 = true → keep file = true) →
      ofTexts (manifests.filter keep) = .ok info
  frameworks : info.frameworks =
    frameworksAmong pythonFrameworks (info.pythonPackages.map (·.1)) ++
      frameworksAmong nodeFrameworks (info.nodePackages.map (·.1))
  nodup_frameworks : info.frameworks.Nodup
  /-- Other manifests with the same packages show the same frameworks. -/
  determined : ∀ manifests' info', ofTexts manifests' = .ok info' →
    (∀ language name, name ∈ (info'.packagesFor language).map (·.1) ↔
      name ∈ (info.packagesFor language).map (·.1)) → info'.frameworks = info.frameworks

/-- **Every reading reports what the manifests say.** -/
theorem readings_report_the_manifests (hdistinct : Entries.KeysDistinct manifests)
    (h : ofTexts manifests = .ok info) : info.Reports manifests where
  distinct language := by
    rw [eq_of_ofTexts h]
    exact keysDistinct_packagesFor _ language
  names _ _ := mem_keys_packagesFor_iff h
  versions _ _ _ := mem_packagesFor_iff h hdistinct
  malformed _ hfile _ hproblem := exists_without_malformed hdistinct h hfile hproblem
  degraded := by
    rw [eq_of_ofTexts h]
    simp [Gathered.withFrameworks, Gathered.ofFiles]
  unrecognised _ hkeep := ofTexts_filter_of_keeps hdistinct h hkeep
  frameworks := frameworks_ofTexts h
  nodup_frameworks := by
    rw [frameworks_ofTexts h]
    exact nodup_frameworks _ _
  determined := by
    intro manifests' info' h' hnames
    rw [frameworks_ofTexts h, frameworks_ofTexts h']
    exact congrArg₂ (· ++ ·) (frameworksAmong_congr (hnames .python))
      (frameworksAmong_congr (hnames .javaScript))

/-- Two manifests that declare Flask, one of each kind of package and one that breaks off, next to a
file that is no manifest. -/
def shopManifests : List (String × String) :=
  [("api/pyproject.toml", "[project]\ndependencies = ['Flask>=1', 'attrs']\n"),
    ("notes.md", "flask==9"),
    ("package.json", "\x7b\"dependencies\": \x7b\"express\": \"^4\"\x7d, \"main\": \"web\"\x7d"),
    ("requirements.txt", "click==8\nFlask==2  # pinned\n"),
    ("web/package.json", "\x7b")]

def shopInfo : ManifestInfo String where
  pythonPackages := [("Flask", ">=1"), ("attrs", "*"), ("click", "==8")]
  nodePackages := [("express", "^4")]
  frameworks := ["Flask", "Click", "Express"]
  entryHints := [⟨"path", "web", "package.json"⟩]
  manifests := ["api/pyproject.toml", "package.json", "requirements.txt", "web/package.json"]
  warnings := ["web/package.json: invalid JSON (" ++
    "Expecting property name enclosed in double quotes at line 1)"]
  degraded := true

theorem shopManifests_are_reported : Entries.KeysDistinct shopManifests ∧
    ofTexts shopManifests = .ok shopInfo ∧ shopInfo.Reports shopManifests := by
  have hdistinct : Entries.KeysDistinct shopManifests := by decide
  have hordered : byKey (·.1) shopManifests = shopManifests := Ascending.byKey_eq (by decide)
  have hread : ofTexts shopManifests = .ok shopInfo := by
    rw [ofTexts_eq, inReadingOrder_eq, hordered]
    decide +kernel
  exact ⟨hdistinct, hread, readings_report_the_manifests hdistinct hread⟩

end ManifestInfo

end RepoAtlas
