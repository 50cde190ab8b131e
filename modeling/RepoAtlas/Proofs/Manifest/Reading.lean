import RepoAtlas.Proofs.Data.Writable
import RepoAtlas.Proofs.Manifest.Gathered

/-!
# Where the reading of manifests ends

What is wrong with the text of a manifest is noted as a warning, and the others are read all the
same: `warnings_ofValue` says which warnings there are.  Two things are not handled that way.

**A scalar in place of a list of requirements** of a `pyproject.toml`, such as a number, has no
items to be looked at.

**An integer with too many digits** cannot be read from a text, unless it is written in another base
than ten, and it cannot be shown as a version.

Either ends the reading without a result, and nothing else in a text does (`StopsReading`,
`exists_error_ofTexts_iff`).
-/

namespace RepoAtlas

open List

/-! ## What ends the reading -/

/-- The value is a truth value, a number or a moment. -/
def Value.isScalar : Value → Bool
  | .bool _ | .int _ | .float _ | .moment _ => true
  | _ => false

namespace Manifest

/-- The values in a `pyproject.toml` that should be lists of requirements. -/
def requirementValues (table : Toml.Table) : List Value :=
  let project := entriesOf (table.lookup "project")
  (project.lookup "dependencies").toList ++
    (entriesOf (project.lookup "optional-dependencies")).map (·.2)

/-- A scalar that counts as true stands where a list of requirements belongs. -/
def RequiresScalar (table : Toml.Table) : Prop :=
  ∃ value ∈ requirementValues table, value.isScalar ∧ value.isTruthy

/-- A version is, or has in it, an integer with too many digits to be written. -/
def StatesLong (versions : List (String × Value)) : Prop :=
  ∃ version ∈ versions, version.2.HoldsLong

/-- Something in the text of a manifest ends the reading of all manifests. -/
def StopsReading (kind : ManifestKind) (text : String) : Prop :=
  match kind with
  | .packageJson =>
    (∃ entries, Json.read text = .ok (.dict entries) ∧ StatesLong (packageVersions entries)) ∨
      ∃ digits offset, Json.read text = .error ⟨.longInteger digits, offset⟩
  | .pyproject =>
    (∃ table, Toml.read text = .ok table ∧
        (RequiresScalar table ∨ StatesLong (poetryVersions table))) ∨
      ∃ digits, Toml.read text = .error (.longInteger digits)
  | .pipfile =>
    (∃ table, Toml.read text = .ok table ∧ StatesLong (pipfileVersions table)) ∨
      ∃ digits, Toml.read text = .error (.longInteger digits)
  | .requirements => False

/-- The file is a manifest whose text ends the reading. -/
def StopsAt (path text : String) : Prop :=
  ∃ kind, ManifestKind.ofPath? path = some kind ∧ StopsReading kind text

lemma exists_error_textItems_iff {value : Value} :
    (∃ e, textItems value = .error e) ↔ value.isScalar ∧ value.isTruthy := by
  cases value with
  | list items => simp [textItems, Value.isScalar]
  | str s => simp [textItems, Value.isScalar]
  | dict entries => simp [textItems, Value.isScalar]
  | null => simp [textItems, Value.isScalar, Value.isTruthy]
  | bool b => cases b <;> simp [textItems, Value.isScalar, Value.isTruthy]
  | int n => by_cases h : n = 0 <;> simp [textItems, Value.isScalar, Value.isTruthy, h]
  | float x => cases h : x.same 0 <;> simp [textItems, Value.isScalar, Value.isTruthy, h]
  | moment m => simp [textItems, Value.isScalar, Value.isTruthy]

lemma exists_error_projectRequirements_iff {table : Toml.Table} :
    (∃ e, projectRequirements (entriesOf (table.lookup "project")) = .error e) ↔
      RequiresScalar table := by
  have hrequired : ∀ required : Option Value, (∃ e, textItems (required.getD .null) = .error e) ↔
      ∃ value ∈ required.toList, value.isScalar ∧ value.isTruthy := by
    intro required
    rw [exists_error_textItems_iff]
    cases required <;> simp [Value.isScalar]
  simp only [projectRequirements, RequiresScalar, requirementValues, mem_append, or_and_right,
    exists_or, ← hrequired]
  generalize entriesOf (table.lookup "project") = project
  rw [exists_error_bind_iff]
  refine or_congr_right' fun hok => ?_
  cases hfirst : textItems ((project.lookup "dependencies").getD .null) with
  | error e => exact absurd ⟨e, hfirst⟩ hok
  | ok required =>
      simp [exists_error_bind_iff, exists_error_mapM_iff, exists_error_textItems_iff, pure,
        Except.pure, -Prod.exists]

lemma exists_error_checkVersions_iff {versions : List (String × Value)} :
    (∃ e, checkVersions versions = .error e) ↔ StatesLong versions := by
  simp only [StatesLong, ← Value.isWritable_eq_false_iff]
  unfold checkVersions
  split
  · rename_i name version hfound
    refine iff_of_true ⟨_, rfl⟩ ⟨(name, version), mem_of_find?_eq_some hfound, ?_⟩
    simpa using find?_some hfound
  · rename_i hnone
    refine iff_of_false (by simp) ?_
    simpa using hnone

/-- The versions are checked before anything else is done with them. -/
lemma exists_error_checked_iff {versions : List (String × Value)} {declared : Declarations} :
    (∃ e, (do checkVersions versions; pure declared) = .error e) ↔ StatesLong versions := by
  rw [exists_error_bind_iff, exists_error_checkVersions_iff]
  simp [pure, Except.pure]

lemma exists_error_ofPyproject_iff {path : String} {table : Toml.Table} :
    (∃ e, ofPyproject path table = .error e) ↔
      RequiresScalar table ∨ StatesLong (poetryVersions table) := by
  unfold ofPyproject
  rw [exists_error_bind_iff, ← exists_error_projectRequirements_iff]
  refine or_congr_right' fun hok => ?_
  cases hrequirements : projectRequirements (entriesOf (table.lookup "project")) with
  | error e => exact absurd ⟨e, hrequirements⟩ hok
  | ok requirements =>
      simp only [Except.ok.injEq, exists_eq_left']
      exact exists_error_checked_iff

lemma exists_error_ofToml_iff {ofTable : Toml.Table → Except ManifestError Declarations}
    {text : String} : (∃ e, ofToml ofTable text = .error e) ↔
      (∃ table, Toml.read text = .ok table ∧ ∃ e, ofTable table = .error e) ∨
        ∃ digits, Toml.read text = .error (.longInteger digits) := by
  unfold ofToml
  split
  · rename_i table hread
    simp [hread, exists_error_map_iff]
  · rename_i hread
    simp [hread]
  · rename_i digits hread
    simp [hread]

lemma exists_error_ofJson_iff
    {ofObject : List (String × Value) → Except ManifestError Declarations} {text : String} :
    (∃ e, ofJson ofObject text = .error e) ↔
      (∃ entries, Json.read text = .ok (.dict entries) ∧ ∃ e, ofObject entries = .error e) ∨
        ∃ digits offset, Json.read text = .error ⟨.longInteger digits, offset⟩ := by
  unfold ofJson
  split
  · rename_i entries hread
    simp [hread, exists_error_map_iff]
  · rename_i value hother hread
    refine iff_of_false (by simp) ?_
    rintro (⟨entries, hentries, -⟩ | ⟨digits, offset, hlong⟩)
    · exact hother entries (Except.ok.inj (hread.symm.trans hentries))
    · cases hread.symm.trans hlong
  · rename_i digits offset hread
    simp [hread]
  · rename_i fault offset hother hread
    refine iff_of_false (by simp) ?_
    rintro (⟨entries, hentries, -⟩ | ⟨digits, offset', hlong⟩)
    · cases hread.symm.trans hentries
    · cases hread.symm.trans hlong
      exact hother digits rfl

/-- **The text of a manifest ends the reading exactly if it has one of these in it.** -/
lemma exists_error_declarations_iff {kind : ManifestKind} (path : String) {text : String} :
    (∃ e, declarations kind path text = .error e) ↔ StopsReading kind text := by
  cases kind with
  | packageJson => simp only [declarations, exists_error_ofJson_iff, exists_error_checked_iff,
      StopsReading]
  | pyproject => simp only [declarations, exists_error_ofToml_iff, exists_error_ofPyproject_iff,
      StopsReading]
  | pipfile => simp only [declarations, exists_error_ofToml_iff, ofPipfile,
      exists_error_checked_iff, StopsReading]
  | requirements => simp [declarations, StopsReading]

end Manifest

/-! ## What is known of all manifests -/

namespace ManifestInfo

variable {info : ManifestInfo String}

/-- What is known of manifests after some have been read. -/
structure HasRead (info : ManifestInfo String) (files : List (String × Value)) : Prop where
  manifests : info.manifests = (files.map (·.1)).filter isManifest
  warnings : info.warnings = files.filterMap fun (path, content) =>
    (problem? path content).map (warningOf path)
  degraded : info.degraded = true ↔ info.warnings ≠ []

lemma flatMap_pathsOf (files : List (String × Value)) :
    files.flatMap pathsOf = (files.map (·.1)).filter isManifest := by
  induction files with
  | nil => rfl
  | cons file files ih =>
      rw [flatMap_cons, map_cons, filter_cons, ih, pathsOf]
      split_ifs <;> rfl

lemma hasRead_ofFiles (files : List (String × Value)) :
    (Gathered.ofFiles files).withFrameworks.HasRead files where
  manifests := flatMap_pathsOf files
  warnings := (filterMap_eq_flatMap_toList _ files).symm
  degraded := by
    simp [Gathered.ofFiles, Gathered.withFrameworks]

lemma hasRead_ofValue {manifests : Value} (h : ofValue manifests = .ok info) :
    ∃ entries, manifests = .dict entries ∧
      info.HasRead (entries.mergeSort fun a b => a.1 ≤ b.1) := by
  obtain ⟨entries, hentries, rfl⟩ := exists_eq_of_ofValue h
  exact ⟨entries, hentries, hasRead_ofFiles _⟩

/-- **Every warning is about a manifest that is not well formed.** -/
lemma warnings_ofValue {manifests : Value} (h : ofValue manifests = .ok info) :
    info.warnings = (problems manifests).map fun (path, problem) => warningOf path problem := by
  obtain ⟨entries, rfl, hread⟩ := hasRead_ofValue h
  rw [hread.warnings, problems, map_filterMap]
  refine filterMap_congr fun file _ => ?_
  rw [Option.map_map]
  rfl

/-! ## Where reading ends -/

lemma exists_error_addContent_iff (gathered : Gathered) {path text : String} :
    (∃ e, gathered.addContent (path, .str text) = .error e) ↔
      Manifest.StopsAt path text := by
  simp only [Gathered.addContent, Gathered.addManifest, Manifest.StopsAt]
  cases hkind : ManifestKind.ofPath? path with
  | none => simp
  | some kind =>
      simp only [Option.some.injEq, exists_eq_left']
      rw [← Manifest.exists_error_declarations_iff path, exists_error_bind_iff]
      constructor
      · rintro (h | ⟨declared, -, e, h⟩)
        · exact h
        · cases declared <;> cases h
      · exact Or.inl

/-- Manifests given by their paths and texts, in the order in which they are read. -/
def inReadingOrder (manifests : List (String × String)) : List (String × Value) :=
  (manifests.map fun file => (file.1, .str file.2)).mergeSort fun a b => a.1 ≤ b.1

lemma mem_inReadingOrder {manifests : List (String × String)} {file : String × Value} :
    file ∈ inReadingOrder manifests ↔ ∃ text, (file.1, text) ∈ manifests ∧ file.2 = .str text := by
  rw [inReadingOrder, (mergeSort_perm _ _).mem_iff, mem_map]
  constructor
  · rintro ⟨original, horiginal, rfl⟩
    exact ⟨original.2, horiginal, rfl⟩
  · rintro ⟨text, hmem, htext⟩
    exact ⟨(file.1, text), hmem, by rw [← htext]⟩

lemma ofTexts_eq (manifests : List (String × String)) : ofTexts manifests =
    (inReadingOrder manifests).foldlM Gathered.addContent .start >>= fun gathered =>
      pure gathered.withFrameworks :=
  rfl

lemma exists_error_ofTexts_iff {manifests : List (String × String)} :
    (∃ e, ofTexts manifests = .error e) ↔
      ∃ file ∈ manifests, Manifest.StopsAt file.1 file.2 := by
  have hstep : ∀ (gathered : Gathered), ∀ file ∈ inReadingOrder manifests,
      (∃ e, gathered.addContent file = .error e) ↔
        ∃ text, file.2 = .str text ∧ Manifest.StopsAt file.1 text := by
    rintro gathered ⟨path, content⟩ hfile
    obtain ⟨text, -, rfl⟩ := mem_inReadingOrder.1 hfile
    rw [exists_error_addContent_iff]
    simp
  rw [ofTexts_eq, exists_error_bind_iff, exists_error_foldlM_iff hstep]
  constructor
  · rintro (⟨file, hfile, text, htext, hstops⟩ | ⟨read, -, e, h⟩)
    · obtain ⟨text', hmem, htext'⟩ := mem_inReadingOrder.1 hfile
      cases htext.symm.trans htext'
      exact ⟨(file.1, text), hmem, hstops⟩
    · cases h
  · rintro ⟨file, hfile, hstops⟩
    refine Or.inl ⟨(file.1, .str file.2), ?_, file.2, rfl, hstops⟩
    exact mem_inReadingOrder.2 ⟨file.2, hfile, rfl⟩

/-- **Only scalar requirements and long integers end the reading of texts.**  Otherwise there is a
result, and it has a warning for every manifest that is not well formed. -/
theorem reading_ends_only_at_scalars_and_long_integers (manifests : List (String × String)) :
    ((∃ file ∈ manifests, Manifest.StopsAt file.1 file.2) ∧
        ∃ e, ofTexts manifests = .error e) ∨
      (¬ (∃ file ∈ manifests, Manifest.StopsAt file.1 file.2) ∧
        ∃ info, ofTexts manifests = .ok info ∧ info.HasRead (inReadingOrder manifests)) := by
  cases hread : ofTexts manifests with
  | error e => exact Or.inl ⟨exists_error_ofTexts_iff.1 ⟨e, hread⟩, e, rfl⟩
  | ok info =>
      refine Or.inr ⟨fun h => ?_, info, rfl, ?_⟩
      · obtain ⟨e, he⟩ := exists_error_ofTexts_iff.2 h
        rw [hread] at he
        cases he
      · obtain ⟨entries, hentries, h⟩ := hasRead_ofValue hread
        cases hentries
        exact h

/-- Reading does end: a number of dependencies is no list of them. -/
theorem scalar_dependencies_end_reading :
    ¬ ∃ info, ofTexts [("pyproject.toml", "[project]\ndependencies = 5\n")] = .ok info := by
  have htable : Toml.read "[project]\ndependencies = 5\n" =
      .ok [("project", .dict [("dependencies", .int 5)])] := by decide +kernel
  have hstops : Manifest.StopsAt "pyproject.toml" "[project]\ndependencies = 5\n" :=
    ⟨.pyproject, by decide +kernel,
      Or.inl ⟨_, htable, Or.inl ⟨.int 5, by decide +kernel, rfl, rfl⟩⟩⟩
  rintro ⟨info, hinfo⟩
  have herror : ∃ e, ofTexts [("pyproject.toml", "[project]\ndependencies = 5\n")] = .error e :=
    exists_error_ofTexts_iff.2 ⟨_, mem_singleton_self _, hstops⟩
  obtain ⟨e, he⟩ := herror
  rw [hinfo] at he
  cases he

end ManifestInfo

end RepoAtlas
