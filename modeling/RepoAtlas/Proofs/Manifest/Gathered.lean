import RepoAtlas.Manifest.Reading
import RepoAtlas.Proofs.Data.Ascending
import RepoAtlas.Proofs.Data.Entries
import RepoAtlas.Proofs.Data.Except
import Mathlib.Tactic.SplitIfs

/-!
# What is gathered from manifests

Manifests are read one after the other.  What has been gathered so far is a function of the files
that have been read: `Gathered.ofFiles` says which, file by file.  **Every step of the reading keeps
to it** (`addContent_ofFiles`), so what a whole reading gives can be said without the reading
(`exists_eq_of_ofValue`).

**A manifest that is not well formed** leaves its path and a warning (`ofFiles_of_problem?`), and a
file that is no manifest leaves nothing (`ofFiles_map_filter`).
-/

namespace RepoAtlas

open List

/-! ## One file -/

namespace Manifest

variable {kind : ManifestKind} {declared : Declarations} {path text name version : String}
  {file : String × Value} {language : Language}

/-- What a file declares, if it is a well-formed manifest. -/
def declared? (file : String × Value) : Option (ManifestKind × Declarations) :=
  match ManifestKind.ofPath? file.1, file.2 with
  | some kind, .str text =>
    match declarations kind file.1 text with
    | .ok (.ok declared) => some (kind, declared)
    | _ => none
  | _, _ => none

/-- The packages of a language that a file declares. -/
def packagesIn (language : Language) (file : String × Value) : List (String × String) :=
  match declared? file with
  | some (kind, declared) => if kind.language = language then declared.packages else []
  | none => []

def hintsIn (file : String × Value) : List (EntryHint String) :=
  match declared? file with
  | some (_, declared) => declared.hints
  | none => []

lemma declared?_eq_some_iff : declared? (path, .str text) = some (kind, declared) ↔
    ManifestKind.ofPath? path = some kind ∧ declarations kind path text = .ok (.ok declared) := by
  unfold declared?
  cases hkind : ManifestKind.ofPath? path with
  | none => simp
  | some other =>
      simp only [Option.some.injEq]
      constructor
      · intro h
        split at h
        · rename_i found hfound
          cases h
          exact ⟨rfl, hfound⟩
        · cases h
      · rintro ⟨rfl, hdeclared⟩
        rw [hdeclared]

lemma exists_text_of_declared? (h : declared? file = some (kind, declared)) :
    ∃ text, file.2 = .str text ∧ declarations kind file.1 text = .ok (.ok declared) := by
  obtain ⟨path, content⟩ := file
  cases content with
  | str text => exact ⟨text, rfl, (declared?_eq_some_iff.1 h).2⟩
  | _ => simp [declared?] at h

lemma exists_table_of_ofToml {ofTable : Toml.Table → Except ManifestError Declarations}
    (h : ofToml ofTable text = .ok (.ok declared)) :
    ∃ table, Toml.read text = .ok table ∧ ofTable table = .ok declared := by
  unfold ofToml at h
  split at h
  · rename_i table hread
    obtain ⟨found, hfound, heq⟩ := map_eq_ok.1 h
    cases heq
    exact ⟨table, hread, hfound⟩
  · cases h
  · cases h

lemma exists_entries_of_ofJson
    {ofObject : List (String × Value) → Except ManifestError Declarations}
    (h : ofJson ofObject text = .ok (.ok declared)) :
    ∃ entries, Json.read text = .ok (.dict entries) ∧ ofObject entries = .ok declared := by
  unfold ofJson at h
  split at h
  · rename_i entries hread
    obtain ⟨found, hfound, heq⟩ := map_eq_ok.1 h
    cases heq
    exact ⟨entries, hread, hfound⟩
  · cases h
  · cases h
  · cases h

/-- No manifest has two versions of a package: the first one is kept. -/
lemma keysDistinct_packages (h : declarations kind path text = .ok (.ok declared)) :
    Entries.KeysDistinct declared.packages := by
  have hnone : Entries.KeysDistinct ([] : List (String × String)) := nodup_nil
  cases kind with
  | packageJson =>
      obtain ⟨entries, -, hentries⟩ := exists_entries_of_ofJson h
      obtain ⟨-, -, hpackages⟩ := bind_eq_ok.1 hentries
      cases hpackages
      exact hnone.addNew _
  | pyproject =>
      obtain ⟨table, -, htable⟩ := exists_table_of_ofToml h
      obtain ⟨requirements, -, hrest⟩ := bind_eq_ok.1 htable
      obtain ⟨-, -, hpackages⟩ := bind_eq_ok.1 hrest
      cases hpackages
      exact (hnone.addNew _).addNew _
  | pipfile =>
      obtain ⟨table, -, htable⟩ := exists_table_of_ofToml h
      obtain ⟨-, -, hpackages⟩ := bind_eq_ok.1 htable
      cases hpackages
      exact hnone.addNew _
  | requirements =>
      cases h
      exact hnone.addNew _

lemma keysDistinct_packagesIn (language : Language) (file : String × Value) :
    Entries.KeysDistinct (packagesIn language file) := by
  unfold packagesIn
  split
  · rename_i kind declared hdeclared
    split_ifs
    · obtain ⟨text, -, hok⟩ := exists_text_of_declared? hdeclared
      exact keysDistinct_packages hok
    · exact nodup_nil
  · exact nodup_nil

end Manifest

/-! ## All files -/

namespace ManifestInfo

open Manifest

variable {info : ManifestInfo String} {gathered : Gathered} {files more : List (String × Value)}
  {file : String × Value} {manifests : Value}

/-- The wording of a warning about a manifest. -/
def warningOf (path : String) (problem : ManifestProblem) : String :=
  path ++ ": " ++ problem.message

/-- The warnings about a file, of which there is one at most. -/
def warningsAbout (file : String × Value) : List String :=
  ((problem? file.1 file.2).map (warningOf file.1)).toList

/-- The path of a file, if it is that of a manifest. -/
def pathsOf (file : String × Value) : List String :=
  if isManifest file.1 then [file.1] else []

/-- What has been gathered from some files, in terms of each of them. -/
def Gathered.ofFiles (files : List (String × Value)) : Gathered where
  info :=
    { pythonPackages := Entries.addNew [] (files.flatMap (packagesIn .python))
      nodePackages := Entries.addNew [] (files.flatMap (packagesIn .javaScript))
      frameworks := []
      entryHints := files.flatMap hintsIn
      manifests := files.flatMap pathsOf
      warnings := files.flatMap warningsAbout
      degraded := !(files.flatMap warningsAbout).isEmpty }
  pythonNames := (files.flatMap (packagesIn .python)).map (·.1)
  nodeNames := (files.flatMap (packagesIn .javaScript)).map (·.1)

lemma Gathered.ofFiles_nil : ofFiles [] = start := rfl

/-- **One more file** is gathered as it is by itself. -/
lemma Gathered.addContent_ofFiles (h : (ofFiles files).addContent file = .ok gathered) :
    gathered = ofFiles (files ++ [file]) := by
  obtain ⟨path, content⟩ := file
  unfold addContent at h
  split at h
  · rename_i text htext
    obtain rfl : content = .str text := htext
    cases hkind : ManifestKind.ofPath? path with
    | none =>
        simp only [addManifest, hkind] at h
        cases h
        simp [ofFiles, packagesIn, hintsIn, pathsOf, warningsAbout, declared?, problem?, isManifest,
          hkind]
    | some kind =>
        simp only [addManifest, hkind] at h
        obtain ⟨declared, hdeclared, h⟩ := bind_eq_ok.1 h
        cases declared with
        | ok declared =>
            -- Each kind adds to the packages of one language and leaves those of the other.
            cases h
            cases kind <;>
              simp [ofFiles, addDeclarations, ManifestInfo.addDeclarations, addPath, packagesIn,
                hintsIn, pathsOf, warningsAbout, declared?, problem?, isManifest, hkind, hdeclared,
                ManifestKind.language, Entries.addNew_append]
        | error problem =>
            cases h
            simp [ofFiles, addProblem, ManifestInfo.addProblem, addPath, packagesIn, hintsIn,
              pathsOf, warningsAbout, warningOf, declared?, problem?, isManifest, hkind, hdeclared]
  · cases h

lemma Gathered.foldlM_ofFiles (h : more.foldlM addContent (ofFiles files) = .ok gathered) :
    gathered = ofFiles (files ++ more) := by
  induction more generalizing files with
  | nil =>
      cases h
      rw [append_nil]
  | cons file more ih =>
      rw [foldlM_cons, bind_eq_ok] at h
      obtain ⟨next, hnext, hrest⟩ := h
      rw [addContent_ofFiles hnext] at hrest
      rw [ih hrest, append_assoc, singleton_append]

/-- **What a reading gives**, file by file in path order. -/
lemma exists_eq_of_ofValue (h : ofValue manifests = .ok info) :
    ∃ entries, manifests = .dict entries ∧
      info = (Gathered.ofFiles (byKey (·.1) entries)).withFrameworks := by
  cases manifests with
  | dict entries =>
      obtain ⟨gathered, hgathered, h⟩ := bind_eq_ok.1 h
      cases h
      rw [← Gathered.ofFiles_nil] at hgathered
      rw [Gathered.foldlM_ofFiles hgathered, nil_append]
      exact ⟨entries, rfl, rfl⟩
  | _ => cases h

/-! ## Packages -/

lemma packagesFor_ofFiles (files : List (String × Value)) (language : Language) :
    (Gathered.ofFiles files).withFrameworks.packagesFor language =
      Entries.addNew [] (files.flatMap (packagesIn language)) := by
  cases language with
  | python => rfl
  | javaScript => rfl
  | unrecognised =>
      have hnone : ∀ file, packagesIn .unrecognised file = [] := by
        intro file
        unfold packagesIn
        split
        · rename_i kind declared hdeclared
          cases kind <;> rfl
        · rfl
      rw [flatMap_eq_nil_iff.2 fun file _ => hnone file]
      rfl

lemma keysDistinct_packagesFor (files : List (String × Value)) (language : Language) :
    Entries.KeysDistinct ((Gathered.ofFiles files).withFrameworks.packagesFor language) := by
  have hnone : Entries.KeysDistinct ([] : List (String × String)) := nodup_nil
  rw [packagesFor_ofFiles]
  exact hnone.addNew _

/-! ## Files that declare nothing -/

lemma declared?_of_problem? {problem : ManifestProblem}
    (h : problem? file.1 file.2 = some problem) :
    declared? file = none ∧ isManifest file.1 = true := by
  unfold problem? at h
  split at h
  · rename_i kind text hkind hcontent
    split at h
    · rename_i found hfound
      refine ⟨?_, ?_⟩
      · simp [declared?, hkind, hcontent, hfound]
      · simp [isManifest, hkind]
    · cases h
  · cases h

/-- **A manifest that is not well formed** leaves its path and a warning. -/
lemma Gathered.ofFiles_of_problem? {before after : List (String × Value)}
    {problem : ManifestProblem} (h : problem? file.1 file.2 = some problem) :
    (ofFiles (before ++ file :: after)).withFrameworks =
      { (ofFiles (before ++ after)).withFrameworks with
        manifests := before.flatMap pathsOf ++ file.1 :: after.flatMap pathsOf
        warnings := before.flatMap warningsAbout ++
          warningOf file.1 problem :: after.flatMap warningsAbout
        degraded := true } := by
  obtain ⟨hnothing, hmanifest⟩ := declared?_of_problem? h
  have hpackages : ∀ language, packagesIn language file = [] := by
    intro language
    rw [packagesIn, hnothing]
  have hhints : hintsIn file = [] := by
    rw [hintsIn, hnothing]
  simp [ofFiles, withFrameworks, hpackages, hhints, pathsOf, warningsAbout, hmanifest, h]

/-- **A file that is no manifest** leaves nothing. -/
lemma Gathered.ofFiles_map_filter {α : Type} {fileOf : α → String × Value} {keep : α → Bool}
    {items : List α}
    (hkeep : ∀ item ∈ items, isManifest (fileOf item).1 = true → keep item = true) :
    ofFiles ((items.filter keep).map fileOf) = ofFiles (items.map fileOf) := by
  -- Everything that is gathered is put together from a part for each file.
  have hflat : ∀ {β : Type} (part : String × Value → List β),
      (∀ file, ManifestKind.ofPath? file.1 = none → part file = []) →
      ((items.filter keep).map fileOf).flatMap part = (items.map fileOf).flatMap part := by
    intro β part hpart
    induction items with
    | nil => rfl
    | cons item rest ih =>
        have hrest := ih fun other hother => hkeep other (mem_cons_of_mem item hother)
        cases hkept : keep item with
        | true =>
            rw [filter_cons_of_pos hkept, map_cons, map_cons, flatMap_cons, flatMap_cons, hrest]
        | false =>
            have hother : ManifestKind.ofPath? (fileOf item).1 = none := by
              have hitem := mt (hkeep item mem_cons_self) (hkept ▸ Bool.false_ne_true)
              simpa [isManifest] using hitem
            rw [filter_cons_of_neg (hkept ▸ Bool.false_ne_true), map_cons, flatMap_cons,
              hpart _ hother, nil_append, hrest]
  have hpackages : ∀ language, ((items.filter keep).map fileOf).flatMap (packagesIn language) =
      (items.map fileOf).flatMap (packagesIn language) := fun language =>
    hflat _ fun file hnone => by simp [packagesIn, declared?, hnone]
  have hhints : ((items.filter keep).map fileOf).flatMap hintsIn =
      (items.map fileOf).flatMap hintsIn :=
    hflat _ fun file hnone => by simp [hintsIn, declared?, hnone]
  have hpaths : ((items.filter keep).map fileOf).flatMap pathsOf =
      (items.map fileOf).flatMap pathsOf :=
    hflat _ fun file hnone => by simp [pathsOf, isManifest, hnone]
  have hwarnings : ((items.filter keep).map fileOf).flatMap warningsAbout =
      (items.map fileOf).flatMap warningsAbout :=
    hflat _ fun file hnone => by simp [warningsAbout, problem?, hnone]
  simp only [ofFiles, hpackages, hhints, hpaths, hwarnings]

end ManifestInfo

end RepoAtlas
