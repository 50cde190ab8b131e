import RepoAtlas.Proofs.Manifest.Reading
import RepoAtlas.Proofs.Run.Charting
import Mathlib.Data.List.Forall2

/-!
# Runs account for every file

Nothing that is handed over gets lost.  `Atlas.AccountsFor` says what an atlas has to say of the
files it was made from: there is one record for each of them, which tells what came of the file, and
whatever else speaks of modules speaks of exactly those files that were parsed.

Files are dealt with one by one, so the part about records is about one file at a time
(`accounts_settled`), and the outlines are those of the parsed files for the same reason
(`paths_outlines`).  What charting adds has one entry for each outline.
-/

namespace RepoAtlas

open List

/-! ## The record of a file -/

/-- The record tells what came of a file.  It is untouched if the language of the file is unknown,
and otherwise it has changed its status once. -/
structure FileRecord.Accounts (record : FileRecord String) (file : SourceFile)
    (outcome : Outcome) : Prop where
  path : record.path = file.path
  pending : record.language = .unrecognised →
    record = file.record ∧ record.status = .pending ∧ record.failureReason = none
  parsed : record.language ≠ .unrecognised → ∀ module, outcome = .outlined module →
    file.record.transition .parsed none = .ok record
  failed : record.language ≠ .unrecognised → ∀ failure, outcome = .failed failure →
    file.record.transition .failed (some failure.message) = .ok record
  unfinished : record.language ≠ .unrecognised → outcome = .unfinished →
    file.record.transition .failed (some "timeout") = .ok record

namespace Harvest

variable {outcomeOf : SourceFile → Outcome} {late : SourceFile → Bool} {parser : Parser}
  {file : SourceFile}

lemma isRecognised_iff : isRecognised file = true ↔
    (settled outcomeOf file).language ≠ .unrecognised := by
  rw [language_settled, isRecognised, bne_iff_ne]

/-- **What came of a file is told by its record.** -/
lemma accounts_settled (outcomeOf : SourceFile → Outcome) (file : SourceFile) :
    (settled outcomeOf file).Accounts file (outcomeOf file) where
  path := path_settled outcomeOf file
  pending hlanguage := by
    have h : ¬ isRecognised file = true := fun h => isRecognised_iff.1 h hlanguage
    rw [settled, if_neg h]
    exact ⟨rfl, by rw [SourceFile.record_eq], by rw [SourceFile.record_eq]⟩
  parsed hlanguage module houtcome := by
    have h := settle_record outcomeOf (isRecognised_iff.2 hlanguage)
    rwa [houtcome] at h
  failed hlanguage failure houtcome := by
    have h := settle_record outcomeOf (isRecognised_iff.2 hlanguage)
    rwa [houtcome] at h
  unfinished hlanguage houtcome := by
    have h := settle_record outcomeOf (isRecognised_iff.2 hlanguage)
    rwa [houtcome] at h

/-- The status of a file says whether it has an outline. -/
lemma status_settled (outcomeOf : SourceFile → Outcome) (file : SourceFile) :
    (settled outcomeOf file).status = .parsed ↔ (outline? outcomeOf file).isSome := by
  unfold settled outline?
  split_ifs
  · cases outcomeOf file <;> simp [Outcome.module?]
  · simp [SourceFile.record_eq]

/-- **The outlines are those of the parsed files**, in the same order. -/
lemma paths_outlines (late : SourceFile → Bool) (parser : Parser) (files : List SourceFile) :
    (files.filterMap (outline? (Outcome.within late parser))).map (·.path) =
      ((files.map (settled (Outcome.within late parser))).filter (·.status = .parsed)).map
        (·.path) := by
  induction files with
  | nil => rfl
  | cons file rest ih =>
      have hstatus := status_settled (Outcome.within late parser) file
      cases houtline : outline? (Outcome.within late parser) file with
      | none =>
          have hparsed : ¬ (settled (Outcome.within late parser) file).status = .parsed := by
            rw [hstatus, houtline]
            exact Bool.false_ne_true
          rw [filterMap_cons_none houtline, map_cons, filter_cons_of_neg (by simpa using hparsed)]
          exact ih
      | some module =>
          have hparsed : (settled (Outcome.within late parser) file).status = .parsed := by
            rw [hstatus, houtline]
            rfl
          rw [filterMap_cons_some houtline, map_cons, map_cons,
            filter_cons_of_pos (by simpa using hparsed), map_cons, ih, path_settled,
            path_of_outline? houtline]

/-! ## The warning about files that are too late -/

/-- The warning that some files were given up. -/
def lateWarning (count : ℕ) : String :=
  "time budget exhausted: " ++ toString count ++ " file(s) not normalized"

lemma lateWarning_injective : Function.Injective lateWarning := by
  intro a b h
  have hrepr : toString a = toString b :=
    (String.append_right_inj _).1 ((String.append_left_inj _).1 h)
  have hdigits : Nat.toDigits 10 a = Nat.toDigits 10 b := by
    rw [← Nat.toList_repr, ← Nat.toList_repr]
    exact congrArg String.toList hrepr
  have hread : ∀ n, Nat.ofDigitChars 10 (Nat.toDigits 10 n) 0 = n := fun n =>
    Nat.ofDigitChars_toDigits (by decide) (by decide)
  rw [← hread a, hdigits, hread]

lemma getLast?_append_toList (front : String) {back : String} (h : back ≠ "") :
    (front ++ back).toList.getLast? = back.toList.getLast? := by
  have hback : back.toList ≠ [] := by simpa using h
  rw [String.toList_append, getLast?_append_of_ne_nil _ hback]

/-- A warning about a manifest ends in another letter. -/
lemma warningOf_ne_lateWarning (path : String) (problem : ManifestProblem) (count : ℕ) :
    ManifestInfo.warningOf path problem ≠ lateWarning count := by
  intro h
  have hlate : (lateWarning count).toList.getLast? = some 'd' :=
    getLast?_append_toList _ (by decide)
  have hproblem : ∃ c ≠ 'd', (ManifestInfo.warningOf path problem).toList.getLast? = some c := by
    cases problem with
    | invalidToml => exact ⟨')', by decide, getLast?_append_toList _ (by decide)⟩
    | invalidJson fault line =>
        refine ⟨')', by decide, ?_⟩
        have happend : ManifestInfo.warningOf path (.invalidJson fault line) =
            path ++ ": " ++ ("invalid JSON (" ++ fault.message ++ " at line " ++ toString line) ++
              ")" := String.append_assoc.symm
        rw [happend]
        exact getLast?_append_toList _ (by decide)
    | rootNotObject => exact ⟨'t', by decide, getLast?_append_toList _ (by decide)⟩
  obtain ⟨c, hc, hlast⟩ := hproblem
  rw [h, hlate] at hlast
  exact hc (Option.some.inj hlast).symm

lemma lateWarning_mem_warnings {harvest : Harvest} {manifests : Value}
    (h : ManifestInfo.ofValue manifests = .ok harvest.manifest) {count : ℕ} :
    lateWarning count ∈ harvest.warnings ↔ count = harvest.unfinished ∧ 0 < count := by
  have hmanifest : lateWarning count ∉ harvest.manifest.warnings := by
    rw [ManifestInfo.warnings_ofValue h]
    intro hmem
    obtain ⟨problem, -, heq⟩ := mem_map.1 hmem
    exact warningOf_ne_lateWarning _ _ count heq
  have hlate : harvest.warnings = harvest.manifest.warnings ++
      if harvest.unfinished = 0 then [] else [lateWarning harvest.unfinished] := rfl
  rw [hlate, mem_append, or_iff_right hmanifest]
  split_ifs with hzero
  · simp only [not_mem_nil, false_iff, not_and]
    omega
  · rw [mem_singleton, lateWarning_injective.eq_iff]
    omega

end Harvest

/-! ## Atlases -/

/-- The number of files that were given up. -/
def unfinishedCount (outcomeOf : SourceFile → Outcome) (files : List SourceFile) : ℕ :=
  (files.filter Harvest.isRecognised).countP (outcomeOf · == .unfinished)

/-- The atlas accounts for every file it was made from. -/
structure Atlas.AccountsFor (atlas : Atlas String Span) (files : List SourceFile)
    (outcomeOf : SourceFile → Outcome) : Prop where
  records : Forall₂ (fun record file => record.Accounts file (outcomeOf file)) atlas.files
    (SourceFile.inPathOrder files)
  once : atlas.files.map (·.path) ~ files.map (·.path)
  ascending : Ascending (·.path) atlas.files
  modules : atlas.modules.map (·.path) =
    (atlas.files.filter (·.status = .parsed)).map (·.path)
  nodes : atlas.graph.nodes.map (·.path) = atlas.modules.map (·.path)
  depths : atlas.analysis.depths.map (·.1) = atlas.modules.map (·.path)
  entryPoints : atlas.entryPoints.map (·.path) ~ atlas.modules.map (·.path)
  unfinished : ∀ count, Harvest.lateWarning count ∈ atlas.warnings ↔
    count = unfinishedCount outcomeOf files ∧ 0 < count

namespace Plan

variable {plan : Plan} {late : SourceFile → Bool} {parser : Parser} {offered : List Offered}
  {manifests : Value} {atlas : Atlas String Span}

lemma accountsFor_runWithin (h : plan.runWithin late parser offered manifests = .ok atlas) :
    ∃ files, SourceFile.accept offered = .ok files ∧
      atlas.AccountsFor files (Outcome.within late parser) := by
  obtain ⟨files, manifest, haccept, hmanifest, hchart⟩ := runWithin_eq_ok_iff.1 h
  refine ⟨files, haccept, ?_⟩
  have hascending := Harvest.ascending_inPathOrder haccept
  have hperm : SourceFile.inPathOrder files ~ files := byKey_perm SourceFile.path files
  have houtlines := Harvest.ascending_outlines late parser hascending
  have hpaths : ((SourceFile.inPathOrder files).map
      (Harvest.settled (Outcome.within late parser))).map (·.path) =
        (SourceFile.inPathOrder files).map (·.path) := by
    rw [map_map]
    exact map_congr_left fun file _ => Harvest.path_settled _ file
  have hcharted := Harvest.charted_of_chart hchart
  have hnodes : atlas.graph.nodes.map (·.path) = atlas.modules.map (·.path) := by
    rw [hcharted.nodes, hcharted.modules]
    exact congrArg (List.map (·.path)) houtlines.byKey_eq
  refine ⟨?_, ?_, ?_, ?_, hnodes, ?_, ?_, fun count => ?_⟩
  · rw [hcharted.files]
    refine forall₂_map_left_iff.2 (forall₂_same.2 fun file _ => ?_)
    exact Harvest.accounts_settled _ file
  · rw [hcharted.files]
    exact (Perm.of_eq hpaths).trans (hperm.map _)
  · rw [hcharted.files]
    refine pairwise_map.1 (Eq.subst hpaths.symm ?_)
    exact pairwise_map.2 hascending
  · rw [hcharted.modules, hcharted.files]
    exact Harvest.paths_outlines late parser _
  · rw [hcharted.depths, hnodes]
  · exact hcharted.entryPoints.trans (Perm.of_eq hnodes)
  · have hcount : unfinishedCount (Outcome.within late parser) files =
        unfinishedCount (Outcome.within late parser) (SourceFile.inPathOrder files) :=
      ((hperm.filter _).countP_eq _).symm
    rw [hcharted.warnings, hcount]
    exact Harvest.lateWarning_mem_warnings hmanifest

/-- **Runs account for every file.**  Whichever files are too late, and whatever the parser makes of
the others, a run that returns has lost none of them, and no record is asked to change its status
twice.  The number of workers only decides which files are too late. -/
theorem runs_account_for_every_file (plan : Plan) (late : SourceFile → Bool) (parser : Parser)
    (offered : List Offered) (manifests : Value) :
    (∀ atlas, plan.runWithin late parser offered manifests = .ok atlas →
      ∃ files, SourceFile.accept offered = .ok files ∧
        atlas.AccountsFor files (Outcome.within late parser)) ∧
    (∀ e, plan.runWithin late parser offered manifests ≠ .error (.noHarvest (.transition e))) ∧
    ∃ late' : SourceFile → Bool,
      plan.run parser offered manifests = plan.runWithin late' parser offered manifests := by
  refine ⟨fun atlas h => accountsFor_runWithin h, fun e h => ?_,
    exists_run_eq_runWithin plan parser offered manifests⟩
  unfold runWithin at h
  cases hharvest : Harvest.ofFilesWithin late parser offered manifests with
  | error cause =>
      rw [hharvest] at h
      cases h
      exact Harvest.ofFilesWithin_ne_transition e hharvest
  | ok harvest =>
      rw [hharvest] at h
      exact Atlas.ofHarvest_ne_noHarvest _ h

/-- A parser that sees an empty file in every file. -/
def blankParser : Parser := fun _ => .tree ⟨"module", true, false, false, 0, 0, none, []⟩

/-- A file that is not UTF-8, a file that takes too long, a script, and a text. -/
def mixedFiles : List Offered :=
  [.file (.str "lib/bad.py") (.bytes [255]) (.int 1),
    .file (.str "lib/long.js") (.bytes []) (.int 0),
    .file (.str "main.py") (.bytes []) (.int 0),
    .file (.str "notes.txt") (.bytes []) (.int 0)]

lemma accept_mixedFiles : SourceFile.accept mixedFiles = .ok [⟨"lib/bad.py", [255]⟩,
    ⟨"lib/long.js", []⟩, ⟨"main.py", []⟩, ⟨"notes.txt", []⟩] := by
  decide +kernel

/-- The library's own rules are enough for a run to return. -/
lemma exists_runWithin_mixedFiles (late : SourceFile → Bool) :
    ∃ atlas, runWithin ⟨8, .standard, Rule.builtIn⟩ late blankParser mixedFiles (.dict []) =
      .ok atlas := by
  have hmanifest : ManifestInfo.ofValue (.dict []) = .ok .empty := by decide +kernel
  exact exists_runWithin (Rule.forall_mem_builtIn Rule.finishes_ofSightings) accept_mixedFiles
    hmanifest

theorem mixedFiles_accounted_for : ∃ atlas files,
    runWithin ⟨8, .standard, Rule.builtIn⟩ (·.path == "lib/long.js") blankParser mixedFiles
      (.dict []) = .ok atlas ∧
    SourceFile.accept mixedFiles = .ok files ∧ files.length = 4 ∧
    atlas.AccountsFor files (Outcome.within (·.path == "lib/long.js") blankParser) := by
  obtain ⟨atlas, hrun⟩ := exists_runWithin_mixedFiles (·.path == "lib/long.js")
  obtain ⟨files, hfiles, haccounts⟩ :=
    (runs_account_for_every_file _ _ _ mixedFiles (.dict [])).1 atlas hrun
  rw [accept_mixedFiles] at hfiles
  cases hfiles
  exact ⟨atlas, _, hrun, accept_mixedFiles, rfl, haccounts⟩

end Plan

end RepoAtlas
