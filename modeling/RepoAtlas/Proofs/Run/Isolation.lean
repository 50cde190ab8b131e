import RepoAtlas.Proofs.Run.Accounts

/-!
# Failures are isolated

What is said of a repository does not depend on files that failed or that no parser knows: without
them, a run says the same of all others.  Such a file adds no outline to the harvest, and charting
reads outlines and manifests only.

There is one exception, and it has to do with time.  Every file takes some, whether it fails or not,
and the time it takes is not there for others: without it they may be done before the time budget is
spent.  `starvedFiles` are two files of which one keeps the only worker busy.  The general statement
is therefore about two runs in which the same files are too late, apart from those that are left
out.  Without a time budget nothing is to be assumed: a run that returns has waited for all files
(`exists_runBy_without`).
-/

namespace RepoAtlas

open List

/-- Two atlases say the same, but for the records of files at certain paths. -/
structure Atlas.AgreesBeside (other atlas : Atlas String Span) (aside : String → Bool) : Prop where
  modules : other.modules = atlas.modules
  graph : other.graph = atlas.graph
  analysis : other.analysis = atlas.analysis
  entryPoints : other.entryPoints = atlas.entryPoints
  concepts : other.concepts = atlas.concepts
  manifest : other.manifest = atlas.manifest
  files : other.files = atlas.files.filter fun record => !aside record.path

/-- The record of a file that failed, or whose language is unknown. -/
def FileRecord.IsUnparsed (record : FileRecord String) : Prop :=
  record.status = .failed ∨ record.language = .unrecognised

instance (record : FileRecord String) : Decidable record.IsUnparsed :=
  inferInstanceAs (Decidable (record.status = .failed ∨ record.language = .unrecognised))

namespace Harvest

variable {late late' : SourceFile → Bool} {parser : Parser} {offered : List Offered}
  {manifests : Value} {files : List SourceFile} {file : SourceFile} {aside : String → Bool}

lemma inPathOrder_without (h : SourceFile.accept offered = .ok files) (aside : String → Bool) :
    SourceFile.inPathOrder (files.filter fun file => !aside file.path) =
      (SourceFile.inPathOrder files).filter fun file => !aside file.path :=
  byKey_filter (SourceFile.nodup_paths_accept h) _

/-- Workers that get done with all files get done with fewer. -/
lemma getsDone_without {workers : ℕ} (h : SourceFile.accept offered = .ok files)
    (hdone : GetsDone workers parser (taken files)) (aside : String → Bool) :
    ∀ accepted, SourceFile.accept (Offered.without aside offered) = .ok accepted →
      GetsDone workers parser (taken accepted) := by
  intro accepted haccept
  cases (SourceFile.accept_without aside h).symm.trans haccept
  rw [taken, inPathOrder_without h, filter_comm]
  exact hdone.filter _

/-! ## Harvests -/

/-- A file that came to nothing adds no outline. -/
lemma outline?_eq_none {outcomeOf : SourceFile → Outcome}
    (h : (settled outcomeOf file).IsUnparsed) : outline? outcomeOf file = none := by
  rcases h with hfailed | hunrecognised
  · refine Option.not_isSome_iff_eq_none.1 fun hsome => ?_
    rw [(status_settled outcomeOf file).2 hsome] at hfailed
    cases hfailed
  · have h : ¬ isRecognised file = true := fun h => isRecognised_iff.1 h hunrecognised
    rw [outline?, if_neg h]

lemma within_eq_ofFile (h : Outcome.within late parser file ≠ .unfinished) :
    Outcome.within late parser file = Outcome.ofFile parser file := by
  unfold Outcome.within at h ⊢
  by_cases hlate : late file = true
  · rw [if_pos hlate] at h
    exact absurd rfl h
  · rw [if_neg hlate]

lemma within_eq_of_unfinished_iff
    (h : Outcome.within late parser file = .unfinished ↔
      Outcome.within late' parser file = .unfinished) :
    Outcome.within late' parser file = Outcome.within late parser file := by
  by_cases hlate : Outcome.within late parser file = .unfinished
  · rw [hlate, h.1 hlate]
  · rw [within_eq_ofFile hlate, within_eq_ofFile (mt h.2 hlate)]

section Filter

variable {outcomeOf : SourceFile → Outcome} {plan : Plan} {atlas : Atlas String Span}
  {manifest : ManifestInfo String}

/-- **Leaving files out of a harvest.**  If they came to nothing and the outcomes of the others are
the same, then charting finds the same. -/
lemma exists_chart_filter (outcomeOf' : SourceFile → Outcome) (aside : String → Bool)
    (hsame : ∀ file ∈ files, aside file.path = false → outcomeOf' file = outcomeOf file)
    (hnone : ∀ file ∈ files, aside file.path = true → outline? outcomeOf file = none)
    (hchart : (ofSettled outcomeOf files manifest).chart plan = .ok atlas) :
    ∃ other, (ofSettled outcomeOf' (files.filter fun file => !aside file.path) manifest).chart
      plan = .ok other ∧ other.AgreesBeside atlas aside := by
  have hmodules : (ofSettled outcomeOf' (files.filter fun file => !aside file.path)
      manifest).modules = (ofSettled outcomeOf files manifest).modules := by
    simp only [ofSettled]
    rw [filterMap_filter]
    refine filterMap_congr fun file hfile => ?_
    cases haside : aside file.path with
    | true => simp [hnone file hfile haside]
    | false => simp [outline?, hsame file hfile haside]
  have hfiles : (files.filter fun file => !aside file.path).map (settled outcomeOf') =
      (files.map (settled outcomeOf)).filter fun record => !aside record.path := by
    rw [filter_map]
    simp only [Function.comp_def, path_settled]
    refine map_congr_left fun file hfile => ?_
    obtain ⟨hmem, hkeep⟩ := mem_filter.1 hfile
    rw [settled, settled, hsame file hmem (by simpa using hkeep)]
  refine ⟨_, chart_congr hmodules rfl hchart, rfl, rfl, rfl, rfl, rfl, rfl, ?_⟩
  rw [(charted_of_chart hchart).files]
  exact hfiles

end Filter

end Harvest

/-! ## Runs -/

namespace Plan

variable {plan : Plan} {late late' : SourceFile → Bool} {parser : Parser} {offered : List Offered}
  {manifests : Value} {atlas : Atlas String Span} {aside : String → Bool}

lemma exists_runWithin_without (hrun : plan.runWithin late parser offered manifests = .ok atlas)
    (haside : ∀ record ∈ atlas.files, aside record.path → record.IsUnparsed)
    (hlate : ∀ files, SourceFile.accept offered = .ok files → ∀ file ∈ files,
      aside file.path = false → (Outcome.within late parser file = .unfinished ↔
        Outcome.within late' parser file = .unfinished)) :
    ∃ other, plan.runWithin late' parser (Offered.without aside offered) manifests = .ok other ∧
      other.AgreesBeside atlas aside := by
  obtain ⟨files, manifest, haccept, hmanifest, hchart⟩ := runWithin_eq_ok_iff.1 hrun
  obtain ⟨other, hother, hagrees⟩ := Harvest.exists_chart_filter (Outcome.within late' parser) aside
    (fun file hfile hkeep => Harvest.within_eq_of_unfinished_iff
      (hlate files haccept file (Harvest.mem_inPathOrder.1 hfile) hkeep))
    (fun file hfile hkeep => Harvest.outline?_eq_none
      (haside _ ((mem_files_runWithin haccept hrun).2
        ⟨file, Harvest.mem_inPathOrder.1 hfile, rfl⟩) (by rwa [Harvest.path_settled])))
    hchart
  rw [← Harvest.inPathOrder_without haccept] at hother
  exact ⟨other, runWithin_eq_ok_iff.2 ⟨_, manifest, SourceFile.accept_without aside haccept,
    hmanifest, hother⟩, hagrees⟩

lemma exists_runBy_without {clock clock' : Clock} (hclock : clock.budget = none)
    (hclock' : clock'.budget = none)
    (hrun : plan.runBy clock parser offered manifests = some (.ok atlas))
    (haside : ∀ record ∈ atlas.files, aside record.path → record.IsUnparsed) :
    ∃ other, plan.runBy clock' parser (Offered.without aside offered) manifests = some (.ok other) ∧
      other.AgreesBeside atlas aside := by
  obtain ⟨files, haccept⟩ : ∃ files, SourceFile.accept offered = .ok files := by
    obtain ⟨late, hlate⟩ := exists_runWithin_of_runBy hrun
    obtain ⟨files, -, haccept, -⟩ := runWithin_eq_ok_iff.1 hlate.symm
    exact ⟨files, haccept⟩
  have hdone := getsDone_of_runBy hclock haccept hrun
  have hwithin : plan.runWithin (fun _ => false) parser offered manifests = .ok atlas := by
    refine Option.some.inj
      ((runBy_eq_runWithin hclock (fun accepted haccept' => ?_) manifests).symm.trans hrun)
    cases haccept.symm.trans haccept'
    exact hdone
  obtain ⟨other, hother, hagrees⟩ :=
    exists_runWithin_without hwithin haside fun _ _ _ _ _ => Iff.rfl
  refine ⟨other, ?_, hagrees⟩
  rw [runBy_eq_runWithin hclock' (Harvest.getsDone_without haccept hdone aside), hother]

/-- **Failures are isolated.**  Leave out files that failed or whose language is unknown: as long as
the same ones of the other files are too late, a run says the same of them.

1. This is so whichever files are too late. 2. Without a time budget none is, if the run returns;
whatever clocks the two runs go by, the second one returns as well. 3. The first part is about all
runs: whatever the clock is, it comes to some files being too late. -/
theorem failures_are_isolated (plan : Plan) (parser : Parser) (offered : List Offered)
    (manifests : Value) (aside : String → Bool) (atlas : Atlas String Span)
    (haside : ∀ record ∈ atlas.files, aside record.path → record.IsUnparsed) :
    (∀ late late' : SourceFile → Bool,
      plan.runWithin late parser offered manifests = .ok atlas →
      (∀ files, SourceFile.accept offered = .ok files → ∀ file ∈ files, aside file.path = false →
        (Outcome.within late parser file = .unfinished ↔
          Outcome.within late' parser file = .unfinished)) →
      ∃ other, plan.runWithin late' parser (Offered.without aside offered) manifests = .ok other ∧
        other.AgreesBeside atlas aside) ∧
    (∀ clock clock' : Clock, clock.budget = none → clock'.budget = none →
      plan.runBy clock parser offered manifests = some (.ok atlas) →
      ∃ other,
        plan.runBy clock' parser (Offered.without aside offered) manifests = some (.ok other) ∧
          other.AgreesBeside atlas aside) ∧
    ∀ (clock : Clock) (offered : List Offered) (result : Except RunError (Atlas String Span)),
      plan.runBy clock parser offered manifests = some result →
        ∃ late : SourceFile → Bool, result = plan.runWithin late parser offered manifests :=
  ⟨fun _ _ hrun hlate => exists_runWithin_without hrun haside hlate,
    fun _ _ hclock hclock' hrun => exists_runBy_without hclock hclock' hrun haside,
    fun _ _ _ hrun => exists_runWithin_of_runBy hrun⟩

/-- The script is left alone without a file that took too long, among others; and the files with an
outline are left alone without the one that is not UTF-8, however long it took. -/
theorem mixedFiles_isolated :
    (∃ atlas other,
      runWithin ⟨8, .standard, Rule.builtIn⟩ (·.path == "lib/long.js") blankParser mixedFiles
        (.dict []) = .ok atlas ∧
      runWithin ⟨8, .standard, Rule.builtIn⟩ (fun _ => false) blankParser
        (Offered.without (· != "main.py") mixedFiles) (.dict []) = .ok other ∧
      other.AgreesBeside atlas (· != "main.py")) ∧
    ∃ atlas other,
      runBy ⟨8, .standard, Rule.builtIn⟩ ⟨fun file => file.path.length, none⟩ blankParser mixedFiles
        (.dict []) = some (.ok atlas) ∧
      runBy ⟨8, .standard, Rule.builtIn⟩ ⟨fun _ => 1, none⟩ blankParser
        (Offered.without (· == "lib/bad.py") mixedFiles) (.dict []) = some (.ok other) ∧
      other.AgreesBeside atlas (· == "lib/bad.py") := by
  constructor
  · obtain ⟨atlas, hrun⟩ := exists_runWithin_mixedFiles (·.path == "lib/long.js")
    have haside : ∀ record ∈ atlas.files, record.path != "main.py" → record.IsUnparsed := by
      intro record hrecord
      obtain ⟨file, hfile, rfl⟩ := (mem_files_runWithin accept_mixedFiles hrun).1 hrecord
      clear hrecord
      revert file
      decide +kernel
    have hlate : ∀ files, SourceFile.accept mixedFiles = .ok files → ∀ file ∈ files,
        (file.path != "main.py") = false →
          (Outcome.within (·.path == "lib/long.js") blankParser file = .unfinished ↔
            Outcome.within (fun _ => false) blankParser file = .unfinished) := by
      rw [accept_mixedFiles]
      rintro _ ⟨rfl⟩
      decide +kernel
    obtain ⟨other, hother, hagrees⟩ :=
      (failures_are_isolated _ _ mixedFiles _ (· != "main.py") atlas haside).1 _ _ hrun hlate
    exact ⟨atlas, other, hrun, hother, hagrees⟩
  · obtain ⟨atlas, hwithin⟩ := exists_runWithin_mixedFiles fun _ => false
    have hrun : runBy ⟨8, .standard, Rule.builtIn⟩ ⟨fun file => file.path.length, none⟩ blankParser
        mixedFiles (.dict []) = some (.ok atlas) := by
      rw [runBy_eq_runWithin rfl fun accepted _ => ⟨fun _ => by decide, fun file _ => ?_⟩, hwithin]
      exact Outcome.ofFile_ne_unfinished (by simp [blankParser])
    have hrecords : ∀ record ∈ atlas.files, record.path == "lib/bad.py" → record.IsUnparsed := by
      intro record hrecord
      obtain ⟨file, hfile, rfl⟩ := (mem_files_runWithin accept_mixedFiles hwithin).1 hrecord
      clear hrecord
      revert file
      decide +kernel
    obtain ⟨other, hother, hagrees⟩ :=
      (failures_are_isolated _ _ mixedFiles _ (· == "lib/bad.py") atlas hrecords).2.1 _
        ⟨fun _ => 1, none⟩ rfl rfl hrun
    exact ⟨atlas, other, hrun, hother, hagrees⟩

/-- A file that its parser never gets done with, and one that is empty. -/
def starvedFiles : List Offered :=
  [.file (.str "a.py") (.bytes []) (.int 0), .file (.str "b.py") (.bytes []) (.int 0)]

def starvingParser : Parser := fun file =>
  if file.path = "a.py" then .neverEnds else blankParser file

/-- Both files are given up: there is no worker for the second one. -/
def starvedHarvest : Harvest where
  files :=
    [⟨"a.py", .python, 0, .failed, some "timeout", some "python", "src"⟩,
      ⟨"b.py", .python, 0, .failed, some "timeout", some "python", "src"⟩]
  modules := []
  manifest := .empty
  unfinished := 2

lemma ofFiles_starvedFiles :
    Harvest.ofFiles 1 starvingParser starvedFiles (.dict []) = .ok starvedHarvest := by
  have haccept : SourceFile.accept starvedFiles = .ok [⟨"a.py", []⟩, ⟨"b.py", []⟩] := by
    decide +kernel
  have hmanifest : ManifestInfo.ofValue (.dict []) = .ok .empty := by decide +kernel
  have hascending : Ascending SourceFile.path [⟨"a.py", []⟩, ⟨"b.py", []⟩] := by decide
  have hordered : SourceFile.inPathOrder [⟨"a.py", []⟩, ⟨"b.py", []⟩] =
      [⟨"a.py", []⟩, ⟨"b.py", []⟩] := hascending.byKey_eq
  have houtcomes : Harvest.ofOutcomes [⟨"a.py", []⟩, ⟨"b.py", []⟩]
      (Clock.still.outcomes 1 starvingParser
        ([⟨"a.py", []⟩, ⟨"b.py", []⟩].filter Harvest.isRecognised)) .empty =
      .ok starvedHarvest := by
    decide +kernel
  simp only [Harvest.ofFiles, Harvest.ofFilesBy, Harvest.ofOutcomesOf, haccept, hmanifest, hordered,
    houtcomes]

/-- With one worker, the file that failed has an influence on the other. -/
theorem starvedFiles_are_not_isolated : ∃ atlas,
    run ⟨1, .standard, Rule.builtIn⟩ starvingParser starvedFiles (.dict []) = .ok atlas ∧
      (∀ record ∈ atlas.files, record.path == "a.py" → record.IsUnparsed) ∧
      ¬ ∃ other, run ⟨1, .standard, Rule.builtIn⟩ starvingParser
          (Offered.without (· == "a.py") starvedFiles) (.dict []) = .ok other ∧
        other.AgreesBeside atlas (· == "a.py") := by
  have hfreed : Harvest.ofFiles 1 starvingParser (Offered.without (· == "a.py") starvedFiles)
      (.dict []) = .ok ⟨[⟨"b.py", .python, 0, .parsed, none, some "python", "src"⟩],
        [⟨"b.py", .python, "python", [], [], [], [], [], false⟩], .empty, 0⟩ := by
    decide +kernel
  obtain ⟨atlas, hchart⟩ := Harvest.exists_chart ⟨1, .standard, Rule.builtIn⟩ starvedHarvest
    (Rule.forall_mem_builtIn Rule.finishes_ofSightings) (by decide)
  have hfiles := (Harvest.charted_of_chart hchart).files
  refine ⟨atlas, ?_, ?_, ?_⟩
  · rw [run, ofFiles_starvedFiles]
    exact Atlas.ofHarvest_eq_ok_iff.2 hchart
  · rw [hfiles]
    decide
  · rintro ⟨other, hother, hagrees⟩
    rw [run, hfreed] at hother
    have hfiles' := (Harvest.charted_of_chart (Atlas.ofHarvest_eq_ok_iff.1 hother)).files
    rw [hagrees.files, hfiles] at hfiles'
    revert hfiles'
    decide

end Plan

end RepoAtlas
