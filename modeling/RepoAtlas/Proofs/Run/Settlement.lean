import RepoAtlas.Proofs.Data.Ascending
import RepoAtlas.Proofs.Inventory.Intake
import RepoAtlas.Run.Harvest

/-!
# What comes of each file

Every file is dealt with by itself.  `settled` is what its record says in the end and `outline?` is
the outline that it adds, if any; neither depends on another file.  `ofSettled` puts these together
to a harvest, and `ofOutcomes_within` says that harvests are indeed made of them.  In particular no
record is ever asked to change its status twice.

Which files are given up is not for the files to decide: time runs out, or there is no worker left.
`Outcome.within` therefore has the files that were too late as a parameter.  Whatever the clock and
the number of workers are, it comes to giving up some files (`exists_late`), and to giving up none
if every worker gets done with its files and nothing presses (`Clock.outcomes_eq_map`).
-/

namespace RepoAtlas

open List

/-! ## Outcomes -/

namespace Outcome

variable {late : SourceFile → Bool} {parser : Parser} {file : SourceFile} {module : SourceModule}

lemma path_of_ofOutline {language : Language} {grammar : Option String} {source : Source}
    {tree : Option SyntaxNode}
    (h : ofOutline (ModuleOutline.ofFile file.path language grammar source tree) =
      .outlined module) : module.path = file.path := by
  unfold ModuleOutline.ofFile at h
  split at h
  · rename_i grammar
    cases htree : checkedTree grammar source tree with
    | error failure => cases htree ▸ h
    | ok root =>
        cases htree ▸ h
        rfl
  · rename_i grammar
    cases htree : checkedTree grammar source tree with
    | error failure => cases htree ▸ h
    | ok root =>
        cases htree ▸ h
        rfl
  · cases h

/-- **An outline has the path of its file.** -/
lemma path_of_within (h : within late parser file = .outlined module) :
    module.path = file.path := by
  unfold within at h
  split_ifs at h
  unfold ofFile at h
  cases hanswer : parser file with
  | tree root => exact path_of_ofOutline (by simpa [hanswer] using h)
  | givesUp => exact path_of_ofOutline (by simpa [hanswer] using h)
  | neverEnds =>
      simp only [hanswer] at h
      split at h
      · cases h
      · exact path_of_ofOutline h

lemma ofOutline_ne_unfinished (outline : Except OutlineFailure SourceModule) :
    ofOutline outline ≠ .unfinished := by
  cases outline <;> simp [ofOutline]

/-- A parser that answers gives up no file. -/
lemma ofFile_ne_unfinished (h : parser file ≠ .neverEnds) :
    ofFile parser file ≠ .unfinished := by
  unfold ofFile
  cases hanswer : parser file with
  | tree root => exact ofOutline_ne_unfinished _
  | givesUp => exact ofOutline_ne_unfinished _
  | neverEnds => exact absurd hanswer h

end Outcome

/-! ## Records and outlines -/

namespace Harvest

variable {outcomeOf : SourceFile → Outcome} {late : SourceFile → Bool} {parser : Parser}
  {files : List SourceFile} {file : SourceFile} {module : SourceModule}

/-- The record of a file when everything is over. -/
def settled (outcomeOf : SourceFile → Outcome) (file : SourceFile) : FileRecord String :=
  if isRecognised file then
    match outcomeOf file with
    | .outlined _ => { file.record with status := .parsed }
    | .failed failure =>
      { file.record with status := .failed, failureReason := some failure.message }
    | .unfinished =>
      { file.record with status := .failed, failureReason := some Outcome.timeout }
  else file.record

/-- The outline of a file, if it has one in the end. -/
def outline? (outcomeOf : SourceFile → Outcome) (file : SourceFile) : Option SourceModule :=
  if isRecognised file then (outcomeOf file).module? else none

/-- The harvest that the outcomes of files in path order make. -/
def ofSettled (outcomeOf : SourceFile → Outcome) (files : List SourceFile)
    (manifest : ManifestInfo String) : Harvest where
  files := files.map (settled outcomeOf)
  modules := files.filterMap (outline? outcomeOf)
  manifest
  unfinished := (files.filter isRecognised).countP (outcomeOf · == .unfinished)

lemma path_settled (outcomeOf : SourceFile → Outcome) (file : SourceFile) :
    (settled outcomeOf file).path = file.path := by
  simp only [settled, SourceFile.record_eq]
  split_ifs
  · cases outcomeOf file <;> dsimp only
  · dsimp only

lemma language_settled (outcomeOf : SourceFile → Outcome) (file : SourceFile) :
    (settled outcomeOf file).language = (Language.ofPath file.path).1 := by
  simp only [settled, SourceFile.record_eq]
  split_ifs
  · cases outcomeOf file <;> dsimp only
  · dsimp only

lemma settle_record (outcomeOf : SourceFile → Outcome) (h : isRecognised file = true) :
    (outcomeOf file).settle file.record = .ok (settled outcomeOf file) := by
  rw [settled, if_pos h, SourceFile.record_eq]
  cases outcomeOf file <;>
    simp only [Outcome.settle, FileRecord.markParsed, FileRecord.markFailed, FileRecord.transition,
      if_true]

/-- **No record changes its status twice.** -/
lemma settleAll_map (outcomeOf : SourceFile → Outcome) (files : List SourceFile) :
    settleAll files ((files.filter isRecognised).map outcomeOf) =
      .ok (files.map (settled outcomeOf)) := by
  induction files with
  | nil => rfl
  | cons file rest ih =>
      by_cases h : isRecognised file = true
      · rw [filter_cons_of_pos h, map_cons, settleAll, if_pos h]
        simp only [settle_record outcomeOf h, ih]
        rfl
      · rw [filter_cons_of_neg h, settleAll.eq_def]
        simp only [if_neg h, ih, map_cons, settled]
        rfl

lemma filterMap_outline? (outcomeOf : SourceFile → Outcome) (files : List SourceFile) :
    ((files.filter isRecognised).map outcomeOf).filterMap (·.module?) =
      files.filterMap (outline? outcomeOf) := by
  rw [filterMap_map, filterMap_filter]
  rfl

lemma path_of_outline? (h : outline? (Outcome.within late parser) file = some module) :
    module.path = file.path := by
  unfold outline? at h
  split_ifs at h
  cases houtcome : Outcome.within late parser file with
  | outlined outline =>
      rw [houtcome] at h
      cases h
      exact Outcome.path_of_within houtcome
  | failed failure => cases houtcome ▸ h
  | unfinished => cases houtcome ▸ h

lemma ascending_outlines (late : SourceFile → Bool) (parser : Parser)
    (h : Ascending (·.path) files) :
    Ascending (·.path) (files.filterMap (outline? (Outcome.within late parser))) := by
  refine Pairwise.filterMap _ (fun a b hlt module hmodule other hother => ?_) h
  have hpath := path_of_outline? hmodule
  have hpath' := path_of_outline? hother
  simpa only [hpath, hpath'] using hlt

/-- **A harvest is made of what comes of each file.** -/
lemma ofOutcomes_within (late : SourceFile → Bool) (parser : Parser)
    (manifest : ManifestInfo String) (h : Ascending (·.path) files) :
    ofOutcomes files ((files.filter isRecognised).map (Outcome.within late parser)) manifest =
      .ok (ofSettled (Outcome.within late parser) files manifest) := by
  have hmodules := (ascending_outlines late parser h).byKey_eq
  have hcount : ((files.filter isRecognised).map (Outcome.within late parser)).count .unfinished =
      (files.filter isRecognised).countP (Outcome.within late parser · == .unfinished) := by
    rw [count, countP_map]
    rfl
  simp only [ofOutcomes, settleAll_map, filterMap_outline?, hcount, ofSettled]
  exact congrArg (fun modules => Except.ok (Harvest.mk _ modules manifest _)) hmodules

/-! ## Files that are too late -/

variable {offered : List Offered} {manifests : Value} {manifest : ManifestInfo String}
  {accepted : List SourceFile} {harvest : Harvest}

lemma ascending_inPathOrder (h : SourceFile.accept offered = .ok accepted) :
    Ascending (·.path) (SourceFile.inPathOrder accepted) :=
  ascending_byKey (SourceFile.nodup_paths_accept h)

lemma mem_inPathOrder : file ∈ SourceFile.inPathOrder files ↔ file ∈ files :=
  (byKey_perm SourceFile.path files).mem_iff

/-- **There is a harvest when files and manifests are accepted**, and nothing else can go wrong. -/
lemma ofFilesWithin_cases (late : SourceFile → Bool) (parser : Parser) (offered : List Offered)
    (manifests : Value) :
    (∃ accepted manifest, SourceFile.accept offered = .ok accepted ∧
      ManifestInfo.ofValue manifests = .ok manifest ∧
      ofFilesWithin late parser offered manifests = .ok
        (ofSettled (Outcome.within late parser) (SourceFile.inPathOrder accepted) manifest)) ∨
    (∃ e, SourceFile.accept offered = .error e ∧
      ofFilesWithin late parser offered manifests = .error (.intake e)) ∨
    ∃ e, ManifestInfo.ofValue manifests = .error e ∧
      ofFilesWithin late parser offered manifests = .error (.manifests e) := by
  unfold ofFilesWithin ofOutcomesOf
  cases haccept : SourceFile.accept offered with
  | error e => exact Or.inr (Or.inl ⟨e, rfl, rfl⟩)
  | ok accepted =>
      cases hmanifest : ManifestInfo.ofValue manifests with
      | error e => exact Or.inr (Or.inr ⟨e, rfl, rfl⟩)
      | ok manifest =>
          have h := ofOutcomes_within late parser manifest (ascending_inPathOrder haccept)
          exact Or.inl ⟨accepted, manifest, rfl, rfl, by simp only [h]⟩

lemma ofFilesWithin_eq_ok_iff : ofFilesWithin late parser offered manifests = .ok harvest ↔
    ∃ accepted manifest, SourceFile.accept offered = .ok accepted ∧
      ManifestInfo.ofValue manifests = .ok manifest ∧
      harvest =
        ofSettled (Outcome.within late parser) (SourceFile.inPathOrder accepted) manifest := by
  obtain ⟨accepted, manifest, haccept, hmanifest, h⟩ | ⟨e, he, h⟩ | ⟨e, he, h⟩ :=
    ofFilesWithin_cases late parser offered manifests
  · simp [haccept, hmanifest, h, eq_comm]
  · simp [he, h]
  · simp [he, h]

lemma ofFilesWithin_ne_transition (e : TransitionError) :
    ofFilesWithin late parser offered manifests ≠ .error (.transition e) := by
  obtain ⟨_, _, -, -, h⟩ | ⟨_, -, h⟩ | ⟨_, -, h⟩ :=
    ofFilesWithin_cases late parser offered manifests
  all_goals simp [h]

/-- A harvest has the manifests that were handed over, and counts what was given up. -/
lemma ofOutcomesOf_eq_ok {outcomesOf : List SourceFile → List Outcome}
    (h : ofOutcomesOf outcomesOf offered manifests = .ok harvest) :
    ∃ accepted, SourceFile.accept offered = .ok accepted ∧
      ManifestInfo.ofValue manifests = .ok harvest.manifest ∧ harvest.unfinished =
        (outcomesOf ((SourceFile.inPathOrder accepted).filter isRecognised)).count .unfinished := by
  unfold ofOutcomesOf at h
  split at h
  · cases h
  · rename_i accepted haccept
    split at h
    · cases h
    · rename_i manifest hmanifest
      simp only at h
      split at h
      · cases h
      · rename_i result houtcomes
        cases h
        obtain ⟨records, -, hresult⟩ := bind_eq_ok.1 houtcomes
        cases hresult
        exact ⟨accepted, haccept, hmanifest, rfl⟩

/-- Of the outcomes, those of the accepted files matter. -/
lemma ofOutcomesOf_congr {outcomesOf outcomesOf' : List SourceFile → List Outcome}
    (h : ∀ accepted, SourceFile.accept offered = .ok accepted →
      outcomesOf' ((SourceFile.inPathOrder accepted).filter isRecognised) =
        outcomesOf ((SourceFile.inPathOrder accepted).filter isRecognised)) :
    ofOutcomesOf outcomesOf' offered manifests = ofOutcomesOf outcomesOf offered manifests := by
  unfold ofOutcomesOf
  cases haccept : SourceFile.accept offered with
  | error e => rfl
  | ok accepted => simp only [h accepted haccept]

end Harvest

/-! ## Workers and the clock -/

namespace Outcome

variable {budget : Option ℕ} {free : List ℕ}

/-- Whether the first file is too late and when its worker is free again does not depend on the
files after it. -/
lemma schedule_cons (budget : Option ℕ) (free : List ℕ) (outcome : Outcome) (ticks : ℕ) :
    ∃ (late : Bool) (free' : List ℕ), ∀ rest, schedule budget free ((outcome, ticks) :: rest) =
      (if late then .unfinished else outcome) :: schedule budget free' rest := by
  cases hmin : free.min? with
  | none => exact ⟨true, free, fun rest => by simp [schedule, hmin]⟩
  | some start =>
      by_cases houtcome : outcome = .unfinished
      · exact ⟨true, free.erase start, fun rest => by simp [schedule, hmin, houtcome]⟩
      · refine ⟨!budget.all (start + ticks ≤ ·), (start + ticks) :: free.erase start,
          fun rest => ?_⟩
        cases hin : budget.all (start + ticks ≤ ·) <;> simp [schedule, hmin, houtcome, hin]

/-- **Some of the files are too late**; the others are none the worse for it. -/
lemma exists_map_eq_schedule (outcomeOf : SourceFile → Outcome) (ticks : SourceFile → ℕ)
    {files : List SourceFile} (h : files.Nodup) (budget : Option ℕ) (free : List ℕ) :
    ∃ late : SourceFile → Bool,
      schedule budget free (files.map fun file => (outcomeOf file, ticks file)) =
        files.map fun file => if late file then .unfinished else outcomeOf file := by
  induction files generalizing free with
  | nil => exact ⟨fun _ => false, by simp [schedule]⟩
  | cons file rest ih =>
      obtain ⟨hnew, hrest⟩ := nodup_cons.1 h
      obtain ⟨first, free', hcons⟩ := schedule_cons budget free (outcomeOf file) (ticks file)
      obtain ⟨late, hlate⟩ := ih hrest free'
      -- What is said of the first file does not touch the others, since no file occurs twice.
      refine ⟨fun other => if other = file then first else late other, ?_⟩
      simp only [map_cons, hcons, hlate, if_true]
      refine congrArg _ (map_congr_left fun other hother => ?_)
      have hne : other ≠ file := fun heq => hnew (heq ▸ hother)
      simp only [if_neg hne]

/-- **Nothing is too late** if every worker gets done with its files, at times at which the budget
is not spent. -/
lemma schedule_eq_map (good : ℕ → Prop) {items : List (Outcome × ℕ)}
    (hbudget : ∀ n, good n → budget.all (n ≤ ·) = true)
    (hticks : ∀ n, good n → ∀ item ∈ items, good (n + item.2))
    (hends : ∀ item ∈ items, item.1 ≠ .unfinished) (hfree : free ≠ [])
    (hgood : ∀ n ∈ free, good n) :
    schedule budget free items = items.map (·.1) := by
  induction items generalizing free with
  | nil => simp [schedule]
  | cons item rest ih =>
      obtain ⟨outcome, ticks⟩ := item
      obtain ⟨start, hstart⟩ := Option.ne_none_iff_exists'.1 (mt min?_eq_none_iff.1 hfree)
      have hmem := (min?_eq_some_iff.1 hstart).1
      have hdone : good (start + ticks) := hticks start (hgood start hmem) _ mem_cons_self
      have hrest := ih (fun n hn item hitem => hticks n hn item (mem_cons_of_mem _ hitem))
        (fun item hitem => hends item (mem_cons_of_mem _ hitem)) (cons_ne_nil _ (free.erase start))
        (forall_mem_cons.2 ⟨hdone, fun n hn => hgood n (mem_of_mem_erase hn)⟩)
      simp only [schedule, hstart, if_neg (hends _ mem_cons_self), if_pos (hbudget _ hdone), hrest,
        map_cons]

end Outcome

/-- The workers get done with all files: there are some, and no parser goes on forever. -/
structure GetsDone (workers : ℕ) (parser : Parser) (files : List SourceFile) : Prop where
  workers : files ≠ [] → 0 < workers
  ends : ∀ file ∈ files, Outcome.ofFile parser file ≠ .unfinished

lemma GetsDone.filter {workers : ℕ} {parser : Parser} {files : List SourceFile}
    (h : GetsDone workers parser files) (keep : SourceFile → Bool) :
    GetsDone workers parser (files.filter keep) where
  workers hfiles := h.workers fun hnil => hfiles (by rw [hnil, filter_nil])
  ends file hfile := h.ends file (mem_of_mem_filter hfile)

namespace Clock

variable {clock : Clock} {workers : ℕ} {parser : Parser} {files : List SourceFile}

lemma exists_late (clock : Clock) (workers : ℕ) (parser : Parser) (h : files.Nodup) :
    ∃ late : SourceFile → Bool,
      clock.outcomes workers parser files = files.map (Outcome.within late parser) :=
  Outcome.exists_map_eq_schedule (Outcome.ofFile parser) clock.ticks h clock.budget _

/-- **Nothing presses** if the clock stands still or if there is no budget. -/
lemma outcomes_eq_map (hclock : clock = still ∨ clock.budget = none)
    (h : GetsDone workers parser files) :
    clock.outcomes workers parser files = files.map (Outcome.ofFile parser) := by
  cases files with
  | nil => simp [outcomes, Outcome.schedule]
  | cons file rest =>
      have hfree : replicate (min workers (file :: rest).length) 0 ≠ [] := by
        have hworkers := h.workers (cons_ne_nil file rest)
        rw [ne_eq, replicate_eq_nil_iff, length_cons]
        omega
      have hmap :
          ((file :: rest).map fun file => (Outcome.ofFile parser file, clock.ticks file)).map
            (·.1) = (file :: rest).map (Outcome.ofFile parser) := by
        rw [map_map]
        rfl
      have hitems : ∀ item ∈ (file :: rest).map
          fun file => (Outcome.ofFile parser file, clock.ticks file), item.1 ≠ .unfinished :=
        forall_mem_map.2 h.ends
      rw [outcomes, ← hmap]
      rcases hclock with rfl | hbudget
      · refine Outcome.schedule_eq_map (· = 0) ?_ ?_ hitems hfree
          fun n hn => eq_of_mem_replicate hn
        · rintro _ rfl
          rfl
        · rintro _ rfl item hitem
          obtain ⟨other, -, rfl⟩ := mem_map.1 hitem
          rfl
      · exact Outcome.schedule_eq_map (fun _ => True) (fun _ _ => by rw [hbudget]; rfl)
          (fun _ _ _ _ => trivial) hitems hfree fun _ _ => trivial

/-- If nothing was given up, the workers got done with all files. -/
lemma getsDone_of_notMem (hfiles : files.Nodup)
    (h : .unfinished ∉ clock.outcomes workers parser files) : GetsDone workers parser files where
  workers hne := by
    refine Nat.pos_of_ne_zero fun hworkers => ?_
    obtain ⟨file, rest, rfl⟩ := exists_cons_of_ne_nil hne
    simp [outcomes, hworkers, Outcome.schedule] at h
  ends file hfile hunfinished := by
    obtain ⟨late, hlate⟩ := clock.exists_late workers parser hfiles
    rw [hlate] at h
    refine h (mem_map.2 ⟨file, hfile, ?_⟩)
    rw [Outcome.within, hunfinished, ite_self]

end Clock

namespace Harvest

variable {clock : Clock} {late : SourceFile → Bool} {parser : Parser} {offered : List Offered}
  {manifests : Value} {accepted : List SourceFile}

lemma nodup_inPathOrder (h : SourceFile.accept offered = .ok accepted) :
    (SourceFile.inPathOrder accepted).Nodup :=
  (ascending_inPathOrder h).nodup_keys.of_map _

/-- **Whatever the clock decides comes to giving up some files.** -/
lemma exists_late (clock : Clock) (workers : ℕ) (parser : Parser) (offered : List Offered)
    (manifests : Value) : ∃ late : SourceFile → Bool,
      ofFilesBy clock workers parser offered manifests =
        ofFilesWithin late parser offered manifests := by
  cases haccept : SourceFile.accept offered with
  | error e =>
      refine ⟨fun _ => false, ofOutcomesOf_congr fun accepted h => ?_⟩
      rw [haccept] at h
      cases h
  | ok accepted =>
      obtain ⟨late, hlate⟩ :=
        clock.exists_late workers parser ((nodup_inPathOrder haccept).filter isRecognised)
      refine ⟨late, ofOutcomesOf_congr fun accepted' h => ?_⟩
      cases haccept.symm.trans h
      exact hlate

lemma exists_ofFiles_eq (workers : ℕ) (parser : Parser) (offered : List Offered)
    (manifests : Value) : ∃ late : SourceFile → Bool,
      ofFiles workers parser offered manifests = ofFilesWithin late parser offered manifests :=
  exists_late .still workers parser offered manifests

/-- The files that workers take up. -/
def taken (accepted : List SourceFile) : List SourceFile :=
  (SourceFile.inPathOrder accepted).filter isRecognised

/-- **If the workers get done with all files and nothing presses, then no file is too late.** -/
lemma ofFilesBy_eq_ofFilesWithin {workers : ℕ} (hclock : clock = .still ∨ clock.budget = none)
    (h : ∀ accepted, SourceFile.accept offered = .ok accepted →
      GetsDone workers parser (taken accepted)) (manifests : Value) :
    ofFilesBy clock workers parser offered manifests =
      ofFilesWithin (fun _ => false) parser offered manifests :=
  ofOutcomesOf_congr fun accepted haccept => Clock.outcomes_eq_map hclock (h accepted haccept)

/-- If nothing was given up, the workers got done with all files. -/
lemma getsDone_of_unfinished_eq_zero {workers : ℕ} {harvest : Harvest}
    (haccept : SourceFile.accept offered = .ok accepted)
    (h : ofFilesBy clock workers parser offered manifests = .ok harvest)
    (hunfinished : harvest.unfinished = 0) : GetsDone workers parser (taken accepted) := by
  obtain ⟨accepted', haccept', -, hcount⟩ := ofOutcomesOf_eq_ok h
  cases haccept.symm.trans haccept'
  refine clock.getsDone_of_notMem ((nodup_inPathOrder haccept).filter isRecognised) ?_
  exact count_eq_zero.1 (hcount.symm.trans hunfinished)

end Harvest

end RepoAtlas
