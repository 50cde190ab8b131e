import RepoAtlas.Document.Format
import RepoAtlas.Proofs.Inventory.Complaints
import RepoAtlas.Proofs.Manifest.Reading
import RepoAtlas.Proofs.Run.Accounts
import Mathlib.Data.List.Perm.Basic
import Mathlib.Logic.Relation

/-!
# Runs do not depend on order

There are three orders that a run has no business to depend on: that of the files, that of the
manifests, and the one in which the workers get done with the files.

The first two are sorted away.  A permutation of what is accepted is accepted
(`SourceFile.accept_perm`), and whatever is read off a list that is sorted by distinct keys is read
off the same list.  The third is a matter of steps: `Collecting` is what is known while workers are
busy, and in each step one of them is done with a file.  Outcomes are filed under the path of their
file, so a step changes what is known of this file and of no other (`Follows.step`).
-/

namespace RepoAtlas

open List
open Relation (ReflTransGen)

/-! ## Files and manifests -/

namespace SourceFile

variable {offered offered' : List Offered} {files : List SourceFile}

/-- **What is accepted is accepted in any order.** -/
lemma accept_perm (hoffered : offered' ~ offered) (h : accept offered = .ok files) :
    ∃ files', accept offered' = .ok files' ∧ files' ~ files := by
  obtain ⟨files', h'⟩ := exists_accept_iff.2 ((exists_accept_iff.1 ⟨files, h⟩).perm hoffered)
  refine ⟨files', h', (map_perm_map_iff offered_injective).1 ?_⟩
  rwa [← offered_of_accept h, ← offered_of_accept h']

lemma inPathOrder_eq_of_perm {files' : List SourceFile} (h : accept offered = .ok files)
    (hperm : files' ~ files) : inPathOrder files' = inPathOrder files :=
  byKey_eq_of_perm (nodup_paths_accept h) hperm

end SourceFile

namespace ManifestInfo

/-- The manifests of a repository, given by their paths and texts. -/
def textsAt (manifests : List (String × String)) : Value :=
  .dict (manifests.map fun (path, text) => (path, .str text))

variable {manifests manifests' : List (String × String)}

/-- **Manifests are read in the order of their paths**, however they are arranged. -/
lemma ofValue_textsAt_eq_of_perm (hkeys : Entries.KeysDistinct manifests)
    (hperm : manifests' ~ manifests) :
    ofValue (textsAt manifests') = ofValue (textsAt manifests) := by
  have hordered : inReadingOrder manifests' = inReadingOrder manifests := by
    refine byKey_eq_of_perm ?_ (hperm.map _)
    rw [map_map]
    exact hkeys
  exact (ofTexts_eq manifests').trans (hordered ▸ (ofTexts_eq manifests).symm)

end ManifestInfo

/-! ## Tasks -/

/-- What is known while workers are busy: the files that they are not done with, and what came of
the others, under their paths. -/
structure Collecting where
  waiting : List SourceFile
  outcomes : List (String × Outcome)

namespace Collecting

variable {parser : Parser} {files : List SourceFile} {file : SourceFile}
  {state state' : Collecting}

/-- Nothing came of any file yet. -/
def start (files : List SourceFile) : Collecting := ⟨files, []⟩

/-- A worker is done with one of the files, whichever. -/
inductive Step (parser : Parser) : Collecting → Collecting → Prop
  | done {waiting : List SourceFile} {outcomes : List (String × Outcome)} {file : SourceFile}
      (hwaiting : file ∈ waiting) (hends : Outcome.ofFile parser file ≠ .unfinished) :
      Step parser ⟨waiting, outcomes⟩ ⟨waiting.erase file,
        Entries.insert file.path (Outcome.ofFile parser file) outcomes⟩

/-- What is known of a file; it is given up if nothing is. -/
def outcomeOf (state : Collecting) (file : SourceFile) : Outcome :=
  (state.outcomes.lookup file.path).getD .unfinished

/-- Nothing is known of files that are waiting, and of the others it is known what came of them. -/
structure Follows (parser : Parser) (files : List SourceFile) (state : Collecting) : Prop where
  nodup : state.waiting.Nodup
  waiting : ∀ file ∈ files, file ∈ state.waiting → state.outcomes.lookup file.path = none
  done : ∀ file ∈ files, file ∉ state.waiting →
    state.outcomes.lookup file.path = some (Outcome.ofFile parser file)

lemma follows_start (hpaths : (files.map (·.path)).Nodup) : Follows parser files (start files) where
  nodup := hpaths.of_map _
  waiting _ _ _ := rfl
  done _ hfile hdone := absurd hfile hdone

/-- **A step is about one file.**  The others have other paths. -/
lemma Follows.step (hpaths : (files.map (·.path)).Nodup) (h : Follows parser files state)
    (hsub : state.waiting ⊆ files) (hstep : Step parser state state') :
    Follows parser files state' ∧ state'.waiting ⊆ files := by
  obtain @⟨waiting, outcomes, file, hwaiting, -⟩ := hstep
  have hfile : file ∈ files := hsub hwaiting
  have hother : ∀ other ∈ files, other ≠ file → (other.path == file.path) = false := by
    intro other hmem hne
    exact beq_false_of_ne fun heq => hne (inj_on_of_nodup_map hpaths hmem hfile heq)
  refine ⟨⟨h.nodup.erase file, fun other hmem hmore => ?_, fun other hmem hdone => ?_⟩,
    fun other hmem => hsub (mem_of_mem_erase hmem)⟩
  · have hne : other ≠ file := fun heq => h.nodup.not_mem_erase (heq ▸ hmore)
    rw [Entries.lookup_insert, hother other hmem hne]
    exact h.waiting other hmem (mem_of_mem_erase hmore)
  · rw [Entries.lookup_insert]
    by_cases heq : other = file
    · rw [heq, beq_self_eq_true, if_pos rfl]
    · rw [hother other hmem heq]
      exact h.done other hmem fun hmore => hdone ((mem_erase_of_ne heq).2 hmore)

/-- **Whatever the order of steps, they add up to the same.** -/
lemma follows_of_steps (hpaths : (files.map (·.path)).Nodup)
    (h : ReflTransGen (Step parser) (start files) state) :
    Follows parser files state ∧ state.waiting ⊆ files := by
  induction h with
  | refl => exact ⟨follows_start hpaths, Subset.refl files⟩
  | tail _ hstep ih => exact ih.1.step hpaths ih.2 hstep

/-- Files that are still waiting are too late. -/
lemma outcomeOf_eq_within (h : Follows parser files state) (hfile : file ∈ files) :
    state.outcomeOf file = Outcome.within (state.waiting.contains ·) parser file := by
  by_cases hwaiting : file ∈ state.waiting
  · rw [outcomeOf, h.waiting file hfile hwaiting, Outcome.within,
      if_pos (contains_iff_mem.2 hwaiting)]
    rfl
  · rw [outcomeOf, h.done file hfile hwaiting, Outcome.within,
      if_neg (mt contains_iff_mem.1 hwaiting)]
    rfl

/-- If the workers get done with every file, then they do in the order in which files wait. -/
lemma exists_steps {waiting : List SourceFile} (outcomes : List (String × Outcome))
    (h : ∀ file ∈ waiting, Outcome.ofFile parser file ≠ .unfinished) :
    ∃ outcomes', ReflTransGen (Step parser) ⟨waiting, outcomes⟩ ⟨[], outcomes'⟩ := by
  induction waiting generalizing outcomes with
  | nil => exact ⟨outcomes, .refl⟩
  | cons file rest ih =>
      obtain ⟨hfile, hrest⟩ := forall_mem_cons.1 h
      have hstep : Step parser ⟨file :: rest, outcomes⟩ ⟨(file :: rest).erase file,
          Entries.insert file.path (Outcome.ofFile parser file) outcomes⟩ :=
        .done mem_cons_self hfile
      rw [erase_cons_head] at hstep
      obtain ⟨outcomes', hsteps⟩ := ih _ hrest
      exact ⟨outcomes', .head hstep hsteps⟩

end Collecting

/-! ## Runs -/

namespace Harvest

variable {offered offered' : List Offered} {manifests manifests' : Value}

/-- **Files and manifests are sorted before they are looked at.** -/
lemma ofOutcomesOf_eq_of_perm (outcomesOf : List SourceFile → List Outcome)
    {files : List SourceFile} (haccept : SourceFile.accept offered = .ok files)
    (hoffered : offered' ~ offered)
    (hmanifests : ManifestInfo.ofValue manifests' = ManifestInfo.ofValue manifests) :
    ofOutcomesOf outcomesOf offered' manifests' = ofOutcomesOf outcomesOf offered manifests := by
  obtain ⟨files', haccept', hperm⟩ := SourceFile.accept_perm hoffered haccept
  have hordered := SourceFile.inPathOrder_eq_of_perm haccept hperm
  simp only [ofOutcomesOf, haccept, haccept', hordered, hmanifests]

end Harvest

namespace Plan

variable {plan : Plan} {parser : Parser} {offered offered' : List Offered}
  {manifests manifests' : List (String × String)} {files : List SourceFile}
  {result result' : Except RunError (Atlas String Span)}

/-- A result of a run in which the workers get done with every file, in some order. -/
inductive Returns (plan : Plan) (parser : Parser) (offered : List Offered) (manifests : Value) :
    Except RunError (Atlas String Span) → Prop
  | intro {files : List SourceFile} {state : Collecting}
      (haccept : SourceFile.accept offered = .ok files)
      (hsteps : ReflTransGen (Collecting.Step parser)
        (.start ((SourceFile.inPathOrder files).filter Harvest.isRecognised)) state)
      (hwaiting : state.waiting = []) :
      Returns plan parser offered manifests
        (plan.complete (Harvest.ofOutcomesOf (·.map state.outcomeOf) offered manifests))

/-- **All there is to know of a run is which files the workers were not done with.** -/
lemma complete_eq_runWithin {state : Collecting} (haccept : SourceFile.accept offered = .ok files)
    (hsteps : ReflTransGen (Collecting.Step parser)
      (.start ((SourceFile.inPathOrder files).filter Harvest.isRecognised)) state)
    (manifests : Value) :
    plan.complete (Harvest.ofOutcomesOf (·.map state.outcomeOf) offered manifests) =
      plan.runWithin (state.waiting.contains ·) parser offered manifests := by
  have hpaths : (((SourceFile.inPathOrder files).filter Harvest.isRecognised).map
      (·.path)).Nodup :=
    ((Harvest.ascending_inPathOrder haccept).filter Harvest.isRecognised).nodup_keys
  have hfollows := (Collecting.follows_of_steps hpaths hsteps).1
  refine congrArg plan.complete (Harvest.ofOutcomesOf_congr fun accepted haccept' => ?_)
  cases haccept.symm.trans haccept'
  exact map_congr_left fun file hfile => Collecting.outcomeOf_eq_within hfollows hfile

lemma Returns.eq {manifests : Value} (h : plan.Returns parser offered manifests result) :
    result = plan.runWithin (fun _ => false) parser offered manifests := by
  obtain @⟨files, state, haccept, hsteps, hwaiting⟩ := h
  rw [complete_eq_runWithin haccept hsteps, hwaiting]
  rfl

/-- If the workers can get done with every file, then the run is one in which they do. -/
lemma returns_run (hworkers : 0 < plan.workers) (haccept : SourceFile.accept offered = .ok files)
    (hends : ∀ file ∈ files, Harvest.isRecognised file = true →
      Outcome.ofFile parser file ≠ .unfinished) (manifests : Value) :
    plan.Returns parser offered manifests (plan.run parser offered manifests) := by
  have hdone : GetsDone plan.workers parser (Harvest.taken files) := by
    refine ⟨fun _ => hworkers, fun file hfile => ?_⟩
    obtain ⟨hmem, hrecognised⟩ := mem_filter.1 hfile
    exact hends file (Harvest.mem_inPathOrder.1 hmem) hrecognised
  obtain ⟨outcomes, hsteps⟩ := Collecting.exists_steps [] hdone.ends
  have hreturns : plan.Returns parser offered manifests _ := .intro haccept hsteps rfl
  have hrun : plan.run parser offered manifests =
      plan.runWithin (fun _ => false) parser offered manifests := by
    refine run_eq_runWithin (Harvest.ofFilesBy_eq_ofFilesWithin (Or.inl rfl) ?_ manifests)
    intro accepted haccept'
    cases haccept.symm.trans haccept'
    exact hdone
  rw [hrun, ← hreturns.eq]
  exact hreturns

/-- The document that is written of an atlas. -/
def documentOf (format : Format) (atlas : Atlas String Span) : String :=
  Document.write format (Document.ofAtlas (Document.heldAtlas atlas))

/-- **Runs do not depend on order.**  The files may be handed over in any order, the manifests may
be arranged in any way, and the workers may get done with the files in any order: the result is the
same, and so is the document that is written of it. -/
theorem runs_do_not_depend_on_order (plan : Plan) (parser : Parser)
    (haccept : SourceFile.accept offered = .ok files) (hoffered : offered' ~ offered)
    (hkeys : Entries.KeysDistinct manifests) (hmanifests : manifests' ~ manifests) :
    plan.run parser offered' (ManifestInfo.textsAt manifests') =
        plan.run parser offered (ManifestInfo.textsAt manifests) ∧
    (∀ result result', plan.Returns parser offered (ManifestInfo.textsAt manifests) result →
      plan.Returns parser offered' (ManifestInfo.textsAt manifests') result' →
      result' = result ∧
        ∀ format, result'.map (documentOf format) = result.map (documentOf format)) ∧
    (0 < plan.workers → (∀ file ∈ files, Harvest.isRecognised file = true →
        Outcome.ofFile parser file ≠ .unfinished) →
      plan.Returns parser offered (ManifestInfo.textsAt manifests)
        (plan.run parser offered (ManifestInfo.textsAt manifests))) := by
  have hread := ManifestInfo.ofValue_textsAt_eq_of_perm hkeys hmanifests
  refine ⟨?_, fun result result' h h' => ?_, fun hworkers hends => ?_⟩
  · exact congrArg plan.complete (Harvest.ofOutcomesOf_eq_of_perm
      (Clock.still.outcomes plan.workers parser) haccept hoffered hread)
  · have heq : result' = result := by
      rw [h.eq, h'.eq]
      exact congrArg plan.complete (Harvest.ofOutcomesOf_eq_of_perm
        (·.map (Outcome.within (fun _ => false) parser)) haccept hoffered hread)
    exact ⟨heq, fun format => by rw [heq]⟩
  · exact returns_run hworkers haccept hends _

/-- Two manifests, and the same two the other way round. -/
def pairOfManifests : List (String × String) :=
  [("package.json", "\x7b\x7d"), ("requirements.txt", "flask\n")]

theorem mixedFiles_in_any_order :
    pairOfManifests.reverse ≠ pairOfManifests ∧ mixedFiles.reverse ≠ mixedFiles ∧
    run ⟨8, .standard, Rule.builtIn⟩ blankParser mixedFiles.reverse
        (ManifestInfo.textsAt pairOfManifests.reverse) =
      run ⟨8, .standard, Rule.builtIn⟩ blankParser mixedFiles
        (ManifestInfo.textsAt pairOfManifests) ∧
    Returns ⟨8, .standard, Rule.builtIn⟩ blankParser mixedFiles
      (ManifestInfo.textsAt pairOfManifests)
      (run ⟨8, .standard, Rule.builtIn⟩ blankParser mixedFiles
        (ManifestInfo.textsAt pairOfManifests)) := by
  have hkeys : Entries.KeysDistinct pairOfManifests := by decide
  obtain ⟨hrun, -, hreturns⟩ := runs_do_not_depend_on_order ⟨8, .standard, Rule.builtIn⟩ blankParser
    accept_mixedFiles (reverse_perm mixedFiles) hkeys (reverse_perm pairOfManifests)
  refine ⟨by decide, by decide, hrun, hreturns (by decide) fun file _ _ => ?_⟩
  exact Outcome.ofFile_ne_unfinished (by simp [blankParser])

end Plan

end RepoAtlas
