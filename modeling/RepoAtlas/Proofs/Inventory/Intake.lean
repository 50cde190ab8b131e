import RepoAtlas.Inventory.Intake
import RepoAtlas.Proofs.Data.Except
import Mathlib.Tactic.SplitIfs

/-!
# What is accepted

A list of files is accepted as a whole or not at all.  `checkFile_eq_ok` says what one accepted
element tells; two facts about whole lists follow from it.  No path occurs twice
(`nodup_paths_accept`), so a path is as good as a file.  And a list that is accepted is also
accepted when some of its files are left out (`accept_without`): what came before an element matters
only through the paths it has taken.
-/

namespace RepoAtlas

open List

/-- The path of what is handed over, if it has one. -/
def Offered.path? : Offered → Option String
  | .file (.str path) _ _ => some path
  | _ => none

/-- A file as it is handed over to a run. -/
def SourceFile.offered (file : SourceFile) : Offered :=
  .file (.str file.path) (.bytes file.bytes) (.int file.bytes.length)

/-- What is handed over, the files at certain paths left out. -/
def Offered.without (aside : String → Bool) (offered : List Offered) : List Offered :=
  offered.filter fun item => !item.path?.any aside

namespace Intake

variable {position : ℕ} {seen : List String} {item : Offered} {items : List Offered}
  {file : SourceFile} {files : List SourceFile}

/-- **An accepted element.**  It has a path that is new, and any other position or other paths
before it would do as well. -/
lemma checkFile_eq_ok (h : checkFile position seen item = .ok file) :
    item.path? = some file.path ∧ file.path ∉ seen ∧
      ∀ position' seen', file.path ∉ seen' → checkFile position' seen' item = .ok file := by
  unfold checkFile at h
  split at h
  · cases h
  · rename_i path content size
    split_ifs at h with hempty hseen
    · obtain ⟨_, -, h⟩ := bind_eq_ok.1 h
      cases h
    obtain ⟨_, hpath, h⟩ := bind_eq_ok.1 h
    cases content with
    | other value => cases h
    | bytes bytes =>
        obtain ⟨_, hsize, h⟩ := bind_eq_ok.1 h
        cases h
        refine ⟨rfl, by simpa using hseen, fun position' seen' hnew => ?_⟩
        have hnew : seen'.contains path = false := by simpa using hnew
        simp only [checkFile, if_neg hempty, hpath, hnew, hsize]
        rfl
  · cases h

lemma nodup_paths_checkFrom (h : checkFrom position seen items = .ok files) :
    (files.map (·.path)).Nodup ∧ ∀ path ∈ files.map (·.path), path ∉ seen := by
  induction items generalizing position seen files with
  | nil =>
      cases h
      simp
  | cons item more ih =>
      obtain ⟨file, hfile, h⟩ := bind_eq_ok.1 h
      obtain ⟨rest, hrest, h⟩ := bind_eq_ok.1 h
      cases h
      obtain ⟨-, hnew, -⟩ := checkFile_eq_ok hfile
      obtain ⟨hdistinct, hunseen⟩ := ih hrest
      rw [map_cons, nodup_cons, forall_mem_cons]
      refine ⟨⟨fun hmem => hunseen _ hmem mem_cons_self, hdistinct⟩, hnew, fun path hpath => ?_⟩
      exact fun hseen => hunseen path hpath (mem_cons_of_mem _ hseen)

lemma checkFrom_without (aside : String → Bool) (h : checkFrom position seen items = .ok files)
    (position' : ℕ) {seen' : List String} (hsub : seen' ⊆ seen) :
    checkFrom position' seen' (Offered.without aside items) =
      .ok (files.filter fun file => !aside file.path) := by
  induction items generalizing position position' seen seen' files with
  | nil =>
      cases h
      rfl
  | cons item more ih =>
      obtain ⟨file, hfile, h⟩ := bind_eq_ok.1 h
      obtain ⟨rest, hrest, h⟩ := bind_eq_ok.1 h
      cases h
      obtain ⟨hpath, hnew, hanywhere⟩ := checkFile_eq_ok hfile
      -- A file that is left out takes no path: `seen'` only has to be part of `seen`.
      by_cases haside : aside file.path = true
      · have hsub' : seen' ⊆ file.path :: seen := fun path hmem => mem_cons_of_mem _ (hsub hmem)
        have hitems : Offered.without aside (item :: more) = Offered.without aside more := by
          simp [Offered.without, hpath, haside]
        rw [hitems, ih hrest position' hsub']
        simp [haside]
      · have hitems : Offered.without aside (item :: more) =
            item :: Offered.without aside more := by
          simp [Offered.without, hpath, haside]
        have hfirst := hanywhere position' seen' fun hmem => hnew (hsub hmem)
        have hothers := ih hrest (position' + 1) (cons_subset_cons file.path hsub)
        rw [hitems, checkFrom, hfirst]
        simp [bind, Except.bind, hothers, haside, pure, Except.pure]

end Intake

namespace SourceFile

variable {offered : List Offered} {files : List SourceFile}

lemma record_eq (file : SourceFile) : file.record =
    ⟨file.path, (Language.ofPath file.path).1, file.bytes.length, .pending, none,
      (Language.ofPath file.path).2, Role.ofPath file.path⟩ := by
  unfold record
  cases Language.ofPath file.path
  rfl

lemma offered_injective : Function.Injective SourceFile.offered := by
  rintro ⟨path, bytes⟩ ⟨path', bytes'⟩ h
  simp_all [SourceFile.offered]

/-- **No path is accepted twice.** -/
lemma nodup_paths_accept (h : accept offered = .ok files) : (files.map (·.path)).Nodup :=
  (Intake.nodup_paths_checkFrom h).1

/-- **Leaving files out does no harm to the others.** -/
lemma accept_without (aside : String → Bool) (h : accept offered = .ok files) :
    accept (Offered.without aside offered) = .ok (files.filter fun file => !aside file.path) :=
  Intake.checkFrom_without aside h 0 (Subset.refl [])

end SourceFile

end RepoAtlas
