import RepoAtlas.Entry.Rank
import RepoAtlas.Proofs.Data.Entries
import Mathlib.Data.List.Basic

/-!
# What hints name

A hint of a manifest may mean several files.  It names the first of them that is a module of the
graph, if there is one (`names_iff`), and so it names one module at most.  Several hints may name
one module; **the first of them is the one that is cited** (`lookup_references`).
-/

namespace RepoAtlas.EntryPoint

open List

variable {paths : List String} {hints : List (EntryHint String)} {hint : EntryHint String}
  {path manifest : String}

/-- The hint means a path, and no file that it means rather than that one is among the paths. -/
def Names (paths : List String) (hint : EntryHint String) (path : String) : Prop :=
  path ∈ paths ∧ ∃ before after, hintedFiles hint = before ++ path :: after ∧
    ∀ earlier ∈ before, earlier ∉ paths

lemma names_iff : Names paths hint path ↔
    (hintedFiles hint).find? paths.contains = some path := by
  rw [find?_eq_some_iff_append]
  simp [Names]

/-- **A module is found under the first hint that names it.** -/
lemma lookup_references : (references paths hints).lookup path = some manifest ↔
    ∃ before hint after, hints = before ++ hint :: after ∧ Names paths hint path ∧
      (∀ earlier ∈ before, ¬ Names paths earlier path) ∧ hint.manifest = manifest := by
  simp only [names_iff]
  rw [references, Entries.lookup_addNew, nil_append, Entries.lookup_filterMap,
    Option.map_eq_some_iff]
  constructor
  · rintro ⟨hint, hfound, hmanifest⟩
    obtain ⟨hnames, before, after, hsplit, hbefore⟩ := find?_eq_some_iff_append.1 hfound
    refine ⟨before, hint, after, hsplit, eq_of_beq hnames, ?_, hmanifest⟩
    intro earlier hearlier hsame
    have hdiffers := hbefore earlier hearlier
    rw [hsame] at hdiffers
    simp at hdiffers
  · rintro ⟨before, hint, after, hsplit, hnames, hbefore, hmanifest⟩
    refine ⟨hint, find?_eq_some_iff_append.2 ⟨?_, before, after, hsplit, ?_⟩, hmanifest⟩
    · simpa using hnames
    · intro earlier hearlier
      simpa using hbefore earlier hearlier

/-- A module has a reference exactly when a hint names it. -/
lemma exists_lookup_references_iff :
    (∃ manifest, (references paths hints).lookup path = some manifest) ↔
      ∃ hint ∈ hints, Names paths hint path := by
  constructor
  · rintro ⟨manifest, hlookup⟩
    obtain ⟨before, hint, after, rfl, hnames, -⟩ := lookup_references.1 hlookup
    exact ⟨hint, mem_append_right before mem_cons_self, hnames⟩
  · rintro ⟨hint, hmem, hnames⟩
    rw [references, Entries.lookup_addNew, nil_append, Entries.lookup_filterMap]
    cases hfirst : hints.find? fun hint => (hintedFiles hint).find? paths.contains == some path with
    | none =>
        have hmisses := find?_eq_none.1 hfirst hint hmem
        rw [names_iff.1 hnames] at hmisses
        simp at hmisses
    | some first => exact ⟨first.manifest, rfl⟩

end RepoAtlas.EntryPoint
