import RepoAtlas.Resolution.JavaScript
import RepoAtlas.Resolution.Python
import Mathlib.Tactic.Lemma
import Mathlib.Tactic.SplitIfs

/-!
# Resolution answers with what it knows

Both ways of resolving an import try one location after another and fall back on packages in
between.  Whichever attempt succeeds, the path in the answer has been looked up among the known
paths: this is what lets the graph number the path without asking again.
-/

namespace RepoAtlas.Resolution

open List

variable {path : String}

lemma ofPath?_eq_internal {found : Option String} (h : ofPath? found = .internal path) :
    found = some path := by
  cases found with
  | none => cases h
  | some other =>
      cases h
      rfl

/-! ## Python -/

namespace Python

variable {known : Known} {exclude : Option String} {roots : List String}

lemma mem_of_lookup? {dotted : String} (h : lookup? known exclude roots dotted = some path) :
    path ∈ known.paths := by
  have hfound := find?_some h
  rw [Bool.and_eq_true] at hfound
  exact mem_of_elem_eq_true hfound.1

lemma mem_of_lookupPackage? (h : lookupPackage? known roots = some path) : path ∈ known.paths := by
  have hfound : known.paths.contains path = true := find?_some h
  exact mem_of_elem_eq_true hfound

lemma mem_of_moduleOrSubmodule? {module : String} {symbols : List String}
    (h : moduleOrSubmodule? known exclude roots module symbols = some path) :
    path ∈ known.paths := by
  unfold moduleOrSubmodule? at h
  split at h
  · rename_i found hsubmodule
    cases h
    obtain ⟨dotted, -, hdotted⟩ := exists_of_findSome?_eq_some hsubmodule
    exact mem_of_lookup? hdotted
  · split_ifs at h
    · exact mem_of_lookupPackage? h
    · exact mem_of_lookup? h

lemma mem_of_besideScript? {importer target : String} {symbols : List String}
    (h : besideScript? known importer target symbols = some path) : path ∈ known.paths := by
  simp only [besideScript?] at h
  split_ifs at h
  exact mem_of_moduleOrSubmodule? h

lemma mem_of_resolve {importer target : String} {symbols : List String}
    (h : resolve known importer target symbols = .internal path) : path ∈ known.paths := by
  unfold resolve at h
  split_ifs at h
  · simp only [resolveRelative] at h
    split at h
    · cases h
    · exact mem_of_moduleOrSubmodule? (ofPath?_eq_internal h)
  · unfold resolveAbsolute at h
    split at h
    · cases h
      exact mem_of_moduleOrSubmodule? ‹_›
    · split at h
      · cases h
      · exact mem_of_besideScript? (ofPath?_eq_internal h)

end Python

/-! ## JavaScript -/

namespace JavaScript

variable {known : Known}

lemma mem_of_resolveLocation {location : String}
    (h : resolveLocation known location = .internal path) : path ∈ known.paths := by
  unfold resolveLocation at h
  split at h
  · cases h
  · have hfound : known.paths.contains path = true := find?_some (ofPath?_eq_internal h)
    exact mem_of_elem_eq_true hfound

lemma resolvePackage_ne_internal {target : String} :
    resolvePackage known target ≠ .internal path := by
  simp only [resolvePackage]
  split_ifs <;> simp

lemma mem_of_resolve {importer target : String}
    (h : resolve known importer target = .internal path) : path ∈ known.paths := by
  unfold resolve at h
  split_ifs at h
  · exact mem_of_resolveLocation h
  · exact absurd h resolvePackage_ne_internal

end JavaScript

end RepoAtlas.Resolution
