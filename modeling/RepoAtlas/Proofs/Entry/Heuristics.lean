import RepoAtlas.Proofs.Entry.References
import RepoAtlas.Proofs.Graph.Arena
import Mathlib.Data.List.Nodup
import Mathlib.Data.List.Sublists
import Mathlib.Tactic.SplitIfs

/-!
# Which heuristics hold

What is listed of a candidate is read off a lookup table, the edges of the graph, its file name and
its outline.  `Holds` says what each heuristic asks, in terms of the graph, the outlines and the
hints, and `Shows` says which sentence of evidence stands for it.  **What is listed is what holds**
(`mem_heuristics_matched_iff`), with the right sentence (`holds_and_shows_of_evidence?`).
-/

namespace RepoAtlas

open List

/-! ## Edges into a node -/

lemma DependencyGraph.inDegree_eq_zero_iff {graph : DependencyGraph String} {index : ℕ} :
    graph.inDegree index = 0 ↔
      ∀ edge ∈ graph.edges, edge.kind = .internal → edge.target ≠ some index := by
  simp only [inDegree, predecessors, length_map, length_eq_zero_iff, filter_eq_nil_iff,
    internalPairs, mem_filterMap, beq_iff_eq]
  constructor
  · intro h edge hedge hinternal htarget
    refine h (edge.source, index) ⟨edge, hedge, ?_⟩ rfl
    exact internalPair?_eq_some_iff.2 ⟨hinternal, rfl, htarget⟩
  · rintro h ⟨source, target⟩ ⟨edge, hedge, hpair⟩ rfl
    obtain ⟨hinternal, -, htarget⟩ := internalPair?_eq_some_iff.1 hpair
    exact h edge hedge hinternal htarget

namespace EntryPoint

variable {graph : DependencyGraph String} {modules : List SourceModule}
  {hints : List (EntryHint String)} {index : ℕ} {node : GraphNode String} {heuristic : Heuristic}
  {text : String}

/-! ## What the heuristics ask -/

/-- The outline of a path, which is the last one that is listed for it. -/
def IsOutlineOf (modules : List SourceModule) (path : String) (module : SourceModule) : Prop :=
  module.path = path ∧ ∃ before after, modules = before ++ module :: after ∧
    ∀ later ∈ after, later.path ≠ path

section Spec

variable (graph : DependencyGraph String) (modules : List SourceModule)
  (hints : List (EntryHint String)) (index : ℕ) (node : GraphNode String)

/-- The heuristic holds of the node with number `index`. -/
def Holds : Heuristic → Prop
  | .manifestMain => ∃ hint ∈ hints, Names (graph.nodes.map (·.path)) hint node.path
  | .zeroInDegree => ∀ edge ∈ graph.edges, edge.kind = .internal → edge.target ≠ some index
  | .entryFilename => Text.beforeFirst '.' (Path.fileName node.path) ∈ entryStems node.language
  | .routeRegistrations => ∃ module, IsOutlineOf modules node.path module ∧ module.routes ≠ []
  | .mainGuard => ∃ module, IsOutlineOf modules node.path module ∧ module.hasMainGuard

/-- The sentence is the evidence that is listed for a heuristic. -/
inductive Shows : Heuristic → String → Prop
  | manifestMain {before after : List (EntryHint String)} {hint : EntryHint String} :
      hints = before ++ hint :: after →
      Names (graph.nodes.map (·.path)) hint node.path →
      (∀ earlier ∈ before, ¬ Names (graph.nodes.map (·.path)) earlier node.path) →
      Shows .manifestMain ("referenced by " ++ hint.manifest)
  | zeroInDegree : Shows .zeroInDegree "in-degree = 0"
  | entryFilename : Shows .entryFilename
      ("filename matches known entry pattern (" ++ Path.fileName node.path ++ ")")
  | routeRegistrations {module : SourceModule} :
      IsOutlineOf modules node.path module →
      Shows .routeRegistrations (toString module.routes.length ++ " route registration(s)")
  | mainGuard : Shows .mainGuard "has __main__ guard"

/-- What is known of a node of the graph. -/
def candidateAt : Candidate where
  node
  inDegree := graph.inDegree index
  module? := modules.findRev? (·.path == node.path)
  manifest? := (references (graph.nodes.map (·.path)) hints).lookup node.path

end Spec

lemma candidates_eq : candidates graph modules hints =
    graph.nodes.mapIdx (candidateAt graph modules hints) := rfl

lemma module?_eq_some_iff {module : SourceModule} :
    (candidateAt graph modules hints index node).module? = some module ↔
      IsOutlineOf modules node.path module := by
  simp only [candidateAt, findRev?_eq_find?_reverse, find?_eq_some_iff_append, beq_iff_eq,
    IsOutlineOf]
  refine and_congr_right fun _ => ?_
  constructor
  · rintro ⟨later, earlier, hsplit, hlater⟩
    refine ⟨earlier.reverse, later.reverse, ?_, ?_⟩
    · rw [← reverse_inj, hsplit]
      simp
    · intro other hother
      simpa using hlater other (mem_reverse.1 hother)
  · rintro ⟨before, after, rfl, hafter⟩
    refine ⟨after.reverse, before.reverse, by simp, ?_⟩
    intro other hother
    simpa using hafter other (mem_reverse.1 hother)

/-- **What is listed holds, and its evidence is the right sentence.** -/
lemma holds_and_shows_of_evidence?
    (h : (candidateAt graph modules hints index node).evidence? heuristic = some text) :
    Holds graph modules hints index node heuristic ∧
      Shows graph modules hints node heuristic text := by
  cases heuristic with
  | manifestMain =>
      obtain ⟨manifest, hlookup, rfl⟩ := Option.map_eq_some_iff.1 h
      obtain ⟨before, hint, after, hsplit, hnames, hbefore, rfl⟩ := lookup_references.1 hlookup
      exact ⟨exists_lookup_references_iff.1 ⟨_, hlookup⟩, .manifestMain hsplit hnames hbefore⟩
  | zeroInDegree =>
      simp only [Candidate.evidence?] at h
      split_ifs at h with hroot
      cases h
      exact ⟨DependencyGraph.inDegree_eq_zero_iff.1 hroot, .zeroInDegree⟩
  | entryFilename =>
      simp only [Candidate.evidence?] at h
      split_ifs at h with hstem
      cases h
      exact ⟨mem_of_elem_eq_true hstem, .entryFilename⟩
  | routeRegistrations =>
      simp only [Candidate.evidence?] at h
      split at h
      · rename_i count hcount
        cases h
        obtain ⟨module, hmodule, hlength⟩ := Option.map_eq_some_iff.1 hcount
        have houtline := module?_eq_some_iff.1 hmodule
        have hshows : Shows graph modules hints node .routeRegistrations
            (toString module.routes.length ++ " route registration(s)") :=
          .routeRegistrations houtline
        rw [hlength] at hshows
        refine ⟨⟨module, houtline, ?_⟩, hshows⟩
        intro hnil
        simp [hnil] at hlength
      · cases h
  | mainGuard =>
      simp only [Candidate.evidence?] at h
      split_ifs at h with hguard
      cases h
      cases hmodule : (candidateAt graph modules hints index node).module? with
      | none => simp [hmodule] at hguard
      | some module =>
          rw [hmodule] at hguard
          exact ⟨⟨module, module?_eq_some_iff.1 hmodule, hguard⟩, .mainGuard⟩

/-- **What holds is listed.** -/
lemma exists_evidence? (h : Holds graph modules hints index node heuristic) :
    ∃ text, (candidateAt graph modules hints index node).evidence? heuristic = some text := by
  cases heuristic with
  | manifestMain =>
      obtain ⟨manifest, hlookup⟩ := exists_lookup_references_iff.2 h
      exact ⟨_, Option.map_eq_some_iff.2 ⟨manifest, hlookup, rfl⟩⟩
  | zeroInDegree => exact ⟨_, if_pos (DependencyGraph.inDegree_eq_zero_iff.2 h)⟩
  | entryFilename => exact ⟨_, if_pos (elem_eq_true_of_mem h)⟩
  | routeRegistrations =>
      obtain ⟨module, houtline, hroutes⟩ := h
      have hmodule : (candidateAt graph modules hints index node).module? = some module :=
        module?_eq_some_iff.2 houtline
      obtain ⟨route, others, hcons⟩ := exists_cons_of_ne_nil hroutes
      simp [Candidate.evidence?, hmodule, hcons]
  | mainGuard =>
      obtain ⟨module, houtline, hguard⟩ := h
      have hmodule : (candidateAt graph modules hints index node).module? = some module :=
        module?_eq_some_iff.2 houtline
      refine ⟨_, if_pos ?_⟩
      rw [hmodule]
      exact hguard

/-! ## What is listed -/

lemma mem_matched {candidate : Candidate} {pair : Heuristic × String} :
    pair ∈ candidate.matched ↔ candidate.evidence? pair.1 = some pair.2 := by
  obtain ⟨heuristic, text⟩ := pair
  simp only [Candidate.matched, mem_filterMap, Option.map_eq_some_iff, Prod.mk.injEq]
  constructor
  · rintro ⟨other, -, found, hfound, rfl, rfl⟩
    exact hfound
  · intro hfound
    exact ⟨heuristic, heuristic.mem_all, text, hfound, rfl, rfl⟩

/-- Heuristics are listed in their order, and each at most once. -/
lemma heuristics_matched_sublist (candidate : Candidate) :
    (candidate.matched.map (·.1)).Sublist Heuristic.all := by
  have hkept : candidate.matched.map (·.1) =
      Heuristic.all.filter fun heuristic => (candidate.evidence? heuristic).isSome := by
    rw [Candidate.matched, map_filterMap, ← filterMap_eq_filter]
    refine filterMap_congr fun heuristic _ => ?_
    cases hevidence : candidate.evidence? heuristic <;> simp [Option.guard, hevidence]
  rw [hkept]
  exact filter_sublist

lemma nodup_heuristics_matched (candidate : Candidate) :
    (candidate.matched.map (·.1)).Nodup :=
  Nodup.sublist (heuristics_matched_sublist candidate) (by decide)

/-- **What is listed is what holds.** -/
lemma mem_heuristics_matched_iff :
    heuristic ∈ (candidateAt graph modules hints index node).matched.map (·.1) ↔
      Holds graph modules hints index node heuristic := by
  constructor
  · intro hlisted
    obtain ⟨⟨_, text⟩, hmatched, rfl⟩ := mem_map.1 hlisted
    exact (holds_and_shows_of_evidence? (mem_matched.1 hmatched)).1
  · intro hholds
    obtain ⟨text, htext⟩ := exists_evidence? hholds
    exact mem_map.2 ⟨(heuristic, text), mem_matched.2 htext, rfl⟩

lemma label_injective : Function.Injective Heuristic.label := by
  intro a b hlabel
  cases a <;> cases b <;> first | rfl | exact absurd hlabel (by decide)

end EntryPoint

end RepoAtlas
