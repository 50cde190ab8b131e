import RepoAtlas.Proofs.Run.Accounts

/-!
# Failures of rules lose nothing

A rule may fail at any moment, perhaps after it has reported a number of concepts, and it may report
something that is not a fact.  The first rule that does so ends the run.  What had been found before
is kept: it is what the same run finds without the failing rules, except for everything that
charting would have added (`Atlas.uncharted`).  Not even the concepts of rules that did finish are
kept, nor the graph that all of them looked at.

Two things carry this.  Extraction stops at the first rule that fails, for the reason that this rule
has (`Concept.extract_eq_error`).  And what rules look at does not depend on the rules, so that it
is the same in both runs; `Harvest.exists_graph_analysis` says that it is always there.
-/

namespace RepoAtlas

open List

/-! ## Rules that fail -/

namespace Rule

variable {rule : Rule} {here : Surroundings}

/-- The rule reports facts only, and it finishes. -/
def succeeds (rule : Rule) (here : Surroundings) : Bool :=
  (rule.emit here).findings.all (·.isFact) && (rule.emit here).failure.isNone

/-- All rules before this one succeed. -/
def IsReached (rules : List Rule) (here : Surroundings) (rule : Rule) : Prop :=
  ∃ before after, rules = before ++ rule :: after ∧
    ∀ earlier ∈ before, earlier.succeeds here = true

lemma exists_concepts (h : rule.succeeds here = true) :
    ∃ concepts, rule.concepts here = .ok concepts := by
  obtain ⟨hfacts, hnone⟩ := Bool.and_eq_true_iff.1 h
  refine ⟨(rule.emit here).findings.map (·.concept), ?_⟩
  simp only [concepts, hfacts, Option.isNone_iff_eq_none.1 hnone, if_true]

lemma concepts_eq_notAFact (h : ∃ finding ∈ (rule.emit here).findings, finding.isFact = false) :
    rule.concepts here = .error (.notAFact rule.name) := by
  have hfacts : ¬ (rule.emit here).findings.all (·.isFact) = true := by
    obtain ⟨finding, hfinding, hguess⟩ := h
    intro hall
    rw [all_eq_true.1 hall finding hfinding] at hguess
    cases hguess
  simp only [concepts, if_neg hfacts]

lemma concepts_eq_ruleFailed {failure : RuleFailure}
    (hfacts : ∀ finding ∈ (rule.emit here).findings, finding.isFact = true)
    (h : (rule.emit here).failure = some failure) :
    rule.concepts here = .error (.ruleFailed failure) := by
  simp only [concepts, all_eq_true.2 hfacts, h, if_true]

lemma succeeds_of_finishes (h : rule.Finishes) (here : Surroundings) :
    rule.succeeds here = true := by
  obtain ⟨found, hfound⟩ := h here
  simp only [concepts] at hfound
  split_ifs at hfound with hfacts
  split at hfound
  · cases hfound
  · rename_i hnone
    simp only [succeeds, hfacts, hnone, Option.isNone_none, Bool.and_self]

end Rule

namespace Concept

variable {here : Surroundings} {rules : List Rule} {rule : Rule} {e : ExtractionError}

/-- **The first rule that fails ends extraction**, with its own reason. -/
lemma extract_eq_error (hreached : rule.IsReached rules here)
    (h : rule.concepts here = .error e) : extract rules here = .error e := by
  obtain ⟨before, after, rfl, hbefore⟩ := hreached
  have hfound : (before ++ rule :: after).mapM (·.concepts here) = .error e :=
    mapM_append_eq_error (fun earlier hearlier => Rule.exists_concepts (hbefore earlier hearlier)) h
  rw [extract, hfound]
  rfl

end Concept

/-! ## What is kept -/

namespace Atlas

/-- What the rules of the run looked at. -/
def surroundings (atlas : Atlas String Span) : Surroundings :=
  .ofModules atlas.modules atlas.graph atlas.analysis atlas.manifest

/-- The atlas without everything that charting adds. -/
def uncharted (atlas : Atlas String Span) : Atlas String Span :=
  { atlas with graph := .empty, analysis := .empty, entryPoints := [], concepts := [] }

end Atlas

/-- **What becomes of the harvest when rules fail.**  The outcome of a run is given as a function of
its rules, and `atlas` is the one without those that fail. -/
structure KeepsHarvest (outcome : List Rule → Except RunError (Atlas String Span))
    (rules : List Rule) (atlas : Atlas String Span) : Prop where
  returns : outcome (rules.filter (·.succeeds atlas.surroundings)) = .ok atlas
  /-- Whichever rules there are, they look at the same, and the same is kept. -/
  steady : ∀ others other, outcome others = .ok other →
    other.surroundings = atlas.surroundings ∧ other.uncharted = atlas.uncharted
  /-- The first rule that fails reports something that is not a fact. -/
  guessed : ∀ rule : Rule, rule.IsReached rules atlas.surroundings →
    (∃ finding ∈ (rule.emit atlas.surroundings).findings, finding.isFact = false) →
    outcome rules = .error (.halfway (.extraction (.notAFact rule.name)) atlas.uncharted)
  /-- The first rule that fails gets stuck. -/
  stuck : ∀ rule : Rule, rule.IsReached rules atlas.surroundings →
    (∀ finding ∈ (rule.emit atlas.surroundings).findings, finding.isFact = true) →
    ∀ failure, (rule.emit atlas.surroundings).failure = some failure →
    (∀ text, failure ≠ .brokenContract text) →
    outcome rules = .error (.halfway (.extraction (.ruleFailed failure)) atlas.uncharted)
  /-- The first rule that fails complains of a broken promise. -/
  complained : ∀ rule : Rule, rule.IsReached rules atlas.surroundings →
    (∀ finding ∈ (rule.emit atlas.surroundings).findings, finding.isFact = true) →
    ∀ text, (rule.emit atlas.surroundings).failure = some (.brokenContract text) →
    outcome rules = .error (.brokenContract text)

namespace Harvest

variable {harvest : Harvest} {plan : Plan} {graph : DependencyGraph String}
  {analysis : GraphAnalysis String}

lemma chart_of_extract_eq_error (hgraph : harvest.graph = .ok graph)
    (hanalysis : analysisOf graph = .ok analysis) {e : ExtractionError}
    (h : Concept.extract plan.rules
      (.ofModules harvest.modules graph analysis harvest.manifest) = .error e) :
    harvest.chart plan = .error (.extraction e) := by
  have hconcepts : harvest.conceptsOf plan.rules graph analysis = .error (.extraction e) := by
    rw [conceptsOf, h]
  simp only [chart, hgraph, hanalysis, hconcepts, bind, Except.bind]

/-- An atlas of a harvest has its graph, its analysis, and what was harvested. -/
lemma eq_chartedAtlas_of_chart (hgraph : harvest.graph = .ok graph)
    (hanalysis : analysisOf graph = .ok analysis) {atlas : Atlas String Span}
    (h : harvest.chart plan = .ok atlas) :
    ∃ concepts, atlas = harvest.chartedAtlas plan graph analysis concepts := by
  obtain ⟨graph', hgraph', h⟩ := bind_eq_ok.1 h
  obtain rfl := Except.ok.inj (hgraph.symm.trans hgraph')
  obtain ⟨analysis', hanalysis', h⟩ := bind_eq_ok.1 h
  obtain rfl := Except.ok.inj (hanalysis.symm.trans hanalysis')
  obtain ⟨concepts, -, h⟩ := bind_eq_ok.1 h
  exact ⟨concepts, (Except.ok.inj h).symm⟩

/-- **A harvest is kept**, whatever its rules do. -/
lemma exists_keepsHarvest (plan : Plan) (harvest : Harvest)
    (hpaths : (harvest.modules.map (·.path)).Nodup) :
    ∃ atlas, KeepsHarvest (fun rules => Atlas.ofHarvest { plan with rules } harvest)
      plan.rules atlas := by
  obtain ⟨graph, analysis, hgraph, hanalysis⟩ := exists_graph_analysis harvest hpaths
  obtain ⟨concepts, hconcepts⟩ : ∃ concepts, Concept.extract (plan.rules.filter
      (·.succeeds (.ofModules harvest.modules graph analysis harvest.manifest)))
      (.ofModules harvest.modules graph analysis harvest.manifest) = .ok concepts :=
    Concept.exists_extract fun rule hrule => Rule.exists_concepts (mem_filter.1 hrule).2
  have hfails : ∀ {rule : Rule} {e : ExtractionError},
      rule.IsReached plan.rules
        (.ofModules harvest.modules graph analysis harvest.manifest) →
      rule.concepts (.ofModules harvest.modules graph analysis harvest.manifest) = .error e →
      harvest.chart plan = .error (.extraction e) := by
    intro rule e hreached hrule
    exact chart_of_extract_eq_error hgraph hanalysis (Concept.extract_eq_error hreached hrule)
  refine ⟨harvest.chartedAtlas plan graph analysis concepts, ?_, ?_, ?_, ?_, ?_⟩
  · exact Atlas.ofHarvest_eq_ok_iff.2 (chart_of_extract hgraph hanalysis hconcepts)
  · intro others other hother
    obtain ⟨found, rfl⟩ :=
      eq_chartedAtlas_of_chart hgraph hanalysis (Atlas.ofHarvest_eq_ok_iff.1 hother)
    exact ⟨rfl, rfl⟩
  · intro rule hreached hguess
    have hchart := hfails hreached (Rule.concepts_eq_notAFact hguess)
    simp only [Atlas.ofHarvest, hchart, ExtractionError.brokenContract?]
    rfl
  · intro rule hreached hfacts failure hfailure hother
    have hchart := hfails hreached (Rule.concepts_eq_ruleFailed hfacts hfailure)
    cases failure with
    | brokenContract text => exact absurd rfl (hother text)
    | badValue text =>
        simp only [Atlas.ofHarvest, hchart, ExtractionError.brokenContract?]
        rfl
    | missingKey key =>
        simp only [Atlas.ofHarvest, hchart, ExtractionError.brokenContract?]
        rfl
  · intro rule hreached hfacts text hfailure
    have hchart := hfails hreached (Rule.concepts_eq_ruleFailed hfacts hfailure)
    simp only [Atlas.ofHarvest, hchart, ExtractionError.brokenContract?]

end Harvest

/-! ## Runs -/

namespace Plan

variable {plan : Plan} {offered : List Offered} {manifests : Value} {files : List SourceFile}
  {manifest : ManifestInfo String}

/-- Some files may be too late; the rules have no say in which. -/
lemma exists_keepsHarvest_runWithin (plan : Plan) (late : SourceFile → Bool) (parser : Parser)
    (haccept : SourceFile.accept offered = .ok files)
    (hmanifest : ManifestInfo.ofValue manifests = .ok manifest) :
    ∃ atlas, KeepsHarvest
      (fun rules => runWithin { plan with rules } late parser offered manifests)
      plan.rules atlas := by
  have hharvest : Harvest.ofFilesWithin late parser offered manifests = .ok _ :=
    Harvest.ofFilesWithin_eq_ok_iff.2 ⟨files, manifest, haccept, hmanifest, rfl⟩
  have hpaths := (Harvest.ascending_outlines late parser
    (Harvest.ascending_inPathOrder haccept)).nodup_keys
  obtain ⟨atlas, hkeeps⟩ := Harvest.exists_keepsHarvest plan (.ofSettled
    (Outcome.within late parser) (SourceFile.inPathOrder files) manifest) hpaths
  refine ⟨atlas, ?_⟩
  simp only [runWithin, hharvest]
  exact hkeeps

/-- **No failure of a rule loses what was found before it.**  Once files and manifests are accepted,
a run with rules that fail answers with what the run without them has found, up to the charting of
it; only complaints of a broken promise are passed on as they are. -/
theorem rule_failures_keep_the_harvest (plan : Plan) (parser : Parser)
    (haccept : SourceFile.accept offered = .ok files)
    (hmanifest : ManifestInfo.ofValue manifests = .ok manifest) :
    (∀ late : SourceFile → Bool, ∃ atlas, KeepsHarvest
      (fun rules => runWithin { plan with rules } late parser offered manifests)
      plan.rules atlas) ∧
    ∃ atlas, KeepsHarvest (fun rules => run { plan with rules } parser offered manifests)
      plan.rules atlas := by
  refine ⟨fun late => exists_keepsHarvest_runWithin plan late parser haccept hmanifest, ?_⟩
  obtain ⟨late, hlate⟩ := Harvest.exists_ofFiles_eq plan.workers parser offered manifests
  obtain ⟨atlas, hkeeps⟩ := exists_keepsHarvest_runWithin plan late parser haccept hmanifest
  have hruns : (fun rules => run { plan with rules } parser offered manifests) =
      fun rules => runWithin { plan with rules } late parser offered manifests :=
    funext fun rules => run_eq_runWithin hlate
  exact ⟨atlas, hruns ▸ hkeeps⟩

/-- A rule that reports one concept, perhaps not a fact, and then fails or not. -/
def lastRule (isFact : Bool) (failure : Option RuleFailure) : Rule where
  name := "last"
  kind := .designPattern
  label := "Last"
  emit _ := ⟨[⟨⟨.designPattern, "Last", 0, ".", none, [], "last"⟩, isFact⟩], failure⟩

lemma isReached_lastRule (here : Surroundings) (isFact : Bool) (failure : Option RuleFailure) :
    (lastRule isFact failure).IsReached (Rule.builtIn ++ [lastRule isFact failure]) here :=
  ⟨Rule.builtIn, [], rfl, fun _ hearlier => Rule.succeeds_of_finishes
    (Rule.forall_mem_builtIn Rule.finishes_ofSightings _ hearlier) here⟩

lemma filter_lastRule (here : Surroundings) {isFact : Bool} {failure : Option RuleFailure}
    (h : (isFact && failure.isNone) = false) :
    (Rule.builtIn ++ [lastRule isFact failure]).filter (·.succeeds here) = Rule.builtIn := by
  have hown : ∀ rule ∈ Rule.builtIn, rule.succeeds here = true := fun rule hrule =>
    Rule.succeeds_of_finishes (Rule.forall_mem_builtIn Rule.finishes_ofSightings _ hrule) here
  have hlast : ¬ (lastRule isFact failure).succeeds here = true := by
    simp only [Rule.succeeds, lastRule, all_cons, all_nil, Bool.and_true, h, Bool.false_eq_true,
      not_false_eq_true]
  have hnone : [lastRule isFact failure].filter (·.succeeds here) = [] :=
    filter_cons_of_neg hlast
  rw [filter_append, filter_eq_self.2 hown, hnone, append_nil]

/-- The script is kept when a fourteenth rule gets stuck or guesses, but not when it complains. -/
theorem mixedFiles_kept :
    let outcome := fun rules => run ⟨8, .standard, rules⟩ blankParser mixedFiles (.dict [])
    (∃ atlas, outcome Rule.builtIn = .ok atlas ∧
      outcome (Rule.builtIn ++ [lastRule true (some (.badValue "boom"))]) =
        .error (.halfway (.extraction (.ruleFailed (.badValue "boom"))) atlas.uncharted)) ∧
    (∃ atlas, outcome Rule.builtIn = .ok atlas ∧
      outcome (Rule.builtIn ++ [lastRule false none]) =
        .error (.halfway (.extraction (.notAFact "last")) atlas.uncharted)) ∧
    outcome (Rule.builtIn ++ [lastRule true (some (.brokenContract "boom"))]) =
      .error (.brokenContract "boom") := by
  intro outcome
  have hmanifest : ManifestInfo.ofValue (.dict []) = .ok .empty := by decide +kernel
  have hkept : ∀ rules, ∃ atlas, KeepsHarvest outcome rules atlas := fun rules =>
    (rule_failures_keep_the_harvest ⟨8, .standard, rules⟩ blankParser accept_mixedFiles
      hmanifest).2
  refine ⟨?stuck, ?guessed, ?complained⟩
  case stuck =>
    obtain ⟨atlas, hkeeps⟩ :=
      hkept (Rule.builtIn ++ [lastRule true (some (.badValue "boom"))])
    have hreturns := hkeeps.returns
    rw [filter_lastRule _ rfl] at hreturns
    exact ⟨atlas, hreturns, hkeeps.stuck _ (isReached_lastRule _ _ _) (by simp [lastRule]) _ rfl
      (by simp)⟩
  case guessed =>
    obtain ⟨atlas, hkeeps⟩ := hkept (Rule.builtIn ++ [lastRule false none])
    have hreturns := hkeeps.returns
    rw [filter_lastRule _ rfl] at hreturns
    exact ⟨atlas, hreturns, hkeeps.guessed _ (isReached_lastRule _ _ _) (by simp [lastRule])⟩
  case complained =>
    obtain ⟨atlas, hkeeps⟩ :=
      hkept (Rule.builtIn ++ [lastRule true (some (.brokenContract "boom"))])
    exact hkeeps.complained _ (isReached_lastRule _ _ _) (by simp [lastRule]) "boom" rfl

end Plan

end RepoAtlas
