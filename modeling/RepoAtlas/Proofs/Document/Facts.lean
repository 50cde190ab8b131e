import RepoAtlas.Proofs.Document.Records
import RepoAtlas.Proofs.Run.Failures

/-!
# Only facts are read

A document is refused for want of the mark of a fact exactly when one of its concepts does not bear
it.  One half is a matter of order: concepts are checked before anything else is read, so that no
other defect of the document comes first (`toAtlas_eq_error`).  The other half is about everything
that is read after the check.

**Readers complain of the form.**  A reader of a field may fail, but never for want of a mark.
`ComplainsOfForm` says this of a computation; `complainsOfForm_bind` takes a sequence apart, and
there is a lemma for each reader.  The reader of a concept is the only one that looks at the mark
again, and what it is given has passed the check.

What a run finds passes: every concept is written with the mark, and rightly so, since a rule has
emitted it as a fact (`emitted_of_mem_concepts`).
-/

namespace RepoAtlas

open List

/-- Whether something is refused for want of the mark of a fact. -/
def DecodeError.missesMark : DecodeError → Bool
  | .notFact _ => true
  | .otherProvenance .. => true
  | _ => false

namespace Document

/-! ## Complaints -/

/-- If this fails, then not for want of the mark of a fact. -/
def ComplainsOfForm {α : Type} (x : Decoded α) : Prop :=
  FailsOnly (fun e => e.missesMark = false) x

section Sequence

variable {α β : Type}

@[simp] lemma complainsOfForm_ok (a : α) : ComplainsOfForm (.ok a) := .ok a

@[simp] lemma complainsOfForm_pure (a : α) : ComplainsOfForm (pure a) := complainsOfForm_ok a

@[simp] lemma complainsOfForm_error {e : DecodeError} :
    ComplainsOfForm (.error e : Decoded α) ↔ e.missesMark = false := FailsOnly.error_iff

@[simp] lemma complainsOfForm_map {f : α → β} {x : Decoded α} :
    ComplainsOfForm (x.map f) ↔ ComplainsOfForm x := FailsOnly.map_iff

@[simp] lemma complainsOfForm_fmap {f : α → β} {x : Decoded α} :
    ComplainsOfForm (f <$> x) ↔ ComplainsOfForm x := complainsOfForm_map

/-- **Sequences.**  When the first step complains of the form only, it is the steps behind it that
matter. -/
@[simp] lemma complainsOfForm_bind {x : Decoded α} {f : α → Decoded β} (hx : ComplainsOfForm x) :
    ComplainsOfForm (x >>= f) ↔ ∀ a, x = .ok a → ComplainsOfForm (f a) := FailsOnly.bind_iff hx

lemma complainsOfForm_mapM {f : α → Decoded β} {items : List α}
    (h : ∀ item ∈ items, ComplainsOfForm (f item)) : ComplainsOfForm (items.mapM f) := .mapM h

end Sequence

/-! ### Fields -/

section Fields

variable (data : Value) (key : String)

@[simp] lemma complainsOfForm_required : ComplainsOfForm (required data key) := by
  unfold required
  split
  · split <;> simp [DecodeError.missesMark]
  · simp [DecodeError.missesMark]

@[simp] lemma complainsOfForm_lookup? : ComplainsOfForm (lookup? data key) := by
  unfold lookup?
  split <;> simp [DecodeError.missesMark]

@[simp] lemma complainsOfForm_entryOr (default : Value) :
    ComplainsOfForm (entryOr default data key) := by
  simp [entryOr]

@[simp] lemma complainsOfForm_present? : ComplainsOfForm (present? data key) := by
  simp [present?]

@[simp] lemma complainsOfForm_flag : ComplainsOfForm (flag data key) := by
  simp [flag]

@[simp] lemma complainsOfForm_itemsOf : ComplainsOfForm (itemsOf data) := by
  unfold itemsOf
  split <;> simp [DecodeError.missesMark]

@[simp] lemma complainsOfForm_items : ComplainsOfForm (items data key) := by
  simp [items]

@[simp] lemma complainsOfForm_each {α : Type} {read : Value → Decoded α}
    (h : ∀ data, ComplainsOfForm (read data)) : ComplainsOfForm (each read data key) := by
  simp [each, complainsOfForm_mapM, h]

@[simp] lemma complainsOfForm_asKey : ComplainsOfForm (asKey data) := by
  unfold asKey
  split <;> simp [DecodeError.missesMark]

@[simp] lemma complainsOfForm_pairAt (position : ℕ) : ComplainsOfForm (pairAt position data) := by
  unfold pairAt
  rw [complainsOfForm_bind (complainsOfForm_itemsOf data)]
  intro found _
  split <;> simp [DecodeError.missesMark]

@[simp] lemma complainsOfForm_pairsOf : ComplainsOfForm (pairsOf data) := by
  unfold pairsOf
  split
  · simp
  · simp [complainsOfForm_mapM]

@[simp] lemma complainsOfForm_entriesOf : ComplainsOfForm (entriesOf data key) := by
  simp [entriesOf]

@[simp] lemma complainsOfForm_integer : ComplainsOfForm (integer data) := by
  unfold integer
  repeat' split
  all_goals simp [DecodeError.missesMark]

@[simp] lemma complainsOfForm_number : ComplainsOfForm (number data) := by
  unfold number
  repeat' split
  all_goals simp [DecodeError.missesMark]

@[simp] lemma complainsOfForm_requiredInteger : ComplainsOfForm (requiredInteger data key) := by
  simp [requiredInteger]

@[simp] lemma complainsOfForm_named {α : Type} (ofLabel? : String → Option α) (family : String) :
    ComplainsOfForm (named ofLabel? family data key) := by
  unfold named
  rw [complainsOfForm_bind (complainsOfForm_required data key)]
  intro value _
  dsimp only
  repeat' split
  all_goals simp [DecodeError.missesMark]

end Fields

/-! ### Records -/

section Records

variable (data : Value)

@[simp] lemma complainsOfForm_toSpan? : ComplainsOfForm (toSpan? data) := by
  unfold toSpan?
  split <;> simp [toSpan]

@[simp] lemma complainsOfForm_spanOf : ComplainsOfForm (spanOf data) := by
  simp [spanOf]

@[simp] lemma complainsOfForm_toCallable : ComplainsOfForm (toCallable data) := by
  simp [toCallable, visibilityOf]

@[simp] lemma complainsOfForm_toField : ComplainsOfForm (toField data) := by
  simp [toField, visibilityOf]

@[simp] lemma complainsOfForm_toClass : ComplainsOfForm (toClass data) := by
  simp [toClass]

@[simp] lemma complainsOfForm_toImport : ComplainsOfForm (toImport data) := by
  simp [toImport]

@[simp] lemma complainsOfForm_toExport : ComplainsOfForm (toExport data) := by
  simp [toExport]

@[simp] lemma complainsOfForm_toRoute : ComplainsOfForm (toRoute data) := by
  simp [toRoute]

@[simp] lemma complainsOfForm_toModule : ComplainsOfForm (toModule data) := by
  simp [toModule, languageOf]

@[simp] lemma complainsOfForm_toFile : ComplainsOfForm (toFile data) := by
  simp [toFile, languageOf]

@[simp] lemma complainsOfForm_toEntryPoint : ComplainsOfForm (toEntryPoint data) := by
  simp [toEntryPoint]

@[simp] lemma complainsOfForm_toHint : ComplainsOfForm (toHint data) := by
  simp [toHint]

@[simp] lemma complainsOfForm_manifestOf : ComplainsOfForm (manifestOf data) := by
  simp [manifestOf, toManifest]

end Records

/-! ### Graphs -/

section Graph

variable (data : Value) (nodes : List (GraphNode Value))

@[simp] lemma complainsOfForm_toNode : ComplainsOfForm (toNode data) := by
  simp [toNode, languageOf]

@[simp] lemma complainsOfForm_nodeIndex : ComplainsOfForm (nodeIndex nodes data) := by
  unfold nodeIndex
  rw [complainsOfForm_bind (complainsOfForm_asKey data)]
  intro key _
  split <;> simp [DecodeError.missesMark]

@[simp] lemma complainsOfForm_toEdge : ComplainsOfForm (toEdge nodes data) := by
  have htarget : ∀ target? : Option Value,
      ComplainsOfForm (target?.mapM (nodeIndex nodes)) := by
    intro target?
    cases target? <;> simp
  simp [toEdge, htarget]

@[simp] lemma complainsOfForm_toCycle : ComplainsOfForm (toCycle data) := by
  simp [toCycle]

@[simp] lemma complainsOfForm_toDepths : ComplainsOfForm (toDepths data) := by
  simp [toDepths, complainsOfForm_mapM]

@[simp] lemma complainsOfForm_toGraph : ComplainsOfForm (toGraph data) := by
  simp [toGraph, complainsOfForm_mapM]

end Graph

/-! ## The check -/

/-- The record bears the mark of a fact. -/
def IsMarked (record : Value) : Prop :=
  ∃ entries, record = .dict entries ∧ entries.lookup "provenance" = some (.str "FACT")

/-- The document lists these concepts, or leaves them out when there are none. -/
def ListsConcepts (document : List (String × Value)) (records : List Value) : Prop :=
  document.lookup "concepts" = some (.list records) ∨
    document.lookup "concepts" = none ∧ records = []

variable {document : List (String × Value)} {records : List Value}

lemma isFact_iff {record : Value} : isFact record = true ↔ IsMarked record := by
  cases record with
  | dict entries => simp [isFact, IsMarked, Value.get?, fact]
  | _ => simp [isFact, IsMarked, Value.get?]

/-- A concept that passes the check is not refused for its mark when it is read. -/
lemma complainsOfForm_toConcept {record : Value} (h : IsMarked record) :
    ComplainsOfForm (toConcept record) := by
  obtain ⟨entries, rfl, hmark⟩ := h
  have hfound : lookup? (.dict entries) "provenance" = .ok (some (.str fact)) :=
    congrArg Except.ok hmark
  simp [toConcept, hfound]

lemma requireFacts_eq_ok (h : ∀ record ∈ records, IsMarked record) :
    requireFacts records = .ok records.length := by
  have hnone : records.find? (!isFact ·) = none := by
    refine find?_eq_none.2 fun record hrecord => ?_
    simp [isFact_iff.2 (h record hrecord)]
  rw [requireFacts, hnone]

/-- The first record without the mark is named. -/
lemma requireFacts_eq_error (h : ∃ record ∈ records, ¬ IsMarked record) :
    ∃ record ∈ records, ¬ IsMarked record ∧
      requireFacts records = .error (.notFact (nameOf record)) := by
  cases hfind : records.find? (!isFact ·) with
  | none =>
      obtain ⟨record, hrecord, hguess⟩ := h
      exact absurd (isFact_iff.1 (by simpa using find?_eq_none.1 hfind record hrecord)) hguess
  | some record =>
      have hguess : ¬ IsMarked record := by
        simpa [← isFact_iff] using find?_some hfind
      exact ⟨record, mem_of_find?_eq_some hfind, hguess, by rw [requireFacts, hfind]⟩

lemma items_concepts (h : ListsConcepts document records) :
    items (.dict document) "concepts" = .ok records := by
  obtain hgiven | ⟨hnone, rfl⟩ := h
  · simp only [items, entryOr, lookup?, hgiven]
    rfl
  · simp only [items, entryOr, lookup?, hnone]
    rfl

/-- **The check comes first.**  What it complains of is what reading complains of, whatever else the
document holds. -/
lemma toAtlas_eq_error (h : ListsConcepts document records) {e : DecodeError}
    (hcheck : requireFacts records = .error e) : toAtlas (.dict document) = .error e := by
  simp only [toAtlas, items_concepts h, hcheck, bind, Except.bind]

/-- **Behind the check, readers complain of the form only.** -/
lemma complainsOfForm_toAtlas (h : ListsConcepts document records)
    (hmarked : ∀ record ∈ records, IsMarked record) :
    ComplainsOfForm (toAtlas (.dict document)) := by
  have hconcepts : ComplainsOfForm (each toConcept (.dict document) "concepts") := by
    rw [each, items_concepts h]
    exact complainsOfForm_mapM fun record hrecord =>
      complainsOfForm_toConcept (hmarked record hrecord)
  have hcheck : ComplainsOfForm (requireFacts records) := by
    rw [requireFacts_eq_ok hmarked]
    exact complainsOfForm_ok _
  simp only [toAtlas]
  rw [items_concepts h]
  simp [hconcepts, hcheck]

end Document

/-! ## What a run finds -/

section Run

variable {plan : Plan} {parser : Parser} {offered : List Offered} {manifests : Value}
  {atlas : Atlas String Span}

lemma Harvest.extract_of_chart {harvest : Harvest} (h : harvest.chart plan = .ok atlas) :
    Concept.extract plan.rules atlas.surroundings = .ok atlas.concepts := by
  obtain ⟨graph, -, h⟩ := bind_eq_ok.1 h
  obtain ⟨analysis, -, h⟩ := bind_eq_ok.1 h
  obtain ⟨concepts, hconcepts, h⟩ := bind_eq_ok.1 h
  cases h
  exact conceptsOf_eq_ok hconcepts

/-- The concepts of a run are extracted from the surroundings that the atlas shows. -/
lemma Plan.extract_of_run (h : plan.run parser offered manifests = .ok atlas) :
    Concept.extract plan.rules atlas.surroundings = .ok atlas.concepts := by
  obtain ⟨late, hlate⟩ := exists_run_eq_runWithin plan parser offered manifests
  obtain ⟨_, _, -, -, hchart⟩ := runWithin_eq_ok_iff.1 (hlate ▸ h)
  exact Harvest.extract_of_chart hchart

/-- **Every concept of an atlas was emitted as a fact.** -/
lemma Plan.emitted_of_mem_concepts (h : plan.run parser offered manifests = .ok atlas)
    {concept : Concept String} (hconcept : concept ∈ atlas.concepts) :
    ∃ rule ∈ plan.rules, ⟨concept, true⟩ ∈ (rule.emit atlas.surroundings).findings := by
  obtain ⟨rule, hrule, own, hown, hconcept⟩ :=
    Concept.exists_concepts_of_mem_extract (extract_of_run h) hconcept
  exact ⟨rule, hrule, Rule.mem_findings_of_concepts hown hconcept⟩

end Run

namespace Document

/-- The document of an atlas has a mark beside each concept. -/
lemma ofAtlas_passes (atlas : Atlas Value (Option Span)) :
    ∃ document records, ofAtlas atlas = .dict document ∧ ListsConcepts document records ∧
      requireFacts records = .ok atlas.concepts.length :=
  ⟨_, _, rfl, Or.inl rfl, requireFacts_written atlas.concepts⟩

/-- **Only facts are read.**  A document is refused for want of a mark exactly when one of its
concepts has none, whatever else is missing or malformed in it.  The check by itself accepts the
same lists and counts them.  Whatever a run finds passes, and it was emitted as a fact. -/
theorem only_facts_pass :
    (∀ (document : List (String × Value)) (records : List Value), ListsConcepts document records →
      ((∃ e, toAtlas (.dict document) = .error e ∧ e.missesMark = true) ↔
        ∃ record ∈ records, ¬ IsMarked record)) ∧
    (∀ records : List Value,
      (∀ count, requireFacts records = .ok count ↔
        (∀ record ∈ records, IsMarked record) ∧ count = records.length) ∧
      ∀ e, requireFacts records = .error e → e.missesMark = true) ∧
    ∀ (plan : Plan) (parser : Parser) (files : List Offered) (manifests : Value)
      (atlas : Atlas String Span), plan.run parser files manifests = .ok atlas →
      (∃ document records, ofAtlas (heldAtlas atlas) = .dict document ∧
        ListsConcepts document records ∧ requireFacts records = .ok atlas.concepts.length ∧
        ComplainsOfForm (toAtlas (.dict document))) ∧
      ∀ concept ∈ atlas.concepts, ∃ rule ∈ plan.rules,
        ⟨concept, true⟩ ∈ (rule.emit atlas.surroundings).findings := by
  have hmarked : ∀ {records count}, requireFacts records = .ok count →
      ∀ record ∈ records, IsMarked record := by
    intro records count hcheck
    by_contra! hguess
    obtain ⟨_, _, _, herror⟩ := requireFacts_eq_error hguess
    cases hcheck.symm.trans herror
  refine ⟨?document, ?check, ?run⟩
  case document =>
    intro document records hlists
    constructor
    · rintro ⟨e, he, hmark⟩
      by_contra! hall
      have hform := complainsOfForm_toAtlas hlists hall e he
      cases hmark.symm.trans hform
    · intro hguess
      obtain ⟨record, -, -, herror⟩ := requireFacts_eq_error hguess
      exact ⟨_, toAtlas_eq_error hlists herror, rfl⟩
  case check =>
    intro records
    refine ⟨fun count => ⟨fun hcheck => ?_, ?_⟩, fun e he => ?_⟩
    · have hall := hmarked hcheck
      cases hcheck.symm.trans (requireFacts_eq_ok hall)
      exact ⟨hall, rfl⟩
    · rintro ⟨hall, rfl⟩
      exact requireFacts_eq_ok hall
    · by_cases hall : ∀ record ∈ records, IsMarked record
      · cases he.symm.trans (requireFacts_eq_ok hall)
      · obtain ⟨_, _, _, herror⟩ := requireFacts_eq_error (by simpa using hall)
        cases he.symm.trans herror
        rfl
  case run =>
    intro plan parser files manifests atlas hrun
    obtain ⟨document, records, hdocument, hlists, hcheck⟩ := ofAtlas_passes (heldAtlas atlas)
    have hlength : (heldAtlas atlas).concepts.length = atlas.concepts.length := length_map _
    refine ⟨⟨document, records, hdocument, hlists, hlength ▸ hcheck, ?_⟩, ?_⟩
    · exact complainsOfForm_toAtlas hlists (hmarked hcheck)
    · exact fun concept => Plan.emitted_of_mem_concepts hrun

/-- Neither the number in place of the files nor the missing kind of the fact hides the guess.  The
fact that a rule emits is found in the document of its run. -/
theorem guess_behind_defects_is_refused :
    (let fact : Value := .dict [("provenance", .str "FACT"), ("kind", .int 3)]
      let document := [("files", .int 5), ("concepts", .list [fact, .str "guess"])]
      ListsConcepts document [fact, .str "guess"] ∧ ¬ IsMarked (.str "guess") ∧
        ∃ e, toAtlas (.dict document) = .error e ∧ e.missesMark = true) ∧
    ∃ atlas document records,
      Plan.run ⟨8, .standard, [Plan.lastRule true none]⟩ Plan.blankParser Plan.mixedFiles
        (.dict []) = .ok atlas ∧
      ofAtlas (heldAtlas atlas) = .dict document ∧ ListsConcepts document records ∧
      requireFacts records = .ok 1 := by
  constructor
  · intro fact document
    have hlists : ListsConcepts document [fact, .str "guess"] := Or.inl rfl
    have hguess : ¬ IsMarked (.str "guess") := by
      rintro ⟨_, hdict, -⟩
      cases hdict
    refine ⟨hlists, hguess, (only_facts_pass.1 document _ hlists).2 ⟨.str "guess", ?_, hguess⟩⟩
    simp
  · obtain ⟨late, hlate⟩ := Plan.exists_run_eq_runWithin ⟨8, .standard, [Plan.lastRule true none]⟩
      Plan.blankParser Plan.mixedFiles (.dict [])
    have hmanifest : ManifestInfo.ofValue (.dict []) = .ok .empty := by decide +kernel
    have hrules : ∀ rule ∈ Plan.rules ⟨8, .standard, [Plan.lastRule true none]⟩,
        rule.Finishes := by
      rintro rule hrule here
      obtain rfl := mem_singleton.1 hrule
      exact ⟨_, rfl⟩
    obtain ⟨atlas, hrun⟩ := Plan.exists_runWithin hrules Plan.accept_mixedFiles hmanifest
    rw [← hlate] at hrun
    have hcount : atlas.concepts.length = 1 := by
      rw [← Except.ok.inj (Plan.extract_of_run hrun), length_mergeSort]
      rfl
    obtain ⟨⟨document, records, hdocument, hlists, hcheck, -⟩, -⟩ :=
      only_facts_pass.2.2 _ _ _ _ atlas hrun
    exact ⟨atlas, document, records, hrun, hdocument, hlists, hcount ▸ hcheck⟩

end Document

end RepoAtlas
