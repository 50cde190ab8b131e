import RepoAtlas.Document.Decode
import RepoAtlas.Proofs.Data.Entries
import RepoAtlas.Proofs.Data.Except

/-!
# Records survive their documents

Every record is read back from what was written of it, provided that it has the form in which
documents hold it.  The one thing that could go wrong is an absent part, which is written as null: a
part that is there must not be null itself (`IsPart`), or it would be taken for absent.  `IsHeld`
says this of all optional parts of a record.  Records whose texts are text values are of this form,
and so is whatever was read from a document.

There is one lemma for each way in which a field is written: `present?_written` for optional parts,
`each_written` for lists of records, `entriesOf_written` for entries with distinct keys, and
`named_written` for labels.  What is left for a record is to compute what the reader finds under the
other keys.
-/

namespace RepoAtlas.Document

open List

/-! ## Fields -/

/-- An optional part is absent, or it is there and not null. -/
def IsPart (part : Option Value) : Prop := part ≠ some .null

instance (part : Option Value) : Decidable (IsPart part) := inferInstanceAs (Decidable (_ ≠ _))

lemma isPart_map_str (text : Option String) : IsPart (text.map .str) := by
  cases text <;> simp [IsPart]

/-- An entry that is there is the one that is read, whatever stands in for it otherwise. -/
lemma entryOr_written {default data value : Value} {key : String}
    (h : data.get? key = some value) : entryOr default data key = .ok value := by
  cases data with
  | dict entries =>
      have hlookup : entries.lookup key = some value := h
      simp only [entryOr, lookup?, hlookup]
      rfl
  | _ => exact absurd h (by simp [Value.get?])

lemma required_written {data value : Value} {key : String}
    (h : data.get? key = some value) : required data key = .ok value := by
  cases data with
  | dict entries =>
      have hlookup : entries.lookup key = some value := h
      simp only [required, hlookup]
  | _ => exact absurd h (by simp [Value.get?])

lemma present?_written {data : Value} {key : String} {part : Option Value}
    (h : data.get? key = some (optional part)) (hpart : IsPart part) :
    present? data key = .ok part := by
  cases data with
  | dict entries =>
      have hlookup : entries.lookup key = some (optional part) := h
      simp only [present?, lookup?, hlookup, Except.map]
      cases part with
      | none => rfl
      | some value =>
          have hvalue : value ≠ .null := fun hnull => hpart (congrArg some hnull)
          simp [optional, Option.filter, hvalue]
  | _ => exact absurd h (by simp [Value.get?])

lemma spanOf_written {data : Value} {span : Option Span}
    (h : data.get? "span" = some (ofSpan? span)) : spanOf data = .ok span := by
  simp only [spanOf, required_written h, bind, Except.bind]
  cases span <;> rfl

lemma named_written {α : Type} {ofLabel? : String → Option α} {family key name : String}
    {data : Value} {a : α} (h : data.get? key = some (.str name)) (hname : ofLabel? name = some a) :
    named ofLabel? family data key = .ok a := by
  simp only [named, required_written h, bind, Except.bind, hname]
  rfl

/-- **Lists of records are read back** when each of the records is. -/
lemma each_written {α : Type} {write : α → Value} {read : Value → Decoded α} {data : Value}
    {key : String} {records : List α} (h : data.get? key = some (.list (records.map write)))
    (hrecords : ∀ record ∈ records, read (write record) = .ok record) :
    each read data key = .ok records := by
  have hread : (records.map write).mapM read = .ok (records.map id) := mapM_map_eq_ok hrecords
  rw [map_id] at hread
  simp only [each, items, entryOr_written h, bind, Except.bind]
  exact hread

/-- **Entries with distinct keys are read back.**  The keys of an object are texts, and a text is
its own key. -/
lemma entriesOf_written {data : Value} {key : String} {entries : List (String × Value)}
    (h : data.get? key = some (.dict entries)) (hd : Entries.KeysDistinct entries) :
    entriesOf data key = .ok entries := by
  have hpairs : (entries.map (Prod.map Value.str id)).map (Prod.map keyText id) = entries := by
    rw [map_map, Prod.map_comp_map]
    exact map_id _
  simp only [entriesOf, entryOr_written h]
  show Except.ok (Entries.ofPairs ((entries.map (Prod.map Value.str id)).map (Prod.map keyText id)))
    = _
  rw [hpairs, Entries.ofPairs_eq_self hd]

end RepoAtlas.Document

/-! ## The form of records -/

namespace RepoAtlas

open Document

variable {σ ρ : Type}

def CallableOutline.IsHeld (c : CallableOutline Value σ) : Prop := IsPart c.returnType

structure ClassOutline.IsHeld (c : ClassOutline Value σ) : Prop where
  superclass : IsPart c.superclass
  methods : ∀ method ∈ c.methods, method.IsHeld

def ExportOutline.IsHeld (e : ExportOutline Value σ) : Prop := IsPart e.source

def RouteOutline.IsHeld (r : RouteOutline Value σ) : Prop := IsPart r.handler

structure ModuleOutline.IsHeld (m : ModuleOutline Value σ) : Prop where
  functions : ∀ f ∈ m.functions, f.IsHeld
  classes : ∀ c ∈ m.classes, c.IsHeld
  exports : ∀ e ∈ m.exports, e.IsHeld
  routes : ∀ r ∈ m.routes, r.IsHeld

structure FileRecord.IsHeld (file : FileRecord Value) : Prop where
  reason : IsPart file.failureReason
  grammar : IsPart file.grammar

/-- What has texts for its texts is held as it is. -/
lemma CallableOutline.isHeld_map (span : σ → ρ) (c : CallableOutline String σ) :
    (c.map .str span).IsHeld := isPart_map_str c.returnType

lemma ClassOutline.isHeld_map (span : σ → ρ) (c : ClassOutline String σ) :
    (c.map .str span).IsHeld where
  superclass := isPart_map_str c.superclass
  methods := List.forall_mem_map.2 fun method _ => method.isHeld_map span

lemma ModuleOutline.isHeld_map (span : σ → ρ) (m : ModuleOutline String σ) :
    (m.map .str span).IsHeld where
  functions := List.forall_mem_map.2 fun f _ => f.isHeld_map span
  classes := List.forall_mem_map.2 fun c _ => c.isHeld_map span
  exports := List.forall_mem_map.2 fun e _ => isPart_map_str e.source
  routes := List.forall_mem_map.2 fun r _ => isPart_map_str r.handler

lemma FileRecord.isHeld_map (file : FileRecord String) : (file.map .str).IsHeld where
  reason := isPart_map_str file.failureReason
  grammar := isPart_map_str file.grammar

end RepoAtlas

namespace RepoAtlas.Document

open List

/-! ## Outlines -/

lemma toCallable_ofCallable {c : CallableOutline Value (Option Span)} (h : c.IsHeld) :
    toCallable (ofCallable c) = .ok c := by
  have hspan : spanOf (ofCallable c) = .ok c.span := spanOf_written rfl
  have hreturn : present? (ofCallable c) "return_type" = .ok c.returnType := present?_written rfl h
  simp only [toCallable, hspan, hreturn]
  rfl

lemma toField_ofField (f : FieldOutline Value) : toField (ofField f) = .ok f := rfl

lemma toClass_ofClass {c : ClassOutline Value (Option Span)} (h : c.IsHeld) :
    toClass (ofClass c) = .ok c := by
  have hsuperclass : present? (ofClass c) "superclass" = .ok c.superclass :=
    present?_written rfl h.superclass
  have hmethods : each toCallable (ofClass c) "methods" = .ok c.methods :=
    each_written rfl fun method hmethod => toCallable_ofCallable (h.methods method hmethod)
  have hspan : spanOf (ofClass c) = .ok c.span := spanOf_written rfl
  have hfields : each toField (ofClass c) "fields" = .ok c.fields :=
    each_written rfl fun f _ => toField_ofField f
  simp only [toClass, hsuperclass, hmethods, hspan, hfields]
  rfl

lemma toImport_ofImport (i : ImportOutline Value (Option Span)) :
    toImport (ofImport i) = .ok i := by
  have hspan : spanOf (ofImport i) = .ok i.span := spanOf_written rfl
  simp only [toImport, hspan]
  rfl

lemma toExport_ofExport {e : ExportOutline Value (Option Span)} (h : e.IsHeld) :
    toExport (ofExport e) = .ok e := by
  have hspan : spanOf (ofExport e) = .ok e.span := spanOf_written rfl
  have hsource : present? (ofExport e) "source" = .ok e.source := present?_written rfl h
  simp only [toExport, hspan, hsource]
  rfl

lemma toRoute_ofRoute {r : RouteOutline Value (Option Span)} (h : r.IsHeld) :
    toRoute (ofRoute r) = .ok r := by
  have hspan : spanOf (ofRoute r) = .ok r.span := spanOf_written rfl
  have hhandler : present? (ofRoute r) "handler" = .ok r.handler := present?_written rfl h
  simp only [toRoute, hspan, hhandler]
  rfl

/-- **A module is read back**, with everything that is nested in it. -/
lemma toModule_ofModule {m : ModuleOutline Value (Option Span)} (h : m.IsHeld) :
    toModule (ofModule m) = .ok m := by
  have hlanguage : languageOf (ofModule m) = .ok m.language :=
    named_written rfl (Language.ofLabel?_label _)
  have hfunctions : each toCallable (ofModule m) "functions" = .ok m.functions :=
    each_written rfl fun f hf => toCallable_ofCallable (h.functions f hf)
  have hclasses : each toClass (ofModule m) "classes" = .ok m.classes :=
    each_written rfl fun c hc => toClass_ofClass (h.classes c hc)
  have himports : each toImport (ofModule m) "imports" = .ok m.imports :=
    each_written rfl fun i _ => toImport_ofImport i
  have hexports : each toExport (ofModule m) "exports" = .ok m.exports :=
    each_written rfl fun e he => toExport_ofExport (h.exports e he)
  have hroutes : each toRoute (ofModule m) "routes" = .ok m.routes :=
    each_written rfl fun r hr => toRoute_ofRoute (h.routes r hr)
  simp only [toModule, hlanguage, hfunctions, hclasses, himports, hexports, hroutes]
  rfl

/-! ## Files, entry points and concepts -/

lemma toFile_ofFile {file : FileRecord Value} (h : file.IsHeld) :
    toFile (ofFile file) = .ok file := by
  have hlanguage : languageOf (ofFile file) = .ok file.language :=
    named_written rfl (Language.ofLabel?_label _)
  have hstatus : named ParseStatus.ofLabel? "ParseStatus" (ofFile file) "status" =
      .ok file.status := named_written rfl (ParseStatus.ofLabel?_label _)
  have hreason : present? (ofFile file) "failure_reason" = .ok file.failureReason :=
    present?_written rfl h.reason
  have hgrammar : present? (ofFile file) "grammar" = .ok file.grammar :=
    present?_written rfl h.grammar
  simp only [toFile, hlanguage, hstatus, hreason, hgrammar]
  rfl

lemma toEntryPoint_ofEntryPoint (entry : EntryPoint Value Binary64) :
    toEntryPoint (ofEntryPoint entry) = .ok entry := rfl

lemma isFact_ofConcept (concept : Concept Value) : isFact (ofConcept concept) = true := rfl

lemma toConcept_ofConcept {concept : Concept Value} (hd : Entries.KeysDistinct concept.evidence) :
    toConcept (ofConcept concept) = .ok concept := by
  have hevidence : entriesOf (ofConcept concept) "evidence" = .ok concept.evidence :=
    entriesOf_written rfl hd
  have hkind : named ConceptKind.ofLabel? "ConceptKind" (ofConcept concept) "kind" =
      .ok concept.kind := named_written rfl (ConceptKind.ofLabel?_label _)
  simp only [toConcept, hevidence, hkind]
  obtain ⟨kind, name, confidence, file, s, evidence, rule⟩ := concept
  cases s <;> rfl

lemma requireFacts_written (concepts : List (Concept Value)) :
    requireFacts (concepts.map ofConcept) = .ok concepts.length := by
  have hnone : (concepts.map ofConcept).find? (!isFact ·) = none := by
    refine find?_eq_none.2 fun record hrecord => ?_
    obtain ⟨concept, -, rfl⟩ := mem_map.1 hrecord
    simp [isFact_ofConcept]
  rw [requireFacts, hnone, length_map]

/-! ## Manifests -/

lemma toHint_ofHint (hint : EntryHint Value) : toHint (ofHint hint) = .ok hint := rfl

lemma toManifest_ofManifest {info : ManifestInfo Value}
    (hpython : Entries.KeysDistinct info.pythonPackages)
    (hnode : Entries.KeysDistinct info.nodePackages) :
    toManifest (ofManifest info) = .ok info := by
  have hpython' : entriesOf (ofManifest info) "python_packages" = .ok info.pythonPackages :=
    entriesOf_written rfl hpython
  have hnode' : entriesOf (ofManifest info) "node_packages" = .ok info.nodePackages :=
    entriesOf_written rfl hnode
  have hhints : each toHint (ofManifest info) "entry_hints" = .ok info.entryHints :=
    each_written rfl fun hint _ => toHint_ofHint hint
  simp only [toManifest, hpython', hnode', hhints]
  rfl

end RepoAtlas.Document
