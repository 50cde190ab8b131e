import RepoAtlas.Proofs.Document.Atlas
import Mathlib.Data.List.Perm.Basic
import Mathlib.Data.Rat.Cast.Order

/-!
# Reading is stable

Readers take far more than writers give: parts may be left out, numbers may be texts, nodes may be
counted wrongly.  All of this is settled when a document is read for the first time.  **Whatever was
read has the form in which documents hold it**, so writing and reading it again changes nothing.

There is one lemma for each kind of record, and each of them only has to look at what `IsHeld`
speaks of: parts that are there are not null (`isPart_present?`), and entries have distinct keys.
The ends of edges need an argument of their own.  Several nodes may have paths that count as one
key, and which of them an edge refers to is decided by the key that the document gives, while
writing puts the path of the node in its place.  Keys count as one when they are equal or worth the
same number (`sameKey_iff`), which makes this an equivalence, and so the path leads to the node to
which the key has led (`leadsBack_of_nodeIndex`).
-/

namespace RepoAtlas

open List

/-! ## Keys -/

/-- The number that a value is worth, if it is one; truth values are numbers too. -/
def Value.toRat? : Value → Option ℚ
  | .float x => x.toRat?
  | v => v.toInt?.map fun n => (n : ℚ)

lemma Binary64.same_iff {x y : Binary64} : x = y ∨ x.same y = true ↔
    x = y ∨ ∃ q, x.toRat? = some q ∧ y.toRat? = some q := by
  cases x <;> cases y <;> simp [same, toRat?]
  exact or_congr_right eq_comm

namespace Document

variable {a b c : Value}

/-- **Keys count as one when they are equal or worth the same number.** -/
lemma sameKey_iff (ha : isHashable a = true) (hb : isHashable b = true) :
    sameKey a b = true ↔ a = b ∨ ∃ q, a.toRat? = some q ∧ b.toRat? = some q := by
  simp only [sameKey, Bool.or_eq_true, beq_iff_eq]
  cases a <;> cases b <;> simp only [isHashable, Bool.false_eq_true] at ha hb <;>
    simp [Value.same, Value.toRat?, Value.toInt?, Value.sameNumber]
  case bool.bool a b => cases a <;> cases b <;> simp
  case bool.int b n => cases b <;> simp [eq_comm]
  case int.bool n b => cases b <;> simp [eq_comm]
  case int.int => exact Eq.symm
  case float.float => exact Binary64.same_iff

/-- Keys that count as one are told apart from no other key. -/
lemma sameKey_congr (ha : isHashable a = true) (hb : isHashable b = true)
    (hc : isHashable c = true) (h : sameKey a b = true) : sameKey c a = sameKey c b := by
  rw [sameKey_iff ha hb] at h
  rw [Bool.eq_iff_iff, sameKey_iff hc ha, sameKey_iff hc hb]
  obtain rfl | ⟨q, hqa, hqb⟩ := h
  · rfl
  · simp only [hqa, hqb, Option.some.injEq]
    constructor
    · rintro (rfl | ⟨p, hp, rfl⟩)
      · exact Or.inr ⟨q, hqa, rfl⟩
      · exact Or.inr ⟨q, hp, rfl⟩
    · rintro (rfl | ⟨p, hp, rfl⟩)
      · exact Or.inr ⟨q, hqb, rfl⟩
      · exact Or.inr ⟨q, hp, rfl⟩

lemma ne_null_of_sameKey (ha : isHashable a = true) (hb : isHashable b = true)
    (h : sameKey a b = true) (hnull : b ≠ .null) : a ≠ .null := by
  rintro rfl
  obtain rfl | ⟨q, hq, -⟩ := (sameKey_iff ha hb).1 h
  · exact hnull rfl
  · cases hq

lemma asKey_eq_ok {key : Value} (h : asKey a = .ok key) : isHashable a = true ∧ key = a := by
  unfold asKey at h
  split_ifs at h with ha
  exact ⟨ha, (Except.ok.inj h).symm⟩

/-! ## Fields -/

variable {data : Value} {key : String}

lemma isPart_present? {part : Option Value} (h : present? data key = .ok part) : IsPart part := by
  cases hlookup : lookup? data key with
  | error e =>
      rw [present?, hlookup] at h
      cases h
  | ok found =>
      rw [present?, hlookup] at h
      cases h
      intro hnull
      have hkept := (Option.filter_eq_some_iff.1 hnull).2
      simp at hkept

/-- **What is true of every record that is read is true of lists of them.** -/
lemma forall_mem_each {α : Type} {p : α → Prop} {read : Value → Decoded α} {records : List α}
    (hread : ∀ {data record}, read data = .ok record → p record)
    (h : each read data key = .ok records) : ∀ record ∈ records, p record := by
  obtain ⟨items, -, h⟩ := bind_eq_ok.1 h
  intro record hrecord
  obtain ⟨item, -, hitem⟩ := exists_of_mem_mapM h record hrecord
  exact hread hitem

lemma keysDistinct_entriesOf {entries : List (String × Value)}
    (h : entriesOf data key = .ok entries) : Entries.KeysDistinct entries := by
  obtain ⟨value, -, h⟩ := bind_eq_ok.1 h
  obtain ⟨pairs, -, h⟩ := bind_eq_ok.1 h
  cases h
  exact Entries.keysDistinct_ofPairs _

/-! ## Outlines and files -/

lemma isHeld_toCallable {c : CallableOutline Value (Option Span)} (h : toCallable data = .ok c) :
    c.IsHeld := by
  simp only [toCallable, bind_eq_ok] at h
  obtain ⟨_, -, _, -, _, -, returnType, hreturn, _, -, _, -, _, -, _, -, _, -, _, -, h⟩ := h
  cases h
  exact isPart_present? hreturn

lemma isHeld_toClass {c : ClassOutline Value (Option Span)} (h : toClass data = .ok c) :
    c.IsHeld := by
  simp only [toClass, bind_eq_ok] at h
  obtain ⟨_, -, superclass, hsuperclass, methods, hmethods,
    _, -, _, -, _, -, _, -, _, -, _, -, h⟩ := h
  cases h
  exact ⟨isPart_present? hsuperclass, forall_mem_each isHeld_toCallable hmethods⟩

lemma isHeld_toExport {e : ExportOutline Value (Option Span)} (h : toExport data = .ok e) :
    e.IsHeld := by
  simp only [toExport, bind_eq_ok] at h
  obtain ⟨_, -, _, -, _, -, source, hsource, h⟩ := h
  cases h
  exact isPart_present? hsource

lemma isHeld_toRoute {r : RouteOutline Value (Option Span)} (h : toRoute data = .ok r) :
    r.IsHeld := by
  simp only [toRoute, bind_eq_ok] at h
  obtain ⟨_, -, _, -, _, -, _, -, handler, hhandler, h⟩ := h
  cases h
  exact isPart_present? hhandler

lemma isHeld_toModule {m : ModuleOutline Value (Option Span)} (h : toModule data = .ok m) :
    m.IsHeld := by
  simp only [toModule, bind_eq_ok] at h
  obtain ⟨_, -, _, -, _, -, functions, hfunctions, classes, hclasses, _, -, exports, hexports,
    routes, hroutes, _, -, h⟩ := h
  cases h
  exact ⟨forall_mem_each isHeld_toCallable hfunctions, forall_mem_each isHeld_toClass hclasses,
    forall_mem_each isHeld_toExport hexports, forall_mem_each isHeld_toRoute hroutes⟩

lemma isHeld_toFile {file : FileRecord Value} (h : toFile data = .ok file) : file.IsHeld := by
  simp only [toFile, bind_eq_ok] at h
  obtain ⟨_, -, _, -, _, -, _, -, reason, hreason, grammar, hgrammar, _, -, h⟩ := h
  cases h
  exact ⟨isPart_present? hreason, isPart_present? hgrammar⟩

/-! ## Graphs -/

section Graph

variable {graph : DependencyGraph Value}

/-- **The path of a node leads to it if a key has led to it.**  The key and the path count as one,
so that the reader passes over the same nodes. -/
lemma leadsBack_of_nodeIndex (hhashable : ∀ node ∈ graph.nodes, isHashable node.path = true)
    {wanted : Value} {i : ℕ} (h : nodeIndex graph.nodes wanted = .ok i) :
    ∃ p, LeadsBack graph i p ∧ (wanted ≠ .null → p ≠ .null) := by
  obtain ⟨found, hfound, h⟩ := bind_eq_ok.1 h
  obtain ⟨hwanted, rfl⟩ := asKey_eq_ok hfound
  split at h
  · rename_i fromEnd hindex
    cases h
    obtain ⟨hlt, hsame, hbefore⟩ := findIdx?_eq_some_iff_getElem.1 hindex
    have hmem : graph.nodes.reverse[fromEnd] ∈ graph.nodes := mem_reverse.1 (getElem_mem hlt)
    have hpath := hhashable _ hmem
    -- every node is found under the path exactly when it is found under the key
    have hcongr : ∀ node ∈ graph.nodes,
        sameKey node.path graph.nodes.reverse[fromEnd].path = sameKey node.path found :=
      fun node hnode => sameKey_congr hpath hwanted (hhashable node hnode) hsame
    have hindex' : graph.nodes.reverse.findIdx?
        (fun node => sameKey node.path graph.nodes.reverse[fromEnd].path) = some fromEnd := by
      refine findIdx?_eq_some_iff_getElem.2 ⟨hlt, ?_, fun j hj => ?_⟩
      · rw [hcongr _ hmem]
        exact hsame
      · rw [hcongr _ (mem_reverse.1 (getElem_mem (hj.trans hlt)))]
        exact hbefore j hj
    refine ⟨graph.nodes.reverse[fromEnd].path, ⟨?_, ?_⟩, ne_null_of_sameKey hpath hwanted hsame⟩
    · rw [length_reverse] at hlt
      have hplace : graph.nodes.length - 1 - fromEnd < graph.nodes.length := by omega
      rw [DependencyGraph.path?, getElem?_eq_getElem hplace, getElem_reverse]
      rfl
    · simp only [nodeIndex, asKey, hpath, if_true, bind, Except.bind, hindex']
      rfl
  · cases h

lemma isHeld_toEdge (hhashable : ∀ node ∈ graph.nodes, isHashable node.path = true)
    {edge : GraphEdge Value} (h : toEdge graph.nodes data = .ok edge) : edge.IsHeld graph := by
  simp only [toEdge, bind_eq_ok] at h
  obtain ⟨ending, hending, _, -, source, hsource, _, -, _, -, _, -, target, htarget, package,
    hpackage, h⟩ := h
  cases h
  constructor
  case source =>
    obtain ⟨p, hp, -⟩ := leadsBack_of_nodeIndex hhashable hsource
    exact ⟨p, hp⟩
  case target =>
    intro t ht
    cases ending with
    | none =>
        cases htarget
        cases ht
    | some wanted =>
        rw [Option.mapM_some] at htarget
        obtain ⟨found, hfound, htarget⟩ := bind_eq_ok.1 htarget
        cases htarget
        cases ht
        obtain ⟨p, hp, hnull⟩ := leadsBack_of_nodeIndex hhashable hfound
        have hwanted : wanted ≠ .null := fun heq => isPart_present? hending (congrArg some heq)
        exact ⟨p, hnull hwanted, hp⟩
  case package => exact isPart_present? hpackage

end Graph

/-! ### Depths -/

/-- What is given under the key, if anything is, is an object. -/
def GivesObject (data : Value) (key : String) : Prop :=
  ∀ value, data.get? key = some value → ∃ entries, value = .dict entries

lemma entryOr_eq_ok {default value : Value} (h : entryOr default data key = .ok value) :
    data.get? key = some value ∨ value = default := by
  cases data with
  | dict entries =>
      cases hlookup : entries.lookup key with
      | none =>
          simp only [entryOr, lookup?, hlookup] at h
          cases h
          exact Or.inr rfl
      | some found =>
          simp only [entryOr, lookup?, hlookup] at h
          cases h
          exact Or.inl hlookup
  | _ => cases h

/-- Depths keep the texts that they are given under. -/
lemma exists_of_depths {entries : List (String × Value)} {depths : List (Value × ℤ)}
    (h : (entries.map fun (p, d) => (Value.str p, d)).mapM
      (fun (p, d) => do pure (p, ← integer d)) = .ok depths) :
    ∃ read : List (String × ℤ), read.map (·.1) = entries.map (·.1) ∧
      depths = read.map fun (p, d) => (.str p, d) := by
  induction entries generalizing depths with
  | nil =>
      cases h
      exact ⟨[], rfl, rfl⟩
  | cons entry rest ih =>
      obtain ⟨p, d⟩ := entry
      rw [map_cons, mapM_cons, bind_eq_ok] at h
      obtain ⟨first, hfirst, h⟩ := h
      obtain ⟨others, hothers, h⟩ := bind_eq_ok.1 h
      obtain ⟨n, -, hfirst⟩ := bind_eq_ok.1 hfirst
      obtain ⟨read, hkeys, rfl⟩ := ih hothers
      cases h
      cases hfirst
      exact ⟨(p, n) :: read, by rw [map_cons, map_cons, hkeys], rfl⟩

lemma exists_toDepths (hobject : GivesObject data "depths") {depths : List (Value × ℤ)}
    (h : toDepths data = .ok depths) :
    ∃ read : List (String × ℤ), Entries.KeysDistinct read ∧
      depths = read.map fun (p, d) => (.str p, d) := by
  obtain ⟨value, hvalue, h⟩ := bind_eq_ok.1 h
  obtain ⟨entries, rfl⟩ : ∃ entries, value = .dict entries := by
    obtain hgiven | rfl := entryOr_eq_ok hvalue
    · exact hobject value hgiven
    · exact ⟨[], rfl⟩
  obtain ⟨pairs, hpairs, h⟩ := bind_eq_ok.1 h
  cases hpairs
  rw [Entries.ofPairs_map fun _ _ => Value.str.inj] at h
  obtain ⟨read, hkeys, hread⟩ := exists_of_depths h
  have hdistinct : (read.map (·.1)).Nodup := by
    rw [hkeys]
    exact Entries.keysDistinct_ofPairs entries
  exact ⟨read, hdistinct, hread⟩

/-! ### Whole graphs -/

lemma isHeld_toGraph (hobject : GivesObject data "depths") {graph : DependencyGraph Value}
    {analysis : GraphAnalysis Value} (h : toGraph data = .ok (graph, analysis)) :
    graph.IsHeld ∧ analysis.IsHeld := by
  simp only [toGraph, bind_eq_ok] at h
  obtain ⟨nodes, -, keys, hkeys, edges, hedges, cycles, -, depths, hdepths, h⟩ := h
  cases h
  have hhashable : ∀ node ∈ nodes, isHashable node.path = true := by
    intro node hnode
    by_contra hnot
    have hfails : ∃ e, nodes.mapM (fun node => asKey node.path) = .error e :=
      exists_error_mapM_iff.2 ⟨node, hnode, _, if_neg hnot⟩
    obtain ⟨e, he⟩ := hfails
    rw [hkeys] at he
    cases he
  have hedge : ∀ {data edge}, toEdge nodes data = .ok edge →
      edge.IsHeld (⟨nodes, edges⟩ : DependencyGraph Value) := fun h => isHeld_toEdge hhashable h
  exact ⟨⟨hhashable, forall_mem_each hedge hedges⟩, exists_toDepths hobject hdepths⟩

/-! ## Concepts and manifests -/

lemma keysDistinct_toConcept {concept : Concept Value} (h : toConcept data = .ok concept) :
    Entries.KeysDistinct concept.evidence := by
  obtain ⟨provenance, -, h⟩ := bind_eq_ok.1 h
  dsimp only at h
  split_ifs at h
  simp only [bind_eq_ok] at h
  obtain ⟨_, -, _, -, _, -, _, -, _, -, _, -, _, -, evidence, hevidence, _, -, h⟩ := h
  cases h
  exact keysDistinct_entriesOf hevidence

lemma packagesDistinct_manifestOf {info : ManifestInfo Value} (h : manifestOf data = .ok info) :
    info.PackagesDistinct := by
  obtain ⟨manifest, -, h⟩ := bind_eq_ok.1 h
  simp only [toManifest, bind_eq_ok] at h
  obtain ⟨python, hpython, node, hnode, _, -, _, -, _, -, _, -, _, -, h⟩ := h
  cases h
  exact ⟨keysDistinct_entriesOf hpython, keysDistinct_entriesOf hnode⟩

/-! ## Atlases -/

/-- **What is read has the form in which documents hold it**, as long as depths are given in an
object: given as pairs, they could stand under something other than texts. -/
lemma isHeld_toAtlas
    (hobject : ∀ graph, data.get? "graph" = some graph → GivesObject graph "depths")
    {atlas : Atlas Value (Option Span)} (h : toAtlas data = .ok atlas) : atlas.IsHeld := by
  unfold toAtlas at h
  split at h
  · simp only [bind_eq_ok] at h
    obtain ⟨_, -, _, -, value, hvalue, ⟨graph, analysis⟩, hgraph, manifest, hmanifest,
      files, hfiles, modules, hmodules, entries, -, concepts, hconcepts, warnings, -, h⟩ := h
    cases h
    have hdepths : GivesObject value "depths" := by
      obtain hgiven | rfl := entryOr_eq_ok hvalue
      · exact hobject value hgiven
      · intro depths hnone
        cases hnone
    obtain ⟨hheld, hanalysis⟩ := isHeld_toGraph hdepths hgraph
    exact ⟨forall_mem_each isHeld_toFile hfiles, forall_mem_each isHeld_toModule hmodules, hheld,
      hanalysis, forall_mem_each keysDistinct_toConcept hconcepts,
      packagesDistinct_manifestOf hmanifest⟩
  · cases h

end Document

/-- What writing relies on: the ends of edges are nodes, and depths stand under texts, which can be
put in order. -/
structure Atlas.IsWritable (atlas : Atlas Value (Option Span)) : Prop where
  ends : ∀ edge ∈ atlas.graph.edges,
    edge.source < atlas.graph.size ∧ ∀ target ∈ edge.target, target < atlas.graph.size
  depths : ∀ depth ∈ atlas.analysis.depths, ∃ p, depth.1 = .str p

lemma Document.LeadsBack.lt_size {graph : DependencyGraph Value} {i : ℕ} {p : Value}
    (h : LeadsBack graph i p) : i < graph.size := by
  obtain ⟨node, hnode, -⟩ := Option.map_eq_some_iff.1 h.1
  exact (List.getElem?_eq_some_iff.1 hnode).1

lemma Atlas.IsHeld.isWritable {atlas : Atlas Value (Option Span)} (h : atlas.IsHeld) :
    atlas.IsWritable where
  ends := by
    intro edge hedge
    obtain ⟨⟨_, hsource⟩, htarget, -⟩ := h.graph.edges edge hedge
    refine ⟨hsource.lt_size, fun t ht => ?_⟩
    obtain ⟨_, -, hback⟩ := htarget t ht
    exact hback.lt_size
  depths := by
    obtain ⟨read, -, hread⟩ := h.analysis
    rw [hread]
    exact forall_mem_map.2 fun depth _ => ⟨depth.1, rfl⟩

/-- The order in which depths are held does not matter. -/
lemma GraphAnalysis.IsHeld.of_perm {analysis : GraphAnalysis Value} (h : analysis.IsHeld)
    {depths : List (Value × ℤ)} (hperm : depths.Perm analysis.depths) :
    ({ analysis with depths } : GraphAnalysis Value).IsHeld := by
  obtain ⟨read, hd, hread⟩ := h
  rw [hread] at hperm
  have hnamed : Forall₂ (fun depth entry => depth = (Value.str entry.1, entry.2))
      (read.map fun (p, d) => (Value.str p, d)) read :=
    forall₂_map_left_iff.2 (forall₂_same.2 fun _ _ => rfl)
  obtain ⟨ordered, hordered, hread'⟩ := perm_comp_forall₂ hperm hnamed
  refine ⟨ordered, (hread'.map _).nodup_iff.2 hd, ?_⟩
  rw [← forall₂_eq_eq_eq, forall₂_map_right_iff]
  exact hordered

namespace Document

/-- **Reading is stable.**  Whatever atlas is read from a document whose depths are an object, it
can be written, and reading what is written gives the same atlas again.  A writer may put the depths
in order: in whichever order they are written, they are read, and nothing else changes. -/
theorem reading_is_stable {data : Value} {atlas : Atlas Value (Option Span)}
    (hobject : ∀ graph, data.get? "graph" = some graph → GivesObject graph "depths")
    (h : toAtlas data = .ok atlas) :
    atlas.IsWritable ∧ toAtlas (ofAtlas atlas) = .ok atlas ∧
      ∀ depths, depths.Perm atlas.analysis.depths →
        let ordered := { atlas with analysis.depths := depths }
        toAtlas (ofAtlas ordered) = .ok ordered := by
  have hheld := isHeld_toAtlas hobject h
  refine ⟨hheld.isWritable, toAtlas_ofAtlas_of_isHeld hheld, fun depths hperm => ?_⟩
  exact toAtlas_ofAtlas_of_isHeld { hheld with analysis := hheld.analysis.of_perm hperm }

/-- A document that leaves out most of what it may, says more than is asked, and counts its nodes
wrongly.  Numbers are written as texts and truth values as numbers; two nodes have paths that count
as one key, and an edge refers to them by a third such key. -/
def roughDocument : Value :=
  .dict
    [("concepts", .list
        [.dict
          [("provenance", .str "FACT"), ("kind", .str "DesignPattern"), ("name", .str "Singleton"),
            ("confidence", .str " 1 "), ("file", .str "a.js"), ("rule", .str "singleton"),
            ("evidence", .dict [("private_constructor", .bool true)])]]),
      ("graph", .dict
        [("nodes", .list
            [.dict [("index", .int 7), ("path", .int 1), ("language", .str "JsLike")],
              .dict [("path", .bool true), ("language", .str "PyLike"), ("index", .null)]]),
          ("edges", .list
            [.dict
              [("source", .float 1), ("target", .int 1), ("kind", .str "Internal"),
                ("specifier", .null), ("line", .str " +4 ")]]),
          ("depths", .dict [("b", .bool true), ("a", .str "2")])]),
      ("files", .list
        [.dict
          [("path", .str "a.js"), ("language", .str "JsLike"), ("size", .str "1_0"),
            ("status", .str "Parsed"), ("checksum", .int 5)]]),
      ("modules", .list
        [.dict
          [("path", .str "a.js"), ("language", .str "JsLike"), ("grammar", .str "javascript"),
            ("functions", .list
              [.dict [("name", .str "f"), ("span", .null), ("parameters", .str "xy"),
                ("is_async", .int 2)]])]])]

/-- What is read from it. -/
def roughAtlas : Atlas Value (Option Span) where
  files := [⟨.str "a.js", .javaScript, 10, .parsed, none, none, .str "src"⟩]
  modules :=
    [⟨.str "a.js", .javaScript, .str "javascript",
      [⟨.str "f", [.str "x", .str "y"], none, none, true, false, false, .str "public", [], []⟩],
      [], [], [], [], false⟩]
  graph :=
    { nodes := [⟨.int 1, .javaScript⟩, ⟨.bool true, .python⟩]
      edges := [⟨1, .internal, .null, 4, some 1, none⟩] }
  analysis := ⟨[], [(.str "b", 1), (.str "a", 2)]⟩
  entryPoints := []
  concepts :=
    [⟨.designPattern, .str "Singleton", 1, .str "a.js", none,
      [("private_constructor", .bool true)], .str "singleton"⟩]
  manifest := .empty
  warnings := []

theorem roughDocument_is_stable :
    (∀ graph, roughDocument.get? "graph" = some graph → GivesObject graph "depths") ∧
      toAtlas roughDocument = .ok roughAtlas ∧ roughAtlas.IsWritable ∧
      toAtlas (ofAtlas roughAtlas) = .ok roughAtlas ∧
      toAtlas (ofAtlas { roughAtlas with analysis.depths := [(.str "a", 2), (.str "b", 1)] }) =
        .ok { roughAtlas with analysis.depths := [(.str "a", 2), (.str "b", 1)] } := by
  have hobject :
      ∀ graph, roughDocument.get? "graph" = some graph → GivesObject graph "depths" := by
    intro graph hgraph depths hdepths
    cases hgraph
    cases hdepths
    exact ⟨_, rfl⟩
  have hread : toAtlas roughDocument = .ok roughAtlas := by decide +kernel
  obtain ⟨hwritable, hstable, hordered⟩ := reading_is_stable hobject hread
  exact ⟨hobject, hread, hwritable, hstable, hordered _ (.swap _ _ _)⟩

end Document

end RepoAtlas
