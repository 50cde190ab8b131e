import RepoAtlas.Outline.JavaScript
import RepoAtlas.Proofs.Syntax.Preorder
import RepoAtlas.Proofs.Syntax.Ranges

/-!
# Re-exports

An `export` statement with a source is read twice.  The pass over the top-level statements takes it
for exports, unless it declares something as well, and the traversal of the whole tree takes it for
an import.

`PassesOn` says what the import of such a statement is: it has the lines of the statement, leads to
its source, and takes the names of its export clause as they are called there.  **The re-exports
among the imports are those of the export statements with a source** (`mem_imports_iff_passesOn`).
On the other side, an export that has a source was added by a statement of that kind
(`comesFrom_of_source`), so the two passes meet at the statement.
-/

namespace RepoAtlas.JavaScript

open List SyntaxNode

variable {source : Source} {statement root : SyntaxNode} {path grammar : String}
  {item : ExportOutline String Span} {spec : ImportOutline String Span}

/-- The names of an export clause, as they are called in the module it takes them from. -/
def localNames (source : Source) (clause : SyntaxNode) : List String :=
  (clause.namedChildren.filter (·.kind == "export_specifier")).map (nameOf source)

/-- The names of an export clause, as they are seen from outside. -/
def outerNames (source : Source) (clause : SyntaxNode) : List String :=
  (clause.namedChildren.filter (·.kind == "export_specifier")).map fun specifier =>
    source.textOf? ((specifier.child? "alias").or (specifier.child? "name"))

lemma map_localName_exportedNames (source : Source) (clause : SyntaxNode) :
    (exportedNames source clause).map (·.localName) = localNames source clause := by
  simp [exportedNames, localNames]

lemma map_exported_exportedNames (source : Source) (clause : SyntaxNode) :
    (exportedNames source clause).map (·.exported) = outerNames source clause := by
  simp only [exportedNames, outerNames, map_map]
  refine map_congr_left ?_
  intro specifier _
  cases halias : specifier.child? "alias" <;> simp [halias, nameOf, Source.textOf?]

/-! ## The import of a statement -/

/-- The import that passes on what an export statement with a source names. -/
structure PassesOn (source : Source) (statement : SyntaxNode) (spec : ImportOutline String Span) :
    Prop where
  kind : statement.kind = "export_statement"
  isReexport : spec.isReexport = true
  span : spec.span = source.spanOf statement
  target : ∃ specifier ∈ statement.child? "source",
    spec.target = (source.stringValue? specifier).getD ""
  symbols : spec.symbols = match statement.firstNamed? "export_clause" with
    | some clause => localNames source clause
    | none => []

lemma passesOn_of_reexport? (hkind : statement.kind = "export_statement")
    (h : reexport? source statement = some spec) : PassesOn source statement spec := by
  obtain ⟨specifier, hspecifier, rfl⟩ := Option.map_eq_some_iff.1 h
  refine ⟨hkind, rfl, rfl, ⟨specifier, hspecifier, rfl⟩, ?_⟩
  cases statement.firstNamed? "export_clause" with
  | none => rfl
  | some clause => simp [map_localName_exportedNames]

lemma PassesOn.reexport?_eq (h : PassesOn source statement spec) :
    reexport? source statement = some spec := by
  obtain ⟨-, hreexport, hspan, ⟨specifier, hspecifier, htarget⟩, hsymbols⟩ := h
  obtain ⟨target, symbols, span, isReexport⟩ := spec
  simp only at hreexport hspan htarget hsymbols
  subst hreexport hspan htarget hsymbols
  rw [Option.mem_def] at hspecifier
  cases hclause : statement.firstNamed? "export_clause" with
  | none => simp [reexport?, specifierOf, hspecifier, hclause]
  | some clause => simp [reexport?, specifierOf, hspecifier, hclause, map_localName_exportedNames]

/-- What calls import is not passed on. -/
lemma isReexport_requireCall? {link : Link} (h : requireCall? source link = some spec) :
    spec.isReexport = false := by
  simp only [requireCall?, Option.bind_eq_bind, Option.bind_eq_some_iff,
    Option.ite_none_right_eq_some] at h
  obtain ⟨_, _, _, _, _, _, _, hspec⟩ := h
  cases hspec
  rfl

lemma importAt?_passesOn_iff (source : Source) (link : Link) :
    (importAt? source link = some spec ∧ spec.isReexport = true) ↔
      PassesOn source link.node spec := by
  constructor
  · rintro ⟨hspec, hreexport⟩
    rw [importAt?] at hspec
    split_ifs at hspec with himport hexport hcall
    · cases hspec
      cases hreexport
    · exact passesOn_of_reexport? (eq_of_beq hexport) hspec
    · simp [isReexport_requireCall? hspec] at hreexport
  · intro h
    refine ⟨?_, h.isReexport⟩
    simp [importAt?, h.kind, h.reexport?_eq]

/-- **The imports that pass something on** are those of the export statements with a source,
wherever they stand. -/
lemma mem_imports_iff_passesOn (path grammar : String) (source : Source) (root : SyntaxNode)
    (spec : ImportOutline String Span) :
    (spec ∈ (ofTree path grammar source root).imports ∧ spec.isReexport = true) ↔
      ∃ statement ∈ root.descendants [], PassesOn source statement spec := by
  have hmem : spec ∈ (ofTree path grammar source root).imports ↔
      ∃ link ∈ root.linksWithin [], importAt? source link = some spec := mem_filterMap
  simp only [hmem, descendants, mem_map, exists_exists_and_eq_and, ← importAt?_passesOn_iff]
  constructor
  · rintro ⟨⟨link, hlink, hspec⟩, hreexport⟩
    exact ⟨link, hlink, hspec, hreexport⟩
  · rintro ⟨link, hlink, hspec, hreexport⟩
    exact ⟨⟨link, hlink, hspec⟩, hreexport⟩

/-! ## The exports of a statement -/

/-- An export that a statement with a source adds.  It has a name of the export clause, if there is
one. -/
structure ComesFrom (source : Source) (statement : SyntaxNode)
    (item : ExportOutline String Span) : Prop where
  kind : statement.kind = "export_statement"
  plain : statement.child? "declaration" = none
  span : item.span = source.spanOf statement
  specifier : ∃ specifier ∈ statement.child? "source",
    item.source = some ((source.stringValue? specifier).getD "")
  name : ∀ clause ∈ statement.firstNamed? "export_clause", item.name ∈ outerNames source clause

lemma exports_valueDefinition {name : String} {outer value : SyntaxNode} {isExported : Bool}
    {decorators : List String} :
    (valueDefinition source name outer isExported decorators value).exports = [] := by
  rw [valueDefinition]
  split_ifs <;> rfl

lemma exports_declarationOf {outer : SyntaxNode} {isExported : Bool} {decorators : List String} :
    (declarationOf source outer isExported decorators statement).1.exports = [] := by
  simp only [declarationOf]
  split_ifs
  · rfl
  · rfl
  · simp only [variableDefinitions, Contribution.concat, flatMap_map, flatMap_eq_nil_iff]
    intro declarator _
    cases declarator.child? "value" with
    | none => rfl
    | some value => exact exports_valueDefinition
  · rfl
  · rfl

lemma source_wholeExport {value : SyntaxNode}
    (h : item ∈ (wholeExport source statement value).exports) : item.source = none := by
  simp only [wholeExport] at h
  split_ifs at h
  · simp_all
  · simp only [mem_map] at h
    obtain ⟨_, -, rfl⟩ := h
    rfl
  · simp_all

lemma source_memberExport {name : String} {value : SyntaxNode}
    (h : item ∈ (memberExport source statement name value).exports) : item.source = none := by
  simp only [memberExport] at h
  split_ifs at h <;> simp_all

/-- Assignments to the exports object pass nothing on. -/
lemma source_assignedExport (h : item ∈ (assignedExport source statement).exports) :
    item.source = none := by
  simp only [assignedExport] at h
  split at h
  · cases h
  · split_ifs at h
    · split at h
      · cases h
      · exact source_wholeExport h
    · split at h
      · cases h
      · exact source_memberExport h
    · split at h <;> cases h
    · cases h

lemma comesFrom_exportStatement {node : SyntaxNode} (hkind : node.kind = "export_statement")
    (h : item ∈ (exportStatement source node).exports) {specifier : String}
    (hsource : item.source = some specifier) : ComesFrom source node item := by
  simp only [exportStatement] at h
  split at h
  next =>
    obtain ⟨name, -, rfl⟩ := mem_map.1 h
    cases hsource
  next sourceNode clause hplain hspecifier hclause =>
    obtain ⟨name, hname, rfl⟩ := mem_map.1 h
    refine ⟨hkind, hplain, rfl, ⟨sourceNode, hspecifier, rfl⟩, ?_⟩
    rintro clause' hclause'
    obtain rfl : clause = clause' := Option.some.inj (hclause.symm.trans hclause')
    rw [← map_exported_exportedNames]
    exact mem_map_of_mem hname
  next sourceNode hplain hspecifier hclause =>
    obtain rfl := mem_singleton.1 h
    refine ⟨hkind, hplain, rfl, ⟨sourceNode, hspecifier, rfl⟩, ?_⟩
    intro clause' hclause'
    cases hclause.symm.trans hclause'
  next =>
    obtain ⟨name, -, rfl⟩ := mem_map.1 h
    cases hsource
  next =>
    obtain rfl := mem_singleton.1 h
    cases hsource
  next => cases h

/-- **An export that has a source** was added by an export statement with that source. -/
lemma comesFrom_of_source (h : item ∈ (contributionOf source statement).exports)
    {specifier : String} (hsource : item.source = some specifier) :
    ComesFrom source statement item := by
  rw [contributionOf] at h
  split_ifs at h with hexport
  · exact comesFrom_exportStatement (eq_of_beq hexport) h hsource
  · rw [source_assignedExport h] at hsource
    cases hsource
  · rw [exports_declarationOf] at h
    cases h

/-- Every name of an export clause with a source is exported. -/
lemma exists_comesFrom_of_mem_outerNames (hkind : statement.kind = "export_statement")
    (hplain : statement.child? "declaration" = none) {specifier clause : SyntaxNode}
    (hspecifier : statement.child? "source" = some specifier)
    (hclause : statement.firstNamed? "export_clause" = some clause) {name : String}
    (hname : name ∈ outerNames source clause) :
    ∃ item ∈ (contributionOf source statement).exports,
      item.name = name ∧ ComesFrom source statement item := by
  rw [← map_exported_exportedNames] at hname
  obtain ⟨exported, hexported, rfl⟩ := mem_map.1 hname
  have hitem : (⟨exported.exported, source.spanOf statement, false,
      some (specifierOf source (some specifier))⟩ : ExportOutline String Span) ∈
        (contributionOf source statement).exports := by
    simp only [contributionOf, hkind, beq_self_eq_true, if_true, exportStatement, hplain,
      hspecifier, hclause]
    exact mem_map_of_mem hexported
  exact ⟨_, hitem, rfl, comesFrom_of_source hitem rfl⟩

/-! ## Both passes -/

lemma mem_exports_iff (path grammar : String) (source : Source) (root : SyntaxNode)
    (item : ExportOutline String Span) :
    item ∈ (ofTree path grammar source root).exports ↔
      ∃ statement ∈ root.namedChildren, item ∈ (contributionOf source statement).exports := by
  simp [ofTree, Contribution.concat]

lemma mem_descendants_of_mem_namedChildren (h : statement ∈ root.namedChildren) :
    statement ∈ root.descendants [] := by
  rw [descendants_eq_flatMap]
  exact mem_flatMap.2 ⟨statement, mem_of_mem_filter h, mem_cons_self⟩

/-- Exports that have a source are met by an import of the statement that adds them. -/
lemma ComesFrom.exists_passesOn (h : ComesFrom source statement item) :
    ∃ spec, PassesOn source statement spec ∧ spec.span = item.span ∧
      some spec.target = item.source := by
  obtain ⟨hkind, -, hspan, ⟨specifier, hspecifier, hsource⟩, -⟩ := h
  rw [Option.mem_def] at hspecifier
  obtain ⟨spec, hspec⟩ : ∃ spec, reexport? source statement = some spec := by
    simp [reexport?, hspecifier]
  have hpasses := passesOn_of_reexport? hkind hspec
  obtain ⟨same, hsame, htarget⟩ := hpasses.target
  obtain rfl : specifier = same := Option.some.inj (hspecifier.symm.trans hsame)
  exact ⟨spec, hpasses, hpasses.span.trans hspan.symm, by rw [htarget, hsource]⟩

/-- **Re-exports are seen alike by both passes.**  Every export that has a source was added by a
top-level export statement, and that statement has an import with its lines, its source and the
names of its clause.  The imports that pass something on are just those of the export statements
with a source, and what their clauses name at the top level is exported unless the statement
declares something itself. -/
theorem reexports_are_seen_alike (path grammar : String) (source : Source) (root : SyntaxNode) :
    (∀ item ∈ (ofTree path grammar source root).exports, ∀ specifier,
      item.source = some specifier →
        ∃ statement ∈ root.namedChildren, ComesFrom source statement item ∧
          ∃ spec ∈ (ofTree path grammar source root).imports, PassesOn source statement spec ∧
            spec.span = item.span ∧ spec.target = specifier ∧
            ∀ clause ∈ statement.firstNamed? "export_clause",
              spec.symbols = localNames source clause) ∧
    (∀ spec, (spec ∈ (ofTree path grammar source root).imports ∧ spec.isReexport = true) ↔
      ∃ statement ∈ root.descendants [], PassesOn source statement spec) ∧
    ∀ statement ∈ root.namedChildren, ∀ spec, PassesOn source statement spec →
      statement.child? "declaration" = none →
        ∀ clause ∈ statement.firstNamed? "export_clause", ∀ name ∈ outerNames source clause,
          ∃ item ∈ (ofTree path grammar source root).exports,
            item.name = name ∧ ComesFrom source statement item := by
  refine ⟨?_, mem_imports_iff_passesOn path grammar source root, ?_⟩
  · intro item hitem specifier hsource
    obtain ⟨statement, hstatement, hadded⟩ := (mem_exports_iff ..).1 hitem
    have hfrom := comesFrom_of_source hadded hsource
    obtain ⟨spec, hspec, hspan, htarget⟩ := hfrom.exists_passesOn
    have himport : spec ∈ (ofTree path grammar source root).imports ∧ spec.isReexport = true :=
      (mem_imports_iff_passesOn ..).2
        ⟨statement, mem_descendants_of_mem_namedChildren hstatement, hspec⟩
    refine ⟨statement, hstatement, hfrom, spec, himport.1, hspec, hspan, ?_, ?_⟩
    · exact Option.some.inj (htarget.trans hsource)
    · intro clause hclause
      rw [hspec.symbols, Option.mem_def.1 hclause]
  · intro statement hstatement spec hspec hplain clause hclause name hname
    obtain ⟨specifier, hspecifier, -⟩ := hspec.target
    obtain ⟨item, hadded, hitem⟩ :=
      exists_comesFrom_of_mem_outerNames hspec.kind hplain hspecifier hclause hname
    exact ⟨item, (mem_exports_iff ..).2 ⟨statement, hstatement, hadded⟩, hitem⟩

/-- The tree of
```
export { a as b, c } from './x'
```
-/
def passedOnTree : SyntaxNode :=
  .construct "program" none 0 32
    [.construct "export_statement" none 0 31
      [.construct "export_clause" none 7 20
        [.construct "export_specifier" none 9 15
          [.construct "identifier" (some "name") 9 10 [],
            .construct "identifier" (some "alias") 14 15 []],
          .construct "export_specifier" none 17 18
            [.construct "identifier" (some "name") 17 18 []]],
        .construct "string" (some "source") 26 31 []]]

def passedOnSource : Source := ⟨Text.encode "export \x7b a as b, c \x7d from './x'\n"⟩

theorem passedOnTree_is_seen_alike :
    ∃ item ∈ (ofTree "a.js" "javascript" passedOnSource passedOnTree).exports,
      item.name = "b" ∧ item.source = some "./x" ∧
      ∃ spec ∈ (ofTree "a.js" "javascript" passedOnSource passedOnTree).imports,
        spec.span = item.span ∧ spec.target = "./x" ∧ spec.symbols = ["a", "c"] := by
  have hitem : (⟨"b", ⟨1, 1⟩, false, some "./x"⟩ : ExportOutline String Span) ∈
      (ofTree "a.js" "javascript" passedOnSource passedOnTree).exports := by decide +kernel
  obtain ⟨statement, hstatement, -, spec, hspec, -, hspan, htarget, hsymbols⟩ :=
    (reexports_are_seen_alike _ _ _ _).1 _ hitem "./x" rfl
  refine ⟨_, hitem, rfl, rfl, spec, hspec, hspan, htarget, ?_⟩
  obtain rfl : statement = passedOnTree.namedChildren.head! := mem_singleton.1 hstatement
  rw [hsymbols _ rfl]
  decide +kernel

end RepoAtlas.JavaScript
