import RepoAtlas.Outline.JavaScript
import RepoAtlas.Outline.Python
import RepoAtlas.Proofs.Syntax.Preorder
import RepoAtlas.Proofs.Syntax.Ranges

/-!
# The order of statements

What a statement adds to an outline may depend on other statements: on those that export a name, on
the one that lists `__all__`, on the imports that tell a framework.  All of this is collected from
the whole file before it is used, and it is used as a set.  So when the statements of a file change
places, each with its own range, every list of the outline has the same items as before.

There are two things that could depend on the order.  The first `__all__` counts, so there may only
be one (`listsNames`).  And a call that imports a module looks at its parent for the names it takes
from it.  The parent of a statement is the file, which is not a declarator and has no property
(`IsFileRoot`); for roots that are, everything but these names is the same (`withoutSymbols`).
-/

namespace RepoAtlas

open List SyntaxNode

def ImportOutline.withoutSymbols (spec : ImportOutline String Span) : ImportOutline String Span :=
  { spec with symbols := [] }

/-- The outline, but for the names that its imports take. -/
def ModuleOutline.withoutSymbols (module : SourceModule) : SourceModule :=
  { module with imports := module.imports.map (·.withoutSymbols) }

/-- Two outlines that list the same, perhaps in another order. -/
structure SameUpToOrder (a b : SourceModule) : Prop where
  functions : a.functions ~ b.functions
  classes : a.classes ~ b.classes
  imports : a.imports ~ b.imports
  exports : a.exports ~ b.exports
  routes : a.routes ~ b.routes
  hasMainGuard : a.hasMainGuard = b.hasMainGuard

lemma eq_of_perm_of_length_le_one {α : Type} {items items' : List α} (h : items' ~ items)
    (hone : items.length ≤ 1) : items' = items := by
  match items, hone with
  | [], _ => exact h.eq_nil
  | [_], _ => exact perm_singleton.1 h

variable {source : Source} {root : SyntaxNode} {children : List SyntaxNode}

/-! ## JavaScript and TypeScript -/

namespace JavaScript

/-- The framework is told by the targets of imports. -/
lemma frameworkOf_eq_of_perm {imports imports' : List (ImportOutline String Span)}
    (h : imports'.map (·.withoutSymbols) ~ imports.map (·.withoutSymbols)) :
    frameworkOf imports' = frameworkOf imports := by
  have htarget (package : String) :
      imports'.any (·.target == package) = imports.any (·.target == package) := by
    have hany := h.any_eq (f := (·.target == package))
    rw [any_map, any_map] at hany
    exact hany
  simp only [frameworkOf, htarget]

/-- A call has its parent only for the names that it takes. -/
lemma requireCall?_withoutSymbols (source : Source) (parent parent' node : SyntaxNode) :
    (requireCall? source ⟨parent', node⟩).map (·.withoutSymbols) =
      (requireCall? source ⟨parent, node⟩).map (·.withoutSymbols) := by
  simp only [requireCall?, Option.bind_eq_bind, Option.map_bind]
  refine Option.bind_congr fun callee _ => ?_
  simp only [Function.comp_apply]
  split_ifs
  · simp only [Option.map_bind, Function.comp_def]
    rfl
  · rfl

lemma isNone_requireCall? (source : Source) (parent parent' node : SyntaxNode) :
    (requireCall? source ⟨parent', node⟩).isNone = (requireCall? source ⟨parent, node⟩).isNone := by
  rw [← Option.isNone_map, requireCall?_withoutSymbols source parent, Option.isNone_map]

lemma importAt?_withoutSymbols (source : Source) (parent parent' node : SyntaxNode) :
    (importAt? source ⟨parent', node⟩).map (·.withoutSymbols) =
      (importAt? source ⟨parent, node⟩).map (·.withoutSymbols) := by
  simp only [importAt?, apply_ite (Option.map _), requireCall?_withoutSymbols source parent]

/-- The root has no names for a call below it, as a declarator or a member expression would have. -/
def IsFileRoot (root : SyntaxNode) : Prop :=
  root.kind ∉ ["variable_declarator", "member_expression"]

/-- The root of every file that has been parsed is a program. -/
lemma isFileRoot_of_program (h : root.kind = "program") : IsFileRoot root := by
  simp [IsFileRoot, h]

/-- A call below a file takes no names from the module it imports. -/
lemma importAt?_of_root (source : Source) (hroot : IsFileRoot root)
    (children : List SyntaxNode) (node : SyntaxNode) :
    importAt? source ⟨{ root with children }, node⟩ = importAt? source ⟨root, node⟩ := by
  simp only [IsFileRoot, mem_cons, not_mem_nil, or_false, not_or] at hroot
  obtain ⟨hdeclarator, hmember⟩ := hroot
  simp only [importAt?, requireCall?, requiredSymbols, beq_eq_false_iff_ne.2 hdeclarator,
    beq_eq_false_iff_ne.2 hmember, Bool.false_eq_true, if_false]

lemma withoutSymbols_sameUpToOrder (path grammar : String) (h : children ~ root.children) :
    SameUpToOrder (ofTree path grammar source { root with children }).withoutSymbols
      (ofTree path grammar source root).withoutSymbols := by
  have hparts {β : Type} (part : Contribution → List β) :
      ((children.filter (·.isNamed)).map (contributionOf source)).flatMap part ~
        (root.namedChildren.map (contributionOf source)).flatMap part :=
    ((h.filter _).map _).flatMap_right part
  have hmarked (name : String) := (hparts (·.exportedLocals)).contains_eq (a := name)
  have himports : ((({ root with children } : SyntaxNode).linksWithin []).filterMap
      (importAt? source)).map (·.withoutSymbols) ~
        ((root.linksWithin []).filterMap (importAt? source)).map (·.withoutSymbols) := by
    rw [map_filterMap, map_filterMap]
    exact filterMap_preorder_perm h (importAt?_withoutSymbols source root _)
  have hcalls (framework : String) :
      routeCalls source framework (({ root with children } : SyntaxNode).linksWithin []) ~
        routeCalls source framework (root.linksWithin []) :=
    filterMap_preorder_perm h fun node => by simp only [isNone_requireCall? source root]
  refine ⟨?_, ?_, himports, hparts _, ?_, rfl⟩
  · simp only [ModuleOutline.withoutSymbols, ofTree, Contribution.concat,
      SyntaxNode.namedChildren, hmarked]
    exact (hparts _).map _
  · simp only [ModuleOutline.withoutSymbols, ofTree, Contribution.concat,
      SyntaxNode.namedChildren, hmarked]
    exact (hparts _).map _
  · simp only [ModuleOutline.withoutSymbols, ofTree, frameworkOf_eq_of_perm himports]
    exact ((mergeSort_perm _ _).trans ((hparts _).append (hcalls _))).trans
      (mergeSort_perm _ _).symm

lemma ofTree_sameUpToOrder (path grammar : String) (h : children ~ root.children)
    (hroot : IsFileRoot root) : SameUpToOrder (ofTree path grammar source { root with children })
      (ofTree path grammar source root) where
  imports := filterMap_preorder_perm h (importAt?_of_root source hroot children)
  functions := (withoutSymbols_sameUpToOrder path grammar h).functions
  classes := (withoutSymbols_sameUpToOrder path grammar h).classes
  exports := (withoutSymbols_sameUpToOrder path grammar h).exports
  routes := (withoutSymbols_sameUpToOrder path grammar h).routes
  hasMainGuard := rfl

end JavaScript

/-! ## Python -/

namespace Python

/-- Whether a statement assigns a list or tuple to `__all__`. -/
def listsNames (source : Source) (statement : SyntaxNode) : Bool :=
  (assignmentsOf statement).any fun assignment =>
    source.textOf? (assignment.child? "left") == "__all__" &&
      (assignment.child? "right").any fun right => right.kind == "list" || right.kind == "tuple"

lemma publicNamesIn?_eq_none {statement assignment : SyntaxNode}
    (hassignment : assignment ∈ assignmentsOf statement)
    (h : listsNames source statement = false) : publicNamesIn? source assignment = none := by
  have hother := any_eq_false.1 h assignment hassignment
  unfold publicNamesIn?
  cases hright : assignment.child? "right" with
  | none => rfl
  | some right =>
      rw [hright, Option.any_some] at hother
      exact if_neg hother

/-- Only statements that assign to `__all__` have a say in what is public. -/
lemma publicNames?_eq_findSome? (source : Source) (root : SyntaxNode) :
    publicNames? source root = ((root.namedChildren.filter (listsNames source)).flatMap
      assignmentsOf).findSome? (publicNamesIn? source) := by
  rw [publicNames?, ← head?_filterMap, ← head?_filterMap]
  refine congrArg head? ?_
  induction root.namedChildren with
  | nil => rfl
  | cons statement rest ih =>
      rw [flatMap_cons, filterMap_append, ih]
      cases hlists : listsNames source statement with
      | true => rw [filter_cons_of_pos hlists, flatMap_cons, filterMap_append]
      | false =>
          have hnone : (assignmentsOf statement).filterMap (publicNamesIn? source) = [] :=
            filterMap_eq_nil_iff.2 fun _ hassignment =>
              publicNamesIn?_eq_none hassignment hlists
          rw [filter_cons_of_neg (by simp [hlists]), hnone, nil_append]

/-- If there is at most one such statement, it is the first one in any order. -/
lemma publicNames?_eq_of_perm (h : children ~ root.children)
    (hone : (root.namedChildren.filter (listsNames source)).length ≤ 1) :
    publicNames? source { root with children } = publicNames? source root := by
  have hlisting : ({ root with children } : SyntaxNode).namedChildren.filter (listsNames source) ~
      root.namedChildren.filter (listsNames source) := (h.filter _).filter _
  rw [publicNames?_eq_findSome?, publicNames?_eq_findSome? source root,
    eq_of_perm_of_length_le_one hlisting hone]

lemma verbFramework_eq_of_perm {imports imports' : List (ImportOutline String Span)}
    (h : imports' ~ imports) : verbFramework imports' = verbFramework imports := by
  simp only [verbFramework, (h.map topLevelName).contains_eq]

lemma exportsOf_perm (listed : Option PublicNames)
    {functions functions' : List (CallableOutline String Span)}
    {classes classes' : List (ClassOutline String Span)} (hfunctions : functions' ~ functions)
    (hclasses : classes' ~ classes) :
    exportsOf listed functions' classes' ~ exportsOf listed functions classes := by
  cases listed with
  | some listed => exact .refl _
  | none =>
      have hunsorted := ((hfunctions.filter (·.isExported)).map fun f =>
        (⟨f.name, f.span, false, none⟩ : ExportOutline String Span)).append
        ((hclasses.filter (·.isExported)).map fun c => ⟨c.name, c.span, false, none⟩)
      exact ((mergeSort_perm _ _).trans hunsorted).trans (mergeSort_perm _ _).symm

lemma ofTree_sameUpToOrder (path grammar : String) (h : children ~ root.children)
    (hone : (root.namedChildren.filter (listsNames source)).length ≤ 1) :
    SameUpToOrder (ofTree path grammar source { root with children })
      (ofTree path grammar source root) := by
  have himports : importsOf source { root with children } ~ importsOf source root :=
    (nodes_preorder_perm h).flatMap_right _
  have hstatements : topLevelStatements { root with children } ~ topLevelStatements root :=
    nodes_preorder_perm (h.filter _)
  have hparts {β : Type} (framework : String) (listed : Option PublicNames)
      (part : Contribution → List β) :
      ((topLevelStatements { root with children }).map
        (contributionOf source framework listed)).flatMap part ~
        ((topLevelStatements root).map (contributionOf source framework listed)).flatMap part :=
    (hstatements.map _).flatMap_right part
  have hlisted := publicNames?_eq_of_perm h hone
  have hframework := verbFramework_eq_of_perm himports
  refine ⟨?_, ?_, himports, ?_, ?_, hstatements.any_eq⟩
  all_goals simp only [ofTree, hlisted, hframework]
  · exact hparts _ _ _
  · exact hparts _ _ _
  · exact exportsOf_perm _ (hparts _ _ _) (hparts _ _ _)
  · exact hparts _ _ _

end Python

/-! ## Both languages -/

/-- **Statements may change places.**  In whatever order the children of a file stand, each with its
own range, the outline lists the same.  In JavaScript and TypeScript the names that imports take are
excepted if the root is not that of a file.  In Python at most one statement may list the public
names. -/
theorem statement_order_does_not_matter (path grammar : String) (source : Source)
    (root : SyntaxNode) (children : List SyntaxNode) (h : children ~ root.children) :
    (SameUpToOrder (JavaScript.ofTree path grammar source { root with children }).withoutSymbols
        (JavaScript.ofTree path grammar source root).withoutSymbols ∧
      (JavaScript.IsFileRoot root →
        SameUpToOrder (JavaScript.ofTree path grammar source { root with children })
          (JavaScript.ofTree path grammar source root))) ∧
    ((root.namedChildren.filter (Python.listsNames source)).length ≤ 1 →
      SameUpToOrder (Python.ofTree path grammar source { root with children })
        (Python.ofTree path grammar source root)) :=
  ⟨⟨JavaScript.withoutSymbols_sameUpToOrder path grammar h,
      JavaScript.ofTree_sameUpToOrder path grammar h⟩,
    Python.ofTree_sameUpToOrder path grammar h⟩

/-- A function, and a statement that exports it by name. -/
def exportedSource : Source := ⟨Text.encode "function f() \x7b\x7d\nexport \x7bf\x7d\n"⟩

def exportedFunction : SyntaxNode :=
  .construct "function_declaration" none 0 15
    [.construct "identifier" (some "name") 9 10 [],
      .construct "formal_parameters" (some "parameters") 10 12 [],
      .construct "statement_block" (some "body") 13 15 []]

def exportByName : SyntaxNode :=
  .construct "export_statement" none 16 26
    [.construct "export_clause" none 23 26
      [.construct "export_specifier" none 24 25
        [.construct "identifier" (some "name") 24 25 []]]]

/-- A function, and a statement that lists it as public. -/
def listedSource : Source := ⟨Text.encode "def _f(): 0\n__all__ = ['_f']\n"⟩

def listedFunction : SyntaxNode :=
  .construct "function_definition" none 0 11
    [.construct "identifier" (some "name") 4 6 [],
      .construct "parameters" (some "parameters") 6 8 [],
      .construct "block" (some "body") 10 11 []]

def publicList : SyntaxNode :=
  .construct "expression_statement" none 12 28
    [.construct "assignment" none 12 28
      [.construct "identifier" (some "left") 12 19 [],
        .construct "list" (some "right") 22 28
          [.construct "string" none 23 27 []]]]

theorem exports_before_functions :
    (let file := SyntaxNode.construct "program" none 0 27
      let first := file [exportedFunction, exportByName]
      let last := file [exportByName, exportedFunction]
      SameUpToOrder (JavaScript.ofTree "a.js" "javascript" exportedSource last)
          (JavaScript.ofTree "a.js" "javascript" exportedSource first) ∧
        (JavaScript.ofTree "a.js" "javascript" exportedSource last).functions.map
          (·.isExported) = [true]) ∧
    (let file := SyntaxNode.construct "module" none 0 29
      let first := file [listedFunction, publicList]
      let last := file [publicList, listedFunction]
      (first.namedChildren.filter (Python.listsNames listedSource)).length = 1 ∧
        SameUpToOrder (Python.ofTree "a.py" "python" listedSource last)
          (Python.ofTree "a.py" "python" listedSource first) ∧
        (Python.ofTree "a.py" "python" listedSource last).functions.map
          (·.isExported) = [true]) := by
  constructor
  · intro file first last
    have hroot : JavaScript.IsFileRoot first := JavaScript.isFileRoot_of_program rfl
    have hswapped := statement_order_does_not_matter "a.js" "javascript" exportedSource first
      last.children (.swap _ _ _)
    exact ⟨hswapped.1.2 hroot, by decide +kernel⟩
  · intro file first last
    have hone : (first.namedChildren.filter (Python.listsNames listedSource)).length = 1 := by
      decide +kernel
    have hswapped := statement_order_does_not_matter "a.py" "python" listedSource first
      last.children (.swap _ _ _)
    exact ⟨hone, hswapped.2 (Nat.le_of_eq hone), by decide +kernel⟩

end RepoAtlas
