import RepoAtlas.Outline.Python
import RepoAtlas.Proofs.Syntax.Ranges
import Mathlib.Data.List.Basic
import Mathlib.Data.List.Perm.Basic
import Mathlib.Tactic.Lemma
import Mathlib.Tactic.SplitIfs

/-!
# What a Python file exports

A definition is flagged as exported when it is met, by its name alone.  The exports are listed
afterwards: the names in `__all__` if the file has one, and otherwise the definitions that were
flagged.  Both go by the same rule (`isPublic`), and nothing else has a say in either; so **a
definition is flagged exactly if its name is listed** (`ofTree_exportsAgree`), whatever else has
that name.

The first `__all__` at the top level counts.  `IsListing` is what makes an assignment one.
-/

namespace RepoAtlas

open List

/-- The flags of definitions go with the list of exports. -/
structure ModuleOutline.ExportsAgree (module : SourceModule) : Prop where
  functions : ∀ f ∈ module.functions,
    f.isExported = true ↔ ∃ item ∈ module.exports, item.name = f.name
  classes : ∀ c ∈ module.classes,
    c.isExported = true ↔ ∃ item ∈ module.exports, item.name = c.name
  methods : ∀ c ∈ module.classes, ∀ method ∈ c.methods, method.isExported = false
  named : ∀ item ∈ module.exports, item.name ≠ ""

namespace Python

variable {source : Source} {root node outer statement assignment : SyntaxNode}
  {framework name : String} {listed : Option PublicNames}
  {functions : List (CallableOutline String Span)} {classes : List (ClassOutline String Span)}

/-! ## Names listed in `__all__` -/

/-- An assignment that lists these entries in `__all__`. -/
structure IsListing (source : Source) (assignment : SyntaxNode) (entries : List SyntaxNode) :
    Prop where
  left : source.textOf? (assignment.child? "left") = "__all__"
  right : ∃ right ∈ assignment.child? "right",
    (right.kind = "list" ∨ right.kind = "tuple") ∧ right.namedChildren = entries

/-- The strings among some entries that are not empty, each once. -/
def listedNames (source : Source) (entries : List SyntaxNode) : List String :=
  ((entries.filterMap source.stringValue?).filter (· != "")).eraseDups

lemma publicNamesIn?_eq_some_iff {names : PublicNames} :
    publicNamesIn? source assignment = some names ↔ ∃ entries,
      IsListing source assignment entries ∧
        names = ⟨listedNames source entries, source.spanOf assignment⟩ := by
  constructor
  · intro h
    rw [publicNamesIn?] at h
    split at h
    · cases h
    next right hright =>
      simp only [Option.ite_none_right_eq_some, Bool.and_eq_true, Bool.or_eq_true, beq_iff_eq,
        Option.some.injEq] at h
      obtain ⟨⟨hleft, hkind⟩, rfl⟩ := h
      exact ⟨_, ⟨hleft, right, hright, hkind, rfl⟩, rfl⟩
  · rintro ⟨_, ⟨hleft, right, hright, hkind, rfl⟩, rfl⟩
    simp only [publicNamesIn?, Option.mem_def.1 hright, hleft]
    rcases hkind with hkind | hkind <;> simp [hkind] <;> rfl

lemma publicNamesIn?_eq_none_iff :
    publicNamesIn? source assignment = none ↔
      ∀ entries, ¬ IsListing source assignment entries := by
  rw [Option.eq_none_iff_forall_ne_some]
  constructor
  · intro h entries hlists
    exact h _ (publicNamesIn?_eq_some_iff.2 ⟨entries, hlists, rfl⟩)
  · intro h names hnames
    obtain ⟨entries, hlists, -⟩ := publicNamesIn?_eq_some_iff.1 hnames
    exact h entries hlists

/-- No listed name is empty. -/
lemma empty_notMem_of_publicNames? {names : PublicNames}
    (h : publicNames? source root = some names) : "" ∉ names.names := by
  obtain ⟨_, assignment, _, -, hnames, -⟩ := findSome?_eq_some_iff.1 h
  obtain ⟨entries, -, rfl⟩ := publicNamesIn?_eq_some_iff.1 hnames
  simp [listedNames]

/-! ## Flags -/

/-- The names and the lines of the definitions that are flagged as exported. -/
def flagged (functions : List (CallableOutline String Span))
    (classes : List (ClassOutline String Span)) : List (String × Span) :=
  (functions.filter (·.isExported)).map (fun f => (f.name, f.span)) ++
    (classes.filter (·.isExported)).map (fun c => (c.name, c.span))

/-- Definitions that are flagged by their names, and methods that are not. -/
structure Contribution.Flagged (part : Contribution) (listed : Option PublicNames) : Prop where
  functions : ∀ f ∈ part.functions, f.isExported = isPublic listed f.name
  classes : ∀ c ∈ part.classes,
    c.isExported = isPublic listed c.name ∧ ∀ method ∈ c.methods, method.isExported = false

lemma flagged_empty : Contribution.Flagged {} listed := ⟨by simp, by simp⟩

lemma isExported_methodAt? {member : SyntaxNode}
    {found : CallableOutline String Span × List (RouteOutline String Span)}
    (h : methodAt? source framework member = some found) : found.1.isExported = false := by
  rw [methodAt?] at h
  split_ifs at h
  · cases h
    rfl
  · simp only [Option.bind_eq_some_iff, Option.ite_none_right_eq_some] at h
    obtain ⟨definition, -, -, hfound⟩ := h
    cases hfound
    rfl

lemma isExported_of_mem_methods {decorators : List String}
    {method : CallableOutline String Span}
    (h : method ∈ (classOf source framework listed decorators outer node).1.methods) :
    method.isExported = false := by
  simp only [classOf, map_filterMap, mem_filterMap, Option.map_eq_some_iff] at h
  obtain ⟨member, -, found, hfound, rfl⟩ := h
  exact isExported_methodAt? hfound

lemma flagged_definitionOf (decorators : List String) :
    (definitionOf source framework listed decorators outer node).Flagged listed := by
  rw [definitionOf]
  split_ifs
  · refine ⟨?_, by simp⟩
    simp [callableOf]
  · refine ⟨by simp, ?_⟩
    intro c hc
    obtain rfl := mem_singleton.1 hc
    exact ⟨rfl, fun method hmethod => isExported_of_mem_methods hmethod⟩
  · exact flagged_empty

/-- **A statement flags its definitions by their names.** -/
lemma flagged_contributionOf (source : Source) (framework : String)
    (listed : Option PublicNames) (statement : SyntaxNode) :
    (contributionOf source framework listed statement).Flagged listed := by
  rw [contributionOf]
  split_ifs
  · split
    · exact flagged_definitionOf _
    · exact flagged_empty
  · exact ⟨by simp [callableOf], by simp⟩
  · exact flagged_definitionOf _

lemma flagged_ofTree (path grammar : String) (source : Source) (root : SyntaxNode) :
    Contribution.Flagged ⟨(ofTree path grammar source root).functions,
      (ofTree path grammar source root).classes, []⟩ (publicNames? source root) := by
  have hparts := flagged_contributionOf source (verbFramework (importsOf source root))
    (publicNames? source root)
  constructor
  · simp only [ofTree, flatMap_map, mem_flatMap]
    rintro f ⟨statement, -, hf⟩
    exact (hparts statement).functions f hf
  · simp only [ofTree, flatMap_map, mem_flatMap]
    rintro c ⟨statement, -, hc⟩
    exact (hparts statement).classes c hc

/-! ## The list of exports -/

lemma names_exportsOf_listed (names : PublicNames) :
    (exportsOf (some names) functions classes).map (·.name) = names.names := by
  simp [exportsOf, Function.comp_def]

/-- Without `__all__`, every definition that is flagged is listed on its own. -/
lemma exportsOf_perm_flagged (functions : List (CallableOutline String Span))
    (classes : List (ClassOutline String Span)) :
    (exportsOf none functions classes).map (fun item => (item.name, item.span)) ~
      flagged functions classes := by
  refine ((mergeSort_perm _ _).map _).trans ?_
  simp [flagged, Function.comp_def]

lemma exists_flagged_of_mem_exportsOf {item : ExportOutline String Span}
    (h : item ∈ exportsOf none functions classes) :
    (∃ f ∈ functions, f.isExported = true ∧ f.name = item.name) ∨
      ∃ c ∈ classes, c.isExported = true ∧ c.name = item.name := by
  have hpair := (exportsOf_perm_flagged functions classes).mem_iff.1
    (mem_map_of_mem (f := fun item => (item.name, item.span)) h)
  simp only [flagged, mem_append, mem_map, mem_filter, Prod.mk.injEq] at hpair
  rcases hpair with ⟨f, ⟨hf, hflag⟩, hname, -⟩ | ⟨c, ⟨hc, hflag⟩, hname, -⟩
  · exact .inl ⟨f, hf, hflag, hname⟩
  · exact .inr ⟨c, hc, hflag, hname⟩

section Flagged

variable (h : Contribution.Flagged ⟨functions, classes, []⟩ listed)

include h

/-- Whatever is listed has a public name. -/
lemma isPublic_of_mem_exportsOf {item : ExportOutline String Span}
    (hitem : item ∈ exportsOf listed functions classes) : isPublic listed item.name = true := by
  cases listed with
  | some names =>
      have hname := mem_map_of_mem (f := (·.name)) hitem
      rw [names_exportsOf_listed] at hname
      simpa [isPublic] using hname
  | none =>
      rcases exists_flagged_of_mem_exportsOf hitem with
        ⟨f, hf, hflag, hname⟩ | ⟨c, hc, hflag, hname⟩
      · rw [← hname, ← h.functions f hf, hflag]
      · rw [← hname, ← (h.classes c hc).1, hflag]

/-- A definition with a public name is listed under it. -/
lemma exists_mem_exportsOf (hpublic : isPublic listed name = true)
    (hdefined : (∃ f ∈ functions, f.name = name) ∨ ∃ c ∈ classes, c.name = name) :
    ∃ item ∈ exportsOf listed functions classes, item.name = name := by
  cases listed with
  | some names =>
      have hname : name ∈ (exportsOf (some names) functions classes).map (·.name) := by
        rw [names_exportsOf_listed]
        simpa [isPublic] using hpublic
      simpa using hname
  | none =>
      have hlisted : ∃ span, (name, span) ∈ flagged functions classes := by
        rcases hdefined with ⟨f, hf, rfl⟩ | ⟨c, hc, rfl⟩
        · have hflag := (h.functions f hf).trans hpublic
          exact ⟨f.span, mem_append_left _ (mem_map.2 ⟨f, mem_filter.2 ⟨hf, hflag⟩, rfl⟩)⟩
        · have hflag := (h.classes c hc).1.trans hpublic
          exact ⟨c.span, mem_append_right _ (mem_map.2 ⟨c, mem_filter.2 ⟨hc, hflag⟩, rfl⟩)⟩
      obtain ⟨span, hspan⟩ := hlisted
      obtain ⟨item, hitem, heq⟩ := mem_map.1 ((exportsOf_perm_flagged ..).mem_iff.2 hspan)
      exact ⟨item, hitem, congrArg Prod.fst heq⟩

/-- A name that a definition has is listed exactly if it is public. -/
lemma exists_mem_exportsOf_iff
    (hdefined : (∃ f ∈ functions, f.name = name) ∨ ∃ c ∈ classes, c.name = name) :
    (∃ item ∈ exportsOf listed functions classes, item.name = name) ↔
      isPublic listed name = true := by
  constructor
  · rintro ⟨item, hitem, rfl⟩
    exact isPublic_of_mem_exportsOf h hitem
  · intro hpublic
    exact exists_mem_exportsOf h hpublic hdefined

end Flagged

/-- The empty name is not public. -/
lemma isPublic_empty (source : Source) (root : SyntaxNode) :
    isPublic (publicNames? source root) "" = false := by
  cases hnames : publicNames? source root with
  | none => simp [isPublic]
  | some names => simpa [isPublic] using empty_notMem_of_publicNames? hnames

/-- **Flags and exports agree** in every outline. -/
lemma ofTree_exportsAgree (path grammar : String) (source : Source) (root : SyntaxNode) :
    (ofTree path grammar source root).ExportsAgree := by
  have hflagged := flagged_ofTree path grammar source root
  constructor
  case functions =>
    intro f hf
    rw [hflagged.functions f hf]
    exact (exists_mem_exportsOf_iff hflagged (.inl ⟨f, hf, rfl⟩)).symm
  case classes =>
    intro c hc
    rw [(hflagged.classes c hc).1]
    exact (exists_mem_exportsOf_iff hflagged (.inr ⟨c, hc, rfl⟩)).symm
  case methods =>
    intro c hc
    exact (hflagged.classes c hc).2
  case named =>
    intro item hitem hempty
    have hpublic := isPublic_of_mem_exportsOf hflagged hitem
    rw [hempty, isPublic_empty] at hpublic
    cases hpublic

/-- **The flags of Python definitions and the list of exports agree.**  The first assignment of a
list or tuple to `__all__` at the top level is the list of exports: its strings, without the empty
one, each once and in order.  Without such an assignment the exports are the flagged definitions,
one entry for each. -/
theorem export_flags_agree_with_exports (path grammar : String) (source : Source)
    (root : SyntaxNode) :
    (ofTree path grammar source root).ExportsAgree ∧
    (∀ front assignment back entries,
      root.namedChildren.flatMap assignmentsOf = front ++ assignment :: back →
      (∀ other ∈ front, ∀ entries, ¬ IsListing source other entries) →
      IsListing source assignment entries →
        (ofTree path grammar source root).exports.map (·.name) = listedNames source entries) ∧
    ((∀ assignment ∈ root.namedChildren.flatMap assignmentsOf, ∀ entries,
        ¬ IsListing source assignment entries) →
      (ofTree path grammar source root).exports.map (fun item => (item.name, item.span)) ~
        flagged (ofTree path grammar source root).functions
          (ofTree path grammar source root).classes) := by
  refine ⟨ofTree_exportsAgree path grammar source root, ?_, ?_⟩
  · intro front assignment back entries hassignments hfront hlists
    have hnames : publicNames? source root =
        some ⟨listedNames source entries, source.spanOf assignment⟩ := by
      refine findSome?_eq_some_iff.2 ⟨front, assignment, back, hassignments, ?_, ?_⟩
      · exact publicNamesIn?_eq_some_iff.2 ⟨entries, hlists, rfl⟩
      · intro other hother
        exact publicNamesIn?_eq_none_iff.2 (hfront other hother)
    simp only [ofTree, hnames]
    exact names_exportsOf_listed _
  · intro hnone
    have hnames : publicNames? source root = none := by
      refine findSome?_eq_none_iff.2 ?_
      intro assignment hassignment
      exact publicNamesIn?_eq_none_iff.2 (hnone assignment hassignment)
    simp only [ofTree, hnames]
    exact exportsOf_perm_flagged _ _

def underscoredEntries : List SyntaxNode :=
  [.construct "string" none 11 15 [], .construct "string" none 17 19 [],
    .construct "string" none 21 25 []]

def underscoredList : SyntaxNode :=
  .construct "assignment" none 0 26
    [.construct "identifier" (some "left") 0 7 [],
      .construct "list" (some "right") 10 26 underscoredEntries]

/-- The tree of
```
__all__ = ['_f', '', '_f']
def _f(): 0
class g: 0
```
-/
def underscoredTree : SyntaxNode :=
  .construct "module" none 0 50
    [.construct "expression_statement" none 0 26 [underscoredList],
      .construct "function_definition" none 27 38
        [.construct "identifier" (some "name") 31 33 []],
      .construct "class_definition" none 39 49
        [.construct "identifier" (some "name") 45 46 []]]

def underscoredSource : Source :=
  ⟨Text.encode "__all__ = ['_f', '', '_f']\ndef _f(): 0\nclass g: 0\n"⟩

theorem underscoredTree_exports_what_is_listed :
    underscoredTree.namedChildren.flatMap assignmentsOf = [underscoredList] ∧
      IsListing underscoredSource underscoredList underscoredEntries ∧
      (ofTree "a.py" "python" underscoredSource underscoredTree).exports.map (·.name) =
        listedNames underscoredSource underscoredEntries ∧
      listedNames underscoredSource underscoredEntries = ["_f"] ∧
      (ofTree "a.py" "python" underscoredSource underscoredTree).functions.map (·.isExported) =
        [true] ∧
      (ofTree "a.py" "python" underscoredSource underscoredTree).classes.map (·.isExported) =
        [false] := by
  have hlists : IsListing underscoredSource underscoredList underscoredEntries :=
    ⟨by decide +kernel, _, rfl, .inl rfl, rfl⟩
  have hexports := (export_flags_agree_with_exports "a.py" "python" underscoredSource
    underscoredTree).2.1 [] underscoredList [] underscoredEntries rfl (by simp) hlists
  exact ⟨rfl, hlists, hexports, by decide +kernel, by decide +kernel, by decide +kernel⟩

end Python

end RepoAtlas
