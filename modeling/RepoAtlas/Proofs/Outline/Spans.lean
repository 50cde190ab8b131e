import RepoAtlas.Proofs.Outline.SourceOrder
import RepoAtlas.Proofs.Route

/-!
# Spans of outlines

Every span in an outline is that of a node below the root, and every line of a field is that on
which such a node starts.  If the ranges of the tree are nested, spans are therefore lines of the
source, and what is read off a node inside another one lies on the lines of that one.

So two things are to be followed through both readers: that they look for the members of a class
inside the node that gives the class its lines (`ClassOutline.StandsIn`), and that this node and all
others are below the root (`ModuleOutline.StandsIn`).  From then on neither the language nor the
kind of statement matters (`ModuleOutline.StandsIn.spansNested`).
-/

namespace RepoAtlas

open List SyntaxNode

/-! ## Spans and lines -/

/-- Lines of a source, the first not after the last. -/
structure Span.IsOn (span : Span) (source : Source) : Prop where
  one_le : 1 ≤ span.startLine
  forwards : span.startLine ≤ span.endLine
  le_lineCount : span.endLine ≤ source.lineCount

def Span.CoversLine (span : Span) (line : ℤ) : Prop := span.startLine ≤ line ∧ line ≤ span.endLine

variable {source : Source} {outer node root : SyntaxNode} {span : Span} {line : ℤ}

/-- The span of a node that another one encloses. -/
def SpanIn (source : Source) (outer : SyntaxNode) (span : Span) : Prop :=
  ∃ node, outer.Encloses node ∧ span = source.spanOf node

/-- The line on which a node starts that another one encloses. -/
def LineIn (source : Source) (outer : SyntaxNode) (line : ℤ) : Prop :=
  ∃ node, outer.Encloses node ∧ line = source.startLineOf node

lemma SyntaxNode.Encloses.spanIn (h : outer.Encloses node) :
    SpanIn source outer (source.spanOf node) := ⟨node, h, rfl⟩

lemma SpanIn.mono (h : SpanIn source outer span) (hroot : root.Encloses outer) :
    SpanIn source root span := by
  obtain ⟨node, hnode, rfl⟩ := h
  exact (hroot.trans hnode).spanIn

/-- **The span of an enclosed node is on lines of the source.** -/
lemma SpanIn.isOn (h : SpanIn source outer span) : span.IsOn source := by
  obtain ⟨node, hnode, rfl⟩ := h
  have hone := source.one_le_lineAt node.start
  have hforwards := source.lineAt_mono hnode.nested.forwards
  have hcount := source.lineAt_le_lineCount node.stop
  constructor <;> simp only [Source.spanOf] <;> omega

/-- **It is on the lines of the node around it.** -/
lemma SpanIn.covers (h : SpanIn source outer span) : (source.spanOf outer).Covers span := by
  obtain ⟨node, hnode, rfl⟩ := h
  have hstart := source.lineAt_mono hnode.start_le
  have hstop := source.lineAt_mono hnode.stop_le
  constructor <;> simp only [Source.spanOf] <;> omega

lemma LineIn.coversLine (h : LineIn source outer line) :
    (source.spanOf outer).CoversLine line := by
  obtain ⟨node, hnode, rfl⟩ := h
  have hstart := source.lineAt_mono hnode.start_le
  have hforwards := source.lineAt_mono hnode.nested.forwards
  have hstop := source.lineAt_mono hnode.stop_le
  constructor <;> simp only [Source.spanOf, Source.startLineOf] <;> omega

/-! ## Outlines -/

/-- A class has the lines of a node, and its members are read off inside this node. -/
structure ClassOutline.StandsIn (source : Source) (outer : SyntaxNode)
    (c : ClassOutline String Span) : Prop where
  span : c.span = source.spanOf outer
  methods : ∀ method ∈ c.methods, SpanIn source outer method.span
  fields : ∀ field ∈ c.fields, LineIn source outer field.line

/-- The members of a class lie on its lines. -/
structure ClassOutline.HoldsMembers (c : ClassOutline String Span) : Prop where
  methods : ∀ method ∈ c.methods, c.span.Covers method.span
  fields : ∀ field ∈ c.fields, c.span.CoversLine field.line

lemma ClassOutline.StandsIn.holdsMembers {c : ClassOutline String Span}
    (h : c.StandsIn source outer) : c.HoldsMembers := by
  constructor
  · intro method hmethod
    rw [h.span]
    exact (h.methods method hmethod).covers
  · intro field hfield
    rw [h.span]
    exact (h.fields field hfield).coversLine

/-- All spans of an outline are on lines of the source, and classes hold their members. -/
structure ModuleOutline.SpansNested (source : Source) (module : SourceModule) : Prop where
  functions : ∀ f ∈ module.functions, f.span.IsOn source
  classes : ∀ c ∈ module.classes, c.span.IsOn source
  methods : ∀ c ∈ module.classes, ∀ method ∈ c.methods, method.span.IsOn source
  imports : ∀ spec ∈ module.imports, spec.span.IsOn source
  exports : ∀ item ∈ module.exports, item.span.IsOn source
  routes : ∀ route ∈ module.routes, route.span.IsOn source
  members : ∀ c ∈ module.classes, c.HoldsMembers

/-- An outline is read off nodes below the root, each class inside one of them. -/
structure ModuleOutline.StandsIn (source : Source) (root : SyntaxNode)
    (module : SourceModule) : Prop where
  functions : ∀ f ∈ module.functions, SpanIn source root f.span
  classes : ∀ c ∈ module.classes,
    ∃ statement, root.Encloses statement ∧ c.StandsIn source statement
  imports : ∀ spec ∈ module.imports, SpanIn source root spec.span
  exports : ∀ item ∈ module.exports, SpanIn source root item.span
  routes : ∀ route ∈ module.routes, SpanIn source root route.span

/-- **Outlines that are read off nodes have valid and nested spans.** -/
lemma ModuleOutline.StandsIn.spansNested {module : SourceModule} (h : module.StandsIn source root) :
    module.SpansNested source where
  functions f hf := (h.functions f hf).isOn
  classes c hc := by
    obtain ⟨statement, hstatement, hstands⟩ := h.classes c hc
    rw [hstands.span]
    exact hstatement.spanIn.isOn
  methods c hc method hmethod := by
    obtain ⟨statement, -, hstands⟩ := h.classes c hc
    exact (hstands.methods method hmethod).isOn
  imports spec hspec := (h.imports spec hspec).isOn
  exports item hitem := (h.exports item hitem).isOn
  routes route hroute := (h.routes route hroute).isOn
  members c hc := by
    obtain ⟨statement, -, hstands⟩ := h.classes c hc
    exact hstands.holdsMembers

/-! ## JavaScript and TypeScript -/

namespace JavaScript

lemma lineIn_of_mem_parameterFields (h : outer.Encloses node) {field : FieldOutline String}
    (hfield : field ∈ parameterFields source node) : LineIn source outer field.line := by
  simp only [parameterFields, mem_filterMap, Option.ite_none_right_eq_some] at hfield
  obtain ⟨child, hchild, -, heq⟩ := hfield
  cases heq
  exact ⟨child, h.of_mem_part hchild, rfl⟩

lemma lineIn_of_mem_fields {controller : Option String} {pending : List String}
    {members : List SyntaxNode} (h : ∀ member ∈ members, outer.Encloses member) :
    ∀ field ∈ (membersOf source controller pending members).fields,
      LineIn source outer field.line := by
  fun_induction membersOf source controller pending members with
  | case1 => simp
  | case2 pending member rest _ ih => exact ih (forall_mem_cons.1 h).2
  | case3 pending member rest _ here later ih =>
      obtain ⟨hmember, hrest⟩ := forall_mem_cons.1 h
      simp only [mem_append]
      rintro field (hfield | hfield)
      · simp only [here] at hfield
        split_ifs at hfield
        · simp only [methodMember] at hfield
          split_ifs at hfield
          · exact lineIn_of_mem_parameterFields hmember hfield
          · cases hfield
        · obtain rfl := mem_singleton.1 hfield
          exact ⟨member, hmember, rfl⟩
        · cases hfield
      · exact ih hrest field hfield

/-- **A class is read inside the node that gives it its lines.** -/
lemma classOf_standsIn (known : ClassContext) (h : known.outer.Encloses node) :
    (classOf source known node).1.StandsIn source known.outer := by
  have hmembers : ∀ member ∈ ((node.child? "body").map (·.namedChildren)).getD [],
      known.outer.Encloses member := fun member hmember => h.of_mem_part hmember
  refine ⟨rfl, ?_, ?_⟩
  · intro method hmethod
    have hspan := mem_map_of_mem (f := (·.span)) hmethod
    simp only [classOf, spans_methods, mem_map, mem_filter] at hspan
    obtain ⟨member, ⟨hmember, -⟩, heq⟩ := hspan
    exact ⟨member, hmembers member hmember, heq.symm⟩
  · intro field hfield
    simp only [classOf, mem_mergeSort] at hfield
    exact lineIn_of_mem_fields hmembers field hfield

lemma span_controllerRoutes {controller : Option String} {method : CallableOutline String Span}
    {route : RouteOutline String Span} (h : route ∈ controllerRoutes controller method) :
    route.span = method.span := by
  cases controller with
  | none => cases h
  | some controller =>
      simp only [controllerRoutes, mem_map] at h
      obtain ⟨_, -, rfl⟩ := h
      rfl

/-- The routes of a class have the lines of its methods. -/
lemma spanIn_of_mem_routes (known : ClassContext) (h : known.outer.Encloses node)
    {route : RouteOutline String Span} (hroute : route ∈ (classOf source known node).2) :
    SpanIn source known.outer route.span := by
  obtain ⟨method, hmethod, hroute⟩ := exists_method_of_mem_routes hroute
  rw [span_controllerRoutes hroute]
  exact (classOf_standsIn known h).methods method hmethod

lemma span_routeCall? {framework : String} {route : RouteOutline String Span}
    (h : routeCall? source framework node = some route) : route.span = source.spanOf node := by
  simp only [routeCall?, Option.bind_eq_bind] at h
  obtain ⟨callee, -, h⟩ := Option.bind_eq_some_iff.1 h
  obtain ⟨-, h⟩ := Option.ite_none_right_eq_some.1 h
  obtain ⟨arguments, -, h⟩ := Option.bind_eq_some_iff.1 h
  split at h
  · obtain ⟨handler, -, h⟩ := Option.bind_eq_some_iff.1 h
    obtain ⟨path, -, h⟩ := Option.bind_eq_some_iff.1 h
    obtain ⟨-, h⟩ := Option.ite_none_right_eq_some.1 h
    obtain rfl := Option.some.inj h
    rfl
  · cases h

lemma spanIn_of_mem_routeCalls {framework : String} {links : List Link}
    (h : ∀ link ∈ links, outer.Encloses link.node) {route : RouteOutline String Span}
    (hroute : route ∈ routeCalls source framework links) : SpanIn source outer route.span := by
  simp only [routeCalls, mem_filterMap, Option.ite_none_right_eq_some] at hroute
  obtain ⟨link, hlink, -, hcall⟩ := hroute
  rw [span_routeCall? hcall]
  exact (h link hlink).spanIn

/-- **Outlines of JavaScript and TypeScript files are read below the root.** -/
lemma ofTree_standsIn (path grammar : String) (source : Source) (h : root.RangesNested) :
    (ofTree path grammar source root).StandsIn source root := by
  have hinner : ∀ statement ∈ root.namedChildren, root.Encloses statement :=
    fun statement hstatement => h.encloses_self.of_mem_namedChildren hstatement
  have hparts : ∀ statement ∈ root.namedChildren,
      (contributionOf source statement).ReadOff source statement :=
    fun statement hstatement => readOff_contributionOf (hinner statement hstatement).nested
  constructor
  case functions =>
    simp only [ofTree, Contribution.concat, flatMap_map, mem_map, mem_flatMap]
    rintro _ ⟨f, ⟨statement, hstatement, hf⟩, rfl⟩
    rw [(hparts statement hstatement).functions f hf]
    exact (hinner statement hstatement).spanIn
  case classes =>
    simp only [ofTree, Contribution.concat, flatMap_map, mem_map, mem_flatMap]
    rintro _ ⟨c, ⟨statement, hstatement, hc⟩, rfl⟩
    obtain ⟨known, node, rfl, hnode, rfl⟩ := (hparts statement hstatement).classes c hc
    have hstands : (classOf source known node).1.StandsIn source known.outer :=
      classOf_standsIn known hnode
    exact ⟨known.outer, hinner _ hstatement, hstands.span, hstands.methods, hstands.fields⟩
  case imports =>
    simp only [ofTree, mem_filterMap]
    rintro spec ⟨link, hlink, hspec⟩
    rw [span_importAt? hspec]
    exact (h.encloses_self.of_mem_linksWithin hlink).spanIn
  case exports =>
    simp only [ofTree, Contribution.concat, flatMap_map, mem_flatMap]
    rintro item ⟨statement, hstatement, hitem⟩
    rw [(hparts statement hstatement).exports item hitem]
    exact (hinner statement hstatement).spanIn
  case routes =>
    simp only [ofTree, Contribution.concat, flatMap_map, mem_mergeSort, mem_append, mem_flatMap]
    rintro route (⟨statement, hstatement, hroute⟩ | hroute)
    · obtain ⟨known, node, rfl, hnode, hroute⟩ := (hparts statement hstatement).routes route hroute
      exact (spanIn_of_mem_routes known hnode hroute).mono (hinner _ hstatement)
    · exact spanIn_of_mem_routeCalls
        (fun link hlink => h.encloses_self.of_mem_linksWithin hlink) hroute

end JavaScript

/-! ## Python -/

namespace Python

variable {framework : String} {listed : Option PublicNames} {member statement : SyntaxNode}

/-! ### Classes -/

/-- Assignments are the statement itself or stand in it. -/
lemma encloses_of_mem_assignmentsOf {assignment : SyntaxNode} (h : outer.Encloses statement)
    (hassignment : assignment ∈ assignmentsOf statement) : outer.Encloses assignment := by
  rw [assignmentsOf] at hassignment
  split_ifs at hassignment
  · rw [mem_singleton.1 hassignment]
    exact h
  · exact h.of_mem_namedChildren (mem_of_mem_filter hassignment)
  · cases hassignment

lemma lineIn_of_mem_classFieldsAt (h : outer.Encloses statement) {field : FieldOutline String}
    (hfield : field ∈ classFieldsAt source statement) : LineIn source outer field.line := by
  simp only [classFieldsAt, mem_filterMap, Option.bind_eq_some_iff,
    Option.ite_none_right_eq_some] at hfield
  obtain ⟨assignment, hassignment, left, hleft, -, heq⟩ := hfield
  cases heq
  exact ⟨left, (encloses_of_mem_assignmentsOf h hassignment).of_child? hleft, rfl⟩

lemma lineIn_of_instanceField? (h : outer.Encloses node) {field : FieldOutline String}
    (hfield : instanceField? source node = some field) : LineIn source outer field.line := by
  simp only [instanceField?, Option.bind_eq_some_iff, Option.ite_none_right_eq_some] at hfield
  obtain ⟨-, left, hleft, -, heq⟩ := hfield
  cases heq
  exact ⟨left, h.of_child? hleft, rfl⟩

lemma encloses_of_decoratedDefinition? {definition : SyntaxNode} (h : outer.Encloses node)
    (hdefinition : decoratedDefinition? node = some definition) : outer.Encloses definition := by
  rw [decoratedDefinition?] at hdefinition
  split_ifs at hdefinition
  exact h.of_child? hdefinition

lemma encloses_of_mem_methodBodies {members : List SyntaxNode} {body : SyntaxNode}
    (h : ∀ member ∈ members, outer.Encloses member) (hbody : body ∈ methodBodies members) :
    outer.Encloses body := by
  simp only [methodBodies, mem_filterMap, Option.ite_none_right_eq_some] at hbody
  obtain ⟨member, hmember, -, hbody⟩ := hbody
  cases hdecorated : decoratedDefinition? member with
  | none =>
      rw [hdecorated, Option.getD_none] at hbody
      exact (h member hmember).of_child? hbody
  | some definition =>
      rw [hdecorated, Option.getD_some] at hbody
      exact (encloses_of_decoratedDefinition? (h member hmember) hdecorated).of_child? hbody

/-- Leaving out names that were met before adds no field. -/
lemma firstByName_subset (fields : List (FieldOutline String)) : firstByName fields ⊆ fields := by
  have hkept : ∀ kept : List (FieldOutline String),
      fields.foldl (fun kept field =>
        if kept.any (·.name == field.name) then kept else field :: kept) kept ⊆ kept ++ fields := by
    induction fields with
    | nil => simp
    | cons field rest ih =>
        intro kept
        rw [foldl_cons]
        split_ifs
        · intro item hitem
          have := ih kept hitem
          simp only [mem_append, mem_cons] at this ⊢
          tauto
        · intro item hitem
          have := ih (field :: kept) hitem
          simp only [cons_append, mem_append, mem_cons] at this ⊢
          tauto
  intro field hfield
  simpa using hkept [] (mem_reverse.1 hfield)

lemma lineIn_of_mem_fieldsOf {members : List SyntaxNode}
    (h : ∀ member ∈ members, outer.Encloses member) {field : FieldOutline String}
    (hfield : field ∈ fieldsOf source members) : LineIn source outer field.line := by
  have hmem := firstByName_subset _ (mem_mergeSort.1 hfield)
  simp only [mem_append, mem_flatMap] at hmem
  rcases hmem with ⟨member, hmember, hfield⟩ | ⟨body, hbody, hfield⟩
  · exact lineIn_of_mem_classFieldsAt (h member hmember) hfield
  · obtain ⟨inner, hinner, hfield⟩ := mem_filterMap.1 hfield
    have hbody := encloses_of_mem_methodBodies h hbody
    exact lineIn_of_instanceField? (hbody.of_mem_descendants hinner) hfield

/-- **A class is read inside the node that gives it its lines**, decorated or not. -/
lemma classOf_standsIn (decorators : List String) (h : outer.Encloses node) :
    (classOf source framework listed decorators outer node).1.StandsIn source outer := by
  have hmembers : ∀ member ∈ ((node.child? "body").map (·.namedChildren)).getD [],
      outer.Encloses member := fun member hmember => h.of_mem_part hmember
  refine ⟨rfl, ?_, fun field hfield => lineIn_of_mem_fieldsOf hmembers hfield⟩
  simp only [classOf, map_filterMap, mem_filterMap, Option.map_eq_some_iff]
  rintro _ ⟨member, hmember, ⟨method, routes⟩, hmethod, rfl⟩
  exact ⟨member, hmembers member hmember, span_methodAt? hmethod⟩

/-! ### Routes -/

lemma spanIn_of_mem_routesOf {handler : String} (h : outer.Encloses node)
    {route : RouteOutline String Span} (hroute : route ∈ routesOf source framework handler node) :
    SpanIn source outer route.span := by
  simp only [routesOf, mem_filterMap, mem_filter] at hroute
  obtain ⟨decorator, ⟨hdecorator, -⟩, hroute⟩ := hroute
  exact ⟨decorator, h.of_mem_children hdecorator, span_routeAt? hroute⟩

lemma spanIn_of_methodAt? (h : outer.Encloses member)
    {found : CallableOutline String Span × List (RouteOutline String Span)}
    (hfound : methodAt? source framework member = some found) :
    ∀ route ∈ found.2, SpanIn source outer route.span := by
  rw [methodAt?] at hfound
  split_ifs at hfound
  · cases hfound
    simp
  · simp only [Option.bind_eq_some_iff, Option.ite_none_right_eq_some] at hfound
    obtain ⟨definition, -, -, heq⟩ := hfound
    cases heq
    exact fun route hroute => spanIn_of_mem_routesOf h hroute

lemma spanIn_of_mem_routes (listed : Option PublicNames) (decorators : List String)
    (h : outer.Encloses node) :
    ∀ route ∈ (classOf source framework listed decorators outer node).2,
      SpanIn source outer route.span := by
  simp only [classOf, mem_flatMap, mem_filterMap]
  rintro route ⟨found, ⟨member, hmember, hfound⟩, hroute⟩
  exact spanIn_of_methodAt? (h.of_mem_part hmember) hfound route hroute

/-! ### Statements -/

/-- What a statement adds is read inside the statement. -/
structure Contribution.StandsIn (source : Source) (statement : SyntaxNode)
    (part : Contribution) : Prop where
  functions : ∀ f ∈ part.functions, f.span = source.spanOf statement
  classes : ∀ c ∈ part.classes, c.StandsIn source statement
  routes : ∀ route ∈ part.routes, SpanIn source statement route.span

lemma standsIn_empty : Contribution.StandsIn source statement {} := ⟨by simp, by simp, by simp⟩

lemma standsIn_definitionOf (decorators : List String) (h : statement.RangesNested)
    (hnode : statement.Encloses node) :
    (definitionOf source framework listed decorators statement node).StandsIn
      source statement := by
  rw [definitionOf]
  split_ifs
  · refine ⟨by simp [callableOf], by simp, ?_⟩
    exact fun route hroute => spanIn_of_mem_routesOf h.encloses_self hroute
  · refine ⟨by simp, ?_, spanIn_of_mem_routes listed decorators hnode⟩
    intro c hc
    obtain rfl := mem_singleton.1 hc
    exact classOf_standsIn decorators hnode
  · exact standsIn_empty

/-- **A statement is read inside its own range.** -/
lemma standsIn_contributionOf (h : statement.RangesNested) :
    (contributionOf source framework listed statement).StandsIn source statement := by
  rw [contributionOf]
  split_ifs
  · split
    next definition hdefinition =>
      exact standsIn_definitionOf _ h (h.encloses_self.of_child? hdefinition)
    next => exact standsIn_empty
  · exact ⟨by simp [callableOf], by simp, by simp⟩
  · exact standsIn_definitionOf _ h h.encloses_self

lemma spanIn_of_publicNames? (h : root.RangesNested) {names : PublicNames}
    (hnames : publicNames? source root = some names) : SpanIn source root names.span := by
  obtain ⟨assignment, hassignment, hnames⟩ := exists_of_findSome?_eq_some hnames
  obtain ⟨statement, hstatement, hassignment⟩ := mem_flatMap.1 hassignment
  have hinner := encloses_of_mem_assignmentsOf
    (h.encloses_self.of_mem_namedChildren hstatement) hassignment
  rw [publicNamesIn?] at hnames
  split at hnames
  · cases hnames
  · rw [Option.ite_none_right_eq_some] at hnames
    obtain ⟨-, heq⟩ := hnames
    cases heq
    exact hinner.spanIn

/-- Exports have the lines of `__all__` or of the definitions that are exported. -/
lemma forall_mem_exportsOf {p : Span → Prop} {functions : List (CallableOutline String Span)}
    {classes : List (ClassOutline String Span)}
    (hlisted : ∀ names, listed = some names → p names.span)
    (hfunctions : ∀ f ∈ functions, p f.span) (hclasses : ∀ c ∈ classes, p c.span) :
    ∀ item ∈ exportsOf listed functions classes, p item.span := by
  cases listed with
  | some names =>
      simp only [exportsOf, mem_map]
      rintro _ ⟨_, -, rfl⟩
      exact hlisted names rfl
  | none =>
      simp only [exportsOf, mem_mergeSort, mem_append, mem_map, mem_filter]
      rintro _ (⟨f, ⟨hf, -⟩, rfl⟩ | ⟨c, ⟨hc, -⟩, rfl⟩)
      · exact hfunctions f hf
      · exact hclasses c hc

/-- **Outlines of Python files are read below the root.** -/
lemma ofTree_standsIn (path grammar : String) (source : Source) (h : root.RangesNested) :
    (ofTree path grammar source root).StandsIn source root := by
  have hinner : ∀ statement ∈ topLevelStatements root, root.Encloses statement :=
    fun statement hstatement => encloses_of_mem_topLevelStatements h hstatement
  have hin : ∀ statement ∈ topLevelStatements root,
      (contributionOf source (verbFramework (importsOf source root)) (publicNames? source root)
        statement).StandsIn source statement :=
    fun statement hstatement => standsIn_contributionOf (hinner statement hstatement).nested
  have hfunctions : ∀ f ∈ (ofTree path grammar source root).functions,
      SpanIn source root f.span := by
    simp only [ofTree, flatMap_map, mem_flatMap]
    rintro f ⟨statement, hstatement, hf⟩
    rw [(hin statement hstatement).functions f hf]
    exact (hinner statement hstatement).spanIn
  have hclasses : ∀ c ∈ (ofTree path grammar source root).classes,
      ∃ statement, root.Encloses statement ∧ c.StandsIn source statement := by
    simp only [ofTree, flatMap_map, mem_flatMap]
    rintro c ⟨statement, hstatement, hc⟩
    exact ⟨statement, hinner statement hstatement, (hin statement hstatement).classes c hc⟩
  constructor
  case functions => exact hfunctions
  case classes => exact hclasses
  case imports =>
    simp only [ofTree, importsOf, mem_flatMap]
    rintro spec ⟨node, hnode, hspec⟩
    rw [span_importsAt hspec]
    exact (h.encloses_self.of_mem_descendants hnode).spanIn
  case exports =>
    refine forall_mem_exportsOf (fun _ hnames => spanIn_of_publicNames? h hnames) hfunctions ?_
    intro c hc
    obtain ⟨statement, hstatement, hstands⟩ := hclasses c hc
    rw [hstands.span]
    exact hstatement.spanIn
  case routes =>
    simp only [ofTree, flatMap_map, mem_flatMap]
    rintro route ⟨statement, hstatement, hroute⟩
    exact ((hin statement hstatement).routes route hroute).mono (hinner statement hstatement)

end Python

/-! ## Both languages -/

/-- **Spans are valid and nested.**  Whatever tree with nested ranges stands behind a source, every
span of its outline in either language is on lines of the source, and the methods and fields of
every class are on the lines of the class. -/
theorem spans_are_valid_and_nested (path grammar : String) (source : Source) {root : SyntaxNode}
    (h : root.RangesNested) :
    (Python.ofTree path grammar source root).SpansNested source ∧
      (JavaScript.ofTree path grammar source root).SpansNested source :=
  ⟨(Python.ofTree_standsIn path grammar source h).spansNested,
    (JavaScript.ofTree_standsIn path grammar source h).spansNested⟩

/-- The tree of
```
@d
class A:
 def f(self):
  self.x = 1
```
-/
def decoratedTree : SyntaxNode :=
  .construct "module" none 0 39
    [.construct "decorated_definition" none 0 38
      [.construct "decorator" none 0 2 [.construct "identifier" none 1 2 []],
        .construct "class_definition" (some "definition") 3 38
          [.construct "identifier" (some "name") 9 10 [],
            .construct "block" (some "body") 13 38
              [.construct "function_definition" none 13 38
                [.construct "identifier" (some "name") 17 18 [],
                  .construct "parameters" (some "parameters") 18 24
                    [.construct "identifier" none 19 23 []],
                  .construct "block" (some "body") 28 38
                    [.construct "expression_statement" none 28 38
                      [.construct "assignment" none 28 38
                        [.construct "attribute" (some "left") 28 34
                          [.construct "identifier" (some "object") 28 32 [],
                            .construct "identifier" (some "attribute") 33 34 []],
                          .construct "integer" (some "right") 37 38 []]]]]]]]]

def decoratedSource : Source := ⟨Text.encode "@d\nclass A:\n def f(self):\n  self.x = 1\n"⟩

theorem decoratedTree_spans_are_nested :
    decoratedTree.RangesNested ∧
      (Python.ofTree "a.py" "python" decoratedSource decoratedTree).SpansNested decoratedSource ∧
      (Python.ofTree "a.py" "python" decoratedSource decoratedTree).classes.map
          (fun c => (c.span, c.methods.map (·.span), c.fields.map (·.line))) =
        [(⟨1, 4⟩, [⟨3, 4⟩], [4])] ∧
      classTree.RangesNested ∧
      (JavaScript.ofTree "a.js" "javascript" classSource classTree).SpansNested classSource ∧
      (JavaScript.ofTree "a.js" "javascript" classSource classTree).classes.map
          (fun c => (c.span, c.methods.map (·.span), c.fields.map (·.line))) =
        [(⟨1, 4⟩, [⟨3, 3⟩], [2])] := by
  have hdecorated : decoratedTree.RangesNested := by decide
  have hclass : classTree.RangesNested := by decide
  exact ⟨hdecorated, (spans_are_valid_and_nested _ _ _ hdecorated).1, by decide +kernel, hclass,
    (spans_are_valid_and_nested _ _ _ hclass).2, by decide +kernel⟩

end RepoAtlas
