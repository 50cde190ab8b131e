import RepoAtlas.Outline.JavaScript
import RepoAtlas.Outline.Python
import RepoAtlas.Proofs.Outline.LineOrder

/-!
# Outlines are in source order

An outline is read off a tree in several ways: statement by statement, by a traversal of the whole
tree, member by member, and sometimes with a sort at the end.  If the ranges of the tree are nested,
every list in the outline comes out by line all the same.

What is listed has a span, and the span is that of the statement, the member or the decorator it
was read off.  So the order of the list is the order in which these are visited, and that is the
order of their offsets (`SyntaxNode.preorder_inOrder`).  The routes of Python files need one more
step, because a definition may register several: they lie inside the definition (`RoutesWithin`),
and definitions are not below each other.
-/

namespace RepoAtlas

open List

/-- The members of a class come by line. -/
structure ClassOutline.InSourceOrder (c : ClassOutline String Span) : Prop where
  methods : InLineOrder (·.span.startLine) c.methods
  fields : InLineOrder (·.line) c.fields

/-- Everything that an outline lists comes by line. -/
structure ModuleOutline.InSourceOrder (module : SourceModule) : Prop where
  functions : InLineOrder (·.span.startLine) module.functions
  classes : InLineOrder (·.span.startLine) module.classes
  imports : InLineOrder (·.span.startLine) module.imports
  exports : InLineOrder (·.span.startLine) module.exports
  routes : InLineOrder (·.span.startLine) module.routes
  members : ∀ c ∈ module.classes, c.InSourceOrder

/-! ## JavaScript and TypeScript -/

namespace JavaScript

variable {source : Source} {statement node : SyntaxNode} {span : Span}

/-- A method has the lines of its member. -/
lemma spans_methods (controller : Option String) (pending : List String)
    (members : List SyntaxNode) :
    (membersOf source controller pending members).methods.map (·.span) =
      (members.filter (methodMembers.contains ·.kind)).map source.spanOf := by
  fun_induction membersOf source controller pending members with
  | case1 => rfl
  | case2 pending member rest hdecorator ih =>
      have hother : methodMembers.contains member.kind = false := by
        rw [eq_of_beq hdecorator]
        rfl
      rw [ih, filter_cons, hother, if_neg Bool.false_ne_true]
  | case3 pending member rest hdecorator here later ih =>
      by_cases hmethod : methodMembers.contains member.kind = true
      · have hhere : here = methodMember source controller pending member := if_pos hmethod
        rw [filter_cons, if_pos hmethod]
        simp only [hhere, map_append, later, ih]
        rfl
      · have hhere : here.methods = [] := by
          simp only [here, if_neg hmethod]
          split_ifs <;> rfl
        rw [filter_cons, if_neg hmethod, ← ih]
        simp only [hhere, nil_append, later]

/-- A class lists its members in order, whatever it is known by. -/
lemma classOf_inSourceOrder (known : ClassContext) (h : node.RangesNested) :
    (classOf source known node).1.InSourceOrder where
  methods := inLineOrder_of_spans (spans_methods ..) ((h.partStarts "body").filter _)
  fields := inLineOrder_mergeSort_named FieldOutline.name _

/-- What a statement adds has the lines of that statement. -/
structure Contribution.StandsAt (part : Contribution) (span : Span) : Prop where
  functions : ∀ function ∈ part.functions, function.span = span
  classes : ∀ c ∈ part.classes, c.span = span ∧ c.InSourceOrder
  exports : ∀ item ∈ part.exports, item.span = span

/-- What a statement adds is read off the statement: classes and their routes off a node inside it,
and all else with its lines. -/
structure Contribution.ReadOff (part : Contribution) (source : Source) (statement : SyntaxNode) :
    Prop where
  functions : ∀ function ∈ part.functions, function.span = source.spanOf statement
  classes : ∀ c ∈ part.classes, ∃ known node, known.outer = statement ∧
    statement.Encloses node ∧ c = (classOf source known node).1
  exports : ∀ item ∈ part.exports, item.span = source.spanOf statement
  routes : ∀ route ∈ part.routes, ∃ known node, known.outer = statement ∧
    statement.Encloses node ∧ route ∈ (classOf source known node).2

namespace Contribution

lemma readOff_empty : ReadOff {} source statement := ⟨by simp, by simp, by simp, by simp⟩

lemma readOff_ofFunction {known : CallableContext} (hknown : known.outer = statement) :
    (ofFunction (callableOf source known node)).ReadOff source statement := by
  subst hknown
  exact ⟨by simp [ofFunction, callableOf], by simp [ofFunction], by simp [ofFunction],
    by simp [ofFunction]⟩

lemma readOff_ofClass {known : ClassContext} (hknown : known.outer = statement)
    (h : statement.Encloses node) :
    (ofClass (classOf source known node)).ReadOff source statement := by
  refine ⟨by simp [ofClass], ?_, by simp [ofClass], ?_⟩
  · intro c hc
    exact ⟨known, node, hknown, h, mem_singleton.1 hc⟩
  · intro route hroute
    exact ⟨known, node, hknown, h, hroute⟩

lemma readOff_concat {parts : List Contribution}
    (h : ∀ part ∈ parts, part.ReadOff source statement) :
    (concat parts).ReadOff source statement := by
  constructor <;> simp only [concat, mem_flatMap]
  · rintro function ⟨part, hpart, hmem⟩
    exact (h part hpart).functions function hmem
  · rintro c ⟨part, hpart, hmem⟩
    exact (h part hpart).classes c hmem
  · rintro item ⟨part, hpart, hmem⟩
    exact (h part hpart).exports item hmem
  · rintro route ⟨part, hpart, hmem⟩
    exact (h part hpart).routes route hmem

/-- Exports may be added to what a statement defines. -/
lemma ReadOff.export {part : Contribution} (h : part.ReadOff source statement)
    {exports : List (ExportOutline String Span)}
    (hexports : ∀ item ∈ exports, item.span = source.spanOf statement)
    (exportedLocals : List String) :
    ReadOff { part with exports, exportedLocals } source statement :=
  ⟨h.functions, h.classes, hexports, h.routes⟩

/-- Classes that are read off nodes inside a statement list their members in order. -/
lemma ReadOff.standsAt {part : Contribution} (h : part.ReadOff source statement) :
    part.StandsAt (source.spanOf statement) := by
  refine ⟨h.functions, ?_, h.exports⟩
  intro c hc
  obtain ⟨known, node, rfl, hnode, rfl⟩ := h.classes c hc
  exact ⟨rfl, classOf_inSourceOrder known hnode.nested⟩

end Contribution

open Contribution

lemma readOff_valueDefinition (name : String) (isExported : Bool) (decorators : List String)
    (h : statement.Encloses node) :
    (valueDefinition source name statement isExported decorators node).ReadOff
      source statement := by
  rw [valueDefinition]
  split_ifs
  · exact readOff_ofFunction rfl
  · exact readOff_ofClass rfl h
  · exact readOff_empty

lemma readOff_variableDefinitions (isExported : Bool) (h : statement.Encloses node) :
    (variableDefinitions source statement isExported node).ReadOff source statement := by
  refine readOff_concat fun part hpart => ?_
  obtain ⟨declarator, hdeclarator, rfl⟩ := mem_map.1 hpart
  cases hvalue : declarator.child? "value" with
  | none => exact readOff_empty
  | some value =>
      have hinner := h.of_mem_namedChildren (mem_of_mem_filter hdeclarator)
      exact readOff_valueDefinition _ _ _ (hinner.of_child? hvalue)

lemma readOff_declarationOf (isExported : Bool) (decorators : List String)
    (h : statement.Encloses node) :
    (declarationOf source statement isExported decorators node).1.ReadOff source statement := by
  simp only [declarationOf]
  split_ifs
  · exact readOff_ofFunction rfl
  · exact readOff_ofClass rfl h
  · exact readOff_variableDefinitions _ h
  · exact readOff_empty
  · exact readOff_empty

lemma readOff_exportStatement (h : statement.RangesNested) :
    (exportStatement source statement).ReadOff source statement := by
  simp only [exportStatement]
  split
  next declaration hdeclaration =>
    have hpart : (declarationOf source statement true (source.decoratorsOf statement)
        declaration).1.ReadOff source statement :=
      readOff_declarationOf true _ (h.encloses_self.of_child? hdeclaration)
    exact hpart.export (by simp) _
  next => exact readOff_empty.export (by simp) _
  next => exact readOff_empty.export (by simp) _
  next => exact readOff_empty.export (by simp) _
  next value hvalue =>
    have hinner := h.encloses_self.of_child? hvalue
    exact (readOff_valueDefinition _ _ _ hinner).export (by simp) _
  next => exact readOff_empty

lemma readOff_wholeExport (h : statement.Encloses node) :
    (wholeExport source statement node).ReadOff source statement := by
  rw [wholeExport]
  split_ifs
  · exact readOff_empty.export (by simp) _
  · exact readOff_empty.export (by simp) _
  · exact (readOff_valueDefinition _ _ _ h).export (by simp) _

lemma readOff_memberExport (name : String) :
    (memberExport source statement name node).ReadOff source statement := by
  rw [memberExport]
  split_ifs
  · exact (readOff_ofFunction rfl).export (by simp) _
  · exact readOff_empty.export (by simp) _
  · exact readOff_empty.export (by simp) _

lemma readOff_assignedExport (h : statement.RangesNested) :
    (assignedExport source statement).ReadOff source statement := by
  rw [assignedExport]
  split
  next => exact readOff_empty
  next expression hexpression =>
    have hinner := h.encloses_self.of_mem_namedChildren (mem_of_mem_head? hexpression)
    split_ifs
    · dsimp only
      split
      next => exact readOff_empty
      next value hvalue =>
        split_ifs
        · exact readOff_wholeExport (hinner.of_child? hvalue)
        · exact readOff_memberExport _
        · exact readOff_empty
    · exact readOff_empty

/-- **A statement gives its lines to all that it adds**, and its classes stand inside it. -/
lemma readOff_contributionOf (h : statement.RangesNested) :
    (contributionOf source statement).ReadOff source statement := by
  rw [contributionOf]
  split_ifs
  · exact readOff_exportStatement h
  · exact readOff_assignedExport h
  · exact readOff_declarationOf _ _ h.encloses_self

lemma span_requireCall? {link : SyntaxNode.Link} {item : ImportOutline String Span}
    (h : requireCall? source link = some item) : item.span = source.spanOf link.node := by
  simp only [requireCall?, Option.bind_eq_bind] at h
  obtain ⟨callee, -, h⟩ := Option.bind_eq_some_iff.1 h
  obtain ⟨-, h⟩ := Option.ite_none_right_eq_some.1 h
  obtain ⟨literal, -, h⟩ := Option.bind_eq_some_iff.1 h
  obtain ⟨target, -, h⟩ := Option.bind_eq_some_iff.1 h
  obtain rfl := Option.some.inj h
  rfl

/-- An import has the lines of the node that writes it. -/
lemma span_importAt? {link : SyntaxNode.Link} {item : ImportOutline String Span}
    (h : importAt? source link = some item) : item.span = source.spanOf link.node := by
  unfold importAt? at h
  split_ifs at h
  · obtain rfl := Option.some.inj h
    rfl
  · obtain ⟨-, -, rfl⟩ := Option.map_eq_some_iff.1 h
    rfl
  · exact span_requireCall? h

/-- The last line decides among routes of one first line. -/
lemma routes_inLineOrder (routes : List (RouteOutline String Span)) :
    InLineOrder (·.span.startLine) (routes.mergeSort routeOrder) := by
  let tie (a b : RouteOutline String Span) : Bool := decide (a.span.endLine ≤ b.span.endLine)
  have htrans : ∀ a b c, tie a b → tie b c → tie a c := fun _ _ _ => by
    simpa only [tie, decide_eq_true_eq] using Int.le_trans
  have htotal : ∀ a b, tie a b || tie b a := fun a b => by
    simpa only [tie, Bool.or_eq_true, decide_eq_true_eq] using Int.le_total ..
  exact inLineOrder_mergeSort htrans htotal routes

/-- **Outlines of JavaScript and TypeScript files are in source order.** -/
lemma ofTree_inSourceOrder (path grammar : String) {root : SyntaxNode} (h : root.RangesNested) :
    (ofTree path grammar source root).InSourceOrder := by
  have hparts : ∀ statement ∈ root.namedChildren,
      (contributionOf source statement).StandsAt (source.spanOf statement) :=
    fun statement hstatement =>
      (readOff_contributionOf (h.of_mem_namedChildren hstatement)).standsAt
  constructor
  case functions =>
    refine pairwise_map.2 ?_
    simp only [Contribution.concat, flatMap_map]
    exact inLineOrder_flatMap (fun s hs => (hparts s hs).functions) h.namedStarts
  case classes =>
    refine pairwise_map.2 ?_
    simp only [Contribution.concat, flatMap_map]
    exact inLineOrder_flatMap (fun s hs c hc => ((hparts s hs).classes c hc).1) h.namedStarts
  case imports =>
    refine pairwise_filterMap.2 ((h.descendantStarts []).imp fun hstart a ha b hb => ?_)
    simp only [span_importAt? ha, span_importAt? hb]
    exact startLine_spanOf_le hstart
  case exports =>
    simp only [ofTree, Contribution.concat, flatMap_map]
    exact inLineOrder_flatMap (fun s hs => (hparts s hs).exports) h.namedStarts
  case routes =>
    exact routes_inLineOrder _
  case members =>
    intro marked hmarked
    obtain ⟨c, hc, rfl⟩ := mem_map.1 hmarked
    obtain ⟨part, hpart, hmem⟩ := mem_flatMap.1 hc
    obtain ⟨statement, hstatement, rfl⟩ := mem_map.1 hpart
    have hordered := ((hparts statement hstatement).classes c hmem).2
    exact ⟨hordered.methods, hordered.fields⟩

end JavaScript

/-! ## Python -/

namespace Python

variable {source : Source} {statement node outer member : SyntaxNode} {framework : String}
  {listed : Option PublicNames}

lemma span_importsAt {item : ImportOutline String Span} (h : item ∈ importsAt source node) :
    item.span = source.spanOf node := by
  unfold importsAt at h
  split at h
  · obtain ⟨name, -, rfl⟩ := mem_map.1 h
    rfl
  split at h
  · obtain rfl := mem_singleton.1 h
    rfl
  · cases h

lemma span_methodAt? {method : CallableOutline String Span}
    {routes : List (RouteOutline String Span)}
    (h : methodAt? source framework member = some (method, routes)) :
    method.span = source.spanOf member := by
  unfold methodAt? at h
  split_ifs at h
  · obtain ⟨rfl, -⟩ := Prod.mk.inj (Option.some.inj h)
    rfl
  · obtain ⟨definition, -, h⟩ := Option.bind_eq_some_iff.1 h
    split_ifs at h
    obtain ⟨rfl, -⟩ := Prod.mk.inj (Option.some.inj h)
    rfl

/-- A class lists its members in order, whatever decorates it. -/
lemma classOf_inSourceOrder (decorators : List String) (h : node.RangesNested) :
    (classOf source framework listed decorators outer node).1.InSourceOrder where
  methods := by
    refine pairwise_map.2 (pairwise_filterMap.2 ?_)
    refine (h.partStarts "body").imp fun hstart a ha b hb => ?_
    simp only [span_methodAt? ha, span_methodAt? hb]
    exact startLine_spanOf_le hstart
  fields := inLineOrder_mergeSort_named FieldOutline.name _

/-! ### Routes

A definition may register several routes, each on the lines of its decorator. -/

/-- The routes come by line, and on the lines of the node. -/
structure RoutesWithin (source : Source) (node : SyntaxNode)
    (routes : List (RouteOutline String Span)) : Prop where
  inOrder : InLineOrder (·.span.startLine) routes
  onLines : ∀ route ∈ routes,
    (source.lineAt node.start : Int) ≤ route.span.startLine ∧
      route.span.startLine ≤ source.lineAt node.stop

lemma RoutesWithin.nil : RoutesWithin source node [] := ⟨Pairwise.nil, by simp⟩

/-- What holds of a node holds of one around it. -/
lemma RoutesWithin.mono {routes : List (RouteOutline String Span)}
    (h : RoutesWithin source node routes)
    (hnode : outer.Encloses node) : RoutesWithin source outer routes where
  inOrder := h.inOrder
  onLines route hroute := by
    have hlines := h.onLines route hroute
    have hstart := source.lineAt_mono hnode.start_le
    have hstop := source.lineAt_mono hnode.stop_le
    omega

section FlatMap

variable {nodes : List SyntaxNode} {read : SyntaxNode → List (RouteOutline String Span)}
  (h : ∀ node ∈ nodes, RoutesWithin source node (read node))

include h

/-- Nodes that register routes and end before the next node starts give routes in order. -/
lemma inLineOrder_flatMap_routes
    (hapart : nodes.Pairwise fun a b => read a ≠ [] → a.stop ≤ b.start) :
    InLineOrder (·.span.startLine) (nodes.flatMap read) := by
  refine pairwise_flatMap.2 ⟨fun node hnode => (h node hnode).inOrder, ?_⟩
  refine hapart.imp_of_mem fun {a b} ha hb hstop x hx y hy => ?_
  have hbetween := source.lineAt_mono (hstop (ne_nil_of_mem hx))
  have hfirst := (h a ha).onLines x hx
  have hsecond := (h b hb).onLines y hy
  simp only
  omega

lemma RoutesWithin.flatMap (hapart : nodes.Pairwise fun a b => a.stop ≤ b.start)
    (hnodes : ∀ node ∈ nodes, outer.Encloses node) :
    RoutesWithin source outer (nodes.flatMap read) where
  inOrder := inLineOrder_flatMap_routes h (hapart.imp fun {a b} hstop (_ : read a ≠ []) => hstop)
  onLines route hroute := by
    obtain ⟨node, hnode, hmem⟩ := mem_flatMap.1 hroute
    exact ((h node hnode).mono (hnodes node hnode)).onLines route hmem

end FlatMap

lemma span_routeAt? {handler : String} {route : RouteOutline String Span}
    (h : routeAt? source framework handler node = some route) :
    route.span = source.spanOf node := by
  simp only [routeAt?, Option.bind_eq_bind] at h
  obtain ⟨call, -, h⟩ := Option.bind_eq_some_iff.1 h
  obtain ⟨callee, -, h⟩ := Option.bind_eq_some_iff.1 h
  obtain ⟨-, h⟩ := Option.ite_none_right_eq_some.1 h
  obtain ⟨path, -, h⟩ := Option.bind_eq_some_iff.1 h
  obtain ⟨verb, -, h⟩ := Option.bind_eq_some_iff.1 h
  obtain rfl := Option.some.inj h
  rfl

/-- Decorators stand one after the other in the node that they decorate. -/
lemma routesOf_within (handler : String) (h : node.RangesNested) :
    RoutesWithin source node (routesOf source framework handler node) where
  inOrder := inLineOrder_filterMap (fun _ _ _ hroute => span_routeAt? hroute) (h.starts.filter _)
  onLines route hroute := by
    obtain ⟨decorator, hdecorator, hroute⟩ := mem_filterMap.1 hroute
    have hinner := h.encloses (mem_of_mem_filter hdecorator)
    rw [span_routeAt? hroute]
    exact ⟨Int.ofNat_le.2 (source.lineAt_mono hinner.start_le),
      Int.ofNat_le.2 (source.lineAt_mono (Nat.le_trans hinner.nested.forwards hinner.stop_le))⟩

lemma routes_methodAt?_within (h : member.RangesNested)
    {found : CallableOutline String Span × List (RouteOutline String Span)}
    (hfound : methodAt? source framework member = some found) :
    RoutesWithin source member found.2 := by
  unfold methodAt? at hfound
  split_ifs at hfound
  · obtain rfl := Option.some.inj hfound
    exact .nil
  · obtain ⟨definition, -, hfound⟩ := Option.bind_eq_some_iff.1 hfound
    split_ifs at hfound
    obtain rfl := Option.some.inj hfound
    exact routesOf_within _ h

lemma routes_classOf_within (decorators : List String) (h : node.RangesNested) :
    RoutesWithin source node (classOf source framework listed decorators outer node).2 := by
  simp only [classOf, filterMap_eq_flatMap_toList, flatMap_assoc]
  refine RoutesWithin.flatMap (fun member hmember => ?_) (h.partApart "body") fun _ hmember =>
    h.encloses_self.of_mem_part hmember
  cases hfound : methodAt? source framework member with
  | none => exact .nil
  | some found =>
      rw [Option.toList_some, flatMap_singleton]
      exact routes_methodAt?_within (h.of_mem_part hmember) hfound

/-! ### Statements -/

/-- What a statement adds has the lines of that statement. It registers routes on these lines, and
only if it is a definition and not a block. -/
structure Contribution.StandsAt (part : Contribution) (source : Source) (statement : SyntaxNode) :
    Prop where
  functions : ∀ function ∈ part.functions, function.span = source.spanOf statement
  classes : ∀ c ∈ part.classes, c.span = source.spanOf statement ∧ c.InSourceOrder
  routes : RoutesWithin source statement part.routes
  definition : part.routes ≠ [] → blockKinds.contains statement.kind = false

lemma standsAt_empty : Contribution.StandsAt {} source statement :=
  ⟨by simp, by simp, .nil, by simp⟩

/-- A definition in a statement, which may be the statement itself. -/
lemma standsAt_definitionOf (decorators : List String) (h : statement.RangesNested)
    (hnode : statement.Encloses node)
    (hkind : node.kind = "function_definition" ∨ node.kind = "class_definition" →
      blockKinds.contains statement.kind = false) :
    (definitionOf source framework listed decorators statement node).StandsAt source statement := by
  unfold definitionOf
  split
  next hfunction =>
    exact ⟨by simp [callableOf], by simp, routesOf_within _ h,
      fun _ => hkind (.inl (eq_of_beq hfunction))⟩
  next =>
    split
    next hclass =>
      have hroutes : RoutesWithin source node
          (classOf source framework listed decorators statement node).2 :=
        routes_classOf_within decorators hnode.nested
      refine ⟨by simp, fun c hc => ?_, hroutes.mono hnode,
        fun _ => hkind (.inr (eq_of_beq hclass))⟩
      obtain rfl := mem_singleton.1 hc
      exact ⟨rfl, classOf_inSourceOrder decorators hnode.nested⟩
    next => exact standsAt_empty

lemma standsAt_contributionOf (h : statement.RangesNested) :
    (contributionOf source framework listed statement).StandsAt source statement := by
  unfold contributionOf
  split
  next hdecorated =>
    split
    next definition hdefinition =>
      refine standsAt_definitionOf _ h (h.encloses_self.of_child? hdefinition) fun _ => ?_
      rw [eq_of_beq hdecorated]
      rfl
    next => exact standsAt_empty
  next =>
    split
    next => exact ⟨by simp [callableOf], by simp, .nil, by simp⟩
    next =>
      refine standsAt_definitionOf _ h h.encloses_self ?_
      rintro (hkind | hkind) <;> rw [hkind] <;> rfl

section TopLevel

variable {root : SyntaxNode} (h : root.RangesNested)

include h

/-- Statements come in order, and one that is not a block ends before the next one starts. -/
lemma topLevelStatements_inOrder :
    (topLevelStatements root).Pairwise fun a b =>
      a.start ≤ b.start ∧ (blockKinds.contains a.kind = false → a.stop ≤ b.start) := by
  refine pairwise_map.2 ?_
  refine (SyntaxNode.preorder_inOrder _ (SyntaxNode.links_nested h _)
    (SyntaxNode.links_apart h _)).imp fun {a b} horder => ⟨horder.1, fun hkind => horder.2 ?_⟩
  simp only [SyntaxNode.linksBelow, hkind, Bool.false_and, filter_false, map_nil]

lemma encloses_of_mem_topLevelStatements {statement : SyntaxNode}
    (hstatement : statement ∈ topLevelStatements root) : root.Encloses statement := by
  obtain ⟨link, hlink, rfl⟩ := mem_map.1 hstatement
  exact h.encloses_self.of_mem_preorder _ _ link hlink

end TopLevel

/-- A list in `__all__` has the lines of its assignment throughout. -/
lemma exportsOf_inLineOrder (functions : List (CallableOutline String Span))
    (classes : List (ClassOutline String Span)) :
    InLineOrder (·.span.startLine) (exportsOf listed functions classes) := by
  cases listed with
  | none =>
      exact inLineOrder_mergeSort_named (α := ExportOutline String Span) (·.name) _
  | some listed => exact pairwise_map.2 (pairwise_of_forall fun _ _ => Int.le_refl _)

/-- **Outlines of Python files are in source order.** -/
lemma ofTree_inSourceOrder (path grammar : String) {root : SyntaxNode} (h : root.RangesNested) :
    (ofTree path grammar source root).InSourceOrder := by
  have hparts : ∀ statement ∈ topLevelStatements root,
      (contributionOf source (verbFramework (importsOf source root)) (publicNames? source root)
        statement).StandsAt source statement :=
    fun statement hmem => standsAt_contributionOf (encloses_of_mem_topLevelStatements h hmem).nested
  have hstarts := (topLevelStatements_inOrder h).imp And.left
  constructor
  case functions =>
    simp only [ofTree, flatMap_map]
    exact inLineOrder_flatMap (fun s hs => (hparts s hs).functions) hstarts
  case classes =>
    simp only [ofTree, flatMap_map]
    exact inLineOrder_flatMap (fun s hs c hc => ((hparts s hs).classes c hc).1) hstarts
  case imports =>
    exact inLineOrder_flatMap (fun _ _ _ hitem => span_importsAt hitem)
      (pairwise_map.2 (h.descendantStarts []))
  case exports => exact exportsOf_inLineOrder ..
  case routes =>
    simp only [ofTree, flatMap_map]
    refine inLineOrder_flatMap_routes (fun s hs => (hparts s hs).routes) ?_
    refine (topLevelStatements_inOrder h).imp_of_mem fun {a b} ha _ horder hroutes => ?_
    exact horder.2 ((hparts a ha).definition hroutes)
  case members =>
    intro c hc
    obtain ⟨part, hpart, hmem⟩ := mem_flatMap.1 hc
    obtain ⟨statement, hstatement, rfl⟩ := mem_map.1 hpart
    exact ((hparts statement hstatement).classes c hmem).2

end Python

/-! ## Both languages -/

/-- **In source order.**  Whatever a tree with nested ranges holds, its outlines in either language
list functions, classes, imports, exports, routes, methods and fields by line. -/
theorem outlines_are_in_source_order (path grammar : String) (source : Source) {root : SyntaxNode}
    (h : root.RangesNested) :
    (Python.ofTree path grammar source root).InSourceOrder ∧
      (JavaScript.ofTree path grammar source root).InSourceOrder :=
  ⟨Python.ofTree_inSourceOrder path grammar h, JavaScript.ofTree_inSourceOrder path grammar h⟩

/-- A decorated definition in a block, and a definition after the block. -/
def blockSource : Source := ⟨Text.encode "if x:\n @a.get('/b')\n def f(): 0\ndef g(): 0\n"⟩

def blockTree : SyntaxNode :=
  .construct "module" none 0 43
    [.construct "if_statement" none 0 31
      [.construct "identifier" (some "condition") 3 4 [],
        .construct "block" (some "consequence") 7 31
          [.construct "decorated_definition" none 7 31
            [.construct "decorator" none 7 19
              [.construct "call" none 8 19
                [.construct "attribute" (some "function") 8 13
                  [.construct "identifier" (some "object") 8 9 [],
                    .construct "identifier" (some "attribute") 10 13 []],
                  .construct "argument_list" (some "arguments") 13 19
                    [.construct "string" none 14 18 []]]],
              .construct "function_definition" (some "definition") 21 31
                [.construct "identifier" (some "name") 25 26 []]]]],
      .construct "function_definition" none 32 42
        [.construct "identifier" (some "name") 36 37 []]]

/-- A class with a field and a method, and a statement that exports it. -/
def classSource : Source :=
  ⟨Text.encode "class A \x7b\n b = 1\n c() \x7b\x7d\n\x7d\nexport \x7bA\x7d\n"⟩

def classTree : SyntaxNode :=
  .construct "program" none 0 38
    [.construct "class_declaration" none 0 26
      [.construct "identifier" (some "name") 6 7 [],
        .construct "class_body" (some "body") 8 26
          [.construct "field_definition" none 11 16
            [.construct "property_identifier" (some "property") 11 12 []],
            .construct "method_definition" none 18 24
              [.construct "property_identifier" (some "name") 18 19 [],
                .construct "formal_parameters" (some "parameters") 19 21 [],
                .construct "statement_block" (some "body") 22 24 []]]],
      .construct "export_statement" none 27 37
        [.construct "export_clause" none 34 37
          [.construct "export_specifier" none 35 36
            [.construct "identifier" (some "name") 35 36 []]]]]

theorem blocks_and_classes_are_in_source_order :
    blockTree.RangesNested ∧
      (Python.ofTree "a.py" "python" blockSource blockTree).InSourceOrder ∧
      (Python.ofTree "a.py" "python" blockSource blockTree).functions.map (·.span) =
        [⟨2, 3⟩, ⟨4, 4⟩] ∧
      classTree.RangesNested ∧
      (JavaScript.ofTree "a.js" "javascript" classSource classTree).InSourceOrder ∧
      (JavaScript.ofTree "a.js" "javascript" classSource classTree).exports.map (·.span) =
        [⟨5, 5⟩] :=
  have hblock : blockTree.RangesNested := by decide
  have hclass : classTree.RangesNested := by decide
  ⟨hblock, (outlines_are_in_source_order _ _ _ hblock).1, by decide +kernel, hclass,
    (outlines_are_in_source_order _ _ _ hclass).2, by decide +kernel⟩

end RepoAtlas
