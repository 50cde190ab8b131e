import RepoAtlas.Outline.Python
import RepoAtlas.Proofs.Outline.Reading
import RepoAtlas.Proofs.Syntax.Ranges
import Mathlib.Tactic.SplitIfs

/-!
# Comments in Python files

A comment is a named child of whatever it stands in: a class body, a list of parameters, the list in
`__all__`.  Readers ask for children of certain kinds or with a certain field, so they pass over
comments wherever these are.  There is one exception.  The path of a route is the first argument of
a decorator's call that is not given by keyword, and a comment in front of it is taken for it.  As
it is no string, the route is lost.

So comments show in the routes of an outline and nowhere else, and even there only when they stand
in front of a path (`comments_show_in_routes_only`).  There is a lemma for each reader: it reads the
same off both trees.  `routeAt?_eq` is the one that depends on where the comment is, and
`IsHarmless` is what it needs.
-/

namespace RepoAtlas.Python

open List Source SyntaxNode Text
open SyntaxNode.WithoutComments (FollowsAlike OfLink namedChildren?_rel)

/-! ## Where comments do no harm -/

/-- A call that registers a route when it decorates a definition. -/
def RegistersRoute (source : Source) (call : SyntaxNode) : Prop :=
  ∃ callee ∈ call.child? "function", callee.kind = "attribute" ∧
    source.textOf? (callee.child? "attribute") ∈ "route" :: "api_route" :: httpVerbs

/-- A place where no reader takes a comment for something else. -/
structure IsHarmless (source : Source) (place : Place) : Prop where
  field : place.node.field = none
  /-- The path of a route is the first argument that is not given by keyword. -/
  path : place.parent.field = some "arguments" → ∀ call decorator above,
    place.above = call :: decorator :: above → decorator.kind = "decorator" →
    RegistersRoute source call →
    ∃ argument ∈ place.namedBefore, argument.kind ≠ "keyword_argument"

variable {may : Place → Prop} {source : Source} {above : List SyntaxNode}

lemma decoratedDefinition?_of_comment {comment : SyntaxNode} (h : comment.kind = "comment") :
    decoratedDefinition? comment = none := by
  rw [decoratedDefinition?, h]
  rfl

lemma methodAt?_of_comment {comment : SyntaxNode} (h : comment.kind = "comment")
    (framework : String) : methodAt? source framework comment = none := by
  rw [methodAt?, decoratedDefinition?_of_comment h, h]
  rfl

/-- Of its methods, a class has the outlines and not the routes. -/
lemma outline_classOf (framework : String) (listed : Option PublicNames) (decorators : List String)
    (outer node : SyntaxNode) :
    (classOf source framework listed decorators outer node).1 =
      let name := source.textOf? (node.child? "name")
      let bases := basesOf source node
      let members := ((node.child? "body").map (·.namedChildren)).getD []
      let methods := (members.filterMap (methodAt? source framework)).map (·.1)
      { name
        superclass := bases.head?
        methods
        span := source.spanOf outer
        bases
        fields := fieldsOf source members
        decorators
        isExported := isPublic listed name
        isAbstract := hasAbstractMetaclass source node || bases.any isAbstractBase
          || methods.any fun method => method.decorators.any (contains "abstractmethod") } := by
  simp only [classOf, any_map]
  rfl

/-! ## What is read the same wherever comments are -/

section Anywhere

variable (hmay : ∀ place, may place → place.node.field = none)

include hmay

section Node

variable {node node' : SyntaxNode} (h : WithoutComments may above node node')

include h

/-! ### Imports -/

lemma importedName_eq : importedName source node' = importedName source node := by
  simp only [importedName, h.kind, textOf_eq h, textOf?_eq (h.child? hmay "name")]

lemma importsAt_eq : importsAt source node' = importsAt source node := by
  have hnames := h.childrenNamed hmay "name"
  have hwildcard : node'.namedChildren.any (·.kind == "wildcard_import") =
      node.namedChildren.any (·.kind == "wildcard_import") :=
    h.namedChildren.any_eq (fun hchild => by rw [hchild.kind]) fun hgone => by rw [hgone.kind]; rfl
  unfold importsAt
  rw [h.kind, spanOf_eq h, textOf?_eq (h.child? hmay "module_name"), hwildcard,
    hnames.map_eq (importedName_eq hmay) not_false]
  split_ifs
  · exact hnames.map_eq (fun hname => by rw [importedName_eq hmay hname]) not_false
  · rfl
  · rfl
  · rfl

lemma importsOf_eq : importsOf source node' = importsOf source node := by
  refine (h.descendants []).flatMap_eq ?_ ?_
  · rintro _ _ ⟨_, hnode⟩
    exact importsAt_eq hmay hnode
  · intro _ comment _ hkind
    rw [importsAt, hkind]
    rfl

/-! ### Public names -/

omit hmay in
lemma assignmentsOf_rel :
    Thinned (fun node node' => ∃ above, WithoutComments may above node node') (fun _ _ _ => False)
      [] (assignmentsOf node) (assignmentsOf node') := by
  unfold assignmentsOf
  rw [h.kind]
  split_ifs
  · exact .keep ⟨above, h⟩ .nil
  · exact (h.namedOfKind "assignment" (by decide)).imp (fun hchild => ⟨_, hchild⟩) False.elim
  · exact .nil

lemma publicNamesIn?_eq : publicNamesIn? source node' = publicNamesIn? source node := by
  unfold publicNamesIn?
  obtain ⟨hnone, hnone'⟩ | ⟨right, right', hsome, hsome', hright⟩ :=
    none_or_some_of_rel (h.child? hmay "right")
  · rw [hnone, hnone']
  · have hlisted : right'.namedChildren.filterMap source.stringValue? =
        right.namedChildren.filterMap source.stringValue? :=
      hright.namedChildren.filterMap_eq stringValue?_eq fun hgone =>
        stringValue?_of_comment hgone.kind
    simp only [hsome, hsome', hright.kind, textOf?_eq (h.child? hmay "left"), hlisted, spanOf_eq h]

lemma publicNames?_eq : publicNames? source node' = publicNames? source node := by
  rw [publicNames?, publicNames?, ← head?_filterMap, ← head?_filterMap, filterMap_flatMap,
    filterMap_flatMap]
  refine congrArg head? (h.namedChildren.flatMap_eq (fun hstatement => ?_) fun hgone => ?_)
  · refine (assignmentsOf_rel hstatement).filterMap_eq ?_ False.elim
    rintro _ _ ⟨_, hassignment⟩
    exact publicNamesIn?_eq hmay hassignment
  · rw [assignmentsOf, hgone.kind]
    rfl

/-! ### Functions -/

lemma parameter?_eq : parameter? source node' = parameter? source node := by
  have htyped := h.namedChildren.find? (p := fun child =>
      ["identifier", "list_splat_pattern", "dictionary_splat_pattern"].contains child.kind)
    (fun hchild => by rw [hchild.kind]) fun hgone => by rw [hgone.kind]; rfl
  simp only [parameter?, h.kind, textOf_eq h, textOf?_eq (h.child? hmay "name"),
    map_eq_of_rel htyped textOf_eq]

lemma instantiated?_eq : instantiated? source node' = instantiated? source node := by
  unfold instantiated?
  rw [h.kind]
  obtain ⟨hnone, hnone'⟩ | ⟨callee, callee', hsome, hsome', hcallee⟩ :=
    none_or_some_of_rel (h.child? hmay "function")
  · rw [hnone, hnone']
  · simp only [hsome, hsome', hcallee.kind, textOf_eq hcallee]

end Node

section Parts

variable {part? part?' : Option SyntaxNode}
  (h : Option.Rel (WithoutComments may above) part? part?')

include h

lemma parametersOf_eq : parametersOf source part?' = parametersOf source part? := by
  cases h with
  | none => rfl
  | some hpart =>
      refine hpart.namedChildren.filterMap_eq (parameter?_eq hmay) fun hgone => ?_
      simp only [parameter?, hgone.kind]
      rfl

lemma instantiationsIn_eq : instantiationsIn source part?' = instantiationsIn source part? := by
  cases h with
  | none => rfl
  | some hpart =>
      refine congrArg Naming.distinct ((hpart.descendants scopeKinds).filterMap_eq ?_ ?_)
      · rintro _ _ ⟨_, hnode⟩
        exact instantiated?_eq hmay hnode
      · intro _ comment _ hkind
        rw [instantiated?, hkind]
        rfl

end Parts

section Node

variable {node node' : SyntaxNode} (h : WithoutComments may above node node')

include h

/-- Of the outer node, a function only has the lines. -/
lemma callableOf_eq (isExported : String → Bool) (decorators : List String)
    {outer outer' : SyntaxNode} (houter : source.spanOf outer' = source.spanOf outer) :
    callableOf source isExported decorators outer' node' =
      callableOf source isExported decorators outer node := by
  simp only [callableOf, textOf?_eq (h.child? hmay "name"),
    parametersOf_eq hmay (h.child? hmay "parameters"), houter,
    map_eq_of_rel (h.child? hmay "return_type") compactTextOf_eq, h.hasChild "async" (by decide),
    instantiationsIn_eq hmay (h.child? hmay "body")]

/-! ### Classes -/

lemma decoratedDefinition?_rel :
    Option.Rel (WithoutComments may (node :: above)) (decoratedDefinition? node)
      (decoratedDefinition? node') := by
  unfold decoratedDefinition?
  rw [h.kind]
  split_ifs
  · exact h.child? hmay "definition"
  · exact .none

lemma basesOf_eq : basesOf source node' = basesOf source node := by
  refine (namedChildren?_rel (h.child? hmay "superclasses")).filterMap_eq ?_ ?_
  · rintro child child' ⟨_, hchild⟩
    simp only [hchild.kind, compactTextOf_eq hchild]
  · intro _ comment _ hkind
    simp only [hkind]
    rfl

lemma hasAbstractMetaclass_eq :
    hasAbstractMetaclass source node' = hasAbstractMetaclass source node := by
  refine (namedChildren?_rel (h.child? hmay "superclasses")).any_eq ?_ ?_
  · rintro child child' ⟨_, hchild⟩
    rw [hchild.kind, textOf_eq hchild]
  · intro _ comment _ hkind
    rw [hkind]
    rfl

lemma classFieldsAt_eq : classFieldsAt source node' = classFieldsAt source node := by
  refine (assignmentsOf_rel h).filterMap_eq ?_ False.elim
  rintro assignment assignment' ⟨_, hassignment⟩
  refine bind_eq_of_rel (hassignment.child? hmay "left") fun hleft => ?_
  rw [hleft.kind, textOf_eq hleft, startLineOf_eq hleft]

lemma instanceField?_eq : instanceField? source node' = instanceField? source node := by
  unfold instanceField?
  rw [h.kind]
  split_ifs
  · refine bind_eq_of_rel (h.child? hmay "left") fun hleft => ?_
    simp only [hleft.kind, textOf?_eq (hleft.child? hmay "object"),
      textOf?_eq (hleft.child? hmay "attribute"), startLineOf_eq hleft]
  · rfl

lemma instanceFieldsIn_eq : instanceFieldsIn source node' = instanceFieldsIn source node := by
  refine (h.descendants scopeKinds).filterMap_eq ?_ ?_
  · rintro _ _ ⟨_, hnode⟩
    exact instanceField?_eq hmay hnode
  · intro _ comment _ hkind
    rw [instanceField?, hkind]
    rfl

lemma method_methodAt? (framework : String) :
    (methodAt? source framework node').map (·.1) = (methodAt? source framework node).map (·.1) := by
  unfold methodAt?
  rw [h.kind]
  split_ifs
  · simp only [Option.map_some, callableOf_eq hmay h _ _ (spanOf_eq h)]
  · obtain ⟨hnone, hnone'⟩ | ⟨definition, definition', hsome, hsome', hdefinition⟩ :=
      none_or_some_of_rel (decoratedDefinition?_rel hmay h)
    · rw [hnone, hnone']
      rfl
    · rw [hsome, hsome', Option.bind_some, Option.bind_some, hdefinition.kind]
      split_ifs
      · simp only [Option.map_some, decoratorsOf_eq h,
          callableOf_eq hmay hdefinition _ _ (spanOf_eq h)]
      · rfl

end Node

section Members

variable {members members' : List SyntaxNode}
  (h : Thinned (fun node node' => ∃ above, WithoutComments may above node node')
    (fun _ node _ => node.kind = "comment") [] members members')

include h

lemma methodBodies_rel :
    Thinned (fun node node' => ∃ above, WithoutComments may above node node') (fun _ _ _ => False)
      [] (methodBodies members) (methodBodies members') := by
  refine h.filterMap ?_ ?_ []
  · rintro member member' ⟨above, hmember⟩
    obtain ⟨_, hdefinition⟩ : ∃ above, WithoutComments may above
        ((decoratedDefinition? member).getD member)
        ((decoratedDefinition? member').getD member') := by
      obtain ⟨hnone, hnone'⟩ | ⟨definition, definition', hsome, hsome', hdefinition⟩ :=
        none_or_some_of_rel (decoratedDefinition?_rel hmay hmember)
      · rw [hnone, hnone']
        exact ⟨_, hmember⟩
      · rw [hsome, hsome']
        exact ⟨_, hdefinition⟩
    dsimp only
    rw [hdefinition.kind]
    split_ifs
    · obtain ⟨hnone, hnone'⟩ | ⟨body, body', hsome, hsome', hbody⟩ :=
        none_or_some_of_rel (hdefinition.child? hmay "body")
      · rw [hnone, hnone']
        exact .none
      · rw [hsome, hsome']
        exact .some ⟨_, hbody⟩
    · exact .none
  · intro _ comment _ hkind
    dsimp only
    rw [decoratedDefinition?_of_comment hkind, Option.getD_none, hkind]
    rfl

lemma fieldsOf_eq : fieldsOf source members' = fieldsOf source members := by
  have hassigned : members'.flatMap (classFieldsAt source) =
      members.flatMap (classFieldsAt source) := by
    refine h.flatMap_eq ?_ ?_
    · rintro _ _ ⟨_, hmember⟩
      exact classFieldsAt_eq hmay hmember
    · intro _ comment _ hkind
      rw [classFieldsAt, assignmentsOf, hkind]
      rfl
  have hcreated : (methodBodies members').flatMap (instanceFieldsIn source) =
      (methodBodies members).flatMap (instanceFieldsIn source) := by
    refine (methodBodies_rel hmay h).flatMap_eq ?_ False.elim
    rintro _ _ ⟨_, hbody⟩
    exact instanceFieldsIn_eq hmay hbody
  simp only [fieldsOf, hassigned, hcreated]

lemma methods_filterMap (source : Source) (framework : String) :
    (members'.filterMap (methodAt? source framework)).map (·.1) =
      (members.filterMap (methodAt? source framework)).map (·.1) := by
  rw [map_filterMap, map_filterMap]
  refine h.filterMap_eq ?_ ?_
  · rintro _ _ ⟨_, hmember⟩
    exact method_methodAt? hmay hmember framework
  · intro _ comment _ hkind
    rw [methodAt?_of_comment hkind, Option.map_none]

end Members

section Node

variable {node node' : SyntaxNode} (h : WithoutComments may above node node')

include h

lemma classOf_eq (framework : String) (listed : Option PublicNames) (decorators : List String)
    {outer outer' : SyntaxNode} (houter : source.spanOf outer' = source.spanOf outer) :
    (classOf source framework listed decorators outer' node').1 =
      (classOf source framework listed decorators outer node).1 := by
  have hmembers := namedChildren?_rel (h.child? hmay "body")
  simp only [outline_classOf, textOf?_eq (h.child? hmay "name"), basesOf_eq hmay h, houter,
    fieldsOf_eq hmay hmembers, hasAbstractMetaclass_eq hmay h,
    methods_filterMap hmay hmembers source framework]

/-! ### Statements -/

lemma guardsMain_eq : guardsMain source node' = guardsMain source node := by
  unfold guardsMain
  rw [h.kind]
  obtain ⟨hnone, hnone'⟩ | ⟨condition, condition', hsome, hsome', hcondition⟩ :=
    none_or_some_of_rel (h.child? hmay "condition")
  · rw [hnone, hnone']
  · rw [hsome, hsome', Option.any_some, Option.any_some, textOf_eq hcondition]

/-- The definitions of a statement, with the decorators that it holds. -/
lemma definitions_definitionOf (framework : String) (listed : Option PublicNames)
    (decorators : List String) {outer outer' : SyntaxNode}
    (houter : source.spanOf outer' = source.spanOf outer) :
    (definitionOf source framework listed decorators outer' node').functions =
        (definitionOf source framework listed decorators outer node).functions ∧
      (definitionOf source framework listed decorators outer' node').classes =
        (definitionOf source framework listed decorators outer node).classes := by
  unfold definitionOf
  rw [h.kind]
  split_ifs
  · exact ⟨congrArg (fun function => [function]) (callableOf_eq hmay h _ _ houter), rfl⟩
  · exact ⟨rfl, congrArg (fun outline => [outline]) (classOf_eq hmay h _ _ _ houter)⟩
  · exact ⟨rfl, rfl⟩

lemma definitions_contributionOf (framework : String) (listed : Option PublicNames) :
    (contributionOf source framework listed node').functions =
        (contributionOf source framework listed node).functions ∧
      (contributionOf source framework listed node').classes =
        (contributionOf source framework listed node).classes := by
  unfold contributionOf
  rw [h.kind]
  split_ifs
  · obtain ⟨hnone, hnone'⟩ | ⟨definition, definition', hsome, hsome', hdefinition⟩ :=
      none_or_some_of_rel (h.child? hmay "definition")
    · rw [hnone, hnone']
      exact ⟨rfl, rfl⟩
    · rw [hsome, hsome', decoratorsOf_eq h]
      exact definitions_definitionOf hmay hdefinition _ _ _ (spanOf_eq h)
  · exact ⟨congrArg (fun function => [function]) (callableOf_eq hmay h _ _ (spanOf_eq h)), rfl⟩
  · exact definitions_definitionOf hmay h _ _ _ (spanOf_eq h)

end Node

/-! ### Verbs of routes -/

section Parts

variable {part? part?' : Option SyntaxNode}
  (h : Option.Rel (WithoutComments may above) part? part?')

include h

lemma listedMethods_eq : listedMethods source part?' = listedMethods source part? := by
  refine congrArg (·.getD "GET") ((namedChildren?_rel h).findSome?_eq ?_ ?_)
  · rintro argument argument' ⟨_, hargument⟩
    have hverbs := (namedChildren?_rel (hargument.child? hmay "value")).filterMap_eq
      (f := source.stringValue?) (g := source.stringValue?)
      (fun ⟨_, hitem⟩ => stringValue?_eq hitem) fun hkind => stringValue?_of_comment hkind
    simp only [hargument.kind, textOf?_eq (hargument.child? hmay "name"), hverbs]
  · intro _ comment _ hkind
    simp only [hkind]
    rfl

lemma routeMethod?_eq (framework name : String) :
    routeMethod? source framework name part?' = routeMethod? source framework name part? := by
  simp only [routeMethod?, listedMethods_eq hmay h]

end Parts

end Anywhere

/-- A comment adds nothing. -/
lemma contributionOf_of_comment {comment : SyntaxNode} (h : comment.kind = "comment")
    (framework : String) (listed : Option PublicNames) :
    contributionOf source framework listed comment = {} := by
  rw [contributionOf, definitionOf, h]
  rfl

/-- Blocks are entered in both trees, and comments in them are passed over. -/
lemma topLevelStatements_rel {root root' : SyntaxNode} (h : WithoutComments may above root root') :
    Thinned (fun node node' => ∃ above, WithoutComments may above node node')
      (fun _ node _ => node.kind = "comment") [] (topLevelStatements root)
      (topLevelStatements root') := by
  have hfollow : FollowsAlike may fun parent child =>
      blockKinds.contains parent.kind && child.isNamed && !child.isComment := by
    intro _ parent parent' child child' hparent hchild
    simp only [isComment, hparent.kind, hchild.isNamed, hchild.kind]
  exact (WithoutComments.preorder hfollow h.namedLinks).map (fun hlink => hlink.node)
    (fun hgone _ _ => hgone.kind) []

/-! ## Routes -/

lemma routeMethod?_eq_none {name : String} (h : name ∉ "route" :: "api_route" :: httpVerbs)
    (framework : String) (arguments : Option SyntaxNode) :
    routeMethod? source framework name arguments = none := by
  simp only [mem_cons, not_or] at h
  obtain ⟨hroute, hapi, hverb⟩ := h
  have hother : httpVerbs.contains name = false := by simpa using hverb
  simp only [routeMethod?, hother, beq_eq_false_iff_ne.2 hroute, beq_eq_false_iff_ne.2 hapi,
    Bool.false_eq_true, if_false]

section Harmless

variable (hharmless : ∀ place, may place → IsHarmless source place)

include hharmless

lemma field_of_harmless : ∀ place, may place → place.node.field = none :=
  fun place hplace => (hharmless place hplace).field

/-- **The path is found in both trees**, since in front of it no comment is missing. -/
lemma firstStringArgument?_eq {decorator call call' : SyntaxNode}
    (h : WithoutComments may (decorator :: above) call call')
    (hdecorator : decorator.kind = "decorator") (hroute : RegistersRoute source call) :
    firstStringArgument? source (call'.child? "arguments") =
      firstStringArgument? source (call.child? "arguments") := by
  obtain ⟨hnone, hnone'⟩ | ⟨arguments, arguments', hsome, hsome', harguments⟩ :=
    none_or_some_of_rel (h.child? (field_of_harmless hharmless) "arguments")
  · rw [hnone, hnone']
  · have hfirst : Option.Rel (WithoutComments may (arguments :: call :: decorator :: above))
        (arguments.namedChildren.find? (·.kind != "keyword_argument"))
        (arguments'.namedChildren.find? (·.kind != "keyword_argument")) := by
      refine harguments.namedChildren.find?_of_before (fun hchild => by rw [hchild.kind]) ?_
        (by simp)
      rintro _ _ _ ⟨-, place, hplace, habove, rfl, rfl, -⟩
      obtain ⟨argument, hbefore, hkind⟩ := (hharmless place hplace).path (field_of_child? hsome)
        call decorator above habove hdecorator hroute
      exact ⟨argument, hbefore, bne_iff_ne.2 hkind⟩
    simp only [firstStringArgument?, hsome, hsome', Option.bind_some,
      bind_eq_of_rel hfirst stringValue?_eq]

/-- **Decorators register the same routes.**  Where there is no verb, it does not matter what is
taken for a path. -/
lemma routeAt?_eq (framework handler : String) {decorator decorator' : SyntaxNode}
    (h : WithoutComments may above decorator decorator') (hkind : decorator.kind = "decorator") :
    routeAt? source framework handler decorator' = routeAt? source framework handler decorator := by
  have hmay := field_of_harmless hharmless
  unfold routeAt?
  refine bind_eq_of_rel (h.firstNamed? "call" (by decide)) fun {call call'} hcall => ?_
  obtain ⟨hnone, hnone'⟩ | ⟨callee, callee', hsome, hsome', hcallee⟩ :=
    none_or_some_of_rel (hcall.child? hmay "function")
  · rw [hnone, hnone']
    rfl
  · simp only [hsome, hsome', hcallee.kind, textOf?_eq (hcallee.child? hmay "attribute"),
      routeMethod?_eq hmay (hcall.child? hmay "arguments"), spanOf_eq h, Option.bind_eq_bind,
      Option.bind_some]
    by_cases hattribute : (callee.kind == "attribute") = true
    · rw [if_pos hattribute, if_pos hattribute]
      by_cases hverb : source.textOf? (callee.child? "attribute") ∈
          "route" :: "api_route" :: httpVerbs
      · have hroute : RegistersRoute source call := ⟨callee, hsome, eq_of_beq hattribute, hverb⟩
        rw [firstStringArgument?_eq hharmless hcall hkind hroute]
      · simp only [routeMethod?_eq_none hverb, Option.bind_none, Option.bind_fun_none]
    · rw [if_neg hattribute, if_neg hattribute]

section Node

variable {node node' : SyntaxNode} (h : WithoutComments may above node node')

include h

lemma routesOf_eq (framework handler : String) :
    routesOf source framework handler node' = routesOf source framework handler node := by
  rw [routesOf, routesOf, filterMap_filter, filterMap_filter]
  refine h.children.filterMap_eq (fun hchild => ?_) fun hgone => ?_
  · rw [hchild.kind]
    split_ifs with hkind
    · exact routeAt?_eq hharmless framework handler hchild (eq_of_beq hkind)
    · rfl
  · rw [hgone.kind]
    rfl

lemma methodAt?_eq (framework : String) :
    methodAt? source framework node' = methodAt? source framework node := by
  have hmay := field_of_harmless hharmless
  unfold methodAt?
  rw [h.kind]
  split_ifs
  · rw [callableOf_eq hmay h _ _ (spanOf_eq h)]
  · refine bind_eq_of_rel (decoratedDefinition?_rel hmay h) fun hdefinition => ?_
    simp only [hdefinition.kind, decoratorsOf_eq h,
      callableOf_eq hmay hdefinition _ _ (spanOf_eq h), routesOf_eq hharmless h]

lemma routes_classOf (framework : String) (listed : Option PublicNames) (decorators : List String)
    (outer outer' : SyntaxNode) :
    (classOf source framework listed decorators outer' node').2 =
      (classOf source framework listed decorators outer node).2 := by
  have hmembers := namedChildren?_rel (h.child? (field_of_harmless hharmless) "body")
  have hmethods := hmembers.filterMap_eq
    (f := methodAt? source framework) (g := methodAt? source framework)
    (fun ⟨_, hmember⟩ => methodAt?_eq hharmless hmember framework)
    fun hkind => methodAt?_of_comment hkind framework
  simp only [classOf, hmethods]

lemma routes_definitionOf (framework : String) (listed : Option PublicNames)
    (decorators : List String) {outer outer' : SyntaxNode}
    (houter : ∃ above, WithoutComments may above outer outer') :
    (definitionOf source framework listed decorators outer' node').routes =
      (definitionOf source framework listed decorators outer node).routes := by
  have hmay := field_of_harmless hharmless
  obtain ⟨_, houter⟩ := houter
  unfold definitionOf
  rw [h.kind]
  split_ifs
  · simp only [callableOf_eq hmay h _ _ (spanOf_eq houter), routesOf_eq hharmless houter]
  · exact routes_classOf hharmless h framework listed decorators outer outer'
  · rfl

lemma routes_contributionOf (framework : String) (listed : Option PublicNames) :
    (contributionOf source framework listed node').routes =
      (contributionOf source framework listed node).routes := by
  unfold contributionOf
  rw [h.kind]
  split_ifs
  · obtain ⟨hnone, hnone'⟩ | ⟨definition, definition', hsome, hsome', hdefinition⟩ :=
      none_or_some_of_rel (h.child? (field_of_harmless hharmless) "definition")
    · rw [hnone, hnone']
    · rw [hsome, hsome', decoratorsOf_eq h]
      exact routes_definitionOf hharmless hdefinition framework listed _ ⟨_, h⟩
  · rfl
  · exact routes_definitionOf hharmless h framework listed _ ⟨_, h⟩

end Node

end Harmless

/-! ## The outline -/

section Outline

variable {root thinned : SyntaxNode} (h : WithoutComments may above root thinned)

include h

/-- What is read the same off each statement is read the same off all of them. -/
lemma contributions_eq {β : Type} (source : Source) (framework : String)
    (listed : Option PublicNames) (part : Contribution → List β) (hnothing : part {} = [])
    (hpart : ∀ {above node node'}, WithoutComments may above node node' →
      part (contributionOf source framework listed node') =
        part (contributionOf source framework listed node)) :
    ((topLevelStatements thinned).map (contributionOf source framework listed)).flatMap part =
      ((topLevelStatements root).map (contributionOf source framework listed)).flatMap part := by
  rw [flatMap_map, flatMap_map]
  refine (topLevelStatements_rel h).flatMap_eq (fun ⟨_, hnode⟩ => hpart hnode) fun hkind => ?_
  rw [contributionOf_of_comment hkind, hnothing]

lemma ofTree_besides_routes (hmay : ∀ place, may place → place.node.field = none)
    (path grammar : String) :
    ofTree path grammar source thinned =
      { ofTree path grammar source root with
        routes := (ofTree path grammar source thinned).routes } := by
  have hfunctions (framework : String) (listed : Option PublicNames) :=
    contributions_eq h source framework listed (·.functions) rfl fun hnode =>
      (definitions_contributionOf hmay hnode framework listed).1
  have hclasses (framework : String) (listed : Option PublicNames) :=
    contributions_eq h source framework listed (·.classes) rfl fun hnode =>
      (definitions_contributionOf hmay hnode framework listed).2
  have hguard : (topLevelStatements thinned).any (guardsMain source) =
      (topLevelStatements root).any (guardsMain source) := by
    refine (topLevelStatements_rel h).any_eq (fun ⟨_, hnode⟩ => guardsMain_eq hmay hnode)
      fun hkind => ?_
    rw [guardsMain, hkind]
    rfl
  simp only [ofTree, importsOf_eq hmay h, publicNames?_eq hmay h, hfunctions, hclasses, hguard]

lemma routes_ofTree (hharmless : ∀ place, may place → IsHarmless source place)
    (path grammar : String) :
    (ofTree path grammar source thinned).routes = (ofTree path grammar source root).routes := by
  have hmay := field_of_harmless hharmless
  simp only [ofTree, importsOf_eq hmay h, publicNames?_eq hmay h]
  exact contributions_eq h source _ _ (·.routes) rfl fun hnode =>
    routes_contributionOf hharmless hnode _ _

end Outline

/-- **Comments show in routes only**, and only where they stand in front of the path: whichever
harmless ones are taken out of a tree, its outline is the same. -/
theorem comments_show_in_routes_only (path grammar : String) (source : Source)
    (root thinned : SyntaxNode) :
    (WithoutComments (fun place => place.node.field = none) [] root thinned →
      ofTree path grammar source thinned =
        { ofTree path grammar source root with
          routes := (ofTree path grammar source thinned).routes }) ∧
    (WithoutComments (IsHarmless source) [] root thinned →
      ofTree path grammar source thinned = ofTree path grammar source root) := by
  constructor
  · intro h
    exact ofTree_besides_routes h (fun _ hplace => hplace) path grammar
  · intro h
    rw [ofTree_besides_routes h (fun _ hharmless => hharmless.field) path grammar,
      routes_ofTree h (fun _ hharmless => hharmless) path grammar]

/-- The function in
```
@app.get( # one
 '/users', # two
)
def users():
 pass
```
with the given comments in front of the path and behind it. -/
def commentedRoute (front behind : List SyntaxNode) : SyntaxNode :=
  .construct "module" none 0 54
    [.construct "decorated_definition" none 0 53
      [.construct "decorator" none 0 34
        [.construct "call" none 1 34
          [.construct "attribute" (some "function") 1 8
            [.construct "identifier" (some "object") 1 4 [],
              .construct "identifier" (some "attribute") 5 8 []],
            .construct "argument_list" (some "arguments") 8 34
              (front ++ [.construct "string" none 17 25 []] ++ behind)]],
        .construct "function_definition" (some "definition") 35 53
          [.construct "identifier" (some "name") 39 44 [],
            .construct "parameters" (some "parameters") 44 46 [],
            .construct "block" (some "body") 49 53
              [.construct "pass_statement" none 49 53 []]]]]

def commentedSource : Source :=
  ⟨encode "@app.get( # one\n '/users', # two\n)\ndef users():\n pass\n"⟩

def commentInFront : SyntaxNode := .construct "comment" none 10 15 []

def commentBehind : SyntaxNode := .construct "comment" none 27 32 []

/-- The tree without the comment in front. -/
lemma withoutComments_inFront : WithoutComments (fun place => place.node.field = none) []
    (commentedRoute [commentInFront] []) (commentedRoute [] []) :=
  .intro (.keep (.intro (.keep (.intro (.keep (.intro (.keep (.refl ..) (.keep (.intro
    (.drop rfl rfl rfl (.refl ..))) .nil))) .nil)) (.refl ..))) .nil)

theorem commentBehind_does_not_show :
    (WithoutComments (IsHarmless commentedSource) [] (commentedRoute [] [commentBehind])
        (commentedRoute [] []) ∧
      ofTree "a.py" "python" commentedSource (commentedRoute [] []) =
        ofTree "a.py" "python" commentedSource (commentedRoute [] [commentBehind]) ∧
      ((ofTree "a.py" "python" commentedSource (commentedRoute [] [])).routes.map
        fun route => (route.method, route.route, route.handler)) =
          [("GET", "/users", some "users")]) ∧
    WithoutComments (fun place => place.node.field = none) []
        (commentedRoute [commentInFront] []) (commentedRoute [] []) ∧
      (ofTree "a.py" "python" commentedSource (commentedRoute [] [])).functions =
        (ofTree "a.py" "python" commentedSource
          (commentedRoute [commentInFront] [])).functions := by
  have hharmless : WithoutComments (IsHarmless commentedSource) []
      (commentedRoute [] [commentBehind]) (commentedRoute [] []) := by
    refine .intro (.keep (.intro (.keep (.intro (.keep (.intro (.keep (.refl ..) (.keep (.intro
      (.keep (.refl ..) (.drop rfl rfl ?_ .nil))) .nil))) .nil)) (.refl ..))) .nil)
    exact ⟨rfl, fun _ _ _ _ _ _ _ => ⟨_, mem_singleton.2 rfl, by decide⟩⟩
  refine ⟨⟨hharmless, (comments_show_in_routes_only _ _ _ _ _).2 hharmless, by decide +kernel⟩,
    withoutComments_inFront, ?_⟩
  exact congrArg (·.functions)
    ((comments_show_in_routes_only "a.py" "python" _ _ _).1 withoutComments_inFront)

/-- In front of the path a comment does show: the route is lost. -/
theorem commentInFront_shows :
    ¬ ∀ (path grammar : String) (source : Source) (root thinned : SyntaxNode),
      WithoutComments (fun place => place.node.field = none) [] root thinned →
        ofTree path grammar source thinned = ofTree path grammar source root := by
  intro h
  have hroutes := congrArg (·.routes.length)
    (h "a.py" "python" commentedSource _ _ withoutComments_inFront)
  exact absurd hroutes (by decide +kernel)

end RepoAtlas.Python
