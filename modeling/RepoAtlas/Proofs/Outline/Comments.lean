import RepoAtlas.Outline.JavaScript
import RepoAtlas.Proofs.Outline.Reading
import RepoAtlas.Proofs.Syntax.Ranges

/-!
# Comments in JavaScript and TypeScript files

A comment may stand between any two words of a file, and then it is a named child like any other.
Most readers of a node ask for a child with a certain field or of a certain kind, or leave comments
out.  Some do not: they take the first or the last named child for what they look for, or take all,
or drop the decorators that they hold.  `IsHarmless` says where a comment is not in their way.

If only comments at harmless places are taken out of a tree, then the outline stays the same
(`outlines_do_not_show_harmless_comments`).  There is a lemma for each reader, all of the same form:
it reads the same off both trees.  `membersOf_eq`, `clauseBases_eq`, `namespaceName_eq`,
`assignedExport_eq` and `specifier_rel` are those that depend on the place of the comment.  At a
place that is not harmless the outline may change, as the last example shows.
-/

namespace RepoAtlas.JavaScript

open List Source SyntaxNode Text
open SyntaxNode.WithoutComments (OfLink namedChildren?_rel)

/-! ## Where comments do no harm -/

/-- A call that imports a module if its first argument is a string. -/
def ImportsModule (source : Source) (call : SyntaxNode) : Prop :=
  ∃ callee ∈ call.child? "function",
    (callee.kind = "identifier" ∧ source.textOf callee = "require") ∨ callee.kind = "import"

/-- A place where no reader takes a comment for something else, or stops at it. -/
structure IsHarmless (source : Source) (place : Place) : Prop where
  field : place.node.field = none
  /-- In a class body, a decorator has to stand right in front of its method. -/
  method : place.parent.field = some "body" →
    ∀ last ∈ place.namedBefore.getLast?, last.kind ≠ "decorator"
  /-- The specifier of a module is the first argument of the call. -/
  specifier : place.parent.field = some "arguments" →
    (∃ call ∈ place.above.head?, ImportsModule source call) → place.namedBefore ≠ []
  /-- Everything in an `implements` clause is an interface. -/
  interface : place.parent.kind ≠ "implements_clause"
  /-- Without a field for it, the superclass is the first thing in an `extends` clause. -/
  superclass : place.parent.kind = "extends_clause" → place.parent.child? "value" = none →
    place.namedBefore ≠ []
  /-- An assignment to the exports object is the first thing in its statement. -/
  assignment : place.parent.kind = "expression_statement" → place.namedBefore ≠ []
  /-- The name that stands for all exports of a module is the last thing behind `as`. -/
  namespaceName : place.parent.kind = "namespace_export" → place.namedAfter ≠ []

/-- The second tree is the first without some of its harmless comments. -/
abbrev Cleared (source : Source) : List SyntaxNode → SyntaxNode → SyntaxNode → Prop :=
  WithoutComments (IsHarmless source)

/-! ## Small parts -/

lemma modifiersOf_eq {may : Place → Prop} {source : Source} {above : List SyntaxNode}
    {node node' : SyntaxNode} (h : WithoutComments may above node node') :
    modifiersOf source node' = modifiersOf source node := by
  refine h.children.filterMap_eq (fun hchild => ?_) fun hgone => ?_
  · simp only [hchild.kind, textOf_eq hchild]
  · simp only [hgone.kind]
    rfl

section Cleared

variable {source : Source} {above : List SyntaxNode} {node node' : SyntaxNode}

lemma specifierOf_eq {part? part?' : Option SyntaxNode}
    (h : Option.Rel (Cleared source above) part? part?') :
    specifierOf source part?' = specifierOf source part? := by
  rw [specifierOf, bind_eq_of_rel h stringValue?_eq, ← specifierOf]

section Node

variable (h : Cleared source above node node')

include h

/-- A harmless comment is no part of its parent. -/
lemma child?_rel (field : String) :
    Option.Rel (Cleared source (node :: above)) (node.child? field) (node'.child? field) :=
  h.child? (fun _ hharmless => hharmless.field) field

lemma nameOf_eq : nameOf source node' = nameOf source node := textOf?_eq (child?_rel h "name")

lemma parameterText_eq : parameterText source node' = parameterText source node := by
  have hpattern : source.compactTextOf ((node'.child? "pattern").getD node') =
      source.compactTextOf ((node.child? "pattern").getD node) := by
    rw [← Option.getD_map source.compactTextOf,
      map_eq_of_rel (child?_rel h "pattern") compactTextOf_eq, compactTextOf_eq h, Option.getD_map]
  simp only [parameterText, h.kind, compactTextOf?_eq (child?_rel h "left"), hpattern,
    compactTextOf_eq h]

lemma instantiated?_eq : instantiated? source node' = instantiated? source node := by
  rw [instantiated?, h.kind, bind_eq_of_rel (child?_rel h "constructor") fun hcallee => ?_,
    ← instantiated?]
  rw [hcallee.kind, textOf_eq hcallee]

end Node

/-! ## Functions and classes -/

lemma parametersOf_eq {part? part?' : Option SyntaxNode}
    (h : Option.Rel (Cleared source above) part? part?') :
    parametersOf source part?' = parametersOf source part? := by
  cases h with
  | none => rfl
  | some hpart =>
      simp only [parametersOf, hpart.kind, textOf_eq hpart,
        hpart.namedBesidesComments.map_eq parameterText_eq not_false]

lemma instantiationsIn_eq {part? part?' : Option SyntaxNode}
    (h : Option.Rel (Cleared source above) part? part?') :
    instantiationsIn source part?' = instantiationsIn source part? := by
  cases h with
  | none => rfl
  | some hpart =>
      refine congrArg Naming.distinct ((hpart.descendants scopeKinds).filterMap_eq ?_ ?_)
      · rintro _ _ ⟨_, hnode⟩
        exact instantiated?_eq hnode
      · intro _ comment _ hkind
        rw [instantiated?, hkind]
        rfl

section Node

variable (h : Cleared source above node node')

include h

/-- Of the outer node, a function only has the lines. -/
lemma callableOf_eq {known known' : CallableContext}
    (hknown : known' = { known with outer := known'.outer })
    (houter : source.spanOf known'.outer = source.spanOf known.outer) :
    callableOf source known' node' = callableOf source known node := by
  have hparameters := or_of_rel (child?_rel h "parameters") (child?_rel h "parameter")
  have hreturn : ∀ {type type'}, Cleared source (node :: above) type type' →
      trim (dropLeading ':' (source.compactTextOf type')) =
        trim (dropLeading ':' (source.compactTextOf type)) :=
    fun htype => by rw [compactTextOf_eq htype]
  rw [hknown]
  simp only [callableOf, parametersOf_eq hparameters, houter,
    map_eq_of_rel (child?_rel h "return_type") hreturn, h.hasChild "async" (by decide),
    instantiationsIn_eq (child?_rel h "body")]

/-- In a clause that lists bases, no comment is missing where a base is expected. -/
lemma clauseBases_eq : clauseBases source node' = clauseBases source node := by
  unfold clauseBases
  rw [isComment, isComment, h.kind, compactTextOf_eq h]
  split_ifs with hextends himplements hcomment
  · obtain ⟨hnone, hnone'⟩ | ⟨value, value', hsome, hsome', hvalue⟩ :=
      none_or_some_of_rel (child?_rel h "value")
    · rw [hnone, hnone', take_one, take_one, ← Option.toList_map, ← Option.toList_map]
      refine congrArg Option.toList (map_eq_of_rel (h.namedChildren.head? ?_) compactTextOf_eq)
      rintro _ _ ⟨-, place, hharmless, -, rfl, hbefore, -⟩
      exact hharmless.superclass (eq_of_beq hextends) hnone hbefore
    · rw [hsome, hsome']
      exact congrArg (fun text => [text]) (compactTextOf_eq hvalue)
  · refine h.namedChildren.map_eq compactTextOf_eq ?_
    rintro _ _ _ ⟨-, place, hharmless, -, rfl, -⟩
    exact hharmless.interface (eq_of_beq himplements)
  · rfl
  · rfl

lemma basesOf_eq : basesOf source node' = basesOf source node := by
  have hheritage := h.namedOfKind "class_heritage" (by decide)
  refine congrArg Naming.distinct ?_
  rw [flatMap_assoc, flatMap_assoc]
  refine hheritage.flatMap_eq (fun hclauses => ?_) False.elim
  refine hclauses.namedChildren.flatMap_eq clauseBases_eq fun hgone => ?_
  rw [clauseBases, isComment, hgone.kind]
  rfl

end Node

section Node

variable (h : Cleared source above node node')

include h

lemma parameterFields_eq : parameterFields source node' = parameterFields source node := by
  refine (namedChildren?_rel (child?_rel h "parameters")).filterMap_eq ?_ ?_
  · rintro child child' ⟨_, hchild⟩
    simp only [hchild.kind, modifiersOf_eq hchild, startLineOf_eq hchild,
      compactTextOf?_eq (child?_rel hchild "pattern")]
  · intro _ comment _ hcomment
    simp only [hcomment]
    rfl

/-! ### Class bodies -/

lemma methodMember_eq (controller : Option String) (pending : List String) :
    methodMember source controller pending node' = methodMember source controller pending node := by
  simp only [methodMember, nameOf_eq h, modifiersOf_eq h, decoratorsOf_eq h, parameterFields_eq h]
  exact congrArg (fun method => Members.mk [method] _ (controllerRoutes controller method))
    (callableOf_eq h rfl (spanOf_eq h))

lemma fieldMember_eq : fieldMember source node' = fieldMember source node := by
  have hname := or_of_rel (child?_rel h "property") (child?_rel h "name")
  simp only [fieldMember, textOf?_eq hname, modifiersOf_eq h, startLineOf_eq h]

end Node

/-- **Class bodies are read the same.**  Decorators are pending only right behind a decorator, and
there no comment is missing. -/
lemma membersOf_eq {gone : List SyntaxNode → SyntaxNode → List SyntaxNode → Prop}
    {before members members' : List SyntaxNode} (controller : Option String)
    {pending : List String} (h : Thinned (Cleared source above) gone before members members')
    (hgone : ∀ {before member after}, gone before member after →
      member.kind = "comment" ∧ ∀ last ∈ before.getLast?, last.kind ≠ "decorator")
    (hpending : pending ≠ [] → ∃ last ∈ before.getLast?, last.kind = "decorator") :
    membersOf source controller pending members' = membersOf source controller pending members := by
  induction h generalizing pending with
  | nil => rfl
  | @keep before rest rest' member member' hmember _ ih =>
      by_cases hdecorator : member.kind = "decorator"
      · simp only [membersOf, hmember.kind, hdecorator, decoratorText_eq hmember]
        exact ih fun _ => ⟨member, by simp, hdecorator⟩
      · -- Whatever was pending is used up or dropped here, so nothing is for the rest.
        have hother : (member.kind == "decorator") = false := beq_eq_false_iff_ne.2 hdecorator
        simp only [membersOf, hmember.kind, hother, Bool.false_eq_true, if_false,
          methodMember_eq hmember, fieldMember_eq hmember, ih fun hne => absurd rfl hne]
  | @drop before rest rest' comment hcomment _ ih =>
      -- A comment drops what is pending, which is nothing.
      obtain ⟨hkind, hlast⟩ := hgone hcomment
      have hnone : pending = [] := by
        by_contra hne
        obtain ⟨last, hmem, hdecorator⟩ := hpending hne
        exact hlast last hmem hdecorator
      subst hnone
      rw [ih fun hne => absurd rfl hne, membersOf, hkind]
      rfl

section Node

variable (h : Cleared source above node node')

include h

lemma membersOf_namedChildren_eq (hbody : node.field = some "body") (controller : Option String) :
    membersOf source controller [] node'.namedChildren =
      membersOf source controller [] node.namedChildren := by
  refine membersOf_eq controller h.namedChildren ?_ fun hne => absurd rfl hne
  rintro _ comment _ ⟨hkind, place, hharmless, -, rfl, rfl, -⟩
  exact ⟨hkind, hharmless.method hbody⟩

lemma classOf_eq {known known' : ClassContext}
    (hknown : known' = { known with outer := known'.outer })
    (houter : source.spanOf known'.outer = source.spanOf known.outer) :
    classOf source known' node' = classOf source known node := by
  have hmembers (controller : Option String) :
      membersOf source controller [] (((node'.child? "body").map (·.namedChildren)).getD []) =
        membersOf source controller [] (((node.child? "body").map (·.namedChildren)).getD []) := by
    obtain ⟨hnone, hnone'⟩ | ⟨body, body', hsome, hsome', hbody⟩ :=
      none_or_some_of_rel (child?_rel h "body")
    · rw [hnone, hnone']
    · rw [hsome, hsome']
      exact membersOf_namedChildren_eq hbody (field_of_child? hsome) controller
  rw [hknown]
  simp only [classOf, decoratorsOf_eq h, basesOf_eq h, h.kind, houter, hmembers]

/-! ## Top-level statements -/

lemma valueDefinition_eq {outer outer' : SyntaxNode} (name : String) (isExported : Bool)
    (decorators : List String) (houter : source.spanOf outer' = source.spanOf outer) :
    valueDefinition source name outer' isExported decorators node' =
      valueDefinition source name outer isExported decorators node := by
  unfold valueDefinition
  rw [h.kind]
  split_ifs
  · exact congrArg Contribution.ofFunction (callableOf_eq h rfl houter)
  · exact congrArg Contribution.ofClass (classOf_eq h rfl houter)
  · rfl

lemma variableDefinitions_eq {outer outer' : SyntaxNode} (isExported : Bool)
    (houter : source.spanOf outer' = source.spanOf outer) :
    variableDefinitions source outer' isExported node' =
      variableDefinitions source outer isExported node := by
  have hdeclarators := h.namedOfKind "variable_declarator" (by decide)
  refine congrArg Contribution.concat (hdeclarators.map_eq (fun hdeclarator => ?_) not_false)
  rw [nameOf_eq hdeclarator]
  obtain ⟨hnone, hnone'⟩ | ⟨value, value', hsome, hsome', hvalue⟩ :=
    none_or_some_of_rel (child?_rel hdeclarator "value")
  · rw [hnone, hnone']
  · rw [hsome, hsome']
    exact valueDefinition_eq hvalue _ _ _ houter

lemma variableNames_eq : variableNames source node' = variableNames source node := by
  have hdeclarators := h.namedOfKind "variable_declarator" (by decide)
  refine hdeclarators.filterMap_eq (fun hdeclarator => ?_) False.elim
  refine bind_eq_of_rel (child?_rel hdeclarator "name") fun hname => ?_
  rw [hname.kind, textOf_eq hname]

lemma declarationOf_eq {outer outer' : SyntaxNode} (isExported : Bool) (decorators : List String)
    (houter : source.spanOf outer' = source.spanOf outer) :
    declarationOf source outer' isExported decorators node' =
      declarationOf source outer isExported decorators node := by
  unfold declarationOf
  rw [h.kind, nameOf_eq h, variableDefinitions_eq h isExported houter, variableNames_eq h]
  split_ifs
  · exact congrArg (fun function => (Contribution.ofFunction function, _))
      (callableOf_eq h rfl houter)
  · exact congrArg (fun c => (Contribution.ofClass c, _)) (classOf_eq h rfl houter)
  · rfl
  · rfl
  · rfl

/-! ### Exports -/

lemma exportedNames_eq : exportedNames source node' = exportedNames source node := by
  have hspecifiers := h.namedOfKind "export_specifier" (by decide)
  refine hspecifiers.map_eq (fun hspecifier => ?_) not_false
  rw [nameOf_eq hspecifier, map_eq_of_rel (child?_rel hspecifier "alias") textOf_eq]

lemma namespaceName_eq : namespaceName source node' = namespaceName source node := by
  unfold namespaceName
  obtain ⟨hnone, hnone'⟩ | ⟨clause, clause', hsome, hsome', hclause⟩ :=
    none_or_some_of_rel (h.firstNamed? "namespace_export" (by decide))
  · rw [hnone, hnone']
  · have hlast : Option.Rel (Cleared source (clause :: node :: above)) clause.namedChildren.getLast?
        clause'.namedChildren.getLast? := by
      refine hclause.namedChildren.getLast? ?_
      rintro _ _ ⟨-, place, hharmless, -, rfl, -, hafter⟩
      exact hharmless.namespaceName (kind_of_firstNamed? hsome) hafter
    simp only [hsome, hsome', map_eq_of_rel hlast textOf_eq]

/-- **Export statements are read the same.**  Whichever of its parts a statement is read by, it has
that part in both trees. -/
lemma exportStatement_eq : exportStatement source node' = exportStatement source node := by
  unfold exportStatement
  simp only [spanOf_eq h, decoratorsOf_eq h, h.hasChild "default" (by decide), namespaceName_eq h]
  obtain ⟨hdeclaration, hdeclaration'⟩ | ⟨declaration, declaration', hsome, hsome', hdeclaration⟩ :=
    none_or_some_of_rel (child?_rel h "declaration")
  · obtain ⟨hsource, hsource'⟩ | ⟨sourceNode, sourceNode', hsource, hsource', hspecifier⟩ :=
      none_or_some_of_rel (child?_rel h "source")
    · obtain ⟨hclause, hclause'⟩ | ⟨clause, clause', hclause, hclause', hnames⟩ :=
        none_or_some_of_rel (h.firstNamed? "export_clause" (by decide))
      · obtain ⟨hvalue, hvalue'⟩ | ⟨value, value', hvalue, hvalue', hdefinition⟩ :=
          none_or_some_of_rel (child?_rel h "value")
        · simp only [hdeclaration, hdeclaration', hsource, hsource', hclause, hclause', hvalue,
            hvalue']
        · simp only [hdeclaration, hdeclaration', hsource, hsource', hclause, hclause', hvalue,
            hvalue', nameOf_eq hdefinition, hdefinition.kind, textOf_eq hdefinition,
            valueDefinition_eq hdefinition _ _ _ (spanOf_eq h)]
      · simp only [hdeclaration, hdeclaration', hsource, hsource', hclause, hclause',
          exportedNames_eq hnames]
    · have hspecifier := specifierOf_eq (.some hspecifier)
      obtain ⟨hclause, hclause'⟩ | ⟨clause, clause', hclause, hclause', hnames⟩ :=
        none_or_some_of_rel (h.firstNamed? "export_clause" (by decide))
      · simp only [hdeclaration, hdeclaration', hsource, hsource', hclause, hclause', hspecifier]
      · simp only [hdeclaration, hdeclaration', hsource, hsource', hclause, hclause', hspecifier,
          exportedNames_eq hnames]
  · simp only [hsome, hsome', declarationOf_eq hdeclaration _ _ (spanOf_eq h)]

lemma objectMembers_eq : objectMembers source node' = objectMembers source node := by
  refine h.namedChildren.filterMap_eq (fun hchild => ?_) fun hgone => ?_
  · have hkey := child?_rel hchild "key"
    simp only [hchild.kind, textOf_eq hchild, nameOf_eq hchild, textOf?_eq hkey,
      bind_eq_of_rel hkey stringValue?_eq]
    obtain ⟨hnone, hnone'⟩ | ⟨value, value', hsome, hsome', hvalue⟩ :=
      none_or_some_of_rel (child?_rel hchild "value")
    · simp only [hnone, hnone']
    · simp only [hsome, hsome', hvalue.kind, textOf_eq hvalue]
  · rw [hgone.kind]
    rfl

lemma wholeExport_eq {statement statement' : SyntaxNode}
    (hstatement : source.spanOf statement' = source.spanOf statement) :
    wholeExport source statement' node' = wholeExport source statement node := by
  simp only [wholeExport, hstatement, h.kind, textOf_eq h, objectMembers_eq h, nameOf_eq h,
    valueDefinition_eq h _ _ _ hstatement]

lemma memberExport_eq {statement statement' : SyntaxNode} (name : String)
    (hstatement : source.spanOf statement' = source.spanOf statement) :
    memberExport source statement' name node' = memberExport source statement name node := by
  unfold memberExport
  rw [h.kind, hstatement, textOf_eq h]
  split_ifs
  · exact congrArg (fun function => Contribution.mk [function] [] [] _ [])
      (callableOf_eq h rfl hstatement)
  · rfl
  · rfl

lemma assignedExport_eq (hkind : node.kind = "expression_statement") :
    assignedExport source node' = assignedExport source node := by
  have hfirst : Option.Rel (Cleared source (node :: above)) node.namedChildren.head?
      node'.namedChildren.head? := by
    refine h.namedChildren.head? ?_
    rintro _ _ ⟨-, place, hharmless, -, rfl, hbefore, -⟩
    exact hharmless.assignment hkind hbefore
  unfold assignedExport
  obtain ⟨hnone, hnone'⟩ | ⟨expression, expression', hsome, hsome', hexpression⟩ :=
    none_or_some_of_rel hfirst
  · rw [hnone, hnone']
  · simp only [hsome, hsome', hexpression.kind, compactTextOf?_eq (child?_rel hexpression "left")]
    obtain ⟨hright, hright'⟩ | ⟨value, value', hright, hright', hvalue⟩ :=
      none_or_some_of_rel (child?_rel hexpression "right")
    · simp only [hright, hright']
    · simp only [hright, hright', wholeExport_eq hvalue (spanOf_eq h),
        memberExport_eq hvalue _ (spanOf_eq h)]

lemma contributionOf_eq : contributionOf source node' = contributionOf source node := by
  unfold contributionOf
  rw [h.kind, exportStatement_eq h, declarationOf_eq h _ _ (spanOf_eq h)]
  split_ifs with hexport hexpression
  · rfl
  · exact assignedExport_eq h (eq_of_beq hexpression)
  · rfl

/-- Nothing is contributed by a comment. -/
lemma contributions_eq :
    Contribution.concat (node'.namedChildren.map (contributionOf source)) =
      Contribution.concat (node.namedChildren.map (contributionOf source)) := by
  have hnothing : ∀ {comment : SyntaxNode}, comment.kind = "comment" →
      contributionOf source comment = {} := by
    intro comment hkind
    rw [contributionOf, declarationOf, hkind]
    rfl
  have heach {β : Type} (part : Contribution → List β) (hpart : part {} = []) :
      (node'.namedChildren.map (contributionOf source)).flatMap part =
        (node.namedChildren.map (contributionOf source)).flatMap part := by
    rw [flatMap_map, flatMap_map]
    refine h.namedChildren.flatMap_eq (fun hstatement => ?_) fun hgone => ?_
    · rw [contributionOf_eq hstatement]
    · rw [hnothing hgone.kind, hpart]
  simp only [Contribution.concat, heach Contribution.functions rfl, heach Contribution.classes rfl,
    heach Contribution.routes rfl, heach Contribution.exports rfl,
    heach Contribution.exportedLocals rfl]

/-! ## Imports -/

lemma importedSymbols_eq : importedSymbols source node' = importedSymbols source node := by
  have hnamespace : node'.namedChildren.any (·.kind == "namespace_import") =
      node.namedChildren.any (·.kind == "namespace_import") :=
    h.namedChildren.any_eq (fun hchild => by rw [hchild.kind]) fun hgone => by rw [hgone.kind]; rfl
  unfold importedSymbols
  rw [hnamespace]
  split_ifs
  · rfl
  · refine h.namedChildren.flatMap_eq (fun hchild => ?_) fun hgone => ?_
    · have hspecifiers := hchild.namedOfKind "import_specifier" (by decide)
      rw [hchild.kind, hspecifiers.map_eq nameOf_eq not_false]
    · rw [hgone.kind]
      rfl

lemma importStatement_eq : importStatement source node' = importStatement source node := by
  rw [importStatement, specifierOf_eq (child?_rel h "source"), spanOf_eq h,
    map_eq_of_rel (h.firstNamed? "import_clause" (by decide)) importedSymbols_eq, ← importStatement]

lemma reexport?_eq : reexport? source node' = reexport? source node := by
  have hclause := map_eq_of_rel (h.firstNamed? "export_clause" (by decide))
    (f := fun clause => (exportedNames source clause).map (·.localName))
    (g := fun clause => (exportedNames source clause).map (·.localName))
    fun hclause => by rw [exportedNames_eq hclause]
  unfold reexport?
  refine map_eq_of_rel (child?_rel h "source") fun hsource => ?_
  rw [specifierOf_eq (.some hsource), hclause, spanOf_eq h]

lemma patternNames_eq : patternNames source node' = patternNames source node := by
  refine h.namedChildren.filterMap_eq (fun hchild => ?_) fun hgone => ?_
  · simp only [hchild.kind, textOf_eq hchild, textOf?_eq (child?_rel hchild "key"),
      textOf?_eq (child?_rel hchild "left")]
  · rw [hgone.kind]
    rfl

lemma requiredSymbols_eq : requiredSymbols source node' = requiredSymbols source node := by
  unfold requiredSymbols
  rw [h.kind, textOf?_eq (child?_rel h "property")]
  obtain ⟨hnone, hnone'⟩ | ⟨pattern, pattern', hsome, hsome', hpattern⟩ :=
    none_or_some_of_rel (child?_rel h "name")
  · rw [hnone, hnone']
  · simp only [hsome, hsome', hpattern.kind, patternNames_eq hpattern]

/-- **The specifier is the first argument in both trees**, since in front of it no comment is
missing. -/
lemma specifier_rel (hcall : ImportsModule source node) :
    Option.Rel (fun literal literal' => ∃ above, Cleared source above literal literal')
      ((node.child? "arguments").bind (·.namedChildren.head?))
      ((node'.child? "arguments").bind (·.namedChildren.head?)) := by
  obtain ⟨hnone, hnone'⟩ | ⟨arguments, arguments', hsome, hsome', harguments⟩ :=
    none_or_some_of_rel (child?_rel h "arguments")
  · rw [hnone, hnone']
    exact .none
  · have hfirst : Option.Rel (Cleared source (arguments :: node :: above))
        arguments.namedChildren.head? arguments'.namedChildren.head? := by
      refine harguments.namedChildren.head? ?_
      rintro _ _ ⟨-, place, hharmless, habove, rfl, hbefore, -⟩
      exact hharmless.specifier (field_of_child? hsome) ⟨node, by rw [habove]; rfl, hcall⟩ hbefore
    rw [hsome, hsome', Option.bind_some, Option.bind_some]
    obtain ⟨hnone, hnone'⟩ | ⟨literal, literal', hsome, hsome', hliteral⟩ :=
      none_or_some_of_rel hfirst
    · rw [hnone, hnone']
      exact .none
    · rw [hsome, hsome']
      exact .some ⟨_, hliteral⟩

/-! ## Route calls -/

lemma routeCall?_eq (framework : String) :
    routeCall? source framework node' = routeCall? source framework node := by
  unfold routeCall?
  refine bind_eq_of_rel (child?_rel h "function") fun hcallee => ?_
  simp only [hcallee.kind, textOf?_eq (child?_rel hcallee "property"), spanOf_eq h]
  split_ifs
  · refine bind_eq_of_rel (child?_rel h "arguments") fun {arguments arguments'} harguments => ?_
    have hkept := harguments.namedBesidesComments
    generalize arguments.namedChildren.filter (!·.isComment) = values at hkept ⊢
    generalize arguments'.namedChildren.filter (!·.isComment) = values' at hkept ⊢
    cases hkept with
    | nil => rfl
    | keep hpath hmore =>
        refine bind_eq_of_rel (hmore.getLast? not_false) fun hhandler => ?_
        simp only [stringValue?_eq hpath, hhandler.kind, compactTextOf_eq hhandler]
    | drop hgone => exact hgone.elim
  · rfl

end Node

section Links

variable {link link' : Link} (h : OfLink (IsHarmless source) link link')

include h

lemma requireCall?_eq : requireCall? source link' = requireCall? source link := by
  obtain ⟨⟨_, hparent⟩, _, hnode⟩ := h
  unfold requireCall?
  obtain ⟨hnone, hnone'⟩ | ⟨callee, callee', hsome, hsome', hcallee⟩ :=
    none_or_some_of_rel (child?_rel hnode "function")
  · rw [hnone, hnone']
    rfl
  · simp only [hsome, hsome', hcallee.kind, textOf_eq hcallee, Option.bind_eq_bind,
      Option.bind_some, requiredSymbols_eq hparent, spanOf_eq hnode]
    split_ifs with himports
    · have hcall : ImportsModule source link.node := ⟨callee, hsome, by simpa using himports⟩
      refine bind_eq_of_rel (specifier_rel hnode hcall) ?_
      rintro literal literal' ⟨_, hliteral⟩
      rw [stringValue?_eq hliteral]
    · rfl

lemma importAt?_eq : importAt? source link' = importAt? source link := by
  have hcall := requireCall?_eq h
  obtain ⟨_, _, hnode⟩ := h
  simp only [importAt?, hnode.kind, importStatement_eq hnode, reexport?_eq hnode, hcall]

end Links

end Cleared

/-! ## The outline -/

/-- **Harmless comments are not seen.**  Whichever of them are taken out of a tree, its outline is
the same. -/
theorem outlines_do_not_show_harmless_comments (path grammar : String) (source : Source)
    {root thinned : SyntaxNode} (h : WithoutComments (IsHarmless source) [] root thinned) :
    ofTree path grammar source thinned = ofTree path grammar source root := by
  have hlinks := h.linksWithin []
  have himports : (thinned.linksWithin []).filterMap (importAt? source) =
      (root.linksWithin []).filterMap (importAt? source) := by
    refine hlinks.filterMap_eq importAt?_eq fun hcomment => ?_
    rw [importAt?, hcomment.kind]
    rfl
  have hroutes (framework : String) : routeCalls source framework (thinned.linksWithin []) =
      routeCalls source framework (root.linksWithin []) := by
    refine hlinks.filterMap_eq (fun hlink => ?_) fun hcomment => ?_
    · obtain ⟨_, hnode⟩ := hlink.node
      rw [hnode.kind, requireCall?_eq hlink, routeCall?_eq hnode]
    · rw [hcomment.kind]
      rfl
  simp only [ofTree, contributions_eq h, himports, hroutes]

/-- The class in
```
class A {
 // one
 @Get() // two
 b() {}
}
```
with the given comments in front of its decorator and behind it. -/
def commentedClass (front behind : List SyntaxNode) : SyntaxNode :=
  .construct "program" none 0 43
    [.construct "class_declaration" none 0 42
      [.construct "type_identifier" (some "name") 6 7 [],
        .construct "class_body" (some "body") 8 42
          (front ++
            [.construct "decorator" none 19 25
              [.construct "call_expression" none 20 25
                [.construct "identifier" (some "function") 20 23 [],
                  .construct "arguments" (some "arguments") 23 25 []]]] ++ behind ++
            [.construct "method_definition" none 34 40
              [.construct "property_identifier" (some "name") 34 35 [],
                .construct "formal_parameters" (some "parameters") 35 37 [],
                .construct "statement_block" (some "body") 38 40 []]])]]

def commentedSource : Source :=
  ⟨encode "class A \x7b\n // one\n @Get() // two\n b() \x7b\x7d\n\x7d\n"⟩

def commentOne : SyntaxNode := .construct "comment" none 11 17 []

def commentTwo : SyntaxNode := .construct "comment" none 26 32 []

theorem commentOne_does_not_show :
    WithoutComments (IsHarmless commentedSource) [] (commentedClass [commentOne] [])
        (commentedClass [] []) ∧
      ofTree "a.ts" "typescript" commentedSource (commentedClass [] []) =
        ofTree "a.ts" "typescript" commentedSource (commentedClass [commentOne] []) ∧
      ((ofTree "a.ts" "typescript" commentedSource (commentedClass [] [])).classes.flatMap fun c =>
        c.methods.map (·.decorators)) = [["Get()"]] := by
  have hharmless : WithoutComments (IsHarmless commentedSource) []
      (commentedClass [commentOne] []) (commentedClass [] []) := by
    refine .intro (.keep (.intro (.keep (.refl ..) (.keep (.intro (.drop rfl rfl ?_ (.refl ..)))
      .nil))) .nil)
    exact ⟨rfl, by decide, fun harguments => absurd harguments (by decide), by decide, by decide,
      by decide, by decide⟩
  exact ⟨hharmless, outlines_do_not_show_harmless_comments _ _ _ hharmless, by decide +kernel⟩

/-- Between a decorator and its method a comment does show: the method loses its decorator. -/
theorem commentTwo_shows :
    ¬ ∀ (path grammar : String) (source : Source) (root thinned : SyntaxNode),
      WithoutComments (fun _ => True) [] root thinned →
        ofTree path grammar source thinned = ofTree path grammar source root := by
  intro h
  have hthinned : WithoutComments (fun _ => True) [] (commentedClass [] [commentTwo])
      (commentedClass [] []) :=
    .intro (.keep (.intro (.keep (.refl ..) (.keep (.intro (.keep (.refl ..)
      (.drop rfl rfl trivial (.refl ..)))) .nil))) .nil)
  have hdecorators := congrArg (fun module => module.classes.flatMap fun c =>
    c.methods.map (·.decorators)) (h "a.ts" "typescript" commentedSource _ _ hthinned)
  exact absurd hdecorators (by decide +kernel)

end RepoAtlas.JavaScript
