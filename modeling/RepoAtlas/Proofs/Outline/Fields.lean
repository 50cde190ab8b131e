import RepoAtlas.Outline.Python
import RepoAtlas.Proofs.Data.Firsts
import RepoAtlas.Proofs.Syntax.Preorder
import Mathlib.Data.List.Induction

/-!
# Where the fields of a class come from

The fields of a Python class are nowhere declared: they are the names that its body binds, and the
attributes of `self` or `cls` that its methods set.  A field may be assigned many times, and the
first time says what it is; what the body does comes before what the methods do.

`bodyAssignments` and `methodNodes` are the two lists in which these times are looked for.  The
latter lists whatever is in the bodies of the methods, in document order, but not what is in
functions, classes and lambdas inside of them.

**Each field is found once** in these lists (`mem_fieldsOf_iff`), because going through assignments
and keeping the names that are new comes to the first of each name (`firstByName_eq`).  Sorting them
afterwards changes no field.
-/

namespace RepoAtlas.Python

open List SyntaxNode

/-! ## Assignments -/

/-- An assignment binds a name: the name stands on its left, on some line. -/
def BindsName (source : Source) (name : String) (line : Int) (assignment : SyntaxNode) : Prop :=
  ∃ target ∈ assignment.child? "left", target.kind = "identifier" ∧
    source.textOf target = name ∧ source.startLineOf target = line

/-- An assignment, augmented or not, sets an attribute of `self` or of `cls`. -/
def SetsAttribute (source : Source) (owner name : String) (line : Int) (node : SyntaxNode) : Prop :=
  (node.kind = "assignment" ∨ node.kind = "augmented_assignment") ∧
  (owner = "self" ∨ owner = "cls") ∧
  ∃ target ∈ node.child? "left", target.kind = "attribute" ∧
    source.textOf? (target.child? "object") = owner ∧
    source.textOf? (target.child? "attribute") = name ∧ source.startLineOf target = line

/-- What stands directly in the body of a class. -/
def membersOf (node : SyntaxNode) : List SyntaxNode :=
  ((node.child? "body").map (·.namedChildren)).getD []

/-- The assignments that stand directly in the body of a class, as a statement or in one. -/
def bodyAssignments (node : SyntaxNode) : List SyntaxNode :=
  (membersOf node).flatMap fun member =>
    (member :: if member.kind = "expression_statement" then member.namedChildren else []).filter
      (·.kind = "assignment")

/-- The methods of a class, without their decorators. -/
def methodsOf (node : SyntaxNode) : List SyntaxNode :=
  ((membersOf node).map fun member =>
    if member.kind = "decorated_definition" then (member.child? "definition").getD member
    else member).filter (·.kind = "function_definition")

/-- What is in the bodies of the methods of a class and in no other scope inside of them. -/
def methodNodes (node : SyntaxNode) : List SyntaxNode :=
  ((methodsOf node).filterMap (·.child? "body")).flatMap fun body =>
    ((occurrencesAmong [] body.children).filter (·.isOutside scopeKinds)).map (·.node)

variable {source : Source} {node member assignment : SyntaxNode} {name : String}
  {field : FieldOutline String} {fields : List (FieldOutline String)}

/-- The field that an assignment in the body of a class creates. -/
def boundField? (source : Source) (assignment : SyntaxNode) : Option (FieldOutline String) :=
  (assignment.child? "left").bind fun left =>
    if left.kind == "identifier" then
      let name := source.textOf left
      some ⟨name, source.startLineOf left, true, Naming.visibility name⟩
    else none

lemma boundField?_eq_some_iff : boundField? source assignment = some field ↔
    BindsName source field.name field.line assignment ∧ field.isStatic = true ∧
      field.visibility = Naming.visibility field.name := by
  simp only [boundField?, Option.bind_eq_some_iff, Option.ite_none_right_eq_some, beq_iff_eq,
    Option.some.injEq]
  constructor
  · rintro ⟨target, htarget, hkind, rfl⟩
    exact ⟨⟨target, htarget, hkind, rfl, rfl⟩, rfl, rfl⟩
  · rintro ⟨⟨target, htarget, hkind, hname, hline⟩, hstatic, hvisibility⟩
    refine ⟨target, htarget, hkind, ?_⟩
    cases field
    simp_all

lemma instanceField?_eq_some_iff : instanceField? source node = some field ↔
    ∃ owner, SetsAttribute source owner field.name field.line node ∧
      field.isStatic = (owner == "cls") ∧ field.visibility = Naming.visibility field.name := by
  simp only [instanceField?, Option.bind_eq_some_iff, Option.ite_none_right_eq_some,
    Bool.or_eq_true, Bool.and_eq_true, beq_iff_eq, Option.some.injEq]
  constructor
  · rintro ⟨hassigns, target, htarget, ⟨hkind, howner⟩, rfl⟩
    exact ⟨_, ⟨hassigns, howner, target, htarget, hkind, rfl, rfl, rfl⟩, rfl, rfl⟩
  · rintro ⟨owner, ⟨hassigns, howner, target, htarget, hkind, rfl, hname, hline⟩, hstatic, hvis⟩
    refine ⟨hassigns, target, htarget, ⟨hkind, howner⟩, ?_⟩
    cases field
    simp_all

lemma assignmentsOf_eq (member : SyntaxNode) : assignmentsOf member =
    (member :: if member.kind = "expression_statement" then member.namedChildren else []).filter
      (·.kind = "assignment") := by
  rw [assignmentsOf]
  by_cases hassignment : member.kind = "assignment"
  · simp [hassignment]
  · by_cases hstatement : member.kind = "expression_statement"
    · simp only [hstatement, filter_cons]
      rfl
    · simp [hassignment, hstatement]

lemma flatMap_classFieldsAt (source : Source) (node : SyntaxNode) :
    (membersOf node).flatMap (classFieldsAt source) =
      (bodyAssignments node).filterMap (boundField? source) := by
  rw [bodyAssignments, filterMap_flatMap]
  simp only [← assignmentsOf_eq]
  rfl

lemma methodBodies_eq (node : SyntaxNode) :
    methodBodies (membersOf node) = (methodsOf node).filterMap (·.child? "body") := by
  rw [methodBodies, methodsOf, filter_map, filterMap_map, filterMap_filter]
  refine filterMap_congr fun member _ => ?_
  simp only [decoratedDefinition?, beq_iff_eq, Function.comp_apply, decide_eq_true_eq]
  split_ifs <;> simp_all

lemma flatMap_instanceFieldsIn (source : Source) (node : SyntaxNode) :
    (methodBodies (membersOf node)).flatMap (instanceFieldsIn source) =
      (methodNodes node).filterMap (instanceField? source) := by
  have hvisited : ∀ body : SyntaxNode,
      ((occurrencesAmong [] body.children).filter (·.isOutside scopeKinds)).map (·.node) =
        body.descendants scopeKinds := outside_below rfl
  rw [methodNodes, filterMap_flatMap, methodBodies_eq]
  simp only [hvisited]
  rfl

/-! ## The first of each name -/

/-- Going through fields and keeping those with new names gives the first of each name. -/
lemma firstByName_eq (fields : List (FieldOutline String)) :
    firstByName fields = firsts (·.name) fields := by
  induction fields using reverseRecOn with
  | nil => rfl
  | append_singleton fields field ih =>
      have hkeys : (fields.foldl (fun kept field =>
          if kept.any (·.name == field.name) then kept else field :: kept) []).any
            (·.name == field.name) = true ↔ field.name ∈ fields.map (·.name) := by
        rw [← mem_keys_firsts, ← ih, firstByName, map_reverse, mem_reverse]
        simp [any_eq_true, mem_map]
      rw [firsts_concat, ← ih, firstByName, firstByName, foldl_append, foldl_cons, foldl_nil]
      by_cases hmem : field.name ∈ fields.map (·.name)
      · rw [if_pos (hkeys.2 hmem), if_pos hmem, append_nil]
      · rw [if_neg (mt hkeys.1 hmem), if_neg hmem, reverse_cons]

/-! ## Fields -/

/-- The body of a class creates the field: of the assignments in it that bind the name, the first
one stands on the line of the field. -/
def FromBody (source : Source) (node : SyntaxNode) (field : FieldOutline String) : Prop :=
  ∃ before assignment after, bodyAssignments node = before ++ assignment :: after ∧
    BindsName source field.name field.line assignment ∧
    (∀ earlier ∈ before, ∀ line, ¬ BindsName source field.name line earlier) ∧
    field.isStatic = true

/-- The methods of a class create the field: of the assignments in them that set the attribute, the
first one stands on the line of the field and says whose attribute it is. -/
def FromMethods (source : Source) (node : SyntaxNode) (field : FieldOutline String) : Prop :=
  ∃ before assignment after owner, methodNodes node = before ++ assignment :: after ∧
    SetsAttribute source owner field.name field.line assignment ∧
    (∀ earlier ∈ before, ∀ owner line, ¬ SetsAttribute source owner field.name line earlier) ∧
    (field.isStatic = true ↔ owner = "cls")

lemma any_named_iff {found : Option (FieldOutline String)} :
    found.any (·.name = name) = true ↔ ∃ field, found = some field ∧ field.name = name := by
  cases found <;> simp

lemma mem_names_filterMap_iff {f : SyntaxNode → Option (FieldOutline String)}
    {nodes : List SyntaxNode} : name ∈ (nodes.filterMap f).map (·.name) ↔
      ∃ node ∈ nodes, (f node).any (·.name = name) = true := by
  simp only [mem_map, mem_filterMap, any_named_iff]
  constructor
  · rintro ⟨field, ⟨node, hnode, hfield⟩, hname⟩
    exact ⟨node, hnode, field, hfield, hname⟩
  · rintro ⟨node, hnode, field, hfield, hname⟩
    exact ⟨field, ⟨node, hnode, hfield⟩, hname⟩

lemma any_boundField?_iff : (boundField? source assignment).any (·.name = name) = true ↔
    ∃ line, BindsName source name line assignment := by
  rw [any_named_iff]
  constructor
  · rintro ⟨field, hfield, rfl⟩
    exact ⟨field.line, (boundField?_eq_some_iff.1 hfield).1⟩
  · rintro ⟨line, hbinds⟩
    exact ⟨⟨name, line, true, Naming.visibility name⟩,
      boundField?_eq_some_iff.2 ⟨hbinds, rfl, rfl⟩, rfl⟩

lemma any_instanceField?_iff : (instanceField? source node).any (·.name = name) = true ↔
    ∃ owner line, SetsAttribute source owner name line node := by
  rw [any_named_iff]
  constructor
  · rintro ⟨field, hfield, rfl⟩
    obtain ⟨owner, hsets, -⟩ := instanceField?_eq_some_iff.1 hfield
    exact ⟨owner, field.line, hsets⟩
  · rintro ⟨owner, line, hsets⟩
    exact ⟨⟨name, line, owner == "cls", Naming.visibility name⟩,
      instanceField?_eq_some_iff.2 ⟨owner, hsets, rfl, rfl⟩, rfl⟩

/-- A field that is found in the body is created there. -/
lemma find?_bound_iff : ((bodyAssignments node).filterMap (boundField? source)).find?
      (·.name = field.name) = some field ↔
    FromBody source node field ∧ field.visibility = Naming.visibility field.name := by
  rw [find?_filterMap_eq_some_iff (c := field) (decide_eq_true rfl), FromBody]
  simp only [boundField?_eq_some_iff, ← Bool.not_eq_true, any_boundField?_iff, not_exists]
  constructor
  · rintro ⟨before, assignment, after, hsplit, ⟨hbinds, hstatic, hvisibility⟩, hbefore⟩
    exact ⟨⟨before, assignment, after, hsplit, hbinds, hbefore, hstatic⟩, hvisibility⟩
  · rintro ⟨⟨before, assignment, after, hsplit, hbinds, hbefore, hstatic⟩, hvisibility⟩
    exact ⟨before, assignment, after, hsplit, ⟨hbinds, hstatic, hvisibility⟩, hbefore⟩

lemma find?_bound_eq_none_iff : ((bodyAssignments node).filterMap (boundField? source)).find?
      (·.name = name) = none ↔
    ∀ assignment ∈ bodyAssignments node, ∀ line, ¬ BindsName source name line assignment := by
  rw [find?_eq_none]
  constructor
  · intro h assignment hassignment line hbinds
    obtain ⟨created, hcreated, hname⟩ := any_named_iff.1 (any_boundField?_iff.2 ⟨line, hbinds⟩)
    exact h created (mem_filterMap.2 ⟨assignment, hassignment, hcreated⟩) (decide_eq_true hname)
  · intro h created hcreated hname
    obtain ⟨assignment, hassignment, hcreated⟩ := mem_filterMap.1 hcreated
    obtain ⟨line, hbinds⟩ :=
      any_boundField?_iff.1 (any_named_iff.2 ⟨created, hcreated, of_decide_eq_true hname⟩)
    exact h assignment hassignment line hbinds

/-- A field that is found in the methods is created there. -/
lemma find?_created_iff : ((methodNodes node).filterMap (instanceField? source)).find?
      (·.name = field.name) = some field ↔
    FromMethods source node field ∧ field.visibility = Naming.visibility field.name := by
  rw [find?_filterMap_eq_some_iff (c := field) (decide_eq_true rfl), FromMethods]
  simp only [instanceField?_eq_some_iff, ← Bool.not_eq_true, any_instanceField?_iff, not_exists]
  constructor
  · rintro ⟨before, assignment, after, hsplit, ⟨owner, hsets, hstatic, hvisibility⟩, hbefore⟩
    exact ⟨⟨before, assignment, after, owner, hsplit, hsets, hbefore, by simp [hstatic]⟩,
      hvisibility⟩
  · rintro ⟨⟨before, assignment, after, owner, hsplit, hsets, hbefore, hstatic⟩, hvisibility⟩
    refine ⟨before, assignment, after, hsplit, ⟨owner, hsets, ?_, hvisibility⟩, hbefore⟩
    rw [Bool.eq_iff_iff, hstatic, beq_iff_eq]

/-- **What the fields of a class are.** -/
lemma mem_fieldsOf_iff : field ∈ fieldsOf source (membersOf node) ↔
    field.visibility = Naming.visibility field.name ∧
      (FromBody source node field ∨
        (∀ assignment ∈ bodyAssignments node, ∀ line,
          ¬ BindsName source field.name line assignment) ∧ FromMethods source node field) := by
  rw [fieldsOf, mem_mergeSort, firstByName_eq, mem_firsts_iff, flatMap_classFieldsAt,
    flatMap_instanceFieldsIn, find?_append, Option.or_eq_some_iff, find?_bound_iff,
    find?_bound_eq_none_iff, find?_created_iff]
  tauto

/-- **The names of the fields** are those that the body binds and those that the methods set. -/
lemma mem_names_fieldsOf_iff : name ∈ (fieldsOf source (membersOf node)).map (·.name) ↔
    (∃ assignment ∈ bodyAssignments node, ∃ line, BindsName source name line assignment) ∨
      ∃ inner ∈ methodNodes node, ∃ owner line, SetsAttribute source owner name line inner := by
  have hnames : name ∈ (fieldsOf source (membersOf node)).map (·.name) ↔
      name ∈ ((bodyAssignments node).filterMap (boundField? source) ++
        (methodNodes node).filterMap (instanceField? source)).map (·.name) := by
    rw [fieldsOf, ((mergeSort_perm _ _).map _).mem_iff, firstByName_eq, mem_keys_firsts,
      flatMap_classFieldsAt, flatMap_instanceFieldsIn]
  rw [hnames, map_append, mem_append, mem_names_filterMap_iff, mem_names_filterMap_iff]
  simp only [any_boundField?_iff, any_instanceField?_iff]

lemma nodup_names_fieldsOf (source : Source) (members : List SyntaxNode) :
    ((fieldsOf source members).map (·.name)).Nodup := by
  rw [fieldsOf, ((mergeSort_perm _ _).map _).nodup_iff, firstByName_eq]
  exact nodup_keys_firsts _ _

lemma fieldOrder_iff {a b : FieldOutline String} :
    fieldOrder a b = true ↔ a.line < b.line ∨ a.line = b.line ∧ a.name ≤ b.name := by
  rw [fieldOrder]
  split_ifs with hline
  · simp [hline]
  · simp only [decide_eq_true_eq, hline, false_and, or_false]
    omega

/-- **Fields are in the order of their lines**, and on one line in that of their names. -/
lemma pairwise_fieldsOf (source : Source) (members : List SyntaxNode) :
    (fieldsOf source members).Pairwise fun a b =>
      a.line < b.line ∨ a.line = b.line ∧ a.name < b.name := by
  have hsorted : (fieldsOf source members).Pairwise fun a b => fieldOrder a b = true := by
    refine pairwise_mergeSort (fun a b c hab hbc => ?_) (fun a b => ?_) _
    · rw [fieldOrder_iff] at hab hbc ⊢
      rcases hab with hab | ⟨hab, hname⟩ <;> rcases hbc with hbc | ⟨hbc, hname'⟩
      · exact .inl (by omega)
      · exact .inl (by omega)
      · exact .inl (by omega)
      · exact .inr ⟨by omega, String.le_trans hname hname'⟩
    · rw [Bool.or_eq_true, fieldOrder_iff, fieldOrder_iff]
      rcases Int.lt_trichotomy a.line b.line with hline | hline | hline
      · exact .inl (.inl hline)
      · refine (String.le_total a.name b.name).imp ?_ ?_
        · exact fun hname => .inr ⟨hline, hname⟩
        · exact fun hname => .inr ⟨hline.symm, hname⟩
      · exact .inr (.inl hline)
  have hnames := pairwise_map.1 (nodup_names_fieldsOf source members)
  refine hsorted.imp₂ (fun a b horder hne => ?_) hnames
  rcases fieldOrder_iff.1 horder with hline | ⟨hline, hname⟩
  · exact .inl hline
  · refine .inr ⟨hline, String.not_le.1 fun hge => hne ?_⟩
    exact String.le_antisymm hname hge

/-- What the fields of a class are said to be. -/
structure ListsFields (source : Source) (node : SyntaxNode)
    (fields : List (FieldOutline String)) : Prop where
  distinct : (fields.map (·.name)).Nodup
  names : ∀ name, name ∈ fields.map (·.name) ↔
    (∃ assignment ∈ bodyAssignments node, ∃ line, BindsName source name line assignment) ∨
      ∃ inner ∈ methodNodes node, ∃ owner line, SetsAttribute source owner name line inner
  /-- A field that the body creates does not become another one by what methods do. -/
  origin : ∀ field, field ∈ fields ↔ field.visibility = Naming.visibility field.name ∧
    (FromBody source node field ∨
      (∀ assignment ∈ bodyAssignments node, ∀ line,
        ¬ BindsName source field.name line assignment) ∧ FromMethods source node field)
  order : fields.Pairwise fun a b => a.line < b.line ∨ a.line = b.line ∧ a.name < b.name

/-- **The fields of a Python class are the first assignments of each name**, those in its body
before those in its methods. -/
theorem fields_are_first_assignments (source : Source) (framework : String)
    (listed : Option PublicNames) (decorators : List String) (outer node : SyntaxNode) :
    ListsFields source node (classOf source framework listed decorators outer node).1.fields where
  distinct := nodup_names_fieldsOf source (membersOf node)
  names _ := mem_names_fieldsOf_iff
  origin _ := mem_fieldsOf_iff
  order := pairwise_fieldsOf source (membersOf node)

end RepoAtlas.Python
