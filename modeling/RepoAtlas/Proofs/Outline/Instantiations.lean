import RepoAtlas.Outline.JavaScript
import RepoAtlas.Proofs.Syntax.Preorder
import RepoAtlas.Proofs.Syntax.Ranges

/-!
# What JavaScript functions instantiate

A function is said to instantiate the classes whose names stand behind `new` in its body, as far as
they are not in a function or class of their own.  They are looked for below the body: the body
itself is neither looked at nor asked whether it is such a scope.  For a block this makes no
difference.  An arrow function may have an expression for its body, though, and then
`() => new User()` instantiates nothing, while `() => () => new User()` instantiates what only the
inner function does.  Also, some kinds of scopes are not known as such (`overlookedScopes`).

`instantiates_what_is_below_the_body` says both: what is recorded for any body, and that it is the
right thing if neither the body nor an overlooked scope gets in the way.
-/

namespace RepoAtlas.JavaScript

open List SyntaxNode

/-- Functions and classes that are entered like any other node: generator expressions, methods of
objects, and abstract classes. -/
def overlookedScopes : List String :=
  ["generator_function", "method_definition", "abstract_class_declaration"]

/-- All functions and classes that may be nested in a function. -/
def nestedScopes : List String := scopeKinds ++ overlookedScopes

/-- The names behind `new` among some nodes, qualifiers left out. -/
def constructedNames (source : Source) (nodes : List SyntaxNode) : List String :=
  let callees := (nodes.filter (·.kind == "new_expression")).filterMap (·.child? "constructor")
  (callees.filter fun callee =>
    callee.kind == "identifier" || callee.kind == "member_expression").map fun callee =>
      Naming.lastPart (source.textOf callee)

variable {source : Source}

lemma filterMap_instantiated? (nodes : List SyntaxNode) :
    nodes.filterMap (instantiated? source) = constructedNames source nodes := by
  simp only [constructedNames, filterMap_filter, filter_filterMap, map_filterMap]
  refine filterMap_congr fun node _ => ?_
  unfold instantiated?
  split_ifs
  · cases node.child? "constructor" with
    | none => rfl
    | some callee => rw [Option.bind_some, Option.filter_some, apply_ite (Option.map _)]; rfl
  · rfl

lemma constructedNames_cons {node : SyntaxNode} (h : node.kind ≠ "new_expression")
    (rest : List SyntaxNode) :
    constructedNames source (node :: rest) = constructedNames source rest := by
  rw [constructedNames, filter_cons_of_neg (by simpa using h), ← constructedNames]

/-- The names constructed at some places outside scopes of the given kinds. -/
def constructedOutside (source : Source) (scopes : List String) (places : List Occurrence) :
    List String :=
  constructedNames source ((places.filter (·.isOutside scopes)).map (·.node))

/-- Scopes that are overlooked make no difference if nothing is constructed in them. -/
lemma constructedOutside_eq {places : List Occurrence}
    (h : ∀ place ∈ places, place.node.kind = "new_expression" →
      place.isOutside overlookedScopes = true) :
    constructedOutside source nestedScopes places =
      constructedOutside source scopeKinds places := by
  have hsame :
      ((places.filter (·.isOutside nestedScopes)).map (·.node)).filter
        (·.kind == "new_expression") =
      ((places.filter (·.isOutside scopeKinds)).map (·.node)).filter
        (·.kind == "new_expression") := by
    rw [filter_map, filter_map, filter_filter, filter_filter]
    refine congrArg (map _) (filter_congr fun place hplace => ?_)
    cases hnew : place.node.kind == "new_expression" with
    | false => simp [hnew]
    | true =>
        rw [nestedScopes, Occurrence.isOutside_append, h place hplace (eq_of_beq hnew),
          Bool.and_true]
  simp only [constructedOutside, constructedNames, hsame]

/-- What is below the body, and outside the scopes that are known there, is recorded. -/
lemma instantiates_callableOf (known : CallableContext) {node body : SyntaxNode}
    (hbody : node.child? "body" = some body) {above : List SyntaxNode}
    (habove : above.all (fun outer => !scopeKinds.contains outer.kind) = true) :
    (callableOf source known node).instantiates =
      Naming.distinct (constructedOutside source scopeKinds
        (occurrencesAmong above body.children)) := by
  rw [constructedOutside, outside_below habove, ← filterMap_instantiated?]
  simp only [callableOf, hbody, instantiationsIn]

/-- **What functions instantiate.**  Recorded are the names behind `new` below the body, outside the
scopes that are known there, each once.  These are the names in the whole body and outside all
nested scopes, if the body neither constructs something itself nor is a scope, and if nothing is
constructed in a scope that is overlooked. -/
theorem instantiates_what_is_below_the_body (source : Source) (known : CallableContext)
    {node body : SyntaxNode} (hbody : node.child? "body" = some body) :
    (callableOf source known node).instantiates =
        Naming.distinct (constructedOutside source scopeKinds
          (occurrencesAmong [] body.children)) ∧
      (body.kind ∉ "new_expression" :: nestedScopes →
        (∀ place ∈ occurrences [] body, place.node.kind = "new_expression" →
          place.isOutside overlookedScopes = true) →
        (callableOf source known node).instantiates =
          Naming.distinct (constructedOutside source nestedScopes (occurrences [] body))) := by
  refine ⟨instantiates_callableOf known hbody rfl, fun hkind hoverlooked => ?_⟩
  obtain ⟨hnew, hscope⟩ := not_or.1 (mem_cons.not.1 hkind)
  have hknown : scopeKinds.contains body.kind = false := by
    simpa using fun hmem => hscope (mem_append_left _ hmem)
  have hbodyOutside : [body].all (fun outer => !scopeKinds.contains outer.kind) = true := by
    rw [all_cons, hknown]
    rfl
  have hhere : Occurrence.isOutside scopeKinds ⟨[], body⟩ = true := rfl
  have hitself : constructedOutside source scopeKinds (occurrences [] body) =
      constructedOutside source scopeKinds (occurrencesAmong [body] body.children) := by
    rw [constructedOutside, occurrences_eq, filter_cons_of_pos hhere, map_cons,
      constructedNames_cons hnew, ← constructedOutside]
  rw [constructedOutside_eq hoverlooked, hitself, instantiates_callableOf known hbody hbodyOutside]

/-- The arrow function in
```
() => { new a.B; () => new C; new B }
```
-/
def nestedConstructions : SyntaxNode :=
  .construct "arrow_function" none 0 37
    [.construct "formal_parameters" (some "parameters") 0 2 [],
      .construct "statement_block" (some "body") 6 37
        [.construct "expression_statement" none 8 16
          [.construct "new_expression" none 8 15
            [.construct "member_expression" (some "constructor") 12 15 []]],
          .construct "expression_statement" none 17 29
            [.construct "arrow_function" none 17 28
              [.construct "formal_parameters" (some "parameters") 17 19 [],
                .construct "new_expression" (some "body") 23 28
                  [.construct "identifier" (some "constructor") 27 28 []]]],
          .construct "expression_statement" none 30 35
            [.construct "new_expression" none 30 35
              [.construct "identifier" (some "constructor") 34 35 []]]]]

def nestedSource : Source := ⟨Text.encode "() => \x7b new a.B; () => new C; new B \x7d"⟩

theorem nestedConstructions_instantiate_once : ∃ body,
    nestedConstructions.child? "body" = some body ∧ body.kind ∉ "new_expression" :: nestedScopes ∧
      (callableOf nestedSource ⟨"f", nestedConstructions, false, [], false, "public"⟩
        nestedConstructions).instantiates =
          Naming.distinct (constructedOutside nestedSource nestedScopes (occurrences [] body)) ∧
      Naming.distinct (constructedOutside nestedSource nestedScopes (occurrences [] body)) =
        ["B"] := by
  refine ⟨_, rfl, by decide, ?_, by decide +kernel⟩
  exact (instantiates_what_is_below_the_body _ _ rfl).2 (by decide) (by decide +kernel)

/-- The arrow function in
```
() => new User()
```
-/
def userFactory : SyntaxNode :=
  .construct "arrow_function" none 0 16
    [.construct "formal_parameters" (some "parameters") 0 2 [],
      .construct "new_expression" (some "body") 6 16
        [.construct "identifier" (some "constructor") 10 14 [],
          .construct "arguments" (some "arguments") 14 16 []]]

/-- What the body itself constructs is not recorded. -/
theorem userFactory_instantiates_nothing :
    ¬ ∀ (source : Source) (known : CallableContext) (node body : SyntaxNode),
      node.child? "body" = some body →
        (callableOf source known node).instantiates =
          Naming.distinct (constructedOutside source nestedScopes (occurrences [] body)) := by
  intro h
  have hrecorded := h ⟨Text.encode "() => new User()"⟩
    ⟨"f", userFactory, false, [], false, "public"⟩ userFactory _ rfl
  exact absurd hrecorded (by decide +kernel)

end RepoAtlas.JavaScript
