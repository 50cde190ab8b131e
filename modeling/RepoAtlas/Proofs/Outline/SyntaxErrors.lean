import RepoAtlas.Outline.OfFile
import RepoAtlas.Proofs.Syntax.Preorder
import RepoAtlas.Proofs.Syntax.Ranges

/-!
# The first syntax error of a file

A tree is searched for errors where it has a mark of one, and the rest of it is left aside.  This
is no matter for what is found: where there is no mark there is no error (`hasError_eq_any`), and a
subtree that is marked without an error in it is searched for nothing and passed.  So **the search
finds the first error in document order** (`firstError?_eq_find?`).

A mark alone is enough for a file to have no outline.  Its failure then names the line of the first
error, or the line on which the tree begins.
-/

namespace RepoAtlas

open List

namespace SyntaxNode

/-- A node and all that is below it, in document order. -/
def nodes (node : SyntaxNode) : List SyntaxNode := node :: node.descendants []

lemma nodes_eq (node : SyntaxNode) : node.nodes = node :: node.children.flatMap nodes := by
  rw [nodes, descendants_eq_flatMap]
  rfl

/-- Whether the node itself is an error or marked as one. -/
def isMarked (node : SyntaxNode) : Bool := node.isFlagged || node.isError

mutual

lemma hasError_eq_any : ∀ node : SyntaxNode, node.hasError = node.nodes.any isMarked
  | ⟨kind, isNamed, isMissing, isFlagged, start, stop, field, children⟩ => by
    rw [hasError, anyError_eq_any children, nodes_eq, any_cons, isMarked, isError]
    simp only [Bool.or_assoc]

lemma anyError_eq_any : ∀ children : List SyntaxNode,
    anyError children = (children.flatMap nodes).any isMarked
  | [] => by rw [anyError]; rfl
  | node :: more => by
    rw [anyError, hasError_eq_any node, anyError_eq_any more, flatMap_cons, any_append]

end

/-- A node has an error if it is marked or is one, or if a child has one. -/
lemma hasError_eq (node : SyntaxNode) :
    node.hasError = (node.isFlagged || node.kind == "ERROR" || node.isMissing
      || node.children.any hasError) := by
  have hamong : ∀ children : List SyntaxNode, anyError children = children.any hasError := by
    intro children
    induction children with
    | nil => rfl
    | cons child more ih => rw [anyError, ih, any_cons]
  cases node
  rw [hasError, hamong]

/-- There is no error where there is no mark of one. -/
lemma find?_isError_eq_none {node : SyntaxNode} (h : node.hasError = false) :
    node.nodes.find? isError = none := by
  rw [hasError_eq_any, any_eq_false] at h
  refine find?_eq_none.2 fun inner hinner herror => h inner hinner ?_
  rw [isMarked, herror, Bool.or_true]

lemma firstError?_eq (node : SyntaxNode) :
    node.firstError? = if node.isError then some node else firstErrorAmong? node.children := by
  cases node
  rw [firstError?]

mutual

/-- **The search finds the first error in document order.** -/
lemma firstError?_eq_find? : ∀ node : SyntaxNode, node.firstError? = node.nodes.find? isError
  | ⟨_, _, _, _, _, _, _, children⟩ => by
    have hbelow := firstErrorAmong?_eq_find? children
    rw [firstError?_eq, nodes_eq, find?_cons]
    split_ifs with herror
    · rw [herror]
    · rw [Bool.not_eq_true] at herror
      rw [herror]
      exact hbelow

lemma firstErrorAmong?_eq_find? : ∀ children : List SyntaxNode,
    firstErrorAmong? children = (children.flatMap nodes).find? isError
  | [] => by rw [firstErrorAmong?]; rfl
  | node :: more => by
    rw [firstErrorAmong?, firstError?_eq_find? node, firstErrorAmong?_eq_find? more, flatMap_cons,
      find?_append]
    -- a subtree without a mark is not searched, and there is nothing to be found in it
    cases hmark : node.hasError with
    | false => simp only [find?_isError_eq_none hmark, Bool.false_eq_true, if_false]
    | true => rfl

end

end SyntaxNode

open SyntaxNode

variable {grammar text : String} {source : Source} {root : SyntaxNode}

lemma checkedTree_eq (hgrammar : grammar ∈ supportedGrammars)
    (htext : Text.decode? source.bytes = .ok text) :
    checkedTree grammar source (some root) =
      if root.hasError then .error (errorOf source root) else .ok root := by
  unfold checkedTree
  rw [if_pos (contains_iff_mem.2 hgrammar), htext]

/-- What the failure of a tree says: the kind of the first error, and its line or else the line of
the tree. -/
lemma message_errorOf (source : Source) (root : SyntaxNode) :
    (errorOf source root).message =
      (if root.firstError?.any (·.isMissing) then "missing token" else "syntax error") ++
        " at line " ++ toString (source.lineAt (root.firstError?.getD root).start) := by
  unfold errorOf
  cases root.firstError? with
  | none => rfl
  | some error =>
      simp only [Option.any_some, Option.getD_some]
      split_ifs <;> rfl

/-- **The first error in document order is the one that is reported.**  Of a file with a known
grammar and a source that is text, exactly those trees are refused that have an error or a mark of
one, and the message names the line of the first error, or that of the tree if there is only a
mark. -/
theorem first_errors_are_reported (hgrammar : grammar ∈ supportedGrammars)
    (htext : Text.decode? source.bytes = .ok text) (root : SyntaxNode) :
    (∀ node : SyntaxNode, node.hasError = (node.isFlagged || node.kind == "ERROR" || node.isMissing
      || node.children.any hasError)) ∧
    root.firstError? = root.nodes.find? (fun node => node.kind == "ERROR" || node.isMissing) ∧
    (root.firstError? = none ↔
      ∀ node ∈ root.nodes, node.kind ≠ "ERROR" ∧ node.isMissing = false) ∧
    ((∃ failure, checkedTree grammar source (some root) = .error failure) ↔
      root.hasError = true) ∧
    ∀ failure, checkedTree grammar source (some root) = .error failure →
      failure.message =
        (if root.firstError?.any (·.isMissing) then "missing token" else "syntax error") ++
          " at line " ++ toString (source.lineAt (root.firstError?.getD root).start) := by
  refine ⟨hasError_eq, firstError?_eq_find? root, ?_, ?_, ?_⟩
  · rw [firstError?_eq_find?, find?_eq_none]
    simp [isError]
  · rw [checkedTree_eq hgrammar htext]
    split_ifs with hmark <;> simp [hmark]
  · intro failure hfails
    rw [checkedTree_eq hgrammar htext] at hfails
    split_ifs at hfails
    obtain rfl := Except.error.inj hfails
    exact message_errorOf source root

/-- The tree of
```
f
(
```
with a mark at the name, in which there is no error, and a parenthesis that is missing. -/
def unclosedCall : SyntaxNode :=
  .construct "module" none 0 4
    [⟨"identifier", true, false, true, 0, 1, none, []⟩,
      .construct "argument_list" none 2 3
        [⟨"(", false, false, false, 2, 3, none, []⟩, ⟨")", false, true, false, 3, 3, none, []⟩]]

theorem unclosed_call_is_reported :
    ("python" ∈ supportedGrammars ∧ Text.decode? (Text.encode "f\n(\n") = .ok "f\n(\n") ∧
    ∃ failure, checkedTree "python" ⟨Text.encode "f\n(\n"⟩ (some unclosedCall) = .error failure ∧
      failure.message = "missing token at line 2" := by
  have hgrammar : "python" ∈ supportedGrammars := by decide
  have htext : Text.decode? (Text.encode "f\n(\n") = .ok "f\n(\n" := by decide +kernel
  obtain ⟨-, -, -, hfails, hmessage⟩ :=
    @first_errors_are_reported _ _ ⟨Text.encode "f\n(\n"⟩ hgrammar htext unclosedCall
  obtain ⟨failure, hfailure⟩ := hfails.2 (by decide +kernel)
  refine ⟨⟨hgrammar, htext⟩, failure, hfailure, ?_⟩
  rw [hmessage failure hfailure]
  decide +kernel

end RepoAtlas
