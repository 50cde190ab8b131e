import RepoAtlas.Data.Total
import RepoAtlas.Syntax.Source

/-!
# Syntax trees

A tree has nodes of a kind named by the grammar. A node covers a range of source bytes, is *named*
when it stands for a construct and not for punctuation, is *missing* when the parser supplied a
token that is not in the source, and may have a field name that says what it is to its parent.

`preorder` is the one traversal of the library. It keeps the list of what is still to be visited and
takes the children of each visited node to the front of that list; `preorder_append` is what makes
it the recursive preorder.
-/

namespace RepoAtlas

/-- A node of a syntax tree with all that is below it. -/
structure SyntaxNode where
  kind : String
  isNamed : Bool
  isMissing : Bool
  /-- Whether the parser marked the node as erroneous, whatever is below it. -/
  isFlagged : Bool
  start : Nat
  stop : Nat
  field : Option String
  children : List SyntaxNode
deriving Repr, Inhabited

namespace SyntaxNode

/-! ## Children -/

def namedChildren (node : SyntaxNode) : List SyntaxNode := node.children.filter (·.isNamed)

def child? (node : SyntaxNode) (field : String) : Option SyntaxNode :=
  node.children.find? (·.field == some field)

def childrenNamed (node : SyntaxNode) (field : String) : List SyntaxNode :=
  node.children.filter (·.field == some field)

def hasChild (node : SyntaxNode) (kind : String) : Bool := node.children.any (·.kind == kind)

def firstNamed? (node : SyntaxNode) (kind : String) : Option SyntaxNode :=
  node.namedChildren.find? (·.kind == kind)

def isComment (node : SyntaxNode) : Bool := node.kind == "comment"

/-! ## Size -/

mutual

def size : SyntaxNode → Nat
  | ⟨_, _, _, _, _, _, _, children⟩ => 1 + sizeAll children

def sizeAll : List SyntaxNode → Nat
  | [] => 0
  | node :: more => node.size + sizeAll more

end

theorem size_eq (node : SyntaxNode) : node.size = 1 + sizeAll node.children := by
  cases node; simp [size]

theorem sizeAll_filter_le (keep : SyntaxNode → Bool) :
    ∀ nodes : List SyntaxNode, sizeAll (nodes.filter keep) ≤ sizeAll nodes
  | [] => Nat.le_refl _
  | node :: more => by
    have := sizeAll_filter_le keep more
    cases h : keep node <;> simp [h, sizeAll] <;> omega

/-! ## The traversal -/

/-- A node together with the node it is a child of. -/
structure Link where
  parent : SyntaxNode
  node : SyntaxNode

def linksBelow (follow : SyntaxNode → SyntaxNode → Bool) (node : SyntaxNode) : List Link :=
  (node.children.filter (follow node)).map (⟨node, ·⟩)

def pendingSize (links : List Link) : Nat := total (links.map (·.node.size))

theorem pendingSize_linksBelow (follow : SyntaxNode → SyntaxNode → Bool) (node : SyntaxNode) :
    pendingSize (linksBelow follow node) < node.size := by
  have all : ∀ nodes : List SyntaxNode, total (nodes.map size) = sizeAll nodes := by
    intro nodes
    induction nodes with
    | nil => rfl
    | cons head tail ih => simp [sizeAll, ih]
  have := sizeAll_filter_le (follow node) node.children
  simp only [pendingSize, linksBelow, List.map_map, Function.comp_def, all, size_eq node]
  omega

/-- Visits the pending links in order, each directly followed by the children that `follow` admits
and by what is below those. -/
def preorder (follow : SyntaxNode → SyntaxNode → Bool) : List Link → List Link
  | [] => []
  | link :: pending => link :: preorder follow (linksBelow follow link.node ++ pending)
termination_by links => pendingSize links
decreasing_by
  have := pendingSize_linksBelow follow link.node
  simp only [pendingSize, List.map_append, total_append, List.map_cons, total_cons] at *
  omega

/-- The traversal of a list is the traversals of its parts one after the other. -/
theorem preorder_append (follow : SyntaxNode → SyntaxNode → Bool) (first second : List Link) :
    preorder follow (first ++ second) = preorder follow first ++ preorder follow second := by
  fun_induction preorder follow first with
  | case1 => rfl
  | case2 link pending ih => rw [List.cons_append, preorder, ← List.append_assoc, ih]; rfl

/-- All links below a node, not going below nodes of the `stops` kinds. -/
def linksWithin (stops : List String) (node : SyntaxNode) : List Link :=
  preorder (fun parent _ => !stops.contains parent.kind) (node.children.map (⟨node, ·⟩))

/-- All nodes below a node in document order, not going below nodes of the `stops` kinds. -/
def descendants (stops : List String) (node : SyntaxNode) : List SyntaxNode :=
  (linksWithin stops node).map (·.node)

/-! ## Errors -/

/-- Whether a node is itself an error: unparsable text or a missing token. -/
def isError (node : SyntaxNode) : Bool := node.kind == "ERROR" || node.isMissing

mutual

/-- Whether there is an error in the tree, or a mark of one. -/
def hasError : SyntaxNode → Bool
  | ⟨kind, _, isMissing, isFlagged, _, _, _, children⟩ =>
    isFlagged || kind == "ERROR" || isMissing || anyError children

def anyError : List SyntaxNode → Bool
  | [] => false
  | node :: more => node.hasError || anyError more

end

mutual

/-- The first error of a tree in document order, looked for where there is a mark of one. How deep
an interpreter lets a search go is left out: this one goes to the bottom of any tree. -/
def firstError? : SyntaxNode → Option SyntaxNode
  | node@⟨_, _, _, _, _, _, _, children⟩ =>
    if node.isError then some node else firstErrorAmong? children

def firstErrorAmong? : List SyntaxNode → Option SyntaxNode
  | [] => none
  | node :: more =>
    let inside := if node.hasError then node.firstError? else none
    inside.or (firstErrorAmong? more)

end

end SyntaxNode

end RepoAtlas
