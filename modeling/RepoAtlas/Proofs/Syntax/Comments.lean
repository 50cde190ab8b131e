import RepoAtlas.Proofs.Data.Thinned
import RepoAtlas.Syntax.Tree

/-!
# Trees without some of their comments

A parser puts a comment into the tree wherever one is written: it is a child like any other, of kind
`comment` and with nothing below it.  `WithoutComments may` relates a tree to one that is the same
but for such nodes; `may` says of each place whether a comment may be missing there.

Nothing else about a node changes, so what is read off kinds, ranges and children with a field is
the same for both trees (`WithoutComments.child?`, `WithoutComments.firstNamed?`), and a traversal
meets the same nodes in the same order, but for the comments (`WithoutComments.linksWithin`).
-/

namespace RepoAtlas.SyntaxNode

open List

lemma field_of_child? {node child : SyntaxNode} {field : String}
    (h : node.child? field = some child) : child.field = some field :=
  eq_of_beq (find?_some (p := fun child : SyntaxNode => child.field == some field) h)

lemma kind_of_firstNamed? {node child : SyntaxNode} {kind : String}
    (h : node.firstNamed? kind = some child) : child.kind = kind :=
  eq_of_beq (find?_some (p := fun child : SyntaxNode => child.kind == kind) h)

/-- A node at its place in a tree. -/
structure Place where
  /-- What its parent is below, innermost first. -/
  above : List SyntaxNode
  parent : SyntaxNode
  /-- The children of the parent that stand before the node. -/
  before : List SyntaxNode
  node : SyntaxNode
  after : List SyntaxNode

namespace Place

def namedBefore (place : Place) : List SyntaxNode := place.before.filter (·.isNamed)

def namedAfter (place : Place) : List SyntaxNode := place.after.filter (·.isNamed)

end Place

mutual

/-- The second tree is the first without some comments, each at a place where it may be missing. -/
inductive WithoutComments (may : Place → Prop) : List SyntaxNode → SyntaxNode → SyntaxNode → Prop
  | intro {above : List SyntaxNode} {node : SyntaxNode} {children : List SyntaxNode}
      (h : AllWithoutComments may above node [] node.children children) :
      WithoutComments may above node { node with children }

/-- The same for the children of a node that stand behind the given ones. -/
inductive AllWithoutComments (may : Place → Prop) :
    List SyntaxNode → SyntaxNode → List SyntaxNode → List SyntaxNode → List SyntaxNode → Prop
  | nil {above : List SyntaxNode} {parent : SyntaxNode} {before : List SyntaxNode} :
      AllWithoutComments may above parent before [] []
  | keep {above : List SyntaxNode} {parent : SyntaxNode} {before rest rest' : List SyntaxNode}
      {child child' : SyntaxNode} (h : WithoutComments may (parent :: above) child child')
      (hrest : AllWithoutComments may above parent (before ++ [child]) rest rest') :
      AllWithoutComments may above parent before (child :: rest) (child' :: rest')
  | drop {above : List SyntaxNode} {parent : SyntaxNode} {before rest rest' : List SyntaxNode}
      {comment : SyntaxNode} (hkind : comment.kind = "comment") (hleaf : comment.children = [])
      (hmay : may ⟨above, parent, before, comment, rest⟩)
      (hrest : AllWithoutComments may above parent (before ++ [comment]) rest rest') :
      AllWithoutComments may above parent before (comment :: rest) rest'

end

/-- A comment with nothing below it that may be missing among the children of a node. -/
structure Gone (may : Place → Prop) (above : List SyntaxNode) (parent : SyntaxNode)
    (before : List SyntaxNode) (node : SyntaxNode) (after : List SyntaxNode) : Prop where
  kind : node.kind = "comment"
  leaf : node.children = []
  may : may ⟨above, parent, before, node, after⟩

/-- A comment that may be missing among the named children of a node. -/
structure GoneNamed (may : Place → Prop) (above : List SyntaxNode) (parent : SyntaxNode)
    (before : List SyntaxNode) (node : SyntaxNode) (after : List SyntaxNode) : Prop where
  kind : node.kind = "comment"
  may : ∃ place : Place, may place ∧ place.above = above ∧ place.parent = parent ∧
    place.namedBefore = before ∧ place.namedAfter = after

lemma AllWithoutComments.thinned {may : Place → Prop} {above : List SyntaxNode}
    {parent : SyntaxNode} {before rest rest' : List SyntaxNode} :
    AllWithoutComments may above parent before rest rest' →
      Thinned (WithoutComments may (parent :: above)) (Gone may above parent) before rest rest'
  | .nil => .nil
  | .keep h hrest => .keep h hrest.thinned
  | .drop hkind hleaf hmay hrest => .drop ⟨hkind, hleaf, hmay⟩ hrest.thinned

mutual

/-- No comment has to be missing. -/
lemma WithoutComments.refl (may : Place → Prop) (above : List SyntaxNode) :
    ∀ node : SyntaxNode, WithoutComments may above node node
  | ⟨_, _, _, _, _, _, _, children⟩ => .intro (AllWithoutComments.refl may above _ [] children)

lemma AllWithoutComments.refl (may : Place → Prop) (above : List SyntaxNode) (parent : SyntaxNode)
    (before : List SyntaxNode) :
    ∀ nodes : List SyntaxNode, AllWithoutComments may above parent before nodes nodes
  | [] => .nil
  | node :: more =>
    .keep (WithoutComments.refl may (parent :: above) node)
      (AllWithoutComments.refl may above parent (before ++ [node]) more)

end

namespace WithoutComments

variable {may : Place → Prop} {above : List SyntaxNode} {node node' : SyntaxNode}

section Node

variable (h : WithoutComments may above node node')

include h

/-! ## The node itself -/

lemma kind : node'.kind = node.kind := by
  cases h
  rfl

lemma isNamed : node'.isNamed = node.isNamed := by
  cases h
  rfl

lemma start : node'.start = node.start := by
  cases h
  rfl

lemma stop : node'.stop = node.stop := by
  cases h
  rfl

lemma field : node'.field = node.field := by
  cases h
  rfl

/-! ## Children -/

lemma children : Thinned (WithoutComments may (node :: above)) (Gone may above node)
    [] node.children node'.children := by
  obtain ⟨hchildren⟩ := h
  exact hchildren.thinned

lemma namedChildren : Thinned (WithoutComments may (node :: above)) (GoneNamed may above node)
    [] node.namedChildren node'.namedChildren :=
  h.children.filter (fun hchild => hchild.isNamed) fun hgone _ =>
    ⟨hgone.kind, _, hgone.may, rfl, rfl, rfl, rfl⟩

lemma hasChild (kind : String) (hkind : kind ≠ "comment") :
    node'.hasChild kind = node.hasChild kind := by
  refine h.children.any_eq (fun hchild => ?_) fun hgone => ?_
  · rw [hchild.kind]
  · exact beq_eq_false_iff_ne.2 fun heq => hkind (heq.symm.trans hgone.kind)

/-- A comment without a field is not what is found under one. -/
lemma child? (hmay : ∀ place, may place → place.node.field = none) (field : String) :
    Option.Rel (WithoutComments may (node :: above)) (node.child? field) (node'.child? field) := by
  refine h.children.find? (fun hchild => ?_) fun hgone => ?_
  · rw [hchild.field]
  · rw [hmay _ hgone.may]
    rfl

lemma firstNamed? (kind : String) (hkind : kind ≠ "comment") :
    Option.Rel (WithoutComments may (node :: above)) (node.firstNamed? kind)
      (node'.firstNamed? kind) := by
  refine h.namedChildren.find? (fun hchild => ?_) fun hgone => ?_
  · rw [hchild.kind]
  · exact beq_eq_false_iff_ne.2 fun heq => hkind (heq.symm.trans hgone.kind)

lemma childrenNamed (hmay : ∀ place, may place → place.node.field = none) (field : String) :
    Thinned (WithoutComments may (node :: above)) (fun _ _ _ => False) []
      (node.childrenNamed field) (node'.childrenNamed field) := by
  refine h.children.filter_kept (fun hchild => ?_) fun hgone => ?_
  · rw [hchild.field]
  · rw [hmay _ hgone.may]
    rfl

lemma namedBesidesComments :
    Thinned (WithoutComments may (node :: above)) (fun _ _ _ => False) []
      (node.namedChildren.filter (!·.isComment)) (node'.namedChildren.filter (!·.isComment)) := by
  refine h.namedChildren.filter_kept (fun hchild => ?_) fun hgone => ?_
  · rw [isComment, isComment, hchild.kind]
  · rw [isComment, hgone.kind]
    rfl

/-- Named children of another kind are all there. -/
lemma namedOfKind (kind : String) (hkind : kind ≠ "comment") :
    Thinned (WithoutComments may (node :: above)) (fun _ _ _ => False) []
      (node.namedChildren.filter (·.kind == kind))
      (node'.namedChildren.filter (·.kind == kind)) := by
  refine h.namedChildren.filter_kept (fun hchild => ?_) fun hgone => ?_
  · rw [hchild.kind]
  · exact beq_eq_false_iff_ne.2 fun heq => hkind (heq.symm.trans hgone.kind)

end Node

/-- The named children of a part that there may be. -/
lemma namedChildren?_rel {part? part?' : Option SyntaxNode}
    (h : Option.Rel (WithoutComments may above) part? part?') :
    Thinned (fun node node' => ∃ above, WithoutComments may above node node')
      (fun _ node _ => node.kind = "comment") [] ((part?.map (·.namedChildren)).getD [])
      ((part?'.map (·.namedChildren)).getD []) := by
  cases h with
  | none => exact .nil
  | some hpart => exact hpart.namedChildren.imp (fun hchild => ⟨_, hchild⟩) (·.kind)

/-! ## The traversal -/

/-- A link of the second tree stands for one of the first: the same nodes, without comments. -/
structure OfLink (may : Place → Prop) (link link' : Link) : Prop where
  parent : ∃ above, WithoutComments may above link.parent link'.parent
  node : ∃ above, WithoutComments may above link.node link'.node

/-- A link to a comment that has nothing below it. -/
structure IsCommentLink (link : Link) : Prop where
  kind : link.node.kind = "comment"
  leaf : link.node.children = []

/-- Which children are followed depends on what two trees have in common. -/
def FollowsAlike (may : Place → Prop) (follow : SyntaxNode → SyntaxNode → Bool) : Prop :=
  ∀ {above parent parent' child child'}, WithoutComments may above parent parent' →
    WithoutComments may (parent :: above) child child' → follow parent' child' = follow parent child

variable {follow : SyntaxNode → SyntaxNode → Bool}

lemma linksBelow (h : WithoutComments may above node node') (hfollow : FollowsAlike may follow)
    (before : List Link) :
    Thinned (OfLink may) (fun _ link _ => IsCommentLink link) before
      (SyntaxNode.linksBelow follow node) (SyntaxNode.linksBelow follow node') := by
  have hfollowed : Thinned (WithoutComments may (node :: above))
      (fun _ child _ => IsCommentLink ⟨node, child⟩) [] (node.children.filter (follow node))
      (node'.children.filter (follow node')) :=
    h.children.filter (hfollow h) fun hgone _ => ⟨hgone.kind, hgone.leaf⟩
  exact hfollowed.map (fun hchild => ⟨⟨_, h⟩, ⟨_, hchild⟩⟩) (fun hgone _ _ => hgone) before

lemma namedLinks (h : WithoutComments may above node node') :
    Thinned (OfLink may) (fun _ link _ => IsCommentLink link) []
      (node.namedChildren.map (Link.mk node)) (node'.namedChildren.map (Link.mk node')) :=
  have hnamed : FollowsAlike may fun _ child => child.isNamed := fun _ hchild => hchild.isNamed
  h.linksBelow hnamed []

/-- **The traversal passes over comments**, as far as it goes in both trees.  Nothing is below a
comment. -/
lemma preorder (hfollow : FollowsAlike may follow) {before links links' : List Link}
    (h : Thinned (OfLink may) (fun _ link _ => IsCommentLink link) before links links') :
    Thinned (OfLink may) (fun _ link _ => IsCommentLink link) before
      (SyntaxNode.preorder follow links) (SyntaxNode.preorder follow links') := by
  fun_induction SyntaxNode.preorder follow links generalizing before links' with
  | case1 =>
      cases h
      rw [SyntaxNode.preorder]
      exact .nil
  | case2 link pending ih =>
      cases h with
      | @keep _ _ pending' _ link' hlink hpending =>
          rw [SyntaxNode.preorder]
          refine .keep hlink (ih ?_)
          obtain ⟨above, hnode⟩ := hlink.node
          refine (hnode.linksBelow hfollow _).append (fun _ => ?_) fun hgone _ => hgone
          exact hpending.anywhere (fun hgone _ _ => hgone) _
      | drop hgone hpending =>
          have hbelow : SyntaxNode.linksBelow follow link.node = [] := by
            rw [SyntaxNode.linksBelow, hgone.leaf]
            rfl
          refine .drop hgone (ih ?_)
          rwa [hbelow, nil_append]

/-- How far this traversal goes depends on kinds only. -/
lemma linksWithin (h : WithoutComments may above node node') (stops : List String) :
    Thinned (OfLink may) (fun _ link _ => IsCommentLink link) [] (node.linksWithin stops)
      (node'.linksWithin stops) := by
  refine preorder (fun hparent _ => by rw [hparent.kind]) ?_
  exact h.children.map (fun hchild => ⟨⟨_, h⟩, ⟨_, hchild⟩⟩)
    (fun hgone _ _ => ⟨hgone.kind, hgone.leaf⟩) []

lemma descendants (h : WithoutComments may above node node') (stops : List String) :
    Thinned (fun node node' => ∃ above, WithoutComments may above node node')
      (fun _ node _ => node.kind = "comment") [] (node.descendants stops)
      (node'.descendants stops) :=
  (h.linksWithin stops).map (fun hlink => hlink.node) (fun hgone _ _ => hgone.kind) []

end WithoutComments

end RepoAtlas.SyntaxNode
