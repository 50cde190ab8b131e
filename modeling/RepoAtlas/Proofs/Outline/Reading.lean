import RepoAtlas.Outline.Reading
import RepoAtlas.Proofs.Syntax.Comments

/-!
# Reading nodes without comments

What both language families read off a node is the same when comments are missing below it, wherever
they are.  Texts and lines are read off the range of the node, which stays as it is, and all the
rest is about children of other kinds.
-/

namespace RepoAtlas.Source

open List SyntaxNode

variable {may : Place → Prop} {source : Source} {above : List SyntaxNode}

section Node

variable {node node' : SyntaxNode} (h : WithoutComments may above node node')

include h

lemma textOf_eq : source.textOf node' = source.textOf node := by
  rw [textOf, h.start, h.stop, ← textOf]

lemma compactTextOf_eq : source.compactTextOf node' = source.compactTextOf node := by
  rw [compactTextOf, textOf_eq h, ← compactTextOf]

lemma startLineOf_eq : source.startLineOf node' = source.startLineOf node := by
  rw [startLineOf, h.start, ← startLineOf]

lemma spanOf_eq : source.spanOf node' = source.spanOf node := by
  rw [spanOf, h.start, h.stop, ← spanOf]

lemma decoratorText_eq : source.decoratorText node' = source.decoratorText node := by
  rw [decoratorText, compactTextOf_eq h, ← decoratorText]

/-- Decorators are all there. -/
lemma decorators : Thinned (WithoutComments may (node :: above)) (fun _ _ _ => False) []
    (node.children.filter (·.kind == "decorator"))
    (node'.children.filter (·.kind == "decorator")) :=
  h.children.filter_kept (fun hchild => by rw [hchild.kind]) fun hgone => by rw [hgone.kind]; rfl

lemma decoratorsOf_eq : source.decoratorsOf node' = source.decoratorsOf node :=
  (decorators h).map_eq decoratorText_eq not_false

lemma stringValue?_eq : source.stringValue? node' = source.stringValue? node := by
  simp only [stringValue?, h.kind, textOf_eq h,
    h.hasChild "template_substitution" (by decide), h.hasChild "interpolation" (by decide)]

end Node

/-- A comment is no string. -/
lemma stringValue?_of_comment {comment : SyntaxNode} (h : comment.kind = "comment") :
    source.stringValue? comment = none := by
  rw [stringValue?, h]
  rfl

section Parts

variable {part? part?' : Option SyntaxNode}
  (h : Option.Rel (WithoutComments may above) part? part?')

include h

lemma textOf?_eq : source.textOf? part?' = source.textOf? part? := by
  rw [textOf?, map_eq_of_rel h textOf_eq, ← textOf?]

lemma compactTextOf?_eq : source.compactTextOf? part?' = source.compactTextOf? part? := by
  rw [compactTextOf?, map_eq_of_rel h compactTextOf_eq, ← compactTextOf?]

end Parts

end RepoAtlas.Source
