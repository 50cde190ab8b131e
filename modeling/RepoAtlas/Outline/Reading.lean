import RepoAtlas.Outline.Basic
import RepoAtlas.Syntax.Tree
import RepoAtlas.Text.Blank
import RepoAtlas.Text.Split
import RepoAtlas.Text.Word

/-!
# Reading nodes

What both language families read off a node in the same way: its text, its lines, the contents of a
string literal, and the names that decorators and type annotations write over several lines.
-/

namespace RepoAtlas

open Text

/-! ## Texts and lines of nodes -/

namespace Source

def textOf (source : Source) (node : SyntaxNode) : String :=
  source.textBetween node.start node.stop

/-- The text of a node, empty if there is none. -/
def textOf? (source : Source) (node : Option SyntaxNode) : String :=
  (node.map source.textOf).getD ""

def compactTextOf (source : Source) (node : SyntaxNode) : String := compact (source.textOf node)

/-- The text of a node on one line, empty if there is none. -/
def compactTextOf? (source : Source) (node : Option SyntaxNode) : String :=
  (node.map source.compactTextOf).getD ""

def startLineOf (source : Source) (node : SyntaxNode) : Int := source.lineAt node.start

def spanOf (source : Source) (node : SyntaxNode) : Span :=
  ⟨source.lineAt node.start, source.lineAt node.stop⟩

def decoratorText (source : Source) (node : SyntaxNode) : String :=
  trim (dropLeading '@' (source.compactTextOf node))

def decoratorsOf (source : Source) (node : SyntaxNode) : List String :=
  (node.children.filter (·.kind == "decorator")).map source.decoratorText

end Source

/-! ## String literals -/

namespace Literal

def isPrefixLetter (c : Char) : Bool := "rRbBuUfF".toList.contains c

/-- The text without the prefix letters, of which there are at most two. -/
def dropPrefixLetters (cs : List Char) : List Char :=
  cs.drop (min 2 (cs.takeWhile isPrefixLetter).length)

/-- What stands before `quote` at the end of a text; one line feed may follow it. -/
def beforeClosing? (quote cs : List Char) : Option (List Char) :=
  if quote.isSuffixOf cs then some (cs.take (cs.length - quote.length))
  else
    match cs.getLast? with
    | some '\n' =>
      if quote.isSuffixOf cs.dropLast then some (cs.take (cs.length - 1 - quote.length)) else none
    | _ => none

def between? (quote cs : List Char) : Option (List Char) :=
  (restAfter? quote cs).bind (beforeClosing? quote)

/-- The quotes that enclose string literals, those of three characters first. -/
def quotes : List (List Char) := ["\"\"\"", "'''", "\"", "'", "\x60"].map String.toList

/-- The contents of a string literal: what stands between its quotes, escapes and all. -/
def contents? (text : String) : Option String :=
  (quotes.findSome? fun quote => between? quote (dropPrefixLetters text.toList)).map String.ofList

end Literal

namespace Source

/-- The contents of a node that is a string literal without inserted expressions. -/
def stringValue? (source : Source) (node : SyntaxNode) : Option String :=
  if node.kind == "string" || node.kind == "template_string" then
    if node.kind == "template_string" && node.hasChild "template_substitution" then none
    else if node.hasChild "interpolation" then none
    else Literal.contents? (source.textOf node)
  else none

end Source

/-! ## HTTP verbs -/

/-- The methods of frameworks that register a handler for the HTTP verb of their name. -/
def httpVerbs : List String := ["get", "post", "put", "delete", "patch", "options", "head"]

end RepoAtlas
