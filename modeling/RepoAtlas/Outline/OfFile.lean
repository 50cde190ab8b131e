import RepoAtlas.Outline.Python
import RepoAtlas.Outline.JavaScript
import RepoAtlas.Text.Quoted

/-!
# From a file to its outline

Parsers are not part of this library: a file comes with the syntax tree that a parser made of it, or
without one if the parser gave up. `ofFile` checks that the file can be outlined at all (its
language and grammar are known, its bytes are UTF-8, its tree has no errors) and then reads the
outline off the tree. Each check has its own failure, and the first that fails counts.
-/

namespace RepoAtlas

open Text

/-- Why a file has no outline. -/
inductive OutlineFailure where
  | unsupportedLanguage (language : Language)
  | noGrammar (name : String)
  | notUtf8 (offset : Nat)
  | parserGaveUp
  | syntaxError (line : Nat)
  | missingToken (line : Nat)
deriving DecidableEq, Repr

def OutlineFailure.message : OutlineFailure → String
  | .unsupportedLanguage language => "unsupported language " ++ language.label
  | .noGrammar name => "no grammar available for " ++ quoted name
  | .notUtf8 offset => "source is not valid UTF-8 (byte " ++ toString offset ++ ")"
  | .parserGaveUp => "normalizer error: RuntimeError"
  | .syntaxError line => "syntax error at line " ++ toString line
  | .missingToken line => "missing token at line " ++ toString line

def supportedGrammars : List String := ["python", "javascript", "typescript", "tsx"]

/-- The failure of a tree with errors: it names the first of them, or the beginning of the tree if
the tree is only marked as erroneous. -/
def errorOf (source : Source) (root : SyntaxNode) : OutlineFailure :=
  match root.firstError? with
  | some error =>
    let line := source.lineAt error.start
    if error.isMissing then .missingToken line else .syntaxError line
  | none => .syntaxError (source.lineAt root.start)

/-- A tree without errors of a file that can be parsed. The search for an error never gives up on a
tree because it is too deep; the limit that an interpreter sets to that is left out. -/
def checkedTree (grammar : String) (source : Source) (tree : Option SyntaxNode) :
    Except OutlineFailure SyntaxNode :=
  if supportedGrammars.contains grammar then
    match decode? source.bytes, tree with
    | .error bad, _ => .error (.notUtf8 bad.start)
    | .ok _, none => .error .parserGaveUp
    | .ok _, some root => if root.hasError then .error (errorOf source root) else .ok root
  else .error (.noGrammar grammar)

/-- The outline of a file of a known language, or why it has none. -/
def ModuleOutline.ofFile (path : String) (language : Language) (grammar : Option String)
    (source : Source) (tree : Option SyntaxNode) : Except OutlineFailure SourceModule :=
  match language, grammar with
  | .python, some grammar =>
    (checkedTree grammar source tree).map (Python.ofTree path grammar source)
  | .javaScript, some grammar =>
    (checkedTree grammar source tree).map (JavaScript.ofTree path grammar source)
  | language, _ => .error (.unsupportedLanguage language)

end RepoAtlas
