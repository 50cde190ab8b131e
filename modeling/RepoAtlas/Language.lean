import RepoAtlas.Path
import RepoAtlas.Text.Case

/-!
# Languages and the roles of files

What a file is follows from its path alone: the last suffix of its name decides the language family
and the grammar to parse it with, and its directories and name decide whether it is a source, a
test, documentation, an example, configuration or infrastructure.
-/

namespace RepoAtlas

/-- The language families. -/
inductive Language where
  | javaScript
  | python
  | unrecognised
deriving DecidableEq, Repr, Inhabited

namespace Language

open Text

def all : List Language := [.javaScript, .python, .unrecognised]

def label : Language → String
  | .javaScript => "JsLike"
  | .python => "PyLike"
  | .unrecognised => "Unknown"

def ofLabel? (label : String) : Option Language := all.find? (·.label == label)

theorem ofLabel?_label (language : Language) : ofLabel? language.label = some language := by
  cases language <;> decide

/-- The suffixes of source files, with the family and the grammar of each. -/
def suffixes : List (String × Language × String) :=
  [(".py", .python, "python"), (".pyi", .python, "python"),
    (".js", .javaScript, "javascript"), (".jsx", .javaScript, "javascript"),
    (".mjs", .javaScript, "javascript"), (".cjs", .javaScript, "javascript"),
    (".ts", .javaScript, "typescript"), (".mts", .javaScript, "typescript"),
    (".cts", .javaScript, "typescript"), (".tsx", .javaScript, "tsx")]

/-- The family of a file and the grammar that parses it. -/
def ofPath (path : String) : Language × Option String :=
  let name := lower (Path.fileName path)
  if name.toList.contains '.' then
    match suffixes.lookup ("." ++ afterLast '.' name) with
    | some (language, grammar) => (language, some grammar)
    | none => (.unrecognised, none)
  else (.unrecognised, none)

end Language

namespace Role

open Text

/-- The directory names that give every file below them a role, the strongest first. -/
def byDirectory : List (String × String) :=
  [("tests", "test"), ("test", "test"), ("__tests__", "test"), ("docs", "docs"), ("doc", "docs"),
    ("examples", "examples"), ("example", "examples"), ("config", "config"), ("infra", "infra")]

def ofFileName (name : String) : String :=
  let name := lower name
  if startsWith "test_" name || contains ".test." name || contains ".spec." name then "test"
  else if endsWith ".md" name || endsWith ".rst" name then "docs"
  else "src"

def ofPath (path : String) : String :=
  let directories := Path.directorySegments path
  match byDirectory.find? fun (name, _) => directories.contains name with
  | some (_, role) => role
  | none => ofFileName (Path.fileName path)

end Role

end RepoAtlas
