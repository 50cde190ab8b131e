import RepoAtlas.Language
import RepoAtlas.Path
import RepoAtlas.Text.Pattern
import RepoAtlas.Text.Word

/-!
# Kinds of manifests

A file is a manifest because of its name; requirement lists may also be any text file in a directory
called `requirements`.
-/

namespace RepoAtlas

open Text

/-- The kinds of manifests. -/
inductive ManifestKind where
  | packageJson
  | pyproject
  | pipfile
  | requirements
deriving DecidableEq, Repr

namespace ManifestKind

/-- The characters of the middle part of a requirement list's name. -/
def isNamePart (c : Char) : Bool := isWordChar c || c == '.' || c == '-'

/-- The names of requirement lists, such as `requirements-dev.txt`. -/
def requirementsName : Pattern :=
  .sequence [.word "requirements",
    .opt (.seq (.one fun c => c == '-' || c == '_' || c == '.') (.some isNamePart)),
    .oneOf [.word ".txt", .word ".in"]]

/-- The kind of the manifest at a path, if it is one. -/
def ofPath? (path : String) : Option ManifestKind :=
  let name := Path.fileName path
  if name = "package.json" then some .packageJson
  else if name = "pyproject.toml" then some .pyproject
  else if name = "Pipfile" then some .pipfile
  else if requirementsName.fillsText name then some .requirements
  else if (Path.directorySegments path).getLast? = some "requirements" ∧ endsWith ".txt" name then
    some .requirements
  else none

def language : ManifestKind → Language
  | .packageJson => .javaScript
  | _ => .python

end ManifestKind

def isManifest (path : String) : Bool := (ManifestKind.ofPath? path).isSome

end RepoAtlas
