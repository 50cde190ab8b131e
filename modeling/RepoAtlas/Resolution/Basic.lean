import RepoAtlas.Outline.Basic
import RepoAtlas.Graph.Basic

/-!
# What an import refers to

Resolving an import has one of three results: the path of a module of the run, the name of a
package, or nothing. The rules that decide it differ between the language families and are in the
two modules beside this one.
-/

namespace RepoAtlas

/-- What an import refers to. -/
inductive Resolution where
  | internal (path : String)
  | external (package : String)
  | unresolved
deriving DecidableEq, Repr

namespace Resolution

def kind : Resolution → EdgeKind
  | .internal _ => .internal
  | .external _ => .external
  | .unresolved => .unresolved

/-- The path of the module, if there is one. -/
def path? : Resolution → Option String
  | .internal path => some path
  | _ => none

/-- The name of the package, if there is one. -/
def package? : Resolution → Option String
  | .external package => some package
  | _ => none

def ofPath? : Option String → Resolution
  | some path => .internal path
  | none => .unresolved

end Resolution

end RepoAtlas
