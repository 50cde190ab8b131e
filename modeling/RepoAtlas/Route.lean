import RepoAtlas.Text.Blank
import RepoAtlas.Text.Split

/-!
# Route paths

Frameworks let a route be registered as `users`, `/users/` or `//users`. `normalize` gives all of
these one spelling: a leading slash, single slashes between segments and none at the end; only the
wildcard `*` stands alone. `join` puts a handler's route behind the route of its controller.
-/

namespace RepoAtlas.Route

open Text

def squeezeSlashes : List Char → List Char
  | '/' :: '/' :: rest => squeezeSlashes ('/' :: rest)
  | c :: rest => c :: squeezeSlashes rest
  | [] => []

/-- The text without a slash at its end, unless that is all there is. -/
def dropFinalSlash (cs : List Char) : List Char :=
  if 1 < cs.length ∧ cs.getLast? = some '/' then cs.dropLast else cs

/-- The canonical spelling of a route that has no blanks around it. -/
def normalizeTrimmed (cs : List Char) : List Char :=
  if cs = [] then ['/']
  else
    let rooted := if cs.head? = some '/' ∨ cs = ['*'] then cs else '/' :: cs
    dropFinalSlash (squeezeSlashes rooted)

def normalize (route : String) : String :=
  String.ofList (normalizeTrimmed (trimOf route.toList))

/-- The route of a handler below the route of its controller; no controller route leaves it as it
is. -/
def join (controller route : String) : String :=
  if controller = "" then normalize route
  else if normalize route = "/" then normalize controller
  else normalize (normalize controller ++ normalize route)

end RepoAtlas.Route
