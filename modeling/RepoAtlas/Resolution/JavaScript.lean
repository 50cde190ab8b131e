import RepoAtlas.Path
import RepoAtlas.Resolution.Basic
import RepoAtlas.Resolution.Builtins

/-!
# Resolving JavaScript imports

A specifier that starts with a dot or a slash is a location in the repository: the file itself, the
file with an extension added, the TypeScript source of an emitted file, or the index file of a
directory. Any other specifier names a package.
-/

namespace RepoAtlas.Resolution.JavaScript

open Text

/-- The extensions that a specifier may leave out, in the order in which they are tried. -/
def extensions : List String :=
  [".js", ".jsx", ".mjs", ".cjs", ".ts", ".tsx", ".mts", ".cts", ".d.ts"]

/-- The extensions of the sources that a file with this extension may have been emitted from. -/
def sourceExtensions : List (String × List String) :=
  [(".js", [".ts", ".tsx"]), (".jsx", [".tsx"]), (".mjs", [".mts"]), (".cjs", [".cts"])]

/-- The files that a location may stand for, in the order in which they are tried. -/
def candidates (stem : String) : List String :=
  let named :=
    if stem = "" then []
    else
      let (base, extension) := Path.splitExtension stem
      stem :: extensions.map (stem ++ ·)
        ++ ((sourceExtensions.lookup extension).getD []).map (base ++ ·)
  let index := if stem = "" then "index" else Path.join stem "index"
  named ++ extensions.map (index ++ ·)

/-- What imports are resolved against. -/
structure Known where
  paths : List String
  packages : List String

/-- The location that a specifier names, as seen from the importing file. -/
def location (importer target : String) : String :=
  if startsWith "/" target then Path.normalize (dropLeading '/' target)
  else Path.normalize (Path.join (Path.parent importer) target)

/-- The module at a location, unless the location is outside the repository. -/
def resolveLocation (known : Known) (location : String) : Resolution :=
  if Path.climbsOut location then .unresolved
  else
    let stem := if location = "." then "" else location
    .ofPath? ((candidates stem).find? known.paths.contains)

/-- The package that a bare specifier belongs to: its first segment, or the first two if it is
scoped. -/
def packageName (specifier : String) : String :=
  match segments '/' specifier with
  | first :: second :: _ =>
    if startsWith "@" specifier then first ++ "/" ++ second else first
  | parts => joined "/" parts

/-- The package that a bare specifier names, if it is installed or built in. -/
def resolvePackage (known : Known) (target : String) : Resolution :=
  let name := packageName ((dropStart? "node:" target).getD target)
  if known.packages.contains name || startsWith "node:" target || nodeBuiltins.contains name then
    .external name
  else .unresolved

def resolve (known : Known) (importer target : String) : Resolution :=
  if target = "" then .unresolved
  else if startsWith "." target || startsWith "/" target then
    resolveLocation known (location importer target)
  else resolvePackage known target

end RepoAtlas.Resolution.JavaScript
