import RepoAtlas.Path
import RepoAtlas.Resolution.Basic
import RepoAtlas.Resolution.Builtins

/-!
# Resolving Python imports

A dotted name stands for a file below some root: `a.b` for `a/b.py`, the package `a/b/__init__.py`
or the stub `a/b.pyi`. Relative imports have one root, the directory that their dots count up to.
Absolute imports are looked for at the top of the repository and in `src`; then among the installed
packages; and last, for scripts outside any package, next to the importing file. Of the names
imported *from* a module, one that is a submodule itself takes precedence over the module.
-/

namespace RepoAtlas.Resolution.Python

open Text

def roots : List String := ["", "src"]

/-- Import names that differ from the name of the package that has to be installed. -/
def aliases : List (String × String) :=
  [("yaml", "pyyaml"), ("PIL", "pillow"), ("sklearn", "scikit-learn"), ("bs4", "beautifulsoup4"),
    ("cv2", "opencv-python"), ("dateutil", "python-dateutil"), ("dotenv", "python-dotenv"),
    ("jwt", "pyjwt"), ("attr", "attrs")]

def isSeparator (c : Char) : Bool := c == '-' || c == '_' || c == '.'

/-- Package names are compared with every run of separators written as one underscore. -/
def unifySeparators : (afterSeparator : Bool) → List Char → List Char
  | _, [] => []
  | afterSeparator, c :: rest =>
    if isSeparator c then
      (if afterSeparator then [] else ['_']) ++ unifySeparators true rest
    else c :: unifySeparators false rest

def canonicalPackage (name : String) : String :=
  lower (String.ofList (unifySeparators false name.toList))

/-- What imports are resolved against. -/
structure Known where
  paths : List String
  packages : List String

def below (root relative : String) : String :=
  if root = "" then relative else Path.join root relative

/-- The files that a dotted name may stand for below a root. -/
def candidates (root dotted : String) : List String :=
  let stem := below root (replaceChar '.' "/" dotted)
  [stem ++ ".py", stem ++ "/__init__.py", stem ++ ".pyi"]

/-- The file that a dotted name stands for; `exclude` is not considered. -/
def lookup? (known : Known) (exclude : Option String) (roots : List String) (dotted : String) :
    Option String :=
  (roots.flatMap (candidates · dotted)).find? fun path =>
    known.paths.contains path && some path != exclude

/-- The package file of the first root that is a package. -/
def lookupPackage? (known : Known) (roots : List String) : Option String :=
  (roots.map (below · "__init__.py")).find? known.paths.contains

/-- The dotted names of the submodules that an import may mean. -/
def submodules (module : String) (symbols : List String) : List String :=
  (symbols.filter (· != "*")).map fun symbol =>
    if module = "" then symbol else module ++ "." ++ symbol

def moduleOrSubmodule? (known : Known) (exclude : Option String) (roots : List String)
    (module : String) (symbols : List String) : Option String :=
  match (submodules module symbols).findSome? (lookup? known exclude roots) with
  | some path => some path
  | none =>
    if module = "" then lookupPackage? known roots else lookup? known exclude roots module

/-- The installed package whose name is the same as `name` when both are canonical. -/
def installed? (known : Known) (name : String) : Option String :=
  known.packages.find? fun package => canonicalPackage package == canonicalPackage name

def package (known : Known) (target : String) : Resolution :=
  let top := beforeFirst '.' target
  match ((aliases.lookup top).toList ++ [top]).findSome? (installed? known) with
  | some package => .external package
  | none => if pythonStandardModules.contains top then .external top else .unresolved

/-- The directory that `count` levels above another one; there is none above the top. -/
def ancestor? : (count : Nat) → (directory : String) → Option String
  | 0, directory => some directory
  | count + 1, directory =>
    if directory = "" then none else ancestor? count (Path.parent directory)

def resolveRelative (known : Known) (importer target : String) (symbols : List String) :
    Resolution :=
  let dots := (target.toList.takeWhile (· == '.')).length
  match ancestor? (dots - 1) (Path.parent importer) with
  | none => .unresolved
  | some base => .ofPath? (moduleOrSubmodule? known none [base] (dropLeading '.' target) symbols)

/-- What a bare name means next to a script: the directory of the script is looked in if it is not
one of the usual roots and not a package. -/
def besideScript? (known : Known) (importer target : String) (symbols : List String) :
    Option String :=
  let directory := Path.parent importer
  if roots.contains directory || known.paths.contains (Path.join directory "__init__.py") then none
  else moduleOrSubmodule? known (some importer) [directory] target symbols

/-- What an absolute import refers to; never to the importing module itself. -/
def resolveAbsolute (known : Known) (importer target : String) (symbols : List String) :
    Resolution :=
  match moduleOrSubmodule? known (some importer) roots target symbols with
  | some path => .internal path
  | none =>
    match package known target with
    | .external package => .external package
    | _ => .ofPath? (besideScript? known importer target symbols)

def resolve (known : Known) (importer target : String) (symbols : List String) : Resolution :=
  if startsWith "." target then resolveRelative known importer target symbols
  else resolveAbsolute known importer target symbols

end RepoAtlas.Resolution.Python
