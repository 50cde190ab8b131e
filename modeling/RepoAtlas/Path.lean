import RepoAtlas.Text.Split

/-!
# Paths

A path is a text whose segments are separated by slashes; everything here is arithmetic on that
text and looks at no file system. `normalize` is the canonical spelling of a location: no empty
segment, no `.`, and `..` only where it climbs above the start.
-/

namespace RepoAtlas.Path

open Text

/-! ## Parts of a path -/

/-- The name of what a path leads to: the text after its last slash. -/
def fileName (path : String) : String := afterLast '/' path

/-- The directory a path lies in: the text before its last slash, without slashes at its end unless
it consists of nothing else. It is empty when there is no slash. -/
def parent (path : String) : String :=
  let upToSlash := path.toList.reverse.dropWhile (· != '/')
  let trimmed := upToSlash.dropWhile (· == '/')
  String.ofList (if trimmed.isEmpty then upToSlash else trimmed).reverse

def directorySegments (path : String) : List String := (segments '/' path).dropLast

/-- A path cut before the last dot of its file name, unless only dots stand before that dot. -/
def splitExtension (path : String) : String × String :=
  let name := fileName path
  match beforeLast? '.' name with
  | none => (path, "")
  | some stem =>
    if stem.toList.all (· == '.') then (path, "")
    else
      let extension := "." ++ afterLast '.' name
      (String.ofList (path.toList.take (path.length - extension.length)), extension)

/-- The end of the file name from its last dot on, if something stands on both sides of that dot. -/
def suffix (path : String) : String :=
  let name := fileName path
  match beforeLast? '.' name with
  | none => ""
  | some stem =>
    let ending := afterLast '.' name
    if stem = "" ∨ ending = "" then "" else "." ++ ending

def stem (path : String) : String := beforeFirst '.' (fileName path)

/-! ## Combining paths -/

/-- The path `relative` as seen from the directory `base`. A path that starts with a slash is seen
the same from everywhere. -/
def join (base relative : String) : String :=
  if startsWith "/" relative then relative
  else if base = "" ∨ endsWith "/" base then base ++ relative
  else base ++ "/" ++ relative

/-- The segments left after `segment` has been followed from the location `above`, innermost
segment first. Nothing lies above the root of an absolute path. -/
def follow (absolute : Bool) (above : List String) (segment : String) : List String :=
  if segment = "" ∨ segment = "." then above
  else if segment = ".." then
    match above with
    | [] => if absolute then [] else [".."]
    | innermost :: outer => if innermost = ".." then ".." :: above else outer
  else segment :: above

/-- The slashes that a normalized path keeps at its start: none, one, or exactly two. -/
def rootSlashes (path : String) : String :=
  match (path.toList.takeWhile (· == '/')).length with
  | 0 => ""
  | 2 => "//"
  | _ => "/"

/-- The canonical spelling of a path; the empty location is written `.`. -/
def normalize (path : String) : String :=
  let root := rootSlashes path
  let names := ((segments '/' path).foldl (follow (root != "")) []).reverse
  let written := root ++ joined "/" names
  if written = "" then "." else written

/-- A path without the segments that lead nowhere, which are the empty ones and `.`; unlike
`normalize` it keeps every `..`. -/
def tidy (path : String) : String :=
  let names := (segments '/' path).filter fun segment => segment != "" && segment != "."
  let written := rootSlashes path ++ joined "/" names
  if written = "" then "." else written

/-- Whether a normalized relative path leads out of where it starts. -/
def climbsOut (path : String) : Bool := path == ".." || startsWith "../" path

end RepoAtlas.Path
