import RepoAtlas.Text.Blank
import RepoAtlas.Text.Glob
import RepoAtlas.Text.Split

/-!
# Ignore rules

Which files of a repository are left out is decided by a list of rules: globs in the notation of
`.gitignore` files. A rule may be restricted to directories by a slash at its end, tied to the top
by a slash at its beginning, or turned round by an exclamation mark. Of all rules that match a path
the last one counts.
-/

namespace RepoAtlas

open Text

/-- A rule about paths to be left out. -/
structure IgnoreRule where
  /-- The glob, without the slashes at its ends. -/
  pattern : String
  directoryOnly : Bool
  /-- Whether it describes whole paths because it begins with a slash. -/
  anchored : Bool
  negate : Bool
  /-- Whether it describes whole paths because it has a slash inside. -/
  hasSlash : Bool
deriving DecidableEq, Repr

namespace IgnoreRule

def dropSlashAtEnd (s : String) : String := String.ofList s.toList.dropLast

def dropFirst (s : String) : String := String.ofList s.toList.tail

/-- The rule that a pattern writes; a blank one writes none. -/
def parse? (written : String) (negate : Bool) : Option IgnoreRule :=
  let written := trim written
  if written = "" then none
  else
    let directoryOnly := endsWith "/" written
    let body := if directoryOnly then dropSlashAtEnd written else written
    let anchored := startsWith "/" body
    let pattern := if anchored then dropFirst body else body
    some { pattern, directoryOnly, anchored, negate, hasSlash := pattern.toList.contains '/' }

/-- Whether the glob describes a path: all of it, or one of its segments. -/
def describes (rule : IgnoreRule) (path : String) : Bool :=
  if rule.anchored || rule.hasSlash then
    Glob.fits rule.pattern path
      || (rule.directoryOnly && startsWith (rule.pattern ++ "/") path)
  else (segments '/' path).any (Glob.fits rule.pattern)

def isAbout (rule : IgnoreRule) (path : String) (isDirectory : Bool) : Bool :=
  rule.pattern != "" && (!rule.directoryOnly || isDirectory) && rule.describes path

/-- The rule of a line of an ignore file, if it has one. -/
def ofLine? (line : String) : Option IgnoreRule :=
  let line := trim line
  if line = "" ∨ startsWith "#" line then none
  else if startsWith "!" line then parse? (dropFirst line) true
  else parse? line false

def ofFile (text : String) : List IgnoreRule := (lines text).filterMap ofLine?

def leavesOut (rules : List IgnoreRule) (path : String) (isDirectory : Bool) : Bool :=
  rules.foldl (fun out rule => if rule.isAbout path isDirectory then !rule.negate else out) false

end IgnoreRule

end RepoAtlas
