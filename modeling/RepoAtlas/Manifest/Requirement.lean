import RepoAtlas.Data.Entries
import RepoAtlas.Text.Blank
import RepoAtlas.Text.Split

/-!
# Requirements

A requirement is a package name, perhaps extras in brackets, a version and a marker:
`uvicorn[standard] >=0.20 ; python_version > "3.8"`. `Requirement.parse` keeps the name and the
version. A requirement list has one requirement on each line, next to comments, options and
locations, which are passed over.
-/

namespace RepoAtlas

open Text

/-- A package that is required, and the version of it; any version is written `*`. -/
structure Requirement where
  name : String
  version : String
deriving DecidableEq, Repr

namespace Requirement

def endsName (c : Char) : Bool := "<>=!~;[@".toList.contains c || isBlank c

/-- The text without the brackets it begins with, if it does. -/
def dropExtras (cs : List Char) : List Char :=
  match cs with
  | '[' :: _ =>
    match cs.dropWhile (· != ']') with
    | [] => trimOf cs
    | _ :: after => trimOf after
  | _ => cs

def parse (requirement : String) : Requirement :=
  let cs := trimOf requirement.toList
  let name := cs.takeWhile (!endsName ·)
  let version := dropExtras (trimOf ((cs.drop name.length).takeWhile (· != ';')))
  ⟨String.ofList name, if version = [] then "*" else String.ofList version⟩

/-- What a line of a requirement list says, its comment left out. -/
def lineContent (line : String) : String := trim (beforeText " #" line)

def isStated (content : String) : Bool :=
  content != "" && !startsWith "#" content && !startsWith "-" content
    && !contains "://" (beforeFirst '@' content)

def declared (requirements : List Requirement) : List (String × String) :=
  Entries.addNew [] ((requirements.filter (·.name != "")).map fun r => (r.name, r.version))

def packagesOfList (text : String) : List (String × String) :=
  declared ((((lines text).map lineContent).filter isStated).map parse)

end Requirement

end RepoAtlas
