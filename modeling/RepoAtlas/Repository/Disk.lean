import RepoAtlas.Data.Entries
import RepoAtlas.Path
import RepoAtlas.Text.Blank
import RepoAtlas.Text.Quoted
import RepoAtlas.Text.Utf8

/-!
# Disks

A disk is a tree of directories, files and symbolic links together with a working directory. What is
read or written is named by a path, and there are two ways to follow one:

* `Disk.locate` needs every directory on the way to exist, as reading and writing do;
* `Disk.resolve` only wants to know where a path leads. Names that do not exist are taken as they
  are written.

Both replace a link by its target and give up when there are too many of them. A tilde at the front
of a path is a name like any other: home directories are not part of a disk.

The name of a file may come from a document and then be no name that a file can have
(`Disk.placeNamed`).
-/

namespace RepoAtlas

open Text

/-- What a name in a directory stands for. -/
inductive DiskNode where
  | file (bytes : List UInt8)
  | link (target : String)
  | directory (entries : List (String × DiskNode))
deriving Repr

namespace DiskNode

def get? : DiskNode → List String → Option DiskNode
  | node, [] => some node
  | .directory entries, name :: rest => (entries.lookup name).bind (·.get? rest)
  | _, _ :: _ => none

/-- The entries of a directory; nothing else has any. -/
def entries : DiskNode → List (String × DiskNode)
  | .directory entries => entries
  | _ => []

/-- The tree with something put in its place; directories on the way are made where there are
none. -/
def put (new : DiskNode) : List String → DiskNode → DiskNode
  | [], _ => new
  | name :: rest, node =>
    let old := (node.entries.lookup name).getD (.directory [])
    .directory (Entries.insert name (put new rest old) node.entries)

def isDirectory : DiskNode → Bool
  | .directory _ => true
  | _ => false

mutual

/-- All files at or below a node, given the names that lead to it. -/
def filesAt (names : List String) : DiskNode → List (List String × List UInt8)
  | .file bytes => [(names, bytes)]
  | .link _ => []
  | .directory entries => filesAmong names entries

def filesAmong (names : List String) :
    List (String × DiskNode) → List (List String × List UInt8)
  | [] => []
  | (name, node) :: rest => filesAt (names ++ [name]) node ++ filesAmong names rest

end

end DiskNode

/-! ## Faults -/

/-- The place that a path leads to cannot be told, because its links lead back to themselves. -/
structure LinkLoop where
  path : String
deriving DecidableEq, Repr

def LinkLoop.message (loop : LinkLoop) : String := "Symlink loop from " ++ quoted loop.path

/-- Why a file cannot be used. -/
inductive FileFault where
  | missing (path : String)
  | alreadyThere (path : String)
  | notADirectory (path : String)
  | isADirectory (path : String)
  | tooManyLinks (path : String)
  | linkLoop (loop : LinkLoop)
  | notUtf8 (bad : IllFormed)
deriving DecidableEq, Repr

def FileFault.message : FileFault → String
  | .missing path => "[Errno 2] No such file or directory: " ++ quoted path
  | .alreadyThere path => "[Errno 17] File exists: " ++ quoted path
  | .notADirectory path => "[Errno 20] Not a directory: " ++ quoted path
  | .isADirectory path => "[Errno 21] Is a directory: " ++ quoted path
  | .tooManyLinks path => "[Errno 40] Too many levels of symbolic links: " ++ quoted path
  | .linkLoop loop => loop.message
  | .notUtf8 bad => bad.message

/-- Why there is no place for a file with some name. -/
inductive PlaceFault where
  /-- NUL is in no name. -/
  | nul
  /-- Half of a surrogate pair cannot be encoded. -/
  | half (point : Nat)
  | linkLoop (loop : LinkLoop)
deriving DecidableEq, Repr

/-- The wording of a fault. Where in a path a half of a surrogate pair stands is left open. -/
def PlaceFault.message : PlaceFault → String
  | .nul => "embedded null byte"
  | .half point =>
    "'utf-8' codec can't encode character '\\u" ++ String.ofList (hexDigits 4 point)
      ++ "' in position ...: surrogates not allowed"
  | .linkLoop loop => loop.message

/-- Whether a half of a surrogate pair stands for a byte of a name that is not UTF-8. -/
def isByteHalf (point : Nat) : Bool := 0xDC80 ≤ point && point < 0xDD00

/-- What keeps a segment of a path from being a name. -/
def PlaceFault.ofSegment? (points : List Nat) : Option PlaceFault :=
  match points.find? fun point => isHalf point && !isByteHalf point with
  | some point => some (.half point)
  | none => if points.contains 0 then some .nul else none

/-! ## Following paths -/

/-- A tree and the directory in it from which relative paths start. -/
structure Disk where
  root : DiskNode
  workingDirectory : List String
deriving Repr

/-- Where a path leads: the names from the root on, none of them a link, and what is there. Only the
last of them may be missing. -/
structure Location where
  names : List String
  node? : Option DiskNode
deriving Repr

namespace Disk

/-- The number of links that may be followed on one path. -/
def linkLimit : Nat := 40

def isIdle (segment : String) : Bool := segment == "" || segment == "."

/-- Where a link's target starts, seen from the directory in which the link lies. -/
def startOf (directory : List String) (path : String) : List String :=
  if startsWith "/" path then [] else directory

/-- Follows segments from a directory on, each of which must exist, except for the last. -/
def locateFrom (root : DiskNode) (path : String) (links : Nat) (above : List String)
    (names : List String) : Except FileFault Location :=
  match names with
  | [] => .ok ⟨above, root.get? above⟩
  | name :: rest =>
    if isIdle name then locateFrom root path links above rest
    else if (root.get? above).any (·.isDirectory) then
      if name = ".." then locateFrom root path links above.dropLast rest
      else match root.get? (above ++ [name]) with
        | some (.link target) =>
          match links with
          | 0 => .error (.tooManyLinks path)
          | links + 1 =>
            locateFrom root path links (startOf above target) (segments '/' target ++ rest)
        | some _ => locateFrom root path links (above ++ [name]) rest
        | none =>
          if rest.all isIdle then .ok ⟨above ++ [name], none⟩ else .error (.missing path)
    else .error (.notADirectory path)
termination_by (links, names.length)

/-- Follows segments from a directory on, whether they exist or not. -/
def resolveFrom (root : DiskNode) (path : String) (links : Nat) (above : List String)
    (names : List String) : Except LinkLoop (List String) :=
  match names with
  | [] => .ok above
  | name :: rest =>
    if isIdle name then resolveFrom root path links above rest
    else if name = ".." then resolveFrom root path links above.dropLast rest
    else match root.get? (above ++ [name]) with
      | some (.link target) =>
        match links with
        | 0 => .error ⟨path⟩
        | links + 1 =>
          resolveFrom root path links (startOf above target) (segments '/' target ++ rest)
      | _ => resolveFrom root path links (above ++ [name]) rest
termination_by (links, names.length)

/-- Where a path leads, provided that all but its last name exist. -/
def locate (disk : Disk) (path : String) : Except FileFault Location :=
  locateFrom disk.root path linkLimit (startOf disk.workingDirectory path) (segments '/' path)

def absolute (names : List String) : String := "/" ++ joined "/" names

/-- The names from the root on to where a path leads, whether anything is there or not. -/
def resolve (disk : Disk) (path : String) : Except LinkLoop (List String) :=
  let start := startOf disk.workingDirectory path
  resolveFrom disk.root (Path.normalize (Path.join (absolute start) path)) linkLimit start
    (segments '/' path)

/-- The place of a file that is named relative to a directory, whether it is there or not. -/
def placeNamed (disk : Disk) (directory : List String) (name : RawText) :
    Except PlaceFault String :=
  match (name.points.splitOn '/'.toNat).findSome? PlaceFault.ofSegment? with
  | some fault => .error fault
  | none =>
    match disk.resolve (Path.join (absolute directory) name.shown) with
    | .ok names => .ok (absolute names)
    | .error loop => .error (.linkLoop loop)

/-! ## Looking -/

def find? (disk : Disk) (path : String) : Option DiskNode :=
  match disk.locate path with
  | .ok location => location.node?
  | .error _ => none

def isDirectory (disk : Disk) (path : String) : Bool := (disk.find? path).any (·.isDirectory)

def readBytes (disk : Disk) (path : String) : Except FileFault (List UInt8) := do
  match (← disk.locate path).node? with
  | some (.file bytes) => pure bytes
  | some _ => .error (.isADirectory path)
  | none => .error (.missing path)

/-- The text of the file that a path leads to, each line ended by a line feed. -/
def readText (disk : Disk) (path : String) : Except FileFault String := do
  match decode? (← disk.readBytes path) with
  | .ok text => pure (unifyLineEnds text)
  | .error bad => .error (.notUtf8 bad)

/-! ## Changing -/

def put (new : DiskNode) (names : List String) (disk : Disk) : Disk :=
  { disk with root := .put new names disk.root }

/-- Where a file may be written, and what it holds so far. -/
def fileAt (disk : Disk) (path : String) : Except FileFault (List String × List UInt8) := do
  let location ← disk.locate path
  match location.node? with
  | some (.file bytes) => pure (location.names, bytes)
  | some _ => .error (.isADirectory path)
  | none => pure (location.names, [])

/-- Writes a file, whose directory must exist. -/
def write (path : String) (bytes : List UInt8) (disk : Disk) : Except FileFault Disk := do
  let (names, _) ← disk.fileAt path
  pure (disk.put (.file bytes) names)

def makeDirectory (path : String) (disk : Disk) : Except FileFault Disk := do
  let location ← disk.locate path
  match location.node? with
  | some _ => .error (.alreadyThere path)
  | none => pure (disk.put (.directory []) location.names)

/-- Makes sure that there is a directory at a path, which is given by its beginning and its names
from the last to the first; the directories above it are made as well. -/
def ensureDirectoryOf (start : String) : List String → Disk → Except FileFault Disk
  | [], disk => .ok disk
  | name :: above, disk =>
    let path := start ++ joined "/" (name :: above).reverse
    if disk.isDirectory path then .ok disk
    else match disk.makeDirectory path with
      | .error (.missing _) => do
        let disk ← ensureDirectoryOf start above disk
        disk.makeDirectory path
      | result => result

def ensureDirectory (path : String) (disk : Disk) : Except FileFault Disk :=
  let path := Path.tidy path
  let names := (segments '/' path).filter fun name => !isIdle name
  ensureDirectoryOf (Path.rootSlashes path) names.reverse disk

/-- The files of a disk that are not the same on another one. -/
def changedFiles (before after : Disk) : List (List String × List UInt8) :=
  (after.root.filesAt []).filter fun (names, bytes) =>
    match before.root.get? names with
    | some (.file old) => old != bytes
    | _ => true

end Disk

end RepoAtlas
