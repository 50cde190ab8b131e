import RepoAtlas.Inventory.Intake
import RepoAtlas.Manifest.Kind
import RepoAtlas.Repository.Configuration
import RepoAtlas.Repository.Ignore

/-!
# Snapshots

A snapshot holds the files of a directory tree that are worth looking at. Some names are never worth
it, ignore rules leave out more, and what lies below a directory that is left out is not looked at
whatever the rules say about it. Symbolic links are not followed. `DiskNode.filesBelow` is the walk,
`Snapshot.ofFiles` sets aside the files that are too large, and `Disk.snapshot` does everything for
a directory of a disk.
-/

namespace RepoAtlas

open Text

/-! ## The walk -/

/-- The names of directories that hold no sources of the repository. -/
def idleDirectories : List String :=
  [".git", ".hg", ".svn", ".venv", "venv", "node_modules", "__pycache__", ".pytest_cache",
    ".mypy_cache", ".tox", ".idea", ".next", "dist", "build"]

/-- The names of files that hold no sources of the repository. -/
def idleFiles : List String := [".DS_Store", "Thumbs.db"]

def entersDirectory (rules : List IgnoreRule) (name path : String) : Bool :=
  !idleDirectories.contains name && !IgnoreRule.leavesOut rules path true

def seesFile (rules : List IgnoreRule) (name path : String) : Bool :=
  !idleFiles.contains name && !IgnoreRule.leavesOut rules path false

/-- The files that an entry of a directory contributes. -/
structure Branch where
  isDirectory : Bool
  name : String
  /-- The paths of the files and what they hold. -/
  files : List (String × List UInt8)
deriving DecidableEq, Repr

namespace Branch

/-- Whether `a` comes before `b` on a walk: files come first, both in the order of their names. -/
def precedes (a b : Branch) : Bool :=
  if a.isDirectory = b.isDirectory then a.name ≤ b.name else !a.isDirectory

/-- The files of some branches in the order of a walk. -/
def inOrder (branches : List Branch) : List (String × List UInt8) :=
  (branches.mergeSort precedes).flatMap (·.files)

end Branch

/-- The path of an entry of a directory; the top has the empty path. -/
def entryPath (directory name : String) : String :=
  if directory = "" then name else directory ++ "/" ++ name

namespace DiskNode

mutual

/-- What an entry of a directory contributes to a walk, if it contributes anything. -/
def branch? (rules : List IgnoreRule) (directory name : String) : DiskNode → Option Branch
  | .file bytes =>
    let path := entryPath directory name
    if seesFile rules name path then some ⟨false, name, [(path, bytes)]⟩ else none
  | .link _ => none
  | .directory entries =>
    let path := entryPath directory name
    if entersDirectory rules name path then
      some ⟨true, name, Branch.inOrder (branchesOf rules path entries)⟩
    else none

def branchesOf (rules : List IgnoreRule) (directory : String) :
    List (String × DiskNode) → List Branch
  | [] => []
  | (name, node) :: rest =>
    (branch? rules directory name node).toList ++ branchesOf rules directory rest

end

/-- The files below a directory that are looked at, in the order of a walk. -/
def filesBelow (rules : List IgnoreRule) (node : DiskNode) : List (String × List UInt8) :=
  Branch.inOrder (branchesOf rules "" node.entries)

end DiskNode

/-! ## Snapshots -/

/-- The files of a directory tree that are worth looking at. -/
structure Snapshot where
  files : List SourceFile
  /-- The paths and texts of the manifests among them. -/
  manifests : List (String × String)
  /-- The paths of the files that are too large, in the order of the walk. -/
  skipped : List String
deriving DecidableEq, Repr

namespace Snapshot

/-- The size up to which files are loaded unless another one is given. -/
def defaultLimit : Int := 1024 * 1024

/-- A file that is too large, and its size. -/
structure Skipped where
  path : String
  size : Nat
deriving DecidableEq, Repr

def Skipped.line (skipped : Skipped) : LogLine :=
  ⟨some "ingest", .debug,
    "Skipping " ++ skipped.path ++ " (" ++ toString skipped.size ++ " bytes exceeds limit)"⟩

/-- Splits the files of a walk into those within the limit and those beyond it. What a file holds is
found out when it is its turn: `current` changes what it held when the walk began, given the files
skipped so far, because a file that reports on the walk may lie in its way. -/
def split (limit : Int) (current : List Skipped → String → List UInt8 → List UInt8) :
    (skipped : List Skipped) → List (String × List UInt8) → List SourceFile × List Skipped
  | skipped, [] => ([], skipped)
  | skipped, (path, bytes) :: rest =>
    let bytes := current skipped path bytes
    if limit < bytes.length then
      split limit current (skipped ++ [⟨path, bytes.length⟩]) rest
    else
      let (files, skipped) := split limit current skipped rest
      (⟨path, bytes⟩ :: files, skipped)

/-- The texts of the manifests among some files, whatever their bytes are. -/
def manifestsAmong (files : List SourceFile) : List (String × String) :=
  (files.filter fun file => isManifest file.path).map fun file =>
    (file.path, decodeLossy file.bytes)

/-- The snapshot of the files of a walk, split by the limit. -/
def ofSplit (files : List SourceFile) (skipped : List Skipped) : Snapshot where
  files := SourceFile.inPathOrder files
  manifests := manifestsAmong files
  skipped := skipped.map (·.path)

/-- The snapshot of the files of a walk, none of which changes. -/
def ofFiles (limit : Int) (files : List (String × List UInt8)) : Snapshot :=
  let (files, skipped) := split limit (fun _ _ bytes => bytes) [] files
  ofSplit files skipped

end Snapshot

/-! ## Directories of a disk -/

/-- Why there is no snapshot. -/
inductive SnapshotError where
  | nothingThere (path : String)
  | notADirectory (path : String)
  | badFile (fault : FileFault)
  | badSettings (error : SettingsError)
deriving DecidableEq, Repr

def SnapshotError.message : SnapshotError → String
  | .nothingThere path => "Repository path not found: " ++ path
  | .notADirectory path => "Repository path is not a directory: " ++ path
  | .badFile fault => fault.message
  | .badSettings error => error.message

namespace Disk

def ignoreRules (disk : Disk) (directory : String) : Except FileFault (List IgnoreRule) :=
  let file := Path.join directory ".gitignore"
  if (disk.find? file).isSome then (disk.readText file).map IgnoreRule.ofFile else .ok []

/-- A directory whose files are about to be looked at. -/
structure Survey where
  directory : String
  node : DiskNode
  rules : List IgnoreRule
  /-- Why the settings of the directory do not count, if they are refused. -/
  warning : Option String

/-- The report about settings that do not count. -/
def Survey.warningLines (survey : Survey) : List LogLine :=
  survey.warning.toList.map fun text =>
    ⟨some "ingest", .warning,
      "Ignoring exclude_paths from " ++ Settings.fileName ++ ": " ++ text⟩

/-- The directory that a path leads to. A tilde at its front is not replaced by a home directory. -/
def directoryAt (disk : Disk) (path : String) : Except SnapshotError (String × DiskNode) := do
  match disk.resolve path with
  | .error loop => .error (.badFile (.linkLoop loop))
  | .ok names =>
    match disk.find? (absolute names) with
    | none => .error (.nothingThere path)
    | some node =>
      if node.isDirectory then pure (absolute names, node) else .error (.notADirectory path)

/-- Gets ready to look at the files of a directory: finds the rules of its ignore file, the given
patterns, and the patterns in its settings, in this order. Settings that are refused have no
patterns, and a warning says so. -/
def survey (readYaml : Yaml.Reader) (disk : Disk) (path : String) (patterns : List String) :
    Except SnapshotError Survey := do
  let (directory, node) ← disk.directoryAt path
  match disk.ignoreRules directory with
  | .error fault => .error (.badFile fault)
  | .ok rules =>
    let ready := fun (more : List String) (warning : Option String) =>
      Survey.mk directory node
        (rules ++ (patterns ++ more).filterMap fun pattern => IgnoreRule.parse? pattern false)
        warning
    match disk.configuration readYaml (Path.join directory Settings.fileName) with
    | .ok settings => pure (ready settings.excludePaths none)
    | .error (.badFile fault) => .error (.badFile fault)
    | .error (.refused error) =>
      if error.isRefusal then pure (ready [] (some error.message)) else .error (.badSettings error)

def snapshot (readYaml : Yaml.Reader) (disk : Disk) (path : String) (patterns : List String)
    (limit : Int) : Except SnapshotError Snapshot := do
  let survey ← disk.survey readYaml path patterns
  pure (.ofFiles limit (survey.node.filesBelow survey.rules))

end Disk

end RepoAtlas
