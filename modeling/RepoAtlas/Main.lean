import RepoAtlas.CommandLine.Session
import RepoAtlas.Json.Reader
import RepoAtlas.Syntax.Written

/-!
# The program

Brings the part of the file system that a command is about onto a `Disk`, lets
`CommandLine.execute` do the work, and writes the files that it changed.

Parsers are other programs. The environment variable `ATLAS_TREES` names a directory that holds, for
a source file at some path, its syntax tree at the same path with `.json` added to it; a file
without a tree counts as one that its parser gave up. `ATLAS_TIME` is the time that log files are to
show.
-/

namespace RepoAtlas.Main

open CommandLine

/-- An entry of a directory with everything below it. Directories without sources are empty. -/
partial def loadEntry (entry : IO.FS.DirEntry) : IO (Option DiskNode) := do
  match (← entry.path.symlinkMetadata).type with
  | .symlink =>
    let target ← try IO.FS.realPath entry.path catch _ => pure entry.path
    pure (some (.link target.toString))
  | .dir =>
    if idleDirectories.contains entry.fileName then pure (some (.directory []))
    else
      let entries ← (← entry.path.readDir).toList.filterMapM fun inner => do
        pure ((← loadEntry inner).map (inner.fileName, ·))
      pure (some (.directory entries))
  | .file => pure (some (.file (← IO.FS.readBinFile entry.path).toList))
  | .other => pure none

/-- What an existing place holds: all of it, or only that it is a directory. -/
def loadPlace (deep : Bool) (path : String) : IO DiskNode := do
  let place ← IO.FS.realPath path
  if (← place.metadata).type == .dir then
    if deep then
      let entries ← (← place.readDir).toList.filterMapM fun entry => do
        pure ((← loadEntry entry).map (entry.fileName, ·))
      pure (.directory entries)
    else pure (.directory [])
  else pure (.file (← IO.FS.readBinFile place).toList)

def isThere (path : String) : IO Bool := do
  try
    let place ← IO.FS.realPath path
    place.pathExists
  catch _ => pure false

/-- Brings a place onto a disk. It is given by the names that lead to it, from the last to the
first; if nothing is there, the nearest directory above is brought instead. -/
def addPlace (deep : Bool) (disk : Disk) : List String → IO Disk
  | [] => pure disk
  | name :: above => do
    let names := (name :: above).reverse
    let path := Disk.absolute names
    if ← isThere path then
      if (disk.find? path).isSome && !deep then return disk
      let place := (← IO.FS.realPath path).toString
      let real := (Text.segments '/' place).filter (!Disk.isIdle ·)
      let disk := disk.put (← loadPlace deep path) real
      pure (if real = names then disk else disk.put (.link place) names)
    else addPlace false disk above

/-- The names that lead to a path, from the last to the first. -/
def namesOf (disk : Disk) (path : String) : List String :=
  let whole := Path.normalize (Path.join (Disk.absolute disk.workingDirectory) path)
  ((Text.segments '/' whole).filter (!Disk.isIdle ·)).reverse

/-- The paths that a command reads, and those that it writes. -/
def placesOf (invocation : Invocation) : List String × List String :=
  match invocation.command with
  | .analyze arguments =>
    ([arguments.path], arguments.output.toList ++ arguments.logFile.toList)
  | .check arguments => ([arguments.file], [])

/-- The part of the file system that a command is about. -/
def diskFor (words : List String) : IO Disk := do
  let home := (Text.segments '/' (← IO.currentDir).toString).filter (!Disk.isIdle ·)
  let disk : Disk := ⟨.put (.directory []) home (.directory []), home⟩
  match Invocation.ofWords words with
  | .error _ => pure disk
  | .ok invocation =>
    let (read, written) := placesOf invocation
    let disk ← read.foldlM (fun disk path => addPlace true disk (namesOf disk path)) disk
    written.foldlM (fun disk path => addPlace false disk (namesOf disk path)) disk

def parserOf (trees : DiskNode) : Parser := fun file =>
  match trees.get? (Text.segments '/' (file.path ++ ".json")) with
  | some (.file bytes) =>
    match (Json.read (Text.decodeLossy bytes)).toOption.bind SyntaxNode.ofValue? with
    | some root => .tree root
    | none => .givesUp
  | _ => .givesUp

def environment : IO Environment := do
  let trees ← match ← IO.getEnv "ATLAS_TREES" with
    | some path => loadPlace true path
    | none => pure (.directory [])
  pure ⟨[], parserOf trees, Yaml.readFlow, ((← IO.getEnv "ATLAS_TIME").getD "-")⟩

def store (before after : Disk) : IO Unit := do
  for (names, bytes) in before.changedFiles after do
    IO.FS.createDirAll (Disk.absolute names.dropLast)
    IO.FS.writeBinFile (Disk.absolute names) (ByteArray.mk bytes.toArray)

end RepoAtlas.Main

open RepoAtlas RepoAtlas.CommandLine in
def main (words : List String) : IO UInt32 := do
  let disk ← Main.diskFor words
  match execute (← Main.environment) disk words with
  | .ok ending =>
    Main.store disk ending.disk
    IO.eprint ending.shown
    IO.print ending.output
    pure ending.exitCode.toUInt32
  | .error cause =>
    IO.eprintln cause.message
    pure 1
