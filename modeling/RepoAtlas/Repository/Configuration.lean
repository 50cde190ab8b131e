import RepoAtlas.Repository.Disk
import RepoAtlas.Settings

/-!
# Settings on a disk

The settings of a repository lie in a file at its top. They may also be asked for by naming that
file, or any other file that has settings for its text. As everywhere on a disk, a tilde at the
front of a path is not replaced by a home directory.
-/

namespace RepoAtlas

/-- Why there are no settings. -/
inductive ConfigurationError where
  | badFile (fault : FileFault)
  | refused (error : SettingsError)
deriving DecidableEq, Repr

namespace Disk

/-- The settings that a path leads to: those of the directory there, or those in the file, whose
directory relative names start from. Without a file everything keeps its default. -/
def configuration (readYaml : Yaml.Reader) (disk : Disk) (path : String) :
    Except ConfigurationError Settings := do
  let file := if disk.isDirectory path then Path.join path Settings.fileName else path
  match disk.resolve file with
  | .error loop => .error (.badFile (.linkLoop loop))
  | .ok names =>
    let place := absolute names
    if (disk.find? place).isSome then
      match disk.readText place with
      | .error fault => .error (.badFile fault)
      | .ok text =>
        match Settings.ofText readYaml (disk.placeNamed names.dropLast)
          (names.getLast?.getD "") text with
        | .error error => .error (.refused error)
        | .ok settings => pure settings
    else pure .default

end Disk

end RepoAtlas
