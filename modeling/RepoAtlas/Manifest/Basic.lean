import RepoAtlas.Language

/-!
# What manifests say

The manifests of a repository declare packages, name entry points, and show which frameworks are in
use. All of a run's manifests are read into one `ManifestInfo`.
-/

namespace RepoAtlas

/-- An entry point named by a manifest: a `path`, or a dotted `module`. -/
structure EntryHint (τ : Type) where
  kind : τ
  value : τ
  manifest : τ
deriving DecidableEq, Repr

/-- What the manifests of a repository say together. -/
structure ManifestInfo (τ : Type) where
  /-- The declared Python packages with the version each was first declared with. -/
  pythonPackages : List (String × τ)
  /-- The declared Node packages with the version each was first declared with. -/
  nodePackages : List (String × τ)
  frameworks : List τ
  entryHints : List (EntryHint τ)
  /-- The paths of the manifests, in path order. -/
  manifests : List τ
  warnings : List τ
  /-- Whether a manifest could not be read. -/
  degraded : Bool
deriving DecidableEq, Repr

namespace ManifestInfo

def empty {τ : Type} : ManifestInfo τ := ⟨[], [], [], [], [], [], false⟩

/-- Changes every text that is not a package name. -/
def map {τ υ : Type} (text : τ → υ) (info : ManifestInfo τ) : ManifestInfo υ where
  pythonPackages := info.pythonPackages.map fun (name, version) => (name, text version)
  nodePackages := info.nodePackages.map fun (name, version) => (name, text version)
  frameworks := info.frameworks.map text
  entryHints := info.entryHints.map fun hint =>
    ⟨text hint.kind, text hint.value, text hint.manifest⟩
  manifests := info.manifests.map text
  warnings := info.warnings.map text
  degraded := info.degraded

def packagesFor {τ : Type} (info : ManifestInfo τ) : Language → List (String × τ)
  | .python => info.pythonPackages
  | .javaScript => info.nodePackages
  | .unrecognised => []

end ManifestInfo

end RepoAtlas
