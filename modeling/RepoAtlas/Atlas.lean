import RepoAtlas.Concept.Basic
import RepoAtlas.Entry.Rank
import RepoAtlas.Graph.Depths
import RepoAtlas.Inventory.Record
import RepoAtlas.Manifest.Basic
import RepoAtlas.Number.Binary64

/-!
# The atlas of a repository

An atlas is everything that a run finds out about a repository: what became of each file, the
outlines of the parsed ones, their imports, the likely entry points, the patterns, what the
manifests say, and warnings about the run itself.
-/

namespace RepoAtlas

/-- Everything known of a repository. -/
structure Atlas (τ σ : Type) where
  files : List (FileRecord τ)
  modules : List (ModuleOutline τ σ)
  graph : DependencyGraph τ
  analysis : GraphAnalysis τ
  entryPoints : List (EntryPoint τ Binary64)
  concepts : List (Concept τ)
  manifest : ManifestInfo τ
  warnings : List τ
deriving DecidableEq, Repr

namespace Atlas

def map {τ υ σ ρ : Type} (text : τ → υ) (span : σ → ρ) (atlas : Atlas τ σ) : Atlas υ ρ where
  files := atlas.files.map (·.map text)
  modules := atlas.modules.map (·.map text span)
  graph := atlas.graph.map text
  analysis := atlas.analysis.map text
  entryPoints := atlas.entryPoints.map (·.map text)
  concepts := atlas.concepts.map (·.map text)
  manifest := atlas.manifest.map text
  warnings := atlas.warnings.map text

/-- The number of files with each of some properties, properties without files left out. -/
def tally {τ α : Type} (kinds : List α) (holds : α → FileRecord τ → Bool)
    (files : List (FileRecord τ)) : List (α × Nat) :=
  (kinds.map fun kind => (kind, files.countP (holds kind))).filter fun (_, count) => count != 0

def languageCounts {τ σ : Type} (atlas : Atlas τ σ) : List (Language × Nat) :=
  tally Language.all (fun language file => file.language == language) atlas.files

def statusCounts {τ σ : Type} (atlas : Atlas τ σ) : List (ParseStatus × Nat) :=
  tally ParseStatus.all (fun status file => file.status == status) atlas.files

def failedFiles {τ σ : Type} (atlas : Atlas τ σ) : List (FileRecord τ) :=
  atlas.files.filter (·.status == .failed)

end Atlas

end RepoAtlas
