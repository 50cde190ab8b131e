import RepoAtlas.Main
import RepoAtlas.Proofs.Document.Atlas
import RepoAtlas.Proofs.Graph.Depths
import RepoAtlas.Proofs.Run.Isolation
import RepoAtlas.Proofs.Run.Order
import RepoAtlas.Proofs.Run.Unfailing
import RepoAtlas.Proofs.Outline.SourceOrder
import RepoAtlas.Proofs.Outline.Comments
import RepoAtlas.Proofs.Concept.Grounding
import RepoAtlas.Proofs.Repository.Acceptance
import RepoAtlas.Proofs.Run.Failures
import RepoAtlas.Proofs.Document.Stability
import RepoAtlas.Proofs.Document.Facts
import RepoAtlas.Proofs.Outline.PythonComments
import RepoAtlas.Proofs.Outline.StatementOrder
import RepoAtlas.Proofs.Outline.Instantiations
import RepoAtlas.Proofs.Entry.PackageEntries
import RepoAtlas.Proofs.Manifest.Report
import RepoAtlas.Proofs.Resolution.Specifiers
import RepoAtlas.Proofs.Resolution.RelativeImports
import RepoAtlas.Proofs.Graph.SelfImports
import RepoAtlas.Proofs.Settings
import RepoAtlas.Proofs.Repository.Visibility
import RepoAtlas.Proofs.Concept.Order
import RepoAtlas.Proofs.Concept.Implementations
import RepoAtlas.Proofs.Concept.Forwarding
import RepoAtlas.Proofs.Concept.Confidence
import RepoAtlas.Proofs.Concept.Hubs
import RepoAtlas.Proofs.Concept.Layers
import RepoAtlas.Proofs.Route.Canonical
import RepoAtlas.Proofs.Outline.SyntaxErrors
import RepoAtlas.Proofs.Manifest.RequirementComments
import RepoAtlas.Proofs.Outline.Reexports
import RepoAtlas.Proofs.Outline.PublicNames
import RepoAtlas.Proofs.Outline.Spans
import RepoAtlas.Proofs.Inventory.Complaints
import RepoAtlas.Proofs.Concept.DirectoryTree
import RepoAtlas.Proofs.Outline.Fields
import RepoAtlas.Proofs.Concept.Discovery
import RepoAtlas.Proofs.Outline.Traversals
