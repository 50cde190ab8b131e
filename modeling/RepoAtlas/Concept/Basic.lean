import RepoAtlas.Data.Entries
import RepoAtlas.Data.Value
import RepoAtlas.Outline.Basic

/-!
# Concepts

A concept is an instance of a pattern that was found in a repository: a design pattern of a class or
function, an architectural pattern of a directory or module, or the use of a framework. It says
where it was found and why. The *why* is its evidence: sub-conditions that hold or do not, and
details.

A `Sighting` is what a rule finds, and its concept follows from it: the confidence is the share of
the sub-conditions that hold, and the evidence is the sub-conditions followed by the details.
-/

namespace RepoAtlas

/-- The families of patterns. -/
inductive ConceptKind where
  | designPattern
  | architecturalPattern
  | frameworkPattern
deriving DecidableEq, Repr, Inhabited

namespace ConceptKind

def all : List ConceptKind := [.designPattern, .architecturalPattern, .frameworkPattern]

def label : ConceptKind → String
  | .designPattern => "DesignPattern"
  | .architecturalPattern => "ArchitecturalPattern"
  | .frameworkPattern => "FrameworkPattern"

def ofLabel? (label : String) : Option ConceptKind := all.find? (·.label == label)

theorem ofLabel?_label (kind : ConceptKind) : ofLabel? kind.label = some kind := by
  cases kind <;> decide

end ConceptKind

/-- An instance of a pattern. -/
structure Concept (τ : Type) where
  kind : ConceptKind
  name : τ
  confidence : Binary64
  /-- The module or the directory it was found in. -/
  file : τ
  span : Option Span
  evidence : List (String × Value)
  rule : τ
deriving DecidableEq, Repr

/-- Changes every text of a concept that is not evidence. -/
def Concept.map {τ υ : Type} (text : τ → υ) (concept : Concept τ) : Concept υ where
  kind := concept.kind
  name := text concept.name
  confidence := concept.confidence
  file := text concept.file
  span := concept.span
  evidence := concept.evidence
  rule := text concept.rule

/-! ## Confidence -/

def holding (conditions : List (String × Bool)) : Nat := conditions.countP (·.2)

/-- The share of the sub-conditions that hold, rounded to four decimal places; zero if there are
none. -/
def confidence (conditions : List (String × Bool)) : Binary64 :=
  if conditions.isEmpty then 0
  else (Binary64.ofFraction false (holding conditions) conditions.length).roundTo 4

/-! ## Sightings -/

/-- A place where a pattern was found. -/
structure Sighting where
  file : String
  span : Option Span
  /-- The sub-conditions of the pattern, and whether each holds here. -/
  conditions : List (String × Bool)
  details : List (String × Value)
deriving DecidableEq, Repr

def Sighting.evidence (sighting : Sighting) : List (String × Value) :=
  Entries.ofPairs <|
    sighting.conditions.map (fun (name, holds) => (name, .bool holds)) ++ sighting.details

def Sighting.toConcept (kind : ConceptKind) (label rule : String) (sighting : Sighting) :
    Concept String where
  kind
  name := label
  confidence := confidence sighting.conditions
  file := sighting.file
  span := sighting.span
  evidence := sighting.evidence
  rule

end RepoAtlas
