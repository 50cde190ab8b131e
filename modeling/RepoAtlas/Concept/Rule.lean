import RepoAtlas.Concept.Basic
import RepoAtlas.Concept.Surroundings
import RepoAtlas.Text.Quoted

/-!
# Rules and extraction

A rule looks at the surroundings and emits findings, one after the other; it may fail on the way,
and then what it emitted before is of no use. Extraction runs all rules and puts their concepts in
the order in which a reader wants them: by file, those about a whole file first, then by line.
Concepts at the same place keep the order of their rules.

The library's own rules emit only facts. A rule that someone adds may emit something else, for
instance a guess; extraction refuses that.
-/

namespace RepoAtlas

open Text

/-- Why a rule failed. -/
inductive RuleFailure where
  /-- It met a value that it has no use for. -/
  | badValue (text : String)
  /-- It looked for a key that is not there. -/
  | missingKey (key : String)
  /-- It was handed something that its caller had promised not to hand over. -/
  | brokenContract (text : String)
deriving DecidableEq, Repr

def RuleFailure.message : RuleFailure → String
  | .badValue text => text
  | .missingKey key => quoted key
  | .brokenContract text => text

/-- What a rule emits: a concept, and whether it is a fact. -/
structure Finding where
  concept : Concept String
  isFact : Bool
deriving DecidableEq, Repr

/-- Everything a rule emits, and why it stopped if it did not finish. -/
structure Emission where
  findings : List Finding
  failure : Option RuleFailure
deriving DecidableEq, Repr

/-- A rule. -/
structure Rule where
  name : String
  kind : ConceptKind
  /-- The name of the concepts it finds. -/
  label : String
  emit : Surroundings → Emission

namespace Rule

def ofSightings (name : String) (kind : ConceptKind) (label : String)
    (sightings : Surroundings → List Sighting) : Rule where
  name
  kind
  label
  emit here :=
    ⟨(sightings here).map fun sighting => ⟨sighting.toConcept kind label name, true⟩, none⟩

end Rule

/-! ## Extraction -/

/-- Why extraction came to nothing. -/
inductive ExtractionError where
  | ruleFailed (failure : RuleFailure)
  | notAFact (rule : String)
deriving DecidableEq, Repr

def ExtractionError.message : ExtractionError → String
  | .ruleFailed failure => failure.message
  | .notAFact rule => "rule " ++ rule ++ " produced a non-FACT concept"

namespace Rule

/-- The concepts of a rule, if it finishes and all of them are facts. -/
def concepts (rule : Rule) (here : Surroundings) : Except ExtractionError (List (Concept String)) :=
  let emission := rule.emit here
  if emission.findings.all (·.isFact) then
    match emission.failure with
    | some failure => .error (.ruleFailed failure)
    | none => .ok (emission.findings.map (·.concept))
  else .error (.notAFact rule.name)

end Rule

namespace Concept

/-- The line a concept stands on; those about a whole file come before the first line of it. -/
def position {τ : Type} (concept : Concept τ) : Option Int := concept.span.map (·.startLine)

/-- Whether a position is not after another one of the same file. -/
def positionLE : Option Int → Option Int → Bool
  | none, _ => true
  | some _, none => false
  | some a, some b => a ≤ b

def precedes (a b : Concept String) : Bool :=
  a.file < b.file || (a.file == b.file && positionLE a.position b.position)

def extract (rules : List Rule) (here : Surroundings) :
    Except ExtractionError (List (Concept String)) := do
  let found ← rules.mapM (·.concepts here)
  pure (found.flatten.mergeSort precedes)

end Concept

end RepoAtlas
