import RepoAtlas.Document.Decode
import RepoAtlas.Json.Printer
import RepoAtlas.Yaml.Node

/-!
# Documents as texts

A document is written as JSON or as YAML. Reading a text gives a document only if it is an object at
its root. What a text in YAML says is asked of a reader.
-/

namespace RepoAtlas

/-- The formats of documents. -/
inductive Format where
  | json
  | yaml
deriving DecidableEq, Repr

namespace Format

def all : List Format := [.json, .yaml]

def label : Format → String
  | .json => "json"
  | .yaml => "yaml"

def ofLabel? (label : String) : Option Format := all.find? (·.label == label)

end Format

/-- Why there is no text, or no document. -/
inductive FormatError where
  | unsupported (format : String)
  | invalidJson (source : String) (error : Json.ReadError)
  | invalidYaml
  | notMapping
  | undecodable (error : DecodeError)
deriving DecidableEq, Repr

/-- The wording of an error. What exactly is wrong with a YAML text is left open. -/
def FormatError.message : FormatError → String
  | .unsupported format => "Unsupported output format: " ++ format
  | .invalidJson source error => error.message source
  | .invalidYaml => "invalid YAML (...)"
  | .notMapping => "analysis document root must be a mapping"
  | .undecodable error => error.message

namespace Document

def formatNamed (name : String) : Except FormatError Format :=
  match Format.ofLabel? name with
  | some format => .ok format
  | none => .error (.unsupported name)

def write (format : Format) (document : Value) : String :=
  match format with
  | .json => Json.indented document
  | .yaml => Json.yaml document

/-- A document that may be given as pairs; YAML is only written of one with entries. -/
def rooted (format : Format) (document : Value) : Except FormatError Value :=
  match format with
  | .json => .ok document
  | .yaml =>
    match pairsOf document with
    | .ok pairs =>
      .ok (.dict (Entries.ofPairs (pairs.map fun (key, value) => (keyText key, value))))
    | .error e => .error (.undecodable e)

/-- The text of a value in the format with a name. -/
def dump (format : String) (document : Value) : Except FormatError String := do
  let format ← formatNamed format
  pure (write format (← rooted format document))

def parse (readYaml : Yaml.Reader) (format : Format) (text : String) : Except FormatError Value :=
  match format with
  | .json =>
    match Json.read text with
    | .ok value => .ok value
    | .error e => .error (.invalidJson text e)
  | .yaml =>
    match readYaml text with
    | some node => .ok node.toValue
    | none => .error .invalidYaml

/-- The document that a text in the format with a name writes. -/
def load (readYaml : Yaml.Reader) (format text : String) : Except FormatError Value := do
  match ← parse readYaml (← formatNamed format) text with
  | .dict entries => pure (.dict entries)
  | _ => .error .notMapping

end Document

end RepoAtlas
