import RepoAtlas.Json.Reader

/-!
# YAML documents

A YAML text is read by a library, and what the library makes of it is a `Node`: a scalar, or a list
or an object of nodes. It differs from a `Value` in two ways. Any scalar may be a key. And a text
may have halves of surrogate pairs in it, because they can be escaped.

The library is not modelled. Whatever reads YAML takes a `Reader`, which says what the library makes
of each text. `readFlow` is one for a part of the language, documents in flow style.
-/

namespace RepoAtlas.Yaml

open Text

inductive Scalar where
  | null
  | bool (b : Bool)
  | int (n : Int)
  | float (x : Binary64)
  | str (t : RawText)
  | moment (m : Moment)
deriving DecidableEq, Repr

namespace Scalar

def toValue : Scalar → Value
  | .null => .null
  | .bool b => .bool b
  | .int n => .int n
  | .float x => .float x
  | .str t => .str t.shown
  | .moment m => .moment m

/-- The scalar as it is shown. -/
def text (s : Scalar) : String := s.toValue.text

end Scalar

/-- What a YAML document says. -/
inductive Node where
  | scalar (s : Scalar)
  | list (items : List Node)
  | dict (entries : List (Scalar × Node))
deriving Repr, Inhabited

/-- What a library makes of a text, if it is a YAML document. -/
abbrev Reader := String → Option Node

namespace Node

/-- The value of a key that is a text. -/
def get? (node : Node) (key : String) : Option Node :=
  match node with
  | .dict entries => entries.lookup (.str (.ofString key))
  | _ => none

mutual

def ofValue : Value → Node
  | .null => .scalar .null
  | .bool b => .scalar (.bool b)
  | .int n => .scalar (.int n)
  | .float x => .scalar (.float x)
  | .str s => .scalar (.str (.ofString s))
  | .moment m => .scalar (.moment m)
  | .list items => .list (ofValues items)
  | .dict entries => .dict (ofEntries entries)

def ofValues : List Value → List Node
  | [] => []
  | v :: rest => ofValue v :: ofValues rest

def ofEntries : List (String × Value) → List (Scalar × Node)
  | [] => []
  | (key, v) :: rest => (.str (.ofString key), ofValue v) :: ofEntries rest

end

mutual

/-- The node as a value, whose keys are texts. -/
def toValue : Node → Value
  | .scalar s => s.toValue
  | .list items => .list (toValues items)
  | .dict entries => .dict (Entries.ofPairs (toPairs entries))

def toValues : List Node → List Value
  | [] => []
  | node :: rest => toValue node :: toValues rest

def toPairs : List (Scalar × Node) → List (String × Value)
  | [] => []
  | (key, node) :: rest => (key.text, toValue node) :: toPairs rest

end

end Node

/-- Reads documents in flow style with texts for keys. -/
def readFlow : Reader := fun text => (Json.readYaml text).toOption.map Node.ofValue

end RepoAtlas.Yaml
