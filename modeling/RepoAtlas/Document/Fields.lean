import RepoAtlas.Data.Value
import RepoAtlas.Number.Numeral
import RepoAtlas.Data.Entries

/-!
# Reading the fields of documents

Documents may come from other programs, so nothing about their shape is certain. The functions here
read one field of an object or convert one value, and say precisely what stood in the way. They are
lenient about numbers and truth values: a size may be written as a text, and any value is true or
false.
-/

namespace RepoAtlas

open Text

/-- Why a document is refused. -/
inductive DecodeError where
  | rootNotMapping
  | missingKey (key : Value)
  /-- A required entry of something that has no entries. -/
  | entryOfNonObject (key : String)
  /-- An optional entry of something that has no entries. -/
  | optionOfNonObject (key : String)
  | notIterable (value : Value)
  | notHashable (value : Value)
  | notANumber (value : Value)
  | unknownName (value : Value) (family : String)
  | badInteger (text : String)
  | badFloat (text : String)
  | integerOfNaN
  | integerOfInfinity
  | tooLarge (n : Int)
  | badPair (position length : Nat)
  | notFact (name : Value)
  | otherProvenance (name file provenance : Value)
deriving DecidableEq, Repr

def DecodeError.message : DecodeError → String
  | .rootNotMapping => "analysis document root must be a mapping"
  | .missingKey key => key.literal
  | .entryOfNonObject key => "no entry " ++ quoted key ++ " in a value that is not an object"
  | .optionOfNonObject key =>
    "no optional entry " ++ quoted key ++ " in a value that is not an object"
  | .notIterable value => value.literal ++ " has no items"
  | .notHashable value => value.literal ++ " cannot be a key"
  | .notANumber value => value.literal ++ " is not a number"
  | .unknownName value family => value.literal ++ " is not a valid " ++ family
  | .badInteger text => "invalid literal for int() with base 10: " ++ quoted text
  | .badFloat text => "could not convert string to float: " ++ quoted text
  | .integerOfNaN => "cannot convert float NaN to integer"
  | .integerOfInfinity => "cannot convert float infinity to integer"
  | .tooLarge _ => "int too large to convert to float"
  | .badPair position length =>
    "dictionary update sequence element #" ++ toString position ++ " has length "
      ++ toString length ++ "; 2 is required"
  | .notFact name => "concept " ++ name.literal ++ " is not tagged FACT"
  | .otherProvenance name file provenance =>
    "concept " ++ name.literal ++ " in " ++ file.literal ++ " has provenance "
      ++ provenance.literal ++ ", expected FACT"

/-- Something decoded, or why it could not be. -/
abbrev Decoded (α : Type) := Except DecodeError α

namespace Document

/-! ## Entries of objects -/

def required (data : Value) (key : String) : Decoded Value :=
  match data with
  | .dict entries =>
    match entries.lookup key with
    | some value => .ok value
    | none => .error (.missingKey (.str key))
  | _ => .error (.entryOfNonObject key)

def lookup? (data : Value) (key : String) : Decoded (Option Value) :=
  match data with
  | .dict entries => .ok (entries.lookup key)
  | _ => .error (.optionOfNonObject key)

/-- An entry with a value for when it is left out. -/
def entryOr (default : Value) (data : Value) (key : String) : Decoded Value :=
  (lookup? data key).map (·.getD default)

def present? (data : Value) (key : String) : Decoded (Option Value) :=
  (lookup? data key).map fun value => value.filter (· != .null)

/-! ## Items and keys -/

/-- The items of a value: a list has its items, a text its characters, an object its keys. -/
def itemsOf : Value → Decoded (List Value)
  | .list items => .ok items
  | .str s => .ok (s.toList.map fun c => .str (String.singleton c))
  | .dict entries => .ok (entries.map fun (key, _) => .str key)
  | value => .error (.notIterable value)

def items (data : Value) (key : String) : Decoded (List Value) := do
  itemsOf (← entryOr (.list []) data key)

/-- Each item of an entry that may be left out, decoded. -/
def each {α : Type} (decode : Value → Decoded α) (data : Value) (key : String) :
    Decoded (List α) := do
  (← items data key).mapM decode

def isHashable : Value → Bool
  | .list _ => false
  | .dict _ => false
  | _ => true

def asKey (value : Value) : Decoded Value :=
  if isHashable value then .ok value else .error (.notHashable value)

/-- Whether two keys are one: numbers that are worth the same are. -/
def sameKey (a b : Value) : Bool := a == b || a.same b

/-- The key and the value that the item at a position lists. -/
def pairAt (position : Nat) (item : Value) : Decoded (Value × Value) := do
  match ← itemsOf item with
  | [key, value] => pure (← asKey key, value)
  | other => .error (.badPair position other.length)

/-- The entries of an object, or the pairs that a list spells out. -/
def pairsOf : Value → Decoded (List (Value × Value))
  | .dict entries => .ok (entries.map fun (key, value) => (.str key, value))
  | value => do
    let items ← itemsOf value
    (items.mapIdx fun position item => (position, item)).mapM fun (position, item) =>
      pairAt position item

/-! ## Numbers and names -/

/-- An integer; fractions are cut off and texts are read. -/
def integer : Value → Decoded Int
  | .int n => .ok n
  | .bool b => .ok (if b then 1 else 0)
  | .float x =>
    match x with
    | .nan => .error .integerOfNaN
    | x => match x.truncate? with
      | some n => .ok n
      | none => .error .integerOfInfinity
  | .str s =>
    match Numeral.readInt? s with
    | some n => .ok n
    | none => .error (.badInteger s)
  | value => .error (.notANumber value)

/-- A floating-point number; texts are read. -/
def number : Value → Decoded Binary64
  | .float x => .ok x
  | .bool b => .ok (if b then 1 else 0)
  | .int n => if (Binary64.ofInt n).isFinite then .ok (.ofInt n) else .error (.tooLarge n)
  | .str s =>
    match Numeral.readFloat? s with
    | some x => .ok x
    | none => .error (.badFloat s)
  | value => .error (.notANumber value)

def requiredInteger (data : Value) (key : String) : Decoded Int := do
  integer (← required data key)

/-- A truth value that is false when it is left out. -/
def flag (data : Value) (key : String) : Decoded Bool :=
  (entryOr (.bool false) data key).map Value.isTruthy

def named {α : Type} (ofLabel? : String → Option α) (family : String) (data : Value)
    (key : String) : Decoded α := do
  let value ← required data key
  let found := match value with
    | .str label => ofLabel? label
    | _ => none
  match found with
  | some known => pure known
  | none => .error (.unknownName value family)

end Document

end RepoAtlas
