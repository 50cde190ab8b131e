import RepoAtlas.Data.Entries
import RepoAtlas.Data.Moment
import RepoAtlas.Number.Numeral
import RepoAtlas.Number.Shortest
import RepoAtlas.Text.Quoted

/-!
# Values of the data formats

`Value` is what a JSON, YAML or TOML text says: null, truth values, unbounded integers, binary
floating-point numbers, texts, moments, lists, and objects whose entries keep their order. Integers
and floating-point numbers are kept apart, because they are written differently, but `Value.same`
compares them by what they are worth.

A value can be written in a message in two ways. `Value.literal` is unambiguous: texts stand between
quotes. `Value.text` shows a text as it is and everything else as its literal. Neither looks at how
many digits an integer has; where there is a limit to that, `Value.isWritable` is asked before.
-/

namespace RepoAtlas

/-- What a text of a data format says. -/
inductive Value where
  | null
  | bool (b : Bool)
  | int (n : Int)
  | float (x : Binary64)
  | str (s : String)
  | moment (m : Moment)
  | list (items : List Value)
  | dict (entries : List (String × Value))
deriving Repr, Inhabited

namespace Value

/-! ## Decidable equality -/

mutual

/-- Whether two values are the same in every respect, the order of entries included. -/
def beq : Value → Value → Bool
  | .null, .null => true
  | .bool a, .bool b => a == b
  | .int a, .int b => a == b
  | .float a, .float b => a == b
  | .str a, .str b => a == b
  | .moment a, .moment b => a == b
  | .list a, .list b => beqItems a b
  | .dict a, .dict b => beqEntries a b
  | _, _ => false

def beqItems : List Value → List Value → Bool
  | [], [] => true
  | a :: as, b :: bs => beq a b && beqItems as bs
  | _, _ => false

def beqEntries : List (String × Value) → List (String × Value) → Bool
  | [], [] => true
  | (k, a) :: as, (l, b) :: bs => k == l && beq a b && beqEntries as bs
  | _, _ => false

end

mutual

theorem beq_iff : ∀ {a b : Value}, beq a b = true ↔ a = b
  | .list as, b => by cases b <;> simp [beq, beqItems_iff]
  | .dict as, b => by cases b <;> simp [beq, beqEntries_iff]
  | .null, b => by cases b <;> simp [beq]
  | .bool _, b => by cases b <;> simp [beq]
  | .int _, b => by cases b <;> simp [beq]
  | .float _, b => by cases b <;> simp [beq]
  | .str _, b => by cases b <;> simp [beq]
  | .moment _, b => by cases b <;> simp [beq]

theorem beqItems_iff : ∀ {a b : List Value}, beqItems a b = true ↔ a = b
  | [], b => by cases b <;> simp [beqItems]
  | a :: as, b => by cases b <;> simp [beqItems, beq_iff, beqItems_iff]

theorem beqEntries_iff : ∀ {a b : List (String × Value)}, beqEntries a b = true ↔ a = b
  | [], b => by cases b <;> simp [beqEntries]
  | (k, a) :: as, [] => by simp [beqEntries]
  | (k, a) :: as, (l, b) :: bs => by simp [beqEntries, beq_iff, beqEntries_iff]

end

instance : DecidableEq Value := fun _ _ => decidable_of_iff _ beq_iff

/-! ## What a value is worth -/

/-- The value of a key, if the value is an object that has it. -/
def get? (v : Value) (key : String) : Option Value :=
  match v with
  | .dict entries => entries.lookup key
  | _ => none

/-- Whether the value counts as true: it is neither null, false, zero nor empty. -/
def isTruthy : Value → Bool
  | .null => false
  | .bool b => b
  | .int n => n != 0
  | .float x => !x.same 0
  | .str s => s != ""
  | .moment _ => true
  | .list items => !items.isEmpty
  | .dict entries => !entries.isEmpty

def toInt? : Value → Option Int
  | .bool b => some (if b then 1 else 0)
  | .int n => some n
  | _ => none

/-- Whether an integer and a floating-point number are worth the same. -/
def sameNumber (n : Int) (x : Binary64) : Bool := x.toRat? == some (n : Rat)

mutual

/-- Whether two values are worth the same: numbers and truth values are compared as numbers, and
objects regardless of the order of their entries. -/
def same : Value → Value → Bool
  | .null, .null => true
  | .str a, .str b => a == b
  | .moment a, .moment b => a == b
  | .list a, .list b => sameItems a b
  | .dict a, .dict b => a.length == b.length && entriesWithin a b
  | .float x, .float y => x.same y
  | .float x, v => match v.toInt? with
    | some n => sameNumber n x
    | none => false
  | v, .float x => match v.toInt? with
    | some n => sameNumber n x
    | none => false
  | v, w => match v.toInt?, w.toInt? with
    | some m, some n => m == n
    | _, _ => false

def sameItems : List Value → List Value → Bool
  | [], [] => true
  | a :: as, b :: bs => same a b && sameItems as bs
  | _, _ => false

def entriesWithin : List (String × Value) → List (String × Value) → Bool
  | [], _ => true
  | (k, a) :: as, b =>
    (match b.lookup k with
      | some v => same a v
      | none => false) && entriesWithin as b

end

/-! ## Writing a value in a message -/

mutual

def literal : Value → String
  | .null => "None"
  | .bool true => "True"
  | .bool false => "False"
  | .int n => toString n
  | .float x => x.render
  | .str s => Text.quoted s
  | .moment m => m.structural
  | .list items => "[" ++ ", ".intercalate (literals items) ++ "]"
  | .dict entries => "\x7b" ++ ", ".intercalate (entryLiterals entries) ++ "\x7d"

def literals : List Value → List String
  | [] => []
  | v :: rest => literal v :: literals rest

def entryLiterals : List (String × Value) → List String
  | [] => []
  | (key, v) :: rest => (Text.quoted key ++ ": " ++ literal v) :: entryLiterals rest

end

/-- The value as it is shown outside other values: texts and moments without ornament. -/
def text : Value → String
  | .str s => s
  | .moment m => m.iso
  | v => v.literal

mutual

/-- Whether no integer in the value has too many digits to be written. -/
def isWritable : Value → Bool
  | .int n => Numeral.isWritable n
  | .list items => areWritable items
  | .dict entries => entriesWritable entries
  | _ => true

def areWritable : List Value → Bool
  | [] => true
  | v :: rest => isWritable v && areWritable rest

def entriesWritable : List (String × Value) → Bool
  | [] => true
  | (_, v) :: rest => isWritable v && entriesWritable rest

end

end Value

end RepoAtlas
