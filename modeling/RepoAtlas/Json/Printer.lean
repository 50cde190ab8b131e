import RepoAtlas.Data.Value
import RepoAtlas.Text.Split

/-!
# Writing JSON

Two layouts of one notation. `compact` writes a value on one line without blanks; `indented` puts
every item on a line of its own, two spaces deeper than what encloses it, with the keys of each
object in ascending order. Both write ASCII only: any other character becomes `\uXXXX` escapes of
its UTF-16 code units.
-/

namespace RepoAtlas.Json

open Text

def escapeUnit (unit : Nat) : List Char := '\\' :: 'u' :: hexDigits 4 unit

def escapeChar (c : Char) : List Char :=
  if c = '"' ∨ c = '\\' then ['\\', c]
  else if c = '\n' then ['\\', 'n']
  else if c = '\r' then ['\\', 'r']
  else if c = '\t' then ['\\', 't']
  else if c = '\x08' then ['\\', 'b']
  else if c = '\x0c' then ['\\', 'f']
  else if 0x20 ≤ c.toNat ∧ c.toNat < 0x7F then [c]
  else if c.toNat < 0x10000 then escapeUnit c.toNat
  else
    let above := c.toNat - 0x10000
    escapeUnit (0xD800 + above / 0x400) ++ escapeUnit (0xDC00 + above % 0x400)

def escaped (s : String) : String :=
  String.ofList ('"' :: s.toList.flatMap escapeChar ++ ['"'])

/-- A floating-point number; the non-finite ones are words. -/
def numberText : Binary64 → String
  | .nan => "NaN"
  | .infinite negative => if negative then "-Infinity" else "Infinity"
  | x => x.render

mutual

/-- The value on one line, floating-point numbers written by `number`. -/
def compactWith (number : Binary64 → String) : Value → String
  | .null => "null"
  | .bool b => if b then "true" else "false"
  | .int n => toString n
  | .float x => number x
  | .str s => escaped s
  | .moment m => escaped m.iso
  | .list items => "[" ++ ",".intercalate (compactItems number items) ++ "]"
  | .dict entries => "\x7b" ++ ",".intercalate (compactEntries number entries) ++ "\x7d"

def compactItems (number : Binary64 → String) : List Value → List String
  | [] => []
  | v :: rest => compactWith number v :: compactItems number rest

def compactEntries (number : Binary64 → String) : List (String × Value) → List String
  | [] => []
  | (key, v) :: rest =>
    (escaped key ++ ":" ++ compactWith number v) :: compactEntries number rest

end

def compact (v : Value) : String := compactWith numberText v

def lineAtDepth (depth : Nat) : String := "\n" ++ String.ofList (List.replicate (2 * depth) ' ')

/-- Items between brackets, each on its own line one deeper than `depth`. -/
def bracketed (opening closing : String) (depth : Nat) (items : List String) : String :=
  if items.isEmpty then opening ++ closing
  else opening ++ lineAtDepth (depth + 1)
    ++ ("," ++ lineAtDepth (depth + 1)).intercalate items ++ lineAtDepth depth ++ closing

mutual

/-- The value over several lines, its first line starting at the current place and floating-point
numbers written by `number`. Each entry is paired with its key so that the entries can be ordered
after they are written. -/
def indentedAt (number : Binary64 → String) (depth : Nat) : Value → String
  | .null => "null"
  | .bool b => if b then "true" else "false"
  | .int n => toString n
  | .float x => number x
  | .str s => escaped s
  | .moment m => escaped m.iso
  | .list items => bracketed "[" "]" depth (indentedItems number depth items)
  | .dict entries =>
    bracketed "\x7b" "\x7d" depth <|
      ((indentedEntries number depth entries).mergeSort fun a b => a.1 ≤ b.1).map (·.2)

def indentedItems (number : Binary64 → String) (depth : Nat) : List Value → List String
  | [] => []
  | v :: rest => indentedAt number (depth + 1) v :: indentedItems number depth rest

def indentedEntries (number : Binary64 → String) (depth : Nat) :
    List (String × Value) → List (String × String)
  | [] => []
  | (key, v) :: rest =>
    (key, escaped key ++ ": " ++ indentedAt number (depth + 1) v)
      :: indentedEntries number depth rest

end

/-- The value over several lines, ending with a line break. -/
def indented (v : Value) : String := indentedAt numberText 0 v ++ "\n"

/-! ## YAML

A JSON text in this layout is also a YAML document, except for some numbers. -/

/-- A floating-point number in YAML: it always has a point, and the words for the non-finite numbers
begin with one. -/
def yamlNumberText : Binary64 → String
  | .nan => ".nan"
  | .infinite negative => if negative then "-.inf" else ".inf"
  | x =>
    let text := x.render
    if text.toList.contains '.' then text else replaceChar 'e' ".0e" text

def yaml (v : Value) : String := indentedAt yamlNumberText 0 v ++ "\n"

end RepoAtlas.Json
