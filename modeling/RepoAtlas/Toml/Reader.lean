import RepoAtlas.Toml.Scalar

/-!
# Reading TOML

A TOML document is a table that is filled line by line. A statement names the place of a value by a
dotted key, below the table that the last header opened. Three kinds of places may not be filled
again, and `Ledger` keeps track of them: values, tables that were declared by a header or a dotted
key, and everything inside a table or list that was written as one value.

`read` says which document a text writes. If it writes none, it is not said what is wrong, except
that an integer with too many digits is told apart: reading ends at whichever comes first.
-/

namespace RepoAtlas.Toml

open Text

abbrev Table := List (String × Value)

abbrev Key := List String

/-! ## Tables within tables -/

/-- Changes the last item of a list if it is a table. -/
def changeLast (change : Table → Option Table) : List Value → Option (List Value)
  | [] => none
  | [.dict table] => (change table).map fun table => [.dict table]
  | [_] => none
  | item :: more => (changeLast change more).map (item :: ·)

/-- Changes the table at a place, which is created if there is nothing. The place may lead through
lists of tables, of which the last table is meant, if `throughLists` is set. -/
def changeAt (throughLists : Bool) (change : Table → Option Table) : Key → Table → Option Table
  | [], table => change table
  | key :: more, table =>
    match table.lookup key with
    | none => (changeAt throughLists change more []).map fun inner =>
        Entries.insert key (.dict inner) table
    | some (.dict inner) => (changeAt throughLists change more inner).map fun inner =>
        Entries.insert key (.dict inner) table
    | some (.list items) =>
      if throughLists then
        (changeLast (changeAt throughLists change more) items).map fun items =>
          Entries.insert key (.list items) table
      else none
    | some _ => none

/-- Adds a value under a key that is not in the table. -/
def addValue (key : String) (value : Value) (table : Table) : Option Table :=
  match table.lookup key with
  | none => some (table ++ [(key, value)])
  | some _ => none

def addItem (key : String) (table : Table) : Option Table :=
  match table.lookup key with
  | none => some (table ++ [(key, .list [.dict []])])
  | some (.list items) => some (Entries.insert key (.list (items ++ [.dict []])) table)
  | some _ => none

def isContainer : Value → Bool
  | .dict _ => true
  | .list _ => true
  | _ => false

/-- Whether a place lies at or inside one of some places. -/
def isInside (places : List Key) (place : Key) : Bool := places.any (·.isPrefixOf place)

/-! ## Keys -/

def isBareKeyChar (c : Char) : Bool :=
  isAsciiDigit c || isAsciiCapital c || ('a' ≤ c && c ≤ 'z') || c == '_' || c == '-'

def keyPart (cs : List Char) : Option (String × List Char) :=
  let bare := cs.takeWhile isBareKeyChar
  if bare.isEmpty then (oneLineText cs).map fun (text, after) => (String.ofList text, after)
  else some (String.ofList bare, cs.drop bare.length)

/-- Reads a dotted key. `fuel` bounds the number of its parts. -/
def dottedKey : (fuel : Nat) → List Char → Option (Key × List Char)
  | 0, _ => none
  | fuel + 1, cs => do
    let (part, after) ← keyPart cs
    match after.dropWhile isBlankInLine with
    | '.' :: rest =>
      let (more, after) ← dottedKey fuel (rest.dropWhile isBlankInLine)
      pure (part :: more, after)
    | after => pure ([part], after)

def key? (cs : List Char) : Option (Key × List Char) := dottedKey (cs.length + 1) cs

/-! ## Values -/

/-- What is left of a text after a comment at its front. -/
def skipComment? : List Char → Option (List Char)
  | '#' :: rest =>
    if (rest.takeWhile (· != '\n')).any isControl then none else some (rest.dropWhile (· != '\n'))
  | cs => some cs

/-- What is left of a text after blanks, line feeds and comments at its front. `fuel` bounds the
number of comments. -/
def skipLayout : (fuel : Nat) → List Char → Option (List Char)
  | 0, _ => none
  | fuel + 1, cs =>
    match cs.dropWhile isLayout with
    | '#' :: rest => (skipComment? ('#' :: rest)).bind (skipLayout fuel)
    | after => some after

/-- What is left of a text after all layout at its front. -/
def skipAll (cs : List Char) : Option (List Char) := skipLayout (cs.length + 1) cs

mutual

def value : (fuel : Nat) → List Char → Except Fault (Value × List Char)
  | 0, _ => .error .malformed
  | fuel + 1, cs =>
    match cs with
    | '"' :: _ => do
      let (text, after) ← text? cs
      pure (.str (String.ofList text), after)
    | '\'' :: _ => do
      let (text, after) ← text? cs
      pure (.str (String.ofList text), after)
    | 't' :: 'r' :: 'u' :: 'e' :: after => .ok (.bool true, after)
    | 'f' :: 'a' :: 'l' :: 's' :: 'e' :: after => .ok (.bool false, after)
    | '[' :: rest => do
      let (items, after) ← items fuel (← skipAll rest)
      pure (.list items, after)
    | '\x7b' :: rest =>
      match rest.dropWhile isBlankInLine with
      | '\x7d' :: after => .ok (.dict [], after)
      | rest => do
        let (table, after) ← pairs fuel [] [] rest
        pure (.dict table, after)
    | _ => numberOrMoment cs

def items : (fuel : Nat) → List Char → Except Fault (List Value × List Char)
  | 0, _ => .error .malformed
  | fuel + 1, cs =>
    match cs with
    | ']' :: after => .ok ([], after)
    | _ => do
      let (item, after) ← value fuel cs
      match ← skipAll after with
      | ']' :: after => pure ([item], after)
      | ',' :: rest =>
        let (more, after) ← items fuel (← skipAll rest)
        pure (item :: more, after)
      | _ => .error .malformed

/-- Reads the entries of a table between braces with its closing brace, given the entries before
and the places among them that may not be changed. -/
def pairs : (fuel : Nat) → Table → List Key → List Char → Except Fault (Table × List Char)
  | 0, _, _, _ => .error .malformed
  | fuel + 1, table, frozen, cs => do
    let (key, after) ← key? cs
    let rest ← expect '=' after
    let (item, after) ← value fuel (rest.dropWhile isBlankInLine)
    if isInside frozen key then .error .malformed
    else
      let table ← changeAt false (addValue (key.getLast?.getD "") item) key.dropLast table
      match after.dropWhile isBlankInLine with
      | '\x7d' :: after => pure (table, after)
      | ',' :: rest =>
        pairs fuel table (if isContainer item then key :: frozen else frozen)
          (rest.dropWhile isBlankInLine)
      | _ => .error .malformed

end

/-! ## Statements -/

/-- A document while it is read. -/
structure Ledger where
  table : Table
  /-- The table that the last header opened. -/
  header : Key
  /-- The tables that may not be declared again. -/
  declared : List Key
  /-- The tables that dotted keys have gone through since the last header. -/
  pending : List Key
  /-- The values inside which nothing may be changed. -/
  frozen : List Key

namespace Ledger

def empty : Ledger := ⟨[], [], [], [], []⟩

/-- A header has come: what dotted keys went through before counts as declared. -/
def closeHeader (l : Ledger) : Ledger :=
  { l with declared := l.pending ++ l.declared, pending := [] }

def openTable (place : Key) (l : Ledger) : Option Ledger :=
  if l.declared.contains place || isInside l.frozen place then none
  else (changeAt true some place l.table).map fun table =>
    { l with table, header := place, declared := place :: l.declared }

/-- Opens a new table at the end of the list at a place. What was said of the places inside it was
said of the table before it. -/
def openItem (place : Key) (l : Ledger) : Option Ledger :=
  if isInside l.frozen place then none
  else
    (changeAt true (addItem (place.getLast?.getD "")) place.dropLast l.table).map fun table =>
      { l with
        table
        header := place
        declared := place :: l.declared.filter (!place.isPrefixOf ·)
        frozen := l.frozen.filter (!place.isPrefixOf ·) }

def through (l : Ledger) (key : Key) : List Key :=
  (List.range key.length).tail.map fun count => l.header ++ key.take count

def set (key : Key) (item : Value) (l : Ledger) : Option Ledger :=
  let place := l.header ++ key
  let passed := l.through key
  if passed.any l.declared.contains || isInside l.frozen place.dropLast then none
  else
    (changeAt true (addValue (key.getLast?.getD "") item) place.dropLast l.table).map fun table =>
      { l with
        table
        pending := passed ++ l.pending
        frozen := if isContainer item then place :: l.frozen else l.frozen }

end Ledger

/-- What is left after a header's closing brackets, if they follow a key. -/
def closed (closing : List Char) (read : Key × List Char) : Option (Key × List Char) :=
  (restAfter? closing read.2).map (read.1, ·)

/-- Reads one statement, or nothing where a line is empty. -/
def statement (l : Ledger) : List Char → Except Fault (Ledger × List Char)
  | '[' :: '[' :: rest => do
    let (place, after) ← closed [']', ']'] (← key? (rest.dropWhile isBlankInLine))
    pure (← l.closeHeader.openItem place, after)
  | '[' :: rest => do
    let (place, after) ← closed [']'] (← key? (rest.dropWhile isBlankInLine))
    pure (← l.closeHeader.openTable place, after)
  | cs =>
    match cs with
    | [] => .ok (l, cs)
    | '\n' :: _ => .ok (l, cs)
    | '#' :: _ => .ok (l, cs)
    | _ => do
      let (key, after) ← key? cs
      let rest := (← expect '=' after).dropWhile isBlankInLine
      let (item, after) ← value (2 * rest.length + 2) rest
      pure (← l.set key item, after)

/-- Reads lines up to the end of the text. `fuel` bounds their number. -/
def statements : (fuel : Nat) → Ledger → List Char → Except Fault Ledger
  | 0, _, _ => .error .malformed
  | fuel + 1, l, cs => do
    let (l, after) ← statement l (cs.dropWhile isBlankInLine)
    match ← skipComment? (after.dropWhile isBlankInLine) with
    | [] => pure l
    | '\n' :: rest => statements fuel l rest
    | _ => .error .malformed

/-- A text whose lines all end with a line feed alone. -/
def unifyBreaks : List Char → List Char
  | '\r' :: '\n' :: rest => '\n' :: unifyBreaks rest
  | c :: rest => c :: unifyBreaks rest
  | [] => []

/-- The table that a TOML document writes. -/
def read (source : String) : Except Fault Table :=
  let cs := unifyBreaks source.toList
  (statements (cs.length + 1) .empty cs).map (·.table)

end RepoAtlas.Toml
