import RepoAtlas.Data.Value
import RepoAtlas.Number.Numeral
import RepoAtlas.Text.Utf8

/-!
# Reading JSON

A reader for JSON texts that says, when a text is malformed, what was expected and where. Beyond the
standard it accepts the words `NaN`, `Infinity` and `-Infinity`, and of several entries with one key
the last counts, in the place of the first.

What the tokens of a document that are not quoted stand for depends on its `Dialect`: a YAML
document in flow style is laid out like a JSON text, but only a number with a point, and with a sign
in its exponent if it has one, is a floating-point number there; everything else is text.

There is a limit to the digits of an integer in a JSON text. A text with a longer one is not
malformed; reading ends there all the same.
-/

namespace RepoAtlas.Json

open Text

/-! ## Errors -/

/-- What was wrong at the offset where reading stopped. -/
inductive Fault where
  | expectedValue
  | expectedName
  | expectedColon
  | expectedComma
  | unterminatedText
  | controlCharacter
  | badEscape
  | badUnicodeEscape
  | extraText
  | byteOrderMark
  /-- An integer has too many digits. -/
  | longInteger (digits : Nat)
deriving DecidableEq, Repr

/-- A fault and the number of characters before it. -/
structure ReadError where
  fault : Fault
  offset : Nat
deriving DecidableEq, Repr

def Fault.message : Fault → String
  | .expectedValue => "Expecting value"
  | .expectedName => "Expecting property name enclosed in double quotes"
  | .expectedColon => "Expecting ':' delimiter"
  | .expectedComma => "Expecting ',' delimiter"
  | .unterminatedText => "Unterminated string starting at"
  | .controlCharacter => "Invalid control character at"
  | .badEscape => "Invalid \\escape"
  | .badUnicodeEscape => "Invalid \\uXXXX escape"
  | .extraText => "Extra data"
  | .byteOrderMark => "Unexpected UTF-8 BOM (decode using utf-8-sig)"
  | .longInteger digits => Numeral.tooLongMessage (some digits)

/-- The line of an offset, counted from one. -/
def lineAt (source : List Char) (offset : Nat) : Nat := (source.take offset).count '\n' + 1

/-- The place of an offset within its line, counted from one. -/
def columnAt (source : List Char) (offset : Nat) : Nat :=
  ((source.take offset).reverse.takeWhile (· != '\n')).length + 1

/-- The wording of an error and its place in the text, which is not told of a long integer. -/
def ReadError.message (source : String) (e : ReadError) : String :=
  match e.fault with
  | .longInteger digits => (Fault.longInteger digits).message
  | fault =>
    fault.message ++ ": line " ++ toString (lineAt source.toList e.offset)
      ++ " column " ++ toString (columnAt source.toList e.offset)
      ++ " (char " ++ toString e.offset ++ ")"

/-! ## Dialects -/

/-- How unquoted tokens are understood. -/
inductive Dialect where
  | json
  | yaml
deriving DecidableEq, Repr

/-- The parts of an exponent as they are written. -/
structure ExponentToken where
  mark : Char
  sign : Option Char
  digits : List Char
deriving DecidableEq, Repr

/-- The parts of a number token as they are written. -/
structure NumberToken where
  negative : Bool
  whole : List Char
  fraction : List Char
  exponent : Option ExponentToken
deriving DecidableEq, Repr

def ExponentToken.written (e : ExponentToken) : List Char := e.mark :: e.sign.toList ++ e.digits

namespace NumberToken

def digitsValue (cs : List Char) : Nat := Numeral.ofDigits (cs.filterMap (asciiDigit? 10))

def exponentValue (t : NumberToken) : Int :=
  match t.exponent with
  | none => 0
  | some e => if e.sign = some '-' then -(digitsValue e.digits : Int) else digitsValue e.digits

def written (t : NumberToken) : String :=
  String.ofList ((if t.negative then ['-'] else []) ++ t.whole
    ++ (if t.fraction.isEmpty then [] else '.' :: t.fraction)
    ++ (t.exponent.map ExponentToken.written).getD [])

def toBinary64 (t : NumberToken) : Binary64 :=
  .ofDecimal t.negative (digitsValue (t.whole ++ t.fraction)) (t.exponentValue - t.fraction.length)

/-- The number of digits of an integer in a JSON text, if there are too many. -/
def tooManyDigits? (dialect : Dialect) (t : NumberToken) : Option Nat :=
  match t.fraction, t.exponent, dialect with
  | [], none, .json => if Numeral.maxDigits < t.whole.length then some t.whole.length else none
  | _, _, _ => none

/-- What the token stands for: an integer if it has neither fraction nor exponent. -/
def value (dialect : Dialect) (t : NumberToken) : Value :=
  match t.fraction, t.exponent, dialect with
  | [], none, _ => .int (if t.negative then -(digitsValue t.whole : Int) else digitsValue t.whole)
  | [], some _, .yaml => .str t.written
  | _ :: _, some ⟨_, none, _⟩, .yaml => .str t.written
  | _, _, _ => .float t.toBinary64

end NumberToken

/-! ## The reader -/

/-- The part of a text that is still to be read, and how much was read before it. -/
structure Cursor where
  rest : List Char
  offset : Nat

namespace Cursor

def advance (c : Cursor) (count : Nat) : Cursor := ⟨c.rest.drop count, c.offset + count⟩

/-- The blanks between tokens; YAML has no tabs there. -/
def isLayout (dialect : Dialect) (c : Char) : Bool :=
  c == ' ' || c == '\n' || c == '\r' || (c == '\t' && dialect = .json)

def skipLayout (dialect : Dialect) (c : Cursor) : Cursor :=
  c.advance (c.rest.takeWhile (isLayout dialect)).length

end Cursor

/-- The result of reading something at the front of a text. -/
abbrev Read (α : Type) := Except ReadError (α × Cursor)

def hexFour? (cs : List Char) : Option Nat := do
  let digits ← (cs.take 4).mapM (asciiDigit? 16)
  if digits.length = 4 then pure (digits.foldl (fun n d => 16 * n + d) 0) else none

def unicodeEscape? : List Char → Option Nat
  | '\\' :: 'u' :: rest => hexFour? rest
  | _ => none

def surrogatePair? (high low : Nat) : Option Char :=
  if 0xD800 ≤ high ∧ high < 0xDC00 ∧ 0xDC00 ≤ low ∧ low < 0xE000 then
    some (Char.ofNat (0x10000 + (high - 0xD800) * 0x400 + (low - 0xDC00)))
  else none

def shortEscape? : Char → Option Char
  | '"' => some '"'
  | '\\' => some '\\'
  | '/' => some '/'
  | 'b' => some '\x08'
  | 'f' => some '\x0c'
  | 'n' => some '\n'
  | 'r' => some '\r'
  | 't' => some '\t'
  | _ => none

/-- Reads the inside of a text whose opening quote is at `start`, up to and with the closing one.
`fuel` bounds the number of characters and escapes. -/
def readText (start : Nat) : (fuel : Nat) → Cursor → Read (List Char)
  | 0, _ => .error ⟨.unterminatedText, start⟩
  | fuel + 1, c =>
    match c.rest with
    | [] => .error ⟨.unterminatedText, start⟩
    | '"' :: _ => .ok ([], c.advance 1)
    | '\\' :: [] => .error ⟨.unterminatedText, start⟩
    | '\\' :: 'u' :: digits =>
      match hexFour? digits, digits.drop 4 with
      | none, _ => .error ⟨.badUnicodeEscape, c.offset + 1⟩
      | some _, [] => .error ⟨.badUnicodeEscape, c.offset + 1⟩
      | some unit, after =>
        match (unicodeEscape? after).bind (surrogatePair? unit) with
        | some char => (readText start fuel (c.advance 12)).map fun (cs, c) => (char :: cs, c)
        | none => (readText start fuel (c.advance 6)).map fun (cs, c) => (shownPoint unit :: cs, c)
    | '\\' :: letter :: _ =>
      match shortEscape? letter with
      | some char => (readText start fuel (c.advance 2)).map fun (cs, c) => (char :: cs, c)
      | none => .error ⟨.badEscape, c.offset⟩
    | char :: _ =>
      if char.toNat < 0x20 then .error ⟨.controlCharacter, c.offset⟩
      else (readText start fuel (c.advance 1)).map fun (cs, c) => (char :: cs, c)

def digitsAt (cs : List Char) : List Char := cs.takeWhile isAsciiDigit

def exponentAt? : List Char → Option ExponentToken
  | mark :: rest =>
    if mark == 'e' || mark == 'E' then
      let (sign, digits) := match rest with
        | '+' :: more => (some '+', digitsAt more)
        | '-' :: more => (some '-', digitsAt more)
        | more => (none, digitsAt more)
      if digits.isEmpty then none else some ⟨mark, sign, digits⟩
    else none
  | [] => none

/-- The number at the front of a text, with the number of characters that write it. A leading zero
is a number of its own. -/
def numberAt? (cs : List Char) : Option (NumberToken × Nat) :=
  let (negative, unsigned) := match cs with
    | '-' :: rest => (true, rest)
    | _ => (false, cs)
  let whole := match unsigned with
    | '0' :: _ => ['0']
    | _ => digitsAt unsigned
  if whole.isEmpty then none
  else
    let afterWhole := unsigned.drop whole.length
    let fraction := match afterWhole with
      | '.' :: rest => digitsAt rest
      | _ => []
    let pointed := if fraction.isEmpty then 0 else fraction.length + 1
    let signLength := if negative then 1 else 0
    let length := signLength + whole.length + pointed
    match exponentAt? (afterWhole.drop pointed) with
    | some exponent =>
      some (⟨negative, whole, fraction, some exponent⟩, length + exponent.written.length)
    | none => some (⟨negative, whole, fraction, none⟩, length)

def commonWords : List (String × Value) :=
  [("null", .null), ("true", .bool true), ("false", .bool false)]

/-- The words that are values in a dialect. In YAML the words of JSON for the numbers that are not
finite are plain texts. -/
def wordValues : Dialect → List (String × Value)
  | .json =>
    commonWords ++
      [("NaN", .float .nan), ("Infinity", .float (.infinite false)),
        ("-Infinity", .float (.infinite true))]
  | .yaml =>
    commonWords ++
      [("NaN", .str "NaN"), ("Infinity", .str "Infinity"), ("-Infinity", .str "-Infinity"),
        (".nan", .float .nan), (".inf", .float (.infinite false)),
        ("-.inf", .float (.infinite true))]

/-- The word at the front of a text, with its length. -/
def wordAt? (dialect : Dialect) (cs : List Char) : Option (Value × Nat) :=
  ((wordValues dialect).find? fun (word, _) => (restAfter? word.toList cs).isSome).map
    fun (word, value) => (value, word.length)

mutual

def readValue (dialect : Dialect) : (fuel : Nat) → Cursor → Read Value
  | 0, c => .error ⟨.expectedValue, c.offset⟩
  | fuel + 1, c =>
    match c.rest with
    | '"' :: rest =>
      (readText c.offset (rest.length + 1) (c.advance 1)).map fun (cs, c) =>
        (.str (String.ofList cs), c)
    | '[' :: _ =>
      let inside := (c.advance 1).skipLayout dialect
      match inside.rest with
      | ']' :: _ => .ok (.list [], inside.advance 1)
      | _ => (readItems dialect fuel inside).map fun (items, c) => (.list items, c)
    | '\x7b' :: _ =>
      let inside := (c.advance 1).skipLayout dialect
      match inside.rest with
      | '\x7d' :: _ => .ok (.dict [], inside.advance 1)
      | _ => (readEntries dialect fuel inside).map fun (pairs, c) =>
          (.dict (Entries.ofPairs pairs), c)
    | cs =>
      match wordAt? dialect cs with
      | some (value, length) => .ok (value, c.advance length)
      | none =>
        match numberAt? cs with
        | none => .error ⟨.expectedValue, c.offset⟩
        | some (token, length) =>
          match token.tooManyDigits? dialect with
          | some digits => .error ⟨.longInteger digits, c.offset⟩
          | none => .ok (token.value dialect, c.advance length)

/-- Reads the items of a list up to and with its closing bracket. -/
def readItems (dialect : Dialect) : (fuel : Nat) → Cursor → Read (List Value)
  | 0, c => .error ⟨.expectedValue, c.offset⟩
  | fuel + 1, c =>
    match readValue dialect fuel c with
    | .error e => .error e
    | .ok (item, c) =>
      let c := c.skipLayout dialect
      match c.rest with
      | ']' :: _ => .ok ([item], c.advance 1)
      | ',' :: _ =>
        (readItems dialect fuel ((c.advance 1).skipLayout dialect)).map fun (more, c) =>
          (item :: more, c)
      | _ => .error ⟨.expectedComma, c.offset⟩

/-- Reads the entries of an object up to and with its closing brace. -/
def readEntries (dialect : Dialect) : (fuel : Nat) → Cursor → Read (List (String × Value))
  | 0, c => .error ⟨.expectedName, c.offset⟩
  | fuel + 1, c =>
    match c.rest with
    | '"' :: rest =>
      match readText c.offset (rest.length + 1) (c.advance 1) with
      | .error e => .error e
      | .ok (key, c) =>
        let c := c.skipLayout dialect
        match c.rest with
        | ':' :: _ =>
          match readValue dialect fuel ((c.advance 1).skipLayout dialect) with
          | .error e => .error e
          | .ok (value, c) =>
            let entry := (String.ofList key, value)
            let c := c.skipLayout dialect
            match c.rest with
            | '\x7d' :: _ => .ok ([entry], c.advance 1)
            | ',' :: _ =>
              (readEntries dialect fuel ((c.advance 1).skipLayout dialect)).map fun (more, c) =>
                (entry :: more, c)
            | _ => .error ⟨.expectedComma, c.offset⟩
        | _ => .error ⟨.expectedColon, c.offset⟩
    | _ => .error ⟨.expectedName, c.offset⟩

end

def readWith (dialect : Dialect) (source : String) : Except ReadError Value :=
  match source.toList with
  | '\uFEFF' :: _ => .error ⟨.byteOrderMark, 0⟩
  | cs => do
    let (value, c) ← readValue dialect (2 * cs.length + 2) (Cursor.skipLayout dialect ⟨cs, 0⟩)
    let c := c.skipLayout dialect
    if c.rest.isEmpty then pure value else .error ⟨.extraText, c.offset⟩

def read (source : String) : Except ReadError Value := readWith .json source

/-- Whether a line holds nothing but a comment. -/
def isCommentLine (line : String) : Bool :=
  match line.toList.dropWhile (· == ' ') with
  | [] => true
  | c :: _ => c == '#'

def isYamlPrintable (c : Char) : Bool :=
  let n := c.toNat
  n == 9 || n == 10 || n == 13 || (0x20 ≤ n && n ≤ 0x7E) || n == 0x85
    || (0xA0 ≤ n && n ≤ 0xFFFD) || 0x10000 ≤ n

/-- Reads a YAML document in flow style; one without content is null. A byte order mark in front is
not part of it. -/
def readYaml (source : String) : Except ReadError Value :=
  match source.toList.findIdx? fun c => !isYamlPrintable c with
  | some offset => .error ⟨.controlCharacter, offset⟩
  | none =>
    let content := (dropStart? "\uFEFF" source).getD source
    if (lines content).all isCommentLine then .ok .null else readWith .yaml content

end RepoAtlas.Json
