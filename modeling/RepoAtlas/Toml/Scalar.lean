import RepoAtlas.Data.Value
import RepoAtlas.Number.Numeral

/-!
# TOML scalars

Texts, numbers and moments at the front of a TOML text. Every function here gives what it read and
what is left, or nothing where the text has no such scalar. Which values a token stands for is
decided when it is read: a number with a fraction or an exponent is a floating-point number, and one
with a base prefix is an integer.

There is a limit to the digits of a decimal integer. A longer one is a `Fault` of its own: the text
may be a TOML document, but reading ends there.
-/

namespace RepoAtlas.Toml

open Text

/-- Why a text is not read. -/
inductive Fault where
  | malformed
  /-- A decimal integer has too many digits. -/
  | longInteger (digits : Nat)
deriving DecidableEq, Repr

/-- Where nothing can be read, the text is malformed. -/
instance : MonadLift Option (Except Fault) where
  monadLift
    | some a => .ok a
    | none => .error .malformed

def isBlankInLine (c : Char) : Bool := c == ' ' || c == '\t'

def isLayout (c : Char) : Bool := isBlankInLine c || c == '\n'

/-- Control characters other than the tab; none may be written as itself within a line. -/
def isControl (c : Char) : Bool := (c.toNat < 0x20 && c != '\t') || c.toNat == 0x7F

/-! ## Texts -/

def shortEscape? : Char → Option Char
  | 'b' => some '\x08'
  | 't' => some '\t'
  | 'n' => some '\n'
  | 'f' => some '\x0c'
  | 'r' => some '\r'
  | '"' => some '"'
  | '\\' => some '\\'
  | _ => none

/-- The character whose code point the next `count` hexadecimal digits write. -/
def codePoint? (count : Nat) (cs : List Char) : Option (Char × List Char) := do
  let digits ← (cs.take count).mapM (asciiDigit? 16)
  let n := digits.foldl (fun n d => 16 * n + d) 0
  if digits.length = count ∧ n.isValidChar then pure (Char.ofNat n, cs.drop count) else none

/-- What an escape writes, given what follows the backslash. -/
def escape? : List Char → Option (Char × List Char)
  | 'u' :: rest => codePoint? 4 rest
  | 'U' :: rest => codePoint? 8 rest
  | letter :: rest => (shortEscape? letter).map (·, rest)
  | [] => none

/-- What is left after a backslash at the end of a line: the blanks up to the next character that
shows are not part of the text. -/
def joinedLine? (cs : List Char) : Option (List Char) :=
  match cs with
  | [] => none
  | c :: _ =>
    if isLayout c then
      match cs.dropWhile isBlankInLine with
      | [] => some []
      | '\n' :: rest => some (rest.dropWhile isLayout)
      | _ => none
    else none

/-- Reads the inside of a text between double quotes, with the quotes that end it. `fuel` bounds
the number of characters and escapes. -/
def basicText (multiline : Bool) : (fuel : Nat) → List Char → Option (List Char × List Char)
  | 0, _ => none
  | _ + 1, [] => none
  | fuel + 1, '"' :: rest =>
    if multiline then
      match rest with
      | '"' :: '"' :: after => some ([], after)
      | _ => (basicText multiline fuel rest).map fun (cs, after) => ('"' :: cs, after)
    else some ([], rest)
  | fuel + 1, '\\' :: rest =>
    match (if multiline then joinedLine? rest else none) with
    | some after => basicText multiline fuel after
    | none =>
      match escape? rest with
      | some (c, after) =>
        (basicText multiline fuel after).map fun (cs, after) => (c :: cs, after)
      | none => none
  | fuel + 1, c :: rest =>
    if isControl c && !(multiline && c == '\n') then none
    else (basicText multiline fuel rest).map fun (cs, after) => (c :: cs, after)

def literalText (multiline : Bool) (cs : List Char) : Option (List Char × List Char) := do
  let (inside, after) ← splitAtFirst? (if multiline then ['\'', '\'', '\''] else ['\'']) cs
  if inside.any fun c => isControl c && !(multiline && c == '\n') then none
  else pure (inside, after)

/-- A line feed directly after the opening quotes is not part of the text. -/
def dropFirstBreak : List Char → List Char
  | '\n' :: rest => rest
  | cs => cs

/-- Up to two more quotes after the closing ones belong to the text. -/
def withFinalQuotes (quote : Char) (inside rest : List Char) : List Char × List Char :=
  let extra := min 2 (rest.takeWhile (· == quote)).length
  (inside ++ List.replicate extra quote, rest.drop extra)

def oneLineText : List Char → Option (List Char × List Char)
  | '"' :: rest => basicText false (rest.length + 1) rest
  | '\'' :: rest => literalText false rest
  | _ => none

def text? : List Char → Option (List Char × List Char)
  | '"' :: '"' :: '"' :: rest =>
    (basicText true (rest.length + 1) (dropFirstBreak rest)).map fun (cs, after) =>
      withFinalQuotes '"' cs after
  | '\'' :: '\'' :: '\'' :: rest =>
    (literalText true (dropFirstBreak rest)).map fun (cs, after) =>
      withFinalQuotes '\'' cs after
  | cs => oneLineText cs

/-! ## Numbers -/

/-- The digits after a first one, each of which may follow a single underscore. -/
def digitsAfter (isDigit : Char → Bool) : List Char → List Char × List Char
  | '_' :: c :: rest =>
    if isDigit c then
      let (digits, after) := digitsAfter isDigit rest
      (c :: digits, after)
    else ([], '_' :: c :: rest)
  | c :: rest =>
    if isDigit c then
      let (digits, after) := digitsAfter isDigit rest
      (c :: digits, after)
    else ([], c :: rest)
  | [] => ([], [])

/-- Reads digits, of which there is at least one. -/
def digitRun (isDigit : Char → Bool) : List Char → Option (List Char × List Char)
  | c :: rest =>
    if isDigit c then
      let (digits, after) := digitsAfter isDigit rest
      some (c :: digits, after)
    else none
  | [] => none

def digitsValue (base : Nat) (digits : List Char) : Nat :=
  (digits.filterMap (asciiDigit? base)).foldl (fun n d => base * n + d) 0

def base? : Char → Option Nat
  | 'x' => some 16
  | 'b' => some 2
  | 'o' => some 8
  | _ => none

def prefixedInteger : List Char → Option (Value × List Char)
  | '0' :: letter :: rest => do
    let base ← base? letter
    let (digits, after) ← digitRun (fun c => (asciiDigit? base c).isSome) rest
    pure (.int (digitsValue base digits), after)
  | _ => none

/-- The whole part of a decimal number: a zero, or digits that do not begin with one. -/
def wholePart : List Char → Option (List Char × List Char)
  | '0' :: rest => some (['0'], rest)
  | cs => digitRun isAsciiDigit cs

/-- The fraction at the front of a text; without one it is empty. -/
def fractionPart (cs : List Char) : List Char × List Char :=
  match cs with
  | '.' :: rest => (digitRun isAsciiDigit rest).getD ([], cs)
  | _ => ([], cs)

/-- The exponent at the front of a text, if there is one. -/
def exponentPart (cs : List Char) : Option Int × List Char :=
  match cs with
  | mark :: rest =>
    if mark == 'e' || mark == 'E' then
      let (negative, unsigned) := Numeral.signed rest
      match digitRun isAsciiDigit unsigned with
      | some (digits, after) =>
        let n : Int := digitsValue 10 digits
        (some (if negative then -n else n), after)
      | none => (none, cs)
    else (none, cs)
  | [] => (none, cs)

/-- The parts of a decimal number; the digits are those that are written. -/
structure DecimalToken where
  negative : Bool
  whole : List Char
  fraction : List Char
  exponent : Option Int
deriving DecidableEq, Repr

def decimalToken (cs : List Char) : Option (DecimalToken × List Char) := do
  let (negative, unsigned) := Numeral.signed cs
  let (whole, afterWhole) ← wholePart unsigned
  let (fraction, afterFraction) := fractionPart afterWhole
  let (exponent, after) := exponentPart afterFraction
  pure (⟨negative, whole, fraction, exponent⟩, after)

def DecimalToken.value (t : DecimalToken) : Except Fault Value :=
  if t.fraction.isEmpty && t.exponent.isNone then
    if Numeral.maxDigits < t.whole.length then .error (.longInteger t.whole.length)
    else
      let n : Int := digitsValue 10 t.whole
      .ok (.int (if t.negative then -n else n))
  else
    .ok (.float (.ofDecimal t.negative (digitsValue 10 (t.whole ++ t.fraction))
      (t.exponent.getD 0 - t.fraction.length)))

def wordNumber (cs : List Char) : Option (Value × List Char) :=
  let (negative, unsigned) := Numeral.signed cs
  match unsigned with
  | 'i' :: 'n' :: 'f' :: after => some (.float (.infinite negative), after)
  | 'n' :: 'a' :: 'n' :: after => some (.float .nan, after)
  | _ => none

def number (cs : List Char) : Except Fault (Value × List Char) :=
  match (prefixedInteger cs).or (wordNumber cs) with
  | some read => .ok read
  | none => do
    let (token, after) ← decimalToken cs
    pure (← token.value, after)

/-! ## Moments -/

def fixedDigits (count low high : Nat) (cs : List Char) : Option (Nat × List Char) := do
  let digits ← (cs.take count).mapM (asciiDigit? 10)
  let n := Numeral.ofDigits digits
  if digits.length = count ∧ low ≤ n ∧ n ≤ high then pure (n, cs.drop count) else none

def expect (c : Char) : List Char → Option (List Char)
  | d :: rest => if c = d then some rest else none
  | [] => none

/-- The microseconds at the front of a text; digits after the sixth are ignored. -/
def microseconds (cs : List Char) : Nat × List Char :=
  match cs with
  | '.' :: rest =>
    let digits := rest.takeWhile isAsciiDigit
    if digits.isEmpty then (0, cs)
    else
      let six := digits.take 6
      (digitsValue 10 (six ++ List.replicate (6 - six.length) '0'), rest.drop digits.length)
  | _ => (0, cs)

def dayTime (cs : List Char) : Option (DayTime × List Char) := do
  let (hour, cs) ← fixedDigits 2 0 23 cs
  let (minute, cs) ← fixedDigits 2 0 59 (← expect ':' cs)
  let (second, cs) ← fixedDigits 2 0 59 (← expect ':' cs)
  let (microsecond, cs) := microseconds cs
  pure (⟨hour, minute, second, microsecond⟩, cs)

def offset? : List Char → Option (Int × List Char)
  | [] => none
  | sign :: rest =>
    if sign == 'Z' || sign == 'z' then some (0, rest)
    else if sign == '+' || sign == '-' then do
      let (hours, rest) ← fixedDigits 2 0 23 rest
      let (minutes, rest) ← fixedDigits 2 0 59 (← expect ':' rest)
      let total : Int := 60 * hours + minutes
      pure (if sign == '-' then -total else total, rest)
    else none

/-- Reads what looks like a date, whether or not the calendar has it. -/
def date? (cs : List Char) : Option (Date × List Char) := do
  let (year, cs) ← fixedDigits 4 0 9999 cs
  let (month, cs) ← fixedDigits 2 1 12 (← expect '-' cs)
  let (day, cs) ← fixedDigits 2 1 31 (← expect '-' cs)
  pure (⟨year, month, day⟩, cs)

/-- The time of day that follows a date, and its offset. -/
def timeOfDate? : List Char → Option ((DayTime × Option Int) × List Char)
  | separator :: rest =>
    if separator == 'T' || separator == 't' || separator == ' ' then do
      let (time, after) ← dayTime rest
      match offset? after with
      | some (minutes, after) => pure ((time, some minutes), after)
      | none => pure ((time, none), after)
    else none
  | [] => none

def momentOf (date : Date) (cs : List Char) : Moment × List Char :=
  match timeOfDate? cs with
  | some ((time, offset), after) => (.dateTime date time offset, after)
  | none => (.date date, cs)

/-- Reads a moment or a number. What looks like a date has to be one. -/
def numberOrMoment (cs : List Char) : Except Fault (Value × List Char) :=
  match date? cs with
  | some (date, after) =>
    if date.isValid then
      let (moment, after) := momentOf date after
      .ok (.moment moment, after)
    else .error .malformed
  | none =>
    match dayTime cs with
    | some (time, after) => .ok (.moment (.time time), after)
    | none => number cs

end RepoAtlas.Toml
