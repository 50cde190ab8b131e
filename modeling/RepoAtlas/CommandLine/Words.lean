import RepoAtlas.Text.Split
import RepoAtlas.Text.Word

/-!
# Words of a command line

A command understands some options, each with a name that is written after two dashes and perhaps a
letter that is written after one. Names may be cut short as long as they remain unique, letters of
options without a value may be written together, and a value stands in the next word or in the same
one: after an equals sign, or directly after a letter. After the word `--` no word is an option.

`scan` sorts the words of a command line into options and plain words.
-/

namespace RepoAtlas.CommandLine

open Text

/-- An option of a command. -/
structure Flag where
  name : String
  letter : Option Char
  takesValue : Bool
deriving DecidableEq, Repr

/-- An option with the value it is given, if it takes one. -/
structure Given where
  flag : Flag
  value : Option String
deriving DecidableEq, Repr

/-- What a word says that is written as options. -/
structure OptionWord where
  given : List Given
  /-- The option whose value is the next word. -/
  pending : Option Flag
  /-- Whether some of it is no option of the command. -/
  isStray : Bool
deriving DecidableEq, Repr

/-- What a word is to a command. -/
inductive Word where
  | plain
  | options (word : OptionWord)
  /-- It is written as an option with a value that the option does not take. -/
  | refused
  /-- It is cut so short that several options could be meant. -/
  | ambiguous
deriving DecidableEq, Repr

namespace Word

/-- An option that is written without a value in the same word. -/
def bare (flag : Flag) : OptionWord :=
  if flag.takesValue then ⟨[], some flag, false⟩ else ⟨[⟨flag, none⟩], none, false⟩

/-- An option that is written with a value in the same word. -/
def valued? (flag : Flag) (value : String) : Option OptionWord :=
  if flag.takesValue then some ⟨[⟨flag, some value⟩], none, false⟩ else none

/-- What the letter of an option and the characters after it say. -/
def letters? (flags : List Flag) (flag : Flag) : List Char → Option OptionWord
  | [] => some (bare flag)
  | '=' :: value => valued? flag (String.ofList value)
  | c :: more =>
    if flag.takesValue then valued? flag (String.ofList (c :: more))
    else if c = '-' then none
    else match flags.find? (·.letter == some c) with
      | none => some ⟨[⟨flag, none⟩], none, true⟩
      | some next =>
        (letters? flags next more).map fun word => { word with given := ⟨flag, none⟩ :: word.given }

/-- Whether all characters are decimal digits, and there are some. -/
def areDigits (cs : List Char) : Bool := !cs.isEmpty && cs.all fun c => (digitValue? c).isSome

def isNegativeNumber (cs : List Char) : Bool :=
  match cs with
  | '-' :: unsigned =>
    let digits := if unsigned.getLast? = some '\n' then unsigned.dropLast else unsigned
    areDigits digits ||
      match digits.dropWhile fun c => (digitValue? c).isSome with
      | '.' :: fraction => areDigits fraction
      | _ => false
  | _ => false

/-- What a word is that begins with a dash and names no option of the command: a negative number and
a word with a space are plain. -/
def ofUnknown (word : String) : Word :=
  if isNegativeNumber word.toList || word.toList.contains ' ' then .plain
  else .options ⟨[], none, true⟩

def ofOption? : Option OptionWord → Word
  | some word => .options word
  | none => .refused

def ofName (flags : List Flag) (word name : String) : Word :=
  let written := beforeFirst '=' name
  let value := afterText? "=" name
  let meant := match flags.filter (·.name == written) with
    | [] => flags.filter fun flag => startsWith written flag.name
    | exact => exact
  match meant, value with
  | [], _ => ofUnknown word
  | [flag], none => .options (bare flag)
  | [flag], some value => ofOption? (valued? flag value)
  | _, _ => .ambiguous

def read (flags : List Flag) (word : String) : Word :=
  match word.toList with
  | '-' :: '-' :: name => ofName flags word (String.ofList name)
  | '-' :: letter :: more =>
    match flags.find? (·.letter == some letter) with
    | some flag => ofOption? (letters? flags flag more)
    | none => ofUnknown word
  | _ => .plain

end Word

/-! ## Scanning -/

/-- Words are used wrongly. -/
structure Misuse where
deriving DecidableEq, Repr

/-- The words of a command line, sorted. -/
structure Scanned where
  given : List Given
  plain : List String
  /-- Whether there was something that the command has no use for. -/
  isStray : Bool
deriving DecidableEq, Repr

def separator : String := "--"

/-- The next word, if it can be the value of an option. -/
def nextValue? (flags : List Flag) : List String → Option String
  | [] => none
  | word :: _ =>
    if word = separator then none
    else match Word.read flags word with
      | .plain => some word
      | _ => none

/-- The options of a word, completed by the value in the next one. -/
def complete (flags : List Flag) (word : OptionWord) (rest : List String) :
    Except Misuse (List Given) :=
  match word.pending with
  | none => .ok word.given
  | some flag =>
    match nextValue? flags rest with
    | some value => .ok (word.given ++ [⟨flag, some value⟩])
    | none => .error {}

def leftAfter (word : OptionWord) (rest : List String) : List String :=
  if word.pending.isSome then rest.tail else rest

theorem length_leftAfter (word : OptionWord) (rest : List String) :
    (leftAfter word rest).length ≤ rest.length := by
  unfold leftAfter
  split <;> simp

/-- Sorts words up to an option that ends the command line, if there is one. A separator is stray
when an option stands between it and a plain word before it: `settled` says that this would be so,
and `seen` that it would be after one more option. -/
def scanFrom (flags : List Flag) (isLast : Flag → Bool) (seen settled : Bool)
    (words : List String) : Except Misuse Scanned :=
  match words with
  | [] => .ok ⟨[], [], false⟩
  | word :: rest =>
    if word = separator then .ok ⟨[], rest, settled⟩
    else match Word.read flags word with
      | .refused | .ambiguous => .error {}
      | .plain => do
        let more ← scanFrom flags isLast true settled rest
        pure { more with plain := word :: more.plain }
      | .options options => do
        let given ← complete flags options rest
        if given.any fun g => isLast g.flag then pure ⟨given, [], options.isStray⟩
        else
          let more ← scanFrom flags isLast seen seen (leftAfter options rest)
          pure ⟨given ++ more.given, more.plain, options.isStray || more.isStray⟩
termination_by words.length
decreasing_by
  · simp
  · simpa using Nat.lt_succ_of_le (length_leftAfter options rest)

/-- Whether a word before the separator is ambiguous. Nothing else matters then. -/
def hasAmbiguous (flags : List Flag) (words : List String) : Bool :=
  (words.takeWhile (· != separator)).any fun word => Word.read flags word = .ambiguous

/-- Sorts words into options and plain words, up to an option that ends the command line. -/
def scan (flags : List Flag) (isLast : Flag → Bool) (words : List String) :
    Except Misuse Scanned :=
  if hasAmbiguous flags words then .error {} else scanFrom flags isLast false false words

end RepoAtlas.CommandLine
