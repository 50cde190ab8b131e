import RepoAtlas.CommandLine.Words
import RepoAtlas.Document.Format
import RepoAtlas.Number.Numeral

/-!
# Invocations

There are two commands: `analyze` writes the document of a repository, and `check` verifies that a
document holds nothing but facts. `Invocation.ofWords` understands the words of a command line, or
says that help is asked for or that the words are used wrongly.
-/

namespace RepoAtlas.CommandLine

open Text

/-- What the command `analyze` is told. -/
structure AnalyzeArguments where
  path : String
  /-- The file that the document is written to instead of the console. -/
  output : Option String
  format : Option Format
  timeBudget : Option Binary64
  workers : Option Int
  logFile : Option String
deriving DecidableEq, Repr

/-- What the command `check` is told. -/
structure CheckArguments where
  file : String
  format : Option Format
deriving DecidableEq, Repr

/-- A command with what it is told. -/
inductive Command where
  | analyze (arguments : AnalyzeArguments)
  | check (arguments : CheckArguments)
deriving DecidableEq, Repr

/-- What a command line asks for. -/
structure Invocation where
  verbose : Bool
  command : Command
deriving DecidableEq, Repr

/-- Why there is nothing to be done. -/
inductive Refusal where
  | helpWanted
  | misuse
deriving DecidableEq, Repr

/-! ## The options -/

/-- Asks for help; nothing after it counts. -/
def helpFlag : Flag := ⟨"help", some 'h', false⟩

def verboseFlag : Flag := ⟨"verbose", some 'v', false⟩

def outputFlag : Flag := ⟨"output", some 'o', true⟩

def formatFlag : Flag := ⟨"format", none, true⟩

def timeBudgetFlag : Flag := ⟨"time-budget", none, true⟩

def workersFlag : Flag := ⟨"workers", none, true⟩

def logFileFlag : Flag := ⟨"log-file", none, true⟩

/-- The options that may stand before the name of the command. -/
def commonFlags : List Flag := [helpFlag, verboseFlag]

def analyzeFlags : List Flag :=
  commonFlags ++ [outputFlag, formatFlag, timeBudgetFlag, workersFlag, logFileFlag]

def checkFlags : List Flag := commonFlags ++ [formatFlag]

/-- Whether nothing after an option counts. -/
def isLast (flag : Flag) : Bool := flag == helpFlag

/-! ## Values of options -/

def readValue {α : Type} (read? : String → Option α) (g : Given) : Except Refusal α :=
  match g.value.bind read? with
  | some a => .ok a
  | none => .error .misuse

def addToAnalyze (arguments : AnalyzeArguments) (g : Given) :
    Except Refusal AnalyzeArguments :=
  if g.flag = helpFlag then .error .helpWanted
  else if g.flag = outputFlag then .ok { arguments with output := g.value }
  else if g.flag = formatFlag then
    (readValue Format.ofLabel? g).map fun format => { arguments with format := some format }
  else if g.flag = timeBudgetFlag then
    (readValue Numeral.readFloat? g).map fun budget => { arguments with timeBudget := some budget }
  else if g.flag = workersFlag then
    (readValue Numeral.readInt? g).map fun workers => { arguments with workers := some workers }
  else if g.flag = logFileFlag then .ok { arguments with logFile := g.value }
  else .ok arguments

def addToCheck (arguments : CheckArguments) (g : Given) : Except Refusal CheckArguments :=
  if g.flag = helpFlag then .error .helpWanted
  else if g.flag = formatFlag then
    (readValue Format.ofLabel? g).map fun format => { arguments with format := some format }
  else .ok arguments

/-! ## Understanding -/

/-- The words of a command, sorted. -/
def scanned (flags : List Flag) (words : List String) : Except Refusal Scanned :=
  match scan flags isLast words with
  | .ok scanned => .ok scanned
  | .error _ => .error .misuse

def Scanned.has (scanned : Scanned) (flag : Flag) : Bool := scanned.given.any (·.flag == flag)

namespace Invocation

def ofAnalyzeWords (verbose isStray : Bool) (words : List String) : Except Refusal Invocation := do
  let scanned ← scanned analyzeFlags words
  let start : AnalyzeArguments := ⟨".", none, none, none, none, none⟩
  let arguments ← scanned.given.foldlM addToAnalyze start
  if isStray || scanned.isStray then .error .misuse
  else
    let done := fun path =>
      Invocation.mk (verbose || scanned.has verboseFlag) (.analyze { arguments with path })
    match scanned.plain with
    | [] => pure (done arguments.path)
    | [path] => pure (done path)
    | _ => .error .misuse

def ofCheckWords (verbose isStray : Bool) (words : List String) : Except Refusal Invocation := do
  let scanned ← scanned checkFlags words
  let arguments ← scanned.given.foldlM addToCheck ⟨"", none⟩
  if isStray || scanned.isStray then .error .misuse
  else match scanned.plain with
    | [file] => pure ⟨verbose || scanned.has verboseFlag, .check { arguments with file }⟩
    | _ => .error .misuse

def ofWordsFrom (verbose isStray : Bool) : List String → Except Refusal Invocation
  | [] => .error .misuse
  | word :: rest =>
    if word = "analyze" then ofAnalyzeWords verbose isStray rest
    else if word = "check" then ofCheckWords verbose isStray rest
    else match Word.read commonFlags word with
      | .options options =>
        if options.given.any (·.flag == helpFlag) then .error .helpWanted
        else ofWordsFrom (verbose || options.given.any (·.flag == verboseFlag))
          (isStray || options.isStray) rest
      | _ => .error .misuse

def ofWords (words : List String) : Except Refusal Invocation :=
  if hasAmbiguous commonFlags words then .error .misuse else ofWordsFrom false false words

end Invocation

end RepoAtlas.CommandLine
