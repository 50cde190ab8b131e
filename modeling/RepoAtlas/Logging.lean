import RepoAtlas.Path
import RepoAtlas.Text.Case
import RepoAtlas.Text.Quoted

/-!
# Log levels and log lines

A run reports its progress to a log. The console shows what is at least as severe as a level that
can be chosen; a log file, if there is one, receives everything. `LogSetup` is what a configuration
of logging amounts to, and `Log` is what has been written so far.
-/

namespace RepoAtlas

open Text

/-- How severe a message is. -/
inductive LogLevel where
  | debug
  | info
  | warning
  | error
deriving DecidableEq, Repr, Inhabited

/-- A level that has no such name. -/
structure UnknownLevel where
  name : String
deriving DecidableEq, Repr

namespace LogLevel

/-- All levels, the least severe first. -/
def all : List LogLevel := [.debug, .info, .warning, .error]

def label : LogLevel → String
  | .debug => "DEBUG"
  | .info => "INFO"
  | .warning => "WARNING"
  | .error => "ERROR"

def ofLabel? (label : String) : Option LogLevel := all.find? (·.label == label)

/-- The number of a level; a more severe one has a greater number. -/
def severity : LogLevel → Nat
  | .debug => 10
  | .info => 20
  | .warning => 30
  | .error => 40

/-- The names of all levels as they are listed in messages. -/
def listing : String := joined ", " (all.map label)

/-- The level that a name in any case asks for; being verbose wins over every name. -/
def resolve (name : Option String) (verbose : Bool) : Except UnknownLevel LogLevel :=
  if verbose then .ok .debug
  else match name with
    | none => .ok .info
    | some name =>
      match ofLabel? (upper name) with
      | some level => .ok level
      | none => .error ⟨name⟩

end LogLevel

def UnknownLevel.message (e : UnknownLevel) : String :=
  "unknown log level " ++ quoted e.name ++ "; expected one of " ++ LogLevel.listing

/-- A message with the part of the program that it comes from and its severity. -/
structure LogLine where
  part : Option String
  level : LogLevel
  text : String
deriving DecidableEq, Repr

/-- Where messages go. -/
structure LogSetup where
  /-- The least severe level that the console shows. -/
  consoleLevel : LogLevel
  file : Option String
deriving DecidableEq, Repr

namespace LogSetup

def configure (verbose : Bool) (level file : Option String) : Except UnknownLevel LogSetup :=
  (LogLevel.resolve level verbose).map (⟨·, file.map Path.normalize⟩)

def level (setup : LogSetup) : LogLevel :=
  if setup.file.isSome then .debug else setup.consoleLevel

def shows (setup : LogSetup) (level : LogLevel) : Bool :=
  setup.consoleLevel.severity ≤ level.severity

def consoleLine (line : LogLine) : String :=
  "[codemodel] " ++ line.level.label ++ " " ++ line.text

end LogSetup

/-- The name of the logger of a part of the program. -/
def loggerName (part : Option String) : String :=
  match part with
  | none => "codemodel"
  | some part => if part = "" then "codemodel" else "codemodel." ++ part

/-- What has been configured and written so far. -/
structure Log where
  setup : Option LogSetup
  /-- The lines of each log file, without the times at which they were written. -/
  files : List (String × List String)
deriving DecidableEq, Repr

namespace Log

def start : Log := ⟨none, []⟩

/-- Adds lines to a log file, which is created if it does not exist. -/
def append (file : String) (lines : List String) : List (String × List String) →
    List (String × List String)
  | [] => [(file, lines)]
  | (name, old) :: rest =>
    if name = file then (name, old ++ lines) :: rest else (name, old) :: append file lines rest

def configured (setup : LogSetup) (log : Log) : Log where
  setup := some setup
  files := match setup.file with
    | some file => append file [] log.files
    | none => log.files

def fileLine (line : LogLine) : String :=
  line.level.label ++ " " ++ loggerName line.part ++ " [MainThread]: " ++ line.text

/-- Writes a message: the log after it, and what the console shows. Before anything is configured,
only warnings and errors are shown, and without ornament. -/
def write (line : LogLine) (log : Log) : Log × String :=
  match log.setup with
  | none => (log, if LogLevel.warning.severity ≤ line.level.severity then line.text ++ "\n" else "")
  | some setup =>
    let shown := if setup.shows line.level then LogSetup.consoleLine line ++ "\n" else ""
    match setup.file with
    | some file => ({ log with files := append file [fileLine line] log.files }, shown)
    | none => (log, shown)

/-- The lines of a log file, if there is such a file. -/
def linesOf? (log : Log) (file : String) : Option (List String) :=
  log.files.lookup (Path.normalize file)

end Log

end RepoAtlas
