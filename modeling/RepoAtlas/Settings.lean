import RepoAtlas.Document.Format
import RepoAtlas.Logging
import RepoAtlas.Repository.Disk
import RepoAtlas.Yaml.Node

/-!
# Settings

A repository may say how it wants to be analysed in a file at its top. `Settings.ofText` reads the
text of that file; whatever it does not mention keeps its default, and a value that makes no sense
where it stands is refused. A value of the wrong kind in a place where a section, a text or a list
is expected counts as not given.

Two things are asked of others: what a text in YAML says, and where the log file lies, which may be
named relative to the top of the repository.
-/

namespace RepoAtlas

open Text Yaml

/-- How a repository is analysed. -/
structure Settings where
  /-- The seconds that may be spent on outlining files; `none` for as many as it takes. -/
  timeBudget : Option Binary64
  /-- The number of files that are outlined at the same time. -/
  workers : Nat
  /-- Patterns of paths that are left out. -/
  excludePaths : List String
  /-- The rules that are used; none stands for all. -/
  rules : List String
  /-- The weights that differ from the standard ones. -/
  weights : List (String × Binary64)
  format : Format
  logLevel : Option LogLevel
  /-- Where the log file lies. -/
  logFile : Option String
deriving DecidableEq, Repr

/-- Why settings are refused. -/
inductive SettingsError where
  | unreadable (fileName : String)
  | notAMapping
  | badTimeBudget
  | badWorkers
  | badWeight (name : String)
  | badFormat
  | badLogLevel
  /-- An integer stands for a floating-point number and is beyond their range. -/
  | tooLarge (n : Int)
  /-- An integer stands for a text or names a weight and has too many digits to be written. -/
  | tooLong (n : Int)
  | badLogFile (fault : PlaceFault)
deriving DecidableEq, Repr

/-- Whether settings are refused as such. The other errors are not foreseen: they come up while a
value is converted, and end whatever needed the settings. -/
def SettingsError.isRefusal : SettingsError → Bool
  | .tooLarge _ | .tooLong _ | .badLogFile _ => false
  | _ => true

namespace Settings

/-- The name of the file that holds the settings of a repository. -/
def fileName : String := ".codemodel.yml"

/-- The number of workers unless another one is given. -/
def defaultWorkers : Nat := 8

/-- The settings of a repository that says nothing. -/
def default : Settings := ⟨none, defaultWorkers, [], [], [], .json, none, none⟩

end Settings

/-- The wording of a refusal. What exactly is wrong with an unreadable text is left open. -/
def SettingsError.message : SettingsError → String
  | .unreadable fileName => "Failed to parse " ++ fileName ++ ": ..."
  | .notAMapping => Settings.fileName ++ " must contain a mapping at the root"
  | .badTimeBudget => "analysis.time_budget must be a positive number of seconds"
  | .badWorkers => "analysis.max_workers must be a positive integer"
  | .badWeight name => "entrypoints.weights." ++ name ++ " must be a number"
  | .badFormat => "output.format must be 'json' or 'yaml'"
  | .badLogLevel => "logging.level must be one of " ++ LogLevel.listing
  | .tooLarge n => toString n ++ " is too large for a floating-point number"
  | .tooLong _ => Numeral.tooLongMessage none
  | .badLogFile fault => fault.message

namespace Settings

/-! ## Values -/

/-- The value of a key of a section; null counts as not given. -/
def given? (group : Node) (key : String) : Option Node :=
  match group.get? key with
  | some (.scalar .null) => none
  | value => value

/-- The value of a key as a section, which is without entries if it is anything else. -/
def sectionOf (data : Node) (key : String) : Node :=
  match data.get? key with
  | some (.dict entries) => .dict entries
  | _ => .dict []

/-- The text of a scalar. -/
def written (s : Scalar) : Except SettingsError RawText :=
  match s with
  | .str t => .ok t
  | .int n => if Numeral.isWritable n then .ok (.ofString s.text) else .error (.tooLong n)
  | s => .ok (.ofString s.text)

/-- A value as a text, if it is one or has a written form. -/
def textOf? : Node → Except SettingsError (Option RawText)
  | .scalar .null => .ok none
  | .scalar (.moment _) => .ok none
  | .scalar s => (written s).map some
  | _ => .ok none

/-- The text that is given, if there is one. -/
def textGiven? : Option Node → Except SettingsError (Option RawText)
  | some value => textOf? value
  | none => .ok none

/-- A value as a list of texts. A single text is a list of one; nested values are skipped. -/
def textsOf : Node → Except SettingsError (List String)
  | .scalar (.str t) => .ok [t.shown]
  | .list items => (items.mapM textOf?).map fun texts => texts.reduceOption.map (·.shown)
  | _ => .ok []

/-- A value as a floating-point number, if it is a number or a text that writes one. -/
def numberOf? : Node → Except SettingsError (Option Binary64)
  | .scalar (.float x) => .ok (some x)
  | .scalar (.int n) =>
    if (Binary64.ofInt n).isFinite then .ok (some (.ofInt n)) else .error (.tooLarge n)
  | .scalar (.str t) => .ok (Numeral.readFloat? t.shown)
  | _ => .ok none

/-- A value as an integer, if it is one or a text that writes one. -/
def integerOf? : Node → Option Int
  | .scalar (.int n) => some n
  | .scalar (.str t) => Numeral.readShortInt? t.shown
  | _ => none

/-! ## The settings one by one -/

/-- The time budget: more than nothing. -/
def timeBudgetOf (value : Option Node) : Except SettingsError (Option Binary64) :=
  match value with
  | none => .ok none
  | some value => do
    match ← numberOf? value with
    | some x => if x.less 0 || x.same 0 then .error .badTimeBudget else .ok (some x)
    | none => .error .badTimeBudget

/-- The number of workers: at least one. -/
def workersOf (value : Option Node) : Except SettingsError Nat :=
  match value with
  | none => .ok defaultWorkers
  | some value =>
    match integerOf? value with
    | some n => if n < 1 then .error .badWorkers else .ok n.toNat
    | none => .error .badWorkers

def weightOf (entry : Scalar × Node) : Except SettingsError (String × Binary64) := do
  let number ← numberOf? entry.2
  let name ← written entry.1
  match number with
  | some x => pure (name.shown, x)
  | none => .error (.badWeight name.shown)

/-- The weights in a section; keys that are written alike are one name. -/
def weightsOf (value : Node) : Except SettingsError (List (String × Binary64)) :=
  match value with
  | .dict entries => (entries.mapM weightOf).map Entries.ofPairs
  | _ => .ok []

/-- Something that is chosen by its name, if a text is given. -/
def choiceOf {α : Type} (ofName? : String → Option α) (refusal : SettingsError)
    (value : Option Node) : Except SettingsError (Option α) := do
  match ← textGiven? value with
  | none => pure none
  | some name =>
    match ofName? name.shown with
    | some choice => pure (some choice)
    | none => .error refusal

def formatOf (value : Option Node) : Except SettingsError Format :=
  (choiceOf Format.ofLabel? .badFormat value).map (·.getD .json)

/-- The level of a name in any case. -/
def logLevelOf (value : Option Node) : Except SettingsError (Option LogLevel) :=
  choiceOf (fun name => LogLevel.ofLabel? (upper name)) .badLogLevel value

/-- Where the log file lies, given where a name leads; the empty name counts as not given. -/
def logFileOf (placeOf : RawText → Except PlaceFault String) (value : Option Node) :
    Except SettingsError (Option String) := do
  match ← textGiven? value with
  | none => pure none
  | some name =>
    if name.points = [] then pure none
    else match placeOf name with
      | .ok place => pure (some place)
      | .error fault => .error (.badLogFile fault)

/-! ## All settings -/

def ofNode (placeOf : RawText → Except PlaceFault String) (data : Node) :
    Except SettingsError Settings := do
  let analysis := sectionOf data "analysis"
  let timeBudget ← timeBudgetOf (given? analysis "time_budget")
  let workers ← workersOf (given? analysis "max_workers")
  let excludePaths ← textsOf ((analysis.get? "exclude_paths").getD (.scalar .null))
  let rules ← textsOf (((sectionOf data "rules").get? "enabled").getD (.scalar .null))
  let weights ← weightsOf (sectionOf (sectionOf data "entrypoints") "weights")
  let format ← formatOf (given? (sectionOf data "output") "format")
  let logging := sectionOf data "logging"
  let logLevel ← logLevelOf (given? logging "level")
  let logFile ← logFileOf placeOf (given? logging "file")
  pure { timeBudget, workers, excludePaths, rules, weights, format, logLevel, logFile }

/-- The settings that a text gives; one without content gives none. The text is called by the name
of its file if it cannot be read. -/
def ofText (readYaml : Yaml.Reader) (placeOf : RawText → Except PlaceFault String)
    (name text : String) : Except SettingsError Settings :=
  if isBlankText text then .ok default
  else match readYaml text with
    | none => .error (.unreadable name)
    | some (.scalar .null) => .ok default
    | some (.dict entries) => ofNode placeOf (.dict entries)
    | some _ => .error .notAMapping

end Settings

end RepoAtlas
