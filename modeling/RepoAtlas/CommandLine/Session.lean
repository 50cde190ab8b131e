import RepoAtlas.CommandLine.Invocation
import RepoAtlas.Repository.Snapshot
import RepoAtlas.Run.Charting
import RepoAtlas.Text.Case

/-!
# Sessions

A session carries out one command: it begins with a disk and ends with another, an exit code, and
what was written to the console. Mistakes of the user end it with exit code 1 and a message. What
nobody has foreseen, such as an output file in a directory that does not exist, is an `Abort`: then
there is nothing but the cause.
-/

namespace RepoAtlas.CommandLine

open Text

/-- What a session needs to know besides the command. -/
structure Environment where
  plugins : List Plugin
  parser : Parser
  readYaml : Yaml.Reader
  /-- The time of the session as the lines of log files begin with it. -/
  time : String

/-- A command in progress. -/
structure Session where
  disk : Disk
  setup : LogSetup
  logAt : Option (List String)
  /-- What the console was shown apart from results. -/
  shown : String

/-- How a session ended. -/
structure Ending where
  exitCode : Nat
  output : String
  /-- What the console was shown apart from the result. -/
  shown : String
  disk : Disk

/-- Why a session was cut short. -/
inductive Abort where
  | badFile (fault : FileFault)
  | badSettings (error : SettingsError)
  | badPlan (error : OptionError)
  | badManifests (error : ManifestError)
  | badDocument (error : DecodeError)
deriving DecidableEq, Repr

def Abort.message : Abort → String
  | .badFile fault => fault.message
  | .badSettings error => error.message
  | .badPlan error => error.message
  | .badManifests error => error.message
  | .badDocument error => error.message

/-- Why a command is not carried on. -/
inductive Stop where
  /-- The user is told something, and the session ends. -/
  | mistake (session : Session) (message : String)
  | abort (cause : Abort)

/-- Brings a fault of the disk into the form in which it cuts a session short. -/
def orAbort {α : Type} : Except FileFault α → Except Stop α
  | .ok a => .ok a
  | .error fault => .error (.abort (.badFile fault))

def analyzeFailed (text : String) : String := "codemodel analyze failed: " ++ text ++ "\n"

namespace Session

/-! ## Logging -/

def fileLine (env : Environment) (line : LogLine) : List UInt8 :=
  encode (env.time ++ " " ++ Log.fileLine line ++ "\n")

def bytesAt (disk : Disk) (names : List String) : List UInt8 :=
  match disk.root.get? names with
  | some (.file bytes) => bytes
  | _ => []

def log (env : Environment) (session : Session) (line : LogLine) : Session where
  disk := match session.logAt with
    | some names =>
      session.disk.put (.file (bytesAt session.disk names ++ fileLine env line)) names
    | none => session.disk
  setup := session.setup
  logAt := session.logAt
  shown :=
    if session.setup.shows line.level then
      session.shown ++ LogSetup.consoleLine line ++ "\n"
    else session.shown

/-- Puts a logging setup in place. The log file is created, with the directories above it. -/
def configure (setup : LogSetup) (session : Session) : Except FileFault Session :=
  match setup.file with
  | none => .ok { session with setup, logAt := none }
  | some path => do
    let path := Path.tidy path
    let disk ← session.disk.ensureDirectory (Path.parent path)
    let (names, bytes) ← disk.fileAt path
    pure { session with disk := disk.put (.file bytes) names, setup, logAt := some names }

def start (disk : Disk) : Session := ⟨disk, ⟨.info, none⟩, none, ""⟩

/-- The file that an option names, unless it is empty. -/
def named (file : Option String) : Option String := file.filter (· != "")

def opening (disk : Disk) (verbose : Bool) (logFile : Option String) : Except FileFault Session :=
  (start disk).configure ⟨if verbose then .debug else .info, named logFile⟩

/-! ## Analysing -/

/-- Applies what the settings say about logging, if they say anything. Options win over them. -/
def applyLogging (verbose : Bool) (logFile : Option String) (settings : Settings)
    (session : Session) : Except FileFault Session :=
  if settings.logLevel.isNone && settings.logFile.isNone then .ok session
  else
    let level := if verbose then .debug else settings.logLevel.getD .info
    session.configure ⟨level, (named logFile).or settings.logFile⟩

def readSettings (env : Environment) (path : String) (session : Session) : Except Stop Settings :=
  match session.disk.configuration env.readYaml path with
  | .ok settings => .ok settings
  | .error (.badFile fault) => .error (.abort (.badFile fault))
  | .error (.refused error) =>
    if error.isRefusal then .error (.mistake session (analyzeFailed error.message))
    else .error (.abort (.badSettings error))

/-- The options of a run: those of the command line where they are given, else the settings. -/
def optionsOf (arguments : AnalyzeArguments) (settings : Settings) (session : Session) :
    Except Stop RunOptions :=
  if arguments.timeBudget.any fun budget => budget.less 0 || budget.same 0 then
    .error (.mistake session "--time-budget must be positive\n")
  else if arguments.workers.any (· < 1) then
    .error (.mistake session "--workers must be at least 1\n")
  else
    let options := settings.options
    .ok { options with
      timeBudget := arguments.timeBudget.orElse fun _ => options.timeBudget
      workers := arguments.workers.getD options.workers }

/-- What a file of a directory holds when it is read. Only the log file changes during a walk: it
has grown by a line for each file that was skipped. -/
def currentBytes (env : Environment) (session : Session) (directory : String)
    (skipped : List Snapshot.Skipped) (path : String) (bytes : List UInt8) : List UInt8 :=
  match session.logAt with
  | some names =>
    if Disk.absolute names = Path.join directory path then
      bytesAt ((skipped.map (·.line)).foldl (log env) session).disk names
    else bytes
  | none => bytes

def loadedLine (snapshot : Snapshot) (directory : String) : LogLine :=
  ⟨some "ingest", .info,
    "Loaded " ++ toString snapshot.files.length ++ " files ("
      ++ toString snapshot.manifests.length ++ " manifests) from " ++ directory⟩

def takeSnapshot (env : Environment) (path : String) (session : Session) :
    Except Stop (Session × Snapshot) :=
  match session.disk.survey env.readYaml path [] with
  | .error (.badFile (.notUtf8 bad)) => .error (.mistake session (analyzeFailed bad.message))
  | .error (.badFile fault) => .error (.abort (.badFile fault))
  | .error (.badSettings error) => .error (.abort (.badSettings error))
  | .error error => .error (.mistake session (error.message ++ "\n"))
  | .ok survey =>
    let session := (survey.warningLines).foldl (log env) session
    let (files, skipped) :=
      Snapshot.split Snapshot.defaultLimit (currentBytes env session survey.directory) []
        (survey.node.filesBelow survey.rules)
    let snapshot := Snapshot.ofSplit files skipped
    let session := (skipped.map (·.line)).foldl (log env) session
    .ok (log env session (loadedLine snapshot survey.directory), snapshot)

def planOf (env : Environment) (options : RunOptions) (session : Session) : Except Stop Plan :=
  match Plan.ofOptions env.plugins options with
  | .ok plan => .ok plan
  | .error (.badRules (.broken plugin reason)) =>
    .error (.abort (.badPlan (.badRules (.broken plugin reason))))
  | .error (.badRules (.notARule plugin)) =>
    .error (.abort (.badPlan (.badRules (.notARule plugin))))
  | .error (.badRules (.raised plugin (.missingKey key))) =>
    .error (.abort (.badPlan (.badRules (.raised plugin (.missingKey key)))))
  | .error (.badRules (.raised _ (.brokenContract text))) =>
    .error (.mistake session (analyzeFailed ("input contract violated: " ++ text)))
  | .error error => .error (.mistake session (analyzeFailed error.message))

/-- What is said of the files when only half of a run succeeded. -/
def halfwaySummary (found : Atlas String Span) : String :=
  let statuses := found.statusCounts.mergeSort fun a b => a.1.label ≤ b.1.label
  toString found.modules.length ++ " module(s) were normalized before the failure ("
    ++ (Document.counts ParseStatus.label statuses).literal
    ++ "). Run with --verbose for more details.\n"

def runPlan (env : Environment) (plan : Plan) (snapshot : Snapshot) (session : Session) :
    Except Stop (Session × Atlas String Span) :=
  let offered := snapshot.files.map fun file =>
    Offered.file (.str file.path) (.bytes file.bytes) (.int file.bytes.length)
  let manifests := Value.dict (snapshot.manifests.map fun (path, text) => (path, .str text))
  let (lines, result) := plan.runLogged env.parser offered manifests
  let session := lines.foldl (log env) session
  match result with
  | .ok atlas => .ok (session, atlas)
  | .error (.halfway cause found) =>
    let error := RunError.halfway cause found
    .error (.mistake session (analyzeFailed error.message ++ halfwaySummary found))
  | .error (.noHarvest (.manifests (.noItems value))) =>
    .error (.abort (.badManifests (.noItems value)))
  | .error (.noHarvest (.manifests (.longInteger digits))) =>
    .error (.mistake session (analyzeFailed (ManifestError.longInteger digits).message))
  | .error (.noHarvest (.manifests (.longVersion version))) =>
    .error (.mistake session (analyzeFailed (ManifestError.longVersion version).message))
  | .error error =>
    .error (.mistake session (analyzeFailed ("input contract violated: " ++ error.message)))

/-- Writes the document of an atlas to a file or as the result. -/
def deliver (env : Environment) (format : Format) (output : Option String)
    (atlas : Atlas String Span) (session : Session) : Except Stop (Session × String) :=
  let text := Document.write format (Document.ofAtlas (Document.heldAtlas atlas))
  match named output with
  | none => .ok (session, text)
  | some file => do
    let path := Path.tidy file
    let disk ← orAbort (session.disk.write path (encode text))
    let line : LogLine :=
      ⟨some "cli", .info, "Wrote " ++ format.label ++ " document to " ++ path⟩
    pure (log env { session with disk } line, "")

def analyze (env : Environment) (disk : Disk) (verbose : Bool) (arguments : AnalyzeArguments) :
    Except Stop (Session × String) := do
  let session ← orAbort (opening disk verbose arguments.logFile)
  let path := Path.tidy arguments.path
  let settings ← session.readSettings env path
  let session ← orAbort (session.applyLogging verbose arguments.logFile settings)
  let options ← session.optionsOf arguments settings
  let (session, snapshot) ← session.takeSnapshot env path
  let plan ← session.planOf env options
  let (session, atlas) ← session.runPlan env plan snapshot
  session.deliver env (arguments.format.getD settings.format) arguments.output atlas

/-! ## Checking -/

/-- The format of a document that is in a file with some name. -/
def formatOfFile (path : String) : Format :=
  if [".yaml", ".yml"].contains (lower (Path.suffix path)) then .yaml else .json

def readDocument (env : Environment) (path : String) (format : Format) (session : Session) :
    Except Stop Value :=
  let invalid := fun (text : String) =>
    Stop.mistake session
      (path ++ ": not a valid " ++ format.label ++ " analysis document: " ++ text ++ "\n")
  match session.disk.readText path with
  | .error (.missing path) => .error (.mistake session ((FileFault.missing path).message ++ "\n"))
  | .error (.notUtf8 bad) => .error (invalid bad.message)
  | .error fault => .error (.abort (.badFile fault))
  | .ok text =>
    match Document.load env.readYaml format.label text with
    | .ok document => .ok document
    | .error error => .error (invalid error.message)

/-- Counts the concepts of a document, all of which have to be facts. -/
def countFacts (path : String) (document : Value) (session : Session) : Except Stop Nat :=
  let concepts := match document.get? "concepts" with
    | some value => if value.isTruthy then value else .list []
    | none => .list []
  match Document.itemsOf concepts with
  | .error error => .error (.abort (.badDocument error))
  | .ok records =>
    match Document.requireFacts records with
    | .ok count => .ok count
    | .error error => .error (.mistake session (path ++ ": " ++ error.message ++ "\n"))

def check (env : Environment) (disk : Disk) (verbose : Bool) (arguments : CheckArguments) :
    Except Stop (Session × String) := do
  let session ← orAbort (opening disk verbose none)
  let path := Path.tidy arguments.file
  let document ← session.readDocument env path (arguments.format.getD (formatOfFile path))
  let count ← session.countFacts path document
  pure (session, toString count ++ " concept(s) verified as FACT\n")

end Session

/-! ## Commands -/

def ending : Except Stop (Session × String) → Except Abort Ending
  | .ok (session, output) => .ok ⟨0, output, session.shown, session.disk⟩
  | .error (.mistake session message) => .ok ⟨1, "", session.shown ++ message, session.disk⟩
  | .error (.abort cause) => .error cause

def usage : String :=
  "usage: codemodel [-h] [-v] \x7banalyze,check\x7d ...\n"

def execute (env : Environment) (disk : Disk) (words : List String) : Except Abort Ending :=
  match Invocation.ofWords words with
  | .error .helpWanted => .ok ⟨0, usage, "", disk⟩
  | .error .misuse => .ok ⟨2, "", usage, disk⟩
  | .ok invocation =>
    match invocation.command with
    | .analyze arguments => ending (Session.analyze env disk invocation.verbose arguments)
    | .check arguments => ending (Session.check env disk invocation.verbose arguments)

end RepoAtlas.CommandLine
