import RepoAtlas.Atlas
import RepoAtlas.Inventory.Intake
import RepoAtlas.Logging
import RepoAtlas.Manifest.Reading
import RepoAtlas.Outline.OfFile

/-!
# Harvests

The first half of a run deals with the files one by one: each file of a known language is parsed and
outlined, or fails. When all have been dealt with, the `Harvest` holds their records and outlines
and what the manifests say, and nothing later changes any of that.

Files are dealt with by several workers at the same time, which makes no difference to what comes of
them except for one thing: time. Every file takes some, and a parser may never end, in which case
its worker is lost. When the time budget is spent, all files that are not dealt with are given up.
Which files these are is up to the clock: `Harvest.ofFilesBy` has a `Clock` as a parameter, and
`Harvest.ofFilesWithin` leaves open what makes a file too late. `Harvest.ofFiles` is for a clock
that stands still.
-/

namespace RepoAtlas

/-- What a parser does with a file. -/
inductive ParserAnswer where
  | tree (root : SyntaxNode)
  | givesUp
  | neverEnds
deriving Repr

abbrev Parser := SourceFile → ParserAnswer

/-- What comes of a file. -/
inductive Outcome where
  | outlined (module : SourceModule)
  | failed (failure : OutlineFailure)
  /-- The file was given up before it was dealt with. -/
  | unfinished
deriving DecidableEq, Repr

namespace Outcome

def ofOutline : Except OutlineFailure SourceModule → Outcome
  | .ok module => .outlined module
  | .error failure => .failed failure

/-- What comes of a file for which there is a worker. The parser is only reached if nothing is wrong
with the file before that. -/
def ofFile (parser : Parser) (file : SourceFile) : Outcome :=
  let (language, grammar) := Language.ofPath file.path
  let outline := ModuleOutline.ofFile file.path language grammar ⟨file.bytes⟩
  match parser file with
  | .tree root => ofOutline (outline (some root))
  | .givesUp => ofOutline (outline none)
  | .neverEnds =>
    match outline none with
    | .error .parserGaveUp => .unfinished
    | result => ofOutline result

/-- What comes of a file when some files are too late. -/
def within (late : SourceFile → Bool) (parser : Parser) (file : SourceFile) : Outcome :=
  if late file then .unfinished else ofFile parser file

/-- What comes of files that workers take up in order, given what comes of each one that a worker
gets done with and how long that takes. Each worker is free from some tick on; one that never gets
done is lost. What is not done when the budget is spent is given up. -/
def schedule (budget : Option Nat) : (free : List Nat) → List (Outcome × Nat) → List Outcome
  | _, [] => []
  | free, (outcome, ticks) :: rest =>
    match free.min? with
    | none => .unfinished :: schedule budget free rest
    | some start =>
      if outcome = .unfinished then .unfinished :: schedule budget (free.erase start) rest
      else
        let done := start + ticks
        (if budget.all (done ≤ ·) then outcome else .unfinished) ::
          schedule budget (done :: free.erase start) rest

/-- The outline, if there is one. -/
def module? : Outcome → Option SourceModule
  | .outlined module => some module
  | _ => none

/-- The reason that is noted for a file that was given up. -/
def timeout : String := "timeout"

def settle (record : FileRecord String) :
    Outcome → Except TransitionError (FileRecord String)
  | .outlined _ => record.markParsed
  | .failed failure => record.markFailed failure.message
  | .unfinished => record.markFailed timeout

end Outcome

/-! ## Time -/

/-- What is up to the clock, and not to the files. -/
structure Clock where
  /-- How many ticks a worker is busy with a file, if it ever gets done with it. -/
  ticks : SourceFile → Nat
  /-- After how many ticks the time budget is spent; `none` if there is none, so that all files are
  waited for. -/
  budget : Option Nat

namespace Clock

/-- A clock that stands still while files are dealt with, so that nothing but a parser that never
ends uses up the time budget. -/
def still : Clock := ⟨fun _ => 0, some 0⟩

/-- What comes of files that a number of workers takes up in order. No more workers are needed than
there are files. -/
def outcomes (clock : Clock) (workers : Nat) (parser : Parser) (files : List SourceFile) :
    List Outcome :=
  Outcome.schedule clock.budget (List.replicate (min workers files.length) 0) <|
    files.map fun file => (Outcome.ofFile parser file, clock.ticks file)

end Clock

/-! ## Harvests -/

/-- What is known when all files have been dealt with. -/
structure Harvest where
  files : List (FileRecord String)
  modules : List SourceModule
  manifest : ManifestInfo String
  /-- The number of files that were given up. -/
  unfinished : Nat
deriving DecidableEq, Repr

/-- Why there is no harvest. -/
inductive HarvestError where
  | intake (error : IntakeError)
  | manifests (error : ManifestError)
  | transition (error : TransitionError)
deriving DecidableEq, Repr

def HarvestError.message : HarvestError → String
  | .intake error => error.message
  | .manifests error => error.message
  | .transition error => error.message

namespace Harvest

def isRecognised (file : SourceFile) : Bool := (Language.ofPath file.path).1 != .unrecognised

/-- The records of files, given the outcomes of those of a known language, in order. The others stay
pending. -/
def settleAll : List SourceFile → List Outcome →
    Except TransitionError (List (FileRecord String))
  | [], _ => .ok []
  | file :: files, outcomes =>
    if isRecognised file then
      match outcomes with
      | outcome :: more => do
        let record ← outcome.settle file.record
        let rest ← settleAll files more
        pure (record :: rest)
      | [] => do
        let rest ← settleAll files []
        pure (file.record :: rest)
    else do
      let rest ← settleAll files outcomes
      pure (file.record :: rest)

/-- The harvest of files in path order, given the outcomes of those of a known language. -/
def ofOutcomes (files : List SourceFile) (outcomes : List Outcome)
    (manifest : ManifestInfo String) : Except TransitionError Harvest := do
  let records ← settleAll files outcomes
  pure
    { files := records
      modules := DependencyGraph.inPathOrder (outcomes.filterMap (·.module?))
      manifest
      unfinished := outcomes.count .unfinished }

/-- The harvest, given what comes of the files of known languages in path order. -/
def ofOutcomesOf (outcomesOf : List SourceFile → List Outcome) (offered : List Offered)
    (manifests : Value) : Except HarvestError Harvest :=
  match SourceFile.accept offered with
  | .error e => .error (.intake e)
  | .ok accepted =>
    match ManifestInfo.ofValue manifests with
    | .error e => .error (.manifests e)
    | .ok manifest =>
      let files := SourceFile.inPathOrder accepted
      match ofOutcomes files (outcomesOf (files.filter isRecognised)) manifest with
      | .error e => .error (.transition e)
      | .ok harvest => .ok harvest

/-- The harvest when some files are too late. -/
def ofFilesWithin (late : SourceFile → Bool) (parser : Parser) (offered : List Offered)
    (manifests : Value) : Except HarvestError Harvest :=
  ofOutcomesOf (·.map (Outcome.within late parser)) offered manifests

/-- The harvest when the clock decides what is too late. -/
def ofFilesBy (clock : Clock) (workers : Nat) (parser : Parser) (offered : List Offered)
    (manifests : Value) : Except HarvestError Harvest :=
  ofOutcomesOf (clock.outcomes workers parser) offered manifests

def ofFiles (workers : Nat) (parser : Parser) (offered : List Offered) (manifests : Value) :
    Except HarvestError Harvest :=
  ofFilesBy .still workers parser offered manifests

/-! ## Reports -/

/-- The warnings of a run: those about manifests, and one about files that were given up. -/
def warnings (harvest : Harvest) : List String :=
  harvest.manifest.warnings ++
    (if harvest.unfinished = 0 then []
    else ["time budget exhausted: " ++ toString harvest.unfinished ++ " file(s) not normalized"])

def recognisedCount (harvest : Harvest) : Nat :=
  harvest.files.countP (·.language != .unrecognised)

def fileLines (harvest : Harvest) : List LogLine :=
  let recognised := harvest.recognisedCount
  let failed := harvest.files.countP (·.failureReason.isSome)
  (if harvest.unfinished = 0 then []
  else [⟨some "pipeline", .warning,
    "Time budget exhausted: " ++ toString harvest.unfinished ++ " file(s) not normalized"⟩]) ++
  [⟨some "pipeline", .info,
    "Normalized " ++ toString harvest.modules.length ++ " of " ++ toString recognised
    ++ " source files (" ++ toString failed ++ " failed, "
    ++ toString (harvest.files.length - recognised) ++ " unknown)"⟩]

/-- What is known of the repository if nothing more can be found out. -/
def atlas (harvest : Harvest) : Atlas String Span where
  files := harvest.files
  modules := harvest.modules
  graph := .empty
  analysis := .empty
  entryPoints := []
  concepts := []
  manifest := harvest.manifest
  warnings := harvest.warnings

end Harvest

end RepoAtlas
