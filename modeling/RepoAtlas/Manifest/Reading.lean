import RepoAtlas.Json.Reader
import RepoAtlas.Manifest.Basic
import RepoAtlas.Manifest.Kind
import RepoAtlas.Manifest.Requirement
import RepoAtlas.Path
import RepoAtlas.Text.Case
import RepoAtlas.Toml.Reader

/-!
# Reading manifests

Each kind of manifest has a function from its text to the packages and entry points it declares. A
text that is not well formed is a problem of that manifest: it is reported, and the others are read
all the same. `ManifestInfo.ofTexts` reads all manifests in path order; of several that declare a
package, the first one's version counts.

Two things are no problem of one manifest but end the reading, as a `ManifestError`: a value in
place of a list of requirements that has no items, and an integer with too many digits, be it that
it cannot be read or that it cannot be written as a version. How deeply values may be nested before
an interpreter gives up is left out.
-/

namespace RepoAtlas

open Text

/-- What a manifest declares. -/
structure Declarations where
  packages : List (String × String)
  hints : List (EntryHint String)
deriving DecidableEq, Repr

/-- Why the text of a manifest is not well formed. -/
inductive ManifestProblem where
  | invalidToml
  | invalidJson (fault : Json.Fault) (line : Nat)
  | rootNotObject
deriving DecidableEq, Repr

/-- The wording of a problem. What exactly is wrong with a TOML text is left open. -/
def ManifestProblem.message : ManifestProblem → String
  | .invalidToml => "invalid TOML (...)"
  | .invalidJson fault line =>
    "invalid JSON (" ++ fault.message ++ " at line " ++ toString line ++ ")"
  | .rootNotObject => "package.json root must be an object"

/-- Why manifests are not read at all. -/
inductive ManifestError where
  /-- The manifests are not handed over as a mapping. -/
  | notAMapping
  /-- The content of a manifest is not a text. -/
  | notATextAt (path : String)
  /-- A value stands in place of a list of requirements and has no items. -/
  | noItems (value : Value)
  /-- An integer in a text has too many digits to be read. -/
  | longInteger (digits : Nat)
  /-- A version is, or has in it, an integer with too many digits to be written. -/
  | longVersion (version : Value)
deriving DecidableEq, Repr

def ManifestError.message : ManifestError → String
  | .notAMapping => "manifests must be a mapping of path to text"
  | .notATextAt _ => "manifest paths and contents must be strings"
  | .noItems value => value.literal ++ " is not a list of requirements"
  | .longInteger digits => Numeral.tooLongMessage (some digits)
  | .longVersion _ => Numeral.tooLongMessage none

namespace Manifest

/-! ## Values -/

/-- The texts among the items of a value: a list has its items, a text its characters, a table its
keys, and a value that counts as false has none. -/
def textItems (value : Value) : Except ManifestError (List String) :=
  match value with
  | .list items => .ok (items.filterMap fun item => match item with
    | .str s => some s
    | _ => none)
  | .str s => .ok (s.toList.map String.singleton)
  | .dict entries => .ok (entries.map (·.1))
  | value => if value.isTruthy then .error (.noItems value) else .ok []

def entriesOf : Option Value → List (String × Value)
  | some (.dict entries) => entries
  | _ => []

/-- The version in what a table says of a package. -/
def versionOf : Value → Value
  | .str s => .str s
  | .dict entries => (entries.lookup "version").getD (.str "*")
  | _ => .str "*"

def versionsOfTable (entries : List (String × Value)) : List (String × Value) :=
  entries.map fun (name, spec) => (name, versionOf spec)

/-- The versions of packages as they are shown. -/
def shownVersions (versions : List (String × Value)) : List (String × String) :=
  versions.map fun (name, version) => (name, version.text)

/-- Makes sure that all versions can be shown. -/
def checkVersions (versions : List (String × Value)) : Except ManifestError Unit :=
  match versions.find? fun (_, version) => !version.isWritable with
  | some (_, version) => .error (.longVersion version)
  | none => .ok ()

/-- The entry points that a table of scripts names; what follows a colon is inside the module. -/
def scriptHints (manifest : String) (table : Option Value) : List (EntryHint String) :=
  (entriesOf table).filterMap fun (_, target) =>
    match target with
    | .str target =>
      let module := trim (beforeFirst ':' target)
      if module = "" then none else some ⟨"module", module, manifest⟩
    | _ => none

/-! ## The kinds -/

def projectRequirements (project : List (String × Value)) :
    Except ManifestError (List Requirement) := do
  let required ← textItems ((project.lookup "dependencies").getD .null)
  let optional ← (entriesOf (project.lookup "optional-dependencies")).mapM fun (_, values) =>
    textItems values
  pure ((required ++ optional.flatten).map Requirement.parse)

/-- The table of the Poetry tool in a `pyproject.toml`. -/
def poetryTable (table : Toml.Table) : List (String × Value) :=
  entriesOf ((entriesOf (table.lookup "tool")).lookup "poetry")

def poetryVersions (table : Toml.Table) : List (String × Value) :=
  versionsOfTable <| (entriesOf ((poetryTable table).lookup "dependencies")).filter
    fun (name, _) => lower name != "python"

/-- What a `pyproject.toml` declares: its project table and the table of the Poetry tool. -/
def ofPyproject (path : String) (table : Toml.Table) : Except ManifestError Declarations := do
  let project := entriesOf (table.lookup "project")
  let requirements ← projectRequirements project
  checkVersions (poetryVersions table)
  pure
    { packages :=
        Entries.addNew (Requirement.declared requirements) (shownVersions (poetryVersions table))
      hints := scriptHints path (project.lookup "scripts")
        ++ scriptHints path (project.lookup "gui-scripts")
        ++ scriptHints path ((poetryTable table).lookup "scripts") }

def pipfileVersions (table : Toml.Table) : List (String × Value) :=
  versionsOfTable
    (entriesOf (table.lookup "packages") ++ entriesOf (table.lookup "dev-packages"))

def ofPipfile (table : Toml.Table) : Except ManifestError Declarations := do
  checkVersions (pipfileVersions table)
  pure ⟨Entries.addNew [] (shownVersions (pipfileVersions table)), []⟩

def packageTargets (entries : List (String × Value)) : List String :=
  let texts := fun (values : List Value) => values.filterMap fun value => match value with
    | .str s => some s
    | _ => none
  let programs := match entries.lookup "bin" with
    | some (.dict programs) => (programs.mergeSort fun a b => a.1 ≤ b.1).map (·.2)
    | some value => [value]
    | none => []
  texts ((entries.lookup "main").toList ++ (entries.lookup "module").toList ++ programs)

/-- The hint at a file that is named relative to its manifest, unless it lies outside the
repository. -/
def fileHint? (manifest target : String) : Option (EntryHint String) :=
  let path := Path.normalize (Path.join (Path.parent manifest) target)
  if startsWith "../" path then none else some ⟨"path", path, manifest⟩

def dependencyTables : List String :=
  ["dependencies", "devDependencies", "peerDependencies", "optionalDependencies"]

def packageVersions (entries : List (String × Value)) : List (String × Value) :=
  dependencyTables.flatMap fun key => entriesOf (entries.lookup key)

/-- What a `package.json` declares whose versions can all be shown. -/
def ofPackageJson (path : String) (entries : List (String × Value)) : Declarations where
  packages := Entries.addNew [] (shownVersions (packageVersions entries))
  hints := (packageTargets entries).filterMap (fileHint? path)

/-- What a TOML text declares, given what a table does. -/
def ofToml (ofTable : Toml.Table → Except ManifestError Declarations) (text : String) :
    Except ManifestError (Except ManifestProblem Declarations) :=
  match Toml.read text with
  | .ok table => (ofTable table).map .ok
  | .error .malformed => .ok (.error .invalidToml)
  | .error (.longInteger digits) => .error (.longInteger digits)

/-- What a JSON text declares, given what an object does. -/
def ofJson (ofObject : List (String × Value) → Except ManifestError Declarations) (text : String) :
    Except ManifestError (Except ManifestProblem Declarations) :=
  match Json.read text with
  | .ok (.dict entries) => (ofObject entries).map .ok
  | .ok _ => .ok (.error .rootNotObject)
  | .error ⟨.longInteger digits, _⟩ => .error (.longInteger digits)
  | .error ⟨fault, offset⟩ =>
    .ok (.error (.invalidJson fault (Json.lineAt text.toList offset)))

/-- What a manifest declares, or what is wrong with its text. -/
def declarations (kind : ManifestKind) (path text : String) :
    Except ManifestError (Except ManifestProblem Declarations) :=
  match kind with
  | .packageJson =>
    ofJson (fun entries => do
      checkVersions (packageVersions entries)
      pure (ofPackageJson path entries)) text
  | .pyproject => ofToml (ofPyproject path) text
  | .pipfile => ofToml ofPipfile text
  | .requirements => .ok (.ok ⟨Requirement.packagesOfList text, []⟩)

/-! ## Frameworks -/

/-- The Python frameworks that are looked for, by the names of their packages. -/
def pythonFrameworks : List (String × String) :=
  [("fastapi", "FastAPI"), ("django", "Django"), ("flask", "Flask"),
    ("sqlalchemy", "SQLAlchemy"), ("pydantic", "Pydantic"), ("click", "Click")]

/-- The Node frameworks that are looked for, by the names of their packages. -/
def nodeFrameworks : List (String × String) :=
  [("express", "Express"), ("koa", "Koa"), ("@nestjs/core", "NestJS"), ("next", "Next.js"),
    ("react", "React"), ("vue", "Vue")]

/-- The frameworks whose packages are among some names, in whatever case. -/
def frameworksAmong (known : List (String × String)) (names : List String) : List String :=
  (known.filter fun (package, _) => (names.map lower).contains package).map (·.2)

end Manifest

namespace ManifestInfo

open Manifest

def addDeclarations (kind : ManifestKind) (declared : Declarations) (info : ManifestInfo String) :
    ManifestInfo String :=
  let info := { info with entryHints := info.entryHints ++ declared.hints }
  match kind.language with
  | .javaScript => { info with nodePackages := Entries.addNew info.nodePackages declared.packages }
  | _ => { info with pythonPackages := Entries.addNew info.pythonPackages declared.packages }

def addPath (path : String) (info : ManifestInfo String) : ManifestInfo String :=
  { info with manifests := info.manifests ++ [path] }

/-- Notes that a manifest is not well formed. -/
def addProblem (path : String) (problem : ManifestProblem) (info : ManifestInfo String) :
    ManifestInfo String :=
  { info with warnings := info.warnings ++ [path ++ ": " ++ problem.message], degraded := true }

/-- What has been gathered from the manifests read so far. The names of packages are kept beside
what the manifests say: those of one manifest after those of the other, with repetitions. -/
structure Gathered where
  info : ManifestInfo String
  pythonNames : List String
  nodeNames : List String

namespace Gathered

def start : Gathered := ⟨empty, [], []⟩

def addDeclarations (kind : ManifestKind) (declared : Declarations) (gathered : Gathered) :
    Gathered :=
  let gathered := { gathered with info := gathered.info.addDeclarations kind declared }
  let names := declared.packages.map (·.1)
  match kind.language with
  | .javaScript => { gathered with nodeNames := gathered.nodeNames ++ names }
  | _ => { gathered with pythonNames := gathered.pythonNames ++ names }

def addProblem (path : String) (problem : ManifestProblem) (gathered : Gathered) : Gathered :=
  { gathered with info := gathered.info.addProblem path problem }

/-- Reads one more manifest; a file that is no manifest adds nothing. -/
def addManifest (gathered : Gathered) (path text : String) : Except ManifestError Gathered :=
  match ManifestKind.ofPath? path with
  | none => .ok gathered
  | some kind => do
    let gathered := { gathered with info := gathered.info.addPath path }
    match ← declarations kind path text with
    | .ok declared => pure (gathered.addDeclarations kind declared)
    | .error problem => pure (gathered.addProblem path problem)

def addContent (gathered : Gathered) (file : String × Value) : Except ManifestError Gathered :=
  match file.2 with
  | .str text => gathered.addManifest file.1 text
  | _ => .error (.notATextAt file.1)

/-- What the manifests say, with the frameworks that the names of the packages show. -/
def withFrameworks (gathered : Gathered) : ManifestInfo String :=
  { gathered.info with
    frameworks :=
      (frameworksAmong pythonFrameworks gathered.pythonNames
        ++ frameworksAmong nodeFrameworks gathered.nodeNames).eraseDups }

end Gathered

/-- What manifests say, whatever is handed over as manifests. -/
def ofValue (manifests : Value) : Except ManifestError (ManifestInfo String) :=
  match manifests with
  | .dict entries => do
    let ordered := entries.mergeSort fun a b => a.1 ≤ b.1
    let gathered ← ordered.foldlM Gathered.addContent .start
    pure gathered.withFrameworks
  | _ => .error .notAMapping

/-- What is wrong with the text of a manifest; nothing is wrong with a file that is no manifest. -/
def problem? (path : String) (content : Value) : Option ManifestProblem :=
  match ManifestKind.ofPath? path, content with
  | some kind, .str text =>
    match declarations kind path text with
    | .ok (.error problem) => some problem
    | _ => none
  | _, _ => none

/-- The manifests that are not well formed, in path order. -/
def problems (manifests : Value) : List (String × ManifestProblem) :=
  match manifests with
  | .dict entries =>
    (entries.mergeSort fun a b => a.1 ≤ b.1).filterMap fun (path, content) =>
      (problem? path content).map (path, ·)
  | _ => []

/-- What manifests say, given their paths and texts. -/
def ofTexts (manifests : List (String × String)) : Except ManifestError (ManifestInfo String) :=
  ofValue (.dict (manifests.map fun (path, text) => (path, .str text)))

end ManifestInfo

end RepoAtlas
