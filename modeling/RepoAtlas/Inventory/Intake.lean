import RepoAtlas.Data.Value
import RepoAtlas.Inventory.Record

/-!
# Accepting files

A run is handed a list of files by some other program. `accept` checks that each element really is a
file with a usable path, its bytes and their number, and reports the first element that is not;
`classify` gives each accepted file its record. Everything after that relies on what was checked
here: paths are relative, have no odd segments, and occur once.
-/

namespace RepoAtlas

open Text

/-- What is handed over as the content of a file: bytes, or something that is not. -/
inductive OfferedContent where
  | bytes (bytes : List UInt8)
  | other (value : Value)
deriving DecidableEq, Repr

/-- An element of the list that is handed over. -/
inductive Offered where
  | file (path : Value) (content : OfferedContent) (size : Value)
  | other (value : Value)
deriving DecidableEq, Repr

/-- A file with everything checked. -/
structure SourceFile where
  path : String
  bytes : List UInt8
deriving DecidableEq, Repr

/-- Why the files are refused. -/
inductive IntakeError where
  | notAList
  | notAFile (position : Nat) (kind : String)
  | noPath (position : Nat)
  | notRelative (path : String)
  | oddSegments (path : String)
  | duplicate (path : String)
  | contentNotBytes (path : String)
  | badSize (path : String)
  | wrongSize (path : String) (declared : Int) (actual : Nat)
deriving DecidableEq, Repr

def IntakeError.message : IntakeError → String
  | .notAList => "files must be a sequence of SourceFile entries"
  | .notAFile position kind =>
    "files[" ++ toString position ++ "] is " ++ kind ++ ", expected SourceFile"
  | .noPath position => "files[" ++ toString position ++ "] has an empty or non-string path"
  | .notRelative path => quoted path ++ " must be a relative POSIX path"
  | .oddSegments path => quoted path ++ " contains empty, '.' or '..' segments"
  | .duplicate path => "duplicate path " ++ quoted path
  | .contentNotBytes path => path ++ ": content must be bytes"
  | .badSize path => path ++ ": size must be a non-negative integer"
  | .wrongSize path declared actual =>
    path ++ ": declared size " ++ toString declared ++ " does not match content length "
      ++ toString actual

namespace Intake

def kindName : Value → String
  | .null => "NoneType"
  | .bool _ => "bool"
  | .int _ => "int"
  | .float _ => "float"
  | .str _ => "str"
  | .moment _ => "datetime"
  | .list _ => "list"
  | .dict _ => "dict"

def isOddSegment (segment : String) : Bool := segment == "" || segment == "." || segment == ".."

def checkPath (path : String) : Except IntakeError Unit :=
  if startsWith "/" path || path.toList.contains '\\' then .error (.notRelative path)
  else if (segments '/' path).any isOddSegment then .error (.oddSegments path)
  else .ok ()

def checkSize (path : String) (bytes : List UInt8) : Value → Except IntakeError Unit
  | .int declared =>
    if declared < 0 then .error (.badSize path)
    else if declared = bytes.length then .ok ()
    else .error (.wrongSize path declared bytes.length)
  | _ => .error (.badSize path)

/-- Checks the element at a position, given the paths before it. -/
def checkFile (position : Nat) (seen : List String) : Offered → Except IntakeError SourceFile
  | .other value => .error (.notAFile position (kindName value))
  | .file (.str path) content size =>
    if path = "" then .error (.noPath position)
    else do
      checkPath path
      if seen.contains path then .error (.duplicate path)
      else match content with
        | .other _ => .error (.contentNotBytes path)
        | .bytes bytes => do
          checkSize path bytes size
          pure ⟨path, bytes⟩
  | .file _ _ _ => .error (.noPath position)

def checkFrom (position : Nat) (seen : List String) :
    List Offered → Except IntakeError (List SourceFile)
  | [] => .ok []
  | item :: more => do
    let file ← checkFile position seen item
    let rest ← checkFrom (position + 1) (file.path :: seen) more
    pure (file :: rest)

end Intake

namespace SourceFile

/-- The files handed over, if all of them are acceptable. -/
def accept (offered : List Offered) : Except IntakeError (List SourceFile) :=
  Intake.checkFrom 0 [] offered

/-- The record of a file before anything is done with it. -/
def record (file : SourceFile) : FileRecord String :=
  let (language, grammar) := Language.ofPath file.path
  { path := file.path
    language
    size := file.bytes.length
    status := .pending
    failureReason := none
    grammar
    role := Role.ofPath file.path }

def inPathOrder (files : List SourceFile) : List SourceFile :=
  files.mergeSort fun a b => a.path ≤ b.path

/-- The records of the files handed over, in path order. -/
def classify (offered : List Offered) : Except IntakeError (List (FileRecord String)) :=
  (accept offered).map fun files => (inPathOrder files).map record

end SourceFile

end RepoAtlas
