import RepoAtlas.Language

/-!
# File records

Every file of a run has a record that says what the file is and what became of it. A record begins
as pending and makes at most one transition, to parsed or to failed; the only way to change its
status is `FileRecord.transition`, which refuses a second one.
-/

namespace RepoAtlas

/-- What became of a file. -/
inductive ParseStatus where
  | pending
  | parsed
  | failed
deriving DecidableEq, Repr, Inhabited

namespace ParseStatus

def all : List ParseStatus := [.pending, .parsed, .failed]

def label : ParseStatus → String
  | .pending => "Pending"
  | .parsed => "Parsed"
  | .failed => "Failed"

def ofLabel? (label : String) : Option ParseStatus := all.find? (·.label == label)

theorem ofLabel?_label (status : ParseStatus) : ofLabel? status.label = some status := by
  cases status <;> decide

end ParseStatus

/-- What a file is and what became of it. Texts are of type `τ`, since records are also read from
documents, where a name may be any value. -/
structure FileRecord (τ : Type) where
  path : τ
  language : Language
  size : Int
  status : ParseStatus
  /-- Why the file failed; records that did not fail have none. -/
  failureReason : Option τ
  /-- The grammar that parses the file, if its language is recognised. -/
  grammar : Option τ
  role : τ
deriving DecidableEq, Repr

/-- An attempt to change the status of a record that is not pending. -/
structure TransitionError where
  path : String
  origin : ParseStatus
  goal : ParseStatus
deriving DecidableEq, Repr

def TransitionError.message (e : TransitionError) : String :=
  e.path ++ ": cannot move from " ++ e.origin.label ++ " to " ++ e.goal.label

namespace FileRecord

def map {τ υ : Type} (text : τ → υ) (record : FileRecord τ) : FileRecord υ where
  path := text record.path
  language := record.language
  size := record.size
  status := record.status
  failureReason := record.failureReason.map text
  grammar := record.grammar.map text
  role := text record.role

/-- Gives a pending record its final status and the reason for it. -/
def transition (goal : ParseStatus) (reason : Option String) (record : FileRecord String) :
    Except TransitionError (FileRecord String) :=
  if record.status = .pending then .ok { record with status := goal, failureReason := reason }
  else .error ⟨record.path, record.status, goal⟩

def markParsed (record : FileRecord String) : Except TransitionError (FileRecord String) :=
  record.transition .parsed none

def markFailed (reason : String) (record : FileRecord String) :
    Except TransitionError (FileRecord String) :=
  record.transition .failed (some reason)

end FileRecord

end RepoAtlas
