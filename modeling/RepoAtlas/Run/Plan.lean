import RepoAtlas.Concept.Catalogue
import RepoAtlas.Entry.Weights
import RepoAtlas.Settings

/-!
# Plans

A plan is what a run needs to know besides its files: how many of them are parsed at the same time,
the weights of the entry heuristics, and the rules. `Plan.ofOptions` checks what is asked for.

A time budget is checked here, but it is no part of the plan: which files are not done when it is
spent is up to the clock that a run goes by (`Clock`).
-/

namespace RepoAtlas

/-- What is asked of a run. -/
structure RunOptions where
  timeBudget : Option Binary64
  workers : Int
  /-- The names of the rules; none stands for all. -/
  rules : List String
  /-- An object with the weights that differ from the standard ones. -/
  weights : Value
deriving DecidableEq, Repr

def Settings.options (settings : Settings) : RunOptions where
  timeBudget := settings.timeBudget
  workers := settings.workers
  rules := settings.rules
  weights := .dict (settings.weights.map fun (name, weight) => (name, .float weight))

/-- Why there is no plan. -/
inductive OptionError where
  | negativeBudget
  | noWorkers
  | badWeights (error : WeightError)
  | badRules (error : DiscoveryError)
deriving DecidableEq, Repr

def OptionError.message : OptionError → String
  | .negativeBudget => "time_budget must be non-negative"
  | .noWorkers => "max_workers must be at least 1"
  | .badWeights error => error.message
  | .badRules error => error.message

/-- What a run needs to know besides its files. -/
structure Plan where
  workers : Nat
  weights : Weights Binary64
  rules : List Rule

namespace Plan

def weightsOf (options : RunOptions) : Except OptionError (Weights Binary64) :=
  match Weights.ofValue options.weights with
  | .ok weights => .ok weights
  | .error e => .error (.badWeights e)

def rulesOf (plugins : List Plugin) (options : RunOptions) : Except OptionError (List Rule) :=
  match Rule.discover plugins options.rules with
  | .ok rules => .ok rules
  | .error e => .error (.badRules e)

def ofOptions (plugins : List Plugin) (options : RunOptions) : Except OptionError Plan :=
  if options.timeBudget.any (·.less 0) then .error .negativeBudget
  else if options.workers < 1 then .error .noWorkers
  else do
    let weights ← weightsOf options
    let rules ← rulesOf plugins options
    pure ⟨options.workers.toNat, weights, rules⟩

end Plan

end RepoAtlas
