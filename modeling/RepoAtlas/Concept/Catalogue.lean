import RepoAtlas.Concept.Architecture
import RepoAtlas.Concept.Design
import RepoAtlas.Concept.Framework

/-!
# The catalogue of rules

A run uses the library's own rules and those that plugins offer, or of these the ones that are asked
for by name, in whatever case. `Rule.discover` goes through the own rules in their order and then
through the plugins in the order of their names; the first rule of a name is the one that counts.
The names that are asked for are crossed out as they are found, and what is left in the end is
unknown.
-/

namespace RepoAtlas

open Text

/-- What comes of loading a plugin and making a rule with it. -/
inductive PluginOffer where
  | rule (rule : Rule)
  /-- It loads, but what it makes is not a rule. -/
  | notARule
  /-- It loads, but making a rule fails. -/
  | raises (failure : RuleFailure)
  /-- It does not load. -/
  | broken (reason : String)

/-- An installed plugin. -/
structure Plugin where
  name : String
  offer : PluginOffer

/-- Why there is no list of rules. -/
inductive DiscoveryError where
  | broken (plugin reason : String)
  | notARule (plugin : String)
  | raised (plugin : String) (failure : RuleFailure)
  | unknown (names : List String)
deriving DecidableEq, Repr

def DiscoveryError.message : DiscoveryError → String
  | .broken plugin reason =>
    "Failed to load rule entry point '" ++ plugin ++ "': " ++ reason
  | .notARule _ => "Rule entry point must be a Rule subclass or factory"
  | .raised _ failure => failure.message
  | .unknown names => "Unknown rules requested: " ++ joined ", " names

/-- What making a rule with a plugin comes to. -/
def Plugin.made (plugin : Plugin) : Except DiscoveryError Rule :=
  match plugin.offer with
  | .rule rule => .ok rule
  | .notARule => .error (.notARule plugin.name)
  | .raises failure => .error (.raised plugin.name failure)
  | .broken reason => .error (.broken plugin.name reason)

namespace Rule

def builtIn : List Rule := DesignRules.all ++ ArchitectureRules.all ++ FrameworkRules.all

/-- The rules chosen so far. -/
structure Chosen where
  /-- The lower-case names that are asked for and that nothing was found under yet; `none` if all
  rules are wanted. -/
  missing : Option (List String)
  rules : List Rule
  /-- The lower-case names under which something was found. -/
  seen : List String

/-- Registers a rule under a name. If the name is not asked for, was found before, or both, no rule
is made. -/
def Chosen.register (chosen : Chosen) (name : String) (made : Except DiscoveryError Rule) :
    Except DiscoveryError Chosen :=
  let key := lower name
  if chosen.missing.any (!·.contains key) then .ok chosen
  else if chosen.seen.contains key then .ok chosen
  else do
    let rule ← made
    pure
      { missing := chosen.missing.map (·.filter (· != key))
        rules := chosen.rules ++ [rule]
        seen := chosen.seen ++ [key] }

def Chosen.addBuiltIn (chosen : Chosen) (rule : Rule) : Except DiscoveryError Chosen :=
  chosen.register rule.name (.ok rule)

/-- Registers a plugin. One that does not load is an error even if it would not be asked. -/
def Chosen.addPlugin (chosen : Chosen) (plugin : Plugin) : Except DiscoveryError Chosen :=
  match plugin.offer with
  | .broken reason => .error (.broken plugin.name reason)
  | _ => chosen.register plugin.name plugin.made

/-- The lower-case names that are asked for; `none` if all rules are wanted. -/
def wantedNames (enabled : List String) : Option (List String) :=
  if enabled.isEmpty then none else some (enabled.map lower)

/-- The rules that are asked for, all of them if none is. -/
def discover (plugins : List Plugin) (enabled : List String) :
    Except DiscoveryError (List Rule) := do
  let ordered := plugins.mergeSort fun a b => a.name ≤ b.name
  let own ← builtIn.foldlM Chosen.addBuiltIn ⟨wantedNames enabled, [], []⟩
  let chosen ← ordered.foldlM Chosen.addPlugin own
  let missing := Naming.ascending (chosen.missing.getD [])
  if missing.isEmpty then pure chosen.rules else .error (.unknown missing)

end Rule

end RepoAtlas
