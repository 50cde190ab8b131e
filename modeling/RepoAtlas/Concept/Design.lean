import RepoAtlas.Concept.Rule
import RepoAtlas.Text.Blank
import RepoAtlas.Text.Pattern
import RepoAtlas.Text.Word

/-!
# Design patterns

Five rules that recognise design patterns by how classes and functions are named and what they
instantiate. Each name pattern is written down once, as a `Pattern`, where it is used; most of them
take no notice of case.
-/

namespace RepoAtlas.DesignRules

open Text
open Pattern hiding some

def anyCase (text : String) : Pattern := wordUnder foldAscii text

def anyCaseOf (texts : List String) : Pattern := oneOf (texts.map anyCase)

def underscores : Pattern := many (· == '_')

def underscore? : Pattern := opt (word "_")

def withInstance (text : String) : Pattern :=
  sequence [anyCase text, opt (sequence [underscore?, anyCase "instance"])]

def isConstructor (method : CallableOutline String Span) : Bool :=
  method.name == "constructor" || method.name == "__init__"

def classDetail (name : String) : String × Value := ("class", .str name)

/-! ## Singleton -/

def accessorName : Pattern :=
  sequence [underscores, opt (sequence [anyCase "get", underscore?]),
    oneOf [anyCase "instance", withInstance "shared", withInstance "default", anyCase "current"]]

def instanceFieldName : Pattern :=
  sequence [many (fun c => c == '_' || c == '#'),
    oneOf [anyCase "instance", withInstance "shared", anyCase "singleton", withInstance "default"]]

def singletonConditions (c : ClassOutline String Span) : List (String × Bool) :=
  let constructor? := (c.method? "constructor").or (c.method? "__init__")
  [("private_constructor",
      constructor?.any (·.visibility == "private") || (c.method? "__new__").isSome),
    ("static_accessor", c.methods.any fun m => m.isStatic && accessorName.fillsText m.name),
    ("stored_instance", c.fields.any fun f => f.isStatic && instanceFieldName.fillsText f.name)]

/-- Classes of which two of three hold: their construction is restricted, a static method hands out
the instance, and a static field stores it. -/
def singletons (here : Surroundings) : List Sighting :=
  here.classes.filterMap fun (module, c) =>
    let conditions := singletonConditions c
    if 2 ≤ holding conditions then
      some ⟨module.path, some c.span, conditions, [classDetail c.name]⟩
    else none

/-! ## Observer -/

def observerNouns : List String := ["listener", "observer", "subscriber", "handler", "callback"]

/-- A verb followed by an observer, perhaps an event's. -/
def observerPhrase (verb : String) : Pattern :=
  sequence [anyCase verb, underscore?, opt (sequence [anyCase "event", underscore?]),
    anyCaseOf observerNouns]

def subscribeName : Pattern :=
  oneOf [anyCaseOf ["subscribe", "attach", "register", "on"], observerPhrase "add"]

def unsubscribeName : Pattern :=
  oneOf [anyCaseOf ["unsubscribe", "detach", "unregister", "off"], observerPhrase "remove"]

def notifyName : Pattern :=
  sequence [underscores,
    anyCaseOf ["notify", "emit", "publish", "dispatch", "trigger", "fire", "broadcast"]]

def listenerFieldName : Pattern := anyCaseOf (observerNouns.map (· ++ "s"))

/-- The sub-conditions that the methods of a class which add observers share. -/
def observerConditions (c : ClassOutline String Span) : List (String × Bool) :=
  [("subscribe_method", true),
    ("notify_method", c.methods.any fun m => notifyName.startsText m.name),
    ("unsubscribe_method", c.methods.any fun m => unsubscribeName.fillsText m.name),
    ("listener_store", c.fields.any fun f => listenerFieldName.endsText f.name)]

/-- Methods that add an observer, if the class also notifies, removes or stores observers. -/
def observers (here : Surroundings) : List Sighting :=
  here.classes.flatMap fun (module, c) =>
    let conditions := observerConditions c
    if 2 ≤ holding conditions then
      (c.methods.filter fun m => subscribeName.fillsText m.name).map fun m =>
        ⟨module.path, some m.span, conditions, [classDetail c.name, ("method", .str m.name)]⟩
    else []

/-! ## Factory -/

def factoryVerb : Pattern := sequence [underscores, oneOf (["create", "make", "new"].map word)]

def isFactoryName (name : String) : Bool :=
  (sequence [factoryVerb, one fun c => isAsciiCapital c || c == '_']).startsText name
    || factoryVerb.fillsText name || contains "factory" (lower name)

/-- A function that may be a factory. -/
structure FactoryCandidate where
  callable : CallableOutline String Span
  /-- The class that it is a method of; empty for a function. -/
  owner : String
  /-- Whether it needs no object to be called on, or its class is itself a factory. -/
  standalone : Bool

/-- Whether `a` may be looked at before `b`: by line, then by name. -/
def FactoryCandidate.precedes (a b : FactoryCandidate) : Bool :=
  let la := a.callable.span.startLine
  let lb := b.callable.span.startLine
  la < lb || (la == lb && a.callable.name ≤ b.callable.name)

def methodCandidates (c : ClassOutline String Span) : List FactoryCandidate :=
  (c.methods.filter (!isConstructor ·)).map fun m =>
    ⟨m, c.name, m.isStatic || contains "factory" (lower c.name)⟩

/-- The functions and methods of a module in the order in which they are looked at. -/
def factoryCandidates (module : SourceModule) : List FactoryCandidate :=
  let functions := module.functions.map (FactoryCandidate.mk · "" true)
  (functions ++ module.classes.flatMap methodCandidates).mergeSort FactoryCandidate.precedes

namespace FactoryCandidate

def products (candidate : FactoryCandidate) : List String :=
  candidate.callable.instantiates.filter (· != candidate.owner)

/-- The sighting of a factory, if the name is one of a factory and there is a product. -/
def sighting? (path : String) (candidate : FactoryCandidate) : Option Sighting :=
  let name := candidate.callable.name
  let count := candidate.products.length
  if name ≠ "" ∧ isFactoryName name ∧ count ≠ 0 then
    some
      { file := path
        span := some candidate.callable.span
        conditions :=
          [("factory_name", true), ("instantiates", true), ("multiple_products", 2 ≤ count),
            ("standalone", candidate.standalone)]
        details :=
          [("function", .str name), ("products", .int count)]
            ++ (if candidate.owner = "" then [] else [classDetail candidate.owner]) }
  else none

end FactoryCandidate

/-- Functions and methods that are named like factories and make something. -/
def factories (here : Surroundings) : List Sighting :=
  here.modules.flatMap fun module =>
    (factoryCandidates module).filterMap (·.sighting? module.path)

/-! ## Builder -/

def buildName : Pattern :=
  oneOf [word "build", sequence [word "build_", Pattern.some isWordChar],
    sequence [word "to", underscore?, one isAsciiCapital, many isWordChar]]

def setterName : Pattern :=
  sequence [oneOf (["with", "set", "add"].map word), one fun c => isAsciiCapital c || c == '_']

def setterCount (c : ClassOutline String Span) : Nat :=
  c.methods.countP fun m => setterName.startsText m.name

/-- Classes with a method that finishes the object, if they are called a builder or have two
methods that set parts of it. -/
def builders (here : Surroundings) : List Sighting :=
  here.classes.filterMap fun (module, c) =>
    let named := endsWith "Builder" c.name
    let builds := c.methods.any fun m => buildName.fillsText m.name
    let fluent : Bool := 2 ≤ setterCount c
    if builds && (named || fluent) then
      some
        { file := module.path
          span := some c.span
          conditions :=
            [("builder_name", named), ("build_method", builds), ("fluent_setters", fluent),
              ("accumulates_state", c.fields.any (!·.isStatic))]
          details := [classDetail c.name, ("setters", .int (setterCount c))] }
    else none

/-! ## Strategy -/

/-- The class that a base names, without type arguments, call and qualifiers. -/
def baseClassName (base : String) : String :=
  Naming.lastPart (trim (beforeFirst '(' (beforeFirst '[' (beforeFirst '<' base))))

/-- The classes that name a class among their bases, each as often as it does. -/
def implementations (here : Surroundings) (name : String) : List (ClassOutline String Span) :=
  here.classes.flatMap fun (_, c) => (c.bases.filter (baseClassName · == name)).map fun _ => c

/-- The names of the methods of a class, its constructors left out. -/
def methodNames (c : ClassOutline String Span) : List String :=
  (c.methods.filter (!isConstructor ·)).map (·.name)

/-- The first method of the base, or of its first implementation if it has none, that all
implementations define. -/
def sharedMethod? (base : ClassOutline String Span) (subclasses : List (ClassOutline String Span)) :
    Option String :=
  let names :=
    if (methodNames base).isEmpty then (subclasses.head?.map methodNames).getD []
    else methodNames base
  names.find? fun name => name != "" && subclasses.all fun c => (c.method? name).isSome

def strategies (here : Surroundings) : List Sighting :=
  here.classes.filterMap fun (module, c) =>
    let subclasses := implementations here c.name
    if subclasses.length < 2 then none
    else (sharedMethod? c subclasses).map fun shared =>
      { file := module.path
        span := some c.span
        conditions :=
          [("multiple_implementations", true), ("shared_interface_method", true),
            ("abstract_base", c.isAbstract)]
        details :=
          [("base", .str c.name), ("implementations", .int subclasses.length),
            ("method", .str shared)] }

/-! ## The rules -/

def all : List Rule :=
  [.ofSightings "singleton" .designPattern "Singleton" singletons,
    .ofSightings "observer" .designPattern "Observer" observers,
    .ofSightings "factory" .designPattern "Factory" factories,
    .ofSightings "builder" .designPattern "Builder" builders,
    .ofSightings "strategy" .designPattern "Strategy" strategies]

end RepoAtlas.DesignRules
