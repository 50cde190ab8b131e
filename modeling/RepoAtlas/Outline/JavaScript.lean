import RepoAtlas.Outline.Reading
import RepoAtlas.Naming
import RepoAtlas.Route

/-!
# Outlines of JavaScript and TypeScript files

`ofTree` reads the outline of a file off its syntax tree in two passes. The first goes over the
top-level statements and collects definitions, exports and the routes of controller classes. The
second goes over the whole tree and collects imports, `require` calls and dynamic imports among
them, and the routes that calls such as `app.get('/users', handler)` register; the framework of
those is known only once all imports are.

A definition may be exported by a later statement that only names it, so the names that statements
export are collected as well, and the definitions with those names are marked at the end.
-/

namespace RepoAtlas.JavaScript

open Text

/-! ## Kinds of nodes -/

def functionValues : List String :=
  ["arrow_function", "function_expression", "function", "generator_function"]

def functionDeclarations : List String :=
  ["function_declaration", "generator_function_declaration", "function_signature"]

def classDeclarations : List String := ["class_declaration", "abstract_class_declaration"]

def variableDeclarations : List String := ["lexical_declaration", "variable_declaration"]

/-- Declarations of types, which are exported under their name and nothing more. -/
def typeDeclarations : List String :=
  ["interface_declaration", "type_alias_declaration", "enum_declaration"]

def methodMembers : List String :=
  ["method_definition", "method_signature", "abstract_method_signature"]

def fieldMembers : List String := ["field_definition", "public_field_definition"]

def scopeKinds : List String :=
  ["function_declaration", "generator_function_declaration", "function_expression", "function",
    "arrow_function", "class_declaration", "class"]

/-! ## Small parts -/

def nameOf (source : Source) (node : SyntaxNode) : String := source.textOf? (node.child? "name")

/-- The words in front of a member: its keywords and its declared accessibility. -/
def modifiersOf (source : Source) (member : SyntaxNode) : List String :=
  member.children.filterMap fun child =>
    let modifiers := ["static", "async", "get", "set", "readonly", "override", "abstract"]
    if modifiers.contains child.kind then
      some child.kind
    else if child.kind == "accessibility_modifier" then some (trim (source.textOf child))
    else none

/-- The declared accessibility of a member, or else what its name says. -/
def visibilityOf (modifiers : List String) (name : String) : String :=
  (["private", "protected", "public"].find? modifiers.contains).getD (Naming.visibility name)

def parameterText (source : Source) (node : SyntaxNode) : String :=
  if node.kind == "assignment_pattern" then source.compactTextOf? (node.child? "left")
  else if node.kind == "required_parameter" || node.kind == "optional_parameter" then
    source.compactTextOf ((node.child? "pattern").getD node)
  else source.compactTextOf node

/-- The parameters of a function: a parameter list, or the single name of an arrow function. -/
def parametersOf (source : Source) (node : Option SyntaxNode) : List String :=
  match node with
  | none => []
  | some node =>
    if node.kind == "identifier" then [source.textOf node]
    else (node.namedChildren.filter (!·.isComment)).map (parameterText source)

def instantiated? (source : Source) (node : SyntaxNode) : Option String :=
  if node.kind == "new_expression" then
    (node.child? "constructor").bind fun callee =>
      if callee.kind == "identifier" || callee.kind == "member_expression" then
        some (Naming.lastPart (source.textOf callee))
      else none
  else none

def instantiationsIn (source : Source) (body : Option SyntaxNode) : List String :=
  match body with
  | some body => Naming.distinct ((body.descendants scopeKinds).filterMap (instantiated? source))
  | none => []

/-! ## Functions and classes -/

/-- What is known of a function besides its node. -/
structure CallableContext where
  name : String
  /-- The node whose lines the function is given. -/
  outer : SyntaxNode
  isExported : Bool := false
  decorators : List String := []
  isStatic : Bool := false
  visibility : String := Naming.visibility name

def callableOf (source : Source) (known : CallableContext) (node : SyntaxNode) :
    CallableOutline String Span where
  name := known.name
  parameters := parametersOf source ((node.child? "parameters").or (node.child? "parameter"))
  span := source.spanOf known.outer
  returnType := (node.child? "return_type").map fun type =>
    trim (dropLeading ':' (source.compactTextOf type))
  isAsync := node.hasChild "async"
  isExported := known.isExported
  isStatic := known.isStatic
  visibility := known.visibility
  decorators := known.decorators
  instantiates := instantiationsIn source (node.child? "body")

def clauseBases (source : Source) (clause : SyntaxNode) : List String :=
  if clause.kind == "extends_clause" then
    match clause.child? "value" with
    | some value => [source.compactTextOf value]
    | none => (clause.namedChildren.take 1).map source.compactTextOf
  else if clause.kind == "implements_clause" then clause.namedChildren.map source.compactTextOf
  else if clause.isComment then []
  else [source.compactTextOf clause]

/-- The classes and interfaces that a class extends or implements, each once. -/
def basesOf (source : Source) (node : SyntaxNode) : List String :=
  let clauses :=
    (node.namedChildren.filter (·.kind == "class_heritage")).flatMap (·.namedChildren)
  Naming.distinct (clauses.flatMap (clauseBases source))

/-- The fields that a constructor declares by giving parameters an accessibility. -/
def parameterFields (source : Source) (constructor : SyntaxNode) : List (FieldOutline String) :=
  (((constructor.child? "parameters").map (·.namedChildren)).getD []).filterMap fun child =>
    let modifiers := modifiersOf source child
    if (child.kind == "required_parameter" || child.kind == "optional_parameter")
        && ["private", "protected", "public", "readonly"].any modifiers.contains then
      let name := source.compactTextOf? (child.child? "pattern")
      some ⟨name, source.startLineOf child, false, visibilityOf modifiers name⟩
    else none

/-! ### Controller classes -/

/-- The text between a quote at the front and the next quote of the same kind. -/
def quotedFront? : List Char → Option String
  | quote :: rest =>
    if (quote == '\'' || quote == '"' || quote == '\x60') && rest.contains quote then
      some (String.ofList (rest.takeWhile (· != quote)))
    else none
  | [] => none

/-- The string that a decorator call to `name` begins its arguments with; the outer `none` means
that the decorator is no such call. -/
def decoratorArgument? (name decorator : String) : Option (Option String) :=
  (dropStart? (name ++ "(") decorator).map fun arguments =>
    quotedFront? (trimStartOf arguments.toList)

def controllerRoute? (decorators : List String) : Option String :=
  (decorators.findSome? (decoratorArgument? "Controller")).map (·.getD "")

def verbDecorators : List String :=
  ["Get", "Post", "Put", "Delete", "Patch", "Options", "Head", "All"]

/-- The verb and the route of a decorator of a controller method. -/
def verbRoute? (decorator : String) : Option (String × String) :=
  verbDecorators.findSome? fun verb =>
    (decoratorArgument? verb decorator).map fun route =>
      (upper verb, match route with
        | some route => if route = "" then "/" else route
        | none => "/")

def controllerRoutes (controller : Option String) (method : CallableOutline String Span) :
    List (RouteOutline String Span) :=
  match controller with
  | none => []
  | some controller =>
    (method.decorators.filterMap verbRoute?).map fun (verb, route) =>
      ⟨"NestJS", verb, Route.join controller route, method.span,
        if method.name = "" then none else some method.name⟩

/-! ### Class bodies -/

/-- What the members of a class body add to it. -/
structure Members where
  methods : List (CallableOutline String Span) := []
  fields : List (FieldOutline String) := []
  routes : List (RouteOutline String Span) := []

/-- A method with what belongs to it, `pending` being the decorators in front of it. -/
def methodMember (source : Source) (controller : Option String) (pending : List String)
    (member : SyntaxNode) : Members :=
  let name := nameOf source member
  let modifiers := modifiersOf source member
  let method := callableOf source
    { name
      outer := member
      decorators := pending ++ source.decoratorsOf member
      isStatic := modifiers.contains "static"
      visibility := visibilityOf modifiers name } member
  { methods := [method]
    fields := if name = "constructor" then parameterFields source member else []
    routes := controllerRoutes controller method }

def fieldMember (source : Source) (member : SyntaxNode) : Members :=
  let name := source.textOf? ((member.child? "property").or (member.child? "name"))
  let modifiers := modifiersOf source member
  { fields := [⟨name, source.startLineOf member, modifiers.contains "static",
      visibilityOf modifiers name⟩] }

/-- The members of a class body. Decorators stand in front of the method they belong to; any other
member between the two separates them. -/
def membersOf (source : Source) (controller : Option String) :
    (pending : List String) → List SyntaxNode → Members
  | _, [] => {}
  | pending, member :: rest =>
    if member.kind == "decorator" then
      membersOf source controller (pending ++ [source.decoratorText member]) rest
    else
      let here :=
        if methodMembers.contains member.kind then methodMember source controller pending member
        else if fieldMembers.contains member.kind then fieldMember source member
        else {}
      let later := membersOf source controller [] rest
      ⟨here.methods ++ later.methods, here.fields ++ later.fields, here.routes ++ later.routes⟩

/-- The order in which fields are listed: by line, then by name. -/
def fieldOrder (a b : FieldOutline String) : Bool :=
  if a.line = b.line then a.name ≤ b.name else a.line ≤ b.line

/-- What is known of a class besides its node. -/
structure ClassContext where
  name : String
  /-- The node whose lines the class is given. -/
  outer : SyntaxNode
  isExported : Bool := false
  decorators : List String := []

/-- A class, with the routes that its methods register. -/
def classOf (source : Source) (known : ClassContext) (node : SyntaxNode) :
    ClassOutline String Span × List (RouteOutline String Span) :=
  let decorators := known.decorators ++ source.decoratorsOf node
  let bases := basesOf source node
  let body := ((node.child? "body").map (·.namedChildren)).getD []
  let members := membersOf source (controllerRoute? decorators) [] body
  ({ name := known.name
     superclass := bases.head?
     methods := members.methods
     span := source.spanOf known.outer
     bases
     fields := members.fields.mergeSort fieldOrder
     decorators
     isExported := known.isExported
     isAbstract := node.kind == "abstract_class_declaration" },
    members.routes)

/-! ## Top-level statements -/

/-- What a statement adds to the outline. -/
structure Contribution where
  functions : List (CallableOutline String Span) := []
  classes : List (ClassOutline String Span) := []
  routes : List (RouteOutline String Span) := []
  exports : List (ExportOutline String Span) := []
  /-- Local names that the statement exports without defining them. -/
  exportedLocals : List String := []

namespace Contribution

/-- Two contributions, one after the other. -/
def append (a b : Contribution) : Contribution where
  functions := a.functions ++ b.functions
  classes := a.classes ++ b.classes
  routes := a.routes ++ b.routes
  exports := a.exports ++ b.exports
  exportedLocals := a.exportedLocals ++ b.exportedLocals

def concat (parts : List Contribution) : Contribution where
  functions := parts.flatMap (·.functions)
  classes := parts.flatMap (·.classes)
  routes := parts.flatMap (·.routes)
  exports := parts.flatMap (·.exports)
  exportedLocals := parts.flatMap (·.exportedLocals)

def ofFunction (function : CallableOutline String Span) : Contribution :=
  { functions := [function] }

def ofClass (parts : ClassOutline String Span × List (RouteOutline String Span)) : Contribution :=
  { classes := [parts.1], routes := parts.2 }

end Contribution

/-- The definition that a value is, under the given name. -/
def valueDefinition (source : Source) (name : String) (outer : SyntaxNode) (isExported : Bool)
    (decorators : List String) (value : SyntaxNode) : Contribution :=
  if functionValues.contains value.kind then
    .ofFunction (callableOf source { name, outer, isExported } value)
  else if value.kind == "class" then
    .ofClass (classOf source { name, outer, isExported, decorators } value)
  else {}

def variableDefinitions (source : Source) (outer : SyntaxNode) (isExported : Bool)
    (node : SyntaxNode) : Contribution :=
  .concat <| (node.namedChildren.filter (·.kind == "variable_declarator")).map fun declarator =>
    match declarator.child? "value" with
    | some value => valueDefinition source (nameOf source declarator) outer isExported [] value
    | none => {}

/-- The variables that a declaration names, patterns left out. -/
def variableNames (source : Source) (node : SyntaxNode) : List String :=
  (node.namedChildren.filter (·.kind == "variable_declarator")).filterMap fun declarator =>
    (declarator.child? "name").bind fun name =>
      if name.kind == "identifier" then some (source.textOf name) else none

/-- The definitions of a declaration, and the names that it would export. -/
def declarationOf (source : Source) (outer : SyntaxNode) (isExported : Bool)
    (decorators : List String) (node : SyntaxNode) : Contribution × List String :=
  let name := nameOf source node
  if functionDeclarations.contains node.kind then
    (.ofFunction (callableOf source { name, outer, isExported } node), [name])
  else if classDeclarations.contains node.kind then
    (.ofClass (classOf source { name, outer, isExported, decorators } node), [name])
  else if variableDeclarations.contains node.kind then
    (variableDefinitions source outer isExported node, variableNames source node)
  else if typeDeclarations.contains node.kind then ({}, [name])
  else ({}, [])

/-! ### Exports -/

/-- A name in an export clause: how it is seen from outside, and what it is locally. -/
structure ExportedName where
  exported : String
  localName : String
deriving DecidableEq, Repr

def exportedNames (source : Source) (clause : SyntaxNode) : List ExportedName :=
  (clause.namedChildren.filter (·.kind == "export_specifier")).map fun child =>
    let localName := nameOf source child
    ⟨((child.child? "alias").map source.textOf).getD localName, localName⟩

/-- The specifier of the module that a node imports from or passes on. -/
def specifierOf (source : Source) (node : Option SyntaxNode) : String :=
  (node.bind source.stringValue?).getD ""

def namespaceName (source : Source) (node : SyntaxNode) : String :=
  match node.firstNamed? "namespace_export" with
  | some namespaceNode => ((namespaceNode.namedChildren.getLast?).map source.textOf).getD "*"
  | none => "*"

/-- What an `export` statement adds. A declaration goes before a source, a source before a clause,
and a clause before a value. -/
def exportStatement (source : Source) (node : SyntaxNode) : Contribution :=
  let span := source.spanOf node
  let decorators := source.decoratorsOf node
  let clause := node.firstNamed? "export_clause"
  match node.child? "declaration", node.child? "source", clause, node.child? "value" with
  | some declaration, _, _, _ =>
    let isDefault := node.hasChild "default"
    let (contribution, names) := declarationOf source node true decorators declaration
    { contribution with
      exports := names.map fun name =>
        ⟨if isDefault then "default" else name, span, isDefault, none⟩ }
  | none, some sourceNode, some clause, _ =>
    let specifier := specifierOf source (some sourceNode)
    { exports := (exportedNames source clause).map fun name =>
        ⟨name.exported, span, false, some specifier⟩ }
  | none, some sourceNode, none, _ =>
    { exports := [⟨namespaceName source node, span, false,
        some (specifierOf source (some sourceNode))⟩] }
  | none, none, some clause, _ =>
    let names := exportedNames source clause
    { exports := names.map fun name => ⟨name.exported, span, name.exported == "default", none⟩
      exportedLocals := names.map (·.localName) }
  | none, none, none, some value =>
    let definition := valueDefinition source (nameOf source value) node true decorators value
    { definition with
      exports := [⟨"default", span, true, none⟩]
      exportedLocals := if value.kind == "identifier" then [source.textOf value] else [] }
  | none, none, none, none => {}

/-- The members of an object that is exported as a whole: the name of each, and the local name that
is its value, empty if it has another value. -/
def objectMembers (source : Source) (node : SyntaxNode) : List ExportedName :=
  node.namedChildren.filterMap fun child =>
    if child.kind == "shorthand_property_identifier" then
      some ⟨source.textOf child, source.textOf child⟩
    else if child.kind == "pair" then
      let key := child.child? "key"
      let literal := (key.bind source.stringValue?).getD ""
      let localName := match child.child? "value" with
        | some value => if value.kind == "identifier" then source.textOf value else ""
        | none => ""
      some ⟨if literal = "" then source.textOf? key else literal, localName⟩
    else if child.kind == "method_definition" then some ⟨nameOf source child, ""⟩
    else none

def wholeExport (source : Source) (statement value : SyntaxNode) : Contribution :=
  let span := source.spanOf statement
  if value.kind == "identifier" then
    let name := source.textOf value
    { exports := [⟨name, span, true, none⟩], exportedLocals := [name] }
  else if value.kind == "object" then
    let members := objectMembers source value
    { exports := members.map fun member => ⟨member.exported, span, false, none⟩
      exportedLocals := (members.map (·.localName)).filter (· != "") }
  else
    { valueDefinition source (nameOf source value) statement true [] value with
      exports := [⟨"default", span, true, none⟩] }

def memberExport (source : Source) (statement : SyntaxNode) (name : String) (value : SyntaxNode) :
    Contribution :=
  let exports := [⟨name, source.spanOf statement, false, none⟩]
  if functionValues.contains value.kind then
    { functions := [callableOf source { name, outer := statement, isExported := true } value]
      exports }
  else if value.kind == "identifier" then { exports, exportedLocals := [source.textOf value] }
  else { exports }

/-- What an expression statement adds: only assignments to the exports object count. -/
def assignedExport (source : Source) (statement : SyntaxNode) : Contribution :=
  match statement.namedChildren.head? with
  | none => {}
  | some expression =>
    if expression.kind == "assignment_expression" then
      let left := source.compactTextOf? (expression.child? "left")
      match expression.child? "right" with
      | none => {}
      | some value =>
        if left == "module.exports" then wholeExport source statement value
        else if startsWith "module.exports." left || startsWith "exports." left then
          memberExport source statement (Naming.lastPart left) value
        else {}
    else {}

def contributionOf (source : Source) (statement : SyntaxNode) : Contribution :=
  if statement.kind == "export_statement" then exportStatement source statement
  else if statement.kind == "expression_statement" then assignedExport source statement
  else (declarationOf source statement false [] statement).1

/-! ## Imports -/

/-- The names that an import clause binds: `default` for the default import, and none at all if the
module is imported as a namespace. -/
def importedSymbols (source : Source) (clause : SyntaxNode) : List String :=
  if clause.namedChildren.any (·.kind == "namespace_import") then []
  else clause.namedChildren.flatMap fun child =>
    if child.kind == "identifier" then ["default"]
    else if child.kind == "named_imports" then
      (child.namedChildren.filter (·.kind == "import_specifier")).map (nameOf source)
    else []

def importStatement (source : Source) (node : SyntaxNode) : ImportOutline String Span where
  target := specifierOf source (node.child? "source")
  symbols := ((node.firstNamed? "import_clause").map (importedSymbols source)).getD []
  span := source.spanOf node
  isReexport := false

def reexport? (source : Source) (node : SyntaxNode) : Option (ImportOutline String Span) :=
  (node.child? "source").map fun sourceNode =>
    { target := specifierOf source (some sourceNode)
      symbols := ((node.firstNamed? "export_clause").map fun clause =>
        (exportedNames source clause).map (·.localName)).getD []
      span := source.spanOf node
      isReexport := true }

def patternNames (source : Source) (pattern : SyntaxNode) : List String :=
  pattern.namedChildren.filterMap fun child =>
    if child.kind == "shorthand_property_identifier_pattern" then some (source.textOf child)
    else if child.kind == "pair_pattern" then some (source.textOf? (child.child? "key"))
    else if child.kind == "object_assignment_pattern" then
      some (source.textOf? (child.child? "left"))
    else none

/-- The names taken from the module that a call at this place imports. -/
def requiredSymbols (source : Source) (parent : SyntaxNode) : List String :=
  if parent.kind == "variable_declarator" then
    match parent.child? "name" with
    | some pattern => if pattern.kind == "object_pattern" then patternNames source pattern else []
    | none => []
  else if parent.kind == "member_expression" then [source.textOf? (parent.child? "property")]
  else []

/-- The import that a call writes: `require` or a dynamic import of a string. -/
def requireCall? (source : Source) (link : SyntaxNode.Link) :
    Option (ImportOutline String Span) := do
  let callee ← link.node.child? "function"
  if (callee.kind == "identifier" && source.textOf callee == "require")
      || callee.kind == "import" then
    let literal ← (link.node.child? "arguments").bind (·.namedChildren.head?)
    let target ← source.stringValue? literal
    pure ⟨target, requiredSymbols source link.parent, source.spanOf link.node, false⟩
  else none

/-- The import that a node writes, if it writes one. -/
def importAt? (source : Source) (link : SyntaxNode.Link) : Option (ImportOutline String Span) :=
  if link.node.kind == "import_statement" then some (importStatement source link.node)
  else if link.node.kind == "export_statement" then reexport? source link.node
  else if link.node.kind == "call_expression" then requireCall? source link
  else none

/-! ## Route calls -/

/-- The packages whose import tells which framework a file's routes belong to, with it. -/
def routerFrameworks : List (String × String) :=
  [("@koa/router", "Koa"), ("koa-router", "Koa"), ("fastify", "Fastify"), ("hono", "Hono")]

def frameworkOf (imports : List (ImportOutline String Span)) : String :=
  match routerFrameworks.find? fun (package, _) => imports.any (·.target == package) with
  | some (_, framework) => framework
  | none => "Express"

/-- The route that a call registers: a method named for a verb, called with a path and at least one
handler. -/
def routeCall? (source : Source) (framework : String) (node : SyntaxNode) :
    Option (RouteOutline String Span) := do
  let callee ← node.child? "function"
  let verb := source.textOf? (callee.child? "property")
  if callee.kind == "member_expression" && ("all" :: httpVerbs).contains verb then
    let arguments ← node.child? "arguments"
    match arguments.namedChildren.filter (!·.isComment) with
    | path :: more =>
      let handler ← more.getLast?
      let route ← source.stringValue? path
      if startsWith "/" route || route == "*" then
        pure ⟨framework, upper verb, Route.normalize route, source.spanOf node,
          if handler.kind == "identifier" || handler.kind == "member_expression" then
            some (source.compactTextOf handler)
          else none⟩
      else none
    | [] => none
  else none

/-- The routes that calls register in a file. A call that imports a module registers none. -/
def routeCalls (source : Source) (framework : String) (links : List SyntaxNode.Link) :
    List (RouteOutline String Span) :=
  links.filterMap fun link =>
    if link.node.kind == "call_expression" && (requireCall? source link).isNone then
      routeCall? source framework link.node
    else none

/-! ## The outline -/

/-- The order in which routes are listed: by first line, then by last. -/
def routeOrder (a b : RouteOutline String Span) : Bool :=
  if a.span.startLine = b.span.startLine then a.span.endLine ≤ b.span.endLine
  else a.span.startLine ≤ b.span.startLine

def ofTree (path grammar : String) (source : Source) (root : SyntaxNode) : SourceModule :=
  let parts := Contribution.concat (root.namedChildren.map (contributionOf source))
  let links := root.linksWithin []
  let imports := links.filterMap (importAt? source)
  let isMarked (name : String) : Bool := name != "" && parts.exportedLocals.contains name
  { path
    language := .javaScript
    grammar
    functions := parts.functions.map fun f =>
      { f with isExported := f.isExported || isMarked f.name }
    classes := parts.classes.map fun c =>
      { c with isExported := c.isExported || isMarked c.name }
    imports
    exports := parts.exports
    routes := (parts.routes ++ routeCalls source (frameworkOf imports) links).mergeSort routeOrder
    hasMainGuard := false }

end RepoAtlas.JavaScript
