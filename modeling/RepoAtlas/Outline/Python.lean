import RepoAtlas.Outline.Reading
import RepoAtlas.Naming
import RepoAtlas.Route
import RepoAtlas.Text.Pattern

/-!
# Outlines of Python files

`ofTree` reads the outline of a Python file off its syntax tree. Definitions count when they stand
at the top level of the file, and the blocks of top-level `if`, `try` and `with` statements count as
top level; imports count wherever they stand. What a file exports is the list in `__all__` if it
assigns one, and otherwise every definition whose name does not start with an underscore.
-/

namespace RepoAtlas.Python

open Text

/-! ## Names a file makes public -/

/-- The names listed in `__all__`, each once, and the lines of the assignment. -/
structure PublicNames where
  names : List String
  span : Span
deriving DecidableEq, Repr

/-- The assignments of a statement: the statement itself, or those it wraps. -/
def assignmentsOf (statement : SyntaxNode) : List SyntaxNode :=
  if statement.kind == "assignment" then [statement]
  else if statement.kind == "expression_statement" then
    statement.namedChildren.filter (·.kind == "assignment")
  else []

/-- The names that an assignment lists, if it assigns a list or tuple to `__all__`. -/
def publicNamesIn? (source : Source) (assignment : SyntaxNode) : Option PublicNames :=
  match assignment.child? "right" with
  | none => none
  | some right =>
    if source.textOf? (assignment.child? "left") == "__all__"
        && (right.kind == "list" || right.kind == "tuple") then
      some ⟨Naming.distinct (right.namedChildren.filterMap source.stringValue?),
        source.spanOf assignment⟩
    else none

/-- The names listed in the first `__all__` at the top level of a file. -/
def publicNames? (source : Source) (root : SyntaxNode) : Option PublicNames :=
  (root.namedChildren.flatMap assignmentsOf).findSome? (publicNamesIn? source)

/-- Whether a definition is public under the names listed in `__all__`, if any are. -/
def isPublic (listed : Option PublicNames) (name : String) : Bool :=
  match listed with
  | some listed => listed.names.contains name
  | none => name != "" && !startsWith "_" name

/-! ## Imports -/

/-- The name that a part of an import refers to, without its alias. -/
def importedName (source : Source) (name : SyntaxNode) : String :=
  if name.kind == "aliased_import" then source.textOf? (name.child? "name") else source.textOf name

def importsAt (source : Source) (node : SyntaxNode) : List (ImportOutline String Span) :=
  if node.kind == "import_statement" then
    (node.childrenNamed "name").map fun name =>
      ⟨importedName source name, [], source.spanOf node, false⟩
  else if node.kind == "import_from_statement" then
    let names := (node.childrenNamed "name").map (importedName source)
    let wildcard := if node.namedChildren.any (·.kind == "wildcard_import") then ["*"] else []
    [⟨without ' ' (source.textOf? (node.child? "module_name")), names ++ wildcard,
      source.spanOf node, false⟩]
  else []

def importsOf (source : Source) (root : SyntaxNode) : List (ImportOutline String Span) :=
  (root.descendants []).flatMap (importsAt source)

/-- The first name of the module that an import refers to, leading dots left out. -/
def topLevelName (spec : ImportOutline String Span) : String :=
  Naming.firstPart (dropLeading '.' spec.target)

/-- The framework of a route decorator named for an HTTP verb: Flask if the file imports it and not
FastAPI as well. -/
def verbFramework (imports : List (ImportOutline String Span)) : String :=
  let names := imports.map topLevelName
  if names.contains "flask" && !names.contains "fastapi" then "Flask" else "FastAPI"

/-! ## Functions -/

/-- The kinds of nodes that open a scope of their own. -/
def scopeKinds : List String := ["function_definition", "class_definition", "lambda"]

/-- The name of one parameter, if the node is one. -/
def parameter? (source : Source) (node : SyntaxNode) : Option String :=
  if ["identifier", "list_splat_pattern", "dictionary_splat_pattern", "tuple_pattern"].contains
      node.kind then some (source.textOf node)
  else if node.kind == "default_parameter" || node.kind == "typed_default_parameter" then
    some (source.textOf? (node.child? "name"))
  else if node.kind == "typed_parameter" then
    (node.namedChildren.find? fun child =>
      ["identifier", "list_splat_pattern", "dictionary_splat_pattern"].contains child.kind).map
        source.textOf
  else none

def parametersOf (source : Source) (list : Option SyntaxNode) : List String :=
  match list with
  | some list => list.namedChildren.filterMap (parameter? source)
  | none => []

/-- Whether a called name looks like a class: capitalised, not in capitals throughout, and not an
exception or a warning. -/
def isClassName (name : String) : Bool :=
  (match name.toList with
    | first :: _ => isUpper first
    | [] => false)
  && !isUpperText name
  && !(["Error", "Exception", "Warning"].any (endsWith · name))

def instantiated? (source : Source) (node : SyntaxNode) : Option String :=
  if node.kind == "call" then
    match node.child? "function" with
    | some callee =>
      let name := Naming.lastPart (source.textOf callee)
      if (callee.kind == "identifier" || callee.kind == "attribute") && isClassName name then
        some name
      else none
    | none => none
  else none

def instantiationsIn (source : Source) (body : Option SyntaxNode) : List String :=
  match body with
  | some body => Naming.distinct ((body.descendants scopeKinds).filterMap (instantiated? source))
  | none => []

/-- The name a decorator is known by, without qualifiers and arguments. -/
def decoratorName (decorator : String) : String := Naming.lastPart (beforeFirst '(' decorator)

/-- A function or method. `outer` is the node with the decorators, if there are any. -/
def callableOf (source : Source) (isExported : String → Bool) (decorators : List String)
    (outer node : SyntaxNode) : CallableOutline String Span :=
  let name := source.textOf? (node.child? "name")
  { name
    parameters := parametersOf source (node.child? "parameters")
    span := source.spanOf outer
    returnType := (node.child? "return_type").map source.compactTextOf
    isAsync := node.hasChild "async"
    isExported := isExported name
    isStatic := decorators.any fun decorator =>
      ["staticmethod", "classmethod"].contains (decoratorName decorator)
    visibility := Naming.visibility name
    decorators
    instantiates := instantiationsIn source (node.child? "body") }

/-! ## Routes -/

/-- The verbs that the `methods` argument of a route decorator lists; `GET` if there is none. -/
def listedMethods (source : Source) (arguments : Option SyntaxNode) : String :=
  let verbsOf (argument : SyntaxNode) : Option String :=
    if argument.kind == "keyword_argument"
        && source.textOf? (argument.child? "name") == "methods" then
      let items := ((argument.child? "value").map (·.namedChildren)).getD []
      let verbs := (items.filterMap source.stringValue?).map upper
      match verbs.filter (· != "") with
      | [] => none
      | verbs => some (joined "|" verbs)
    else none
  (((arguments.map (·.namedChildren)).getD []).findSome? verbsOf).getD "GET"

/-- The first positional argument, if it is a string. -/
def firstStringArgument? (source : Source) (arguments : Option SyntaxNode) : Option String :=
  arguments.bind fun arguments =>
    (arguments.namedChildren.find? (·.kind != "keyword_argument")).bind source.stringValue?

/-- The framework and the verbs that a decorator method registers a route for. -/
def routeMethod? (source : Source) (framework name : String) (arguments : Option SyntaxNode) :
    Option (String × String) :=
  if httpVerbs.contains name then some (framework, upper name)
  else if name == "route" then some ("Flask", listedMethods source arguments)
  else if name == "api_route" then some ("FastAPI", listedMethods source arguments)
  else none

def routeAt? (source : Source) (framework handler : String) (decorator : SyntaxNode) :
    Option (RouteOutline String Span) := do
  let call ← decorator.firstNamed? "call"
  let callee ← call.child? "function"
  if callee.kind == "attribute" then
    let arguments := call.child? "arguments"
    let route ← firstStringArgument? source arguments
    let (framework, method) ←
      routeMethod? source framework (source.textOf? (callee.child? "attribute")) arguments
    pure ⟨framework, method, Route.normalize route, source.spanOf decorator,
      if handler = "" then none else some handler⟩
  else none

/-- The routes that the decorators of a definition register for it. -/
def routesOf (source : Source) (framework handler : String) (decorated : SyntaxNode) :
    List (RouteOutline String Span) :=
  (decorated.children.filter (·.kind == "decorator")).filterMap (routeAt? source framework handler)

/-! ## Classes -/

/-- The definition that a node decorates, or none if the node is not a decorated definition. -/
def decoratedDefinition? (node : SyntaxNode) : Option SyntaxNode :=
  if node.kind == "decorated_definition" then node.child? "definition" else none

def basesOf (source : Source) (node : SyntaxNode) : List String :=
  (((node.child? "superclasses").map (·.namedChildren)).getD []).filterMap fun child =>
    if ["identifier", "attribute", "subscript"].contains child.kind then
      some (source.compactTextOf child)
    else none

def hasAbstractMetaclass (source : Source) (node : SyntaxNode) : Bool :=
  (((node.child? "superclasses").map (·.namedChildren)).getD []).any fun child =>
    child.kind == "keyword_argument" && contains "ABCMeta" (source.textOf child)

def classFieldsAt (source : Source) (statement : SyntaxNode) : List (FieldOutline String) :=
  (assignmentsOf statement).filterMap fun assignment =>
    (assignment.child? "left").bind fun left =>
      if left.kind == "identifier" then
        let name := source.textOf left
        some ⟨name, source.startLineOf left, true, Naming.visibility name⟩
      else none

/-- The bodies of the methods of a class body, decorated ones included. -/
def methodBodies (members : List SyntaxNode) : List SyntaxNode :=
  members.filterMap fun member =>
    let definition := (decoratedDefinition? member).getD member
    if definition.kind == "function_definition" then definition.child? "body" else none

/-- The field that an assignment to an attribute of `self` or `cls` creates. -/
def instanceField? (source : Source) (node : SyntaxNode) : Option (FieldOutline String) :=
  if node.kind == "assignment" || node.kind == "augmented_assignment" then
    (node.child? "left").bind fun left =>
      let owner := source.textOf? (left.child? "object")
      if left.kind == "attribute" && (owner == "self" || owner == "cls") then
        let name := source.textOf? (left.child? "attribute")
        some ⟨name, source.startLineOf left, owner == "cls", Naming.visibility name⟩
      else none
  else none

def instanceFieldsIn (source : Source) (body : SyntaxNode) : List (FieldOutline String) :=
  (body.descendants scopeKinds).filterMap (instanceField? source)

def firstByName (fields : List (FieldOutline String)) : List (FieldOutline String) :=
  (fields.foldl (fun kept field =>
    if kept.any (·.name == field.name) then kept else field :: kept) []).reverse

/-- The order in which fields are listed: by line, then by name. -/
def fieldOrder (a b : FieldOutline String) : Bool :=
  if a.line = b.line then a.name ≤ b.name else a.line ≤ b.line

/-- The fields of a class: what its body assigns goes before what its methods create. -/
def fieldsOf (source : Source) (members : List SyntaxNode) : List (FieldOutline String) :=
  let assigned := members.flatMap (classFieldsAt source)
  let created := (methodBodies members).flatMap (instanceFieldsIn source)
  (firstByName (assigned ++ created)).mergeSort fieldOrder

/-- The method that a member of a class body defines, with the routes of its decorators. -/
def methodAt? (source : Source) (framework : String) (member : SyntaxNode) :
    Option (CallableOutline String Span × List (RouteOutline String Span)) :=
  if member.kind == "function_definition" then
    some (callableOf source (fun _ => false) [] member member, [])
  else
    (decoratedDefinition? member).bind fun definition =>
      if definition.kind == "function_definition" then
        let method :=
          callableOf source (fun _ => false) (source.decoratorsOf member) member definition
        some (method, routesOf source framework method.name member)
      else none

def isAbstractBase (base : String) : Bool :=
  ["ABC", "Protocol"].contains (Naming.lastPart (beforeFirst '[' base))

/-- A class, with the routes that its methods register. -/
def classOf (source : Source) (framework : String) (listed : Option PublicNames)
    (decorators : List String) (outer node : SyntaxNode) :
    ClassOutline String Span × List (RouteOutline String Span) :=
  let name := source.textOf? (node.child? "name")
  let bases := basesOf source node
  let members := ((node.child? "body").map (·.namedChildren)).getD []
  let methods := members.filterMap (methodAt? source framework)
  ({ name
     superclass := bases.head?
     methods := methods.map (·.1)
     span := source.spanOf outer
     bases
     fields := fieldsOf source members
     decorators
     isExported := isPublic listed name
     isAbstract := hasAbstractMetaclass source node || bases.any isAbstractBase
       || methods.any fun (method, _) => method.decorators.any (contains "abstractmethod") },
    methods.flatMap (·.2))

/-! ## Statements -/

/-- The statements whose blocks count as top level, and the parts those blocks stand in. -/
def blockKinds : List String :=
  ["if_statement", "try_statement", "with_statement", "else_clause", "elif_clause",
    "except_clause", "finally_clause", "block"]

/-- The statements at the top level of a file in document order, those inside top-level blocks
after the statement that holds them. -/
def topLevelStatements (root : SyntaxNode) : List SyntaxNode :=
  (SyntaxNode.preorder
    (fun parent child => blockKinds.contains parent.kind && child.isNamed && !child.isComment)
    (root.namedChildren.map (⟨root, ·⟩))).map (·.node)

def anyQuote : Pattern := .one fun c => c == '\'' || c == '"'

/-- The condition that guards a main program, either way round. -/
def mainGuard : Pattern :=
  let name := Pattern.word "__name__"
  let main := Pattern.sequence [anyQuote, .word "__main__", anyQuote]
  let equals := Pattern.sequence [.many isBlank, .word "==", .many isBlank]
  .alt (.sequence [name, equals, main]) (.sequence [main, equals, name])

def guardsMain (source : Source) (statement : SyntaxNode) : Bool :=
  statement.kind == "if_statement"
    && ((statement.child? "condition").any fun condition =>
      mainGuard.occursIn (source.textOf condition))

/-- What one statement adds to the outline. -/
structure Contribution where
  functions : List (CallableOutline String Span) := []
  classes : List (ClassOutline String Span) := []
  routes : List (RouteOutline String Span) := []
deriving DecidableEq, Repr

/-- What a definition adds, `outer` being the node that holds its decorators. -/
def definitionOf (source : Source) (framework : String) (listed : Option PublicNames)
    (decorators : List String) (outer node : SyntaxNode) : Contribution :=
  if node.kind == "function_definition" then
    let function := callableOf source (isPublic listed) decorators outer node
    { functions := [function], routes := routesOf source framework function.name outer }
  else if node.kind == "class_definition" then
    let (outline, routes) := classOf source framework listed decorators outer node
    { classes := [outline], routes }
  else {}

/-- What a statement adds. A definition without decorators registers no routes of its own, whatever
stands among its children. -/
def contributionOf (source : Source) (framework : String) (listed : Option PublicNames)
    (statement : SyntaxNode) : Contribution :=
  if statement.kind == "decorated_definition" then
    match statement.child? "definition" with
    | some definition =>
      definitionOf source framework listed (source.decoratorsOf statement) statement definition
    | none => {}
  else if statement.kind == "function_definition" then
    { functions := [callableOf source (isPublic listed) [] statement statement] }
  else definitionOf source framework listed [] statement statement

/-! ## The outline -/

/-- The order in which exports are listed: by line, then by name. -/
def exportOrder (a b : ExportOutline String Span) : Bool :=
  if a.span.startLine = b.span.startLine then a.name ≤ b.name
  else a.span.startLine ≤ b.span.startLine

/-- The exports of a file: the listed names, or else its public definitions. -/
def exportsOf (listed : Option PublicNames) (functions : List (CallableOutline String Span))
    (classes : List (ClassOutline String Span)) : List (ExportOutline String Span) :=
  match listed with
  | some listed => listed.names.map fun name => ⟨name, listed.span, false, none⟩
  | none =>
    let fromFunctions := (functions.filter (·.isExported)).map fun f =>
      (⟨f.name, f.span, false, none⟩ : ExportOutline String Span)
    let fromClasses := (classes.filter (·.isExported)).map fun c =>
      (⟨c.name, c.span, false, none⟩ : ExportOutline String Span)
    (fromFunctions ++ fromClasses).mergeSort exportOrder

def ofTree (path grammar : String) (source : Source) (root : SyntaxNode) : SourceModule :=
  let imports := importsOf source root
  let listed := publicNames? source root
  let statements := topLevelStatements root
  let parts := statements.map (contributionOf source (verbFramework imports) listed)
  let functions := parts.flatMap (·.functions)
  let classes := parts.flatMap (·.classes)
  { path
    language := .python
    grammar
    functions
    classes
    imports
    exports := exportsOf listed functions classes
    routes := parts.flatMap (·.routes)
    hasMainGuard := statements.any (guardsMain source) }

end RepoAtlas.Python
