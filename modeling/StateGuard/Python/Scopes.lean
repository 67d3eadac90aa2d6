import StateGuard.Library.NameFlow
import StateGuard.Python.Syntax
import StateGuard.Python.Text

/-!
# Scopes

The names that the nodes of a program bind, and where the object comes from that each is bound to
(`Node.bound`).  A frame is a module, the body of a function or of a class, a lambda or a
comprehension.  A name belongs to the innermost frame that binds it, apart from the bodies of
classes, which the frames inside them do not see, and from names that are declared global or
nonlocal (`scopeOf`).
-/

namespace Python

/-- The names that the trees leave out, by the identity of the node. -/
structure NameTable where
  className : Nat → String
  /-- The name after `as` of an exception handler. -/
  handlerName : Nat → Option String
  /-- The dots of a relative import. -/
  importLevel : Nat → Nat
  /-- The names of a `global` or a `nonlocal` statement. -/
  declared : Nat → List String
  lambdaParameters : Nat → List String
  /-- The starred name of a sequence pattern, and the rest of a mapping pattern. -/
  captures : Nat → List String

/-- A file of a program: the dotted name of its module, whether that is a package, and its tree. -/
structure SourceFile where
  moduleName : List String
  package : Bool
  table : NameTable
  body : List Stmt

/-- A table for trees that leave out no name. -/
def NameTable.empty : NameTable :=
  ⟨fun _ => "", fun _ => none, fun _ => 0, fun _ => [], fun _ => [], fun _ => []⟩

/-! ## What a node binds -/

/-- Where the object comes from that a name is bound to. -/
inductive Source where
  | value (e : Expr)
  /-- A module, or what is imported from it. -/
  | imported (level : Nat) (module : String) (name : Option String)
  /-- The function or the class of a definition. -/
  | definition (info : NodeInfo)
  /-- An element of a loop or of a tuple, what a context manager gives, an exception, an argument of
  a call, and other objects that no expression of the tree evaluates to. -/
  | part (info : NodeInfo)
  /-- No object: the name is unbound. -/
  | deleted

mutual

/-- The names that an assignment target binds. -/
def Expr.stores : Expr → List String
  | .name _ id load => if load then [] else [id]
  | .display _ _ elts => storesAll elts
  | .other _ kind children => if kind = "Starred" then storesAll children else []
  | _ => []

def storesAll : List Expr → List String
  | [] => []
  | e :: rest => e.stores ++ storesAll rest

end

/-- A name with its source.  A star import may bind any name, and has none. -/
abbrev Bind := Option String × Source

/-- The binds of some names to parts of something. -/
def partBinds (info : NodeInfo) (names : List String) : List Bind :=
  names.map fun name => (some name, .part info)

/-- The name an import binds, with what it binds it to.  Without `as`, the import of a dotted module
binds its first part. -/
def importBind (imported : Alias) : Bind :=
  match imported.asname with
  | some asname => (some asname, .imported 0 imported.name none)
  | none =>
    (some (beforeFirst '.' imported.name), .imported 0 (beforeFirst '.' imported.name) none)

def importFromBind (level : Nat) (module : String) (imported : Alias) : Bind :=
  (if imported.name = "*" then none else some (imported.asname.getD imported.name),
    .imported level module (some imported.name))

/-- What an assignment binds a target to: its value, or the parts of its value. -/
def targetBinds (info : NodeInfo) (value target : Expr) : List Bind :=
  match target with
  | .name _ id false => [(some id, .value value)]
  | target => partBinds info target.stores

def PlainKind.bound (table : NameTable) (info : NodeInfo) (exprs : List Expr) :
    PlainKind → List Bind
  | .import names => names.map importBind
  | .importFrom module names =>
    names.map (importFromBind (table.importLevel info.identity) (module.getD ""))
  | .other kind =>
    if kind = "Delete" then (storesAll exprs).map fun name => (some name, .deleted)
    else if kind = "TypeAlias" then (storesAll exprs).map fun name => (some name, .definition info)
    else []
  | .break | .continue => []

/-- The names a node itself binds, without the nodes below it. -/
def Node.bound (table : NameTable) : Node → List Bind
  | .expr (.namedExpr info target value) => targetBinds info value target
  | .stmt (.assign info targets value) => targets.flatMap (targetBinds info value)
  | .stmt (.annAssign info target _ (some value)) => targetBinds info value target
  | .stmt (.augAssign info target _) => partBinds info target.stores
  | .stmt (.loop info _ head _ _) => partBinds info (storesAll head)
  | .stmt (.with info _ items _) => partBinds info (storesAll items)
  | .stmt (.functionDef info _ name ..) => [(some name, .definition info)]
  | .stmt (.classDef info ..) => [(some (table.className info.identity), .definition info)]
  | .stmt (.plain info kind exprs) => kind.bound table info exprs
  | .pattern (.matchAny info name) => partBinds info name.toList
  | .pattern (.matchAs info _ name) => partBinds info name.toList
  | .pattern (.matchItems info ..) | .pattern (.other info ..) =>
    partBinds info (table.captures info.identity)
  -- the name of an exception is unbound at the end of its handler
  | .handler h => (table.handlerName h.info.identity).toList.flatMap fun name =>
    [(some name, .part h.info), (some name, .deleted)]
  | _ => []

/-- The names that make a name local to their frame: those a node binds, and those it annotates. -/
def Node.localNames (table : NameTable) (n : Node) : List String :=
  (n.bound table).filterMap Prod.fst ++
    match n with
    | .stmt (.annAssign _ target _ none) => target.stores
    | _ => []

/-- The names a node declares global or nonlocal. -/
def Node.declares (table : NameTable) (kind : String) : Node → List String
  | .stmt (.plain info (.other found) _) =>
    if found = kind then table.declared info.identity else []
  | _ => []

/-! ## Frames -/

def comprehensionKinds : List String := ["ListComp", "SetComp", "DictComp", "GeneratorExp"]

/-- The children of a node that belong to the frame of the node.  A walrus in a comprehension binds
its name outside the comprehension. -/
def Node.inScope : Node → List Node
  | .stmt (.functionDef _ _ _ args _ decoratorList returns) =>
    .arguments args :: decoratorList.map .expr ++ returns.toList.map .expr
  | .stmt (.classDef _ head _) => head.map .expr
  | .expr (.other _ kind children) =>
    if kind = "Lambda" then children.dropLast.map .expr else children.map .expr
  | n => n.children

/-- The first iterable of a comprehension. -/
def firstIterable (children : List Expr) : List Expr :=
  (children.findSome? fun
    | .other _ "comprehension" (_ :: iterable :: _) => some iterable
    | _ => none).toList

/-- What a comprehension evaluates for each element. -/
def eachElement (children : List Expr) : List Expr :=
  let first := (children.findIdx? fun
    | .other _ kind _ => kind = "comprehension"
    | _ => false).getD 0
  children.zipIdx.map fun child =>
    match child.1 with
    | .other info kind (target :: iterable :: conditions) =>
      if child.2 = first then .other info kind (target :: conditions)
      else .other info kind (target :: iterable :: conditions)
    | e => e

/-- The children of a node that are evaluated in the frame of the node. -/
def Node.inFrame : Node → List Node
  | .expr (.other info kind children) =>
    if kind ∈ comprehensionKinds then (firstIterable children).map .expr
    else Node.inScope (.expr (.other info kind children))
  | n => n.inScope

/-- A node with the nodes below it, along some of the children. -/
def descend (children : Node → List Node) : Nat → Node → List Node
  | 0, n => [n]
  | fuel + 1, n => n :: (children n).flatMap (descend children fuel)

/-- The nodes of the scope of a node. -/
def Node.scopeNodes (n : Node) : List Node := descend Node.inScope (walk n).length n

inductive FrameKind where
  | module | function | classBody | lambda | comprehension | generator
  deriving DecidableEq, Repr

/-- The scope that a name belongs to: a module, or the definition of a frame, by its identity. -/
inductive Scope where
  | module (name : List String)
  | definition (identity : Nat)
  deriving DecidableEq, Repr

/-- A frame: the names that are bound when it is entered, and the statements of its body. -/
structure Frame where
  kind : FrameKind
  scope : Scope
  info : NodeInfo
  parameters : List String
  body : List Node

/-- A module is no node of its own tree. -/
def noNode : NodeInfo := ⟨0, 1, 0, 1, 0⟩

def moduleFrame (file : SourceFile) : Frame :=
  ⟨.module, .module file.moduleName, noNode, [], file.body.map .stmt⟩

def functionFrame (info : NodeInfo) (args : Arguments) (body : List Stmt) : Frame :=
  ⟨.function, .definition info.identity, info,
    (args.posonlyargs ++ args.args ++ args.vararg.toList ++ args.kwonlyargs ++
      args.kwarg.toList).map (·.arg),
    body.map .stmt⟩

def classFrame (info : NodeInfo) (body : List Stmt) : Frame :=
  ⟨.classBody, .definition info.identity, info, [], body.map .stmt⟩

def lambdaFrame (table : NameTable) (info : NodeInfo) (body : Expr) : Frame :=
  ⟨.lambda, .definition info.identity, info, table.lambdaParameters info.identity, [.expr body]⟩

/-- The targets of a comprehension are bound when an element is evaluated. -/
def comprehensionFrame (info : NodeInfo) (kind : String) (children : List Expr) : Frame :=
  ⟨if kind = "GeneratorExp" then .generator else .comprehension, .definition info.identity, info,
    children.flatMap fun
      | .other _ "comprehension" (target :: _) => target.stores
      | _ => [],
    []⟩

/-- The frames whose body runs when they are called or consumed, and not where they stand. -/
def Frame.deferred (frame : Frame) : Bool :=
  frame.kind = .function || frame.kind = .lambda || frame.kind = .generator

/-- The nodes of a frame. -/
def Frame.nodes (frame : Frame) : List Node := frame.body.flatMap Node.scopeNodes

/-- The names that a frame declares global or nonlocal. -/
def Frame.declares (table : NameTable) (kind : String) (frame : Frame) : List String :=
  frame.nodes.flatMap (Node.declares table kind)

/-- The names a frame binds, wherever they belong. -/
def Frame.names (table : NameTable) (frame : Frame) : List String :=
  frame.parameters ++ frame.nodes.flatMap (Node.localNames table)

/-- The scope a name belongs to, along frames that see one another. -/
def scopeAmong (file : SourceFile) (name : String) : List Frame → Scope
  | [] => .module file.moduleName
  | frame :: outer =>
    if name ∈ frame.declares file.table "Global" then .module file.moduleName
    else if name ∈ frame.names file.table ∧ name ∉ frame.declares file.table "Nonlocal" then
      frame.scope
    else scopeAmong file name outer

/-- The scope a name belongs to in the innermost of some frames. -/
def scopeOf (file : SourceFile) (frames : List Frame) (name : String) : Scope :=
  match frames with
  | [] => .module file.moduleName
  | frame :: outer => scopeAmong file name (frame :: outer.filter (·.kind ≠ .classBody))

end Python
