import StateGuard.Discovery.Definitions
import StateGuard.Discovery.Resolution
import StateGuard.Graph.ControlFlow
import StateGuard.Python.Scopes

/-!
# Extraction

What the extractor records of the tree of a file (`analyzeModule`).  It visits the nodes in the
order of the tree; a function or a class becomes a symbol with a scope of its own, and what is met
in its body is recorded for that symbol.
-/

namespace StateGuard

open Python

/-- A file of the project, with its tree. -/
structure ProjectFile extends SourceFile where
  fileId : SourceFileId
  path : String

/-- The dotted name of the module of a file. -/
def ProjectFile.dottedName (file : ProjectFile) : String := String.intercalate "." file.moduleName

/-- What is extracted so far. -/
structure Extraction where
  symbols : List SymbolRecord
  scopes : Dict SymbolId ScopeInfo
  imports : List RawImport
  calls : List RawCall
  bindings : List ModuleBinding
  frameworkAssignments : List RawFrameworkAssignment
  /-- The nodes of the definitions that are symbols. -/
  definedBy : List (Nat × SymbolId)

/-- `_location`. -/
def locationOf (path : String) (info : NodeInfo) : SourceLocation :=
  ⟨path, max info.line 1, info.column, max info.endLine (max info.line 1),
    if info.endColumn = 0 then info.column else info.endColumn⟩

/-- The line and the column of a location. -/
def SourceLocation.position (location : SourceLocation) : Position :=
  toLex (location.lineStart, location.columnStart)

/-- `_string_or_name`: a literal, a name, and whether it is something else. -/
def stringOrName : Option Expr → Option String × Option String × Bool
  | some (.constant _ (.text value)) => (some value, none, false)
  | some (.name _ id _) => (none, some id, false)
  | value => (none, none, value.isSome)

/-- `_first_parameter`. -/
def firstParameter (args : Arguments) : Option String :=
  ((args.posonlyargs ++ args.args).head?).map (·.arg)

/-- The names of the parameters, which a function writes. -/
def writtenParameters (args : Arguments) : List String :=
  (args.posonlyargs ++ args.args ++ args.kwonlyargs ++ args.vararg.toList ++
    args.kwarg.toList).map (·.arg)

namespace Extraction

variable (text : BuildText) (file : ProjectFile)

/-- Some names are written in a scope. -/
def write (found : Extraction) (owner : SymbolId) (names : List String) : Extraction :=
  match found.scopes.get? owner with
  | some scope =>
    { found with scopes := found.scopes.set owner { scope with writes := scope.writes ++ names } }
  | none => found

/-- `_new_symbol`. -/
def newSymbol (found : Extraction) (qualifiedName : String) (kind : SymbolKind)
    (location : SourceLocation) : SymbolRecord :=
  let ordinal := found.symbols.countP fun s => s.qualifiedName = qualifiedName ∧ s.kind = kind
  { symbolId := text.stableId "sgsym" [file.fileId, qualifiedName, kind.value, toString ordinal]
    sourceFileId := file.fileId
    qualifiedName := qualifiedName
    kind := kind
    sourceLocation := location }

/-- The symbol and the scope of a definition, which its owner defines under its name. -/
def define (found : Extraction) (owner : ScopeInfo) (kind : DefinitionKind) (name : String)
    (info : NodeInfo) (scopeOf : SymbolRecord → ScopeInfo) : SymbolId × Extraction :=
  let parent : Visited := ⟨owner.symbol.qualifiedName, owner.symbol.kind, "", 1, 1⟩
  let symbol := newSymbol text file found (qualifiedChild parent name) (symbolKind parent kind)
    (locationOf file.path info)
  let definitions := owner.definitions.set name
    ((owner.definitions.get? name).getD [] ++ [symbol.symbolId])
  (symbol.symbolId,
    { found with
      symbols := found.symbols ++ [symbol]
      scopes := (found.scopes.set owner.symbol.symbolId
        { owner with definitions := definitions }).set symbol.symbolId (scopeOf symbol)
      definedBy := found.definedBy ++ [(info.identity, symbol.symbolId)] })

/-- What `process_function` records before it visits the parts of a function. -/
def defineFunction (found : Extraction) (owner : ScopeInfo) (async : Bool) (name : String)
    (args : Arguments) (info : NodeInfo) : SymbolId × Extraction :=
  define text file found owner (if async then .asyncFunction else .function) name info fun symbol =>
    { symbol := symbol
      parentSymbolId := some owner.symbol.symbolId
      enclosingClassSymbolId :=
        if owner.symbol.kind = .classDef then some owner.symbol.symbolId
        else owner.enclosingClassSymbolId
      firstParameter := firstParameter args
      definitions := Dict.empty
      writes := writtenParameters args }

/-- What `process_class` records before it visits the parts of a class. -/
def defineClass (found : Extraction) (owner : ScopeInfo) (name : String) (info : NodeInfo) :
    SymbolId × Extraction :=
  define text file found owner .classDef name info fun symbol =>
    { symbol := symbol
      parentSymbolId := some owner.symbol.symbolId
      enclosingClassSymbolId := some symbol.symbolId
      firstParameter := none
      definitions := Dict.empty
      writes := [] }

/-- `record_import`, for one name of an `import` statement. -/
def recordImport (owner : SymbolId) (found : Extraction) (imported : Alias) : Extraction :=
  let localName := imported.asname.getD (beforeFirst '.' imported.name)
  { found.write owner [localName] with
    imports := found.imports ++ [⟨owner, imported.name, 0, none, some localName⟩] }

/-- `record_import`, for one name of a `from` statement. -/
def recordImportFrom (owner : SymbolId) (level : Nat) (module : String) (found : Extraction)
    (imported : Alias) : Extraction :=
  let boundName := if imported.name = "*" then none else some (imported.asname.getD imported.name)
  { found.write owner boundName.toList with
    imports := found.imports ++ [⟨owner, module, level, some imported.name, boundName⟩] }

/-- `record_call`. -/
def recordCall (found : Extraction) (owner : SymbolId) (info : NodeInfo) (func : Expr) :
    Extraction :=
  let reference := (referenceFor func).getD
    (match func with
    | .subscript .. => "<subscript-call>"
    | _ => "<dynamic-call>")
  { found with calls := found.calls ++ [⟨owner, reference, locationOf file.path info⟩] }

/-- A binding of which nothing but its place is known. -/
def bindUnknown (location : SourceLocation) (found : Extraction) (name : String) : Extraction :=
  if found.bindings.any fun b => b.name = name ∧ b.position = location.position then found
  else
    { found with
      bindings := found.bindings ++ [⟨name, none, none, location.position, location⟩] }

/-- `record_nested_module_write`. -/
def recordNestedModuleWrite (found : Extraction) (owner : SymbolId) (s : Stmt) : Extraction :=
  if ((found.scopes.get? owner).map (·.symbol.kind)) = some .module then
    (targetNames (assignment s).1).foldl (bindUnknown (locationOf file.path s.info)) found
  else found

/-- The value of a keyword of a call. -/
def keywordValue (name : String) (keywords : List Keyword) : Option Expr :=
  (keywords.find? (·.arg = some name)).map (·.value)

/-- The binding of one name by a statement at the top level of the module. -/
def bindDirect (location : SourceLocation) (value : Option Expr) (simple : Bool)
    (found : Extraction) (name : String) : Extraction :=
  let bound :=
    { found with
      bindings := found.bindings ++
        [⟨name, value.bind referenceFor, (stringOrName value).1, location.position, location⟩] }
  match value with
  | some (.call _ func _ keywords) =>
    match referenceFor func with
    | some constructor =>
      if simple then
        let node := keywordValue "prefix" keywords
        let known := stringOrName node
        { bound with
          frameworkAssignments := bound.frameworkAssignments ++
            [⟨name, constructor, if node.isSome then known.1 else some "", known.2.1, known.2.2,
              location.position, location⟩] }
      else bound
    | none => bound
  | _ => bound

/-- The names that a statement binds at the top level of the module, with their value and whether
the statement has one target only. -/
def directNames (table : NameTable) (s : Stmt) : List String × Option Expr × Bool :=
  match s with
  | .assign _ targets value =>
    (targetNames targets, some value, targets.length = 1 ∧ (targetNames targets).length = 1)
  | .annAssign _ target _ value => (targetNames [target], value, true)
  | .functionDef _ _ name .. => ([name], none, false)
  | .classDef info .. => ([table.className info.identity], none, false)
  | _ => ([], none, false)

/-- `_record_direct_module_binding`. -/
def recordDirectModuleBinding (found : Extraction) (moduleSymbolId : SymbolId) (s : Stmt) :
    Extraction :=
  let bound := directNames file.table s
  (bound.1.foldl (bindDirect (locationOf file.path s.info) bound.2.1 bound.2.2) found).write
    moduleSymbolId bound.1

/-- `_NodeCollector.visit` of a node for an owner. -/
def visit : Nat → SymbolId → Node → Extraction → Extraction
  | 0, _, _, found => found
  | fuel + 1, owner, n, found =>
    let visitAll (owner : SymbolId) (nodes : List Node) (found : Extraction) : Extraction :=
      nodes.foldl (fun found n => visit fuel owner n found) found
    match n, found.scopes.get? owner with
    | .stmt (.functionDef info async name args body decorators _), some scope =>
      let defined := defineFunction text file found scope async name args info
      visitAll defined.1 (body.map .stmt)
        (visitAll owner
          ((decorators ++ args.defaults ++ args.kwDefaults.flatMap Option.toList).map .expr)
          defined.2)
    | .stmt (.classDef info head body), some scope =>
      let defined := defineClass text file found scope (file.table.className info.identity) info
      visitAll defined.1 (body.map .stmt) (visitAll owner (head.map .expr) defined.2)
    | .stmt (.plain _ (.import names) _), _ => names.foldl (recordImport owner) found
    | .stmt (.plain info (.importFrom module names) _), _ =>
      names.foldl (recordImportFrom owner (file.table.importLevel info.identity)
        (module.getD "")) found
    | .stmt s, _ =>
      visitAll owner (Node.stmt s).children (recordNestedModuleWrite file found owner s)
    | .expr (.call info func args keywords), _ =>
      visitAll owner (Node.expr (.call info func args keywords)).children
        (recordCall file found owner info func)
    | .expr (.name _ id load), _ => if load then found else found.write owner [id]
    | n, _ => visitAll owner n.children found

/-- The symbol of the module, before anything is visited. -/
def start : SymbolId × Extraction :=
  let empty : Extraction := ⟨[], Dict.empty, [], [], [], [], []⟩
  let symbol := newSymbol text file empty file.dottedName .module ⟨file.path, 1, 0, 1, 0⟩
  (symbol.symbolId,
    { empty with
      symbols := [symbol]
      scopes := Dict.empty.set symbol.symbolId
        { symbol := symbol
          parentSymbolId := none
          enclosingClassSymbolId := none
          firstParameter := none
          definitions := Dict.empty
          writes := [] } })

/-- `extract`. -/
def extract : Extraction :=
  let module := start text file
  file.body.foldl
    (fun found s =>
      visit text file (Python.walk (.stmt s)).length module.1 (.stmt s)
        (recordDirectModuleBinding file found module.1 s))
    module.2

end Extraction

/-- `analyze_module`. -/
def analyzeModule (text : BuildText) (file : ProjectFile) : ModuleAnalysis :=
  let found := Extraction.extract text file
  { moduleName := file.dottedName
    fileId := file.fileId
    path := file.path
    symbols := found.symbols
    scopes := found.scopes
    imports := found.imports
    calls := found.calls
    bindings := found.bindings
    frameworkAssignments := found.frameworkAssignments }

/-- The symbol of a definition, by its node. -/
def symbolOfNode (text : BuildText) (file : ProjectFile) (identity : Nat) : Option SymbolId :=
  ((Extraction.extract text file).definedBy.find? (·.1 = identity)).map Prod.snd

/-- The symbol of a module. -/
def moduleSymbolId (text : BuildText) (file : ProjectFile) : SymbolId :=
  (Extraction.start text file).1

end StateGuard
