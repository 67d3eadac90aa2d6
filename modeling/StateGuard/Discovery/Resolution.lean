import Mathlib.Algebra.GroupWithZero.Nat
import StateGuard.Discovery.Contracts
import StateGuard.Library.Dict
import StateGuard.Library.KeyOrder
import StateGuard.Python.Text

/-!
# Names of modules

What the extraction keeps of a module (`ModuleAnalysis`): its scopes with the names they define and
write, its imports, and the bindings at its top level.  A reference is canonical when its first name
is replaced by what the nearest scope imports under it (`canonicalizeReference`); the symbol a call
means is looked up under the canonical name first, and then along the scopes (`resolveCallSymbol`).
-/

namespace StateGuard

open Python

/-! ## What is extracted -/

/-- A line and a column. -/
abbrev Position := Nat ×ₗ Nat

structure RawImport where
  ownerSymbolId : SymbolId
  moduleName : String
  level : Nat
  importedName : Option String
  localName : Option String
  deriving DecidableEq, Repr

structure RawCall where
  callerSymbolId : SymbolId
  reference : String
  location : SourceLocation
  deriving DecidableEq, Repr

/-- A name bound at the top level of a module. -/
structure ModuleBinding where
  name : String
  reference : Option String
  stringValue : Option String
  position : Position
  location : SourceLocation
  deriving DecidableEq

/-- A name bound to a call that may construct an application or a router. -/
structure RawFrameworkAssignment where
  bindingName : String
  constructorReference : String
  prefixValue : Option String
  prefixReference : Option String
  prefixDynamic : Bool
  position : Position
  location : SourceLocation
  deriving DecidableEq

structure ScopeInfo where
  symbol : SymbolRecord
  parentSymbolId : Option SymbolId
  enclosingClassSymbolId : Option SymbolId
  firstParameter : Option String
  definitions : Dict String (List SymbolId)
  writes : List String

structure ModuleAnalysis where
  moduleName : String
  fileId : SourceFileId
  path : String
  symbols : List SymbolRecord
  scopes : Dict SymbolId ScopeInfo
  imports : List RawImport
  calls : List RawCall
  bindings : List ModuleBinding
  frameworkAssignments : List RawFrameworkAssignment

/-! ## Dotted names -/

/-- `str.partition(".")[2]`. -/
def tailOf (reference : String) : String :=
  String.ofList ((reference.toList.dropWhile (· ≠ '.')).drop 1)

/-- `"." in reference`. -/
def dotted (reference : String) : Bool := reference.toList.contains '.'

/-- The parts between the dots. -/
def splitDots (reference : String) : List String :=
  (reference.toList.splitOn '.').map String.ofList

/-- A canonical name with the rest of a reference. -/
def withTail (canonical reference : String) : String :=
  if dotted reference then canonical ++ "." ++ tailOf reference else canonical

section

variable (modules : List ModuleAnalysis)

/-! ## Scopes -/

/-- `scope_by_id`. -/
def scope? (scopeId : SymbolId) : Option ScopeInfo :=
  modules.reverse.findSome? (·.scopes.get? scopeId)

/-- `module_for_scope`. -/
def moduleForScope (scopeId : SymbolId) : Option ModuleAnalysis :=
  modules.reverse.find? fun module => (module.scopes.get? scopeId).isSome

/-- `unique_symbol_by_name.get`. -/
def uniqueSymbol? (name : String) : Option SymbolRecord :=
  match (modules.flatMap (·.symbols)).filter (·.qualifiedName = name) with
  | [symbol] => some symbol
  | _ => none

/-- `_relative_base`. -/
def relativeBase (module : ModuleAnalysis) (level : Nat) : Option String :=
  if level = 0 then some ""
  else if module.moduleName = "__init__" then none
  else
    let parts := splitDots module.moduleName
    let package := if endsWith "/__init__.py" module.path then parts else parts.dropLast
    if level - 1 > package.length then none
    else
      match package.take (package.length - (level - 1)) with
      | [] => none
      | retained => some (String.intercalate "." retained)

/-- `canonical_import_reference`. -/
def canonicalImportReference (raw : RawImport) : Option String :=
  let base : Option String :=
    if raw.level = 0 then some raw.moduleName
    else
      (moduleForScope modules raw.ownerSymbolId).bind fun module =>
        (relativeBase module raw.level).map fun base =>
          if raw.moduleName = "" then base else base ++ "." ++ raw.moduleName
  base.bind fun base =>
    match raw.importedName with
    | some imported => some (if base = "" then imported else base ++ "." ++ imported)
    | none => if base = "" then none else some base

/-- What an import binds a name to: the head of a dotted module without an alias, the imported
thing otherwise. -/
def aliasTarget (raw : RawImport) : Option (String × String) :=
  raw.localName.bind fun localName =>
    (canonicalImportReference modules raw).map fun canonical =>
      (localName,
        if raw.importedName = none ∧ localName = beforeFirst '.' raw.moduleName then localName
        else canonical)

/-- `_aliases_for_scope(…).get`: what the one import of a name in a scope binds it to. -/
def alias? (scopeId : SymbolId) (name : String) : Option String :=
  let targets := ((modules.flatMap (·.imports)).filter (·.ownerSymbolId = scopeId)).filterMap
    (aliasTarget modules)
  match targets.filter (·.1 = name) with
  | [target] => some target.2
  | _ => none

/-- `_scope_chain`, for at most as many scopes as there are. -/
def scopeChain : Nat → SymbolId → List ScopeInfo
  | 0, _ => []
  | fuel + 1, scopeId =>
    match scope? modules scopeId with
    | none => []
    | some scope => scope :: (scope.parentSymbolId.map (scopeChain fuel)).getD []

/-- The number of scopes. -/
def scopeCount : Nat := (modules.map (·.scopes.entries.length)).sum

/-! ## References -/

/-- What a name means along a chain of scopes: the import of the first scope that has one, up to a
scope that writes the name. -/
def importAlong (name : String) : List ScopeInfo → Option String
  | [] => none
  | scope :: rest =>
    match alias? modules scope.symbol.symbolId name with
    | some canonical => some canonical
    | none => if name ∈ scope.writes then none else importAlong name rest

/-- `canonicalize_reference`. -/
def canonicalizeReference (scopeId : SymbolId) (reference : String) : String :=
  if startsWith "<" reference then reference
  else
    match importAlong modules (beforeFirst '.' reference)
        (scopeChain modules (scopeCount modules) scopeId) with
    | some canonical => withTail canonical reference
    | none => reference

/-- The definition a bare name means along a chain of scopes: `none` if the search goes on at the
top level of the module. -/
def definitionAlong (name : String) : List ScopeInfo → Option (Option SymbolId)
  | [] => none
  | scope :: rest =>
    let definitions := (scope.definitions.get? name).getD []
    match definitions with
    | [definition] =>
      if name ∉ scope.writes then some (some definition) else some none
    | _ => if name ∈ scope.writes then some none else definitionAlong name rest

/-- `resolve_call_symbol`. -/
def resolveCallSymbol (callerSymbolId : SymbolId) (reference : String) : Option SymbolId :=
  if startsWith "<" reference then none
  else
    match uniqueSymbol? modules (canonicalizeReference modules callerSymbolId reference) with
    | some direct => some direct.symbolId
    | none =>
      let topLevel (name : String) : Option SymbolId :=
        (moduleForScope modules callerSymbolId).bind fun module =>
          (uniqueSymbol? modules (module.moduleName ++ "." ++ name)).map (·.symbolId)
      if dotted reference = false then
        match definitionAlong reference
          (scopeChain modules (scopeCount modules) callerSymbolId) with
        | some found => found
        | none => topLevel reference
      else
        let head := beforeFirst '.' reference
        match scope? modules callerSymbolId with
        | none => none
        | some caller =>
          if (head = "self" ∨ head = "cls") ∧ caller.firstParameter = some head then
            (caller.enclosingClassSymbolId.bind (scope? modules)).bind fun scope =>
              match (scope.definitions.get? (tailOf reference)).getD [] with
              | [definition] =>
                if tailOf reference ∉ scope.writes then some definition else none
              | _ => none
          else topLevel reference

end

end StateGuard
