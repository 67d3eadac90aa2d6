import StateGuard.Discovery.Resolution
import StateGuard.Graph.Identity
import StateGuard.Library.Recursion

/-!
# Framework instances

The applications and routers of the modules, and what a name at a position stands for.  A name is
followed through the latest binding before the position, and where there is none through the import
of the name into another module, where it is followed from the end.  The three functions that do
this call one another; they are the plans of three kinds of queries (`InstanceQuery`), and
`resolveInstance` runs them with fuel.
-/

namespace StateGuard

open Python

section

variable (text : BuildText) (modules : List ModuleAnalysis)

/-! ## Bindings -/

/-- `bindings_by_module`: the bindings of the last module of a name, by position. -/
def bindingsOf (moduleName : String) : List ModuleBinding :=
  match modules.reverse.find? (·.moduleName = moduleName) with
  | some module => KeyOrder.sortedByKey (·.position) module.bindings
  | none => []

/-- `module_scope_id`. -/
def moduleScopeId (moduleName : String) : SymbolId :=
  (((modules.reverse.find? (·.moduleName = moduleName)).bind fun module =>
    module.symbols.find? (·.qualifiedName = module.moduleName)).map (·.symbolId)).getD ""

/-- A binding stands before a position; without a position every binding does. -/
def standsBefore (position : Option Position) (binding : ModuleBinding) : Bool :=
  position.all fun position => decide (binding.position < position)

/-- `_latest_binding`. -/
def latestBinding (moduleName name : String) (position : Option Position) : Option ModuleBinding :=
  ((bindingsOf modules moduleName).filter fun binding =>
    binding.name = name ∧ standsBefore position binding).getLast?

/-- A reference in the scope of a module. -/
def canonicalIn (moduleName reference : String) : String :=
  canonicalizeReference modules (moduleScopeId modules moduleName) reference

/-! ## What is constructed -/

/-- `resolve_reference`, for at most as many bindings as there are. -/
def resolveReference : Nat → String → String → Position → List String → Option String
  | 0, _, _, _, _ => none
  | fuel + 1, moduleName, reference, position, seen =>
    let head := beforeFirst '.' reference
    if head ∈ seen then none
    else
      match latestBinding modules moduleName head (some position) with
      | some binding =>
        binding.reference.bind fun bound =>
          resolveReference fuel moduleName (withTail bound reference) binding.position
            (head :: seen)
      | none => some (canonicalIn modules moduleName reference)

/-- `str.lstrip(".")`. -/
def stripDots (reference : String) : String :=
  String.ofList (reference.toList.dropWhile (· = '.'))

/-- The name in a module that a canonical reference means: the modules are tried from the one with
the longest name on. -/
def nameInModule (isModule : String → Bool) (canonical : String) : Option (String × String) :=
  let matching := (modules.map (·.moduleName)).filter isModule
  match KeyOrder.sortedByKey (fun name => OrderDual.toDual name.length) matching with
  | [] => none
  | moduleName :: _ =>
    let suffix := stripDots (String.ofList (canonical.toList.drop moduleName.length))
    if suffix = "" ∨ dotted suffix then none else some (moduleName, suffix)

/-- `_resolve_imported_string`. -/
def resolveImportedString (canonical : String) : Option String :=
  (nameInModule modules (fun moduleName =>
      canonical = moduleName ∨ startsWith (moduleName ++ ".") canonical) canonical).bind
    fun target => (latestBinding modules target.1 target.2 none).bind (·.stringValue)

/-- `resolve_string`, for at most as many bindings as there are. -/
def resolveString : Nat → String → Option String → Option String → Position → Option String
  | 0, _, value, _, _ => value
  | fuel + 1, moduleName, value, reference, position =>
    match value, reference with
    | some value, _ => some value
    | none, none => none
    | none, some reference =>
      match latestBinding modules moduleName reference (some position) with
      | some binding =>
        match binding.stringValue, binding.reference with
        | some value, _ => some value
        | none, some bound => resolveString fuel moduleName none (some bound) binding.position
        | none, none => none
      | none => resolveImportedString modules (canonicalIn modules moduleName reference)

/-- `_FASTAPI_CONSTRUCTORS`. -/
def frameworkConstructor (constructor : String) : Option FrameworkKind :=
  if constructor = "fastapi.FastAPI" then some .fastapiApp
  else if constructor = "fastapi.APIRouter" then some .apiRouter
  else none

def FrameworkKind.value : FrameworkKind → String
  | .fastapiApp => "FASTAPI_APP"
  | .apiRouter => "API_ROUTER"

/-- As many steps as there are bindings in a module. -/
def bindingBound (moduleName : String) : Nat := (bindingsOf modules moduleName).length + 1

/-- The kind of instance an assignment constructs. -/
def constructedKind (module : ModuleAnalysis) (assignment : RawFrameworkAssignment) :
    Option FrameworkKind :=
  (resolveReference modules (bindingBound modules module.moduleName) module.moduleName
    assignment.constructorReference assignment.position []).bind frameworkConstructor

/-- The assignments that construct an instance, module by module and by position. -/
def constructions : List (ModuleAnalysis × RawFrameworkAssignment × FrameworkKind) :=
  modules.flatMap fun module =>
    (KeyOrder.sortedByKey (·.position)
        module.frameworkAssignments).filterMap fun assignment =>
      (constructedKind modules module assignment).map (module, assignment, ·)

/-- `instance_for_assignment`: the constructed instances, with the module, the name and the position
of their assignment. -/
def constructedInstances : List ((String × String × Position) × FrameworkInstanceRecord) :=
  (constructions modules).zipIdx.map fun entry =>
    let module := entry.1.1
    let assignment := entry.1.2.1
    let kind := entry.1.2.2
    let qualified := module.moduleName ++ "." ++ assignment.bindingName
    let ordinal := (((constructions modules).take entry.2).filter fun earlier =>
      earlier.1.moduleName = module.moduleName ∧
        earlier.2.1.bindingName = assignment.bindingName).length
    ((module.moduleName, assignment.bindingName, assignment.position),
      { frameworkInstanceId := text.stableId "sgfw"
          [module.fileId, text.strip qualified, kind.value, toString ordinal]
        sourceFileId := module.fileId
        qualifiedBindingName := qualified
        kind := kind
        pathPrefix :=
          if assignment.prefixDynamic then none
          else resolveString modules (bindingBound modules module.moduleName) module.moduleName
            assignment.prefixValue assignment.prefixReference assignment.position
        sourceLocation := assignment.location })

/-- `instance_for_assignment.get`. -/
def instanceForAssignment (moduleName name : String) (position : Position) :
    Option FrameworkInstanceRecord :=
  ((constructedInstances text modules).reverse.find? (·.1 = (moduleName, name, position))).map
    Prod.snd

/-! ## What a name stands for -/

/-- A query of the resolver. -/
inductive InstanceQuery where
  /-- `_active_local_instance`. -/
  | activeLocal (moduleName name : String) (position : Option Position) (seen : List String)
  /-- `_active_imported_instance`. -/
  | activeImported (qualified : String)
  /-- `resolve_instance_reference`. -/
  | reference (moduleName reference : String) (position : Position) (seen : List String)
  deriving DecidableEq

open Recursion in
/-- What the three functions do, up to their calls of one another. -/
def instancePlan : InstanceQuery → Plan InstanceQuery (Option FrameworkInstanceRecord)
  | .activeLocal moduleName name position seen =>
    if name ∈ seen then .done none
    else
      match latestBinding modules moduleName name position with
      | none =>
        let canonical := canonicalIn modules moduleName name
        if canonical ≠ name then .ask (.activeImported canonical) .done else .done none
      | some binding =>
        match instanceForAssignment text modules moduleName name binding.position with
        | some direct => .done (some direct)
        | none =>
          match binding.reference with
          | none => .done none
          | some reference =>
            .ask (.reference moduleName reference binding.position (name :: seen)) .done
  | .activeImported qualified =>
    match nameInModule modules (fun moduleName => startsWith (moduleName ++ ".") qualified)
        qualified with
    | none => .done none
    | some (moduleName, suffix) => .ask (.activeLocal moduleName suffix none []) .done
  | .reference moduleName reference position seen =>
    .ask (.activeLocal moduleName (beforeFirst '.' reference) (some position) seen) fun
      | some found => .done (if dotted reference then none else some found)
      | none => .ask (.activeImported (canonicalIn modules moduleName reference)) .done

/-- The resolver, with fuel. -/
def resolveInstance (fuel : Nat) (query : InstanceQuery) :
    Option (Option FrameworkInstanceRecord) :=
  Recursion.answer (instancePlan text modules) fuel query

/-- The resolver returns. -/
def Resolves (query : InstanceQuery) : Prop :=
  Recursion.Ends (instancePlan text modules) query

/-- The resolver comes back to a query on its way to the answer to that query. -/
def ComesBack (query : InstanceQuery) : Prop :=
  Recursion.Returns (instancePlan text modules) query

/-- The queries on the way to an answer. -/
def Followed : InstanceQuery → InstanceQuery → Prop :=
  Relation.ReflTransGen (Recursion.Calls (instancePlan text modules))

end

end StateGuard
