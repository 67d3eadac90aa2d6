import Mathlib.Data.List.DropRight
import StateGuard.Graph.RouteAnalysis

/-!
# Route composition

The effective routes of the selected application.  A walk starts at the application, takes the
routes registered on an instance, and goes on through its includes (`walk`).  What an include
leads to is decided by `enter`: a router that is no part of the walk so far, at a prefix that is
known, and otherwise a diagnostic.

The walk is bounded by fuel.  The instances it stands in are distinct, so as much fuel as there
are instances is enough (`walk_succ`).

An include is anchored by its ordinal among the includes of one shape, and so is a route.
Ordinals follow the JSON text of the locations.
-/

namespace StateGuard

section

variable (text : BuildText) (index : SourceIndexArtifact)

/-! ## Ordinals -/

/-- The shape of an include. -/
def RouterIncludeRecord.shape (record : RouterIncludeRecord) :
    FrameworkInstanceId × FrameworkInstanceId × Option String :=
  (record.parentInstanceId, record.includedRouterInstanceId, record.pathPrefix)

/-- The shape of a route. -/
def RouteRecord.shape (route : RouteRecord) : FrameworkInstanceId × SymbolId × String × String :=
  (route.registrarInstanceId, route.ownerSymbolId, route.method, route.routePath)

/-- `canonical_json` of the shape of an include. -/
def shapeJson (shape : FrameworkInstanceId × FrameworkInstanceId × Option String) : String :=
  "[" ++ text.quote shape.1 ++ "," ++ text.quote shape.2.1 ++ "," ++
    text.optionalJson shape.2.2 ++ "]"

/-- An include with its anchor. -/
structure IncludeOccurrence where
  record : RouterIncludeRecord
  anchor : String
  deriving DecidableEq

/-- The includes of one shape, by the JSON text of their locations. -/
def includePeers (shape : FrameworkInstanceId × FrameworkInstanceId × Option String) :
    List RouterIncludeRecord :=
  KeyOrder.sortedByKey (fun record => text.locationJson record.sourceLocation)
    (index.routerIncludes.filter (·.shape = shape))

/-- The includes of one shape with their anchors. -/
def occurrencesOf (shape : FrameworkInstanceId × FrameworkInstanceId × Option String) :
    List IncludeOccurrence :=
  (includePeers text index shape).zipIdx.map fun entry =>
    { record := entry.1
      anchor := text.includeOccurrenceAnchor entry.1.parentInstanceId
        entry.1.includedRouterInstanceId entry.1.pathPrefix entry.2 }

/-- `_include_occurrences`. -/
def includeOccurrences : List IncludeOccurrence :=
  KeyOrder.sortedByKey (fun occurrence => text.includeJson occurrence.record)
    ((KeyOrder.sortedByKey (shapeJson text) (index.routerIncludes.map (·.shape)).dedup).flatMap
      (occurrencesOf text index))

/-- The routes of one shape with their positions, by the JSON text of their locations. -/
def routePeers (shape : FrameworkInstanceId × SymbolId × String × String) :
    List (RouteRecord × Nat) :=
  KeyOrder.sortedByKey (fun entry => text.locationJson entry.1.sourceLocation)
    (index.routes.zipIdx.filter (·.1.shape = shape))

/-- `_route_ordinals`: the ordinal of the route at a position. -/
def routeOrdinal (entry : RouteRecord × Nat) : Nat :=
  ((routePeers text index entry.1.shape).map (·.2)).idxOf entry.2

/-! ## Paths -/

/-- `str.rstrip("/")`. -/
def stripSlashes (component : String) : String :=
  String.ofList (component.toList.rdropWhile (· = '/'))

/-- `_compose_path`. -/
def composePath (prefixes : List String) (routePath : String) : String :=
  let head := String.join (prefixes.map stripSlashes)
  if head = "" then routePath
  else if routePath = "/" then head ++ "/"
  else head ++ routePath

/-! ## The walk -/

/-- Where a walk stands: an instance, and the includes that lead to it. -/
structure Mount where
  instanceId : FrameworkInstanceId
  prefixes : List String
  anchors : List String
  includeLocations : List SourceLocation
  stack : List FrameworkInstanceId

/-- The routes of the application and the includes that could not be followed. -/
structure ReachabilityResult where
  routes : List ReachableRoute
  diagnostics : List GraphDiagnosticRecord

/-- `framework_by_id.get`. -/
def frameworkInstance? (instanceId : FrameworkInstanceId) : Option FrameworkInstanceRecord :=
  index.frameworkInstances.find? (·.frameworkInstanceId = instanceId)

/-- A route as it is registered at the end of a walk. -/
def mountedRoute (appId : FrameworkInstanceId) (mount : Mount) (entry : RouteRecord × Nat) :
    ReachableRoute where
  registration :=
    { routeRegistrationId := text.routeRegistrationId appId mount.anchors
        entry.1.registrarInstanceId entry.1.ownerSymbolId entry.1.method entry.1.routePath
        (routeOrdinal text index entry)
      appInstanceId := appId
      registrarInstanceId := entry.1.registrarInstanceId
      method := text.upper (text.strip entry.1.method)
      componentPath := text.strip entry.1.routePath
      effectivePath := text.strip (composePath mount.prefixes entry.1.routePath) }
  ownerSymbolId := entry.1.ownerSymbolId
  routeLocation := entry.1.sourceLocation
  includeLocations := mount.includeLocations
  includeAnchors := mount.anchors

/-- The routes registered on the instance a walk stands in. -/
def mountedRoutes (appId : FrameworkInstanceId) (mount : Mount) : List ReachableRoute :=
  (KeyOrder.sortedByKey (fun entry => text.routeJson entry.1)
    (index.routes.zipIdx.filter (·.1.registrarInstanceId = mount.instanceId))).map
      (mountedRoute text index appId mount)

/-- The includes of the instance a walk stands in. -/
def mountedIncludes (mount : Mount) : List IncludeOccurrence :=
  KeyOrder.sortedByKey (fun occurrence => text.includeJson occurrence.record)
    ((includeOccurrences text index).filter (·.record.parentInstanceId = mount.instanceId))

/-- An include that is not followed. -/
def compositionDiagnostic (code : GraphDiagnosticCode) (record : RouterIncludeRecord) :
    GraphDiagnosticRecord :=
  { code := code
    impact := .coverageReduced
    sourceLocation := some record.sourceLocation }

/-- Where an include leads to. -/
def enter (mount : Mount) (occurrence : IncludeOccurrence) : Except GraphDiagnosticRecord Mount :=
  let record := occurrence.record
  match record.pathPrefix, frameworkInstance? index record.includedRouterInstanceId with
  | some includePrefix, some child =>
    match child.pathPrefix with
    | none => .error (compositionDiagnostic .routeCompositionUnresolved record)
    | some childPrefix =>
      if child.kind ≠ .apiRouter then
        .error (compositionDiagnostic .routeCompositionUnresolved record)
      else if child.frameworkInstanceId ∈ mount.stack then
        .error (compositionDiagnostic .routeCompositionCycle record)
      else
        .ok
          { instanceId := child.frameworkInstanceId
            prefixes := mount.prefixes ++ [includePrefix, childPrefix]
            anchors := mount.anchors ++ [occurrence.anchor]
            includeLocations := mount.includeLocations ++ [record.sourceLocation]
            stack := mount.stack ++ [child.frameworkInstanceId] }
  | _, _ => .error (compositionDiagnostic .routeCompositionUnresolved record)

/-- What an include adds to a walk. -/
def follow (next : Mount → ReachabilityResult) (mount : Mount) (occurrence : IncludeOccurrence) :
    ReachabilityResult :=
  match enter index mount occurrence with
  | .error diagnostic => ⟨[], [diagnostic]⟩
  | .ok child => next child

/-- `walk`: the routes of an instance, and then those below its includes. -/
def walk (appId : FrameworkInstanceId) : Nat → Mount → ReachabilityResult
  | 0, _ => ⟨[], []⟩
  | fuel + 1, mount =>
    let below := (mountedIncludes text index mount).map
      (follow index (walk appId fuel) mount)
    { routes := mountedRoutes text index appId mount ++ below.flatMap (·.routes)
      diagnostics := below.flatMap (·.diagnostics) }

/-- The walk starts at the application. -/
def Mount.start (appId : FrameworkInstanceId) : Mount := ⟨appId, [], [], [], [appId]⟩

/-- The application that is served. -/
def selectedTargets : List AppTargetRecord :=
  index.appTargets.filter fun target =>
    target.selection = .configured ∨ target.selection = .autoSelected

/-- The instances a walk may stand in, each once. -/
def walkBound : Nat := index.frameworkInstances.length + 1

/-- The walk from an application. -/
def walkFrom (appId : FrameworkInstanceId) : ReachabilityResult :=
  walk text index appId (walkBound index) (Mount.start appId)

/-- `compose_effective_routes`. -/
def composeEffectiveRoutes : ReachabilityResult :=
  match selectedTargets index with
  | [target] =>
    let composed := walkFrom text index target.frameworkInstanceId
    { routes := KeyOrder.sortedByKey (fun route => text.registrationJson route.registration)
        composed.routes
      diagnostics := KeyOrder.sortedByKey text.diagnosticJson composed.diagnostics }
  | _ => ⟨[], [{ code := .appTargetUnselected, impact := .coverageReduced }]⟩

end

/-! ## Where a walk goes -/

section

variable {text : BuildText} {index : SourceIndexArtifact} {appId : FrameworkInstanceId}

/-- An include that is followed leads to a router that is new to the walk. -/
theorem enter_eq_ok {mount child : Mount} {occurrence : IncludeOccurrence}
    (entered : enter index mount occurrence = .ok child) :
    ∃ router ∈ index.frameworkInstances, ∃ includePrefix childPrefix,
      router.frameworkInstanceId = occurrence.record.includedRouterInstanceId ∧
      router.kind = .apiRouter ∧ router.pathPrefix = some childPrefix ∧
      occurrence.record.pathPrefix = some includePrefix ∧
      router.frameworkInstanceId ∉ mount.stack ∧
      child =
        { instanceId := router.frameworkInstanceId
          prefixes := mount.prefixes ++ [includePrefix, childPrefix]
          anchors := mount.anchors ++ [occurrence.anchor]
          includeLocations := mount.includeLocations ++ [occurrence.record.sourceLocation]
          stack := mount.stack ++ [router.frameworkInstanceId] } := by
  rw [enter] at entered
  split at entered
  next includePrefix router known found =>
    have isRouter := List.find?_some found
    split at entered
    next => cases entered
    next childPrefix prefixed =>
      split at entered
      next => cases entered
      next kind =>
        split at entered
        next => cases entered
        next fresh =>
          cases entered
          exact ⟨router, List.mem_of_find?_eq_some found, includePrefix, childPrefix,
            of_decide_eq_true isRouter, not_not.mp kind, prefixed, known, fresh, rfl⟩
  next => cases entered

/-- The stack of a walk holds distinct instances of the index, the last one being where the walk
stands. -/
structure Mounted (index : SourceIndexArtifact) (mount : Mount) : Prop where
  distinct : mount.stack.Nodup
  known : ∀ instanceId ∈ mount.stack, instanceId ∈ index.frameworkInstances.map
    (·.frameworkInstanceId)
  here : mount.stack.getLast? = some mount.instanceId

theorem Mounted.start (known : appId ∈ index.frameworkInstances.map (·.frameworkInstanceId)) :
    Mounted index (Mount.start appId) :=
  ⟨List.nodup_singleton _, by simpa [Mount.start] using known, rfl⟩

theorem Mounted.enter {mount child : Mount} {occurrence : IncludeOccurrence}
    (mounted : Mounted index mount) (entered : enter index mount occurrence = .ok child) :
    Mounted index child := by
  obtain ⟨router, member, _, _, -, -, -, -, fresh, rfl⟩ := enter_eq_ok entered
  refine ⟨?_, ?_, ?_⟩
  · exact mounted.distinct.append (List.nodup_singleton _) (by simpa using fresh)
  · intro instanceId membership
    rcases List.mem_append.mp membership with earlier | here
    · exact mounted.known instanceId earlier
    · rw [List.mem_singleton.mp here]
      exact List.mem_map_of_mem member
  · exact List.getLast?_concat

theorem Mounted.stack_length_le {mount : Mount} (mounted : Mounted index mount) :
    mount.stack.length ≤ index.frameworkInstances.length := by
  have below := (mounted.distinct.subperm (fun _ => mounted.known _)).length_le
  simpa using below

theorem enter_stack_length {mount child : Mount} {occurrence : IncludeOccurrence}
    (entered : enter index mount occurrence = .ok child) :
    child.stack.length = mount.stack.length + 1 := by
  obtain ⟨router, -, _, _, -, -, -, -, -, rfl⟩ := enter_eq_ok entered
  simp

/-- With fuel for the instances that are left, a walk gains nothing by more. -/
theorem walk_succ {fuel : Nat} {mount : Mount} (mounted : Mounted index mount)
    (enough : index.frameworkInstances.length < fuel + mount.stack.length) :
    walk text index appId (fuel + 1) mount = walk text index appId fuel mount := by
  induction fuel generalizing mount with
  | zero =>
    have below := mounted.stack_length_le
    omega
  | succ fuel ih =>
    have same : (mountedIncludes text index mount).map
          (follow index (walk text index appId (fuel + 1)) mount) =
        (mountedIncludes text index mount).map (follow index (walk text index appId fuel) mount) := by
      refine List.map_congr_left fun occurrence _ => ?_
      rw [follow, follow]
      cases entered : enter index mount occurrence with
      | error diagnostic => rfl
      | ok child =>
        have longer := enter_stack_length entered
        exact ih (mounted.enter entered) (by omega)
    rw [walk, same]
    rfl

/-- More fuel than there are instances changes nothing. -/
theorem walk_of_le {fuel : Nat}
    (known : appId ∈ index.frameworkInstances.map (·.frameworkInstanceId))
    (enough : index.frameworkInstances.length ≤ fuel) :
    walk text index appId fuel (Mount.start appId) =
      walk text index appId index.frameworkInstances.length (Mount.start appId) := by
  induction fuel, enough using Nat.le_induction with
  | base => rfl
  | succ fuel atLeast ih =>
    rw [walk_succ (Mounted.start known) (by simp [Mount.start]; omega), ih]

end

end StateGuard
