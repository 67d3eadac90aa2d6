import Mathlib.Data.List.TakeWhile
import StateGuard.Runtime.TraceDescriptors

/-!
# The attachment to routes

`attach_exact_routes` looks for the one route of an application that has the path, the method and
the code of an ingress, and wraps it.  Whether an earlier route takes its requests is decided by
the texts of the paths.  Starlette sends a request to the first route whose pattern and methods
match it: what matches is a parameter here (`Dispatch`).

* `selected` is the route that an ingress asks for; the first ingress that asks for a route gets
  it (`claimant`).
* `attachExactRoutes_eq_ok` says which routes are wrapped and which bindings are attached.
* `attachExactRoutes_reached_iff` says when a request for an attached binding is sent to its route.
-/

namespace StateGuard

namespace Routes

/-! ## Routes -/

structure RoutedBinding extends IngressRuntimeBinding where
  ingressSymbolId : SymbolId
  deriving DecidableEq

/-- The part of the plan that the attachment reads. -/
structure RoutePlan where
  ingresses : List RoutedBinding
  customerValues : List CustomerValueRuntimeTarget
  acknowledgements : List AcknowledgementRuntimeTarget

/-- A field of a FastAPI dependant.  `required` is its attribute of that name, if it is a `bool`,
and `isRequired` what `field_info.is_required` returns, if there is one and it does not raise. -/
structure DependantField where
  alias_ : String
  required : Option Bool
  isRequired : Option (Option Bool)
  mediaType : String
  deriving DecidableEq

structure Dependant where
  queryParams : List DependantField
  bodyParams : List DependantField
  headerParams : List DependantField
  cookieParams : List DependantField
  pathParams : List DependantField
  hasDependencies : Bool
  deriving DecidableEq

/-- What a route calls: the merchant's application, or a wrapper around it. -/
inductive RouteApp where
  | merchant
  | exact (app : RouteApp) (ingress : RoutedBinding) (normalControlId : Option NormalControlId)
      (acknowledgements : List AcknowledgementRuntimeTarget)
  deriving DecidableEq

/-- A route object of the application.  Two entries with one `id` are one object.  `rule` is what
Starlette matches requests with, `endpointCode` what `_endpoint_code` finds, and `app` is `none`
if it is not callable. -/
structure Route (Rule : Type) where
  id : Nat
  rule : Rule
  path : Option String
  /-- The methods, in upper case. -/
  methods : List String
  endpointCode : Option CodeType
  dependant : Option Dependant
  app : Option RouteApp

structure RouteTable (Rule : Type) where
  routes : List (Route Rule)
  /-- Entries with one identity are one object. -/
  shared : ∀ route ∈ routes, ∀ other ∈ routes, route.id = other.id → route = other

structure RouteAttachment where
  binding : RoutedBinding
  attached : Bool
  reason : RuntimeCapabilityReasonCode

variable {Rule : Type}

def Route.takes (route : Route Rule) (binding : RoutedBinding) : Bool :=
  route.path = some binding.effectivePath ∧ binding.method ∈ route.methods

/-- `_route_candidates`. -/
def routeCandidates (files : Files) (routes : List (Route Rule)) (binding : RoutedBinding)
    (descriptor : TraceCodeDescriptor) : List (Route Rule) :=
  routes.filter fun route => route.takes binding ∧
    ∃ code ∈ route.endpointCode, descriptorMatchesCode files descriptor code

/-- `_route_is_shadowed`. -/
def routeIsShadowed (routes : List (Route Rule)) (route : Route Rule) (binding : RoutedBinding) :
    Bool :=
  (routes.takeWhile fun candidate => candidate.id ≠ route.id).any (·.takes binding)

/-- `_field_is_required`. -/
def fieldIsRequired (field : DependantField) : Bool :=
  match field.required, field.isRequired with
  | some required, _ => required
  | none, some (some required) => required
  | none, _ => true

/-- `value in text` of a literal value. -/
def occursIn (value text : String) : Bool := decide (value.toList <:+: text.toList)

/-- `_checkout_binding_matches`. -/
def checkoutBindingMatches (route : Route Rule) (binding : RoutedBinding) : Bool :=
  match binding.checkoutRequestBinding, route.dependant with
  | none, _ => true
  | some _, none => false
  | some checkout, some dependant =>
    let expected := checkout.fields.map (·.requestName)
    let query := dependant.queryParams.map (·.alias_)
    let body := dependant.bodyParams.map (·.alias_)
    let unsupported := dependant.headerParams ++ dependant.cookieParams ++ dependant.pathParams
    if unsupported.any fieldIsRequired then false
    else if dependant.hasDependencies then false
    else if (dependant.queryParams ++ dependant.bodyParams).any fun field =>
        fieldIsRequired field ∧ field.alias_ ∉ expected then false
    else if checkout.transport = .query then expected ⊆ query
    else if body ≠ [] then
      if ¬ expected ⊆ body then false
      else
        let formEncoded := (dependant.bodyParams.filter (·.alias_ ∈ expected)).any fun field =>
          occursIn "form-urlencoded" field.mediaType
        if checkout.transport = .formUrlencoded then formEncoded else !formEncoded
    else true

/-! ## Attachment -/

/-- What the attachment reads besides the plan and the routes. -/
structure Surroundings (Bytes : Type) where
  compilation : Compilation Bytes
  index : DefinitionIndex
  files : Files

/-- Whether an exception of `compile_symbol_descriptor` is a `ValueError`. -/
def isValueError (raised : String) : Bool :=
  raised ∉ ["KeyError", "FileNotFoundError", "SyntaxError"]

/-- The loop's state: the routes, the identities of those it has wrapped, and its list. -/
structure Attaching (Rule : Type) where
  routes : List (Route Rule)
  claimed : List Nat := []
  attachments : List RouteAttachment := []

variable {Bytes : Type} (surroundings : Surroundings Bytes) (plan : RoutePlan)

/-- The wrapper around the application of a route. -/
def wrapper (binding : RoutedBinding) (app : RouteApp) : RouteApp :=
  let controls := (plan.customerValues.filter
    (·.ingress.ingressNodeId = binding.ingressNodeId)).map (·.normalControlId)
  .exact app binding (match controls with | [control] => some control | _ => none)
    (plan.acknowledgements.filter (·.ingress.ingressNodeId = binding.ingressNodeId))

/-- `route.app = ...`. -/
def Route.wrap (route : Route Rule) (binding : RoutedBinding) : Route Rule :=
  { route with app := route.app.map (wrapper plan binding) }

def Attaching.refuse (state : Attaching Rule) (binding : RoutedBinding)
    (reason : RuntimeCapabilityReasonCode) : Attaching Rule :=
  { state with attachments := state.attachments ++ [⟨binding, false, reason⟩] }

/-- The loop's body, with the descriptor of the ingress. -/
def attachRoute (state : Attaching Rule) (binding : RoutedBinding)
    (descriptor : TraceCodeDescriptor) : Attaching Rule :=
  match routeCandidates surroundings.files state.routes binding descriptor with
  | [] => state.refuse binding .runtimeRouteNotFound
  | [route] =>
    if route.id ∈ state.claimed then state.refuse binding .runtimeRouteAmbiguous
    else if routeIsShadowed state.routes route binding then
      state.refuse binding .runtimeRouteShadowed
    else if !checkoutBindingMatches route binding then
      state.refuse binding .checkoutRequestBindingUnresolved
    else match route.app with
    | none => state.refuse binding .runtimeRouteNotFound
    | some _ => {
        routes := state.routes.map fun other =>
          if other.id = route.id then other.wrap plan binding else other
        claimed := route.id :: state.claimed
        attachments := state.attachments ++ [⟨binding, true, .available⟩] }
  | _ => state.refuse binding .runtimeRouteAmbiguous

/-- The loop's body. -/
def attachBinding (state : Attaching Rule) (binding : RoutedBinding) :
    Except String (Attaching Rule) :=
  match compileSymbolDescriptor surroundings.compilation surroundings.index
      binding.ingressSymbolId with
  | .error raised =>
    if isValueError raised then .ok (state.refuse binding .targetCodeMismatch) else .error raised
  | .ok descriptor =>
    .ok (attachRoute surroundings plan state binding descriptor.toTraceCodeDescriptor)

/-- `attach_exact_routes`: the routes of the application after it, and the attachments. -/
def attachExactRoutes (table : RouteTable Rule) : Except String (Attaching Rule) :=
  plan.ingresses.foldlM (attachBinding surroundings plan) { routes := table.routes }

/-! ## Dispatch -/

/-- Whether the pattern and the methods of a route match a method and a path. -/
abbrev Dispatch (Rule : Type) := Rule → String → String → Bool

/-- Starlette's rule: the first route that matches handles the request. -/
def dispatch (sends : Dispatch Rule) (routes : List (Route Rule)) (method path : String) :
    Option (Route Rule) :=
  routes.find? fun route => sends route.rule method path

/-- The attachments are those of the plan, in its order; each route is as it was or wrapped once;
and a request for the method and the literal path of an attached binding is sent to the route that
was wrapped for it. -/
structure Reached (sends : Dispatch Rule) (table : RouteTable Rule)
    (result : Attaching Rule) : Prop where
  ordered : result.attachments.map (·.binding) = plan.ingresses
  once : List.Forall₂ (fun before after => after = before ∨
      ∃ binding ∈ plan.ingresses, after = Route.wrap plan before binding)
    table.routes result.routes
  sent : ∀ attachment ∈ result.attachments, attachment.attached = true →
    ∃ route ∈ table.routes, route.app ≠ none ∧
      dispatch sends result.routes attachment.binding.method attachment.binding.effectivePath =
        some (route.wrap plan attachment.binding)

/-! ## Which routes are wrapped -/

/-- The route that an ingress asks for, if the checks of the loop take it. -/
def selected (routes : List (Route Rule)) (binding : RoutedBinding) : Option (Route Rule) :=
  match compileSymbolDescriptor surroundings.compilation surroundings.index
      binding.ingressSymbolId with
  | .error _ => none
  | .ok descriptor =>
    match routeCandidates surroundings.files routes binding descriptor.toTraceCodeDescriptor with
    | [route] =>
      if routeIsShadowed routes route binding = false ∧
          checkoutBindingMatches route binding = true ∧ route.app ≠ none then some route
      else none
    | _ => none

/-- The first of the ingresses that asks for a route. -/
def claimant (routes : List (Route Rule)) (ingresses : List RoutedBinding) (id : Nat) :
    Option RoutedBinding :=
  ingresses.find? fun binding => (selected surroundings routes binding).map (·.id) = some id

/-- A route after the ingresses. -/
def claimedRoute (routes : List (Route Rule)) (ingresses : List RoutedBinding)
    (route : Route Rule) : Route Rule :=
  match claimant surroundings routes ingresses route.id with
  | none => route
  | some binding => route.wrap plan binding

/-- The ingress compiles or raises a `ValueError`. -/
def Compiles (binding : RoutedBinding) : Prop :=
  ∀ raised, compileSymbolDescriptor surroundings.compilation surroundings.index
    binding.ingressSymbolId = .error raised → isValueError raised = true

/-- A route is the first of the table that matches the method and the literal path. -/
def FirstMatch (sends : Dispatch Rule) (routes : List (Route Rule)) (route : Route Rule)
    (binding : RoutedBinding) : Prop :=
  sends route.rule binding.method binding.effectivePath = true ∧
    ∀ earlier ∈ routes.takeWhile fun other => other.id ≠ route.id,
      sends earlier.rule binding.method binding.effectivePath = false

variable {surroundings : Surroundings Bytes} {plan : RoutePlan} {routes : List (Route Rule)}
  {ingresses : List RoutedBinding} {binding : RoutedBinding} {route : Route Rule}

/-- What the loop reads of a route is as it was. -/
structure Route.Kept (before after : Route Rule) : Prop where
  id : after.id = before.id
  rule : after.rule = before.rule
  path : after.path = before.path
  methods : after.methods = before.methods
  endpointCode : after.endpointCode = before.endpointCode
  dependant : after.dependant = before.dependant
  app : after.app = none ↔ before.app = none

theorem Route.kept_wrap : route.Kept (route.wrap plan binding) :=
  ⟨rfl, rfl, rfl, rfl, rfl, rfl, by simp [Route.wrap]⟩

theorem kept_claimedRoute :
    route.Kept (claimedRoute surroundings plan routes ingresses route) := by
  unfold claimedRoute
  split
  next => exact ⟨rfl, rfl, rfl, rfl, rfl, rfl, Iff.rfl⟩
  next => exact Route.kept_wrap

theorem Route.Kept.takes {after : Route Rule} (kept : route.Kept after) :
    after.takes binding = route.takes binding := by
  simp only [Route.takes, kept.path, kept.methods]

theorem Route.Kept.checkoutBindingMatches {after : Route Rule} (kept : route.Kept after) :
    Routes.checkoutBindingMatches after binding = Routes.checkoutBindingMatches route binding := by
  simp only [Routes.checkoutBindingMatches, kept.dependant]

theorem routeCandidates_map {files : Files} {descriptor : TraceCodeDescriptor}
    {change : Route Rule → Route Rule} (kept : ∀ route, Route.Kept route (change route)) :
    routeCandidates files (routes.map change) binding descriptor =
      (routeCandidates files routes binding descriptor).map change := by
  rw [routeCandidates, List.filter_map, routeCandidates]
  congr 2
  funext route
  simp only [Function.comp_apply, (kept route).takes, (kept route).endpointCode]

theorem routeIsShadowed_map {change : Route Rule → Route Rule}
    (kept : ∀ route, Route.Kept route (change route)) :
    routeIsShadowed (routes.map change) (change route) binding =
      routeIsShadowed routes route binding := by
  rw [routeIsShadowed, List.takeWhile_map, List.any_map, routeIsShadowed]
  congr 1
  · congr 1
    funext other
    simp only [Function.comp_apply, (kept other).id, (kept route).id]
  · funext other
    exact (kept other).takes

theorem selected_mem (isSelected : selected surroundings routes binding = some route) :
    route ∈ routes ∧ route.app ≠ none := by
  rw [selected] at isSelected
  split at isSelected
  next => cases isSelected
  next descriptor _ =>
    split at isSelected
    next found only =>
      split at isSelected
      next passes =>
        cases isSelected
        have isCandidate : route ∈ routeCandidates surroundings.files routes binding
            descriptor.toTraceCodeDescriptor := by simp [only]
        exact ⟨(List.mem_filter.mp isCandidate).1, passes.2.2⟩
      next => cases isSelected
    next => cases isSelected

theorem claimant_append {id : Nat} :
    claimant surroundings routes (ingresses ++ [binding]) id =
      (claimant surroundings routes ingresses id).or
        (if (selected surroundings routes binding).map (·.id) = some id then some binding
          else none) := by
  rw [claimant, List.find?_append, claimant, List.find?_singleton]
  simp only [decide_eq_true_eq]

/-- The binding that gets a route asks for it. -/
theorem selected_of_claimant {id : Nat}
    (isClaimant : claimant surroundings routes ingresses id = some binding) :
    binding ∈ ingresses ∧ ∃ route, selected surroundings routes binding = some route ∧
      route.id = id := by
  have asks := List.find?_some isClaimant
  exact ⟨List.mem_of_find?_eq_some isClaimant,
    Option.map_eq_some_iff.mp (of_decide_eq_true asks)⟩

/-! ## The loop -/

/-- The loop's state after some ingresses. -/
structure Attaching.After (surroundings : Surroundings Bytes) (plan : RoutePlan)
    (routes : List (Route Rule)) (ingresses : List RoutedBinding) (state : Attaching Rule) :
    Prop where
  table : state.routes = routes.map (claimedRoute surroundings plan routes ingresses)
  claimed : ∀ id, id ∈ state.claimed ↔ claimant surroundings routes ingresses id ≠ none
  ordered : state.attachments.map (·.binding) = ingresses
  attached : ∀ binding, (∃ attachment ∈ state.attachments,
      attachment.binding = binding ∧ attachment.attached = true) ↔
    ∃ route, selected surroundings routes binding = some route ∧
      claimant surroundings routes ingresses route.id = some binding

/-- What the loop's body does: it refuses the binding, which asks for no route or for one that is
claimed, or it wraps the route. -/
theorem attachBinding_cases {state : Attaching Rule}
    (after : state.After surroundings plan routes ingresses)
    (compiles : Compiles surroundings binding) :
    ((∀ route, selected surroundings routes binding = some route → route.id ∈ state.claimed) ∧
      ∃ reason, attachBinding surroundings plan state binding = .ok (state.refuse binding reason)) ∨
    ∃ route, selected surroundings routes binding = some route ∧ route.id ∉ state.claimed ∧
      attachBinding surroundings plan state binding = .ok {
        routes := state.routes.map fun other =>
          if other.id = route.id then other.wrap plan binding else other
        claimed := route.id :: state.claimed
        attachments := state.attachments ++ [⟨binding, true, .available⟩] } := by
  unfold attachBinding selected
  cases compiled : compileSymbolDescriptor surroundings.compilation surroundings.index
      binding.ingressSymbolId with
  | error raised =>
    refine .inl ⟨by simp, .targetCodeMismatch, ?_⟩
    simp only [compiles raised compiled, if_true]
  | ok descriptor =>
    have kept : ∀ route : Route Rule,
        route.Kept (claimedRoute surroundings plan routes ingresses route) :=
      fun _ => kept_claimedRoute
    simp only [attachRoute, after.table, routeCandidates_map kept]
    match routeCandidates surroundings.files routes binding descriptor.toTraceCodeDescriptor with
    | [] => exact .inl ⟨by simp, _, rfl⟩
    | _ :: _ :: _ => exact .inl ⟨by simp, _, rfl⟩
    | [route] =>
      simp only [List.map_cons, List.map_nil, (kept route).id, routeIsShadowed_map kept,
        (kept route).checkoutBindingMatches]
      by_cases claimed : route.id ∈ state.claimed
      · rw [if_pos claimed]
        refine .inl ⟨?_, _, rfl⟩
        intro other isSelected
        split at isSelected
        next => exact Option.some.inj isSelected ▸ claimed
        next => cases isSelected
      · rw [if_neg claimed]
        cases shadowed : routeIsShadowed routes route binding with
        | true =>
          simp only [Bool.true_eq_false, false_and, if_false, if_true]
          exact .inl ⟨by simp, _, rfl⟩
        | false =>
          cases checkout : checkoutBindingMatches route binding with
          | false =>
            simp only [Bool.false_eq_true, false_and, and_false, if_false, Bool.not_false, if_true]
            exact .inl ⟨by simp, _, rfl⟩
          | true =>
            simp only [Bool.false_eq_true, true_and, if_false, Bool.not_true]
            cases app : (claimedRoute surroundings plan routes ingresses route).app with
            | none =>
              rw [if_neg (not_not.mpr ((kept route).app.mp app))]
              exact .inl ⟨by simp, _, rfl⟩
            | some _ =>
              have callable : route.app ≠ none := fun uncallable => by
                rw [(kept route).app.mpr uncallable] at app
                cases app
              rw [if_pos callable]
              exact .inr ⟨route, rfl, claimed, rfl⟩

/-- A binding that is refused claims nothing. -/
theorem claimant_refused {state : Attaching Rule}
    (after : state.After surroundings plan routes ingresses)
    (refused : ∀ route, selected surroundings routes binding = some route →
      route.id ∈ state.claimed) (id : Nat) :
    claimant surroundings routes (ingresses ++ [binding]) id =
      claimant surroundings routes ingresses id := by
  rw [claimant_append]
  split
  next asks =>
    obtain ⟨route, isSelected, rfl⟩ := Option.map_eq_some_iff.mp asks
    obtain ⟨other, isOther⟩ :=
      Option.ne_none_iff_exists'.mp ((after.claimed route.id).mp (refused route isSelected))
    rw [isOther, Option.some_or]
  next => rw [Option.or_none]

/-- A binding that is attached claims its route. -/
theorem claimant_attached {state : Attaching Rule}
    (after : state.After surroundings plan routes ingresses)
    (isSelected : selected surroundings routes binding = some route)
    (unclaimed : route.id ∉ state.claimed) (id : Nat) :
    claimant surroundings routes (ingresses ++ [binding]) id =
      if id = route.id then some binding else claimant surroundings routes ingresses id := by
  rw [claimant_append, isSelected, Option.map_some]
  by_cases same : id = route.id
  · subst same
    rw [if_pos rfl, if_pos rfl, not_not.mp (mt (after.claimed route.id).mpr unclaimed),
      Option.none_or]
  · rw [if_neg fun equal => same (Option.some.inj equal).symm, if_neg same, Option.or_none]

theorem Attaching.After.step {state : Attaching Rule}
    (after : state.After surroundings plan routes ingresses)
    (compiles : Compiles surroundings binding) :
    ∃ next, attachBinding surroundings plan state binding = .ok next ∧
      next.After surroundings plan routes (ingresses ++ [binding]) := by
  rcases attachBinding_cases after compiles with
    ⟨refused, reason, isRefused⟩ | ⟨route, isSelected, unclaimed, isAttached⟩
  · have same := claimant_refused after refused
    refine ⟨_, isRefused, ⟨?_, ?_, ?_, ?_⟩⟩
    · rw [Attaching.refuse, after.table]
      refine List.map_congr_left fun other _ => ?_
      rw [claimedRoute, claimedRoute, same]
    · intro id
      rw [same]
      exact after.claimed id
    · simp [Attaching.refuse, after.ordered]
    · intro other
      simp only [same, ← after.attached other, Attaching.refuse, List.mem_append,
        List.mem_singleton, or_and_right, exists_or, exists_eq_left, Bool.false_eq_true, and_false,
        or_false]
  · have claims := claimant_attached after isSelected unclaimed
    refine ⟨_, isAttached, ⟨?_, ?_, ?_, ?_⟩⟩
    · rw [after.table, List.map_map]
      refine List.map_congr_left fun other _ => ?_
      have isId : (claimedRoute surroundings plan routes ingresses other).id = other.id :=
        kept_claimedRoute.id
      rw [Function.comp_apply, isId]
      by_cases same : other.id = route.id
      · have free : claimant surroundings routes ingresses other.id = none := by
          rw [same]
          exact not_not.mp (mt (after.claimed route.id).mpr unclaimed)
        simp only [claimedRoute, claims, if_pos same, free]
      · simp only [claimedRoute, claims, if_neg same]
    · intro id
      rw [claims, List.mem_cons, after.claimed]
      by_cases same : id = route.id
      · simp [same]
      · simp [same]
    · simp [after.ordered]
    · intro other
      have split : (∃ attachment ∈ state.attachments ++ [⟨binding, true, .available⟩],
          attachment.binding = other ∧ attachment.attached = true) ↔
          (∃ attachment ∈ state.attachments,
            attachment.binding = other ∧ attachment.attached = true) ∨ binding = other := by
        simp only [List.mem_append, List.mem_singleton, or_and_right, exists_or, exists_eq_left,
          and_true]
      rw [split, after.attached]
      constructor
      · rintro (⟨found, isFound, claimed⟩ | rfl)
        · refine ⟨found, isFound, ?_⟩
          rw [claims, if_neg]
          · exact claimed
          · intro same
            refine unclaimed ((after.claimed route.id).mpr ?_)
            rw [← same, claimed]
            simp
        · exact ⟨route, isSelected, by rw [claims, if_pos rfl]⟩
      · rintro ⟨found, isFound, claimed⟩
        rw [claims] at claimed
        split at claimed
        next => exact .inr (Option.some.inj claimed)
        next => exact .inl ⟨found, isFound, claimed⟩

theorem attachBinding_error (plan : RoutePlan) (state : Attaching Rule)
    (raises : ¬ Compiles surroundings binding) :
    ∃ raised, attachBinding surroundings plan state binding = .error raised := by
  unfold Compiles at raises
  push Not at raises
  obtain ⟨raised, compiled, notValue⟩ := raises
  refine ⟨raised, ?_⟩
  simp only [attachBinding, compiled, if_neg notValue]

theorem Attaching.After.run {state : Attaching Rule}
    (after : state.After surroundings plan routes ingresses) (rest : List RoutedBinding) :
    (∃ result, rest.foldlM (attachBinding surroundings plan) state = .ok result ∧
        result.After surroundings plan routes (ingresses ++ rest)) ∧
      (∀ binding ∈ rest, Compiles surroundings binding) ∨
    (∃ raised, rest.foldlM (attachBinding surroundings plan) state = .error raised) ∧
      ¬ ∀ binding ∈ rest, Compiles surroundings binding := by
  induction rest generalizing state ingresses with
  | nil => exact .inl ⟨⟨state, rfl, by simpa using after⟩, by simp⟩
  | cons binding rest ih =>
    by_cases compiles : Compiles surroundings binding
    · obtain ⟨next, isNext, nextAfter⟩ := after.step compiles
      rw [List.foldlM_cons, isNext, List.forall_mem_cons, and_iff_right compiles]
      have later := ih nextAfter
      rw [List.append_assoc, List.singleton_append] at later
      exact later
    · obtain ⟨raised, isRaised⟩ := attachBinding_error plan state compiles
      rw [List.foldlM_cons, isRaised, List.forall_mem_cons]
      exact .inr ⟨⟨raised, rfl⟩, fun all => compiles all.1⟩

/-! ## Where requests are sent -/

theorem claimedRoute_eq (route : Route Rule) :
    claimedRoute surroundings plan routes ingresses route = route ∨
      ∃ binding ∈ ingresses, claimedRoute surroundings plan routes ingresses route =
        route.wrap plan binding := by
  unfold claimedRoute
  split
  next => exact .inl rfl
  next binding isClaimant => exact .inr ⟨binding, (selected_of_claimant isClaimant).1, rfl⟩

theorem dispatch_claimed {sends : Dispatch Rule} {method path : String} :
    dispatch sends (routes.map (claimedRoute surroundings plan routes ingresses)) method path =
      (dispatch sends routes method path).map
        (claimedRoute surroundings plan routes ingresses) := by
  rw [dispatch, List.find?_map, dispatch]
  congr 2
  funext route
  have isRule : (claimedRoute surroundings plan routes ingresses route).rule = route.rule :=
    kept_claimedRoute.rule
  rw [Function.comp_apply, isRule]

/-- A request is sent to a route of the table exactly when it is the first that matches. -/
theorem dispatch_eq_some_iff {sends : Dispatch Rule} (membership : route ∈ routes)
    (shared : ∀ other ∈ routes, other.id = route.id → other = route) :
    dispatch sends routes binding.method binding.effectivePath = some route ↔
      FirstMatch sends routes route binding := by
  unfold dispatch FirstMatch
  induction routes with
  | nil => cases membership
  | cons head rest ih =>
    by_cases same : head.id = route.id
    · obtain rfl := shared head (by simp) same
      rw [List.takeWhile_cons_of_neg (by simp), List.find?_cons]
      cases sent : sends head.rule binding.method binding.effectivePath with
      | true => simp
      | false =>
        refine iff_of_false ?_ (by simp)
        intro found
        have matching := List.find?_some found
        rw [sent] at matching
        cases matching
    · have later : route ∈ rest := by
        rcases List.mem_cons.mp membership with rfl | later
        · exact absurd rfl same
        · exact later
      rw [List.takeWhile_cons_of_pos (by simpa using same), List.find?_cons, List.forall_mem_cons]
      cases sent : sends head.rule binding.method binding.effectivePath with
      | true =>
        refine iff_of_false ?_ (by simp)
        intro found
        exact same (by rw [Option.some.inj found])
      | false =>
        rw [ih later fun other membership => shared other (by simp [membership])]
        simp

/-- A wrapped route is not the route, and tells for which binding it was wrapped. -/
theorem wrap_ne (callable : route.app ≠ none) : route.wrap plan binding ≠ route := by
  obtain ⟨app, isApp⟩ := Option.ne_none_iff_exists'.mp callable
  intro same
  have apps := congrArg Route.app same
  rw [Route.wrap, isApp, Option.map_some, Option.some.injEq] at apps
  have sizes := congrArg sizeOf apps
  simp [wrapper] at sizes
  omega

theorem wrap_injective {other : RoutedBinding} (callable : route.app ≠ none)
    (same : route.wrap plan binding = route.wrap plan other) : binding = other := by
  obtain ⟨app, isApp⟩ := Option.ne_none_iff_exists'.mp callable
  have apps := congrArg Route.app same
  simp only [Route.wrap, isApp, Option.map_some, Option.some.injEq, wrapper,
    RouteApp.exact.injEq] at apps
  exact apps.2.1

/-- The requests for the attached bindings are sent to the wrapped routes exactly when each of
these routes is the first that matches. -/
theorem Attaching.After.reached_iff {table : RouteTable Rule} {result : Attaching Rule}
    (after : result.After surroundings plan table.routes plan.ingresses) (sends : Dispatch Rule) :
    Reached plan sends table result ↔
      ∀ binding ∈ plan.ingresses, ∀ route,
        selected surroundings table.routes binding = some route →
        claimant surroundings table.routes plan.ingresses route.id = some binding →
          FirstMatch sends table.routes route binding := by
  constructor
  · intro reached binding _ route isSelected isClaimant
    obtain ⟨attachment, isAttachment, rfl, isAttached⟩ :=
      (after.attached binding).mpr ⟨route, isSelected, isClaimant⟩
    obtain ⟨wrapped, isWrapped, callable, sent⟩ := reached.sent attachment isAttachment isAttached
    rw [after.table, dispatch_claimed] at sent
    obtain ⟨first, isFirst, changed⟩ := Option.map_eq_some_iff.mp sent
    have firstMember := List.mem_of_find?_eq_some isFirst
    have sameId : first.id = wrapped.id := by
      have ids := congrArg Route.id changed
      rw [kept_claimedRoute.id] at ids
      exact ids
    obtain rfl := table.shared first firstMember wrapped isWrapped sameId
    -- The route that requests are sent to is claimed by this binding, so it is the selected one.
    have isRoute : route = first := by
      rw [claimedRoute] at changed
      split at changed
      next => exact absurd changed.symm (wrap_ne callable)
      next other otherClaims =>
        obtain rfl := wrap_injective callable changed
        obtain ⟨-, found, isFound, sameFound⟩ := selected_of_claimant otherClaims
        rw [isSelected] at isFound
        cases isFound
        exact table.shared route (selected_mem isSelected).1 first firstMember sameFound
    subst isRoute
    exact (dispatch_eq_some_iff isWrapped fun other isOther =>
      table.shared other isOther route isWrapped).mp isFirst
  · intro reaches
    refine ⟨after.ordered, ?_, ?_⟩
    · rw [after.table, List.forall₂_map_right_iff, List.forall₂_same]
      exact fun route _ => claimedRoute_eq route
    · intro attachment isAttachment isAttached
      obtain ⟨route, isSelected, isClaimant⟩ :=
        (after.attached attachment.binding).mp ⟨attachment, isAttachment, rfl, isAttached⟩
      obtain ⟨membership, callable⟩ := selected_mem isSelected
      have first := reaches attachment.binding (selected_of_claimant isClaimant).1 route isSelected
        isClaimant
      refine ⟨route, membership, callable, ?_⟩
      rw [after.table, dispatch_claimed, (dispatch_eq_some_iff membership fun other isOther =>
        table.shared other isOther route membership).mpr first, Option.map_some, claimedRoute,
        isClaimant]

/-- Between routes that match their own paths and methods only, the texts decide: a route that is
selected is the first that matches. -/
theorem firstMatch_of_literal {sends : Dispatch Rule}
    (literal : ∀ route ∈ routes, sends route.rule binding.method binding.effectivePath =
      route.takes binding)
    (isSelected : selected surroundings routes binding = some route) :
    FirstMatch sends routes route binding := by
  have membership := (selected_mem isSelected).1
  rw [selected] at isSelected
  split at isSelected
  next => cases isSelected
  next descriptor _ =>
    split at isSelected
    next found only =>
      split at isSelected
      next passes =>
        cases isSelected
        have isCandidate : route ∈ routeCandidates surroundings.files routes binding
            descriptor.toTraceCodeDescriptor := by simp [only]
        have takes := (List.mem_filter.mp isCandidate).2
        refine ⟨?_, fun earlier isEarlier => ?_⟩
        · rw [literal route membership]
          simp only [Bool.decide_and, Bool.and_eq_true, decide_eq_true_eq] at takes
          exact takes.1
        · rw [literal earlier (List.takeWhile_subset _ isEarlier)]
          exact Bool.eq_false_of_not_eq_true (List.any_eq_false.mp passes.1 earlier isEarlier)
      next => cases isSelected
    next => cases isSelected

/-- The attachment returns, and the requests for attached bindings are sent to the routes wrapped
for them, exactly when no ingress raises anything but a `ValueError` and each route that an ingress
gets is the first of the table that matches the method and the literal path of the ingress. -/
theorem attachExactRoutes_reached_iff (surroundings : Surroundings Bytes) (plan : RoutePlan)
    (sends : Dispatch Rule) (table : RouteTable Rule) :
    (∃ result, attachExactRoutes surroundings plan table = .ok result ∧
        Reached plan sends table result) ↔
      (∀ binding ∈ plan.ingresses, Compiles surroundings binding) ∧
        ∀ binding ∈ plan.ingresses, ∀ route,
          selected surroundings table.routes binding = some route →
          claimant surroundings table.routes plan.ingresses route.id = some binding →
            FirstMatch sends table.routes route binding := by
  have start : Attaching.After surroundings plan table.routes [] { routes := table.routes } := by
    refine ⟨?_, by simp [claimant], rfl, by simp [claimant]⟩
    exact (List.map_id'' (fun _ => rfl) _).symm
  rcases start.run plan.ingresses with ⟨⟨result, isResult, after⟩, compiles⟩ |
    ⟨⟨raised, isRaised⟩, raises⟩
  · rw [List.nil_append] at after
    rw [← after.reached_iff sends, and_iff_right compiles]
    constructor
    · rintro ⟨other, isOther, reached⟩
      have same : other = result := Except.ok.inj (isOther.symm.trans isResult)
      exact same ▸ reached
    · exact fun reached => ⟨result, isResult, reached⟩
  · refine iff_of_false ?_ fun both => raises both.1
    rintro ⟨result, isResult, -⟩
    have impossible := isResult.symm.trans isRaised
    cases impossible

/-! ## An earlier route with a parameter -/

/-- A part of a path pattern between slashes. -/
inductive Segment where
  | text (part : List Char)
  | parameter
  deriving DecidableEq

def Segment.fits : Segment → List Char → Bool
  | .text part, other => part = other
  | .parameter, other => other ≠ []

/-- The parts of a path between slashes. -/
def splitSlash : List Char → List (List Char)
  | [] => [[]]
  | c :: rest =>
    match splitSlash rest with
    | [] => [[]]
    | part :: parts => if c = '/' then [] :: part :: parts else (c :: part) :: parts

/-- What patterns of texts and parameters match. -/
def segmentSends : Dispatch (List Segment × List String) := fun (segments, methods) method path =>
  let parts := splitSlash path.toList
  methods.contains method && segments.length = parts.length &&
    (segments.zip parts).all fun (segment, part) => segment.fits part

open TwiceDefined in
/-- The route of a handler whose code is that of the sample module. -/
def razorpayRoute : Route (List Segment × List String) where
  id := 1
  rule := ([.text [], .text "webhooks".toList, .text "razorpay".toList], ["POST"])
  path := some "/webhooks/razorpay"
  methods := ["POST"]
  endpointCode := some {
    equality := 1
    coQualname := (codeOf ship).coQualname
    coFirstlineno := (codeOf ship).coFirstlineno
    fingerprint := (codeOf ship).fingerprint
    coFilename := file.path
    instructions := (codeOf ship).instructions.map (·.toInstruction) }
  dependant := none
  app := some .merchant

/-- A route for the webhooks of every provider. -/
def providerRoute : Route (List Segment × List String) where
  id := 0
  rule := ([.text [], .text "webhooks".toList, .parameter], ["POST"])
  path := some "/webhooks/{provider}"
  methods := ["POST"]
  endpointCode := none
  dependant := none
  app := some .merchant

def webhookTable : RouteTable (List Segment × List String) where
  routes := [providerRoute, razorpayRoute]
  shared := by
    intro route isRoute other isOther same
    simp only [List.mem_cons, List.not_mem_nil, or_false] at isRoute isOther
    rcases isRoute with rfl | rfl <;> rcases isOther with rfl | rfl
    · rfl
    · cases same
    · cases same
    · rfl

open TwiceDefined in
def webhookPlan : RoutePlan where
  ingresses := [{
    ingressNodeId := "sgnode_webhook"
    routeRegistrationId := "sgroute_webhook"
    method := "POST"
    effectivePath := "/webhooks/razorpay"
    checkoutRequestBinding := none
    ingressSymbolId := (definitionSymbol plainText file.fileId file.path ship 0).symbolId }]
  customerValues := []
  acknowledgements := []

def sampleSurroundings : Surroundings Unit where
  compilation := TwiceDefined.compilation
  index := TwiceDefined.index
  files := ⟨some, some⟩

/-- The binding is attached to its route, and its requests are sent to the route before. -/
theorem razorpayRoute_unreached :
    ∃ result, attachExactRoutes sampleSurroundings webhookPlan webhookTable = .ok result ∧
      result.attachments.map (·.attached) = [true] ∧
      (dispatch segmentSends result.routes "POST" "/webhooks/razorpay").map (·.id) = some 0 ∧
      ¬ Reached webhookPlan segmentSends webhookTable result := by
  refine ⟨_, rfl, by decide +kernel, by decide +kernel, ?_⟩
  intro reached
  obtain ⟨route, -, callable, sent⟩ := reached.sent _ (List.mem_singleton.mpr rfl) rfl
  have unwrapped := congrArg (Option.map (·.app)) sent
  obtain ⟨app, isApp⟩ := Option.ne_none_iff_exists'.mp callable
  rw [Option.map_some, Route.wrap, isApp] at unwrapped
  have impossible : some (some RouteApp.merchant) = some (some (wrapper webhookPlan _ app)) :=
    Eq.trans (by decide +kernel) unwrapped
  cases impossible

end Routes

end StateGuard
