import StateGuard.Runtime.PlanTotality
import StateGuard.Runtime.RouteAttachment

/-!
# Runtime capability

What a session can observe of a plan, and why (`buildCapability`), from the mode of the runtime,
from the traces that were prepared and kept, and from the routes that were attached.

In a managed session both sides prepare the traces of the plan (`prepareInstrumentation`).  The
worker keeps those whose code it has imported (`reconcileLiveInstrumentation`); the parent keeps
those that the worker says it has kept (`restrictPreparedInstrumentation`).
-/

namespace StateGuard

namespace Capability

open Checks KeyOrder
open Routes (RouteAttachment)

/-! ## Assessments -/

structure RuntimeCapabilityAssessment where
  state : RuntimeCapabilityState
  reasons : List RuntimeCapabilityReasonCode
  given : reasons ≠ []
  deriving DecidableEq

theorem one_ne_nil (reason : RuntimeCapabilityReasonCode) : [reason] ≠ [] :=
  List.cons_ne_nil reason []

def assessment (state : RuntimeCapabilityState) (reason : RuntimeCapabilityReasonCode) :
    RuntimeCapabilityAssessment where
  state := state
  reasons := [reason]
  given := one_ne_nil reason

/-- `reasons[0]`. -/
def RuntimeCapabilityAssessment.reason (assessed : RuntimeCapabilityAssessment) :
    RuntimeCapabilityReasonCode :=
  assessed.reasons.head assessed.given

/-! ## Instrumentation -/

/-- `PreparedInstrumentation`, with the failures as what `get` finds. -/
structure PreparedInstrumentation where
  customers : List CustomerTraceTarget := []
  customerFailures : NormalControlId → Option RuntimeCapabilityReasonCode := fun _ => none
  mutations : List MutationTraceTarget := []
  mutationFailures : GraphNodeId → Option RuntimeCapabilityReasonCode := fun _ => none

/-- What the compilation of a trace raises. -/
inductive Raised where
  | instrumentationError
  | stopIteration
  | other (name : String)
  deriving DecidableEq

/-- `failures[key] = reason`. -/
def setFailure {κ : Type} [DecidableEq κ] (failures : κ → Option RuntimeCapabilityReasonCode)
    (key : κ) (reason : RuntimeCapabilityReasonCode) : κ → Option RuntimeCapabilityReasonCode :=
  fun other => if other = key then some reason else failures other

/-- The loop over the customer values, where `describe` is `compile_symbol_descriptor`. -/
def prepareCustomer (describe : SymbolId → Except Raised TraceCodeDescriptor)
    (prepared : PreparedInstrumentation) (target : CustomerValueRuntimeTarget) :
    Except Raised PreparedInstrumentation :=
  match describe target.customerValueSymbolId with
  | .ok descriptor => .ok
      { prepared with
        customers := prepared.customers ++
          [{ descriptor
             normalControlId := target.normalControlId
             customerValueNodeId := target.customerValueNodeId
             customerValueSymbolId := target.customerValueSymbolId }] }
  | .error .instrumentationError => .ok
      { prepared with
        customerFailures :=
          setFailure prepared.customerFailures target.normalControlId .targetCodeMismatch }
  | .error raised => .error raised

/-- The loop over the mutations, where `locate` is what `compile_mutation_trace_target` finds: the
code of a mutation and the offset of its instruction. -/
def prepareMutation (locate : GraphNodeId → Except Raised (TraceCodeDescriptor × Nat))
    (prepared : PreparedInstrumentation) (target : MutationRuntimeTarget) :
    Except Raised PreparedInstrumentation :=
  match locate target.mutationNodeId with
  | .ok found => .ok
      { prepared with
        mutations := prepared.mutations ++
          [{ descriptor := found.1
             mutationNodeId := target.mutationNodeId
             ingressNodeId := target.ingress.ingressNodeId
             routeRegistrationId := target.ingress.routeRegistrationId
             instructionOffset := found.2 }] }
  | .error (.other name) => .error (.other name)
  | .error _ => .ok
      { prepared with
        mutationFailures := setFailure prepared.mutationFailures target.mutationNodeId
          .mutationInstructionUnresolved }

/-- `prepare_instrumentation`. -/
def prepareInstrumentation (describe : SymbolId → Except Raised TraceCodeDescriptor)
    (locate : GraphNodeId → Except Raised (TraceCodeDescriptor × Nat)) (plan : RuntimeTargetPlan) :
    Except Raised PreparedInstrumentation := do
  let prepared ← plan.customerValues.foldlM (prepareCustomer describe) {}
  plan.mutations.foldlM (prepareMutation locate) prepared

/-- The loops of `restrict_prepared_instrumentation`: a trace that is not live fails. -/
def failMissing {κ τ : Type} [DecidableEq κ] (key : τ → κ) (live : List κ) (traces : List τ)
    (failures : κ → Option RuntimeCapabilityReasonCode) :
    κ → Option RuntimeCapabilityReasonCode :=
  traces.foldl (fun failures trace =>
    if key trace ∉ live then setFailure failures (key trace) .targetCodeMismatch
    else failures) failures

/-- `restrict_prepared_instrumentation`. -/
def restrictPreparedInstrumentation (prepared : PreparedInstrumentation)
    (liveCustomerIds : List NormalControlId) (liveMutationIds : List GraphNodeId) :
    PreparedInstrumentation where
  customers := prepared.customers.filter (·.normalControlId ∈ liveCustomerIds)
  customerFailures := failMissing (·.normalControlId) liveCustomerIds prepared.customers
    prepared.customerFailures
  mutations := prepared.mutations.filter (·.mutationNodeId ∈ liveMutationIds)
  mutationFailures := failMissing (·.mutationNodeId) liveMutationIds prepared.mutations
    prepared.mutationFailures

/-- What the worker has imported: whether the symbol of a target is the code of its descriptor
(`live_symbol_matches_descriptor`). -/
structure Imported where
  customer : NormalControlId → TraceCodeDescriptor → Bool
  mutation : GraphNodeId → TraceCodeDescriptor → Bool

/-- `reconcile_live_instrumentation`. -/
def reconcileLiveInstrumentation (imported : Imported) (prepared : PreparedInstrumentation) :
    PreparedInstrumentation :=
  let customers := prepared.customers.filter fun item =>
    imported.customer item.normalControlId item.descriptor
  let mutations := prepared.mutations.filter fun item =>
    imported.mutation item.mutationNodeId item.descriptor
  restrictPreparedInstrumentation prepared (customers.map (·.normalControlId))
    (mutations.map (·.mutationNodeId))

/-! ## Routes -/

/-- The attachment of an ingress: the last of the list, as `by_ingress` has it. -/
def byIngress (attachments : List RouteAttachment) (nodeId : GraphNodeId) :
    Option RouteAttachment :=
  attachments.reverse.find? (·.binding.ingressNodeId = nodeId)

/-- The assessment of the route of an ingress. -/
def routeAssessment (plan : RuntimeTargetPlan) (mode : RuntimeMode)
    (attachments : List RouteAttachment) (item : IngressRuntimeBinding) :
    RuntimeCapabilityAssessment :=
  match mode with
  | .static => assessment .unavailable .staticOnlyConfigured
  | .byo =>
    if plan.ingresses.countP (fun other => other.method = item.method ∧
        other.effectivePath = item.effectivePath) = 1 then
      assessment .partialCapability .clientResponseOnly
    else assessment .unavailable .runtimeRouteAmbiguous
  | .managed =>
    match byIngress attachments item.ingressNodeId with
    | some attachment =>
      if attachment.attached then assessment .complete .available
      else assessment .unavailable attachment.reason
    | none => assessment .unavailable .runtimeRouteNotFound

/-- `_route_assessments`, as what indexing it finds. -/
def routeAssessments (plan : RuntimeTargetPlan) (mode : RuntimeMode)
    (attachments : List RouteAttachment) (nodeId : GraphNodeId) :
    Except String RuntimeCapabilityAssessment :=
  match plan.ingresses.reverse.find? (·.ingressNodeId = nodeId) with
  | some item => .ok (routeAssessment plan mode attachments item)
  | none => .error "KeyError"

/-! ## The capability of a session -/

inductive RuntimeProcessOwnership where
  | stateguard | external | none
  deriving DecidableEq

inductive RuntimeDiagnosticStage where
  | preflight | startup | attachment | readiness | request | observation | cleanup
  deriving DecidableEq

structure RuntimeDiagnostic where
  code : RuntimeCapabilityReasonCode
  stage : RuntimeDiagnosticStage
  reference : Option String := none
  deriving DecidableEq

structure AssessedIngress where
  binding : IngressRuntimeBinding
  addressability : RuntimeCapabilityAssessment
  requestCorrelation : RuntimeCapabilityAssessment
  deriving DecidableEq

structure AssessedCustomerValue where
  target : CustomerValueRuntimeTarget
  lifecycle : RuntimeCapabilityAssessment
  strength : Option CustomerValueLifecycleStrength
  deriving DecidableEq

structure AssessedMutation where
  target : MutationRuntimeTarget
  assignment : RuntimeCapabilityAssessment
  strength : Option MutationObservationStrength
  deriving DecidableEq

structure AssessedAcknowledgement where
  target : AcknowledgementRuntimeTarget
  timeline : RuntimeCapabilityAssessment
  deriving DecidableEq

structure AssessedIsolation where
  freshProcess : RuntimeCapabilityAssessment
  observationReset : RuntimeCapabilityAssessment
  externalStateReset : RuntimeCapabilityAssessment
  deriving DecidableEq

/-- What `build_capability_artifact` says, with the reasons. -/
structure CapabilityPayload where
  runtimeConfigFingerprint : Sha256Digest
  sessionId : RuntimeSessionId
  mode : RuntimeMode
  ownership : RuntimeProcessOwnership
  lifecycle : RuntimeLifecycleState
  ingresses : List AssessedIngress
  customerValues : List AssessedCustomerValue
  mutations : List AssessedMutation
  acknowledgements : List AssessedAcknowledgement
  isolation : AssessedIsolation
  diagnostics : List RuntimeDiagnostic

section Building

variable (plan : RuntimeTargetPlan) (mode : RuntimeMode) (prepared : PreparedInstrumentation)
  (attachments : List RouteAttachment)

def assessIngress (item : IngressRuntimeBinding) : Except String AssessedIngress := do
  let route ← routeAssessments plan mode attachments item.ingressNodeId
  return {
    binding := item
    addressability := route
    requestCorrelation :=
      if mode = .managed then route
      else assessment (if route.state ≠ .unavailable then .partialCapability else .unavailable)
        (if mode = .byo then .clientResponseOnly else route.reason) }

def assessCustomerValue (target : CustomerValueRuntimeTarget) :
    Except String AssessedCustomerValue := do
  let route ← routeAssessments plan mode attachments target.ingress.ingressNodeId
  let trace := prepared.customers.reverse.find? (·.normalControlId = target.normalControlId)
  let unavailable (reason : RuntimeCapabilityReasonCode) : AssessedCustomerValue :=
    { target, lifecycle := assessment .unavailable reason, strength := none }
  return match mode, trace with
  | .static, _ => unavailable .staticOnlyConfigured
  | .byo, _ => unavailable .inProcessInstrumentationUnavailable
  | .managed, none =>
    unavailable ((prepared.customerFailures target.normalControlId).getD route.reason)
  | .managed, some trace =>
    if route.state = .unavailable then
      unavailable ((prepared.customerFailures target.normalControlId).getD route.reason)
    else if trace.descriptor.shape = .generator ∨ trace.descriptor.shape = .asyncGenerator then
      { target, lifecycle := assessment .partialCapability .entryOnly, strength := some .entryOnly }
    else
      { target, lifecycle := assessment .complete .available,
        strength := some .entryAndTerminal }

def assessMutation (target : MutationRuntimeTarget) : Except String AssessedMutation := do
  let route ← routeAssessments plan mode attachments target.ingress.ingressNodeId
  return if mode = .managed ∧ route.state ≠ .unavailable ∧
      target.mutationNodeId ∈ prepared.mutations.map (·.mutationNodeId) then
    { target
      assignment := assessment .complete .available
      strength := some .pythonAssignmentInstructionCompletion }
  else
    { target
      assignment := assessment .unavailable (match mode with
        | .static => .staticOnlyConfigured
        | .byo => .inProcessInstrumentationUnavailable
        | .managed => (prepared.mutationFailures target.mutationNodeId).getD route.reason)
      strength := none }

def assessAcknowledgement (target : AcknowledgementRuntimeTarget) :
    Except String AssessedAcknowledgement := do
  let route ← routeAssessments plan mode attachments target.ingress.ingressNodeId
  return {
    target
    timeline :=
      if mode = .managed then route
      else assessment
        (if mode = .byo ∧ route.state ≠ .unavailable then .partialCapability else .unavailable)
        (if mode = .byo then .clientResponseOnly else .staticOnlyConfigured) }

def assessIsolation (ownership : RuntimeProcessOwnership) : AssessedIsolation where
  freshProcess :=
    if ownership = .stateguard then assessment .complete .available
    else assessment .unavailable .externalStateResetUnavailable
  observationReset :=
    if mode = .managed ∧ ownership = .stateguard then assessment .complete .available
    else assessment .unavailable .inProcessInstrumentationUnavailable
  externalStateReset := assessment .unavailable .externalStateResetUnavailable

/-- `build_capability_artifact`, before the validation of the artifact. -/
def buildCapability (runtimeConfigFingerprint : Sha256Digest) (sessionId : RuntimeSessionId)
    (lifecycle : RuntimeLifecycleState) (ownership : RuntimeProcessOwnership)
    (diagnostics : List RuntimeDiagnostic) : Except String CapabilityPayload := do
  let ingresses ← collect (assessIngress plan mode attachments) plan.ingresses
  let customerValues ←
    collect (assessCustomerValue plan mode prepared attachments) plan.customerValues
  let mutations ← collect (assessMutation plan mode prepared attachments) plan.mutations
  let acknowledgements ← collect (assessAcknowledgement plan mode attachments)
    plan.acknowledgements
  return {
    runtimeConfigFingerprint, sessionId, mode, ownership, lifecycle, ingresses, customerValues,
    mutations, acknowledgements, isolation := assessIsolation mode ownership, diagnostics }

end Building

/-! ## Validation -/

/-- `validate_strength` of a customer value. -/
def AssessedCustomerValue.capability (item : AssessedCustomerValue)
    (matched : item.lifecycle.state = .unavailable ↔ item.strength = none) :
    CustomerValueRuntimeCapability where
  target := item.target
  lifecycle := item.lifecycle.state
  strength := item.strength
  strengthMatches := matched

/-- `validate_strength` of a mutation. -/
def AssessedMutation.capability (item : AssessedMutation)
    (matched : item.assignment.state = .unavailable ↔ item.strength = none) :
    MutationRuntimeCapability where
  target := item.target
  assignment := item.assignment.state
  strength := item.strength
  strengthMatches := matched

def AssessedIngress.capability (item : AssessedIngress) : IngressRuntimeCapability where
  binding := item.binding
  addressability := item.addressability.state
  requestCorrelation := item.requestCorrelation.state

def AssessedAcknowledgement.capability (item : AssessedAcknowledgement) :
    AcknowledgementRuntimeCapability where
  target := item.target
  timeline := item.timeline.state

/-- `validate_artifact`, with the strengths that are validated before.  The fingerprint is the one
that the validation recomputes. -/
def sealCapability (fingerprint : CapabilityPayload → Sha256Digest) (payload : CapabilityPayload) :
    Except String RuntimeCapabilityArtifact :=
  if customersMatched : ∀ item ∈ payload.customerValues,
      (item.lifecycle.state = .unavailable ↔ item.strength = none) then
    if mutationsMatched : ∀ item ∈ payload.mutations,
        (item.assignment.state = .unavailable ↔ item.strength = none) then
      let ingresses := payload.ingresses.map AssessedIngress.capability
      let customerValues := payload.customerValues.pmap AssessedCustomerValue.capability
        customersMatched
      let mutations := payload.mutations.pmap AssessedMutation.capability mutationsMatched
      let acknowledgements := payload.acknowledgements.map AssessedAcknowledgement.capability
      if ingressesUnique : (ingresses.map (·.binding.key)).Nodup then
        if exactBindings : ∀ binding ∈ customerValues.map (·.target.ingress) ++
            mutations.map (·.target.ingress) ++ acknowledgements.map (·.target.ingress),
            binding ∈ ingresses.map (·.binding) then
          if controlsUnique : (customerValues.map (·.target.normalControlId)).Nodup then
            if mutationsUnique : (mutations.map (·.target.mutationNodeId)).Nodup then
              if acknowledgementsUnique :
                  (acknowledgements.map (·.target.acknowledgementNodeId)).Nodup then
                .ok
                  { runtimeConfigFingerprint := payload.runtimeConfigFingerprint
                    assessmentSessionId := payload.sessionId
                    mode := payload.mode
                    lifecycle := payload.lifecycle
                    ingresses
                    customerValues
                    mutations
                    acknowledgements
                    isolation :=
                      { freshProcess := payload.isolation.freshProcess.state
                        observationReset := payload.isolation.observationReset.state }
                    diagnostics := payload.diagnostics.map (·.code)
                    capabilityFingerprint := fingerprint payload
                    ingressesUnique
                    exactBindings
                    controlsUnique
                    mutationsUnique
                    acknowledgementsUnique }
              else .error "acknowledgement runtime targets must be unique"
            else .error "mutation runtime targets must be unique"
          else .error "customer-value runtime controls must be unique"
        else .error "runtime target must use an exact assessed ingress binding"
      else .error "runtime ingress bindings must be unique"
    else .error "mutation observation strength must match availability"
  else .error "customer lifecycle strength must match availability"

/-! ## Plans -/

/-- What the planner makes sure of. -/
structure Planned (plan : RuntimeTargetPlan) : Prop where
  keys : (plan.ingresses.map (·.key)).Nodup
  nodes : (plan.ingresses.map (·.ingressNodeId)).Nodup
  bound : ∀ binding ∈ plan.customerValues.map (·.ingress) ++ plan.mutations.map (·.ingress) ++
    plan.acknowledgements.map (·.ingress), binding ∈ plan.ingresses
  controls : (plan.customerValues.map (·.normalControlId)).Nodup
  mutations : (plan.mutations.map (·.mutationNodeId)).Nodup
  acknowledgements : (plan.acknowledgements.map (·.acknowledgementNodeId)).Nodup

theorem ingressBindings_nodes {graph : PaymentSafetyGraphArtifact} :
    ((ingressBindings graph).map (·.ingressNodeId)).Nodup := by
  rw [ingressBindings]
  refine ((sortedByKey_perm _ _).map IngressRuntimeBinding.ingressNodeId).nodup_iff.mpr ?_
  have sub : List.Sublist ((graph.nodes.filterMap fun node =>
      node.ingress?.map (bindingOf node)).map (·.ingressNodeId)) (graph.nodes.map (·.nodeId)) := by
    rw [List.map_filterMap]
    induction graph.nodes with
    | nil => exact .slnil
    | cons node rest ih =>
      rw [List.filterMap_cons]
      cases isIngress : node.ingress? with
      | none => exact ih.cons _
      | some details => exact ih.cons_cons _
  exact graph.nodesUnique.sublist sub

theorem customerValueTarget_eq_ok {graph : PaymentSafetyGraphArtifact}
    {control : NormalControlInstance} {target : CustomerValueRuntimeTarget}
    (isTarget : customerValueTarget graph control = .ok target) :
    target.ingress ∈ ingressBindings graph ∧ target.normalControlId = control.controlId := by
  rw [customerValueTarget] at isTarget
  split at isTarget
  next ingress node edge isBinding _ _ =>
    split at isTarget
    next =>
      cases isTarget
      exact ⟨List.mem_of_find?_eq_some isBinding, rfl⟩
    next => cases isTarget
  next => cases isTarget

/-- A plan that the planner accepts is in order. -/
theorem planned_of_build {index : SourceIndexArtifact} {graph : PaymentSafetyGraphArtifact}
    {applicability : ScenarioApplicabilityArtifact}
    (distinct : (applicability.normalControls.map (·.controlId)).Nodup) {plan : RuntimeTargetPlan}
    (built : buildRuntimeTargetPlan index graph applicability = .ok plan) : Planned plan := by
  simp only [buildRuntimeTargetPlan, bind_eq_ok, pure_eq_ok] at built
  obtain ⟨⟨⟩, -, ⟨⟩, -, ⟨⟩, -, ⟨⟩, -, customers, isCustomers, mutations, isMutations,
    acknowledgements, isAcks, ⟨⟩, -, rfl⟩ := built
  have tracked := (@tracksGraph_of_collected graph index customers mutations acknowledgements
    isMutations isAcks).distinct
  have nodes : ((ingressBindings graph).map (·.ingressNodeId)).Nodup := ingressBindings_nodes
  refine
    { keys := ?keys
      nodes := nodes
      bound := ?bound
      controls := ?controls
      mutations := (List.nodup_append.mp tracked).1
      acknowledgements := (List.nodup_append.mp tracked).2.1 }
  case keys =>
    refine List.Nodup.of_map Prod.fst ?_
    rw [List.map_map]
    exact nodes
  case controls =>
    have ids : customers.map (·.normalControlId) =
        applicability.normalControls.map (·.controlId) :=
      map_key_of_collect (fun _ _ isTarget => (customerValueTarget_eq_ok isTarget).2) isCustomers
    refine ((sortedByKey_perm _ _).map CustomerValueRuntimeTarget.normalControlId).nodup_iff.mpr ?_
    exact ids ▸ distinct
  case bound =>
    simp only [List.forall_mem_append, List.forall_mem_map, mem_sortedByKey]
    refine ⟨⟨fun target listed => ?_, fun target listed => ?_⟩, fun target listed => ?_⟩
    · obtain ⟨control, -, isTarget⟩ := exists_of_mem_collect isCustomers listed
      exact (customerValueTarget_eq_ok isTarget).1
    · obtain ⟨entry, -, isTarget⟩ := exists_of_mem_collect isMutations listed
      obtain ⟨ingress, isBinding, rfl⟩ := mutationTarget_eq_ok.mp isTarget
      exact List.mem_of_find?_eq_some isBinding
    · obtain ⟨entry, -, isTarget⟩ := exists_of_mem_collect isAcks listed
      obtain ⟨ingress, isBinding, rfl⟩ := acknowledgementTarget_eq_ok.mp isTarget
      exact List.mem_of_find?_eq_some isBinding

end Capability

end StateGuard
