import StateGuard.Application.CustomerExecutors
import StateGuard.FailureLab.StateRegression

/-!
# The executors of the trust scenarios

The out-of-order events, the forged signature and the tampered checkout callback.  Each runs
one session of two requests for two assertions, one about the merchant's state and one about
the customer value.  The report of each assertion is a sequence of steps of its own: the
steps up to the sealed session are the same for both.
-/

namespace StateGuard

open Checks EarlyReturn

/-! ## What is observed of an ingress -/

/-- The binding planned for the ingress of an instance, when there is exactly one. -/
def RuntimeSessionOpenResult.plannedIngress? (opened : RuntimeSessionOpenResult)
    (item : ScenarioInstance) : Option IngressRuntimeBinding :=
  single? (opened.ingresses.filter (some ·.ingressNodeId = item.ingressNodeId))

/-- The capabilities of the tracked mutations of an ingress. -/
def mutationsOf (artifact : RuntimeCapabilityArtifact) (ingress : IngressRuntimeBinding)
    (nodeIds : List GraphNodeId) : List MutationRuntimeCapability :=
  artifact.mutations.filter fun capability =>
    capability.target.mutationNodeId ∈ nodeIds ∧ capability.target.ingress = ingress

/-- Every tracked mutation of an ingress is observed completely. -/
structure MutationCapability (artifact : RuntimeCapabilityArtifact)
    (ingress : IngressRuntimeBinding) (nodeIds : List GraphNodeId) : Prop where
  common : CommonCapability artifact ingress
  tracked : nodeIds ≠ []
  covered : ∀ nodeId ∈ nodeIds,
    nodeId ∈ (mutationsOf artifact ingress nodeIds).map (·.target.mutationNodeId)
  complete : ∀ capability ∈ mutationsOf artifact ingress nodeIds,
    capability.assignment = .complete ∧
      capability.strength = some .pythonAssignmentInstructionCompletion

instance (artifact : RuntimeCapabilityArtifact) (ingress : IngressRuntimeBinding)
    (nodeIds : List GraphNodeId) : Decidable (MutationCapability artifact ingress nodeIds) :=
  decidable_of_iff
    (CommonCapability artifact ingress ∧ nodeIds ≠ [] ∧
      (∀ nodeId ∈ nodeIds,
        nodeId ∈ (mutationsOf artifact ingress nodeIds).map (·.target.mutationNodeId)) ∧
      ∀ capability ∈ mutationsOf artifact ingress nodeIds, capability.assignment = .complete ∧
        capability.strength = some .pythonAssignmentInstructionCompletion)
    ⟨fun ⟨common, tracked, covered, complete⟩ => ⟨common, tracked, covered, complete⟩,
      fun ⟨common, tracked, covered, complete⟩ => ⟨common, tracked, covered, complete⟩⟩

/-- The customer value of a control at an ingress, when it is observable. -/
def observableCustomer? (artifact : RuntimeCapabilityArtifact) (ingress : IngressRuntimeBinding)
    (normalControlId : Option NormalControlId) : Option CustomerValueRuntimeCapability :=
  let customers := artifact.customerValues.filter fun customer =>
    some customer.target.normalControlId = normalControlId ∧ customer.target.ingress = ingress
  (single? customers).filter fun customer =>
    CommonCapability artifact ingress ∧ customer.lifecycle ≠ .unavailable

/-- A customer-value event of a control other than the one expected, if any is. -/
def CrossCustomer (events : List RuntimeObservationEvent)
    (normalControlId : Option NormalControlId) : Prop :=
  ∃ event ∈ events,
    event.kind ∈ RuntimeObservationKind.customer ∧ event.normalControlId ≠ normalControlId

instance (events : List RuntimeObservationEvent) (normalControlId : Option NormalControlId) :
    Decidable (CrossCustomer events normalControlId) :=
  inferInstanceAs (Decidable (∃ _ ∈ _, _))

/-! ## Two requests -/

/-- Dispatch the two requests of a trust scenario, if any of its assertions can be observed. -/
def RuntimeSessionOpenResult.dispatchTrust (opened : RuntimeSessionOpenResult)
    (session : ManagedRuntimeSession) (ingress : IngressRuntimeBinding) (shouldExecute : Prop)
    [Decidable shouldExecute] (input : ScenarioSafeInputReference) :
    Steps String Report ClosedSession := do
  let closed ← opened.dispatch session (some ingress) (if shouldExecute then 2 else 0)
    fun _ => opened.unverified .transcriptUntrustworthy false
  returnIf (¬ shouldExecute) (closed.unverified .runtimeCapabilityInsufficient none)
  returnIf (closed.requests.length ≠ 2) (closed.unverified .requestExecutionFailed (some input))
  returnIf (closed.Mismatched opened.artifact)
    (closed.unverified .transcriptUntrustworthy (some input))
  pure closed

/-- What a trust executor has established when it evaluates an assertion. -/
structure TrustAdmission where
  artifact : RuntimeCapabilityArtifact
  closed : ClosedSession
  input : ScenarioSafeInputReference
  /-- The tracked mutations, and whether they are observed completely. -/
  nodeIds : List GraphNodeId
  capable : Bool
  controlId : Option NormalControlId
  customer : Option CustomerValueRuntimeCapability

/-- An unverified report of an assertion that is not observed. -/
def TrustAdmission.insufficient (admission : TrustAdmission) : Report :=
  admission.closed.unverified .runtimeCapabilityInsufficient (some admission.input)

/-- The report of the customer value, which passes only when it is observed completely. -/
def TrustAdmission.customerReport (admission : TrustAdmission) (scenario : ScenarioId) :
    Steps String Report Report := do
  let customer ← orReturn admission.customer admission.insufficient
  let controlId ← orReturn admission.controlId admission.insufficient
  admission.closed.evaluateCustomer scenario controlId "" .fulfilLater 0 customer.Complete
    admission.input

/-- The report of the state mutations, from the verdict on the two requests. -/
def TrustAdmission.mutationReport (admission : TrustAdmission)
    (verdict : MutationScenarioRequestObservation → MutationScenarioRequestObservation → Verdict) :
    Steps String Report Report := do
  returnIf (admission.capable = false) admission.insufficient
  let observations ← attempt (observeMutations admission.closed.transcript admission.nodeIds
    admission.closed.requests)
  pure
    { verdict :=
        match observations with
        | [first, second] => verdict first second
        | _ => .unverified .requestExecutionFailed
      runtime := some admission.closed.runtime
      inputReference := some admission.input
      observations := observations.map .mutation
      diagnostics := admission.closed.diagnostics }

/-! ## The assertions of an instance -/

namespace Execution

variable (execution : Execution)

/-- The keys of the catalog that the instance has, or all of them without an instance. -/
def catalogKeys (item : Option ScenarioInstance) (catalog : List AssertionKey) :
    List AssertionKey :=
  match item with
  | some item => catalog.filter (· ∈ (assertionsByKey item).keys)
  | none => catalog

/-- The identity of the assertion with a key. -/
def assertionNamed (item : Option ScenarioInstance) (key : AssertionKey) : AssertionId :=
  match (assertionsByKey item).get? key with
  | some assertion => assertion.assertionId
  | none => execution.hashing.assertionId execution.scenarioInstanceId key

/-! ## Out-of-order events -/

def sg04Catalog : List AssertionKey := [.sg04CustomerValue, .sg04StateRegression]

def sg04Opening : OpeningRules := execution.sg07Opening

/-- `prepare_sg04_requests`. -/
def sg04Input (path : String) : ScenarioSafeInputReference :=
  .webhookSequenceInput
    { contextFingerprint := execution.inputs.contextFingerprint
      path := path
      capturedControl := execution.inputs.capturedEvent path
      staleAuthorized := execution.inputs.authorizedEvent path
      distinctEvents := execution.inputs.distinctEvents path }

def sg04Admission (key : AssertionKey) : Steps String Report TrustAdmission := do
  returnIf execution.Stale (.unverified .staleApplicabilityAuthority)
  let item ← orReturn (execution.item? .sg04) (.unverified .authorityMismatch)
  let assertions := assertionsByKey item
  let assertion ← attempt (assertionAt assertions key)
  returnEarly assertion.state
  let controlId ← orReturn item.normalControlId (.unverified .authorityMismatch)
  let (opened, session) ← execution.openSession execution.sg04Opening .sg04 item
  let planned := opened.plannedIngress? item
  opened.closeIf (planned = none) (opened.unverified .authorityMismatch false)
  let ingress ← orReturn planned (opened.unverified .authorityMismatch false)
  let regression ← attempt (assertionAt assertions .sg04StateRegression)
  let nodeIds := evidenceNodeIds regression.reasons
  let capable := MutationCapability opened.artifact ingress nodeIds
  let customer := observableCustomer? opened.artifact ingress controlId
  let input := execution.sg04Input ingress.effectivePath
  let closed ← opened.dispatchTrust session ingress
    ((Applies assertions .sg04CustomerValue ∧ customer.isSome) ∨
      (Applies assertions .sg04StateRegression ∧ capable)) input
  returnIf (closed.transcript.diagnostics ≠ [] ∨ closed.Inexact ∨
      CrossControl closed.transcript.events controlId)
    (closed.unverified .authorityMismatch (some input))
  pure
    { artifact := opened.artifact
      closed := closed
      input := input
      nodeIds := nodeIds
      capable := capable
      controlId := controlId
      customer := customer }

def sg04Report (key : AssertionKey) : Steps String Report Report := do
  let admission ← execution.sg04Admission key
  if key = .sg04CustomerValue then
    admission.customerReport .sg04
  else
    admission.mutationReport (Sg04.stateVerdict execution.graph admission.nodeIds)

/-- `execute_sg04`. -/
def executeSg04 : Except String (List ScenarioExecutionResult) :=
  let item := execution.item? .sg04
  collect (fun key =>
    execution.packed .sg04 (execution.assertionNamed item key) (item.bind (·.normalControlId))
      (execution.sg04Report key))
    (catalogKeys item sg04Catalog)

/-! ## The forged signature -/

def sg05Catalog : List AssertionKey := [.sg05Mutation, .sg05CustomerValue]

def sg05Opening : OpeningRules := execution.sg01Opening

/-- The control of the customer value, which only the assertion about it depends on. -/
def controlOf (item : Option ScenarioInstance) (customerKey key : AssertionKey) :
    Option NormalControlId :=
  if key = customerKey then ((assertionsByKey item).get? key).bind (·.normalControlId) else none

/-- `prepare_sg05_requests`. -/
def sg05Input (path : String) : ScenarioSafeInputReference :=
  .scenarioInput (execution.inputs.capturedWebhook path)

def sg05Admission (key : AssertionKey) : Steps String Report TrustAdmission := do
  returnIf execution.Stale (.unverified .staleApplicabilityAuthority)
  let item ← orReturn (execution.item? .sg05) (.unverified .authorityMismatch)
  let assertions := assertionsByKey item
  let assertion ← attempt (assertionAt assertions key)
  returnEarly assertion.state
  let (opened, session) ← execution.openSession execution.sg05Opening .sg05 item
  let planned := opened.plannedIngress? item
  opened.closeIf (planned = none) (opened.unverified .authorityMismatch false)
  let ingress ← orReturn planned (opened.unverified .authorityMismatch false)
  let mutation ← attempt (assertionAt assertions .sg05Mutation)
  let nodeIds := evidenceNodeIds
    (mutation.reasons.filter (·.code = .mutationTargetAvailable))
  let capable := MutationCapability opened.artifact ingress nodeIds
  let value ← attempt (assertionAt assertions .sg05CustomerValue)
  let customer := observableCustomer? opened.artifact ingress value.normalControlId
  let input := execution.sg05Input ingress.effectivePath
  let closed ← opened.dispatchTrust session ingress
    ((Applies assertions .sg05Mutation ∧ capable) ∨
      (Applies assertions .sg05CustomerValue ∧ customer.isSome)) input
  returnIf (closed.transcript.diagnostics ≠ [])
    (closed.unverified .transcriptUntrustworthy (some input))
  let events := eventsOf closed.transcript closed.requests
  returnIf (closed.Inexact ∨
      (Applies assertions .sg05CustomerValue ∧ CrossCustomer events value.normalControlId) ∨
      (Applies assertions .sg05Mutation ∧ CrossMutation events nodeIds))
    (closed.unverified .authorityMismatch (some input))
  pure
    { artifact := opened.artifact
      closed := closed
      input := input
      nodeIds := nodeIds
      capable := capable
      controlId := value.normalControlId
      customer := customer }

def sg05Report (key : AssertionKey) : Steps String Report Report := do
  let admission ← execution.sg05Admission key
  if key = .sg05CustomerValue then
    admission.customerReport .sg05
  else
    admission.mutationReport Sg05.evaluateMutationSequence

/-- `execute_sg05`. -/
def executeSg05 : Except String (List ScenarioExecutionResult) :=
  let item := execution.item? .sg05
  collect (fun key =>
    execution.packed .sg05 (execution.assertionNamed item key)
      (controlOf item .sg05CustomerValue key) (execution.sg05Report key))
    (catalogKeys item sg05Catalog)

/-! ## The tampered checkout callback -/

def sg06Catalog : List AssertionKey := [.sg06Mutation, .sg06CustomerValue]

def sg06Opening : OpeningRules :=
  { secrets := [(execution.checkoutSecret, .checkoutSecretUnavailable),
      (execution.serverOrder, .serverOrderControlUnavailable)]
    driftDiagnostics := true
    mismatch := .staleApplicabilityAuthority
    mismatchDiagnostics := true
    sessionDiagnostics := true }

/-- `prepare_sg06_requests`. -/
def sg06Input (binding : CheckoutRequestBinding) (path : String) : ScenarioSafeInputReference :=
  .checkoutSequenceInput (execution.inputs.checkoutSequence binding path)

def sg06Admission (key : AssertionKey) : Steps String Report TrustAdmission := do
  returnIf execution.Stale (.unverified .staleApplicabilityAuthority)
  let item ← orReturn (execution.item? .sg06) (.unverified .authorityMismatch)
  let assertions := assertionsByKey item
  let assertion ← attempt (assertionAt assertions key)
  returnEarly assertion.state
  let (opened, session) ← execution.openSession execution.sg06Opening .sg06 item
  let planned := opened.plannedIngress? item
  opened.closeIf (planned = none) (opened.unverified .authorityMismatch false)
  let ingress ← orReturn planned (opened.unverified .authorityMismatch false)
  opened.closeIf (ingress.checkoutRequestBinding = none)
    (opened.unverified .runtimeCapabilityInsufficient false)
  let binding ← orReturn ingress.checkoutRequestBinding
    (opened.unverified .runtimeCapabilityInsufficient false)
  let mutation ← attempt (assertionAt assertions .sg06Mutation)
  let nodeIds := evidenceNodeIds mutation.reasons
  let capable := MutationCapability opened.artifact ingress nodeIds
  let value ← attempt (assertionAt assertions .sg06CustomerValue)
  let customer := observableCustomer? opened.artifact ingress value.normalControlId
  let input := execution.sg06Input binding ingress.effectivePath
  let closed ← opened.dispatchTrust session ingress
    ((Applies assertions .sg06Mutation ∧ capable) ∨
      (Applies assertions .sg06CustomerValue ∧ customer.isSome)) input
  let events := closed.transcript.events
  returnIf (closed.transcript.diagnostics ≠ [] ∨ closed.Inexact ∨
      (value.normalControlId.isSome ∧ CrossCustomer events value.normalControlId) ∨
      (Applies assertions .sg06Mutation ∧ CrossMutation events nodeIds))
    (closed.unverified .authorityMismatch (some input))
  pure
    { artifact := opened.artifact
      closed := closed
      input := input
      nodeIds := nodeIds
      capable := capable
      controlId := value.normalControlId
      customer := customer }

def sg06Report (key : AssertionKey) : Steps String Report Report := do
  let admission ← execution.sg06Admission key
  if key = .sg06CustomerValue then
    admission.customerReport .sg06
  else
    admission.mutationReport Sg06.evaluateMutationSequence

/-- `execute_sg06`. -/
def executeSg06 : Except String (List ScenarioExecutionResult) :=
  let item := execution.item? .sg06
  collect (fun key =>
    execution.packed .sg06 (execution.assertionNamed item key)
      (controlOf item .sg06CustomerValue key) (execution.sg06Report key))
    (catalogKeys item sg06Catalog)

end Execution

end StateGuard
