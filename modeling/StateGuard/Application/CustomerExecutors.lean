import StateGuard.Application.Worker
import StateGuard.FailureLab.Agreement

/-!
# The executors of the customer-value scenarios

The captured webhook, its duplicate, the modelled retry, the webhook without its checkout
callback and the late authorisation.  The admission of each executor is a sequence of steps
in the order of the source, up to the session whose requests are evaluated; a step that
returns early gives the report of its assertion.
-/

namespace StateGuard

open Checks EarlyReturn

/-! ## Evaluation -/

/-- The verdict at an index of the scenario's verdicts, or none where the request it is about
was not sent; a pass that the capability does not support is withheld. -/
def customerVerdict (scenario : ScenarioId) (lateAuthorisation : LateAuthorisationPolicy)
    (index : Nat) (mayPass : Bool) (observations : List ScenarioRequestObservation) : Verdict :=
  let verdict := (customerVerdicts scenario lateAuthorisation observations)[index]?.getD
    (.unverified .requestExecutionFailed)
  if verdict.state = .verifiedPass ∧ mayPass = false then
    .unverified .runtimeCapabilityInsufficient
  else verdict

/-- The report of a customer-value reducer on the closed session. -/
def ClosedSession.evaluateCustomer (closed : ClosedSession) (scenario : ScenarioId)
    (normalControlId : NormalControlId) (acknowledgementNodeId : GraphNodeId)
    (lateAuthorisation : LateAuthorisationPolicy) (index : Nat) (mayPass : Bool)
    (inputReference : ScenarioSafeInputReference) : Steps String Report Report := do
  let observations ← attempt (observeCustomers scenario closed.transcript normalControlId
    acknowledgementNodeId closed.requests)
  pure
    { verdict := customerVerdict scenario lateAuthorisation index mayPass observations
      runtime := some closed.runtime
      inputReference := some inputReference
      observations := observations.map .customer
      diagnostics := closed.diagnostics }

/-- What an executor has established when it evaluates a customer value. -/
structure CustomerAdmission where
  artifact : RuntimeCapabilityArtifact
  closed : ClosedSession
  controlId : NormalControlId
  input : ScenarioSafeInputReference
  /-- The acknowledgement of the retry scenario. -/
  acknowledgementNodeId : GraphNodeId := ""
  /-- The policy of the late authorisation. -/
  lateAuthorisation : LateAuthorisationPolicy := .fulfilLater

/-- The report of an admitted session, with the verdict at an index. -/
def CustomerAdmission.report (admission : CustomerAdmission) (scenario : ScenarioId)
    (index : Nat) : Steps String Report Report :=
  admission.closed.evaluateCustomer scenario admission.controlId admission.acknowledgementNodeId
    admission.lateAuthorisation index true admission.input

/-- The input of a captured webhook. -/
def PreparedInputs.captured (inputs : PreparedInputs)
    (customer : CustomerValueRuntimeCapability) : ScenarioSafeInputReference :=
  .scenarioInput (inputs.capturedWebhook customer.target.ingress.effectivePath)

/-- The input of the first scenario, which a run may ground. -/
def PreparedInputs.grounded (inputs : PreparedInputs)
    (customer : CustomerValueRuntimeCapability) : ScenarioSafeInputReference :=
  match inputs.grounding with
  | some grounding =>
    .groundedScenarioInput (inputs.capturedWebhook customer.target.ingress.effectivePath) grounding
  | none => inputs.captured customer

namespace Execution

variable (execution : Execution)

/-! ## The captured webhook -/

/-- The webhook secret is the only one most scenarios need. -/
def webhookSecrets : List (Bool × ScenarioResultReasonCode) :=
  [(execution.webhookSecret, .webhookSecretUnavailable)]

def sg01Opening : OpeningRules :=
  { secrets := execution.webhookSecrets
    driftDiagnostics := true
    mismatch := .authorityMismatch
    mismatchDiagnostics := false
    sessionDiagnostics := true }

def sg01Admission : Steps String Report CustomerAdmission := do
  returnIf execution.Stale (.unverified .staleApplicabilityAuthority)
  let item ← orReturn (execution.item? .sg01) (.unverified .authorityMismatch)
  returnEarly item.state
  let controlId ← orReturn item.normalControlId (.unverified .authorityMismatch)
  let (opened, session) ← execution.openSession execution.sg01Opening .sg01 item
  let target := sufficientCustomer? opened.artifact controlId
  let closed ← opened.dispatch session (target.map (·.target.ingress))
    (if target.isSome then 1 else 0)
    fun _ => opened.unverified .transcriptUntrustworthy false
  let customer ← orReturn target (closed.unverified .runtimeCapabilityInsufficient none)
  let input := execution.inputs.grounded customer
  let request ← orReturn (single? closed.requests)
    (closed.unverified .requestExecutionFailed none)
  returnIf (closed.Mismatched opened.artifact)
    (closed.unverified .transcriptUntrustworthy (some input))
  returnIf (closed.transcript.diagnostics ≠ [])
    (closed.unverified .transcriptUntrustworthy (some input))
  returnIf (¬ SingleRequestAuthority closed.transcript request ∨
      CrossControl (eventsOf closed.transcript [request]) controlId)
    (closed.unverified .authorityMismatch (some input))
  pure
    { artifact := opened.artifact
      closed := closed
      controlId := controlId
      input := input }

def sg01Report : Steps String Report Report := do
  let admission ← execution.sg01Admission
  admission.report .sg01 0

/-- `execute_sg01`. -/
def executeSg01 : Except String ScenarioExecutionResult :=
  let item := execution.item? .sg01
  execution.packed .sg01 (execution.assertionFor item .sg01) (item.bind (·.normalControlId))
    execution.sg01Report

/-! ## The duplicate delivery -/

def sg02Admission : Steps String Report CustomerAdmission := do
  returnIf execution.Stale (.unverified .staleApplicabilityAuthority)
  let item ← orReturn (execution.item? .sg02) (.unverified .authorityMismatch)
  returnEarly item.state
  let controlId ← orReturn item.normalControlId (.unverified .authorityMismatch)
  let (opened, session) ← execution.openSession execution.sg01Opening .sg02 item
  let target := sufficientCustomer? opened.artifact controlId
  let closed ← opened.dispatch session (target.map (·.target.ingress))
    (if target.isSome then 2 else 0)
    fun _ => opened.unverified .transcriptUntrustworthy false
  let customer ← orReturn target (closed.unverified .runtimeCapabilityInsufficient none)
  let input := execution.inputs.captured customer
  returnIf (closed.Mismatched opened.artifact)
    (closed.unverified .transcriptUntrustworthy (some input))
  returnIf (closed.transcript.diagnostics ≠ [])
    (closed.unverified .transcriptUntrustworthy (some input))
  returnIf (closed.requests.length ≠ 2)
    (closed.unverified .requestExecutionFailed (some input))
  returnIf (closed.Inexact ∨
      CrossControl (eventsOf closed.transcript closed.requests) controlId)
    (closed.unverified .authorityMismatch (some input))
  pure
    { artifact := opened.artifact
      closed := closed
      controlId := controlId
      input := input }

def sg02Report : Steps String Report Report := do
  let admission ← execution.sg02Admission
  admission.report .sg02 0

/-- `execute_sg02`. -/
def executeSg02 : Except String ScenarioExecutionResult :=
  let item := execution.item? .sg02
  execution.packed .sg02 (execution.assertionFor item .sg02) (item.bind (·.normalControlId))
    execution.sg02Report

/-! ## The modelled retry -/

/-- The acknowledgements that are observed completely, among some nodes. -/
def observedAcknowledgements (artifact : RuntimeCapabilityArtifact) (nodeIds : List GraphNodeId) :
    List AcknowledgementRuntimeCapability :=
  artifact.acknowledgements.filter fun capability =>
    capability.target.acknowledgementNodeId ∈ nodeIds ∧
      (∃ code ∈ capability.target.statusCode.toList, Success2xx code) ∧
      capability.target.outcome = .success2xx ∧ capability.timeline = .complete

/-- The customer value and the acknowledgement of a retry, where both are sufficient. -/
def retryTarget? (artifact : RuntimeCapabilityArtifact) (normalControlId : NormalControlId)
    (nodeIds : List GraphNodeId) :
    Option (CustomerValueRuntimeCapability × AcknowledgementRuntimeCapability) :=
  match sufficientCustomer? artifact normalControlId,
    single? (observedAcknowledgements artifact nodeIds) with
  | some customer, some acknowledgement =>
    if acknowledgement.target.ingress = customer.target.ingress then
      some (customer, acknowledgement)
    else none
  | _, _ => none

def sg03Opening : OpeningRules :=
  { secrets := execution.webhookSecrets
    driftDiagnostics := false
    mismatch := .staleApplicabilityAuthority
    mismatchDiagnostics := false
    sessionDiagnostics := true }

def sg03Admission : Steps String Report CustomerAdmission := do
  returnIf execution.Stale (.unverified .staleApplicabilityAuthority)
  let item ← orReturn (execution.item? .sg03) (.unverified .authorityMismatch)
  let controlId ← orReturn item.normalControlId (.unverified .authorityMismatch)
  let assertion ← orReturn (item.assertions.find? (·.key = .sg03))
    (.unverified .authorityMismatch)
  returnEarly assertion.state
  let (opened, session) ← execution.openSession execution.sg03Opening .sg03 item
  let nodeIds := ((assertion.reasons.flatMap (·.evidence)).filter
    (·.kind = .graphNode)).map (·.reference)
  let target := retryTarget? opened.artifact controlId nodeIds
  let closed ← opened.dispatch session
    ((customersOf opened.artifact controlId).head?.map (·.target.ingress))
    (if target.isSome then 2 else 0)
    fun _ => opened.unverified .transcriptUntrustworthy false
  let (customer, acknowledgement) ← orReturn target
    (closed.unverified .runtimeCapabilityInsufficient none)
  let input := execution.inputs.captured customer
  returnIf (closed.requests.length ≠ 2)
    (closed.unverified .requestExecutionFailed (some input))
  returnIf (closed.Mismatched opened.artifact)
    (closed.unverified .transcriptUntrustworthy (some input))
  returnIf (closed.transcript.diagnostics ≠ [] ∨ closed.Inexact ∨
      CrossControl closed.transcript.events controlId)
    (closed.unverified .authorityMismatch (some input))
  pure
    { artifact := opened.artifact
      closed := closed
      controlId := controlId
      input := input
      acknowledgementNodeId := acknowledgement.target.acknowledgementNodeId }

def sg03Report : Steps String Report Report := do
  let admission ← execution.sg03Admission
  admission.report .sg03 0

/-- `execute_sg03`. -/
def executeSg03 : Except String ScenarioExecutionResult :=
  let item := execution.item? .sg03
  execution.packed .sg03 (execution.assertionFor item .sg03) (item.bind (·.normalControlId))
    execution.sg03Report

/-! ## The webhook without its checkout callback -/

/-- The ingress a request of the webhook-only scenario is sent to. -/
def webhookOnlyIngress (opened : RuntimeSessionOpenResult) (normalControlId : NormalControlId) :
    Except String IngressRuntimeBinding :=
  match customersOf opened.artifact normalControlId, opened.ingresses with
  | customer :: _, _ => .ok customer.target.ingress
  | [], ingress :: _ => .ok ingress
  | [], [] => .error "tuple index out of range"

/-- `instance.assertions[0]`. -/
def firstOf : List AssertionApplicability → Except String AssertionApplicability
  | assertion :: _ => .ok assertion
  | [] => .error "tuple index out of range"

def sg07Opening : OpeningRules :=
  { secrets := execution.webhookSecrets
    driftDiagnostics := false
    mismatch := .staleApplicabilityAuthority
    mismatchDiagnostics := false
    sessionDiagnostics := false }

def sg07Admission : Steps String Report CustomerAdmission := do
  returnIf execution.Stale (.unverified .staleApplicabilityAuthority)
  let item ← orReturn (execution.item? .sg07) (.unverified .authorityMismatch)
  let controlId ← orReturn item.normalControlId (.unverified .authorityMismatch)
  let assertion ← attempt (firstOf item.assertions)
  returnEarly assertion.state
  let (opened, session) ← execution.openSession execution.sg07Opening .sg07 item
  let target := sufficientCustomer? opened.artifact controlId
  let ingress ← attempt (webhookOnlyIngress opened controlId)
  let closed ← opened.dispatch session (some ingress) (if target.isSome then 1 else 0)
    fun _ => opened.unverified .transcriptUntrustworthy false
  let customer ← orReturn target (closed.unverified .runtimeCapabilityInsufficient none)
  let input := execution.inputs.captured customer
  returnIf (closed.requests.length ≠ 1)
    (closed.unverified .requestExecutionFailed none)
  returnIf (closed.Mismatched opened.artifact)
    (closed.unverified .transcriptUntrustworthy (some input))
  returnIf (closed.transcript.diagnostics ≠ [] ∨ closed.Inexact ∨
      CrossControl closed.transcript.events controlId)
    (closed.unverified .authorityMismatch (some input))
  pure
    { artifact := opened.artifact
      closed := closed
      controlId := controlId
      input := input }

def sg07Report : Steps String Report Report := do
  let admission ← execution.sg07Admission
  admission.report .sg07 0

/-- `execute_sg07`. -/
def executeSg07 : Except String ScenarioExecutionResult :=
  let item := execution.item? .sg07
  execution.packed .sg07 (execution.assertionFor item .sg07CustomerValue)
    (item.bind (·.normalControlId)) execution.sg07Report

/-! ## The late authorisation -/

/-- The dictionary of an instance's assertions by their key. -/
def assertionsByKey (item : Option ScenarioInstance) :
    Dict AssertionKey AssertionApplicability :=
  Dict.ofList (((item.map (·.assertions)).getD []).map fun assertion => (assertion.key, assertion))

/-- `assertions[key]`. -/
def assertionAt (assertions : Dict AssertionKey AssertionApplicability) (key : AssertionKey) :
    Except String AssertionApplicability :=
  match assertions.get? key with
  | some assertion => .ok assertion
  | none => .error "KeyError"

/-- `_early_applicability_result(state) or (UNVERIFIED, reason)`. -/
def earlyOr (state : ApplicabilityState) (reason : ScenarioResultReasonCode) : Report :=
  { verdict := (earlyApplicabilityResult state).getD (.unverified reason) }

/-- The assertion with a key applies. -/
def Applies (assertions : Dict AssertionKey AssertionApplicability) (key : AssertionKey) : Prop :=
  ∃ assertion ∈ (assertions.get? key).toList, assertion.state = .applicable

instance (assertions : Dict AssertionKey AssertionApplicability) (key : AssertionKey) :
    Decidable (Applies assertions key) :=
  inferInstanceAs (Decidable (∃ _ ∈ _, _))

/-- `tuple(assertions) or (SG08_LATE_POLICY_ASSERTION_KEY,)`. -/
def sg08Keys : List AssertionKey :=
  match (assertionsByKey (execution.item? .sg08)).keys with
  | [] => [.sg08LatePolicy]
  | keys => keys

/-- `prepare_sg08_requests`: the captured event is sent under one policy only. -/
def sg08Input (fulfilment : FulfilmentPolicy) (lateAuthorisation : LateAuthorisationPolicy)
    (includeCapture : Bool) (path : String) : LateAuthorisationInputReference :=
  let policy := execution.applicability.policy
  { contextFingerprint := execution.inputs.contextFingerprint
    policy :=
      { fulfilment := fulfilment
        fulfilmentEvidenceFingerprint := policy.fulfilment.evidenceFingerprint
        lateAuthorisation := lateAuthorisation
        lateAuthorisationEvidenceFingerprint := policy.lateAuthorisation.evidenceFingerprint }
    path := path
    modeledLateAuthorized := execution.inputs.authorizedEvent path
    capturedThresholdControl :=
      if includeCapture = true ∧ fulfilment = .captureRequired ∧
          lateAuthorisation = .fulfilLater then
        some (execution.inputs.capturedEvent path)
      else none
    controlPolicy := by
      intro sent
      by_contra other
      rw [if_neg fun sends => other sends.2] at sent
      cases sent
    distinctEvents := by
      intro control isControl
      split at isControl
      next =>
        cases isControl
        exact fun same => execution.inputs.distinctEvents path same.symm
      next => cases isControl }

def sg08Opening : OpeningRules := execution.sg07Opening

/-- The place of an evaluated assertion among the verdicts of the late authorisation. -/
def sg08Index : AssertionKey → Except String Nat
  | .sg08Precapture => .ok 0
  | .sg08Capture => .ok 1
  | _ => .error "KeyError"

def sg08Admission (key : AssertionKey) : Steps String Report CustomerAdmission := do
  returnIf execution.Stale (.unverified .staleApplicabilityAuthority)
  let item ← orReturn (execution.item? .sg08) (.unverified .authorityMismatch)
  let assertions := assertionsByKey item
  returnIf (item.normalControlId = none ∧ ¬ (assertions.values ≠ [] ∧
      ∀ assertion ∈ assertions.values, assertion.state ≠ .applicable))
    (.unverified .authorityMismatch)
  let assertion ← attempt (assertionAt assertions key)
  let controlId ← orReturn item.normalControlId (earlyOr assertion.state .authorityMismatch)
  let policy := execution.applicability.policy
  let fulfilment ← orReturn policy.fulfilment.confirmedPolicy
    (earlyOr assertion.state .authorityMismatch)
  let lateAuthorisation ← orReturn policy.lateAuthorisation.confirmedPolicy
    (earlyOr assertion.state .authorityMismatch)
  returnIf (policy.fulfilment.evidenceCurrent ≠ some true ∨
      policy.lateAuthorisation.evidenceCurrent ≠ some true)
    (earlyOr assertion.state .staleApplicabilityAuthority)
  returnIf (fulfilment = .authorizedAllowed) (.unverified .merchantLateContextUnproven)
  returnEarly assertion.state
  let (opened, session) ← execution.openSession execution.sg08Opening .sg08 item
  let target := sufficientCustomer? opened.artifact controlId
  let input := target.map fun customer => execution.sg08Input fulfilment lateAuthorisation
    (Applies assertions .sg08Capture) customer.target.ingress.effectivePath
  let closed ← opened.dispatch session
    ((customersOf opened.artifact controlId).head?.map (·.target.ingress))
    ((input.map (·.eventCount)).getD 0)
    fun sent =>
      { opened.unverified .transcriptUntrustworthy true with
        inputReference := input.map .lateAuthorisationInput
        diagnostics := opened.artifact.diagnostics ++ sent.failure.toList }
  let input ← orReturn input (closed.unverified .runtimeCapabilityInsufficient none)
  let reference := ScenarioSafeInputReference.lateAuthorisationInput input
  returnIf (closed.requests.length ≠ input.eventCount)
    (closed.unverified .requestExecutionFailed (some reference))
  returnIf (closed.Mismatched opened.artifact)
    (closed.unverified .transcriptUntrustworthy (some reference))
  returnIf (closed.transcript.diagnostics ≠ [] ∨ closed.Inexact ∨
      CrossControl closed.transcript.events controlId)
    (closed.unverified .authorityMismatch (some reference))
  pure
    { artifact := opened.artifact
      closed := closed
      controlId := controlId
      input := reference
      lateAuthorisation := lateAuthorisation }

def sg08Report (key : AssertionKey) : Steps String Report Report := do
  let admission ← execution.sg08Admission key
  let index ← attempt (sg08Index key)
  admission.report .sg08 index

/-- `execute_sg08`. -/
def executeSg08 : Except String (List ScenarioExecutionResult) :=
  let item := execution.item? .sg08
  collect (fun key =>
    execution.packed .sg08 (execution.assertionFor item key) (item.bind (·.normalControlId))
      (execution.sg08Report key))
    execution.sg08Keys

end Execution

end StateGuard
