import Mathlib.Data.List.Dedup
import StateGuard.Library.EarlyReturn
import StateGuard.Applicability.Engine
import StateGuard.FailureLab.Observations

/-!
# What an executor works with

An executor is called for one instance of one scenario.  `Execution` is everything it reads:
the applicability it analyses first, the configuration, and what the worker does, an opened
session with its answers to requests and its transcript.  Every outcome of a worker is a
value of `RuntimeSessionOpenResult`.

Every way out of an executor is a `Report`: a verdict with the part of its authority the
runtime supplies.  `openSession` is the part all executors begin their dynamic work with, and
`Sealing` what they know once the session is closed.
-/

namespace StateGuard

open Checks EarlyReturn

/-- The only element of a list, for `len(items) == 1`. -/
def single? {α : Type} : List α → Option α
  | [item] => some item
  | _ => none

theorem single?_eq_some {α : Type} {items : List α} {item : α} :
    single? items = some item ↔ items = [item] := by
  match items with
  | [] => simp [single?]
  | [_] => simp [single?]
  | _ :: _ :: _ => simp [single?]

/-! ## Sessions -/

/-- A managed session: the identity of each of its requests, how it answers the request of an
ordinal, and what closing it after some requests gives. -/
structure ManagedRuntimeSession where
  requestId : Nat → RuntimeRequestId
  /-- The status of the response, or the reason of a `RuntimeSessionError`. -/
  respond : Nat → IngressRuntimeBinding → Except RuntimeCapabilityReasonCode Nat
  close : List RuntimeRequestResult → Except String RuntimeObservationTranscript
  /-- Requests have distinct identities. -/
  requestIdsDistinct : Function.Injective requestId

/-- A session of either kind; only a managed one is used by the executors. -/
inductive RuntimeSession where
  | managed (session : ManagedRuntimeSession)
  | bringYourOwn (close : Except String RuntimeObservationTranscript)

/-- `session.close` of a session no request was sent to. -/
def RuntimeSession.closeUnused : RuntimeSession → Except String RuntimeObservationTranscript
  | .managed session => session.close []
  | .bringYourOwn close => close

/-- `open_runtime_session`: the applicability it analysed, the capability it assessed, the
ingresses it planned for, and the session, if it could be opened.  The fields carry what
`build_runtime_target_plan` checks of the ingresses. -/
structure RuntimeSessionOpenResult where
  applicability : ScenarioApplicabilityArtifact
  artifact : RuntimeCapabilityArtifact
  ingresses : List IngressRuntimeBinding
  session : Option RuntimeSession
  applicabilityValid : applicability.validateArtifact = .ok ()
  /-- Every control's ingress is planned. -/
  controlsPlanned : ∀ control ∈ applicability.normalControls,
    control.ingressNodeId ∈ ingresses.map (·.ingressNodeId)

/-! ## Dispatch -/

/-- The requests sent so far and why no further one was sent. -/
structure Dispatch where
  requests : List RuntimeRequestResult
  failure : Option RuntimeCapabilityReasonCode
  deriving DecidableEq

/-- Send requests until one fails, from an ordinal on. -/
def ManagedRuntimeSession.send (session : ManagedRuntimeSession)
    (ingress : IngressRuntimeBinding) : Nat → Nat → Dispatch
  | 0, _ => ⟨[], none⟩
  | count + 1, ordinal =>
    match session.respond ordinal ingress with
    | .error reason => ⟨[], some reason⟩
    | .ok statusCode =>
      let later := session.send ingress count (ordinal + 1)
      ⟨⟨session.requestId ordinal, ingress, statusCode⟩ :: later.requests, later.failure⟩

/-- The requests of `_dispatch_managed_sequence`; without an ingress the first one fails. -/
def dispatchManagedSequence (session : ManagedRuntimeSession)
    (ingress : Option IngressRuntimeBinding) (count : Nat) : Dispatch :=
  match ingress with
  | some ingress => session.send ingress count 0
  | none => ⟨[], if count = 0 then none else some .runtimeRouteNotFound⟩

theorem ManagedRuntimeSession.mem_send {session : ManagedRuntimeSession}
    {ingress : IngressRuntimeBinding} {count ordinal : Nat} {requestId : RuntimeRequestId}
    (sent : requestId ∈ (session.send ingress count ordinal).requests.map (·.requestId)) :
    ∃ later, ordinal ≤ later ∧ session.requestId later = requestId := by
  induction count generalizing ordinal with
  | zero => simp [send] at sent
  | succ count ih =>
    unfold send at sent
    split at sent
    next => simp at sent
    next statusCode _ =>
      rcases List.mem_cons.mp sent with rfl | sent
      · exact ⟨ordinal, le_refl _, rfl⟩
      · obtain ⟨later, after, same⟩ := ih sent
        exact ⟨later, by omega, same⟩

/-- No identity is used twice. -/
theorem dispatch_nodup (session : ManagedRuntimeSession)
    (ingress : Option IngressRuntimeBinding) (count : Nat) :
    ((dispatchManagedSequence session ingress count).requests.map (·.requestId)).Nodup := by
  have sequence (ingress : IngressRuntimeBinding) (ordinal : Nat) :
      ((session.send ingress count ordinal).requests.map (·.requestId)).Nodup := by
    induction count generalizing ordinal with
    | zero => simp [ManagedRuntimeSession.send]
    | succ count ih =>
      unfold ManagedRuntimeSession.send
      split
      next => simp
      next statusCode _ =>
        refine List.nodup_cons.mpr ⟨fun sent => ?_, ih (ordinal + 1)⟩
        obtain ⟨later, after, same⟩ := session.mem_send sent
        have := session.requestIdsDistinct same
        omega
  cases ingress with
  | none => simp [dispatchManagedSequence]
  | some ingress => exact sequence ingress 0

/-! ## Reports -/

/-- The part of an authority that the runtime supplies. -/
structure RuntimeReference where
  capabilityFingerprint : Sha256Digest
  sessionId : RuntimeSessionId
  requestIds : List RuntimeRequestId
  transcriptFingerprint : Option Sha256Digest
  requestsUnique : requestIds.Nodup

/-- `_base_authority`. -/
def baseAuthority (applicabilityFingerprint : Sha256Digest) (instanceId : ScenarioInstanceId)
    (normalControlId : Option NormalControlId) (runtime : Option RuntimeReference) :
    ScenarioAuthorityReference :=
  match runtime with
  | none =>
    { applicabilityFingerprint := applicabilityFingerprint
      scenarioInstanceId := instanceId
      normalControlId := normalControlId
      runtimeCapabilityFingerprint := none
      runtimeSessionId := none
      runtimeRequestIds := []
      transcriptFingerprint := none
      requestsNeedSession := by simp
      requestsUnique := by simp
      transcriptNeedsAuthority := by simp }
  | some runtime =>
    { applicabilityFingerprint := applicabilityFingerprint
      scenarioInstanceId := instanceId
      normalControlId := normalControlId
      runtimeCapabilityFingerprint := some runtime.capabilityFingerprint
      runtimeSessionId := some runtime.sessionId
      runtimeRequestIds := runtime.requestIds
      transcriptFingerprint := runtime.transcriptFingerprint
      requestsNeedSession := by simp
      requestsUnique := runtime.requestsUnique
      transcriptNeedsAuthority := by simp }

/-- What an executor reports of one assertion. -/
structure Report where
  verdict : Verdict
  runtime : Option RuntimeReference := none
  inputReference : Option ScenarioSafeInputReference := none
  observations : List ScenarioObservation := []
  diagnostics : List RuntimeCapabilityReasonCode := []

/-- An unverified report of the preflight. -/
def Report.unverified (reason : ScenarioResultReasonCode) : Report :=
  { verdict := .unverified reason }

/-- `_early_applicability_result`. -/
def earlyApplicabilityResult : ApplicabilityState → Option Verdict
  | .notApplicable => some ⟨.notApplicable, none, .applicabilityNotApplicable⟩
  | .needsInput => some ⟨.needsInput, none, .applicabilityNeedsInput⟩
  | .indeterminate => some ⟨.unverified, none, .applicabilityIndeterminate⟩
  | .applicable => none

theorem earlyApplicabilityResult_eq_none {state : ApplicabilityState} :
    earlyApplicabilityResult state = none ↔ state = .applicable := by
  cases state <;> simp [earlyApplicabilityResult]

/-- Return the early result of a state that is not applicable. -/
def returnEarly (state : ApplicabilityState) : Steps String Report Unit :=
  returnSome ((earlyApplicabilityResult state).map fun verdict => { verdict := verdict })

@[simp]
theorem returnEarly_eq_ok {state : ApplicabilityState} (u : Unit) :
    returnEarly state = .ok u ↔ state = .applicable := by
  simp [returnEarly, earlyApplicabilityResult_eq_none]

@[simp]
theorem not_raises_returnEarly (state : ApplicabilityState) : ¬ Raises (returnEarly state) :=
  not_raises_returnSome _

/-- A state that is not applicable is returned at once. -/
theorem returnEarly_bind {α : Type} {state : ApplicabilityState} {verdict : Verdict}
    (early : earlyApplicabilityResult state = some verdict)
    (rest : Unit → Steps String Report α) :
    (returnEarly state >>= rest) = .error (.returns { verdict := verdict }) := by
  rw [returnEarly, early]
  exact returnSome_bind _ rest

theorem returnEarly_applicable_bind {α : Type} {state : ApplicabilityState}
    (applicable : state = .applicable) (rest : Unit → Steps String Report α) :
    (returnEarly state >>= rest) = rest () := by
  rw [returnEarly, applicable]
  rfl

/-! ## The execution of one instance -/

/-- The input references of the prepared requests, by the path they are sent to. -/
structure PreparedInputs where
  capturedWebhook : String → ScenarioInputReference
  /-- The grounding of the first scenario, when the run is grounded. -/
  grounding : Option InputGrounding
  contextFingerprint : Sha256Digest
  capturedEvent : String → WebhookEventReference
  authorizedEvent : String → WebhookEventReference
  checkoutSequence : CheckoutRequestBinding → String → CheckoutSequenceInputReference
  /-- The two events of a sequence are different events. -/
  distinctEvents : ∀ path,
    (capturedEvent path).syntheticEventId ≠ (authorizedEvent path).syntheticEventId

/-- Everything an executor reads. -/
structure Execution where
  hashing : Hashing
  executionId : ScenarioExecutionId
  definitionFingerprint : ScenarioId → Sha256Digest
  resultFingerprint : ScenarioResultPayload → Sha256Digest
  /-- The applicability analysed first, and the graph it was computed from. -/
  applicability : ScenarioApplicabilityArtifact
  graph : PaymentSafetyGraphArtifact
  scenarioInstanceId : ScenarioInstanceId
  expectedApplicabilityFingerprint : Sha256Digest
  /-- The fingerprint of the runtime configuration, when it is a managed one. -/
  managedConfig : Option Sha256Digest
  webhookSecret : Bool
  checkoutSecret : Bool
  serverOrder : Bool
  /-- None when opening a session raised. -/
  opened : Option RuntimeSessionOpenResult
  inputs : PreparedInputs

/-- `_scenario_instance`. -/
def scenarioInstance (artifact : ScenarioApplicabilityArtifact) (scenario : ScenarioId)
    (instanceId : ScenarioInstanceId) : Option ScenarioInstance :=
  (artifact.scenarios.find? (·.scenarioId = scenario)).bind fun found =>
    found.instances.find? (·.instanceId = instanceId)

namespace Execution

variable (execution : Execution)

/-- The instance the executor was called for. -/
def item? (scenario : ScenarioId) : Option ScenarioInstance :=
  scenarioInstance execution.applicability scenario execution.scenarioInstanceId

/-- The applicability is not the one the caller expected. -/
def Stale : Prop :=
  execution.applicability.applicabilityFingerprint ≠ execution.expectedApplicabilityFingerprint

instance : Decidable execution.Stale := inferInstanceAs (Decidable (_ ≠ _))

/-- `_assertion_for`. -/
def assertionFor (item : Option ScenarioInstance) (key : AssertionKey) : AssertionId :=
  match item.bind fun item => single? (item.assertions.filter (·.key = key)) with
  | some assertion => assertion.assertionId
  | none => execution.hashing.assertionId execution.scenarioInstanceId key

/-- What the result of a report is packed with. -/
def packing (scenario : ScenarioId) (assertionId : AssertionId)
    (normalControlId : Option NormalControlId) (report : Report) : Packing :=
  { executionId := execution.executionId
    scenarioId := scenario
    scenarioDefinitionFingerprint := execution.definitionFingerprint scenario
    assertionId := assertionId
    authority := baseAuthority execution.applicability.applicabilityFingerprint
      execution.scenarioInstanceId normalControlId report.runtime
    inputReference := report.inputReference
    runtimeDiagnostics := report.diagnostics }

/-- The result of a sequence of steps. -/
def packed (scenario : ScenarioId) (assertionId : AssertionId)
    (normalControlId : Option NormalControlId) (steps : Steps String Report Report) :
    Except String ScenarioExecutionResult := do
  let report ← settle steps
  makeResult execution.resultFingerprint
    (execution.packing scenario assertionId normalControlId report) report.verdict
    report.observations

/-- A result is packed with the report its steps settle on. -/
theorem packed_eq_ok {execution : Execution} {scenario : ScenarioId} {assertionId : AssertionId}
    {normalControlId : Option NormalControlId} {steps : Steps String Report Report}
    {result : ScenarioExecutionResult}
    (packed : execution.packed scenario assertionId normalControlId steps = .ok result) :
    ∃ report, settle steps = .ok report ∧ result.toScenarioResultPayload =
      (execution.packing scenario assertionId normalControlId report).payload report.verdict
        report.observations := by
  simp only [Execution.packed, bind_eq_ok] at packed
  obtain ⟨report, settled, isResult⟩ := packed
  exact ⟨report, settled, payload_of_makeResult isResult⟩

@[simp]
theorem baseAuthority_scenarioInstanceId (applicabilityFingerprint : Sha256Digest)
    (instanceId : ScenarioInstanceId) (normalControlId : Option NormalControlId)
    (runtime : Option RuntimeReference) :
    (baseAuthority applicabilityFingerprint instanceId normalControlId
      runtime).scenarioInstanceId = instanceId := by
  cases runtime with
  | none => rfl
  | some runtime => rfl

end Execution

/-! ## Opening a session -/

/-- What an executor knows once its session is open, and nothing was sent yet. -/
def RuntimeSessionOpenResult.runtime (opened : RuntimeSessionOpenResult) : RuntimeReference :=
  { capabilityFingerprint := opened.artifact.capabilityFingerprint
    sessionId := opened.artifact.assessmentSessionId
    requestIds := []
    transcriptFingerprint := none
    requestsUnique := List.nodup_nil }

/-- An unverified report of an open session, with its diagnostics or without them. -/
def RuntimeSessionOpenResult.unverified (opened : RuntimeSessionOpenResult)
    (reason : ScenarioResultReasonCode) (withDiagnostics : Bool) : Report :=
  { verdict := .unverified reason
    runtime := some opened.runtime
    diagnostics := if withDiagnostics then opened.artifact.diagnostics else [] }

/-- `opened.session.close`, where nothing catches its exceptions. -/
def RuntimeSessionOpenResult.closeUnguarded (opened : RuntimeSessionOpenResult) :
    Steps String Report Unit :=
  match opened.session with
  | none => .ok ()
  | some session => do
    let _ ← attempt session.closeUnused
    pure ()

/-- Close the session without a guard and return a report when the condition holds. -/
def RuntimeSessionOpenResult.closeIf (opened : RuntimeSessionOpenResult) (condition : Prop)
    [Decidable condition] (report : Report) : Steps String Report Unit :=
  if condition then do
    opened.closeUnguarded
    .error (.returns report)
  else .ok ()

/-- Closing the session raises. -/
def RuntimeSessionOpenResult.CloseFails (opened : RuntimeSessionOpenResult) : Prop :=
  ∃ session, opened.session = some session ∧ ∃ exception, session.closeUnused = .error exception

theorem RuntimeSessionOpenResult.raises_closeUnguarded (opened : RuntimeSessionOpenResult) :
    Raises opened.closeUnguarded ↔ opened.CloseFails := by
  unfold closeUnguarded CloseFails
  cases opened.session with
  | none => simp
  | some session =>
    dsimp only
    rw [raises_bind]
    simp

theorem RuntimeSessionOpenResult.raises_closeIf (opened : RuntimeSessionOpenResult)
    (condition : Prop) [Decidable condition] (report : Report) :
    Raises (opened.closeIf condition report) ↔ condition ∧ opened.CloseFails := by
  unfold closeIf
  split
  next holds => simp [raises_bind, raises_closeUnguarded, holds]
  next fails => simp [fails]

@[simp]
theorem RuntimeSessionOpenResult.closeIf_eq_ok (opened : RuntimeSessionOpenResult)
    (condition : Prop) [Decidable condition] (report : Report) (u : Unit) :
    opened.closeIf condition report = .ok u ↔ ¬ condition := by
  unfold closeIf
  split
  next holds => simp [holds]
  next fails => simp [fails]

theorem RuntimeSessionOpenResult.ensures_closeIf {opened : RuntimeSessionOpenResult}
    {condition : Prop} [Decidable condition] {report : Report} {returned : Report → Prop}
    (early : condition → returned report) :
    Ensures (opened.closeIf condition report) returned fun _ => ¬ condition := by
  unfold closeIf
  split
  next holds =>
    have closes : Ensures opened.closeUnguarded returned fun _ => True := by
      unfold closeUnguarded
      split
      next => trivial
      next => exact .bind .attempt fun _ _ => .pure trivial
    exact closes.bind fun _ _ => early holds
  next fails => exact fails

/-- How an executor reports what keeps it from using a session. -/
structure OpeningRules where
  /-- What the environment must supply, with the reason for lacking it. -/
  secrets : List (Bool × ScenarioResultReasonCode)
  /-- Whether a changed analysis or configuration is reported with diagnostics. -/
  driftDiagnostics : Bool
  /-- The reason for an instance that changed, and whether diagnostics go with it. -/
  mismatch : ScenarioResultReasonCode
  mismatchDiagnostics : Bool
  /-- Whether a missing session is reported with diagnostics. -/
  sessionDiagnostics : Bool

/-- The reason for the first secret that is missing. -/
def missingSecret (secrets : List (Bool × ScenarioResultReasonCode)) :
    Option ScenarioResultReasonCode :=
  (secrets.find? fun secret => secret.1 = false).map Prod.snd

/-- The session is managed. -/
def RuntimeSessionOpenResult.managed? (opened : RuntimeSessionOpenResult) :
    Option ManagedRuntimeSession :=
  match opened.session with
  | some (.managed session) => some session
  | _ => none

/-- The analysis or the configuration changed since the preflight. -/
def Execution.Drifted (execution : Execution) (configFingerprint : Sha256Digest)
    (opened : RuntimeSessionOpenResult) : Prop :=
  opened.applicability.applicabilityFingerprint ≠
      execution.applicability.applicabilityFingerprint ∨
    opened.artifact.runtimeConfigFingerprint ≠ configFingerprint

instance (execution : Execution) (configFingerprint : Sha256Digest)
    (opened : RuntimeSessionOpenResult) : Decidable (execution.Drifted configFingerprint opened) :=
  inferInstanceAs (Decidable (_ ∨ _))

/-- From the configuration to a managed session of the same analysis. -/
def Execution.openSession (execution : Execution) (rules : OpeningRules) (scenario : ScenarioId)
    (item : ScenarioInstance) :
    Steps String Report (RuntimeSessionOpenResult × ManagedRuntimeSession) := do
  let configFingerprint ← orReturn execution.managedConfig (.unverified .runtimeModeUnsupported)
  returnSome ((missingSecret rules.secrets).map Report.unverified)
  let opened ← orReturn execution.opened (.unverified .runtimeSessionUnavailable)
  opened.closeIf (execution.Drifted configFingerprint opened)
    (opened.unverified .staleApplicabilityAuthority rules.driftDiagnostics)
  opened.closeIf
    (scenarioInstance opened.applicability scenario execution.scenarioInstanceId ≠ some item)
    (opened.unverified rules.mismatch rules.mismatchDiagnostics)
  let session ← orReturn opened.managed?
    (opened.unverified .runtimeSessionUnavailable rules.sessionDiagnostics)
  pure (opened, session)

/-! ## Closing it -/

/-- What an executor knows once its session is closed. -/
structure ClosedSession where
  capabilityFingerprint : Sha256Digest
  sessionId : RuntimeSessionId
  requests : List RuntimeRequestResult
  transcript : RuntimeObservationTranscript
  diagnostics : List RuntimeCapabilityReasonCode
  /-- No request is recorded twice. -/
  requestsUnique : (requests.map (·.requestId)).Nodup

/-- The complete authority of a closed session. -/
def ClosedSession.runtime (closed : ClosedSession) : RuntimeReference :=
  { capabilityFingerprint := closed.capabilityFingerprint
    sessionId := closed.sessionId
    requestIds := closed.requests.map (·.requestId)
    transcriptFingerprint := some closed.transcript.transcriptFingerprint
    requestsUnique := closed.requestsUnique }

/-- An unverified report of a closed session. -/
def ClosedSession.unverified (closed : ClosedSession) (reason : ScenarioResultReasonCode)
    (inputReference : Option ScenarioSafeInputReference) : Report :=
  { verdict := .unverified reason
    runtime := some closed.runtime
    inputReference := inputReference
    diagnostics := closed.diagnostics }

/-- `_dispatch_managed_sequence` with the checks that follow it: the session is closed in any
case, and without its transcript there is only the report of an open session. -/
def RuntimeSessionOpenResult.dispatch (opened : RuntimeSessionOpenResult)
    (session : ManagedRuntimeSession) (ingress : Option IngressRuntimeBinding) (count : Nat)
    (untrusted : Dispatch → Report) : Steps String Report ClosedSession :=
  let sent := dispatchManagedSequence session ingress count
  match session.close sent.requests with
  | .error _ => .error (.returns (untrusted sent))
  | .ok transcript => .ok
    { capabilityFingerprint := opened.artifact.capabilityFingerprint
      sessionId := opened.artifact.assessmentSessionId
      requests := sent.requests
      transcript := transcript
      diagnostics := opened.artifact.diagnostics ++ transcript.diagnostics ++
        sent.failure.toList
      requestsUnique := dispatch_nodup session ingress count }

/-- The transcript does not agree with the capability of its session. -/
def ClosedSession.Mismatched (closed : ClosedSession) (artifact : RuntimeCapabilityArtifact) :
    Prop :=
  validateObservationTranscript artifact closed.transcript ≠ .ok ()

instance (closed : ClosedSession) (artifact : RuntimeCapabilityArtifact) :
    Decidable (closed.Mismatched artifact) :=
  inferInstanceAs (Decidable (_ ≠ _))

/-- The requests of the transcript are not exactly the dispatched ones. -/
def ClosedSession.Inexact (closed : ClosedSession) : Prop :=
  ¬ SequenceAuthorityIsExact closed.transcript closed.requests

instance (closed : ClosedSession) : Decidable closed.Inexact :=
  inferInstanceAs (Decidable (¬ _))

/-! ## Capabilities -/

/-- The capabilities of a control's customer value. -/
def customersOf (artifact : RuntimeCapabilityArtifact) (normalControlId : NormalControlId) :
    List CustomerValueRuntimeCapability :=
  artifact.customerValues.filter (·.target.normalControlId = normalControlId)

/-- A fresh managed session addresses the ingress and correlates its requests. -/
def CommonCapability (artifact : RuntimeCapabilityArtifact) (ingress : IngressRuntimeBinding) :
    Prop :=
  artifact.mode = .managed ∧ artifact.lifecycle = .ready ∧
    (∃ capability ∈ (single? (artifact.ingresses.filter (·.binding = ingress))).toList,
      capability.addressability = .complete ∧ capability.requestCorrelation = .complete) ∧
    artifact.isolation.freshProcess = .complete ∧
    artifact.isolation.observationReset = .complete

instance (artifact : RuntimeCapabilityArtifact) (ingress : IngressRuntimeBinding) :
    Decidable (CommonCapability artifact ingress) :=
  inferInstanceAs (Decidable (_ ∧ _ ∧ (∃ _ ∈ _, _) ∧ _ ∧ _))

/-- The lifecycle of a customer value is observed from its entry to its end. -/
def CustomerValueRuntimeCapability.Complete (capability : CustomerValueRuntimeCapability) : Prop :=
  capability.lifecycle = .complete ∧ capability.strength = some .entryAndTerminal

instance (capability : CustomerValueRuntimeCapability) : Decidable capability.Complete :=
  inferInstanceAs (Decidable (_ ∧ _))

/-- The customer value of a control when `_capability_is_sufficient`. -/
def sufficientCustomer? (artifact : RuntimeCapabilityArtifact)
    (normalControlId : NormalControlId) : Option CustomerValueRuntimeCapability :=
  (single? (customersOf artifact normalControlId)).filter fun customer =>
    CommonCapability artifact customer.target.ingress ∧ customer.Complete

end StateGuard
