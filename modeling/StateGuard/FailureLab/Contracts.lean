import StateGuard.Runtime.Contracts

/-!
# Scenario results

The result of one scenario assertion: the authority it rests on, the input that was sent,
the observations of each request, and the verdict.  The observation records carry the rules
of their own validators.  A summary keeps its sequences and reads its counts off them, so
the two cannot disagree; a mutation observation has at least one target and no target twice.

`validateResult` is the model validator of `ScenarioExecutionResult`: the checks common to
every scenario, then one validator a scenario, which derives again from the observations
which verdict and reason they admit.
-/

namespace StateGuard

open Checks

/-! ## Authority and input -/

/-- What a result rests on, with the rules of `validate_runtime_authority`. -/
structure ScenarioAuthorityReference where
  applicabilityFingerprint : Sha256Digest
  scenarioInstanceId : ScenarioInstanceId
  normalControlId : Option NormalControlId
  runtimeCapabilityFingerprint : Option Sha256Digest
  runtimeSessionId : Option RuntimeSessionId
  runtimeRequestIds : List RuntimeRequestId
  transcriptFingerprint : Option Sha256Digest
  /-- Requests need a session. -/
  requestsNeedSession : runtimeRequestIds ≠ [] → runtimeSessionId.isSome
  /-- No request occurs twice. -/
  requestsUnique : runtimeRequestIds.Nodup
  /-- A transcript needs a capability and a session. -/
  transcriptNeedsAuthority : transcriptFingerprint.isSome →
    runtimeCapabilityFingerprint.isSome ∧ runtimeSessionId.isSome
  deriving DecidableEq

/-- The input of one captured webhook. -/
structure ScenarioInputReference where
  fixtureFingerprint : Sha256Digest
  rawBodyFingerprint : Sha256Digest
  syntheticEventId : String
  path : String
  deriving DecidableEq, Repr

/-- The grounding of an input taken from a test resource. -/
structure InputGrounding where
  groundingFingerprint : Sha256Digest
  sanitizedProjectionFingerprint : Sha256Digest
  deriving DecidableEq, Repr

/-- One event of a webhook sequence. -/
structure WebhookEventReference where
  fixtureFingerprint : Sha256Digest
  rawBodyFingerprint : Sha256Digest
  syntheticEventId : String
  deriving DecidableEq, Repr

/-- The captured event and the stale authorised one, in that order. -/
structure WebhookSequenceInputReference where
  contextFingerprint : Sha256Digest
  path : String
  capturedControl : WebhookEventReference
  staleAuthorized : WebhookEventReference
  /-- The two events are different events. -/
  distinctEvents : capturedControl.syntheticEventId ≠ staleAuthorized.syntheticEventId
  deriving DecidableEq

/-- The tampered callback and its valid control, in that order. -/
structure CheckoutSequenceInputReference where
  transport : CheckoutRequestTransport
  path : String
  paymentContextFingerprint : Sha256Digest
  tampered : Sha256Digest
  validControl : Sha256Digest
  deriving DecidableEq, Repr

/-- The policy a late-authorisation input was built for. -/
structure LateAuthorisationPolicyReference where
  fulfilment : FulfilmentPolicy
  fulfilmentEvidenceFingerprint : Sha256Digest
  lateAuthorisation : LateAuthorisationPolicy
  lateAuthorisationEvidenceFingerprint : Sha256Digest
  deriving DecidableEq, Repr

/-- The modelled late authorisation, and the captured control when the policy calls for it.
The fields carry `validate_sequence`: the control belongs to one policy only, and the two
events are different events. -/
structure LateAuthorisationInputReference where
  contextFingerprint : Sha256Digest
  policy : LateAuthorisationPolicyReference
  path : String
  modeledLateAuthorized : WebhookEventReference
  capturedThresholdControl : Option WebhookEventReference
  /-- Only this policy admits the captured control. -/
  controlPolicy : capturedThresholdControl.isSome →
    policy.fulfilment = .captureRequired ∧ policy.lateAuthorisation = .fulfilLater
  /-- The two events are different events. -/
  distinctEvents : ∀ control ∈ capturedThresholdControl,
    modeledLateAuthorized.syntheticEventId ≠ control.syntheticEventId
  deriving DecidableEq

/-- How many events a late-authorisation input sends. -/
def LateAuthorisationInputReference.eventCount (input : LateAuthorisationInputReference) : Nat :=
  if input.capturedThresholdControl.isSome then 2 else 1

/-- The input references a result may carry. -/
inductive ScenarioSafeInputReference where
  | scenarioInput (input : ScenarioInputReference)
  | groundedScenarioInput (input : ScenarioInputReference) (grounding : InputGrounding)
  | webhookSequenceInput (input : WebhookSequenceInputReference)
  | checkoutSequenceInput (input : CheckoutSequenceInputReference)
  | lateAuthorisationInput (input : LateAuthorisationInputReference)
  deriving DecidableEq

namespace ScenarioSafeInputReference

def isGrounded : ScenarioSafeInputReference → Bool
  | .groundedScenarioInput _ _ => true
  | _ => false

/-- A grounded input is a scenario input too. -/
def isScenarioInput : ScenarioSafeInputReference → Bool
  | .scenarioInput _ | .groundedScenarioInput _ _ => true
  | _ => false

def isWebhookSequence : ScenarioSafeInputReference → Bool
  | .webhookSequenceInput _ => true
  | _ => false

def isCheckoutSequence : ScenarioSafeInputReference → Bool
  | .checkoutSequenceInput _ => true
  | _ => false

def lateAuthorisation? : ScenarioSafeInputReference → Option LateAuthorisationInputReference
  | .lateAuthorisationInput input => some input
  | _ => none

end ScenarioSafeInputReference

/-! ## Observations -/

/-- An injected acknowledgement failure, with the bounds of its fields. -/
structure AcknowledgementFailureObservation where
  acknowledgementNodeId : GraphNodeId
  originalStatusCode : Nat
  injectionSequence : Nat
  /-- The original status was a success. -/
  originalSuccess : Success2xx originalStatusCode
  /-- Sequences start at one. -/
  positiveSequence : 1 ≤ injectionSequence
  deriving DecidableEq

/-- What one request did to the customer-value target. -/
structure CustomerTargetObservationSummary where
  enteredSequences : List Nat
  returnedNormallySequences : List Nat
  exceptionEscapedSequences : List Nat
  requestReceivedSequences : List Nat
  responseCompletedSequences : List Nat
  requestAbortedSequences : List Nat
  httpStatusCode : Option Nat
  /-- The status is within its bounds. -/
  statusInRange : OptionalStatusInRange httpStatusCode
  deriving DecidableEq

namespace CustomerTargetObservationSummary

variable (summary : CustomerTargetObservationSummary)

def enteredCount : Nat := summary.enteredSequences.length

def returnedNormallyCount : Nat := summary.returnedNormallySequences.length

def exceptionEscapedCount : Nat := summary.exceptionEscapedSequences.length

/-- The request reached the application exactly once. -/
def ReceivedOnce : Prop := summary.requestReceivedSequences.length = 1

/-- The application answered exactly once and the request was not aborted. -/
def CompletedOnce : Prop :=
  summary.responseCompletedSequences.length = 1 ∧ summary.requestAbortedSequences = []

/-- `_normal_first_delivery`. -/
def NormalFirstDelivery : Prop :=
  summary.ReceivedOnce ∧ summary.enteredCount = 1 ∧ summary.returnedNormallyCount = 1 ∧
    summary.exceptionEscapedCount = 0 ∧ summary.CompletedOnce ∧
    SuccessStatus summary.httpStatusCode

instance : Decidable summary.ReceivedOnce := inferInstanceAs (Decidable (_ = _))

instance : Decidable summary.CompletedOnce := inferInstanceAs (Decidable (_ ∧ _))

instance : Decidable summary.NormalFirstDelivery :=
  inferInstanceAs (Decidable (_ ∧ _ ∧ _ ∧ _ ∧ _ ∧ _))

end CustomerTargetObservationSummary

/-- The customer-value observation of one request. -/
structure ScenarioRequestObservation where
  requestId : RuntimeRequestId
  observations : CustomerTargetObservationSummary
  acknowledgementFailure : Option AcknowledgementFailureObservation
  deriving DecidableEq

/-- What one request did to one mutation. -/
structure MutationTargetObservationSummary where
  mutationNodeId : GraphNodeId
  reachedSequences : List Nat
  completedNormallySequences : List Nat
  raisedSequences : List Nat
  deriving DecidableEq, Repr

namespace MutationTargetObservationSummary

variable (target : MutationTargetObservationSummary)

def reachedCount : Nat := target.reachedSequences.length

def completedNormallyCount : Nat := target.completedNormallySequences.length

def raisedCount : Nat := target.raisedSequences.length

/-- The request did not touch the mutation. -/
def Untouched : Prop :=
  target.reachedCount = 0 ∧ target.completedNormallyCount = 0 ∧ target.raisedCount = 0

/-- Every time the request reached the mutation, the mutation completed. -/
def CompletedWhenReached : Prop :=
  1 ≤ target.reachedCount ∧ target.completedNormallyCount = target.reachedCount ∧
    target.raisedCount = 0

instance : Decidable target.Untouched := inferInstanceAs (Decidable (_ ∧ _ ∧ _))

instance : Decidable target.CompletedWhenReached := inferInstanceAs (Decidable (_ ∧ _ ∧ _))

end MutationTargetObservationSummary

/-- The mutation observation of one request, with the rules of `validate_targets`. -/
structure MutationScenarioRequestObservation where
  requestId : RuntimeRequestId
  mutationTargets : List MutationTargetObservationSummary
  requestReceivedSequences : List Nat
  responseCompletedSequences : List Nat
  requestAbortedSequences : List Nat
  httpStatusCode : Option Nat
  /-- At least one target is observed. -/
  targetsNonempty : mutationTargets ≠ []
  /-- No target is observed twice. -/
  targetsUnique : (mutationTargets.map (·.mutationNodeId)).Nodup
  /-- The status is within its bounds. -/
  statusInRange : OptionalStatusInRange httpStatusCode
  deriving DecidableEq

namespace MutationScenarioRequestObservation

variable (observation : MutationScenarioRequestObservation)

/-- The observed targets, in order. -/
def targetIds : List GraphNodeId := observation.mutationTargets.map (·.mutationNodeId)

/-- The request reached the application exactly once. -/
def ReceivedOnce : Prop := observation.requestReceivedSequences.length = 1

/-- The application answered exactly once and the request was not aborted. -/
def CompletedOnce : Prop :=
  observation.responseCompletedSequences.length = 1 ∧ observation.requestAbortedSequences = []

/-- Some target completed. -/
def SomeCompleted : Prop :=
  ∃ target ∈ observation.mutationTargets, 0 < target.completedNormallyCount

/-- No target was touched. -/
def AllUntouched : Prop := ∀ target ∈ observation.mutationTargets, target.Untouched

/-- Every target completed whenever it was reached, and was reached. -/
def AllCompletedWhenReached : Prop :=
  ∀ target ∈ observation.mutationTargets, target.CompletedWhenReached

/-- The lifecycle of a valid control. -/
def NormalControl : Prop :=
  observation.ReceivedOnce ∧ observation.CompletedOnce ∧
    SuccessStatus observation.httpStatusCode ∧ observation.AllCompletedWhenReached

instance : Decidable observation.ReceivedOnce := inferInstanceAs (Decidable (_ = _))

instance : Decidable observation.CompletedOnce := inferInstanceAs (Decidable (_ ∧ _))

instance : Decidable observation.SomeCompleted := inferInstanceAs (Decidable (∃ _ ∈ _, _))

instance : Decidable observation.AllUntouched := inferInstanceAs (Decidable (∀ _ ∈ _, _))

instance : Decidable observation.AllCompletedWhenReached :=
  inferInstanceAs (Decidable (∀ _ ∈ _, _))

instance : Decidable observation.NormalControl := inferInstanceAs (Decidable (_ ∧ _ ∧ _ ∧ _))

end MutationScenarioRequestObservation

/-- The two kinds of request observation. -/
inductive ScenarioObservation where
  | customer (observation : ScenarioRequestObservation)
  | mutation (observation : MutationScenarioRequestObservation)
  deriving DecidableEq

namespace ScenarioObservation

def requestId : ScenarioObservation → RuntimeRequestId
  | .customer observation => observation.requestId
  | .mutation observation => observation.requestId

def customer? : ScenarioObservation → Option ScenarioRequestObservation
  | .customer observation => some observation
  | .mutation _ => none

def mutation? : ScenarioObservation → Option MutationScenarioRequestObservation
  | .customer _ => none
  | .mutation observation => some observation

end ScenarioObservation

/-! ## The result -/

/-- Everything a result states, which is also what its fingerprint is taken of. -/
structure ScenarioResultPayload where
  schemaVersion : Nat
  executionId : ScenarioExecutionId
  scenarioId : ScenarioId
  scenarioDefinitionFingerprint : Sha256Digest
  assertionId : AssertionId
  authority : ScenarioAuthorityReference
  inputReference : Option ScenarioSafeInputReference
  requestObservations : List ScenarioObservation
  result : VerificationResultState
  evidenceTier : Option EvidenceTier
  reason : ScenarioResultReasonCode
  runtimeDiagnostics : List RuntimeCapabilityReasonCode
  deriving DecidableEq

/-- The persisted result: its contents and their fingerprint. -/
structure ScenarioExecutionResult extends ScenarioResultPayload where
  resultFingerprint : Sha256Digest
  deriving DecidableEq

namespace ScenarioResultPayload

variable (r : ScenarioResultPayload)

/-- The customer-value observations, in order. -/
def customers : List ScenarioRequestObservation := r.requestObservations.filterMap (·.customer?)

/-- The mutation observations, in order. -/
def mutations : List MutationScenarioRequestObservation :=
  r.requestObservations.filterMap (·.mutation?)

/-- Every observation is a customer-value one. -/
def AllCustomer : Prop := ∀ item ∈ r.requestObservations, item.customer?.isSome

/-- Every observation is a mutation one. -/
def AllMutation : Prop := ∀ item ∈ r.requestObservations, item.mutation?.isSome

instance : Decidable r.AllCustomer := inferInstanceAs (Decidable (∀ _ ∈ _, _))

instance : Decidable r.AllMutation := inferInstanceAs (Decidable (∀ _ ∈ _, _))

/-- The result was reached by execution. -/
def verified : Bool := r.result.verified

/-- The customer-control authority that `validate_result` asks of one scenario before it
hands the summaries on. -/
def requireCustomerControl (controlMessage observationMessage : String) :
    Except String Unit := do
  raiseIf ((r.verified = true ∨ r.requestObservations ≠ []) ∧ r.authority.normalControlId = none)
    controlMessage
  raiseIf (¬ r.AllCustomer) observationMessage

/-! ### One validator a scenario -/

/-- `_validate_sg01`. -/
def validateSg01 : Except String Unit := do
  r.requireCustomerControl "SG-01 requires exact customer-control authority"
    "SG-01 requires exact customer-control observations"
  let summaries := r.customers.map (·.observations)
  raiseIf (r.verified = true ∧ summaries.length ≠ 1)
    "verified SG-01 results require exactly one request"
  raiseIf (r.result = .verifiedPass ∧
      (r.reason ≠ .exactTargetEnteredOnce ∨
        ¬ ∃ first ∈ summaries.head?, first.NormalFirstDelivery))
    "verified SG-01 pass must match exact normal lifecycle evidence"
  raiseIf (r.result = .verifiedFail ∧
      (r.reason ≠ .exactTargetEnteredMultipleTimes ∨
        ¬ ∃ first ∈ summaries.head?, 1 < first.enteredCount ∧ first.ReceivedOnce))
    "verified SG-01 fail requires multiple exact target entries"

/-- `_validate_sg02`. -/
def validateSg02 : Except String Unit := do
  r.requireCustomerControl "SG-02 requires exact customer-control authority"
    "SG-02 requires exact customer-control observations"
  let summaries := r.customers.map (·.observations)
  raiseIf (r.verified = true ∧ summaries.length ≠ 2)
    "verified SG-02 results require exactly two requests"
  raiseIf (r.verified = true ∧ ∃ item ∈ summaries, ¬ item.ReceivedOnce)
    "verified SG-02 results require both correlated deliveries"
  match summaries with
  | [first, second] =>
    raiseIf (r.result = .verifiedPass ∧
        (r.reason ≠ .duplicateDeliveryAddedNoTargetEntry ∨
          ¬ (first.NormalFirstDelivery ∧ second.ReceivedOnce ∧ second.enteredCount = 0 ∧
            second.CompletedOnce)))
      "verified SG-02 pass must match the duplicate sequence invariant"
    raiseIf (r.result = .verifiedFail ∧
        ¬ (r.reason = .normalControlMultipleTargetEntries ∧ first.ReceivedOnce ∧
              1 < first.enteredCount ∨
            r.reason = .duplicateDeliveryAddedTargetEntry ∧ first.NormalFirstDelivery ∧
              second.ReceivedOnce ∧ 0 < second.enteredCount))
      "verified SG-02 fail reason must identify the delivery that added entries"
  | _ =>
    raiseIf (r.result = .verifiedPass)
      "verified SG-02 pass must match the duplicate sequence invariant"
    raiseIf (r.result = .verifiedFail)
      "verified SG-02 fail reason must identify the delivery that added entries"

/-- The injected failure lies after every normal return and before the response. -/
def InjectionExact (first retry : ScenarioRequestObservation) : Prop :=
  ∃ injection ∈ first.acknowledgementFailure,
    retry.acknowledgementFailure = none ∧
      first.observations.httpStatusCode = some 503 ∧
      first.observations.returnedNormallySequences ≠ [] ∧
      (∀ sequence ∈ first.observations.returnedNormallySequences,
        sequence < injection.injectionSequence) ∧
      first.observations.responseCompletedSequences ≠ [] ∧
      ∀ sequence ∈ first.observations.responseCompletedSequences,
        injection.injectionSequence < sequence

instance (first retry : ScenarioRequestObservation) : Decidable (InjectionExact first retry) :=
  match present : first.acknowledgementFailure with
  | none => .isFalse (by simp [InjectionExact, present])
  | some injection =>
    decidable_of_iff
      (retry.acknowledgementFailure = none ∧
        first.observations.httpStatusCode = some 503 ∧
        first.observations.returnedNormallySequences ≠ [] ∧
        (∀ sequence ∈ first.observations.returnedNormallySequences,
          sequence < injection.injectionSequence) ∧
        first.observations.responseCompletedSequences ≠ [] ∧
        ∀ sequence ∈ first.observations.responseCompletedSequences,
          injection.injectionSequence < sequence)
      (by simp [InjectionExact, present])

/-- The first delivery entered the target once and returned. -/
def EnteredAndReturnedOnce (summary : CustomerTargetObservationSummary) : Prop :=
  summary.enteredCount = 1 ∧ summary.returnedNormallyCount = 1 ∧
    summary.exceptionEscapedCount = 0

instance (summary : CustomerTargetObservationSummary) :
    Decidable (EnteredAndReturnedOnce summary) := inferInstanceAs (Decidable (_ ∧ _ ∧ _))

/-- `_validate_sg03`. -/
def validateSg03 : Except String Unit := do
  r.requireCustomerControl "SG-03 requires exact customer-control authority"
    "SG-03 requires exact customer-control observations"
  raiseIf (r.verified = true ∧
      (r.customers.length ≠ 2 ∨ ¬ ∃ input ∈ r.inputReference, input.isScenarioInput = true))
    "verified SG-03 requires exact two-delivery authority"
  match r.verified, r.customers with
  | true, [first, retry] =>
    raiseIf (¬ InjectionExact first retry)
      "verified SG-03 requires exact post-processing acknowledgement injection"
    raiseIf (r.result = .verifiedPass ∧
        ¬ (r.reason = .modeledRetryAddedNoTargetEntry ∧
          EnteredAndReturnedOnce first.observations ∧
          retry.observations.enteredCount = 0 ∧ retry.observations.ReceivedOnce ∧
          retry.observations.CompletedOnce ∧ SuccessStatus retry.observations.httpStatusCode))
      "verified SG-03 pass must match the modeled retry invariant"
    raiseIf (r.result = .verifiedFail ∧
        ¬ (r.reason = .initialDeliveryMultipleTargetEntries ∧
              1 < first.observations.enteredCount ∨
            r.reason = .modeledRetryAddedTargetEntry ∧
              EnteredAndReturnedOnce first.observations ∧
              0 < retry.observations.enteredCount))
      "verified SG-03 failure must retain exact delivery attribution"
  | _, _ => .ok ()

/-- `_validate_sg05` on two customer-value observations. -/
def validateSg05Customer (rejected control : CustomerTargetObservationSummary) :
    Except String Unit := do
  raiseIf (r.result = .verifiedFail ∧
      (r.reason ≠ .rejectedSignatureAddedCustomerTargetEntry ∨ ¬ rejected.ReceivedOnce ∨
        rejected.enteredCount = 0))
    "verified SG-05 customer fail requires rejected-request entry"
  raiseIf (r.result = .verifiedPass ∧
      (r.reason ≠ .rejectedSignatureAddedNoCustomerTargetEntry ∨
        ¬ (rejected.ReceivedOnce ∧ rejected.enteredCount = 0 ∧
          rejected.returnedNormallyCount = 0 ∧ rejected.exceptionEscapedCount = 0 ∧
          rejected.CompletedOnce) ∨
        ¬ control.NormalFirstDelivery))
    "verified SG-05 customer pass requires differential control"

/-- `_validate_sg05` on two mutation observations.  The last check is reached by a pass
only, since a failure has returned before it. -/
def validateSg05Mutation (rejected control : MutationScenarioRequestObservation) :
    Except String Unit := do
  raiseIf (r.authority.normalControlId ≠ none)
    "verified SG-05 mutation result cannot borrow a normal control"
  raiseIf (rejected.targetIds ≠ control.targetIds)
    "SG-05 mutation observations must retain exact ordered targets"
  if r.result = .verifiedFail then
    raiseIf (r.reason ≠ .rejectedSignatureCompletedMutation ∨ ¬ rejected.ReceivedOnce ∨
        ¬ rejected.SomeCompleted)
      "verified SG-05 mutation fail requires exact completion"
  else
    raiseIf (r.reason ≠ .rejectedSignatureAddedNoMutation ∨
        ¬ (rejected.ReceivedOnce ∧ rejected.AllUntouched ∧ rejected.CompletedOnce) ∨
        ¬ control.NormalControl)
      "verified SG-05 mutation pass requires differential control"

/-- `_validate_sg05`. -/
def validateSg05 : Except String Unit := do
  raiseIf (r.verified = true ∧ r.requestObservations.length ≠ 2)
    "verified SG-05 results require rejected and control requests"
  if r.verified = false ∨ r.requestObservations = [] then
    .ok ()
  else do
    raiseIf (r.AllCustomer ↔ r.AllMutation)
      "verified SG-05 result must carry one exact assertion observation type"
    match r.customers, r.mutations with
    | [rejected, control], _ =>
      raiseIf (r.authority.normalControlId = none)
        "verified SG-05 customer result requires a normal control"
      r.validateSg05Customer rejected.observations control.observations
    | _, [rejected, control] => r.validateSg05Mutation rejected control
    | _, _ => .error "not enough values to unpack"

/-- `_validate_sg04` on two customer-value observations. -/
def validateSg04Customer (first second : CustomerTargetObservationSummary) :
    Except String Unit := do
  raiseIf (r.result = .verifiedPass ∧
      ¬ (r.reason = .staleAuthorizedAddedNoTargetEntry ∧ first.NormalFirstDelivery ∧
        second.ReceivedOnce ∧ second.enteredCount = 0 ∧ second.CompletedOnce))
    "verified SG-04 pass must prove the stale event added no value"
  raiseIf (r.result = .verifiedFail ∧
      ¬ (r.reason = .outOfOrderControlMultipleTargetEntries ∧ 1 < first.enteredCount ∨
          r.reason = .staleAuthorizedAddedTargetEntry ∧ first.NormalFirstDelivery ∧
            0 < second.enteredCount))
    "verified SG-04 fail must retain delivery attribution"

/-- `_validate_sg04` on two mutation observations. -/
def validateSg04Mutation (first second : MutationScenarioRequestObservation) :
    Except String Unit := do
  raiseIf (r.result = .verifiedFail ∧
      ¬ (r.reason = .merchantStateRegressedToAuthorized ∧ second.SomeCompleted))
    "verified SG-04 regression requires a completed stale transition"
  raiseIf (r.result = .verifiedPass ∧
      ¬ (r.reason = .merchantStateDidNotRegress ∧ first.SomeCompleted ∧ second.AllUntouched))
    "verified SG-04 state pass requires a differential control"

/-- `_validate_sg04`. -/
def validateSg04 : Except String Unit := do
  raiseIf (r.verified = true ∧
      (r.requestObservations.length ≠ 2 ∨
        ¬ (∃ input ∈ r.inputReference, input.isWebhookSequence = true) ∨
        r.authority.normalControlId = none))
    "verified SG-04 requires exact two-request sequence authority"
  if r.verified = false ∨ r.requestObservations = [] then
    .ok ()
  else do
    raiseIf (r.AllCustomer ↔ r.AllMutation)
      "verified SG-04 requires one assertion observation type"
    match r.customers, r.mutations with
    | [first, second], _ => r.validateSg04Customer first.observations second.observations
    | _, [first, second] => r.validateSg04Mutation first second
    | _, _ => .error "not enough values to unpack"

/-- `_validate_sg06` on two customer-value observations. -/
def validateSg06Customer (tampered control : CustomerTargetObservationSummary) :
    Except String Unit := do
  raiseIf (r.result = .verifiedFail ∧
      ¬ (r.reason = .tamperedCallbackAddedCustomerTargetEntry ∧ 0 < tampered.enteredCount))
    "verified SG-06 fail requires tampered-request entry"
  raiseIf (r.result = .verifiedPass ∧
      ¬ (r.reason = .tamperedCallbackAddedNoCustomerTargetEntry ∧ tampered.enteredCount = 0 ∧
        tampered.responseCompletedSequences.length = 1 ∧ control.NormalFirstDelivery))
    "verified SG-06 pass requires a valid differential control"

/-- `_validate_sg06` on two mutation observations. -/
def validateSg06Mutation (tampered control : MutationScenarioRequestObservation) :
    Except String Unit := do
  raiseIf (r.result = .verifiedFail ∧
      ¬ (r.reason = .tamperedCallbackCompletedMutation ∧ tampered.SomeCompleted))
    "verified SG-06 mutation fail requires exact completion"
  raiseIf (r.result = .verifiedPass ∧
      ¬ (r.reason = .tamperedCallbackAddedNoMutation ∧ tampered.AllUntouched ∧
        control.AllCompletedWhenReached))
    "verified SG-06 mutation pass requires a valid control"

/-- `_validate_sg06`. -/
def validateSg06 : Except String Unit := do
  raiseIf (r.verified = true ∧
      (r.requestObservations.length ≠ 2 ∨
        ¬ ∃ input ∈ r.inputReference, input.isCheckoutSequence = true))
    "verified SG-06 requires tampered/control sequence authority"
  if r.verified = false ∨ r.requestObservations = [] then
    .ok ()
  else do
    raiseIf (r.AllCustomer ↔ r.AllMutation)
      "verified SG-06 requires one assertion observation type"
    match r.customers, r.mutations with
    | [tampered, control], _ =>
      raiseIf (r.authority.normalControlId = none)
        "verified SG-06 customer result requires exact control"
      r.validateSg06Customer tampered.observations control.observations
    | _, [tampered, control] => r.validateSg06Mutation tampered control
    | _, _ => .error "not enough values to unpack"

/-- `_validate_sg07`. -/
def validateSg07 : Except String Unit := do
  raiseIf (r.verified = true ∧
      (r.requestObservations.length ≠ 1 ∨
        ¬ (∃ input ∈ r.inputReference, input.isScenarioInput = true) ∨
        r.authority.normalControlId = none))
    "verified SG-07 requires one exact webhook request"
  if r.verified = false ∨ r.requestObservations = [] then
    .ok ()
  else do
    raiseIf (¬ r.AllCustomer) "SG-07 requires customer-value observations"
    match r.customers with
    | first :: _ =>
      raiseIf (r.result = .verifiedPass ∧
          ¬ (r.reason = .webhookOnlyTargetEnteredOnce ∧ first.observations.NormalFirstDelivery))
        "verified SG-07 pass requires one normal webhook-only outcome"
      raiseIf (r.result = .verifiedFail ∧
          ¬ (r.reason = .webhookOnlyTargetEnteredMultipleTimes ∧
            1 < first.observations.enteredCount))
        "verified SG-07 fail requires multiple exact entries"
    | [] => .error "no customer-value observation"

/-- The captured control of a late authorisation was delivered normally. -/
def CapturedNormal (captured : CustomerTargetObservationSummary) : Prop :=
  EnteredAndReturnedOnce captured ∧ captured.ReceivedOnce ∧ captured.CompletedOnce ∧
    SuccessStatus captured.httpStatusCode

instance (captured : CustomerTargetObservationSummary) : Decidable (CapturedNormal captured) :=
  inferInstanceAs (Decidable (_ ∧ _ ∧ _ ∧ _))

/-- `_validate_sg08` on the observations of a verified result. -/
def validateSg08Verdict : List CustomerTargetObservationSummary → Except String Unit
  | [] => .error "tuple index out of range"
  | authorized :: rest =>
    if r.result = .verifiedFail then
      raiseIf (¬ (r.reason = .authorizedExecutedBeforeCapture ∧ 0 < authorized.enteredCount ∨
          r.reason = .capturedThresholdMultipleTargetEntries ∧
            ∃ captured ∈ rest.head?, rest.length = 1 ∧ 1 < captured.enteredCount))
        "verified SG-08 fail must retain authorization/capture attribution"
    else
      match rest with
      | [captured] =>
        raiseIf (¬ (authorized.enteredCount = 0 ∧ CapturedNormal captured ∧
            r.reason ∈ [ScenarioResultReasonCode.authorizedAddedNoTargetEntry,
              .capturedThresholdTargetEnteredOnce]))
          "verified SG-08 pass requires the captured differential control"
      | _ => .error "verified SG-08 pass requires the captured differential control"

/-- `_validate_sg08`. -/
def validateSg08 : Except String Unit := do
  r.requireCustomerControl "SG-08 requires exact customer-control authority"
    "SG-08 requires customer-value observations"
  if r.verified = false then
    .ok ()
  else
    match r.inputReference.bind (·.lateAuthorisation?) with
    | none => .error "verified SG-08 requires modeled late-authorisation input authority"
    | some input => do
      raiseIf (input.policy.fulfilment ≠ .captureRequired)
        "authorized-allowed late assertions require merchant late-context authority"
      raiseIf (r.customers.length ≠ input.eventCount)
        "verified SG-08 observations must match the policy input sequence"
      r.validateSg08Verdict (r.customers.map (·.observations))

/-- The validator of the result's own scenario. -/
def validateScenario : Except String Unit :=
  match r.scenarioId with
  | .sg01 => r.validateSg01
  | .sg02 => r.validateSg02
  | .sg03 => r.validateSg03
  | .sg04 => r.validateSg04
  | .sg05 => r.validateSg05
  | .sg06 => r.validateSg06
  | .sg07 => r.validateSg07
  | .sg08 => r.validateSg08

/-- The requests the observations belong to. -/
def observationIds : List RuntimeRequestId := r.requestObservations.map (·.requestId)

/-- Everything a verified result must rest on. -/
def CompleteAuthority : Prop :=
  r.authority.runtimeCapabilityFingerprint.isSome ∧ r.authority.runtimeSessionId.isSome ∧
    r.authority.transcriptFingerprint.isSome ∧ r.inputReference.isSome ∧
    r.observationIds = r.authority.runtimeRequestIds

instance : Decidable r.CompleteAuthority :=
  inferInstanceAs (Decidable (_ ∧ _ ∧ _ ∧ _ ∧ _))

/-- The checks `validate_result` makes of every scenario. -/
def validateCommon : Except String Unit := do
  raiseIf (¬ (r.verified = true ↔ r.evidenceTier = some .e3DynamicVerified))
    "only verified offline scenario results may carry E3"
  raiseIf (r.evidenceTier = some .e4RazorpayGrounded)
    "offline scenario execution cannot carry E4"
  raiseIf ((∃ input ∈ r.inputReference, input.isGrounded = true) ∧
      (r.schemaVersion ≠ 3 ∨ r.scenarioId ≠ .sg01))
    "resource-grounded synthetic input is valid only for SG-01 schema v3"
  raiseIf (r.observationIds ≠ r.authority.runtimeRequestIds.take r.observationIds.length)
    "ordered request observations must match runtime request authority"
  raiseIf (r.requestObservations ≠ [] ∧ r.inputReference = none)
    "request observations require one shared event input reference"
  raiseIf (r.verified = true ∧ ¬ r.CompleteAuthority)
    "verified results require complete dynamic authority"
  raiseIf (r.scenarioId ≠ .sg03 ∧ ∃ item ∈ r.customers, item.acknowledgementFailure ≠ none)
    "acknowledgement failure evidence is valid only for SG-03"

end ScenarioResultPayload

/-- `validate_result`. -/
def ScenarioExecutionResult.validateResult (fingerprint : ScenarioResultPayload → Sha256Digest)
    (r : ScenarioExecutionResult) : Except String Unit := do
  r.toScenarioResultPayload.validateCommon
  r.toScenarioResultPayload.validateScenario
  raiseIf (r.resultFingerprint ≠ fingerprint r.toScenarioResultPayload)
    "scenario result fingerprint must match artifact contents"

end StateGuard
