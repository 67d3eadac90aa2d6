import StateGuard.FailureLab.Contracts

/-!
# Summaries and reducers

How a transcript becomes a verdict.  A summary collects, for one request, the sequence
numbers of the events of each kind; a reducer reads one or two summaries and returns the
verdict of one scenario.  Each scenario keeps the source's order of tests in a namespace of
its own, and `Sg01.evaluateObservations` is the normal control the others build on.

A summary fails to build only when the response status is out of range, and an acknowledgement
observation never does on a valid transcript.
-/

namespace StateGuard

open Checks

/-! ## Summaries -/

/-- The sequence numbers of one request's events that satisfy a predicate. -/
def sequencesWhere (events : List RuntimeObservationEvent) (requestId : RuntimeRequestId)
    (selects : RuntimeObservationEvent → Prop) [DecidablePred selects] : List Nat :=
  ((events.filter (·.requestId = requestId)).filter (selects ·)).map (·.sequence)

/-- The sequence numbers of one request's events of a kind. -/
def sequencesOfKind (events : List RuntimeObservationEvent) (requestId : RuntimeRequestId)
    (kind : RuntimeObservationKind) : List Nat :=
  sequencesWhere events requestId (·.kind = kind)

/-- The sequence numbers of one request's events of a kind for one control. -/
def controlSequences (events : List RuntimeObservationEvent) (requestId : RuntimeRequestId)
    (controlId : NormalControlId) (kind : RuntimeObservationKind) : List Nat :=
  sequencesWhere events requestId fun event =>
    event.kind = kind ∧ event.normalControlId = some controlId

/-- The sequence numbers of one request's events of a kind for one mutation node. -/
def mutationSequences (events : List RuntimeObservationEvent) (requestId : RuntimeRequestId)
    (nodeId : GraphNodeId) (kind : RuntimeObservationKind) : List Nat :=
  sequencesWhere events requestId fun event =>
    event.kind = kind ∧ event.mutationNodeId = some nodeId

/-- `summarize_observations`. -/
def summarizeObservations (events : List RuntimeObservationEvent)
    (requestId : RuntimeRequestId) (controlId : NormalControlId) (httpStatusCode : Nat) :
    Except String CustomerTargetObservationSummary :=
  if statusInRange : OptionalStatusInRange (some httpStatusCode) then
    .ok
      { enteredSequences := controlSequences events requestId controlId .customerValueEntered
        returnedNormallySequences :=
          controlSequences events requestId controlId .customerValueReturnedNormally
        exceptionEscapedSequences :=
          controlSequences events requestId controlId .customerValueExceptionEscaped
        requestReceivedSequences := sequencesOfKind events requestId .requestReceived
        responseCompletedSequences := sequencesOfKind events requestId .responseCompleted
        requestAbortedSequences := sequencesOfKind events requestId .requestAborted
        httpStatusCode := some httpStatusCode
        statusInRange := statusInRange }
  else .error "http status code must be within 100 and 599"

/-- One target of `summarize_mutation_observations`. -/
def mutationTargetOf (events : List RuntimeObservationEvent) (requestId : RuntimeRequestId)
    (nodeId : GraphNodeId) : MutationTargetObservationSummary :=
  { mutationNodeId := nodeId
    reachedSequences :=
      mutationSequences events requestId nodeId .merchantAssignmentInstructionReached
    completedNormallySequences :=
      mutationSequences events requestId nodeId .merchantAssignmentInstructionCompletedNormally
    raisedSequences :=
      mutationSequences events requestId nodeId .merchantAssignmentInstructionRaised }

@[simp]
theorem mutationTargetOf_mutationNodeId (events : List RuntimeObservationEvent)
    (requestId : RuntimeRequestId) (nodeId : GraphNodeId) :
    (mutationTargetOf events requestId nodeId).mutationNodeId = nodeId := rfl

theorem mutationTargetOf_ids (events : List RuntimeObservationEvent)
    (requestId : RuntimeRequestId) (nodeIds : List GraphNodeId) :
    (nodeIds.map (mutationTargetOf events requestId)).map (·.mutationNodeId) = nodeIds := by
  rw [List.map_map]
  exact List.map_id _

/-- `summarize_mutation_observations`. -/
def summarizeMutationObservations (events : List RuntimeObservationEvent)
    (requestId : RuntimeRequestId) (nodeIds : List GraphNodeId) (httpStatusCode : Nat) :
    Except String MutationScenarioRequestObservation :=
  if targetsNonempty : nodeIds ≠ [] then
    if targetsUnique : nodeIds.Nodup then
      if statusInRange : OptionalStatusInRange (some httpStatusCode) then
        .ok
          { requestId := requestId
            mutationTargets := nodeIds.map (mutationTargetOf events requestId)
            requestReceivedSequences := sequencesOfKind events requestId .requestReceived
            responseCompletedSequences := sequencesOfKind events requestId .responseCompleted
            requestAbortedSequences := sequencesOfKind events requestId .requestAborted
            httpStatusCode := some httpStatusCode
            targetsNonempty := by simpa using targetsNonempty
            targetsUnique := by rw [mutationTargetOf_ids]; exact targetsUnique
            statusInRange := statusInRange }
      else .error "http status code must be within 100 and 599"
    else .error "mutation request observations require unique exact targets"
  else .error "mutation request observations require at least one target"

/-- The events that carry one exact injected failure. -/
def injectionMatches (events : List RuntimeObservationEvent) (requestId : RuntimeRequestId)
    (acknowledgementNodeId : GraphNodeId) : List RuntimeObservationEvent :=
  events.filter fun event =>
    event.requestId = requestId ∧ event.kind = .acknowledgementFailureInjected ∧
      event.acknowledgementNodeId = some acknowledgementNodeId ∧
      event.originalStatusCode.isSome = true ∧ event.statusCode = some 503

/-- The observation of one injected failure. -/
def acknowledgementObservation (acknowledgementNodeId : GraphNodeId)
    (event : RuntimeObservationEvent) : Except String AcknowledgementFailureObservation :=
  match event.originalStatusCode with
  | none => .error "injected acknowledgement has no original status"
  | some code =>
    if originalSuccess : Success2xx code then
      if positiveSequence : 1 ≤ event.sequence then
        .ok
          { acknowledgementNodeId := acknowledgementNodeId
            originalStatusCode := code
            injectionSequence := event.sequence
            originalSuccess := originalSuccess
            positiveSequence := positiveSequence }
      else .error "injection sequence must be at least 1"
    else .error "original status code must be within 200 and 299"

/-- `summarize_acknowledgement_failure`: exactly one matching event is an observation. -/
def summarizeAcknowledgementFailure (events : List RuntimeObservationEvent)
    (requestId : RuntimeRequestId) (acknowledgementNodeId : GraphNodeId) :
    Except String (Option AcknowledgementFailureObservation) :=
  match injectionMatches events requestId acknowledgementNodeId with
  | [event] => some <$> acknowledgementObservation acknowledgementNodeId event
  | _ => .ok none

/-! ## Verdicts -/

/-- A state, its evidence tier and its reason. -/
structure Verdict where
  state : VerificationResultState
  tier : Option EvidenceTier
  reason : ScenarioResultReasonCode
  deriving DecidableEq, Repr

namespace Verdict

def unverified (reason : ScenarioResultReasonCode) : Verdict :=
  ⟨.unverified, none, reason⟩

def pass (reason : ScenarioResultReasonCode) : Verdict :=
  ⟨.verifiedPass, some .e3DynamicVerified, reason⟩

def fail (reason : ScenarioResultReasonCode) : Verdict :=
  ⟨.verifiedFail, some .e3DynamicVerified, reason⟩

end Verdict

namespace Sg01

/-- `sg01.evaluate_observations`. -/
def evaluateObservations (summary : CustomerTargetObservationSummary) : Verdict :=
  if ¬ summary.ReceivedOnce then
    .unverified .requestLifecycleUnproven
  else if 1 < summary.enteredCount then
    .fail .exactTargetEnteredMultipleTimes
  else if summary.enteredCount = 0 then
    .unverified .normalInputPreconditionUnproven
  else if summary.returnedNormallyCount ≠ 1 ∨ summary.exceptionEscapedCount ≠ 0 then
    .unverified .targetTerminalUnproven
  else if ¬ (summary.CompletedOnce ∧ SuccessStatus summary.httpStatusCode) then
    .unverified .requestLifecycleUnproven
  else
    .pass .exactTargetEnteredOnce

end Sg01

/-- The second delivery of a two-request customer sequence, once the first one was normal:
shared by the duplicate and the out-of-order scenarios. -/
def evaluateSecondDelivery (second : CustomerTargetObservationSummary)
    (added addedNone : ScenarioResultReasonCode) : Verdict :=
  if ¬ second.ReceivedOnce then
    .unverified .requestLifecycleUnproven
  else if 0 < second.enteredCount then
    .fail added
  else if second.returnedNormallyCount ≠ 0 ∨ second.exceptionEscapedCount ≠ 0 then
    .unverified .targetTerminalUnproven
  else if ¬ second.CompletedOnce then
    .unverified .requestLifecycleUnproven
  else
    .pass addedNone

/-- A normal first delivery followed by a second one. -/
def evaluateTwoDeliveries (first second : CustomerTargetObservationSummary)
    (multiple added addedNone : ScenarioResultReasonCode) : Verdict :=
  let firstResult := Sg01.evaluateObservations first
  if firstResult.state = .verifiedFail then
    .fail multiple
  else if firstResult.state ≠ .verifiedPass then
    firstResult
  else
    evaluateSecondDelivery second added addedNone

/-- `sg02.evaluate_sequence`. -/
def Sg02.evaluateSequence (first second : CustomerTargetObservationSummary) : Verdict :=
  evaluateTwoDeliveries first second .normalControlMultipleTargetEntries
    .duplicateDeliveryAddedTargetEntry .duplicateDeliveryAddedNoTargetEntry

namespace Sg03

/-- The injected failure precedes the only response of the only delivery. -/
def InjectionProven (first retry : ScenarioRequestObservation)
    (injection : AcknowledgementFailureObservation) : Prop :=
  retry.acknowledgementFailure = none ∧ first.observations.ReceivedOnce ∧
    first.observations.responseCompletedSequences ≠ [] ∧
    (∀ sequence ∈ first.observations.responseCompletedSequences,
      injection.injectionSequence < sequence) ∧
    first.observations.httpStatusCode = some 503 ∧
    first.observations.requestAbortedSequences = []

instance (first retry : ScenarioRequestObservation)
    (injection : AcknowledgementFailureObservation) :
    Decidable (InjectionProven first retry injection) :=
  inferInstanceAs (Decidable (_ ∧ _ ∧ _ ∧ _ ∧ _ ∧ _))

/-- Some normal return comes no earlier than the injected failure. -/
def ReturnedLate (summary : CustomerTargetObservationSummary)
    (injection : AcknowledgementFailureObservation) : Prop :=
  ∃ sequence ∈ summary.returnedNormallySequences, injection.injectionSequence ≤ sequence

instance (summary : CustomerTargetObservationSummary)
    (injection : AcknowledgementFailureObservation) : Decidable (ReturnedLate summary injection) :=
  inferInstanceAs (Decidable (∃ _ ∈ _, _))

/-- The verdict once the injected failure is known to precede the response. -/
def evaluateInjected (summary retry : CustomerTargetObservationSummary)
    (injection : AcknowledgementFailureObservation) : Verdict :=
  if ¬ retry.ReceivedOnce then
    .unverified .requestLifecycleUnproven
  else if 1 < summary.enteredCount then
    if summary.returnedNormallyCount ≠ summary.enteredCount ∨
        summary.exceptionEscapedCount ≠ 0 ∨ ReturnedLate summary injection then
      .unverified .targetTerminalUnproven
    else
      .fail .initialDeliveryMultipleTargetEntries
  else if summary.enteredCount = 0 then
    .unverified .normalInputPreconditionUnproven
  else if summary.returnedNormallyCount ≠ 1 ∨ summary.exceptionEscapedCount ≠ 0 then
    .unverified .targetTerminalUnproven
  else if ReturnedLate summary injection then
    .unverified .modeledAckFailureUnproven
  else if 0 < retry.enteredCount then
    .fail .modeledRetryAddedTargetEntry
  else if retry.returnedNormallyCount ≠ 0 ∨ retry.exceptionEscapedCount ≠ 0 then
    .unverified .targetTerminalUnproven
  else if ¬ (retry.CompletedOnce ∧ SuccessStatus retry.httpStatusCode) then
    .unverified .requestLifecycleUnproven
  else
    .pass .modeledRetryAddedNoTargetEntry

/-- `sg03.evaluate_sequence`. -/
def evaluateSequence (first retry : ScenarioRequestObservation) : Verdict :=
  match first.acknowledgementFailure with
  | none => .unverified .modeledAckFailureUnproven
  | some injection =>
    if InjectionProven first retry injection then
      evaluateInjected first.observations retry.observations injection
    else
      .unverified .modeledAckFailureUnproven

end Sg03

namespace Sg04

/-- `sg04.evaluate_customer_sequence`. -/
def evaluateCustomerSequence (captured authorized : CustomerTargetObservationSummary) :
    Verdict :=
  evaluateTwoDeliveries captured authorized .outOfOrderControlMultipleTargetEntries
    .staleAuthorizedAddedTargetEntry .staleAuthorizedAddedNoTargetEntry

/-- The observation of one node. -/
def targetFor (observation : MutationScenarioRequestObservation) (nodeId : GraphNodeId) :
    Option MutationTargetObservationSummary :=
  observation.mutationTargets.find? (·.mutationNodeId = nodeId)

/-- `sg04.evaluate_state_sequence`. -/
def evaluateStateSequence (captured authorized : MutationScenarioRequestObservation)
    (capturedNodeId authorizedNodeId : GraphNodeId) : Verdict :=
  if ¬ captured.ReceivedOnce ∨ ¬ authorized.ReceivedOnce then
    .unverified .requestLifecycleUnproven
  else
    match targetFor captured capturedNodeId, targetFor authorized authorizedNodeId with
    | some first, some stale =>
      if first.completedNormallyCount < 1 ∨ first.raisedCount ≠ 0 ∨
          first.reachedCount ≠ first.completedNormallyCount then
        .unverified .capturedStateControlUnproven
      else if 0 < stale.completedNormallyCount then
        .fail .merchantStateRegressedToAuthorized
      else if stale.reachedCount ≠ 0 ∨ stale.raisedCount ≠ 0 then
        .unverified .mutationOutcomeUnproven
      else if ¬ authorized.CompletedOnce then
        .unverified .requestLifecycleUnproven
      else
        .pass .merchantStateDidNotRegress
    | _, _ => .unverified .authorityMismatch

end Sg04

/-- A rejected request that must not enter the target, then a valid control: shared by the
forged-signature and the tampered-callback scenarios. -/
def evaluateRejectedCustomer (rejected control : CustomerTargetObservationSummary)
    (added controlUnproven addedNone : ScenarioResultReasonCode) : Verdict :=
  if ¬ rejected.ReceivedOnce then
    .unverified .requestLifecycleUnproven
  else if 0 < rejected.enteredCount then
    .fail added
  else if rejected.returnedNormallyCount ≠ 0 ∨ rejected.exceptionEscapedCount ≠ 0 then
    .unverified .targetTerminalUnproven
  else if ¬ rejected.CompletedOnce then
    .unverified .requestLifecycleUnproven
  else if (Sg01.evaluateObservations control).state ≠ .verifiedPass then
    .unverified controlUnproven
  else
    .pass addedNone

/-- A rejected request that must complete no mutation, then a valid control. -/
def evaluateRejectedMutation (rejected control : MutationScenarioRequestObservation)
    (completed controlUnproven addedNone : ScenarioResultReasonCode) : Verdict :=
  if rejected.targetIds ≠ control.targetIds then
    .unverified .authorityMismatch
  else if ¬ rejected.ReceivedOnce then
    .unverified .requestLifecycleUnproven
  else if rejected.SomeCompleted then
    .fail completed
  else if ∃ target ∈ rejected.mutationTargets, 0 < target.reachedCount ∨ 0 < target.raisedCount
  then
    .unverified .mutationOutcomeUnproven
  else if ¬ rejected.CompletedOnce then
    .unverified .requestLifecycleUnproven
  else if ¬ control.NormalControl then
    .unverified controlUnproven
  else
    .pass addedNone

namespace Sg05

/-- `sg05.evaluate_customer_sequence`. -/
def evaluateCustomerSequence (rejected control : CustomerTargetObservationSummary) : Verdict :=
  evaluateRejectedCustomer rejected control .rejectedSignatureAddedCustomerTargetEntry
    .validSignatureControlUnproven .rejectedSignatureAddedNoCustomerTargetEntry

/-- `sg05.evaluate_mutation_sequence`. -/
def evaluateMutationSequence (rejected control : MutationScenarioRequestObservation) :
    Verdict :=
  evaluateRejectedMutation rejected control .rejectedSignatureCompletedMutation
    .validSignatureControlUnproven .rejectedSignatureAddedNoMutation

end Sg05

namespace Sg06

/-- `sg06.evaluate_customer_sequence`. -/
def evaluateCustomerSequence (tampered control : CustomerTargetObservationSummary) : Verdict :=
  evaluateRejectedCustomer tampered control .tamperedCallbackAddedCustomerTargetEntry
    .validCheckoutControlUnproven .tamperedCallbackAddedNoCustomerTargetEntry

/-- `sg06.evaluate_mutation_sequence`. -/
def evaluateMutationSequence (tampered control : MutationScenarioRequestObservation) :
    Verdict :=
  evaluateRejectedMutation tampered control .tamperedCallbackCompletedMutation
    .validCheckoutControlUnproven .tamperedCallbackAddedNoMutation

end Sg06

/-- `sg07.evaluate_webhook_only`. -/
def Sg07.evaluateWebhookOnly (summary : CustomerTargetObservationSummary) : Verdict :=
  let verdict := Sg01.evaluateObservations summary
  if verdict.state = .verifiedPass then
    { verdict with reason := .webhookOnlyTargetEnteredOnce }
  else if verdict.state = .verifiedFail then
    { verdict with reason := .webhookOnlyTargetEnteredMultipleTimes }
  else
    verdict

namespace Sg08

/-- `sg08.evaluate_precapture`. -/
def evaluatePrecapture (authorized : CustomerTargetObservationSummary)
    (captured : Option CustomerTargetObservationSummary)
    (lateAuthorisation : LateAuthorisationPolicy) : Verdict :=
  if ¬ authorized.ReceivedOnce then
    .unverified .requestLifecycleUnproven
  else if 0 < authorized.enteredCount then
    .fail .authorizedExecutedBeforeCapture
  else if authorized.returnedNormallyCount ≠ 0 ∨ authorized.exceptionEscapedCount ≠ 0 then
    .unverified .targetTerminalUnproven
  else if ¬ authorized.CompletedOnce then
    .unverified .requestLifecycleUnproven
  else
    match lateAuthorisation, captured with
    | .doNotFulfil, _ | _, none => .unverified .merchantLateContextUnproven
    | .fulfilLater, some captured =>
      if ScenarioResultPayload.CapturedNormal captured then
        .pass .authorizedAddedNoTargetEntry
      else
        .unverified .normalInputPreconditionUnproven

/-- `sg08.evaluate_capture_sequence`. -/
def evaluateCaptureSequence (authorized captured : CustomerTargetObservationSummary) :
    Verdict :=
  if ¬ authorized.ReceivedOnce then
    .unverified .requestLifecycleUnproven
  else if ¬ (authorized.CompletedOnce ∧ SuccessStatus authorized.httpStatusCode) then
    .unverified .requestLifecycleUnproven
  else if 0 < authorized.enteredCount then
    .fail .authorizedExecutedBeforeCapture
  else if ¬ captured.ReceivedOnce then
    .unverified .requestLifecycleUnproven
  else if 1 < captured.enteredCount then
    .fail .capturedThresholdMultipleTargetEntries
  else if captured.enteredCount = 0 then
    .unverified .normalInputPreconditionUnproven
  else if captured.returnedNormallyCount ≠ 1 ∨ captured.exceptionEscapedCount ≠ 0 then
    .unverified .targetTerminalUnproven
  else if ¬ (captured.CompletedOnce ∧ SuccessStatus captured.httpStatusCode) then
    .unverified .requestLifecycleUnproven
  else
    .pass .capturedThresholdTargetEnteredOnce

end Sg08

end StateGuard
