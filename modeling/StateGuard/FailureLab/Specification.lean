import StateGuard.FailureLab.Results

/-!
# What each reducer can answer

One lemma a reducer.  Each says that the verdict is a pass, and then what the summaries
show, or a failure, and then what they show, or is not verified.  The results about verdicts
read these lemmas and never unfold a reducer.
-/

namespace StateGuard

open ScenarioResultPayload (EnteredAndReturnedOnce CapturedNormal InjectionExact)

/-- A verdict that is not verified, of any reason. -/
def Verdict.IsUnverified (verdict : Verdict) : Prop :=
  ∃ reason, verdict = .unverified reason

theorem Verdict.IsUnverified.state {verdict : Verdict} (unverified : verdict.IsUnverified) :
    verdict.state = .unverified := by
  obtain ⟨reason, rfl⟩ := unverified
  rfl

theorem Verdict.isUnverified (reason : ScenarioResultReasonCode) :
    (Verdict.unverified reason).IsUnverified := ⟨reason, rfl⟩

/-- A verdict as the reducers build it: a pass, a failure, or not verified. -/
def Verdict.Built (verdict : Verdict) : Prop :=
  (∃ reason, verdict = .pass reason) ∨ (∃ reason, verdict = .fail reason) ∨ verdict.IsUnverified

theorem Verdict.Built.tiered {verdict : Verdict} (built : verdict.Built) : verdict.Tiered := by
  rcases built with ⟨reason, rfl⟩ | ⟨reason, rfl⟩ | ⟨reason, rfl⟩
  · exact Verdict.pass_tiered reason
  · exact Verdict.fail_tiered reason
  · exact Verdict.unverified_tiered reason

/-! ## One delivery -/

/-- The normal control passes on a normal delivery, fails on several entries, and on nothing
else is verified. -/
theorem Sg01.evaluateObservations_spec (summary : CustomerTargetObservationSummary) :
    (summary.NormalFirstDelivery ∧ evaluateObservations summary = .pass .exactTargetEnteredOnce) ∨
      (summary.ReceivedOnce ∧ 1 < summary.enteredCount ∧
        evaluateObservations summary = .fail .exactTargetEnteredMultipleTimes) ∨
      (¬ summary.NormalFirstDelivery ∧ (evaluateObservations summary).IsUnverified) := by
  unfold evaluateObservations
  split
  next missing =>
    exact .inr (.inr ⟨fun normal => missing normal.1, Verdict.isUnverified _⟩)
  next received =>
    rw [not_not] at received
    split
    next several => exact .inr (.inl ⟨received, several, rfl⟩)
    next notSeveral =>
      split
      next none =>
        refine .inr (.inr ⟨fun normal => ?_, Verdict.isUnverified _⟩)
        have once := normal.2.1
        omega
      next some =>
        have once : summary.enteredCount = 1 := by omega
        split
        next terminal =>
          refine .inr (.inr ⟨fun normal => ?_, Verdict.isUnverified _⟩)
          obtain ⟨-, -, returned, escaped, -⟩ := normal
          omega
        next terminal =>
          split
          next incomplete =>
            refine .inr (.inr ⟨fun normal => ?_, Verdict.isUnverified _⟩)
            exact incomplete normal.2.2.2.2
          next complete =>
            rw [not_not] at complete
            refine .inl ⟨⟨received, once, ?_, ?_, complete⟩, rfl⟩
            · omega
            · omega

theorem Sg01.evaluateObservations_built (summary : CustomerTargetObservationSummary) :
    (evaluateObservations summary).Built := by
  rcases evaluateObservations_spec summary with
    ⟨-, verdict⟩ | ⟨-, -, verdict⟩ | ⟨-, unverified⟩
  · exact .inl ⟨_, verdict⟩
  · exact .inr (.inl ⟨_, verdict⟩)
  · exact .inr (.inr unverified)

theorem Sg01.evaluateObservations_pass_iff (summary : CustomerTargetObservationSummary) :
    (evaluateObservations summary).state = .verifiedPass ↔ summary.NormalFirstDelivery := by
  rcases evaluateObservations_spec summary with
    ⟨normal, verdict⟩ | ⟨-, several, verdict⟩ | ⟨abnormal, unverified⟩
  · simp [verdict, Verdict.pass, normal]
  · have abnormal : ¬ summary.NormalFirstDelivery := fun normal => by
      have once := normal.2.1
      omega
    simp [verdict, Verdict.fail, abnormal]
  · simp [unverified.state, abnormal]

/-- The webhook-only reducer renames the verified reasons of the normal control. -/
theorem Sg07.evaluateWebhookOnly_spec (summary : CustomerTargetObservationSummary) :
    (summary.NormalFirstDelivery ∧
        evaluateWebhookOnly summary = .pass .webhookOnlyTargetEnteredOnce) ∨
      (summary.ReceivedOnce ∧ 1 < summary.enteredCount ∧
        evaluateWebhookOnly summary = .fail .webhookOnlyTargetEnteredMultipleTimes) ∨
      (evaluateWebhookOnly summary).IsUnverified := by
  unfold evaluateWebhookOnly
  rcases Sg01.evaluateObservations_spec summary with
    ⟨normal, verdict⟩ | ⟨received, several, verdict⟩ | ⟨-, reason, verdict⟩
  · exact .inl ⟨normal, by rw [verdict]; rfl⟩
  · exact .inr (.inl ⟨received, several, by rw [verdict]; rfl⟩)
  · exact .inr (.inr ⟨reason, by rw [verdict]; rfl⟩)

theorem Sg07.evaluateWebhookOnly_built (summary : CustomerTargetObservationSummary) :
    (evaluateWebhookOnly summary).Built := by
  rcases evaluateWebhookOnly_spec summary with ⟨-, verdict⟩ | ⟨-, -, verdict⟩ | unverified
  · exact .inl ⟨_, verdict⟩
  · exact .inr (.inl ⟨_, verdict⟩)
  · exact .inr (.inr unverified)

/-! ## Two deliveries -/

theorem evaluateSecondDelivery_spec (second : CustomerTargetObservationSummary)
    (added addedNone : ScenarioResultReasonCode) :
    (second.ReceivedOnce ∧ second.enteredCount = 0 ∧ second.CompletedOnce ∧
        evaluateSecondDelivery second added addedNone = .pass addedNone) ∨
      (second.ReceivedOnce ∧ 0 < second.enteredCount ∧
        evaluateSecondDelivery second added addedNone = .fail added) ∨
      (evaluateSecondDelivery second added addedNone).IsUnverified := by
  unfold evaluateSecondDelivery
  split
  next => exact .inr (.inr (Verdict.isUnverified _))
  next received =>
    rw [not_not] at received
    split
    next entered => exact .inr (.inl ⟨received, entered, rfl⟩)
    next notEntered =>
      split
      next => exact .inr (.inr (Verdict.isUnverified _))
      next =>
        split
        next => exact .inr (.inr (Verdict.isUnverified _))
        next complete =>
          rw [not_not] at complete
          exact .inl ⟨received, by omega, complete, rfl⟩

/-- Two deliveries pass when the first is normal and the second adds nothing, fail when the
first enters several times or a normal first one is followed by an entry. -/
theorem evaluateTwoDeliveries_spec (first second : CustomerTargetObservationSummary)
    (multiple added addedNone : ScenarioResultReasonCode) :
    (first.NormalFirstDelivery ∧ second.ReceivedOnce ∧ second.enteredCount = 0 ∧
        second.CompletedOnce ∧
        evaluateTwoDeliveries first second multiple added addedNone = .pass addedNone) ∨
      (first.ReceivedOnce ∧ 1 < first.enteredCount ∧
        evaluateTwoDeliveries first second multiple added addedNone = .fail multiple) ∨
      (first.NormalFirstDelivery ∧ second.ReceivedOnce ∧ 0 < second.enteredCount ∧
        evaluateTwoDeliveries first second multiple added addedNone = .fail added) ∨
      (evaluateTwoDeliveries first second multiple added addedNone).IsUnverified := by
  unfold evaluateTwoDeliveries
  rcases Sg01.evaluateObservations_spec first with
    ⟨normal, verdict⟩ | ⟨received, several, verdict⟩ | ⟨-, reason, verdict⟩
  · rw [verdict]
    simp only [Verdict.pass, reduceCtorEq, if_false, ne_eq, not_true_eq_false]
    rcases evaluateSecondDelivery_spec second added addedNone with
      ⟨receivedSecond, none, complete, outcome⟩ | ⟨receivedSecond, entered, outcome⟩ | unverified
    · exact .inl ⟨normal, receivedSecond, none, complete, outcome⟩
    · exact .inr (.inr (.inl ⟨normal, receivedSecond, entered, outcome⟩))
    · exact .inr (.inr (.inr unverified))
  · rw [verdict]
    exact .inr (.inl ⟨received, several, rfl⟩)
  · rw [verdict]
    exact .inr (.inr (.inr ⟨reason, rfl⟩))

theorem evaluateTwoDeliveries_built (first second : CustomerTargetObservationSummary)
    (multiple added addedNone : ScenarioResultReasonCode) :
    (evaluateTwoDeliveries first second multiple added addedNone).Built := by
  rcases evaluateTwoDeliveries_spec first second multiple added addedNone with
    ⟨-, -, -, -, verdict⟩ | ⟨-, -, verdict⟩ | ⟨-, -, -, verdict⟩ | unverified
  · exact .inl ⟨_, verdict⟩
  · exact .inr (.inl ⟨_, verdict⟩)
  · exact .inr (.inl ⟨_, verdict⟩)
  · exact .inr (.inr unverified)

/-- A rejected customer request passes when it entered nothing and its control is normal,
and fails when it entered. -/
theorem evaluateRejectedCustomer_spec (rejected control : CustomerTargetObservationSummary)
    (added controlUnproven addedNone : ScenarioResultReasonCode) :
    (rejected.ReceivedOnce ∧ rejected.enteredCount = 0 ∧ rejected.returnedNormallyCount = 0 ∧
        rejected.exceptionEscapedCount = 0 ∧ rejected.CompletedOnce ∧
        control.NormalFirstDelivery ∧
        evaluateRejectedCustomer rejected control added controlUnproven addedNone =
          .pass addedNone) ∨
      (rejected.ReceivedOnce ∧ 0 < rejected.enteredCount ∧
        evaluateRejectedCustomer rejected control added controlUnproven addedNone =
          .fail added) ∨
      (evaluateRejectedCustomer rejected control added controlUnproven addedNone).IsUnverified := by
  unfold evaluateRejectedCustomer
  split
  next => exact .inr (.inr (Verdict.isUnverified _))
  next received =>
    rw [not_not] at received
    split
    next entered => exact .inr (.inl ⟨received, entered, rfl⟩)
    next notEntered =>
      split
      next => exact .inr (.inr (Verdict.isUnverified _))
      next terminal =>
        split
        next => exact .inr (.inr (Verdict.isUnverified _))
        next complete =>
          rw [not_not] at complete
          split
          next => exact .inr (.inr (Verdict.isUnverified _))
          next control_pass =>
            rw [not_not, Sg01.evaluateObservations_pass_iff] at control_pass
            refine .inl ⟨received, ?_, ?_, ?_, complete, control_pass, rfl⟩ <;> omega

theorem evaluateRejectedCustomer_built (rejected control : CustomerTargetObservationSummary)
    (added controlUnproven addedNone : ScenarioResultReasonCode) :
    (evaluateRejectedCustomer rejected control added controlUnproven addedNone).Built := by
  rcases evaluateRejectedCustomer_spec rejected control added controlUnproven addedNone with
    ⟨-, -, -, -, -, -, verdict⟩ | ⟨-, -, verdict⟩ | unverified
  · exact .inl ⟨_, verdict⟩
  · exact .inr (.inl ⟨_, verdict⟩)
  · exact .inr (.inr unverified)

/-! ## The retry -/

/-- The verdict once the injection precedes the response: every verified one knows that the
first delivery's returns precede the injection. -/
theorem Sg03.evaluateInjected_spec (summary retry : CustomerTargetObservationSummary)
    (injection : AcknowledgementFailureObservation) :
    (EnteredAndReturnedOnce summary ∧ ¬ ReturnedLate summary injection ∧
        retry.ReceivedOnce ∧ retry.enteredCount = 0 ∧ retry.CompletedOnce ∧
        SuccessStatus retry.httpStatusCode ∧
        evaluateInjected summary retry injection = .pass .modeledRetryAddedNoTargetEntry) ∨
      (1 < summary.enteredCount ∧ summary.returnedNormallyCount = summary.enteredCount ∧
        ¬ ReturnedLate summary injection ∧
        evaluateInjected summary retry injection = .fail .initialDeliveryMultipleTargetEntries) ∨
      (EnteredAndReturnedOnce summary ∧ ¬ ReturnedLate summary injection ∧
        0 < retry.enteredCount ∧
        evaluateInjected summary retry injection = .fail .modeledRetryAddedTargetEntry) ∨
      (evaluateInjected summary retry injection).IsUnverified := by
  unfold evaluateInjected
  split
  next => exact .inr (.inr (.inr (Verdict.isUnverified _)))
  next received =>
    rw [not_not] at received
    split
    next several =>
      split
      next => exact .inr (.inr (.inr (Verdict.isUnverified _)))
      next terminal =>
        simp only [not_or, not_not] at terminal
        exact .inr (.inl ⟨several, terminal.1, terminal.2.2, rfl⟩)
    next notSeveral =>
      split
      next => exact .inr (.inr (.inr (Verdict.isUnverified _)))
      next entered =>
        split
        next => exact .inr (.inr (.inr (Verdict.isUnverified _)))
        next terminal =>
          simp only [not_or, not_not] at terminal
          have once : EnteredAndReturnedOnce summary := ⟨by omega, terminal.1, terminal.2⟩
          split
          next => exact .inr (.inr (.inr (Verdict.isUnverified _)))
          next early =>
            split
            next again => exact .inr (.inr (.inl ⟨once, early, again, rfl⟩))
            next notAgain =>
              split
              next => exact .inr (.inr (.inr (Verdict.isUnverified _)))
              next =>
                split
                next => exact .inr (.inr (.inr (Verdict.isUnverified _)))
                next complete =>
                  rw [not_not] at complete
                  exact .inl ⟨once, early, received, by omega, complete.1, complete.2, rfl⟩

/-- A verified retry rests on an exact injection. -/
theorem Sg03.evaluateSequence_spec (first retry : ScenarioRequestObservation) :
    (InjectionExact first retry ∧ EnteredAndReturnedOnce first.observations ∧
        retry.observations.ReceivedOnce ∧ retry.observations.enteredCount = 0 ∧
        retry.observations.CompletedOnce ∧ SuccessStatus retry.observations.httpStatusCode ∧
        evaluateSequence first retry = .pass .modeledRetryAddedNoTargetEntry) ∨
      (InjectionExact first retry ∧ 1 < first.observations.enteredCount ∧
        evaluateSequence first retry = .fail .initialDeliveryMultipleTargetEntries) ∨
      (InjectionExact first retry ∧ EnteredAndReturnedOnce first.observations ∧
        0 < retry.observations.enteredCount ∧
        evaluateSequence first retry = .fail .modeledRetryAddedTargetEntry) ∨
      (evaluateSequence first retry).IsUnverified := by
  unfold evaluateSequence
  split
  next => exact .inr (.inr (.inr (Verdict.isUnverified _)))
  next injection injected =>
    split
    next proven =>
      obtain ⟨single, -, answered, after, status, -⟩ := proven
      -- the validator asks for a return before the injection, the reducer for none after it
      have exact (returns : 0 < first.observations.returnedNormallyCount)
          (early : ¬ ReturnedLate first.observations injection) : InjectionExact first retry := by
        refine ⟨injection, injected, single, status, ?_, ?_, answered, after⟩
        · exact List.ne_nil_of_length_pos returns
        · intro sequence membership
          by_contra late
          exact early ⟨sequence, membership, by omega⟩
      rcases evaluateInjected_spec first.observations retry.observations injection with
        ⟨once, early, received, none, complete, success, verdict⟩ |
          ⟨several, returned, early, verdict⟩ | ⟨once, early, again, verdict⟩ | unverified
      · have returns := once.2.1
        exact .inl ⟨exact (by omega) early, once, received, none, complete, success, verdict⟩
      · exact .inr (.inl ⟨exact (by omega) early, several, verdict⟩)
      · have returns := once.2.1
        exact .inr (.inr (.inl ⟨exact (by omega) early, once, again, verdict⟩))
      · exact .inr (.inr (.inr unverified))
    next => exact .inr (.inr (.inr (Verdict.isUnverified _)))

theorem Sg03.evaluateSequence_built (first retry : ScenarioRequestObservation) :
    (evaluateSequence first retry).Built := by
  rcases evaluateSequence_spec first retry with
    ⟨-, -, -, -, -, -, verdict⟩ | ⟨-, -, verdict⟩ | ⟨-, -, -, verdict⟩ | unverified
  · exact .inl ⟨_, verdict⟩
  · exact .inr (.inl ⟨_, verdict⟩)
  · exact .inr (.inl ⟨_, verdict⟩)
  · exact .inr (.inr unverified)

/-! ## The late authorisation -/

theorem Sg08.evaluatePrecapture_spec (authorized : CustomerTargetObservationSummary)
    (captured : Option CustomerTargetObservationSummary)
    (lateAuthorisation : LateAuthorisationPolicy) :
    (authorized.enteredCount = 0 ∧ (∃ control ∈ captured, CapturedNormal control) ∧
        evaluatePrecapture authorized captured lateAuthorisation =
          .pass .authorizedAddedNoTargetEntry) ∨
      (0 < authorized.enteredCount ∧
        evaluatePrecapture authorized captured lateAuthorisation =
          .fail .authorizedExecutedBeforeCapture) ∨
      (evaluatePrecapture authorized captured lateAuthorisation).IsUnverified := by
  unfold evaluatePrecapture
  split
  next => exact .inr (.inr (Verdict.isUnverified _))
  next =>
    split
    next entered => exact .inr (.inl ⟨entered, rfl⟩)
    next notEntered =>
      split
      next => exact .inr (.inr (Verdict.isUnverified _))
      next =>
        split
        next => exact .inr (.inr (Verdict.isUnverified _))
        next =>
          split
          next => exact .inr (.inr (Verdict.isUnverified _))
          next => exact .inr (.inr (Verdict.isUnverified _))
          next control =>
            split
            next normal => exact .inl ⟨by omega, ⟨control, rfl, normal⟩, rfl⟩
            next => exact .inr (.inr (Verdict.isUnverified _))

theorem Sg08.evaluateCaptureSequence_spec
    (authorized captured : CustomerTargetObservationSummary) :
    (authorized.enteredCount = 0 ∧ CapturedNormal captured ∧
        evaluateCaptureSequence authorized captured =
          .pass .capturedThresholdTargetEnteredOnce) ∨
      (0 < authorized.enteredCount ∧
        evaluateCaptureSequence authorized captured = .fail .authorizedExecutedBeforeCapture) ∨
      (1 < captured.enteredCount ∧
        evaluateCaptureSequence authorized captured =
          .fail .capturedThresholdMultipleTargetEntries) ∨
      (evaluateCaptureSequence authorized captured).IsUnverified := by
  unfold evaluateCaptureSequence
  split
  next => exact .inr (.inr (.inr (Verdict.isUnverified _)))
  next =>
    split
    next => exact .inr (.inr (.inr (Verdict.isUnverified _)))
    next =>
      split
      next entered => exact .inr (.inl ⟨entered, rfl⟩)
      next notEntered =>
        split
        next => exact .inr (.inr (.inr (Verdict.isUnverified _)))
        next received =>
          rw [not_not] at received
          split
          next several => exact .inr (.inr (.inl ⟨several, rfl⟩))
          next notSeveral =>
            split
            next => exact .inr (.inr (.inr (Verdict.isUnverified _)))
            next some =>
              split
              next => exact .inr (.inr (.inr (Verdict.isUnverified _)))
              next terminal =>
                simp only [not_or, not_not] at terminal
                split
                next => exact .inr (.inr (.inr (Verdict.isUnverified _)))
                next complete =>
                  rw [not_not] at complete
                  exact .inl ⟨by omega, ⟨⟨by omega, terminal.1, terminal.2⟩, received,
                    complete.1, complete.2⟩, rfl⟩

theorem Sg08.evaluatePrecapture_built (authorized : CustomerTargetObservationSummary)
    (captured : Option CustomerTargetObservationSummary)
    (lateAuthorisation : LateAuthorisationPolicy) :
    (evaluatePrecapture authorized captured lateAuthorisation).Built := by
  rcases evaluatePrecapture_spec authorized captured lateAuthorisation with
    ⟨-, -, verdict⟩ | ⟨-, verdict⟩ | unverified
  · exact .inl ⟨_, verdict⟩
  · exact .inr (.inl ⟨_, verdict⟩)
  · exact .inr (.inr unverified)

theorem Sg08.evaluateCaptureSequence_built
    (authorized captured : CustomerTargetObservationSummary) :
    (evaluateCaptureSequence authorized captured).Built := by
  rcases evaluateCaptureSequence_spec authorized captured with
    ⟨-, -, verdict⟩ | ⟨-, verdict⟩ | ⟨-, verdict⟩ | unverified
  · exact .inl ⟨_, verdict⟩
  · exact .inr (.inl ⟨_, verdict⟩)
  · exact .inr (.inl ⟨_, verdict⟩)
  · exact .inr (.inr unverified)

/-! ## Mutations -/

/-- A rejected mutation request passes when it touched nothing and its control is normal,
and fails when it completed a mutation. -/
theorem evaluateRejectedMutation_spec (rejected control : MutationScenarioRequestObservation)
    (completed controlUnproven addedNone : ScenarioResultReasonCode) :
    (rejected.targetIds = control.targetIds ∧ rejected.ReceivedOnce ∧ rejected.AllUntouched ∧
        rejected.CompletedOnce ∧ control.NormalControl ∧
        evaluateRejectedMutation rejected control completed controlUnproven addedNone =
          .pass addedNone) ∨
      (rejected.targetIds = control.targetIds ∧ rejected.ReceivedOnce ∧
        rejected.SomeCompleted ∧
        evaluateRejectedMutation rejected control completed controlUnproven addedNone =
          .fail completed) ∨
      (evaluateRejectedMutation rejected control completed controlUnproven
        addedNone).IsUnverified := by
  unfold evaluateRejectedMutation
  split
  next => exact .inr (.inr (Verdict.isUnverified _))
  next same =>
    rw [ne_eq, not_not] at same
    split
    next => exact .inr (.inr (Verdict.isUnverified _))
    next received =>
      rw [not_not] at received
      split
      next someCompleted => exact .inr (.inl ⟨same, received, someCompleted, rfl⟩)
      next noneCompleted =>
        split
        next => exact .inr (.inr (Verdict.isUnverified _))
        next untouched =>
          split
          next => exact .inr (.inr (Verdict.isUnverified _))
          next complete =>
            rw [not_not] at complete
            split
            next => exact .inr (.inr (Verdict.isUnverified _))
            next normal =>
              rw [not_not] at normal
              refine .inl ⟨same, received, ?_, complete, normal, rfl⟩
              intro target membership
              have notCompleted : ¬ 0 < target.completedNormallyCount := fun positive =>
                noneCompleted ⟨target, membership, positive⟩
              have notTouched : ¬ (0 < target.reachedCount ∨ 0 < target.raisedCount) :=
                fun touched => untouched ⟨target, membership, touched⟩
              exact ⟨by omega, by omega, by omega⟩

theorem evaluateRejectedMutation_built (rejected control : MutationScenarioRequestObservation)
    (completed controlUnproven addedNone : ScenarioResultReasonCode) :
    (evaluateRejectedMutation rejected control completed controlUnproven addedNone).Built := by
  rcases evaluateRejectedMutation_spec rejected control completed controlUnproven addedNone with
    ⟨-, -, -, -, -, verdict⟩ | ⟨-, -, -, verdict⟩ | unverified
  · exact .inl ⟨_, verdict⟩
  · exact .inr (.inl ⟨_, verdict⟩)
  · exact .inr (.inr unverified)

/-- What the state reducer knows of a pass: the captured control completed, the stale
request left the authorised node alone and was answered once. -/
structure Sg04.StatePass (captured authorized : MutationScenarioRequestObservation)
    (capturedNodeId authorizedNodeId : GraphNodeId) : Prop where
  receivedCaptured : captured.ReceivedOnce
  receivedAuthorized : authorized.ReceivedOnce
  control : ∃ first ∈ targetFor captured capturedNodeId, first.CompletedWhenReached
  stale : ∃ stale ∈ targetFor authorized authorizedNodeId, stale.Untouched
  answered : authorized.CompletedOnce

instance (captured authorized : MutationScenarioRequestObservation)
    (capturedNodeId authorizedNodeId : GraphNodeId) :
    Decidable (Sg04.StatePass captured authorized capturedNodeId authorizedNodeId) :=
  have control : Decidable (∃ first ∈ Sg04.targetFor captured capturedNodeId,
      first.CompletedWhenReached) :=
    match Sg04.targetFor captured capturedNodeId with
    | none => .isFalse (by simp)
    | some first => decidable_of_iff first.CompletedWhenReached (by simp)
  have stale : Decidable (∃ stale ∈ Sg04.targetFor authorized authorizedNodeId,
      stale.Untouched) :=
    match Sg04.targetFor authorized authorizedNodeId with
    | none => .isFalse (by simp)
    | some stale => decidable_of_iff stale.Untouched (by simp)
  decidable_of_iff
    (captured.ReceivedOnce ∧ authorized.ReceivedOnce ∧
      (∃ first ∈ Sg04.targetFor captured capturedNodeId, first.CompletedWhenReached) ∧
      (∃ stale ∈ Sg04.targetFor authorized authorizedNodeId, stale.Untouched) ∧
      authorized.CompletedOnce)
    ⟨fun ⟨h1, h2, h3, h4, h5⟩ => ⟨h1, h2, h3, h4, h5⟩,
      fun ⟨h1, h2, h3, h4, h5⟩ => ⟨h1, h2, h3, h4, h5⟩⟩

/-- The state reducer passes exactly on `StatePass`, and fails only when the authorised node
completed in the stale request. -/
theorem Sg04.evaluateStateSequence_spec
    (captured authorized : MutationScenarioRequestObservation)
    (capturedNodeId authorizedNodeId : GraphNodeId) :
    (StatePass captured authorized capturedNodeId authorizedNodeId ∧
        evaluateStateSequence captured authorized capturedNodeId authorizedNodeId =
          .pass .merchantStateDidNotRegress) ∨
      ((∃ stale ∈ targetFor authorized authorizedNodeId, 0 < stale.completedNormallyCount) ∧
        evaluateStateSequence captured authorized capturedNodeId authorizedNodeId =
          .fail .merchantStateRegressedToAuthorized) ∨
      (¬ StatePass captured authorized capturedNodeId authorizedNodeId ∧
        (evaluateStateSequence captured authorized capturedNodeId
          authorizedNodeId).IsUnverified) := by
  unfold evaluateStateSequence
  split
  next missing =>
    refine .inr (.inr ⟨fun pass => ?_, Verdict.isUnverified _⟩)
    rcases missing with missing | missing
    · exact missing pass.receivedCaptured
    · exact missing pass.receivedAuthorized
  next received =>
    simp only [not_or, not_not] at received
    split
    next first stale foundFirst foundStale =>
      split
      next unproven =>
        refine .inr (.inr ⟨fun pass => ?_, Verdict.isUnverified _⟩)
        obtain ⟨found, isFound, reached, completed, raised⟩ := pass.control
        rw [foundFirst, Option.mem_some_iff] at isFound
        subst isFound
        omega
      next proven =>
        split
        next regressed => exact .inr (.inl ⟨⟨stale, foundStale, regressed⟩, rfl⟩)
        next notRegressed =>
          split
          next touched =>
            refine .inr (.inr ⟨fun pass => ?_, Verdict.isUnverified _⟩)
            obtain ⟨found, isFound, reached, -, raised⟩ := pass.stale
            rw [foundStale, Option.mem_some_iff] at isFound
            subst isFound
            omega
          next untouched =>
            split
            next incomplete =>
              exact .inr (.inr ⟨fun pass => incomplete pass.answered, Verdict.isUnverified _⟩)
            next complete =>
              rw [not_not] at complete
              refine .inl ⟨⟨received.1, received.2, ⟨first, foundFirst, ?_⟩,
                ⟨stale, foundStale, ?_⟩, complete⟩, rfl⟩
              · exact ⟨by omega, by omega, by omega⟩
              · exact ⟨by omega, by omega, by omega⟩
    next absent =>
      refine .inr (.inr ⟨fun pass => ?_, Verdict.isUnverified _⟩)
      obtain ⟨first, foundFirst, -⟩ := pass.control
      obtain ⟨stale, foundStale, -⟩ := pass.stale
      exact absent first stale foundFirst foundStale

theorem Sg04.evaluateStateSequence_built
    (captured authorized : MutationScenarioRequestObservation)
    (capturedNodeId authorizedNodeId : GraphNodeId) :
    (evaluateStateSequence captured authorized capturedNodeId authorizedNodeId).Built := by
  rcases evaluateStateSequence_spec captured authorized capturedNodeId authorizedNodeId with
    ⟨-, verdict⟩ | ⟨-, verdict⟩ | ⟨-, unverified⟩
  · exact .inl ⟨_, verdict⟩
  · exact .inr (.inl ⟨_, verdict⟩)
  · exact .inr (.inr unverified)

end StateGuard
