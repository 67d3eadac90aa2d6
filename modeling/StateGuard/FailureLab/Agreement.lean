import StateGuard.FailureLab.Observations
import StateGuard.FailureLab.Specification

/-!
# Customer-value reducers and the validator agree

The executors summarise each admitted request (`observeCustomers`), hand the summaries to
the reducer of the scenario (`customerVerdicts`) and pack the verdict.  The validator of the
result then derives the admissible counts again.  One lemma a scenario says that it accepts
what the reducer answered; `customerVerdicts_accepted` collects them over every admitted
transcript.
-/

namespace StateGuard

open Checks
open ScenarioResultPayload (EnteredAndReturnedOnce CapturedNormal InjectionExact)

/-- The verdicts a scenario's customer-value reducers give the observations: one, or for the
late authorisation one before the capture and, when the capture was sent, one after it. -/
def customerVerdicts (scenario : ScenarioId) (lateAuthorisation : LateAuthorisationPolicy) :
    List ScenarioRequestObservation → List Verdict
  | [only] =>
    match scenario with
    | .sg01 => [Sg01.evaluateObservations only.observations]
    | .sg07 => [Sg07.evaluateWebhookOnly only.observations]
    | .sg08 => [Sg08.evaluatePrecapture only.observations none lateAuthorisation]
    | _ => []
  | [first, second] =>
    match scenario with
    | .sg02 => [Sg02.evaluateSequence first.observations second.observations]
    | .sg03 => [Sg03.evaluateSequence first second]
    | .sg04 => [Sg04.evaluateCustomerSequence first.observations second.observations]
    | .sg05 => [Sg05.evaluateCustomerSequence first.observations second.observations]
    | .sg06 => [Sg06.evaluateCustomerSequence first.observations second.observations]
    | .sg08 =>
      [Sg08.evaluatePrecapture first.observations (some second.observations) lateAuthorisation,
        Sg08.evaluateCaptureSequence first.observations second.observations]
    | _ => []
  | _ => []

/-! ## One scenario at a time -/

theorem filterMap_customer (observations : List ScenarioRequestObservation) :
    (observations.map ScenarioObservation.customer).filterMap (·.customer?) = observations := by
  rw [List.filterMap_map]
  exact List.filterMap_some

/-- A payload that states a verdict on the customer-value observations of a control. -/
structure CustomerPayload (r : ScenarioResultPayload) (scenario : ScenarioId) (verdict : Verdict)
    (observations : List ScenarioRequestObservation) : Prop where
  scenario : r.scenarioId = scenario
  result : r.result = verdict.state
  reason : r.reason = verdict.reason
  observed : r.requestObservations = observations.map .customer
  control : r.authority.normalControlId.isSome

namespace CustomerPayload

variable {r : ScenarioResultPayload} {scenario : ScenarioId} {verdict : Verdict}
  {observations : List ScenarioRequestObservation}

theorem customers (payload : CustomerPayload r scenario verdict observations) :
    r.customers = observations := by
  rw [ScenarioResultPayload.customers, payload.observed, filterMap_customer]

theorem mutations (payload : CustomerPayload r scenario verdict observations) :
    r.mutations = [] := by
  rw [ScenarioResultPayload.mutations, payload.observed, List.filterMap_map]
  simp [ScenarioObservation.mutation?, Function.comp_def]

theorem allCustomer (payload : CustomerPayload r scenario verdict observations) :
    r.AllCustomer := by
  intro item membership
  rw [payload.observed] at membership
  obtain ⟨observation, -, rfl⟩ := List.mem_map.mp membership
  rfl

/-- The observations are of exactly one of the two kinds. -/
theorem oneKind (payload : CustomerPayload r scenario verdict observations)
    (observed : observations ≠ []) : ¬ (r.AllCustomer ↔ r.AllMutation) := by
  intro same
  obtain ⟨first, rest, rfl⟩ := List.exists_cons_of_ne_nil observed
  have mutation := same.mp payload.allCustomer (.customer first) (by simp [payload.observed])
  simp [ScenarioObservation.mutation?] at mutation

theorem requireCustomerControl (payload : CustomerPayload r scenario verdict observations)
    (controlMessage observationMessage : String) :
    r.requireCustomerControl controlMessage observationMessage = .ok () := by
  have control := payload.control
  rw [Option.isSome_iff_ne_none] at control
  simp [ScenarioResultPayload.requireCustomerControl, control, payload.allCustomer]

theorem verified (payload : CustomerPayload r scenario verdict observations) :
    r.verified = verdict.state.verified := by
  rw [ScenarioResultPayload.verified, payload.result]

/-- A verdict that is not verified is accepted whatever it observed. -/
theorem accepted_of_unverified (payload : CustomerPayload r scenario verdict observations)
    (unverified : verdict.IsUnverified) : r.validateScenario = .ok () := by
  refine validateScenario_of_unverified r ?_ fun _ => .inr ⟨payload.control, payload.allCustomer⟩
  rw [payload.verified, unverified.state]
  rfl

end CustomerPayload

section Accepted

variable {r : ScenarioResultPayload} {first second : ScenarioRequestObservation}

theorem Sg01.accepted
    (payload : CustomerPayload r .sg01 (evaluateObservations first.observations) [first]) :
    r.validateScenario = .ok () := by
  have required := payload.requireCustomerControl
  have observed := payload.customers
  have result := payload.result
  have reason := payload.reason
  rcases evaluateObservations_spec first.observations with
    ⟨normal, verdict⟩ | ⟨received, several, verdict⟩ | ⟨-, unverified⟩
  · rw [verdict] at result reason
    simp [ScenarioResultPayload.validateScenario, payload.scenario,
      ScenarioResultPayload.validateSg01, required, observed, result, reason, Verdict.pass, normal]
  · rw [verdict] at result reason
    simp [ScenarioResultPayload.validateScenario, payload.scenario,
      ScenarioResultPayload.validateSg01, required, observed, result, reason, Verdict.fail,
      several, received]
  · exact payload.accepted_of_unverified unverified

/-- Besides the counts, the duplicate scenario's validator asks that both deliveries were
received, which the reducer reads off the sequence authority only. -/
theorem Sg02.accepted
    (payload : CustomerPayload r .sg02
      (evaluateSequence first.observations second.observations) [first, second])
    (received : first.observations.ReceivedOnce ∧ second.observations.ReceivedOnce) :
    r.validateScenario = .ok () := by
  have required := payload.requireCustomerControl
  have observed := payload.customers
  have result := payload.result
  have reason := payload.reason
  unfold evaluateSequence at payload result reason
  rcases evaluateTwoDeliveries_spec first.observations second.observations
      .normalControlMultipleTargetEntries .duplicateDeliveryAddedTargetEntry
      .duplicateDeliveryAddedNoTargetEntry with
    ⟨normal, -, none, complete, verdict⟩ | ⟨-, several, verdict⟩ |
      ⟨normal, -, entered, verdict⟩ | unverified
  · rw [verdict] at result reason
    simp [ScenarioResultPayload.validateScenario, payload.scenario,
      ScenarioResultPayload.validateSg02, required, observed, result, reason, Verdict.pass,
      received, normal, none, complete]
  · rw [verdict] at result reason
    simp [ScenarioResultPayload.validateScenario, payload.scenario,
      ScenarioResultPayload.validateSg02, required, observed, result, reason, Verdict.fail,
      received, several]
  · rw [verdict] at result reason
    simp [ScenarioResultPayload.validateScenario, payload.scenario,
      ScenarioResultPayload.validateSg02, required, observed, result, reason, Verdict.fail,
      received, normal, entered]
  · exact payload.accepted_of_unverified unverified

theorem Sg03.accepted
    (payload : CustomerPayload r .sg03 (evaluateSequence first second) [first, second])
    (input : ∃ input, r.inputReference = some input ∧ input.isScenarioInput = true) :
    r.validateScenario = .ok () := by
  have required := payload.requireCustomerControl
  have observed := payload.customers
  have result := payload.result
  have reason := payload.reason
  rcases evaluateSequence_spec first second with
    ⟨exact, once, received, none, complete, success, verdict⟩ | ⟨exact, several, verdict⟩ |
      ⟨exact, once, entered, verdict⟩ | unverified
  · rw [verdict] at result reason
    simp [ScenarioResultPayload.validateScenario, payload.scenario,
      ScenarioResultPayload.validateSg03, ScenarioResultPayload.verified, required, observed,
      result, reason, Verdict.pass, VerificationResultState.verified, input, exact, once,
      received, none, complete, success]
  · rw [verdict] at result reason
    simp [ScenarioResultPayload.validateScenario, payload.scenario,
      ScenarioResultPayload.validateSg03, ScenarioResultPayload.verified, required, observed,
      result, reason, Verdict.fail, VerificationResultState.verified, input, exact, several]
  · rw [verdict] at result reason
    simp [ScenarioResultPayload.validateScenario, payload.scenario,
      ScenarioResultPayload.validateSg03, ScenarioResultPayload.verified, required, observed,
      result, reason, Verdict.fail, VerificationResultState.verified, input, exact, once, entered]
  · exact payload.accepted_of_unverified unverified

theorem Sg04.customer_accepted
    (payload : CustomerPayload r .sg04
      (evaluateCustomerSequence first.observations second.observations) [first, second])
    (input : ∃ input, r.inputReference = some input ∧ input.isWebhookSequence = true) :
    r.validateScenario = .ok () := by
  have control := payload.control
  rw [Option.isSome_iff_ne_none] at control
  have oneKind := payload.oneKind (by simp)
  have observed := payload.customers
  have observations := payload.observed
  have result := payload.result
  have reason := payload.reason
  unfold evaluateCustomerSequence at payload result reason
  rcases evaluateTwoDeliveries_spec first.observations second.observations
      .outOfOrderControlMultipleTargetEntries .staleAuthorizedAddedTargetEntry
      .staleAuthorizedAddedNoTargetEntry with
    ⟨normal, received, none, complete, verdict⟩ | ⟨-, several, verdict⟩ |
      ⟨normal, -, entered, verdict⟩ | unverified
  · rw [verdict] at result reason
    simp [ScenarioResultPayload.validateScenario, payload.scenario,
      ScenarioResultPayload.validateSg04, ScenarioResultPayload.validateSg04Customer, control,
      oneKind, observed, observations, result, reason, Verdict.pass, input, normal, received,
      none, complete]
  · rw [verdict] at result reason
    simp [ScenarioResultPayload.validateScenario, payload.scenario,
      ScenarioResultPayload.validateSg04, ScenarioResultPayload.validateSg04Customer, control,
      oneKind, observed, observations, result, reason, Verdict.fail, input, several]
  · rw [verdict] at result reason
    simp [ScenarioResultPayload.validateScenario, payload.scenario,
      ScenarioResultPayload.validateSg04, ScenarioResultPayload.validateSg04Customer, control,
      oneKind, observed, observations, result, reason, Verdict.fail, input, normal, entered]
  · exact payload.accepted_of_unverified unverified

theorem Sg05.customer_accepted
    (payload : CustomerPayload r .sg05
      (evaluateCustomerSequence first.observations second.observations) [first, second]) :
    r.validateScenario = .ok () := by
  have control := payload.control
  rw [Option.isSome_iff_ne_none] at control
  have oneKind := payload.oneKind (by simp)
  have observed := payload.customers
  have observations := payload.observed
  have result := payload.result
  have reason := payload.reason
  unfold evaluateCustomerSequence at payload result reason
  rcases evaluateRejectedCustomer_spec first.observations second.observations
      .rejectedSignatureAddedCustomerTargetEntry .validSignatureControlUnproven
      .rejectedSignatureAddedNoCustomerTargetEntry with
    ⟨received, none, returned, escaped, complete, normal, verdict⟩ |
      ⟨received, entered, verdict⟩ | unverified
  · rw [verdict] at result reason
    simp [ScenarioResultPayload.validateScenario, payload.scenario,
      ScenarioResultPayload.validateSg05, ScenarioResultPayload.validateSg05Customer, control,
      oneKind, observed, observations, result, reason, Verdict.pass, received, none, returned,
      escaped, complete, normal]
  · rw [verdict] at result reason
    simp [ScenarioResultPayload.validateScenario, payload.scenario,
      ScenarioResultPayload.validateSg05, ScenarioResultPayload.validateSg05Customer, control,
      oneKind, observed, observations, result, reason, Verdict.fail, received, entered.ne']
  · exact payload.accepted_of_unverified unverified

theorem Sg06.customer_accepted
    (payload : CustomerPayload r .sg06
      (evaluateCustomerSequence first.observations second.observations) [first, second])
    (input : ∃ input, r.inputReference = some input ∧ input.isCheckoutSequence = true) :
    r.validateScenario = .ok () := by
  have control := payload.control
  rw [Option.isSome_iff_ne_none] at control
  have oneKind := payload.oneKind (by simp)
  have observed := payload.customers
  have observations := payload.observed
  have result := payload.result
  have reason := payload.reason
  unfold evaluateCustomerSequence at payload result reason
  rcases evaluateRejectedCustomer_spec first.observations second.observations
      .tamperedCallbackAddedCustomerTargetEntry .validCheckoutControlUnproven
      .tamperedCallbackAddedNoCustomerTargetEntry with
    ⟨-, none, -, -, complete, normal, verdict⟩ | ⟨-, entered, verdict⟩ | unverified
  · rw [verdict] at result reason
    simp [ScenarioResultPayload.validateScenario, payload.scenario,
      ScenarioResultPayload.validateSg06, ScenarioResultPayload.validateSg06Customer, control,
      oneKind, observed, observations, result, reason, Verdict.pass, input, none, complete.1,
      normal]
  · rw [verdict] at result reason
    simp [ScenarioResultPayload.validateScenario, payload.scenario,
      ScenarioResultPayload.validateSg06, ScenarioResultPayload.validateSg06Customer, control,
      oneKind, observed, observations, result, reason, Verdict.fail, input, entered]
  · exact payload.accepted_of_unverified unverified

theorem Sg07.accepted
    (payload : CustomerPayload r .sg07 (evaluateWebhookOnly first.observations) [first])
    (input : ∃ input, r.inputReference = some input ∧ input.isScenarioInput = true) :
    r.validateScenario = .ok () := by
  have control := payload.control
  rw [Option.isSome_iff_ne_none] at control
  have allCustomer := payload.allCustomer
  have observed := payload.customers
  have observations := payload.observed
  have result := payload.result
  have reason := payload.reason
  rcases evaluateWebhookOnly_spec first.observations with
    ⟨normal, verdict⟩ | ⟨-, several, verdict⟩ | unverified
  · rw [verdict] at result reason
    simp [ScenarioResultPayload.validateScenario, payload.scenario,
      ScenarioResultPayload.validateSg07, control, allCustomer, observed, observations, result,
      reason, Verdict.pass, input, normal]
  · rw [verdict] at result reason
    simp [ScenarioResultPayload.validateScenario, payload.scenario,
      ScenarioResultPayload.validateSg07, control, allCustomer, observed, observations, result,
      reason, Verdict.fail, input, several]
  · exact payload.accepted_of_unverified unverified

/-- What a late-authorisation input must say of the requests it was sent as. -/
structure LateInput (r : ScenarioResultPayload) (count : Nat) : Prop where
  given : ∃ input, r.inputReference = some (.lateAuthorisationInput input) ∧
    input.policy.fulfilment = .captureRequired ∧ input.eventCount = count

/-- With its input in place, the late-authorisation validator comes down to the verdict. -/
theorem Sg08.validateScenario_eq {verdict : Verdict}
    {observations : List ScenarioRequestObservation}
    (payload : CustomerPayload r .sg08 verdict observations)
    (input : LateInput r observations.length) (verified : verdict.state.verified = true) :
    r.validateScenario = r.validateSg08Verdict (observations.map (·.observations)) := by
  obtain ⟨late, given, fulfilment, count⟩ := input.given
  have required := payload.requireCustomerControl
  have observed := payload.customers
  have isVerified : r.verified = true := by rw [payload.verified, verified]
  have passes (message : String) :
      raiseIf (late.policy.fulfilment ≠ .captureRequired) message = .ok () :=
    raiseIf_of_not (by simp [fulfilment]) message
  have counted (message : String) :
      raiseIf (observations.length ≠ late.eventCount) message = .ok () :=
    raiseIf_of_not (by simp [count]) message
  simp only [ScenarioResultPayload.validateScenario, payload.scenario,
    ScenarioResultPayload.validateSg08, required, ok_bind, isVerified, given,
    Bool.true_eq_false, if_false, Option.bind_some,
    ScenarioSafeInputReference.lateAuthorisation?, passes, observed, counted]

theorem Sg08.precapture_accepted (captured : Option ScenarioRequestObservation)
    {lateAuthorisation : LateAuthorisationPolicy}
    (payload : CustomerPayload r .sg08
      (evaluatePrecapture first.observations (captured.map (·.observations)) lateAuthorisation)
      (first :: captured.toList))
    (input : LateInput r (first :: captured.toList).length) : r.validateScenario = .ok () := by
  have result := payload.result
  have reason := payload.reason
  rcases evaluatePrecapture_spec first.observations (captured.map (·.observations))
      lateAuthorisation with
    ⟨none, ⟨control, present, normal⟩, verdict⟩ | ⟨entered, verdict⟩ | unverified
  · rw [Sg08.validateScenario_eq payload input (by rw [verdict]; rfl)]
    rw [verdict] at result reason
    obtain ⟨second, rfl, rfl⟩ := Option.map_eq_some_iff.mp present
    simp [ScenarioResultPayload.validateSg08Verdict, result, reason, Verdict.pass, none, normal]
  · rw [Sg08.validateScenario_eq payload input (by rw [verdict]; rfl)]
    rw [verdict] at result reason
    simp [ScenarioResultPayload.validateSg08Verdict, result, reason, Verdict.fail, entered]
  · exact payload.accepted_of_unverified unverified

theorem Sg08.capture_accepted
    (payload : CustomerPayload r .sg08
      (evaluateCaptureSequence first.observations second.observations) [first, second])
    (input : LateInput r 2) : r.validateScenario = .ok () := by
  have result := payload.result
  have reason := payload.reason
  rcases evaluateCaptureSequence_spec first.observations second.observations with
    ⟨none, normal, verdict⟩ | ⟨entered, verdict⟩ | ⟨several, verdict⟩ | unverified
  · rw [Sg08.validateScenario_eq payload input (by rw [verdict]; rfl)]
    rw [verdict] at result reason
    simp [ScenarioResultPayload.validateSg08Verdict, result, reason, Verdict.pass, none, normal]
  · rw [Sg08.validateScenario_eq payload input (by rw [verdict]; rfl)]
    rw [verdict] at result reason
    simp [ScenarioResultPayload.validateSg08Verdict, result, reason, Verdict.fail, entered]
  · rw [Sg08.validateScenario_eq payload input (by rw [verdict]; rfl)]
    rw [verdict] at result reason
    simp [ScenarioResultPayload.validateSg08Verdict, result, reason, Verdict.fail, several]
  · exact payload.accepted_of_unverified unverified

end Accepted

/-! ## Every admitted transcript -/

/-- Every customer-value verdict is one the reducers build. -/
theorem customerVerdicts_built {scenario : ScenarioId}
    {lateAuthorisation : LateAuthorisationPolicy}
    {observations : List ScenarioRequestObservation} {verdict : Verdict}
    (given : verdict ∈ customerVerdicts scenario lateAuthorisation observations) :
    verdict.Built := by
  unfold customerVerdicts at given
  split at given
  next only =>
    split at given <;> simp only [List.mem_singleton, List.not_mem_nil] at given <;> subst given
    · exact Sg01.evaluateObservations_built _
    · exact Sg07.evaluateWebhookOnly_built _
    · exact Sg08.evaluatePrecapture_built _ _ _
  next first second =>
    split at given <;> simp only [List.mem_cons, List.not_mem_nil, or_false] at given
    · subst given
      exact evaluateTwoDeliveries_built _ _ _ _ _
    · subst given
      exact Sg03.evaluateSequence_built _ _
    · subst given
      exact evaluateTwoDeliveries_built _ _ _ _ _
    · subst given
      exact evaluateRejectedCustomer_built _ _ _ _ _
    · subst given
      exact evaluateRejectedCustomer_built _ _ _ _ _
    · rcases given with rfl | rfl
      · exact Sg08.evaluatePrecapture_built _ _ _
      · exact Sg08.evaluateCaptureSequence_built _ _
  next => simp at given

/-- The sealed packing of a verdict is a payload of its control. -/
theorem SealedPacking.customerPayload {scenario : ScenarioId} {packing : Packing}
    {requests : List RuntimeRequestResult} {controlId : NormalControlId}
    (authority : SealedPacking scenario packing requests controlId) (verdict : Verdict)
    (observations : List ScenarioRequestObservation) :
    CustomerPayload (packing.payload verdict (observations.map .customer)) scenario verdict
      observations where
  scenario := authority.sameScenario
  result := rfl
  reason := rfl
  observed := rfl
  control := by simp [Packing.payload, authority.control]

/-- The verdicts of the observations of an admitted sequence are accepted by the validator of
the scenario. -/
theorem customerVerdicts_validate {scenario : ScenarioId}
    {artifact : RuntimeCapabilityArtifact} {transcript : RuntimeObservationTranscript}
    {requests : List RuntimeRequestResult} {controlId : NormalControlId} {packing : Packing}
    (admitted : Admitted scenario artifact transcript requests controlId)
    (authority : SealedPacking scenario packing requests controlId)
    {observations : List ScenarioRequestObservation}
    (observes : List.Forall₂ (Observes scenario transcript controlId) requests observations)
    {lateAuthorisation : LateAuthorisationPolicy} {verdict : Verdict}
    (given : verdict ∈ customerVerdicts scenario lateAuthorisation observations) :
    (packing.payload verdict (observations.map .customer)).validateScenario = .ok () := by
  have payload := authority.customerPayload verdict observations
  obtain ⟨input, isGiven, kind⟩ := authority.input
  have same : (packing.payload verdict (observations.map .customer)).inputReference = some input :=
    isGiven
  have count := observes.length_eq
  unfold customerVerdicts at given
  split at given
  next only =>
    split at given <;> simp only [List.mem_singleton, List.not_mem_nil] at given <;> subst given
    · exact Sg01.accepted payload
    · obtain ⟨reference, rfl⟩ := kind
      exact Sg07.accepted payload ⟨_, same, rfl⟩
    · obtain ⟨reference, rfl, fulfilment, events⟩ := kind
      rw [count] at events
      exact Sg08.precapture_accepted none payload
        ⟨reference, same, fulfilment, events⟩
  next first second =>
    split at given <;> simp only [List.mem_cons, List.not_mem_nil, or_false] at given
    · subst given
      have exact : SequenceAuthorityIsExact transcript requests := admitted.exact
      cases observes with
      | cons observesFirst rest =>
        cases rest with
        | cons observesSecond rest =>
          cases rest
          exact Sg02.accepted payload ⟨observesFirst.receivedOnce exact (by simp),
            observesSecond.receivedOnce exact (by simp)⟩
    · subst given
      obtain ⟨reference, rfl⟩ := kind
      exact Sg03.accepted payload ⟨_, same, rfl⟩
    · subst given
      obtain ⟨reference, rfl⟩ := kind
      exact Sg04.customer_accepted payload ⟨_, same, rfl⟩
    · subst given
      exact Sg05.customer_accepted payload
    · subst given
      obtain ⟨reference, rfl⟩ := kind
      exact Sg06.customer_accepted payload ⟨_, same, rfl⟩
    · obtain ⟨reference, rfl, fulfilment, events⟩ := kind
      rw [count] at events
      rcases given with rfl | rfl
      · exact Sg08.precapture_accepted (some second) payload
          ⟨reference, same, fulfilment, events⟩
      · exact Sg08.capture_accepted payload ⟨reference, same, fulfilment, events⟩
  next => simp at given

/-- A sealed verdict on the observations of the requests is packed exactly when the scenario's
validator accepts it. -/
theorem SealedPacking.makeResult_iff {fingerprint : ScenarioResultPayload → Sha256Digest}
    {scenario : ScenarioId} {transcript : RuntimeObservationTranscript}
    {requests : List RuntimeRequestResult} {controlId : NormalControlId} {packing : Packing}
    (authority : SealedPacking scenario packing requests controlId)
    {observations : List ScenarioRequestObservation}
    (observes : List.Forall₂ (Observes scenario transcript controlId) requests observations)
    {verdict : Verdict} (tiered : verdict.Tiered) :
    (∃ r, makeResult fingerprint packing verdict (observations.map .customer) = .ok r) ↔
      (packing.payload verdict (observations.map .customer)).validateScenario = .ok () := by
  obtain ⟨input, isGiven, kind⟩ := authority.input
  have ids : (observations.map ScenarioObservation.customer).map (·.requestId) =
      packing.authority.runtimeRequestIds := by
    rw [authority.requestIds, ← Observes.requestIds observes, List.map_map]
    rfl
  have rules : PackingRules packing (observations.map .customer) :=
    { grounded := by
        intro other isOther grounded
        rw [isGiven, Option.mem_some_iff] at isOther
        subst isOther
        rw [authority.sameScenario]
        exact kind.scenario_of_grounded grounded
      ordered := by
        rw [← ids, ← List.length_map (·.requestId), List.take_length]
      input := fun _ => by simp [isGiven]
      injection := by
        intro other observation membership
        rw [filterMap_customer] at membership
        rw [authority.sameScenario] at other
        exact Observes.uninjected observes other observation membership }
  exact makeResult_eq_ok rules tiered fun _ =>
    ⟨authority.capability, authority.session, authority.transcript, by simp [isGiven], ids⟩

/-- Every customer-value reducer agrees with the validator of the result: on an admitted
sequence the summaries are built unless a status is out of range, and whatever the reducers
answer, the packed result is accepted. -/
theorem customerVerdicts_accepted (fingerprint : ScenarioResultPayload → Sha256Digest)
    {scenario : ScenarioId} {artifact : RuntimeCapabilityArtifact}
    {transcript : RuntimeObservationTranscript} {requests : List RuntimeRequestResult}
    {controlId : NormalControlId} {packing : Packing}
    (admitted : Admitted scenario artifact transcript requests controlId)
    (authority : SealedPacking scenario packing requests controlId)
    (acknowledgementNodeId : GraphNodeId) (lateAuthorisation : LateAuthorisationPolicy) :
    ((∀ request ∈ requests, StatusInRange request.statusCode) →
      ∃ observations, observeCustomers scenario transcript controlId acknowledgementNodeId
        requests = .ok observations) ∧
    ∀ observations, observeCustomers scenario transcript controlId acknowledgementNodeId
        requests = .ok observations →
      ∀ verdict ∈ customerVerdicts scenario lateAuthorisation observations,
        ∃ r, makeResult fingerprint packing verdict (observations.map .customer) = .ok r := by
  refine ⟨observeCustomers_ok scenario transcript controlId acknowledgementNodeId, ?_⟩
  intro observations built verdict given
  have observes := observeCustomers_eq_ok built
  rw [authority.makeResult_iff observes (customerVerdicts_built given).tiered]
  exact customerVerdicts_validate admitted authority observes given

theorem customerVerdicts_accepted_duplicate :
    ∃ r, makeResult (fun _ => "result") samplePacking (.pass .duplicateDeliveryAddedNoTargetEntry)
      (sampleObservations.map .customer) = .ok r := by
  have agreement := customerVerdicts_accepted (fun _ => "result") sampleDuplicate_admitted
    samplePacking_sealed "acknowledgement" .fulfilLater
  refine agreement.2 sampleObservations rfl _ ?_
  decide

end StateGuard
