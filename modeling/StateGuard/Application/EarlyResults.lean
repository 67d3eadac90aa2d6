import StateGuard.Applicability.Absence
import StateGuard.Application.Verification
import StateGuard.Ci.Gate

/-!
# Assertions that are not executed

An assertion that is not applicable has its result without a session: the one its
applicability state stands for.  Every executor has this mapping, each among other checks of
its own, and two of the checks come first.  The late-authorisation executor reports every
assertion of a control whose merchant fulfils on authorisation as unproven, since the late
context of such a merchant is not modelled; this is `LateContextUnproven`.  The executors of
the retry and of the webhook without its callback refuse an instance without a control before
they look at its state, so the catalog instance of these two scenarios, not applicable or
not, is unverified (`earlyVerdict_superseded`).

`executors_early` says that there is no third: every other assertion that is not applicable
has exactly its early result.
-/

namespace StateGuard

open Checks EarlyReturn

/-- The merchant of a control fulfils on authorisation, by confirmed and current policies. -/
structure LateContextUnproven (policy : MerchantPolicyAssessment) (item : ScenarioInstance) :
    Prop where
  control : item.normalControlId ≠ none
  fulfilment : policy.fulfilment.confirmedPolicy = some .authorizedAllowed
  lateAuthorisation : policy.lateAuthorisation.confirmedPolicy ≠ none
  fulfilmentCurrent : policy.fulfilment.evidenceCurrent = some true
  lateCurrent : policy.lateAuthorisation.evidenceCurrent = some true

instance (policy : MerchantPolicyAssessment) (item : ScenarioInstance) :
    Decidable (LateContextUnproven policy item) :=
  decidable_of_iff
    (item.normalControlId ≠ none ∧ policy.fulfilment.confirmedPolicy = some .authorizedAllowed ∧
      policy.lateAuthorisation.confirmedPolicy ≠ none ∧
      policy.fulfilment.evidenceCurrent = some true ∧
      policy.lateAuthorisation.evidenceCurrent = some true)
    ⟨fun ⟨control, fulfilment, late, current, lateCurrent⟩ =>
        ⟨control, fulfilment, late, current, lateCurrent⟩,
      fun ⟨control, fulfilment, late, current, lateCurrent⟩ =>
        ⟨control, fulfilment, late, current, lateCurrent⟩⟩

/-- The verdict on an assertion that is not executed. -/
def earlyVerdict (policy : MerchantPolicyAssessment) (scenario : ScenarioId)
    (item : ScenarioInstance) (state : ApplicabilityState) : Option Verdict :=
  if scenario = .sg08 ∧ LateContextUnproven policy item then
    some (.unverified .merchantLateContextUnproven)
  else earlyApplicabilityResult state

/-! ## The reports of the executors -/

section Reports

variable {execution : Execution} {artifact : ScenarioApplicabilityArtifact} {hashing : Hashing}
  {item : ScenarioInstance} {assertion : AssertionApplicability}

/-- The instance of a scenario with one assertion has the state of that assertion. -/
theorem ScenarioInstance.state_of_sole (sole : item.assertions = [assertion]) :
    item.state = assertion.state := by
  have core : assertion.role = .core := by
    obtain ⟨other, isAssertion, core⟩ := item.hasCore
    rw [sole, List.mem_singleton] at isAssertion
    rw [← isAssertion]
    exact core
  have rolled := item.rollUp
  rw [sole, rollUpAssertions] at rolled
  cases state : assertion.state with
  | applicable | notApplicable | needsInput | indeterminate =>
    simpa [core, state, eq_comm] using rolled

theorem earlyOr_eq {state : ApplicabilityState} {verdict : Verdict}
    (early : earlyApplicabilityResult state = some verdict) (reason : ScenarioResultReasonCode) :
    Execution.earlyOr state reason = { verdict := verdict } := by
  rw [Execution.earlyOr, early]
  rfl

theorem sg01Report_early (fresh : ¬ execution.Stale) (found : execution.item? .sg01 = some item)
    {verdict : Verdict} (early : earlyApplicabilityResult item.state = some verdict) :
    settle execution.sg01Report = .ok { verdict := verdict } := by
  refine settle_of_returns ?_ _
  rw [Execution.sg01Admission, returnIf_bind fresh, found, orReturn_bind, returnEarly_bind early]

theorem sg02Report_early (fresh : ¬ execution.Stale) (found : execution.item? .sg02 = some item)
    {verdict : Verdict} (early : earlyApplicabilityResult item.state = some verdict) :
    settle execution.sg02Report = .ok { verdict := verdict } := by
  refine settle_of_returns ?_ _
  rw [Execution.sg02Admission, returnIf_bind fresh, found, orReturn_bind, returnEarly_bind early]

theorem sg03Report_early (fresh : ¬ execution.Stale) (found : execution.item? .sg03 = some item)
    {controlId : NormalControlId} (control : item.normalControlId = some controlId)
    (sole : item.assertions = [assertion]) (key : assertion.key = .sg03) {verdict : Verdict}
    (early : earlyApplicabilityResult assertion.state = some verdict) :
    settle execution.sg03Report = .ok { verdict := verdict } := by
  have selected : item.assertions.find? (·.key = .sg03) = some assertion := by simp [sole, key]
  refine settle_of_returns ?_ _
  rw [Execution.sg03Admission, returnIf_bind fresh, found, orReturn_bind, control, orReturn_bind,
    selected, orReturn_bind, returnEarly_bind early]

theorem sg07Report_early (fresh : ¬ execution.Stale) (found : execution.item? .sg07 = some item)
    {controlId : NormalControlId} (control : item.normalControlId = some controlId)
    (sole : item.assertions = [assertion]) {verdict : Verdict}
    (early : earlyApplicabilityResult assertion.state = some verdict) :
    settle execution.sg07Report = .ok { verdict := verdict } := by
  refine settle_of_returns ?_ _
  rw [Execution.sg07Admission, returnIf_bind fresh, found, orReturn_bind, control, orReturn_bind,
    sole, Execution.firstOf, attempt_bind, returnEarly_bind early]

theorem sg04Report_early (fresh : ¬ execution.Stale) (found : execution.item? .sg04 = some item)
    (shape : InstanceShape hashing .sg04 item) (isAssertion : assertion ∈ item.assertions)
    {verdict : Verdict} (early : earlyApplicabilityResult assertion.state = some verdict) :
    settle (execution.sg04Report assertion.key) = .ok { verdict := verdict } := by
  refine settle_of_returns ?_ _
  simp only [Execution.sg04Admission, returnIf_bind fresh, found, orReturn_bind,
    shape.assertionAt isAssertion, attempt_bind, returnEarly_bind early]

theorem sg05Report_early (fresh : ¬ execution.Stale) (found : execution.item? .sg05 = some item)
    (shape : InstanceShape hashing .sg05 item) (isAssertion : assertion ∈ item.assertions)
    {verdict : Verdict} (early : earlyApplicabilityResult assertion.state = some verdict) :
    settle (execution.sg05Report assertion.key) = .ok { verdict := verdict } := by
  refine settle_of_returns ?_ _
  simp only [Execution.sg05Admission, returnIf_bind fresh, found, orReturn_bind,
    shape.assertionAt isAssertion, attempt_bind, returnEarly_bind early]

theorem sg06Report_early (fresh : ¬ execution.Stale) (found : execution.item? .sg06 = some item)
    (shape : InstanceShape hashing .sg06 item) (isAssertion : assertion ∈ item.assertions)
    {verdict : Verdict} (early : earlyApplicabilityResult assertion.state = some verdict) :
    settle (execution.sg06Report assertion.key) = .ok { verdict := verdict } := by
  refine settle_of_returns ?_ _
  simp only [Execution.sg06Admission, returnIf_bind fresh, found, orReturn_bind,
    shape.assertionAt isAssertion, attempt_bind, returnEarly_bind early]

/-- The late authorisation looks at the policies before the state, but reports the state of
an assertion whenever a policy is missing or stale. -/
theorem sg08Report_early (fresh : ¬ execution.Stale) (found : execution.item? .sg08 = some item)
    (shape : InstanceShape hashing .sg08 item) (isAssertion : assertion ∈ item.assertions)
    {early verdict : Verdict} (isEarly : earlyApplicabilityResult assertion.state = some early)
    (isVerdict : earlyVerdict execution.applicability.policy .sg08 item assertion.state =
      some verdict) :
    settle (execution.sg08Report assertion.key) = .ok { verdict := verdict } := by
  refine settle_of_returns ?_ _
  rw [Execution.sg08Admission, returnIf_bind fresh, found, orReturn_bind]
  dsimp only
  cases control : item.normalControlId with
  | none =>
    have inactive : ∀ other ∈ item.assertions, other.state ≠ .applicable := by
      intro other isOther applicable
      have supplied := (shape.supplies other isOther applicable).1
      rw [control] at supplied
      cases supplied
    have notLate : ¬ LateContextUnproven execution.applicability.policy item :=
      fun late => late.control control
    rw [earlyVerdict, if_neg fun late => notLate late.2, isEarly, Option.some.injEq] at isVerdict
    rw [returnIf_bind (by simpa [shape.assertionsByKey_values, item.assertions_ne_nil] using
      inactive), shape.assertionAt isAssertion, attempt_bind, orReturn_none_bind,
      earlyOr_eq isEarly, isVerdict]
  | some controlId =>
    have hasControl : item.normalControlId ≠ none := by simp [control]
    rw [returnIf_bind (by simp), shape.assertionAt isAssertion, attempt_bind, orReturn_bind]
    cases fulfilment : execution.applicability.policy.fulfilment.confirmedPolicy with
    | none =>
      rw [earlyVerdict, if_neg fun late => by simp [late.2.fulfilment] at fulfilment, isEarly,
        Option.some.injEq] at isVerdict
      rw [orReturn_none_bind, earlyOr_eq isEarly, isVerdict]
    | some policy =>
      rw [orReturn_bind]
      cases late : execution.applicability.policy.lateAuthorisation.confirmedPolicy with
      | none =>
        rw [earlyVerdict, if_neg fun context => context.2.lateAuthorisation late, isEarly,
          Option.some.injEq] at isVerdict
        rw [orReturn_none_bind, earlyOr_eq isEarly, isVerdict]
      | some latePolicy =>
        rw [orReturn_bind]
        by_cases stale : execution.applicability.policy.fulfilment.evidenceCurrent ≠ some true ∨
            execution.applicability.policy.lateAuthorisation.evidenceCurrent ≠ some true
        · have notLate : ¬ LateContextUnproven execution.applicability.policy item := by
            intro context
            rcases stale with stale | stale
            · exact stale context.fulfilmentCurrent
            · exact stale context.lateCurrent
          rw [earlyVerdict, if_neg fun context => notLate context.2, isEarly,
            Option.some.injEq] at isVerdict
          rw [returnIf_bind_of stale, earlyOr_eq isEarly, isVerdict]
        · rw [returnIf_bind stale]
          obtain ⟨current, lateCurrent⟩ := not_or.mp stale
          cases policy with
          | authorizedAllowed =>
            have context : LateContextUnproven execution.applicability.policy item :=
              ⟨hasControl, fulfilment, by simp [late], not_not.mp current, not_not.mp lateCurrent⟩
            rw [earlyVerdict, if_pos ⟨rfl, context⟩, Option.some.injEq] at isVerdict
            rw [returnIf_bind_of rfl, ← isVerdict]
            rfl
          | captureRequired =>
            rw [earlyVerdict, if_neg fun context => by simp [context.2.fulfilment] at fulfilment,
              isEarly, Option.some.injEq] at isVerdict
            rw [returnIf_bind (by simp), returnEarly_bind isEarly, isVerdict]

/-- An assertion that is not applicable is reported early by the executor of its scenario. -/
theorem reportOf_early {scenario : ScenarioId} (called : execution.CalledFor artifact item)
    (found : execution.item? scenario = some item) (shape : InstanceShape hashing scenario item)
    (bound : scenario = .sg03 ∨ scenario = .sg07 → item.normalControlId ≠ none)
    (isAssertion : assertion ∈ item.assertions) (inactive : assertion.state ≠ .applicable) :
    ∃ verdict, earlyVerdict artifact.policy scenario item assertion.state = some verdict ∧
      settle (execution.reportOf scenario assertion.key) = .ok { verdict := verdict } := by
  obtain ⟨early, isEarly⟩ : ∃ early, earlyApplicabilityResult assertion.state = some early := by
    rw [← Option.ne_none_iff_exists', ne_eq, earlyApplicabilityResult_eq_none]
    exact inactive
  have fresh := called.not_stale
  have sole {key : AssertionKey} (only : scenario.assertionKeys = [key]) :
      item.assertions = [assertion] ∧ assertion.key = key := by
    obtain ⟨other, assertions, isKey⟩ := shape.sole only
    rw [assertions, List.mem_singleton] at isAssertion
    rw [isAssertion]
    exact ⟨assertions, isKey⟩
  cases scenario with
  | sg01 =>
    have same := ScenarioInstance.state_of_sole (sole rfl).1
    exact ⟨early, isEarly, sg01Report_early fresh found (by rw [same, isEarly])⟩
  | sg02 =>
    have same := ScenarioInstance.state_of_sole (sole rfl).1
    exact ⟨early, isEarly, sg02Report_early fresh found (by rw [same, isEarly])⟩
  | sg03 =>
    obtain ⟨controlId, control⟩ := Option.ne_none_iff_exists'.mp (bound (.inl rfl))
    exact ⟨early, isEarly, sg03Report_early fresh found control (sole rfl).1 (sole rfl).2 isEarly⟩
  | sg04 => exact ⟨early, isEarly, sg04Report_early fresh found shape isAssertion isEarly⟩
  | sg05 => exact ⟨early, isEarly, sg05Report_early fresh found shape isAssertion isEarly⟩
  | sg06 => exact ⟨early, isEarly, sg06Report_early fresh found shape isAssertion isEarly⟩
  | sg07 =>
    obtain ⟨controlId, control⟩ := Option.ne_none_iff_exists'.mp (bound (.inr rfl))
    exact ⟨early, isEarly, sg07Report_early fresh found control (sole rfl).1 isEarly⟩
  | sg08 =>
    obtain ⟨verdict, isVerdict⟩ :
        ∃ verdict, earlyVerdict artifact.policy .sg08 item assertion.state = some verdict := by
      unfold earlyVerdict
      split
      next => exact ⟨_, rfl⟩
      next => exact ⟨early, isEarly⟩
    refine ⟨verdict, isVerdict, sg08Report_early fresh found shape isAssertion isEarly ?_⟩
    rw [called.applicability]
    exact isVerdict

end Reports

/-! ## The results -/

theorem earlyApplicabilityResult_tiered {state : ApplicabilityState} {verdict : Verdict}
    (early : earlyApplicabilityResult state = some verdict) :
    verdict.Tiered ∧ verdict.state.verified = false := by
  cases state with
  | applicable => cases early
  | notApplicable | needsInput | indeterminate =>
    cases early
    exact ⟨rfl, rfl⟩

theorem earlyVerdict_tiered {policy : MerchantPolicyAssessment} {scenario : ScenarioId}
    {item : ScenarioInstance} {state : ApplicabilityState} {verdict : Verdict}
    (early : earlyVerdict policy scenario item state = some verdict) :
    verdict.Tiered ∧ verdict.state.verified = false := by
  unfold earlyVerdict at early
  split at early
  next =>
    cases early
    exact ⟨rfl, rfl⟩
  next => exact earlyApplicabilityResult_tiered early

/-- A report without a session is packed as it is. -/
theorem packed_early (execution : Execution) (scenario : ScenarioId) (assertionId : AssertionId)
    (normalControlId : Option NormalControlId) {steps : Steps String Report Report}
    {verdict : Verdict} (settled : settle steps = .ok { verdict := verdict })
    (tiered : verdict.Tiered) (unverified : verdict.state.verified = false) :
    ∃ result, execution.packed scenario assertionId normalControlId steps = .ok result ∧
      result.result = verdict.state ∧ result.reason = verdict.reason := by
  have grounded : ∀ input ∈ (execution.packing scenario assertionId normalControlId
      { verdict := verdict }).inputReference, input.isGrounded = true → scenario = .sg01 := by
    simp [Execution.packing]
  obtain ⟨result, isResult⟩ := @makeResult_unobserved execution.resultFingerprint
    (execution.packing scenario assertionId normalControlId { verdict := verdict }) verdict
    tiered unverified grounded
  have packed : execution.packed scenario assertionId normalControlId steps = .ok result := by
    rw [Execution.packed, settled, ok_bind]
    exact isResult
  refine ⟨result, packed, ?_⟩
  rw [payload_of_makeResult isResult]
  exact ⟨rfl, rfl⟩

/-- The late authorisation of a control is never found not applicable. -/
theorem sg08Instances_guarded {hashing : Hashing} {graph : PaymentSafetyGraphArtifact}
    {resolution : Option CustomerValueResolution} {controls : List NormalControlInstance}
    {policy : MerchantPolicyAssessment} {item : ScenarioInstance}
    (isItem : item ∈ sg08Instances hashing graph resolution controls policy)
    (control : item.normalControlId ≠ none) {assertion : AssertionApplicability}
    (isAssertion : assertion ∈ item.assertions) : assertion.state ≠ .notApplicable := by
  rcases mem_orCatalog.mp isItem with isItem | ⟨-, rfl⟩
  · obtain ⟨webhook, -, rfl⟩ := List.mem_map.mp isItem
    have guarded := lateAssertions_guarded graph policy webhook
    rcases List.mem_cons.mp isAssertion with rfl | isAssertion
    · exact guarded _ List.mem_cons_self
    · obtain ⟨entry, isEntry, rfl⟩ := List.mem_map.mp isAssertion
      exact guarded entry (List.mem_cons_of_mem _ isEntry)
  · exact absurd rfl control

/-- A check that is not applicable never blocks. -/
theorem not_blocks_of_notApplicable {check : VerificationCheck}
    (notApplicable : check.result = .notApplicable) : ¬ Blocks check := by
  rintro (failed | ⟨-, isOpen⟩)
  · rw [notApplicable] at failed
    cases failed
  · rw [notApplicable] at isOpen
    revert isOpen
    decide

/-- The executors report every assertion that is not applicable by its early verdict: the
results of an instance are those of its assertions, one each, and where nothing is applicable
the executor returns, whatever the worker does. -/
theorem executors_early {hashing : Hashing} {config : Option MerchantPolicyConfig}
    {source : SourceAuthority} {graph : PaymentSafetyGraphArtifact}
    {resolution : Option CustomerValueResolution} {resolutionFingerprint : Option Sha256Digest}
    {artifact : ScenarioApplicabilityArtifact}
    (produced : evaluateApplicability hashing config source graph resolution
      resolutionFingerprint = .ok artifact)
    {scenario : ScenarioApplicability} (isScenario : scenario ∈ artifact.scenarios)
    {item : ScenarioInstance} (isItem : item ∈ scenario.instances)
    (bound : scenario.scenarioId = .sg03 ∨ scenario.scenarioId = .sg07 →
      item.normalControlId ≠ none)
    {execution : Execution} (called : execution.CalledFor artifact item) :
    (∀ results, execution.executeInstance scenario.scenarioId = .ok results →
      List.Forall₂ (fun assertion result => result.assertionId = assertion.assertionId ∧
        (assertion.state ≠ .applicable →
          ∃ verdict, earlyVerdict artifact.policy scenario.scenarioId item assertion.state =
              some verdict ∧
            result.result = verdict.state ∧ result.reason = verdict.reason) ∧
        (assertion.state = .notApplicable → result.result = .notApplicable ∧
          ∀ check : VerificationCheck, check.result = result.result → ¬ Blocks check))
        item.assertions results) ∧
    ((∀ assertion ∈ item.assertions, assertion.state ≠ .applicable) →
      ∃ results, execution.executeInstance scenario.scenarioId = .ok results) := by
  have evaluated := evaluateApplicability_eq_ok produced
  have shape := evaluated.shape isScenario isItem
  have found : execution.item? scenario.scenarioId = some item := by
    rw [Execution.item?, called.applicability, called.instanceId]
    exact evaluated.scenarioInstance_eq isScenario isItem
  have early {assertion : AssertionApplicability} (isAssertion : assertion ∈ item.assertions)
      (inactive : assertion.state ≠ .applicable) :
      ∃ verdict result, earlyVerdict artifact.policy scenario.scenarioId item assertion.state =
          some verdict ∧ execution.assertionResult scenario.scenarioId assertion = .ok result ∧
        result.result = verdict.state ∧ result.reason = verdict.reason := by
    obtain ⟨verdict, isVerdict, settled⟩ :=
      reportOf_early called found shape bound isAssertion inactive
    obtain ⟨tiered, unverified⟩ := earlyVerdict_tiered isVerdict
    obtain ⟨result, packed, state, reason⟩ := packed_early execution scenario.scenarioId
      assertion.assertionId (execution.controlFor scenario.scenarioId assertion.key) settled tiered
      unverified
    exact ⟨verdict, result, isVerdict, packed, state, reason⟩
  rw [execution.executeInstance_eq found shape]
  constructor
  · intro results collected
    refine (collect_related collected).imp fun assertion result ⟨isAssertion, isResult⟩ => ?_
    obtain ⟨report, -, payload⟩ := Execution.packed_eq_ok isResult
    refine ⟨by rw [payload]; rfl, fun inactive => ?_, fun notApplicable => ?_⟩
    · obtain ⟨verdict, other, isVerdict, packed, state, reason⟩ := early isAssertion inactive
      rw [isResult, Except.ok.injEq] at packed
      rw [← packed] at state reason
      exact ⟨verdict, isVerdict, state, reason⟩
    · obtain ⟨verdict, other, isVerdict, packed, state, -⟩ :=
        early isAssertion (by simp [notApplicable])
      rw [isResult, Except.ok.injEq] at packed
      have notLate : ¬ (scenario.scenarioId = .sg08 ∧
          LateContextUnproven artifact.policy item) := by
        rintro ⟨late, context⟩
        rw [evaluated.instances scenario isScenario, late] at isItem
        exact sg08Instances_guarded isItem context.control isAssertion notApplicable
      rw [earlyVerdict, if_neg notLate, notApplicable] at isVerdict
      cases isVerdict
      rw [packed, state]
      exact ⟨rfl, fun check => not_blocks_of_notApplicable⟩
  · intro inactive
    refine collect_ok fun assertion isAssertion => ?_
    obtain ⟨-, result, -, packed, -⟩ := early isAssertion (inactive assertion isAssertion)
    exact ⟨result, packed⟩

/-! ### The results of two analyses -/

/-- What the results of an instance say. -/
def reported (results : Except String (List ScenarioExecutionResult)) :
    Option (List (AssertionId × VerificationResultState × ScenarioResultReasonCode)) :=
  results.toOption.map fun results =>
    results.map fun result => (result.assertionId, result.result, result.reason)

/-- The duplicate delivery of a webhook whose customer value is not resolved needs input. -/
theorem executors_early_fallback :
    ∃ artifact, evaluateApplicability sampleHashing none sampleSource
        (samplePartialGraph .webhook) none none = .ok artifact ∧
      ∃ scenario ∈ artifact.scenarios, scenario.scenarioId = .sg02 ∧
        ∃ item ∈ scenario.instances, item.normalControlId = none ∧
          ∃ results, (sampleExecution artifact (samplePartialGraph .webhook)
              item).executeInstance .sg02 = .ok results ∧
            List.Forall₂ (fun assertion result => result.assertionId = assertion.assertionId ∧
              result.result = .needsInput ∧ result.reason = .applicabilityNeedsInput)
              item.assertions results := by
  have produced : evaluateApplicability sampleHashing none sampleSource
      (samplePartialGraph .webhook) none none = .ok _ := rfl
  refine ⟨_, produced, _, List.mem_cons_of_mem _ List.mem_cons_self, rfl, _,
    List.mem_singleton_self _, rfl, ?_⟩
  obtain ⟨reports, returns⟩ := executors_early produced
    (List.mem_cons_of_mem _ List.mem_cons_self) (List.mem_singleton_self _)
    (fun others => by rcases others with other | other <;> cases other)
    (sampleExecution_called _ (samplePartialGraph .webhook) _)
  obtain ⟨results, executed⟩ := returns (by decide)
  refine ⟨results, executed, ?_⟩
  cases reports results executed with
  | cons head rest =>
    cases rest
    obtain ⟨identity, early, -⟩ := head
    obtain ⟨verdict, isVerdict, state, reason⟩ := early (by decide)
    cases isVerdict
    exact .cons ⟨identity, state, reason⟩ .nil

/-- The policies of a merchant that fulfils on authorisation. -/
def sampleAuthorizedPolicies : MerchantPolicyConfig :=
  { fulfilment := some ⟨.authorizedAllowed, "fulfilment evidence"⟩
    lateAuthorisation := some ⟨.fulfilLater, "late evidence"⟩ }

/-- Without a checkout callback the webhook-only scenario is not applicable, and unverified.
With a merchant that fulfils on authorisation the late authorisation is indeterminate, and
reported for its late context. -/
theorem earlyVerdict_superseded :
    (∃ artifact, evaluateApplicability sampleHashing none sampleSource
        (samplePartialGraph .webhook) none none = .ok artifact ∧
      ∃ row ∈ artifact.rows, row.1 = .sg07 ∧ row.2.2.state = .notApplicable ∧
        reported ((sampleExecution artifact (samplePartialGraph .webhook)
            row.2.1).executeInstance .sg07) =
          some [(row.2.2.assertionId, .unverified, .authorityMismatch)]) ∧
    ∃ artifact, evaluateApplicability sampleHashing (some sampleAuthorizedPolicies) sampleSource
        sampleRepeatGraph (some sampleResolution) (some "resolution") = .ok artifact ∧
      ∃ row ∈ artifact.rows, row.1 = .sg08 ∧ row.2.2.state = .indeterminate ∧
        reported ((sampleExecution artifact sampleRepeatGraph row.2.1).executeInstance .sg08) =
          some [(row.2.2.assertionId, .unverified, .merchantLateContextUnproven)] :=
  ⟨⟨_, rfl, by decide⟩, _, rfl, by decide⟩

end StateGuard
