import StateGuard.Application.Verification

/-!
# Admission

What the steps of an executor establish before it evaluates an assertion, and how they end
otherwise.  Every early return is a plain report, which any result can be packed with
(`Report.Plain`).  The steps raise in one way only: the executor abandons a session and
closing it raises (`Execution.Abandons`).  A session that gets through is admitted, under the
rules the reducers and the validator are proved against.
-/

namespace StateGuard

open Checks EarlyReturn

/-! ## Plain reports -/

/-- A report without observations that is not verified. -/
structure Report.Plain (scenario : ScenarioId) (report : Report) : Prop where
  observations : report.observations = []
  tiered : report.verdict.Tiered
  unverified : report.verdict.state.verified = false
  /-- Only the first scenario has a grounded input. -/
  grounded : ∀ input ∈ report.inputReference, input.isGrounded = true → scenario = .sg01

theorem Report.unverified_plain (scenario : ScenarioId) (reason : ScenarioResultReasonCode) :
    (Report.unverified reason).Plain scenario :=
  ⟨rfl, rfl, rfl, fun _ none => by cases none⟩

theorem RuntimeSessionOpenResult.unverified_plain (opened : RuntimeSessionOpenResult)
    (scenario : ScenarioId) (reason : ScenarioResultReasonCode) (withDiagnostics : Bool) :
    (opened.unverified reason withDiagnostics).Plain scenario :=
  ⟨rfl, rfl, rfl, fun _ none => by cases none⟩

theorem ClosedSession.unverified_plain (closed : ClosedSession) {scenario : ScenarioId}
    (reason : ScenarioResultReasonCode) {inputReference : Option ScenarioSafeInputReference}
    (grounded : ∀ input ∈ inputReference, input.isGrounded = true → scenario = .sg01) :
    (closed.unverified reason inputReference).Plain scenario :=
  ⟨rfl, rfl, rfl, grounded⟩

/-- Every report of an early return that carries no input is plain. -/
theorem early_plain (scenario : ScenarioId) {state : ApplicabilityState} {verdict : Verdict}
    (early : earlyApplicabilityResult state = some verdict) :
    ({ verdict := verdict } : Report).Plain scenario := by
  cases state with
  | applicable => cases early
  | notApplicable | needsInput | indeterminate =>
    cases early
    exact ⟨rfl, rfl, rfl, fun _ none => by cases none⟩

theorem ensures_returnEarly (scenario : ScenarioId) (state : ApplicabilityState) :
    Ensures (returnEarly state) (Report.Plain scenario) fun _ => state = .applicable := by
  refine .weaken (.returnSome fun report isReport => ?_) fun _ none => ?_
  · obtain ⟨verdict, early, rfl⟩ := Option.map_eq_some_iff.mp isReport
    exact early_plain scenario early
  · exact earlyApplicabilityResult_eq_none.mp (Option.map_eq_none_iff.mp none)

theorem earlyOr_plain (scenario : ScenarioId) (state : ApplicabilityState)
    (reason : ScenarioResultReasonCode) : (Execution.earlyOr state reason).Plain scenario := by
  cases state with
  | applicable | notApplicable | needsInput | indeterminate =>
    exact ⟨rfl, rfl, rfl, fun _ none => by cases none⟩

/-! ## Opening a session -/

/-- A session was opened for a configuration. -/
structure Execution.Opens (execution : Execution)
    (secrets : List (Bool × ScenarioResultReasonCode)) (configFingerprint : Sha256Digest)
    (opened : RuntimeSessionOpenResult) : Prop where
  config : execution.managedConfig = some configFingerprint
  secrets : missingSecret secrets = none
  opened : execution.opened = some opened

/-- The analysis, the configuration or the instance is not that of the preflight. -/
def Execution.Changed (execution : Execution) (scenario : ScenarioId) (item : ScenarioInstance)
    (configFingerprint : Sha256Digest) (opened : RuntimeSessionOpenResult) : Prop :=
  execution.Drifted configFingerprint opened ∨
    scenarioInstance opened.applicability scenario execution.scenarioInstanceId ≠ some item

section Opening

variable {execution : Execution} {rules : OpeningRules} {scenario : ScenarioId}
  {item : ScenarioInstance}

theorem openSession_eq_ok {opened : RuntimeSessionOpenResult} {session : ManagedRuntimeSession} :
    execution.openSession rules scenario item = .ok (opened, session) ↔
      ∃ configFingerprint, execution.Opens rules.secrets configFingerprint opened ∧
        ¬ execution.Changed scenario item configFingerprint opened ∧
        opened.managed? = some session := by
  simp only [Execution.openSession, bind_eq_ok, orReturn_eq_ok, returnSome_eq_ok,
    RuntimeSessionOpenResult.closeIf_eq_ok, pure_eq_ok, exists_unit, Option.map_eq_none_iff,
    Execution.Changed, not_or, Prod.mk.injEq]
  constructor
  · rintro ⟨config, isConfig, secrets, other, isOpened, fresh, same, managed, isManaged, rfl, rfl⟩
    exact ⟨config, ⟨isConfig, secrets, isOpened⟩, ⟨fresh, same⟩, isManaged⟩
  · rintro ⟨config, ⟨isConfig, secrets, isOpened⟩, ⟨fresh, same⟩, isManaged⟩
    exact ⟨config, isConfig, secrets, opened, isOpened, fresh, same, session, isManaged, rfl, rfl⟩

theorem raises_openSession :
    Raises (execution.openSession rules scenario item) ↔
      ∃ configFingerprint opened, execution.Opens rules.secrets configFingerprint opened ∧
        execution.Changed scenario item configFingerprint opened ∧ opened.CloseFails := by
  simp only [Execution.openSession, raises_bind, not_raises_orReturn, not_raises_returnSome,
    not_raises_pure, RuntimeSessionOpenResult.raises_closeIf, orReturn_eq_ok, returnSome_eq_ok,
    RuntimeSessionOpenResult.closeIf_eq_ok, exists_unit, Option.map_eq_none_iff, false_or,
    and_false, exists_false, or_false]
  constructor
  · rintro ⟨config, isConfig, secrets, opened, isOpened,
      ⟨drifted, fails⟩ | ⟨-, changed, fails⟩⟩
    · exact ⟨config, opened, ⟨isConfig, secrets, isOpened⟩, .inl drifted, fails⟩
    · exact ⟨config, opened, ⟨isConfig, secrets, isOpened⟩, .inr changed, fails⟩
  · rintro ⟨config, opened, ⟨isConfig, secrets, isOpened⟩, changed, fails⟩
    refine ⟨config, isConfig, secrets, opened, isOpened, ?_⟩
    by_cases drifted : execution.Drifted config opened
    · exact .inl ⟨drifted, fails⟩
    · exact .inr ⟨drifted, changed.resolve_left drifted, fails⟩

theorem ensures_openSession :
    Ensures (execution.openSession rules scenario item) (Report.Plain scenario)
      fun _ => True := by
  refine .bind (.orReturn fun _ => Report.unverified_plain _ _) fun config _ => ?_
  refine .bind (.returnSome fun report isReport => ?_) fun _ _ => ?_
  · obtain ⟨reason, -, rfl⟩ := Option.map_eq_some_iff.mp isReport
    exact Report.unverified_plain _ _
  refine .bind (.orReturn fun _ => Report.unverified_plain _ _) fun opened _ => ?_
  refine .bind (RuntimeSessionOpenResult.ensures_closeIf fun _ => opened.unverified_plain _ _ _)
    fun _ _ => ?_
  refine .bind (RuntimeSessionOpenResult.ensures_closeIf fun _ => opened.unverified_plain _ _ _)
    fun _ _ => ?_
  exact .bind (.orReturn fun _ => opened.unverified_plain _ _ _) fun _ _ => .pure trivial

theorem ensures_dispatch {opened : RuntimeSessionOpenResult} {session : ManagedRuntimeSession}
    {ingress : Option IngressRuntimeBinding} {count : Nat} {untrusted : Dispatch → Report}
    {returned : Report → Prop} (early : ∀ sent, returned (untrusted sent)) :
    Ensures (opened.dispatch session ingress count untrusted) returned fun _ => True := by
  unfold RuntimeSessionOpenResult.dispatch
  dsimp only
  split
  next => exact early _
  next => trivial

@[simp]
theorem not_raises_dispatch (opened : RuntimeSessionOpenResult) (session : ManagedRuntimeSession)
    (ingress : Option IngressRuntimeBinding) (count : Nat) (untrusted : Dispatch → Report) :
    ¬ Raises (opened.dispatch session ingress count untrusted) := by
  unfold RuntimeSessionOpenResult.dispatch
  dsimp only
  split
  next => exact not_raises_returns _
  next => exact not_raises_ok _

end Opening

/-! ## Admitted customer values -/

/-- A customer-value session was admitted for the control of its instance. -/
structure CustomerAdmission.Valid (scenario : ScenarioId)
    (normalControlId : Option NormalControlId) (admission : CustomerAdmission) : Prop where
  control : normalControlId = some admission.controlId
  admitted : Admitted scenario admission.artifact admission.closed.transcript
    admission.closed.requests admission.controlId
  input : InputMatches scenario admission.input admission.closed.requests.length

/-- The requests have no event of another control when the transcript has none. -/
theorem not_crossControl_eventsOf {transcript : RuntimeObservationTranscript}
    {controlId : NormalControlId} (none : ¬ CrossControl transcript.events controlId)
    (requests : List RuntimeRequestResult) :
    ¬ CrossControl (eventsOf transcript requests) controlId := by
  rintro ⟨event, isEvent, crosses⟩
  exact none ⟨event, (List.mem_filter.mp isEvent).1, crosses⟩

section Customers

variable {execution : Execution} {item : ScenarioInstance}

/-- A grounded input is a matter of the first scenario. -/
theorem PreparedInputs.captured_grounded (inputs : PreparedInputs)
    (customer : CustomerValueRuntimeCapability) (scenario : ScenarioId) :
    ∀ input ∈ some (inputs.captured customer), input.isGrounded = true → scenario = .sg01 := by
  intro input isInput grounded
  cases isInput
  cases grounded

theorem PreparedInputs.grounded_matches (inputs : PreparedInputs)
    (customer : CustomerValueRuntimeCapability) (requestCount : Nat) :
    InputMatches .sg01 (inputs.grounded customer) requestCount := by
  show (inputs.grounded customer).isScenarioInput = true
  unfold PreparedInputs.grounded
  split
  next => rfl
  next => rfl

theorem ensures_sg01Admission (found : execution.item? .sg01 = some item) :
    Ensures execution.sg01Admission (Report.Plain .sg01)
      (CustomerAdmission.Valid .sg01 item.normalControlId) := by
  have grounded (input : Option ScenarioSafeInputReference) :
      ∀ reference ∈ input, reference.isGrounded = true → ScenarioId.sg01 = .sg01 :=
    fun _ _ _ => rfl
  refine .bind (.returnIf fun _ => Report.unverified_plain _ _) fun _ _ => ?_
  rw [found, orReturn_bind]
  refine .bind (ensures_returnEarly .sg01 item.state) fun _ _ => ?_
  refine .bind (.orReturn fun _ => Report.unverified_plain _ _) fun controlId control => ?_
  refine .bind ensures_openSession fun (opened, session) _ => ?_
  refine .bind (ensures_dispatch fun _ => opened.unverified_plain _ _ _) fun closed _ => ?_
  refine .bind (.orReturn fun _ => closed.unverified_plain _ (grounded _)) fun customer _ => ?_
  refine .bind (.orReturn fun _ => closed.unverified_plain _ (grounded _)) fun request sole => ?_
  refine .bind (.returnIf fun _ => closed.unverified_plain _ (grounded _)) fun _ valid => ?_
  refine .bind (.returnIf fun _ => closed.unverified_plain _ (grounded _)) fun _ _ => ?_
  refine .bind (.returnIf fun _ => closed.unverified_plain _ (grounded _)) fun _ exact => ?_
  obtain ⟨authority, sameControl⟩ := not_or.mp exact
  have requests := single?_eq_some.mp sole
  refine .pure ⟨control, ⟨not_not.mp valid, ⟨request, requests, not_not.mp authority⟩, ?_⟩,
    execution.inputs.grounded_matches customer _⟩
  show ¬ CrossControl (eventsOf closed.transcript closed.requests) controlId
  rw [requests]
  exact sameControl

theorem ensures_sg02Admission (found : execution.item? .sg02 = some item) :
    Ensures execution.sg02Admission (Report.Plain .sg02)
      (CustomerAdmission.Valid .sg02 item.normalControlId) := by
  refine .bind (.returnIf fun _ => Report.unverified_plain _ _) fun _ _ => ?_
  rw [found, orReturn_bind]
  refine .bind (ensures_returnEarly .sg02 item.state) fun _ _ => ?_
  refine .bind (.orReturn fun _ => Report.unverified_plain _ _) fun controlId control => ?_
  refine .bind ensures_openSession fun (opened, session) _ => ?_
  refine .bind (ensures_dispatch fun _ => opened.unverified_plain _ _ _) fun closed _ => ?_
  refine .bind (.orReturn fun _ => closed.unverified_plain _ (by simp)) fun customer _ => ?_
  have grounded := execution.inputs.captured_grounded customer .sg02
  refine .bind (.returnIf fun _ => closed.unverified_plain _ grounded) fun _ valid => ?_
  refine .bind (.returnIf fun _ => closed.unverified_plain _ grounded) fun _ _ => ?_
  refine .bind (.returnIf fun _ => closed.unverified_plain _ grounded) fun _ _ => ?_
  refine .bind (.returnIf fun _ => closed.unverified_plain _ grounded) fun _ exact => ?_
  obtain ⟨authority, sameControl⟩ := not_or.mp exact
  exact .pure ⟨control, ⟨not_not.mp valid, not_not.mp authority, sameControl⟩, _, rfl⟩

theorem ensures_sg03Admission (found : execution.item? .sg03 = some item) :
    Ensures execution.sg03Admission (Report.Plain .sg03)
      (CustomerAdmission.Valid .sg03 item.normalControlId) := by
  refine .bind (.returnIf fun _ => Report.unverified_plain _ _) fun _ _ => ?_
  rw [found, orReturn_bind]
  refine .bind (.orReturn fun _ => Report.unverified_plain _ _) fun controlId control => ?_
  refine .bind (.orReturn fun _ => Report.unverified_plain _ _) fun assertion _ => ?_
  refine .bind (ensures_returnEarly .sg03 assertion.state) fun _ _ => ?_
  refine .bind ensures_openSession fun (opened, session) _ => ?_
  refine .bind (ensures_dispatch fun _ => opened.unverified_plain _ _ _) fun closed _ => ?_
  refine .bind (.orReturn fun _ => closed.unverified_plain _ (by simp))
    fun (customer, acknowledgement) _ => ?_
  have grounded := execution.inputs.captured_grounded customer .sg03
  refine .bind (.returnIf fun _ => closed.unverified_plain _ grounded) fun _ _ => ?_
  refine .bind (.returnIf fun _ => closed.unverified_plain _ grounded) fun _ valid => ?_
  refine .bind (.returnIf fun _ => closed.unverified_plain _ grounded) fun _ exact => ?_
  obtain ⟨-, rest⟩ := not_or.mp exact
  obtain ⟨authority, sameControl⟩ := not_or.mp rest
  exact .pure ⟨control, ⟨not_not.mp valid, not_not.mp authority,
    not_crossControl_eventsOf sameControl _⟩, _, rfl⟩

theorem ensures_sg07Admission (found : execution.item? .sg07 = some item) :
    Ensures execution.sg07Admission (Report.Plain .sg07)
      (CustomerAdmission.Valid .sg07 item.normalControlId) := by
  refine .bind (.returnIf fun _ => Report.unverified_plain _ _) fun _ _ => ?_
  rw [found, orReturn_bind]
  refine .bind (.orReturn fun _ => Report.unverified_plain _ _) fun controlId control => ?_
  refine .bind .attempt fun assertion _ => ?_
  refine .bind (ensures_returnEarly .sg07 assertion.state) fun _ _ => ?_
  refine .bind ensures_openSession fun (opened, session) _ => ?_
  refine .bind .attempt fun ingress _ => ?_
  refine .bind (ensures_dispatch fun _ => opened.unverified_plain _ _ _) fun closed _ => ?_
  refine .bind (.orReturn fun _ => closed.unverified_plain _ (by simp)) fun customer _ => ?_
  have grounded := execution.inputs.captured_grounded customer .sg07
  refine .bind (.returnIf fun _ => closed.unverified_plain _ (by simp)) fun _ _ => ?_
  refine .bind (.returnIf fun _ => closed.unverified_plain _ grounded) fun _ valid => ?_
  refine .bind (.returnIf fun _ => closed.unverified_plain _ grounded) fun _ exact => ?_
  obtain ⟨-, rest⟩ := not_or.mp exact
  obtain ⟨authority, sameControl⟩ := not_or.mp rest
  exact .pure ⟨control, ⟨not_not.mp valid, not_not.mp authority,
    not_crossControl_eventsOf sameControl _⟩, _, rfl⟩

theorem ensures_sg08Admission (found : execution.item? .sg08 = some item) (key : AssertionKey) :
    Ensures (execution.sg08Admission key) (Report.Plain .sg08)
      (CustomerAdmission.Valid .sg08 item.normalControlId) := by
  refine .bind (.returnIf fun _ => Report.unverified_plain _ _) fun _ _ => ?_
  rw [found, orReturn_bind]
  refine .bind (.returnIf fun _ => Report.unverified_plain _ _) fun _ _ => ?_
  refine .bind .attempt fun assertion _ => ?_
  refine .bind (.orReturn fun _ => earlyOr_plain _ _ _) fun controlId control => ?_
  refine .bind (.orReturn fun _ => earlyOr_plain _ _ _) fun fulfilment _ => ?_
  refine .bind (.orReturn fun _ => earlyOr_plain _ _ _) fun lateAuthorisation _ => ?_
  refine .bind (.returnIf fun _ => earlyOr_plain _ _ _) fun _ _ => ?_
  refine .bind (.returnIf fun _ => Report.unverified_plain _ _) fun _ threshold => ?_
  refine .bind (ensures_returnEarly .sg08 assertion.state) fun _ _ => ?_
  refine .bind ensures_openSession fun (opened, session) _ => ?_
  dsimp only
  generalize sufficientCustomer? opened.artifact controlId = target
  refine .bind (ensures_dispatch fun sent => ?_) fun closed _ => ?_
  · refine ⟨rfl, rfl, rfl, fun input isInput grounded => ?_⟩
    cases target with
    | none => cases isInput
    | some customer =>
      cases isInput
      cases grounded
  refine .bind (.orReturn fun _ => closed.unverified_plain _ (by simp)) fun input isInput => ?_
  have grounded : ∀ reference ∈ some (ScenarioSafeInputReference.lateAuthorisationInput input),
      reference.isGrounded = true → ScenarioId.sg08 = .sg01 := by
    intro reference isReference grounded
    cases isReference
    cases grounded
  refine .bind (.returnIf fun _ => closed.unverified_plain _ grounded) fun _ count => ?_
  refine .bind (.returnIf fun _ => closed.unverified_plain _ grounded) fun _ valid => ?_
  refine .bind (.returnIf fun _ => closed.unverified_plain _ grounded) fun _ exact => ?_
  obtain ⟨-, rest⟩ := not_or.mp exact
  obtain ⟨authority, sameControl⟩ := not_or.mp rest
  refine .pure ⟨control, ⟨not_not.mp valid, not_not.mp authority,
    not_crossControl_eventsOf sameControl _⟩, input, rfl, ?_, (not_not.mp count).symm⟩
  obtain ⟨customer, -, rfl⟩ := Option.map_eq_some_iff.mp isInput
  show fulfilment = .captureRequired
  cases fulfilment with
  | captureRequired => rfl
  | authorizedAllowed => exact absurd rfl threshold

end Customers

/-! ## Admitted trust scenarios -/

/-- A trust session was admitted for the assertion with a key. -/
structure TrustAdmission.Valid (scenario : ScenarioId) (customerKey key : AssertionKey)
    (normalControlId : Option NormalControlId) (admission : TrustAdmission) : Prop where
  valid : validateObservationTranscript admission.artifact admission.closed.transcript = .ok ()
  exact : SequenceAuthorityIsExact admission.closed.transcript admission.closed.requests
  pair : admission.closed.requests.length = 2
  input : InputMatches scenario admission.input 2
  distinct : admission.nodeIds.Nodup
  tracked : admission.capable = true → admission.nodeIds ≠ []
  control : key = customerKey → admission.controlId = normalControlId
  /-- The control of the customer value has every customer-value event. -/
  sameControl : key = customerKey → ∀ controlId, admission.controlId = some controlId →
    ¬ CrossControl (eventsOf admission.closed.transcript admission.closed.requests) controlId

theorem get?_of_assertionAt {assertions : Dict AssertionKey AssertionApplicability}
    {key : AssertionKey} {assertion : AssertionApplicability}
    (found : Execution.assertionAt assertions key = .ok assertion) :
    assertions.get? key = some assertion := by
  unfold Execution.assertionAt at found
  cases located : assertions.get? key with
  | none => simp [located] at found
  | some other => simpa [located] using found

/-- The assertion with a key was found applicable. -/
theorem applies_of_found {assertions : Dict AssertionKey AssertionApplicability}
    {key : AssertionKey} {assertion : AssertionApplicability}
    (found : Execution.assertionAt assertions key = .ok assertion)
    (applicable : assertion.state = .applicable) : Execution.Applies assertions key :=
  ⟨assertion, by simp [get?_of_assertionAt found], applicable⟩

section Trust

variable {execution : Execution} {item : ScenarioInstance}

theorem InputMatches.not_grounded {scenario : ScenarioId} {input : ScenarioSafeInputReference}
    {requestCount : Nat} (matching : InputMatches scenario input requestCount) :
    ∀ reference ∈ some input, reference.isGrounded = true → scenario = .sg01 := by
  intro reference isReference grounded
  cases isReference
  exact matching.scenario_of_grounded grounded

theorem ensures_dispatchTrust {scenario : ScenarioId} {opened : RuntimeSessionOpenResult}
    {session : ManagedRuntimeSession} {ingress : IngressRuntimeBinding} {shouldExecute : Prop}
    [Decidable shouldExecute] {input : ScenarioSafeInputReference}
    (matching : InputMatches scenario input 2) :
    Ensures (opened.dispatchTrust session ingress shouldExecute input) (Report.Plain scenario)
      fun closed => closed.requests.length = 2 ∧
        validateObservationTranscript opened.artifact closed.transcript = .ok () := by
  refine .bind (ensures_dispatch fun _ => opened.unverified_plain _ _ _) fun closed _ => ?_
  refine .bind (.returnIf fun _ => closed.unverified_plain _ (by simp)) fun _ _ => ?_
  refine .bind (.returnIf fun _ => closed.unverified_plain _ matching.not_grounded)
    fun _ pair => ?_
  refine .bind (.returnIf fun _ => closed.unverified_plain _ matching.not_grounded)
    fun _ valid => ?_
  exact .pure ⟨not_not.mp pair, not_not.mp valid⟩

@[simp]
theorem not_raises_dispatchTrust (opened : RuntimeSessionOpenResult)
    (session : ManagedRuntimeSession) (ingress : IngressRuntimeBinding) (shouldExecute : Prop)
    [Decidable shouldExecute] (input : ScenarioSafeInputReference) :
    ¬ Raises (opened.dispatchTrust session ingress shouldExecute input) := by
  simp [RuntimeSessionOpenResult.dispatchTrust, raises_bind]

theorem ensures_sg04Admission (found : execution.item? .sg04 = some item) (key : AssertionKey) :
    Ensures (execution.sg04Admission key) (Report.Plain .sg04)
      (TrustAdmission.Valid .sg04 .sg04CustomerValue key item.normalControlId) := by
  refine .bind (.returnIf fun _ => Report.unverified_plain _ _) fun _ _ => ?_
  rw [found, orReturn_bind]
  refine .bind .attempt fun assertion _ => ?_
  refine .bind (ensures_returnEarly .sg04 assertion.state) fun _ _ => ?_
  refine .bind (.orReturn fun _ => Report.unverified_plain _ _) fun controlId control => ?_
  refine .bind ensures_openSession fun (opened, session) _ => ?_
  refine .bind (RuntimeSessionOpenResult.ensures_closeIf fun _ => opened.unverified_plain _ _ _)
    fun _ _ => ?_
  refine .bind (.orReturn fun _ => opened.unverified_plain _ _ _) fun ingress _ => ?_
  refine .bind .attempt fun regression _ => ?_
  have matching : InputMatches .sg04 (execution.sg04Input ingress.effectivePath) 2 := ⟨_, rfl⟩
  refine .bind (ensures_dispatchTrust matching) fun closed ⟨pair, valid⟩ => ?_
  refine .bind (.returnIf fun _ => closed.unverified_plain _ matching.not_grounded)
    fun _ exact => ?_
  obtain ⟨-, rest⟩ := not_or.mp exact
  obtain ⟨authority, sameControl⟩ := not_or.mp rest
  refine .pure ⟨valid, not_not.mp authority, pair, matching, evidenceNodeIds_nodup _,
    fun capable => (of_decide_eq_true capable).tracked, fun _ => control.symm, ?_⟩
  rintro - other same
  rw [← Option.some.inj same]
  exact not_crossControl_eventsOf sameControl _

theorem ensures_sg05Admission (found : execution.item? .sg05 = some item) (key : AssertionKey) :
    Ensures (execution.sg05Admission key) (Report.Plain .sg05)
      (TrustAdmission.Valid .sg05 .sg05CustomerValue key
        (Execution.controlOf item .sg05CustomerValue key)) := by
  refine .bind (.returnIf fun _ => Report.unverified_plain _ _) fun _ _ => ?_
  rw [found, orReturn_bind]
  refine .bind .attempt fun assertion isAssertion => ?_
  refine .bind (ensures_returnEarly .sg05 assertion.state) fun _ applicable => ?_
  refine .bind ensures_openSession fun (opened, session) _ => ?_
  refine .bind (RuntimeSessionOpenResult.ensures_closeIf fun _ => opened.unverified_plain _ _ _)
    fun _ _ => ?_
  refine .bind (.orReturn fun _ => opened.unverified_plain _ _ _) fun ingress _ => ?_
  refine .bind .attempt fun mutation _ => ?_
  refine .bind .attempt fun value isValue => ?_
  have matching : InputMatches .sg05 (execution.sg05Input ingress.effectivePath) 2 := ⟨_, rfl⟩
  refine .bind (ensures_dispatchTrust matching) fun closed ⟨pair, valid⟩ => ?_
  refine .bind (.returnIf fun _ => closed.unverified_plain _ matching.not_grounded)
    fun _ _ => ?_
  refine .bind (.returnIf fun _ => closed.unverified_plain _ matching.not_grounded)
    fun _ exact => ?_
  obtain ⟨authority, rest⟩ := not_or.mp exact
  obtain ⟨sameControl, -⟩ := not_or.mp rest
  refine .pure ⟨valid, not_not.mp authority, pair, matching, evidenceNodeIds_nodup _,
    fun capable => (of_decide_eq_true capable).tracked, ?_, ?_⟩
  · rintro rfl
    rw [Execution.controlOf, if_pos rfl, get?_of_assertionAt isValue]
    rfl
  · rintro rfl controlId same ⟨event, isEvent, customer, other⟩
    exact sameControl ⟨applies_of_found isAssertion applicable, event, isEvent, customer,
      fun equal => other (equal.trans same)⟩

theorem ensures_sg06Admission (found : execution.item? .sg06 = some item) (key : AssertionKey) :
    Ensures (execution.sg06Admission key) (Report.Plain .sg06)
      (TrustAdmission.Valid .sg06 .sg06CustomerValue key
        (Execution.controlOf item .sg06CustomerValue key)) := by
  refine .bind (.returnIf fun _ => Report.unverified_plain _ _) fun _ _ => ?_
  rw [found, orReturn_bind]
  refine .bind .attempt fun assertion isAssertion => ?_
  refine .bind (ensures_returnEarly .sg06 assertion.state) fun _ applicable => ?_
  refine .bind ensures_openSession fun (opened, session) _ => ?_
  refine .bind (RuntimeSessionOpenResult.ensures_closeIf fun _ => opened.unverified_plain _ _ _)
    fun _ _ => ?_
  refine .bind (.orReturn fun _ => opened.unverified_plain _ _ _) fun ingress _ => ?_
  refine .bind (RuntimeSessionOpenResult.ensures_closeIf fun _ => opened.unverified_plain _ _ _)
    fun _ _ => ?_
  refine .bind (.orReturn fun _ => opened.unverified_plain _ _ _) fun binding _ => ?_
  refine .bind .attempt fun mutation _ => ?_
  refine .bind .attempt fun value isValue => ?_
  have matching : InputMatches .sg06 (execution.sg06Input binding ingress.effectivePath) 2 :=
    ⟨_, rfl⟩
  refine .bind (ensures_dispatchTrust matching) fun closed ⟨pair, valid⟩ => ?_
  refine .bind (.returnIf fun _ => closed.unverified_plain _ matching.not_grounded)
    fun _ exact => ?_
  obtain ⟨-, rest⟩ := not_or.mp exact
  obtain ⟨authority, rest⟩ := not_or.mp rest
  obtain ⟨sameControl, -⟩ := not_or.mp rest
  refine .pure ⟨valid, not_not.mp authority, pair, matching, evidenceNodeIds_nodup _,
    fun capable => (of_decide_eq_true capable).tracked, ?_, ?_⟩
  · rintro rfl
    rw [Execution.controlOf, if_pos rfl, get?_of_assertionAt isValue]
    rfl
  · rintro rfl controlId same ⟨event, isEvent, customer, other⟩
    have known : value.normalControlId = some controlId := same
    exact sameControl ⟨by rw [known]; rfl, event, (List.mem_filter.mp isEvent).1, customer,
      fun equal => other (equal.trans same)⟩

end Trust

/-! ## Abandoned sessions -/

namespace Execution

variable (execution : Execution)

/-- What the environment must supply to the executor of a scenario. -/
def secretsFor : ScenarioId → List (Bool × ScenarioResultReasonCode)
  | .sg06 => execution.sg06Opening.secrets
  | _ => execution.webhookSecrets

end Execution

/-- The session has no ingress for a trust scenario to send its requests to. -/
def RuntimeSessionOpenResult.Unplanned (opened : RuntimeSessionOpenResult)
    (scenario : ScenarioId) (item : ScenarioInstance) : Prop :=
  match scenario with
  | .sg04 | .sg05 => opened.plannedIngress? item = none
  | .sg06 => (opened.plannedIngress? item).bind (·.checkoutRequestBinding) = none
  | _ => False

/-- The executor gives up a session it opened, and closing it raises. -/
def Execution.Abandons (execution : Execution) (scenario : ScenarioId)
    (item : ScenarioInstance) : Prop :=
  ∃ configFingerprint opened,
    execution.Opens (execution.secretsFor scenario) configFingerprint opened ∧
      opened.CloseFails ∧
      (execution.Changed scenario item configFingerprint opened ∨
        opened.managed?.isSome ∧ opened.Unplanned scenario item)

section Abandoned

variable {execution : Execution} {hashing : Hashing} {item : ScenarioInstance}
  {assertion : AssertionApplicability}

/-- Steps that follow an opened session raise when the opening does or when they do. -/
theorem raises_openSession_bind {α : Type} {rules : OpeningRules} {scenario : ScenarioId}
    (secrets : rules.secrets = execution.secretsFor scenario)
    {rest : RuntimeSessionOpenResult × ManagedRuntimeSession → Steps String Report α}
    (restRaises : ∀ opened session, opened.managed? = some session →
      scenarioInstance opened.applicability scenario execution.scenarioInstanceId = some item →
      (Raises (rest (opened, session)) ↔ opened.Unplanned scenario item ∧ opened.CloseFails)) :
    Raises (execution.openSession rules scenario item >>= rest) ↔
      execution.Abandons scenario item := by
  rw [raises_bind, raises_openSession, Execution.Abandons, secrets]
  constructor
  · rintro (⟨config, opened, opens, changed, fails⟩ | ⟨⟨opened, session⟩, isOpen, raised⟩)
    · exact ⟨config, opened, opens, fails, .inl changed⟩
    · obtain ⟨config, opens, unchanged, managed⟩ := openSession_eq_ok.mp isOpen
      obtain ⟨unplanned, fails⟩ :=
        (restRaises opened session managed (not_not.mp (not_or.mp unchanged).2)).mp raised
      exact ⟨config, opened, secrets ▸ opens, fails, .inr ⟨by simp [managed], unplanned⟩⟩
  · rintro ⟨config, opened, opens, fails, reason⟩
    by_cases changed : execution.Changed scenario item config opened
    · exact .inl ⟨config, opened, opens, changed, fails⟩
    · obtain ⟨managed, unplanned⟩ := reason.resolve_left changed
      obtain ⟨session, isManaged⟩ := Option.isSome_iff_exists.mp managed
      refine .inr ⟨(opened, session),
        openSession_eq_ok.mpr ⟨config, secrets ▸ opens, changed, isManaged⟩, ?_⟩
      exact (restRaises opened session isManaged (not_not.mp (not_or.mp changed).2)).mpr
        ⟨unplanned, fails⟩

theorem raises_sg01Admission (fresh : ¬ execution.Stale)
    (found : execution.item? .sg01 = some item) (applicable : item.state = .applicable)
    {controlId : NormalControlId} (control : item.normalControlId = some controlId) :
    Raises execution.sg01Admission ↔ execution.Abandons .sg01 item := by
  rw [Execution.sg01Admission, returnIf_bind fresh, found, orReturn_bind,
    returnEarly_applicable_bind applicable, control, orReturn_bind]
  exact raises_openSession_bind rfl fun opened session _ _ => by
    simp [raises_bind, RuntimeSessionOpenResult.Unplanned]

theorem raises_sg02Admission (fresh : ¬ execution.Stale)
    (found : execution.item? .sg02 = some item) (applicable : item.state = .applicable)
    {controlId : NormalControlId} (control : item.normalControlId = some controlId) :
    Raises execution.sg02Admission ↔ execution.Abandons .sg02 item := by
  rw [Execution.sg02Admission, returnIf_bind fresh, found, orReturn_bind,
    returnEarly_applicable_bind applicable, control, orReturn_bind]
  exact raises_openSession_bind rfl fun opened session _ _ => by
    simp [raises_bind, RuntimeSessionOpenResult.Unplanned]

theorem raises_sg03Admission (fresh : ¬ execution.Stale)
    (found : execution.item? .sg03 = some item) (sole : item.assertions = [assertion])
    (key : assertion.key = .sg03) (applicable : assertion.state = .applicable)
    {controlId : NormalControlId} (control : item.normalControlId = some controlId) :
    Raises execution.sg03Admission ↔ execution.Abandons .sg03 item := by
  have selected : item.assertions.find? (·.key = .sg03) = some assertion := by simp [sole, key]
  rw [Execution.sg03Admission, returnIf_bind fresh, found, orReturn_bind, control, orReturn_bind,
    selected, orReturn_bind, returnEarly_applicable_bind applicable]
  exact raises_openSession_bind rfl fun opened session _ _ => by
    simp [raises_bind, RuntimeSessionOpenResult.Unplanned]

/-- The instance of an artifact that names a control names one of its controls. -/
theorem exists_control {artifact : ScenarioApplicabilityArtifact}
    (valid : artifact.validateArtifact = .ok ()) {scenario : ScenarioId}
    {instanceId : ScenarioInstanceId}
    (found : scenarioInstance artifact scenario instanceId = some item)
    {controlId : NormalControlId} (named : item.normalControlId = some controlId) :
    ∃ control, control ∈ artifact.normalControls := by
  obtain ⟨built, isBuilt, isItem⟩ := Option.bind_eq_some_iff.mp found
  simp only [ScenarioApplicabilityPayload.validateArtifact, bind_eq_ok, exists_unit, raiseIf_eq_ok,
    forEach_eq_ok] at valid
  have validItem := valid.2.2.2 built (List.mem_of_find?_eq_some isBuilt) item
    (List.mem_of_find?_eq_some isItem)
  simp only [ScenarioApplicabilityPayload.validateInstance, named] at validItem
  cases known : artifact.control? controlId with
  | none => simp [known] at validItem
  | some control => exact ⟨control, List.mem_of_find?_eq_some known⟩

/-- The session of an instance of a control has an ingress. -/
theorem RuntimeSessionOpenResult.ingresses_ne_nil {opened : RuntimeSessionOpenResult}
    {scenario : ScenarioId} {instanceId : ScenarioInstanceId}
    (found : scenarioInstance opened.applicability scenario instanceId = some item)
    {controlId : NormalControlId} (named : item.normalControlId = some controlId) :
    opened.ingresses ≠ [] := by
  obtain ⟨control, isControl⟩ := exists_control opened.applicabilityValid found named
  intro none
  have planned := opened.controlsPlanned control isControl
  rw [none] at planned
  cases planned

theorem raises_sg07Admission (fresh : ¬ execution.Stale)
    (found : execution.item? .sg07 = some item) (sole : item.assertions = [assertion])
    (applicable : assertion.state = .applicable)
    {controlId : NormalControlId} (control : item.normalControlId = some controlId) :
    Raises execution.sg07Admission ↔ execution.Abandons .sg07 item := by
  rw [Execution.sg07Admission, returnIf_bind fresh, found, orReturn_bind, control, orReturn_bind,
    sole, Execution.firstOf, attempt_bind, returnEarly_applicable_bind applicable]
  refine raises_openSession_bind rfl fun opened session _ same => ?_
  obtain ⟨ingress, isIngress⟩ :
      ∃ ingress, Execution.webhookOnlyIngress opened controlId = .ok ingress := by
    unfold Execution.webhookOnlyIngress
    split
    next customer _ _ => exact ⟨_, rfl⟩
    next ingress _ _ _ => exact ⟨ingress, rfl⟩
    next none => exact absurd none (opened.ingresses_ne_nil same control)
  simp [raises_bind, isIngress, RuntimeSessionOpenResult.Unplanned]

/-- A key of the instance has its assertion. -/
theorem InstanceShape.exists_assertionAt {scenario : ScenarioId}
    (shape : InstanceShape hashing scenario item) {key : AssertionKey} (isKey : key ∈ item.keys) :
    ∃ assertion, Execution.assertionAt (Execution.assertionsByKey item) key = .ok assertion := by
  obtain ⟨assertion, isAssertion, rfl⟩ := List.mem_map.mp isKey
  exact ⟨assertion, shape.assertionAt isAssertion⟩

theorem raises_sg04Admission (fresh : ¬ execution.Stale)
    (found : execution.item? .sg04 = some item) (shape : InstanceShape hashing .sg04 item)
    (isAssertion : assertion ∈ item.assertions) (applicable : assertion.state = .applicable) :
    Raises (execution.sg04Admission assertion.key) ↔ execution.Abandons .sg04 item := by
  obtain ⟨hasControl, keys⟩ := shape.supplies assertion isAssertion applicable
  obtain ⟨controlId, control⟩ := Option.isSome_iff_exists.mp hasControl
  obtain ⟨regression, isRegression⟩ :=
    shape.exists_assertionAt (keys .sg04StateRegression (by simp [ScenarioId.assertionKeys]))
  simp only [Execution.sg04Admission, returnIf_bind fresh, found, orReturn_bind,
    shape.assertionAt isAssertion, attempt_bind, returnEarly_applicable_bind applicable, control]
  refine raises_openSession_bind rfl fun opened session _ _ => ?_
  simp [raises_bind, RuntimeSessionOpenResult.raises_closeIf, isRegression,
    RuntimeSessionOpenResult.Unplanned]

theorem raises_sg05Admission (fresh : ¬ execution.Stale)
    (found : execution.item? .sg05 = some item) (shape : InstanceShape hashing .sg05 item)
    (isAssertion : assertion ∈ item.assertions) (applicable : assertion.state = .applicable) :
    Raises (execution.sg05Admission assertion.key) ↔ execution.Abandons .sg05 item := by
  have keys := shape.supplies assertion isAssertion applicable
  obtain ⟨mutation, isMutation⟩ :=
    shape.exists_assertionAt (keys .sg05Mutation (by simp [ScenarioId.assertionKeys]))
  obtain ⟨value, isValue⟩ :=
    shape.exists_assertionAt (keys .sg05CustomerValue (by simp [ScenarioId.assertionKeys]))
  simp only [Execution.sg05Admission, returnIf_bind fresh, found, orReturn_bind,
    shape.assertionAt isAssertion, attempt_bind, returnEarly_applicable_bind applicable]
  refine raises_openSession_bind rfl fun opened session _ _ => ?_
  simp [raises_bind, RuntimeSessionOpenResult.raises_closeIf, isMutation, isValue,
    RuntimeSessionOpenResult.Unplanned]

theorem raises_sg06Admission (fresh : ¬ execution.Stale)
    (found : execution.item? .sg06 = some item) (shape : InstanceShape hashing .sg06 item)
    (isAssertion : assertion ∈ item.assertions) (applicable : assertion.state = .applicable) :
    Raises (execution.sg06Admission assertion.key) ↔ execution.Abandons .sg06 item := by
  have keys := shape.supplies assertion isAssertion applicable
  obtain ⟨mutation, isMutation⟩ :=
    shape.exists_assertionAt (keys .sg06Mutation (by simp [ScenarioId.assertionKeys]))
  obtain ⟨value, isValue⟩ :=
    shape.exists_assertionAt (keys .sg06CustomerValue (by simp [ScenarioId.assertionKeys]))
  simp only [Execution.sg06Admission, returnIf_bind fresh, found, orReturn_bind,
    shape.assertionAt isAssertion, attempt_bind, returnEarly_applicable_bind applicable]
  refine raises_openSession_bind rfl fun opened session _ _ => ?_
  cases planned : opened.plannedIngress? item with
  | none =>
    simp [raises_bind, RuntimeSessionOpenResult.raises_closeIf, planned,
      RuntimeSessionOpenResult.Unplanned]
  | some ingress =>
    simp [raises_bind, RuntimeSessionOpenResult.raises_closeIf, planned, isMutation, isValue,
      RuntimeSessionOpenResult.Unplanned]

theorem raises_sg08Admission (fresh : ¬ execution.Stale)
    (found : execution.item? .sg08 = some item) (shape : InstanceShape hashing .sg08 item)
    (isAssertion : assertion ∈ item.assertions) (applicable : assertion.state = .applicable)
    (ready : LatePoliciesReady execution.applicability.policy) :
    Raises (execution.sg08Admission assertion.key) ↔ execution.Abandons .sg08 item := by
  obtain ⟨controlId, control⟩ :=
    Option.isSome_iff_exists.mp (shape.supplies assertion isAssertion applicable).1
  obtain ⟨lateAuthorisation, late⟩ := Option.ne_none_iff_exists'.mp ready.lateAuthorisation
  have current : ¬ (execution.applicability.policy.fulfilment.evidenceCurrent ≠ some true ∨
      execution.applicability.policy.lateAuthorisation.evidenceCurrent ≠ some true) := by
    simp [ready.fulfilmentCurrent, ready.lateCurrent]
  rw [Execution.sg08Admission, returnIf_bind fresh, found, orReturn_bind]
  dsimp only
  rw [returnIf_bind (by simp [control]), shape.assertionAt isAssertion, attempt_bind, control,
    orReturn_bind, ready.fulfilment, orReturn_bind, late, orReturn_bind, returnIf_bind current,
    returnIf_bind (by simp), returnEarly_applicable_bind applicable]
  exact raises_openSession_bind rfl fun opened session _ _ => by
    simp [raises_bind, RuntimeSessionOpenResult.Unplanned]

end Abandoned

end StateGuard
