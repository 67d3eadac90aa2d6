import StateGuard.Application.Admission
import StateGuard.Application.EarlyResults

/-!
# Which assertions complete

An executor that is reached by an applicable assertion raises in three ways: it abandons a
session whose closing raises, it summarises a request whose status is not between 100 and 599,
or it packs a state pass that the validator rejects.  `Execution.Completes` excludes them, and
`assertionResult_ok_iff` says that an applicable assertion has a result exactly when it
completes.  An assertion that is not applicable always has one (`assertionResult_inactive`).
-/

namespace StateGuard

open Checks EarlyReturn KeyOrder

/-! ## Packing a sequence of steps -/

section Packed

variable {execution : Execution} {scenario : ScenarioId} {assertionId : AssertionId}
  {normalControlId : Option NormalControlId}

theorem packed_pure (report : Report) :
    execution.packed scenario assertionId normalControlId (pure report) =
      makeResult execution.resultFingerprint
        (execution.packing scenario assertionId normalControlId report) report.verdict
        report.observations := rfl

/-- A plain report is always packed. -/
theorem packed_of_plain {steps : Steps String Report Report} {report : Report}
    (plain : report.Plain scenario) (settled : settle steps = .ok report) :
    ∃ r, execution.packed scenario assertionId normalControlId steps = .ok r := by
  rw [Execution.packed, settled, ok_bind, plain.observations]
  exact makeResult_unobserved plain.tiered plain.unverified plain.grounded

/-- A sequence whose early returns are plain is packed unless a step raises. -/
theorem packed_bind_iff {α : Type} {first : Steps String Report α} {done : α → Prop}
    (ensures : Ensures first (Report.Plain scenario) done)
    (rest : α → Steps String Report Report) :
    (∃ r, execution.packed scenario assertionId normalControlId (first >>= rest) = .ok r) ↔
      ¬ Raises first ∧ ∀ a, first = .ok a →
        ∃ r, execution.packed scenario assertionId normalControlId (rest a) = .ok r := by
  match first with
  | .ok a =>
    show (∃ r, execution.packed scenario assertionId normalControlId (rest a) = .ok r) ↔ _
    simp
  | .error (.returns report) =>
    refine iff_of_true (packed_of_plain (show report.Plain scenario from ensures) rfl) ?_
    simp
  | .error (.raises exception) =>
    refine iff_of_false ?_ fun raises => raises.1 ⟨exception, rfl⟩
    rintro ⟨r, packed⟩
    cases packed

end Packed

/-! ## Evaluated assertions -/

/-- The packing of a sealed report carries its complete authority. -/
theorem packing_sealed (execution : Execution) {scenario : ScenarioId} {closed : ClosedSession}
    (controlId : NormalControlId) {input : ScenarioSafeInputReference}
    (matching : InputMatches scenario input closed.requests.length) (assertionId : AssertionId)
    {report : Report} (runtime : report.runtime = some closed.runtime)
    (isInput : report.inputReference = some input) :
    SealedPacking scenario (execution.packing scenario assertionId (some controlId) report)
      closed.requests controlId := by
  have authority : (execution.packing scenario assertionId (some controlId) report).authority =
      baseAuthority execution.applicability.applicabilityFingerprint execution.scenarioInstanceId
        (some controlId) (some closed.runtime) := by
    rw [← runtime]
    rfl
  exact
    { sameScenario := rfl
      control := by rw [authority]; rfl
      requestIds := by rw [authority]; rfl
      capability := by rw [authority]; rfl
      session := by rw [authority]; rfl
      transcript := by rw [authority]; rfl
      input := ⟨input, isInput, matching⟩ }

/-- Every verdict of an admitted customer value is packed. -/
theorem customerVerdict_packed {fingerprint : ScenarioResultPayload → Sha256Digest}
    {scenario : ScenarioId} {artifact : RuntimeCapabilityArtifact}
    {transcript : RuntimeObservationTranscript} {requests : List RuntimeRequestResult}
    {controlId : NormalControlId} {packing : Packing}
    (admitted : Admitted scenario artifact transcript requests controlId)
    (authority : SealedPacking scenario packing requests controlId)
    {observations : List ScenarioRequestObservation}
    (observes : List.Forall₂ (Observes scenario transcript controlId) requests observations)
    (lateAuthorisation : LateAuthorisationPolicy) (index : Nat) (mayPass : Bool) :
    ∃ r, makeResult fingerprint packing
      (customerVerdict scenario lateAuthorisation index mayPass observations)
      (observations.map .customer) = .ok r := by
  have unverified (reason : ScenarioResultReasonCode) :
      ∃ r, makeResult fingerprint packing (.unverified reason) (observations.map .customer) =
        .ok r :=
    (authority.makeResult_iff observes (Verdict.unverified_tiered reason)).mpr
      ((authority.customerPayload _ observations).accepted_of_unverified ⟨reason, rfl⟩)
  unfold customerVerdict
  dsimp only
  split
  next => exact unverified _
  next =>
    cases given : (customerVerdicts scenario lateAuthorisation observations)[index]? with
    | none => exact unverified _
    | some verdict =>
      have isGiven := List.mem_of_getElem? given
      exact (authority.makeResult_iff observes (customerVerdicts_built isGiven).tiered).mpr
        (customerVerdicts_validate admitted authority observes isGiven)

/-- The result of an admitted customer value is packed exactly when every request was answered
with a status in range. -/
theorem packed_customer_iff (execution : Execution) {scenario : ScenarioId}
    {artifact : RuntimeCapabilityArtifact} {closed : ClosedSession} {controlId : NormalControlId}
    {input : ScenarioSafeInputReference}
    (admitted : Admitted scenario artifact closed.transcript closed.requests controlId)
    (matching : InputMatches scenario input closed.requests.length) (assertionId : AssertionId)
    (acknowledgementNodeId : GraphNodeId) (lateAuthorisation : LateAuthorisationPolicy)
    (index : Nat) (mayPass : Bool) :
    (∃ r, execution.packed scenario assertionId (some controlId)
        (closed.evaluateCustomer scenario controlId acknowledgementNodeId lateAuthorisation index
          mayPass input) = .ok r) ↔
      ∀ request ∈ closed.requests, StatusInRange request.statusCode := by
  rw [← observeCustomers_ok_iff scenario closed.transcript controlId acknowledgementNodeId,
    ClosedSession.evaluateCustomer, packed_bind_iff .attempt, raises_attempt]
  constructor
  · rintro ⟨returns, -⟩
    rcases ok_or_error (observeCustomers scenario closed.transcript controlId
      acknowledgementNodeId closed.requests) with built | raised
    · exact built
    · exact absurd raised returns
  · rintro ⟨observations, built⟩
    refine ⟨by simp [built], fun other isOther => ?_⟩
    rw [attempt_eq_ok, built, Except.ok.injEq] at isOther
    subst isOther
    have observes := observeCustomers_eq_ok built
    exact customerVerdict_packed admitted
      (packing_sealed execution controlId matching assertionId rfl rfl) observes _ _ _

/-- A report of the closed session with an input of its scenario is plain when nothing is
observed. -/
theorem TrustAdmission.insufficient_plain {scenario : ScenarioId} {admission : TrustAdmission}
    (matching : InputMatches scenario admission.input 2) :
    admission.insufficient.Plain scenario :=
  admission.closed.unverified_plain _ matching.not_grounded

/-- The customer value of an admitted trust session is packed unless it is observed and a
status is out of range. -/
theorem packed_customerReport_iff (execution : Execution) {scenario : ScenarioId}
    (several : scenario ≠ .sg01) {customerKey : AssertionKey}
    {control : Option NormalControlId} {admission : TrustAdmission}
    (valid : admission.Valid scenario customerKey customerKey control)
    (assertionId : AssertionId) :
    (∃ r, execution.packed scenario assertionId control (admission.customerReport scenario) =
        .ok r) ↔
      (admission.customer.isSome → admission.controlId.isSome →
        ∀ request ∈ admission.closed.requests, StatusInRange request.statusCode) := by
  have plain := TrustAdmission.insufficient_plain valid.input
  rw [TrustAdmission.customerReport, packed_bind_iff (.orReturn fun _ => plain)]
  cases isCustomer : admission.customer with
  | none => simp
  | some customer =>
    cases isControl : admission.controlId with
    | none =>
      refine iff_of_true ⟨not_raises_orReturn _ _, fun _ _ => ?_⟩ (by simp)
      exact packed_of_plain plain rfl
    | some controlId =>
      have sameControl := valid.control rfl
      rw [isControl] at sameControl
      subst sameControl
      have admitted : Admitted scenario admission.artifact admission.closed.transcript
          admission.closed.requests controlId :=
        { valid := valid.valid
          exact := by
            cases scenario with
            | sg01 => exact absurd rfl several
            | sg02 | sg03 | sg04 | sg05 | sg06 | sg07 | sg08 => exact valid.exact
          sameControl := valid.sameControl rfl controlId isControl }
      have matching : InputMatches scenario admission.input admission.closed.requests.length := by
        rw [valid.pair]
        exact valid.input
      have packed := packed_customer_iff execution admitted matching assertionId "" .fulfilLater 0
        customer.Complete
      simpa [EarlyReturn.orReturn, ok_bind] using packed

/-- The mutations of an admitted trust session are packed unless they are observed and a status
is out of range, or the verdict on them is rejected. -/
theorem packed_mutationReport_iff (execution : Execution) {scenario : ScenarioId}
    {customerKey key : AssertionKey} {control : Option NormalControlId}
    {admission : TrustAdmission} (valid : admission.Valid scenario customerKey key control)
    (assertionId : AssertionId)
    (verdict : MutationScenarioRequestObservation → MutationScenarioRequestObservation → Verdict)
    {first second : RuntimeRequestResult} (isPair : admission.closed.requests = [first, second])
    {rejected : Prop}
    (accepted : ∀ packing one other,
      packing = execution.packing scenario assertionId control
        { verdict := verdict one other
          runtime := some admission.closed.runtime
          inputReference := some admission.input
          observations := [.mutation one, .mutation other]
          diagnostics := admission.closed.diagnostics } →
      ObservesMutations admission.closed.transcript admission.nodeIds first one →
      ObservesMutations admission.closed.transcript admission.nodeIds second other →
      ((∃ r, makeResult execution.resultFingerprint packing (verdict one other)
          [.mutation one, .mutation other] = .ok r) ↔ ¬ rejected)) :
    (∃ r, execution.packed scenario assertionId control (admission.mutationReport verdict) =
        .ok r) ↔
      (admission.capable = true →
        (∀ request ∈ admission.closed.requests, StatusInRange request.statusCode) ∧
          ¬ rejected) := by
  have plain := TrustAdmission.insufficient_plain valid.input
  rw [TrustAdmission.mutationReport, packed_bind_iff (.returnIf fun _ => plain)]
  cases capable : admission.capable with
  | false => simp
  | true =>
    simp only [not_raises_returnIf, not_false_eq_true, returnIf_eq_ok, true_and, forall_const,
      Bool.true_eq_false]
    rw [packed_bind_iff .attempt, raises_attempt,
      ← observeMutations_ok_iff admission.closed.transcript (valid.tracked capable) valid.distinct]
    rcases ok_or_error (observeMutations admission.closed.transcript admission.nodeIds
      admission.closed.requests) with ⟨observations, built⟩ | ⟨exception, raised⟩
    · have observes := collect_related built
      rw [isPair] at observes
      obtain ⟨one, later, ⟨-, builtFirst⟩, rest, rfl⟩ := List.forall₂_cons_left_iff.mp observes
      obtain ⟨other, last, ⟨-, builtSecond⟩, done, rfl⟩ := List.forall₂_cons_left_iff.mp rest
      rw [List.forall₂_nil_left_iff] at done
      subst done
      have packed := accepted _ one other rfl (summarizeMutationObservations_eq_ok builtFirst)
        (summarizeMutationObservations_eq_ok builtSecond)
      simpa [built, packed_pure] using packed
    · simp [raised]

/-! ## Completion -/

/-- The session observes what an assertion is about: the customer value of a control, or every
tracked mutation. -/
def TrustAdmission.Observes (admission : TrustAdmission) (customerKey key : AssertionKey) : Prop :=
  if key = customerKey then admission.customer.isSome ∧ admission.controlId.isSome
  else admission.capable = true

namespace Execution

/-- The executor admits a session and summarises its requests for an assertion. -/
def Evaluates (execution : Execution) (scenario : ScenarioId) (key : AssertionKey)
    (closed : ClosedSession) : Prop :=
  let customer (admission : Steps String Report CustomerAdmission) :=
    ∃ admitted, admission = .ok admitted ∧ admitted.closed = closed
  let trust (admission : Steps String Report TrustAdmission) (customerKey : AssertionKey) :=
    ∃ admitted, admission = .ok admitted ∧ admitted.Observes customerKey key ∧
      admitted.closed = closed
  match scenario with
  | .sg01 => customer execution.sg01Admission
  | .sg02 => customer execution.sg02Admission
  | .sg03 => customer execution.sg03Admission
  | .sg04 => trust (execution.sg04Admission key) .sg04CustomerValue
  | .sg05 => trust (execution.sg05Admission key) .sg05CustomerValue
  | .sg06 => trust (execution.sg06Admission key) .sg06CustomerValue
  | .sg07 => customer execution.sg07Admission
  | .sg08 => customer (execution.sg08Admission key)

/-- The stale request of an admitted pair touched a tracked mutation, while the one captured
and the one authorised mutation behave as in a pass. -/
def OverlooksSideEffect (execution : Execution) (admission : TrustAdmission) : Prop :=
  ∃ first second captured authorized, admission.closed.requests = [first, second] ∧
    assigningIds execution.graph .captured admission.nodeIds = [captured] ∧
    assigningIds execution.graph .authorized admission.nodeIds = [authorized] ∧
    StaleSideEffect admission.closed.transcript admission.nodeIds first second captured authorized

/-- Nothing an executor does for an applicable assertion raises. -/
structure Completes (execution : Execution) (scenario : ScenarioId) (item : ScenarioInstance)
    (key : AssertionKey) : Prop where
  /-- No session is given up whose closing raises. -/
  closes : ¬ execution.Abandons scenario item
  /-- The status of every summarised request is between 100 and 599. -/
  inRange : ∀ closed, execution.Evaluates scenario key closed →
    ∀ request ∈ closed.requests, StatusInRange request.statusCode
  /-- The out-of-order scenario overlooks no side effect. -/
  spared : scenario = .sg04 → key ≠ .sg04CustomerValue →
    ∀ admission, execution.sg04Admission key = .ok admission → admission.capable = true →
      ¬ execution.OverlooksSideEffect admission

end Execution

section Results

variable {execution : Execution} {hashing : Hashing} {item : ScenarioInstance}
  {assertion : AssertionApplicability}

/-- The report on an admitted customer value is packed exactly when the admission does not
raise and every status is in range. -/
theorem packed_customerAdmission_iff {scenario : ScenarioId}
    {admission : Steps String Report CustomerAdmission} {control : Option NormalControlId}
    (ensures : Ensures admission (Report.Plain scenario)
      (CustomerAdmission.Valid scenario control))
    {abandons : Prop} (raises : Raises admission ↔ abandons) (assertionId : AssertionId)
    (index : Nat) :
    (∃ r, execution.packed scenario assertionId control
        (admission >>= fun admitted => admitted.report scenario index) = .ok r) ↔
      ¬ abandons ∧ ∀ admitted, admission = .ok admitted →
        ∀ request ∈ admitted.closed.requests, StatusInRange request.statusCode := by
  rw [packed_bind_iff ensures, raises]
  refine and_congr_right fun _ => forall₂_congr fun admitted isAdmitted => ?_
  have valid := ensures.of_ok isAdmitted
  rw [valid.control]
  exact packed_customer_iff execution valid.admitted valid.input assertionId _ _ index true

/-- What the condition says of a customer-value executor. -/
theorem completes_customer_iff {scenario : ScenarioId} {key : AssertionKey}
    (other : scenario ≠ .sg04) {admission : Steps String Report CustomerAdmission}
    (evaluates : ∀ closed, execution.Evaluates scenario key closed ↔
      ∃ admitted, admission = .ok admitted ∧ admitted.closed = closed) :
    execution.Completes scenario item key ↔
      ¬ execution.Abandons scenario item ∧ ∀ admitted, admission = .ok admitted →
        ∀ request ∈ admitted.closed.requests, StatusInRange request.statusCode := by
  constructor
  · intro completes
    refine ⟨completes.closes, fun admitted isAdmitted => ?_⟩
    exact completes.inRange _ ((evaluates _).mpr ⟨admitted, isAdmitted, rfl⟩)
  · rintro ⟨closes, inRange⟩
    refine ⟨closes, fun closed isClosed => ?_, fun same => absurd same other⟩
    obtain ⟨admitted, isAdmitted, rfl⟩ := (evaluates closed).mp isClosed
    exact inRange admitted isAdmitted

/-- The report on an admitted trust scenario is packed exactly when the admission does not
raise and, where the assertion is observed, every status is in range and the verdict on the
mutations is not rejected. -/
theorem packed_trustAdmission_iff {scenario : ScenarioId} (several : scenario ≠ .sg01)
    {admission : Steps String Report TrustAdmission} {customerKey key : AssertionKey}
    {control : Option NormalControlId}
    (ensures : Ensures admission (Report.Plain scenario)
      (TrustAdmission.Valid scenario customerKey key control))
    {abandons : Prop} (raises : Raises admission ↔ abandons) (assertionId : AssertionId)
    {verdict : TrustAdmission → MutationScenarioRequestObservation →
      MutationScenarioRequestObservation → Verdict}
    {rejected : TrustAdmission → Prop}
    (accepted : key ≠ customerKey → ∀ admitted, admitted.Valid scenario customerKey key control →
      ∀ first second, admitted.closed.requests = [first, second] →
      ∀ packing one other,
      packing = execution.packing scenario assertionId control
        { verdict := verdict admitted one other
          runtime := some admitted.closed.runtime
          inputReference := some admitted.input
          observations := [.mutation one, .mutation other]
          diagnostics := admitted.closed.diagnostics } →
      ObservesMutations admitted.closed.transcript admitted.nodeIds first one →
      ObservesMutations admitted.closed.transcript admitted.nodeIds second other →
      ((∃ r, makeResult execution.resultFingerprint packing (verdict admitted one other)
          [.mutation one, .mutation other] = .ok r) ↔ ¬ rejected admitted)) :
    (∃ r, execution.packed scenario assertionId control
        (admission >>= fun admitted =>
          if key = customerKey then admitted.customerReport scenario
          else admitted.mutationReport (verdict admitted)) = .ok r) ↔
      ¬ abandons ∧ ∀ admitted, admission = .ok admitted → admitted.Observes customerKey key →
        (∀ request ∈ admitted.closed.requests, StatusInRange request.statusCode) ∧
          (key ≠ customerKey → ¬ rejected admitted) := by
  rw [packed_bind_iff ensures, raises]
  refine and_congr_right fun _ => forall₂_congr fun admitted isAdmitted => ?_
  have valid := ensures.of_ok isAdmitted
  by_cases same : key = customerKey
  · subst same
    rw [if_pos rfl, packed_customerReport_iff execution several valid assertionId]
    simp [TrustAdmission.Observes]
  · obtain ⟨first, second, isPair⟩ := List.length_eq_two.mp valid.pair
    rw [if_neg same, packed_mutationReport_iff execution valid assertionId _ isPair
      (accepted same admitted valid first second isPair)]
    simp [TrustAdmission.Observes, same]

/-- What the condition says of a trust executor. -/
theorem completes_trust_iff {scenario : ScenarioId} {customerKey key : AssertionKey}
    {admission : Steps String Report TrustAdmission} {rejected : TrustAdmission → Prop}
    (evaluates : ∀ closed, execution.Evaluates scenario key closed ↔
      ∃ admitted, admission = .ok admitted ∧ admitted.Observes customerKey key ∧
        admitted.closed = closed)
    (spared : (scenario = .sg04 → key ≠ .sg04CustomerValue →
        ∀ admitted, execution.sg04Admission key = .ok admitted → admitted.capable = true →
          ¬ execution.OverlooksSideEffect admitted) ↔
      ∀ admitted, admission = .ok admitted → admitted.Observes customerKey key →
        key ≠ customerKey → ¬ rejected admitted) :
    execution.Completes scenario item key ↔
      ¬ execution.Abandons scenario item ∧ ∀ admitted, admission = .ok admitted →
        admitted.Observes customerKey key →
        (∀ request ∈ admitted.closed.requests, StatusInRange request.statusCode) ∧
          (key ≠ customerKey → ¬ rejected admitted) := by
  constructor
  · intro completes
    refine ⟨completes.closes, fun admitted isAdmitted observes => ⟨?_, ?_⟩⟩
    · exact completes.inRange _ ((evaluates _).mpr ⟨admitted, isAdmitted, observes, rfl⟩)
    · exact spared.mp completes.spared admitted isAdmitted observes
  · rintro ⟨closes, evaluated⟩
    refine ⟨closes, fun closed isClosed => ?_, spared.mpr fun admitted isAdmitted observes =>
      (evaluated admitted isAdmitted observes).2⟩
    obtain ⟨admitted, isAdmitted, observes, rfl⟩ := (evaluates closed).mp isClosed
    exact (evaluated admitted isAdmitted observes).1

/-- Only the out-of-order scenario has a verdict to reject. -/
theorem completes_rejection_iff {scenario : ScenarioId} (other : scenario ≠ .sg04)
    {customerKey key : AssertionKey} {admission : Steps String Report TrustAdmission}
    (evaluates : ∀ closed, execution.Evaluates scenario key closed ↔
      ∃ admitted, admission = .ok admitted ∧ admitted.Observes customerKey key ∧
        admitted.closed = closed) :
    execution.Completes scenario item key ↔
      ¬ execution.Abandons scenario item ∧ ∀ admitted, admission = .ok admitted →
        admitted.Observes customerKey key →
        (∀ request ∈ admitted.closed.requests, StatusInRange request.statusCode) ∧
          (key ≠ customerKey → ¬ False) :=
  completes_trust_iff evaluates
    ⟨fun _ _ _ _ _ => id, fun _ same => absurd same other⟩

/-- The control a mutation result names. -/
def MutationAssertion.ControlMatches (control : Option NormalControlId) :
    MutationAssertion → Prop
  | .stateRegression _ _ => control.isSome
  | .rejectedSignature | .tamperedCallback => control = none

/-- The mutation packing of an admitted trust session is sealed. -/
theorem packing_mutationsSealed (execution : Execution) (assertion : MutationAssertion)
    {customerKey key : AssertionKey} {control : Option NormalControlId}
    {admission : TrustAdmission}
    (valid : admission.Valid assertion.scenario customerKey key control)
    (named : assertion.ControlMatches control)
    {first second : RuntimeRequestResult} (isPair : admission.closed.requests = [first, second])
    (assertionId : AssertionId) (verdict : Verdict) (observations : List ScenarioObservation) :
    MutationsSealed assertion
      (execution.packing assertion.scenario assertionId control
        { verdict := verdict
          runtime := some admission.closed.runtime
          inputReference := some admission.input
          observations := observations
          diagnostics := admission.closed.diagnostics }) [first, second] where
  sameScenario := rfl
  requestIds := by
    rw [← isPair]
    rfl
  capability := rfl
  session := rfl
  transcript := rfl
  input := by
    have matching := valid.input
    cases assertion with
    | stateRegression | rejectedSignature | tamperedCallback =>
      obtain ⟨reference, isInput⟩ := matching
      exact ⟨named, reference, congrArg some isInput⟩

/-- The verdict on a mutation that has no state of its own is always packed. -/
theorem mutation_accepted (execution : Execution) {assertion : MutationAssertion}
    (other : assertion.scenario ≠ .sg04) {customerKey key : AssertionKey}
    {control : Option NormalControlId} (named : control = none) (assertionId : AssertionId)
    (admitted : TrustAdmission) (valid : admitted.Valid assertion.scenario customerKey key control)
    (first second : RuntimeRequestResult)
    (isPair : admitted.closed.requests = [first, second]) (packing : Packing)
    (one two : MutationScenarioRequestObservation)
    (isPacking : packing = execution.packing assertion.scenario assertionId control
      { verdict := assertion.verdict one two
        runtime := some admitted.closed.runtime
        inputReference := some admitted.input
        observations := [.mutation one, .mutation two]
        diagnostics := admitted.closed.diagnostics })
    (observesFirst : ObservesMutations admitted.closed.transcript admitted.nodeIds first one)
    (observesSecond : ObservesMutations admitted.closed.transcript admitted.nodeIds second two) :
    (∃ r, makeResult execution.resultFingerprint packing (assertion.verdict one two)
      [.mutation one, .mutation two] = .ok r) ↔ ¬ False := by
  have exact : SequenceAuthorityIsExact admitted.closed.transcript [first, second] := by
    rw [← isPair]
    exact valid.exact
  subst isPacking
  cases assertion with
  | stateRegression => exact absurd rfl other
  | rejectedSignature | tamperedCallback =>
    exact (packing_mutationsSealed execution _ valid named isPair assertionId _ _).packed_iff exact
      observesFirst observesSecond trivial

/-- The state verdict is packed exactly when it overlooks no side effect. -/
theorem stateVerdict_accepted (execution : Execution) {customerKey key : AssertionKey}
    {control : Option NormalControlId} (named : control.isSome) (assertionId : AssertionId)
    (admitted : TrustAdmission) (valid : admitted.Valid .sg04 customerKey key control)
    (first second : RuntimeRequestResult)
    (isPair : admitted.closed.requests = [first, second]) (packing : Packing)
    (one two : MutationScenarioRequestObservation)
    (isPacking : packing = execution.packing .sg04 assertionId control
      { verdict := Sg04.stateVerdict execution.graph admitted.nodeIds one two
        runtime := some admitted.closed.runtime
        inputReference := some admitted.input
        observations := [.mutation one, .mutation two]
        diagnostics := admitted.closed.diagnostics })
    (observesFirst : ObservesMutations admitted.closed.transcript admitted.nodeIds first one)
    (observesSecond : ObservesMutations admitted.closed.transcript admitted.nodeIds second two) :
    (∃ r, makeResult execution.resultFingerprint packing
      (Sg04.stateVerdict execution.graph admitted.nodeIds one two)
      [.mutation one, .mutation two] = .ok r) ↔ ¬ execution.OverlooksSideEffect admitted := by
  have exact : SequenceAuthorityIsExact admitted.closed.transcript [first, second] := by
    rw [← isPair]
    exact valid.exact
  subst isPacking
  by_cases sole : ∃ captured authorized,
      assigningIds execution.graph .captured admitted.nodeIds = [captured] ∧
      assigningIds execution.graph .authorized admitted.nodeIds = [authorized]
  · obtain ⟨captured, authorized, isCaptured, isAuthorized⟩ := sole
    have verdict : Sg04.stateVerdict execution.graph admitted.nodeIds one two =
        (MutationAssertion.stateRegression captured authorized).verdict one two := by
      simp only [Sg04.stateVerdict, isCaptured, isAuthorized]
      rfl
    have tracked {assigned : AssignedPaymentState} {nodeId : GraphNodeId}
        (sole : assigningIds execution.graph assigned admitted.nodeIds = [nodeId]) :
        nodeId ∈ admitted.nodeIds := by
      have membership : nodeId ∈ assigningIds execution.graph assigned admitted.nodeIds := by
        simp [sole]
      exact (List.mem_filter.mp membership).1
    have overlooks : execution.OverlooksSideEffect admitted ↔
        StaleSideEffect admitted.closed.transcript admitted.nodeIds first second captured
          authorized := by
      simp only [Execution.OverlooksSideEffect, isPair, isCaptured, isAuthorized, List.cons.injEq,
        and_true]
      constructor
      · rintro ⟨_, _, _, _, ⟨rfl, rfl⟩, rfl, rfl, stale⟩
        exact stale
      · intro stale
        exact ⟨_, _, _, _, ⟨rfl, rfl⟩, rfl, rfl, stale⟩
    rw [verdict, overlooks]
    exact (packing_mutationsSealed execution (.stateRegression captured authorized) valid named
      isPair assertionId _ _).packed_iff exact observesFirst observesSecond
      ⟨tracked isCaptured, tracked isAuthorized⟩
  · have verdict : Sg04.stateVerdict execution.graph admitted.nodeIds one two =
        .unverified .authorityMismatch := by
      unfold Sg04.stateVerdict
      split
      next captured authorized isCaptured isAuthorized =>
        exact absurd ⟨captured, authorized, isCaptured, isAuthorized⟩ sole
      next => rfl
    refine iff_of_true ?_ ?_
    · rw [verdict]
      have authority := packing_mutationsSealed execution (.stateRegression "" "") valid named
        isPair assertionId (.unverified .authorityMismatch) [.mutation one, .mutation two]
      refine (authority.makeResult_iff observesFirst observesSecond
        (Verdict.unverified_tiered _)).mpr ?_
      exact (authority.payload _ one two).accepted_of_unverified
        (show ScenarioId.sg04 ∉ _ by decide) ⟨.authorityMismatch, rfl⟩
    · rintro ⟨-, -, captured, authorized, -, isCaptured, isAuthorized, -⟩
      exact sole ⟨captured, authorized, isCaptured, isAuthorized⟩

/-! ## The result of an assertion -/

/-- An applicable late authorisation has its verdict. -/
theorem InstanceShape.exists_sg08Index (shape : InstanceShape hashing .sg08 item)
    (isAssertion : assertion ∈ item.assertions) (applicable : assertion.state = .applicable) :
    ∃ index, Execution.sg08Index assertion.key = .ok index := by
  have supplies := shape.supplies assertion isAssertion applicable
  have isKey := shape.keys.subset (List.mem_map_of_mem isAssertion)
  simp only [ScenarioId.assertionKeys, List.mem_cons, List.not_mem_nil, or_false] at isKey
  rcases isKey with latePolicy | precapture | capture
  · exact absurd latePolicy supplies.2
  · exact ⟨0, by rw [precapture]; rfl⟩
  · exact ⟨1, by rw [capture]; rfl⟩

/-- An applicable assertion has a result exactly when it completes. -/
theorem assertionResult_ok_iff {scenario : ScenarioId} (fresh : ¬ execution.Stale)
    (found : execution.item? scenario = some item) (shape : InstanceShape hashing scenario item)
    (ready : scenario = .sg08 → LatePoliciesReady execution.applicability.policy)
    (isAssertion : assertion ∈ item.assertions) (applicable : assertion.state = .applicable) :
    (∃ r, execution.assertionResult scenario assertion = .ok r) ↔
      execution.Completes scenario item assertion.key := by
  have supplies := shape.supplies assertion isAssertion applicable
  have sole {key : AssertionKey} (only : scenario.assertionKeys = [key]) :
      item.assertions = [assertion] ∧ assertion.key = key := by
    obtain ⟨other, assertions, isKey⟩ := shape.sole only
    rw [assertions, List.mem_singleton] at isAssertion
    rw [isAssertion]
    exact ⟨assertions, isKey⟩
  have control (notForged : scenario ≠ .sg05) (notTampered : scenario ≠ .sg06) :
      execution.controlFor scenario assertion.key = item.normalControlId := by
    unfold Execution.controlFor
    dsimp only
    split
    next => exact absurd rfl notForged
    next => exact absurd rfl notTampered
    next => rw [found, Option.bind_some]
  cases scenario with
  | sg01 =>
    obtain ⟨controlId, isControl⟩ := Option.isSome_iff_exists.mp supplies
    have active : item.state = .applicable := by
      rw [ScenarioInstance.state_of_sole (sole rfl).1, applicable]
    rw [Execution.assertionResult, control (by decide) (by decide),
      completes_customer_iff (by decide) fun _ => Iff.rfl]
    exact packed_customerAdmission_iff (ensures_sg01Admission found)
      (raises_sg01Admission fresh found active isControl) _ 0
  | sg02 =>
    obtain ⟨controlId, isControl⟩ := Option.isSome_iff_exists.mp supplies
    have active : item.state = .applicable := by
      rw [ScenarioInstance.state_of_sole (sole rfl).1, applicable]
    rw [Execution.assertionResult, control (by decide) (by decide),
      completes_customer_iff (by decide) fun _ => Iff.rfl]
    exact packed_customerAdmission_iff (ensures_sg02Admission found)
      (raises_sg02Admission fresh found active isControl) _ 0
  | sg03 =>
    obtain ⟨controlId, isControl⟩ := Option.isSome_iff_exists.mp supplies
    rw [Execution.assertionResult, control (by decide) (by decide),
      completes_customer_iff (by decide) fun _ => Iff.rfl]
    exact packed_customerAdmission_iff (ensures_sg03Admission found)
      (raises_sg03Admission fresh found (sole rfl).1 (sole rfl).2 applicable isControl) _ 0
  | sg07 =>
    obtain ⟨controlId, isControl⟩ := Option.isSome_iff_exists.mp supplies
    rw [Execution.assertionResult, control (by decide) (by decide),
      completes_customer_iff (by decide) fun _ => Iff.rfl]
    exact packed_customerAdmission_iff (ensures_sg07Admission found)
      (raises_sg07Admission fresh found (sole rfl).1 applicable isControl) _ 0
  | sg08 =>
    obtain ⟨index, isIndex⟩ := shape.exists_sg08Index isAssertion applicable
    have report : execution.reportOf .sg08 assertion.key =
        execution.sg08Admission assertion.key >>= fun admitted => admitted.report .sg08 index := by
      simp only [Execution.reportOf, Execution.sg08Report, isIndex, attempt_bind]
    rw [Execution.assertionResult, control (by decide) (by decide), report,
      completes_customer_iff (by decide) fun _ => Iff.rfl]
    exact packed_customerAdmission_iff (ensures_sg08Admission found _)
      (raises_sg08Admission fresh found shape isAssertion applicable (ready rfl)) _ index
  | sg04 =>
    have spared : (ScenarioId.sg04 = .sg04 → assertion.key ≠ .sg04CustomerValue →
        ∀ admitted, execution.sg04Admission assertion.key = .ok admitted →
          admitted.capable = true → ¬ execution.OverlooksSideEffect admitted) ↔
        ∀ admitted, execution.sg04Admission assertion.key = .ok admitted →
          admitted.Observes .sg04CustomerValue assertion.key →
          assertion.key ≠ .sg04CustomerValue → ¬ execution.OverlooksSideEffect admitted := by
      constructor
      · intro spared admitted isAdmitted observes other
        rw [TrustAdmission.Observes, if_neg other] at observes
        exact spared rfl other admitted isAdmitted observes
      · intro spared _ other admitted isAdmitted capable
        refine spared admitted isAdmitted ?_ other
        rw [TrustAdmission.Observes, if_neg other]
        exact capable
    rw [Execution.assertionResult, control (by decide) (by decide),
      completes_trust_iff (fun _ => Iff.rfl) spared]
    exact packed_trustAdmission_iff (by decide) (ensures_sg04Admission found _)
      (raises_sg04Admission fresh found shape isAssertion applicable) _
      fun _ => stateVerdict_accepted execution supplies.1 assertion.assertionId
  | sg05 =>
    rw [Execution.assertionResult, Execution.controlFor, found,
      completes_rejection_iff (by decide) fun _ => Iff.rfl]
    refine packed_trustAdmission_iff (by decide) (ensures_sg05Admission found _)
      (raises_sg05Admission fresh found shape isAssertion applicable) _ fun other => ?_
    exact @mutation_accepted execution .rejectedSignature (by decide) _ _ _ (if_neg other)
      assertion.assertionId
  | sg06 =>
    rw [Execution.assertionResult, Execution.controlFor, found,
      completes_rejection_iff (by decide) fun _ => Iff.rfl]
    refine packed_trustAdmission_iff (by decide) (ensures_sg06Admission found _)
      (raises_sg06Admission fresh found shape isAssertion applicable) _ fun other => ?_
    exact @mutation_accepted execution .tamperedCallback (by decide) _ _ _ (if_neg other)
      assertion.assertionId

/-- An assertion that is not applicable always has a result. -/
theorem assertionResult_inactive {artifact : ScenarioApplicabilityArtifact} {scenario : ScenarioId}
    (called : execution.CalledFor artifact item) (found : execution.item? scenario = some item)
    (shape : InstanceShape hashing scenario item) (isAssertion : assertion ∈ item.assertions)
    (inactive : assertion.state ≠ .applicable) :
    ∃ r, execution.assertionResult scenario assertion = .ok r := by
  -- Two executors refuse the catalog instance before they look at the state.
  by_cases bound : scenario = .sg03 ∨ scenario = .sg07 → item.normalControlId ≠ none
  · obtain ⟨verdict, isVerdict, settled⟩ :=
      reportOf_early called found shape bound isAssertion inactive
    obtain ⟨tiered, unverified⟩ := earlyVerdict_tiered isVerdict
    obtain ⟨r, packed, -⟩ := packed_early execution scenario assertion.assertionId
      (execution.controlFor scenario assertion.key) settled tiered unverified
    exact ⟨r, packed⟩
  · obtain ⟨either, unbound⟩ := Classical.not_imp.mp bound
    rw [not_not] at unbound
    refine packed_of_plain (Report.unverified_plain scenario .authorityMismatch) ?_
    rcases either with rfl | rfl
    · simp only [Execution.reportOf, Execution.sg03Report, Execution.sg03Admission,
        returnIf_bind called.not_stale, found, orReturn_bind, unbound, orReturn_none_bind]
      rfl
    · simp only [Execution.reportOf, Execution.sg07Report, Execution.sg07Admission,
        returnIf_bind called.not_stale, found, orReturn_bind, unbound, orReturn_none_bind]
      rfl

end Results

end StateGuard
