import StateGuard.Graph.Contracts

/-!
# Applicability contracts

Merchant-policy evidence and scenario applicability: the assertions of a scenario instance
with their states and reasons, the normal controls they rest on, and the artifact.  The
state of an instance and of a scenario is rolled up from its core assertions, so the records
do not store it (`rollUpAssertions`); an instance carries a proof that it has a core
assertion, without which the source refuses to build it.  A policy assessment carries the
rules of its validator.

`validateArtifact` is what the artifact's validator checks besides.
-/

namespace StateGuard

open Checks

/-! ## Vocabulary -/

inductive PolicyEvidenceStatus where
  | consistentSuggestion | conflictingEvidence | insufficientEvidence
  deriving DecidableEq, Repr

/-- The internal applicability state of an assertion. -/
inductive ApplicabilityState where
  | applicable | notApplicable | needsInput | indeterminate
  deriving DecidableEq, Repr

/-- The fixed assertion keys of the catalog. -/
inductive AssertionKey where
  | sg01 | sg02 | sg03
  | sg04CustomerValue | sg04StateRegression
  | sg05CustomerValue | sg05Mutation
  | sg06CustomerValue | sg06Mutation
  | sg07CustomerValue
  | sg08Precapture | sg08Capture | sg08LatePolicy
  deriving DecidableEq, Repr

/-- The persisted spelling of a key. -/
def AssertionKey.value : AssertionKey → String
  | .sg01 => "VALUE_EXACTLY_ONCE_AT_POLICY_THRESHOLD"
  | .sg02 => "DUPLICATE_VALUE_AT_MOST_ONCE"
  | .sg03 => "RETRY_VALUE_AT_MOST_ONCE"
  | .sg04CustomerValue => "OUT_OF_ORDER_VALUE_AT_MOST_ONCE"
  | .sg04StateRegression => "MERCHANT_STATE_DOES_NOT_REGRESS"
  | .sg05CustomerValue => "FORGED_WEBHOOK_NO_CUSTOMER_VALUE"
  | .sg05Mutation => "FORGED_WEBHOOK_NO_TRUSTED_MUTATION"
  | .sg06CustomerValue => "TAMPERED_CALLBACK_NO_CUSTOMER_VALUE"
  | .sg06Mutation => "TAMPERED_CALLBACK_NO_TRUSTED_MUTATION"
  | .sg07CustomerValue => "WEBHOOK_OUTCOME_WITHOUT_CALLBACK"
  | .sg08Precapture => "LATE_AUTHORIZATION_PROVIDES_NO_VALUE"
  | .sg08Capture => "LATE_PAYMENT_VALUE_ONCE_AFTER_CAPTURE"
  | .sg08LatePolicy => "LATE_PAYMENT_POLICY_OUTCOME"

inductive EvidenceReferenceKind where
  | graphNode | graphEdge | graphDiagnostic | semanticResolution | merchantPolicy
  | razorpayRule | normalControl
  deriving DecidableEq, Repr

inductive ApplicabilityReasonCode where
  | exactControlAvailable
  | ingressAbsent
  | customerValueUnresolved
  | customerValuePathAbsent
  | graphCoverageInsufficient
  | fulfilmentPolicyRequired
  | fulfilmentPolicyStale
  | normalCaptureThresholdAvailable
  | normalCaptureThresholdUnproven
  | capturedEventTargetAvailable
  | capturedEventTargetUnproven
  | lateAuthorisationPolicyRequired
  | lateAuthorisationPolicyStale
  | merchantLateContextUnproven
  | valueBeforeAckProven
  | valueBeforeAckNotPresent
  | ackOrderUnresolved
  | mutationTargetAvailable
  | mutationTargetAbsent
  | checkoutSurfaceRequired
  | checkoutRequestBindingAvailable
  | checkoutRequestBindingUnresolved
  | checkoutTargetLinkAvailable
  | checkoutTargetLinkUnresolved
  | stateRegressionTargetAvailable
  | stateRegressionTargetAbsent
  | stateRegressionTargetUnresolved
  | policyMatrixSelected
  | lateSequenceNotSupported
  | lateSequenceUnresolved
  deriving DecidableEq, Repr

structure EvidenceReference where
  kind : EvidenceReferenceKind
  reference : String
  deriving DecidableEq, Repr

structure ApplicabilityReason where
  code : ApplicabilityReasonCode
  evidence : List EvidenceReference
  deriving DecidableEq, Repr

/-! ## Controls and policy -/

/-- A proven path from one ingress to the customer-value action. -/
structure NormalControlInstance where
  controlId : NormalControlId
  ingressNodeId : GraphNodeId
  routeRegistrationId : RouteRegistrationId
  ingressKind : PaymentIngressKind
  customerValueNodeId : GraphNodeId
  customerValueSymbolId : SymbolId
  connectivityEdgeId : GraphEdgeId
  callPathReferences : List String
  semanticResolutionFingerprint : Sha256Digest
  /-- The path has at least one call site. -/
  callPathNonempty : callPathReferences ≠ []
  deriving DecidableEq

/-- The merchant's fulfilment policy as the graph suggests it and as it was confirmed. -/
structure FulfilmentPolicyAssessment where
  evidenceStatus : PolicyEvidenceStatus
  evidenceFingerprint : Sha256Digest
  observedStates : List String
  suggestedPolicy : Option FulfilmentPolicy
  confirmedPolicy : Option FulfilmentPolicy
  evidenceCurrent : Option Bool
  /-- Only consistent evidence carries a suggestion. -/
  suggestionMatches : evidenceStatus = .consistentSuggestion ↔ suggestedPolicy.isSome
  /-- A confirmation says whether its evidence is current. -/
  currentMatches : confirmedPolicy.isSome ↔ evidenceCurrent.isSome
  deriving DecidableEq

/-- `implementation_mismatch`: a confirmed policy differs from the suggested one. -/
def FulfilmentPolicyAssessment.implementationMismatch (assessment : FulfilmentPolicyAssessment) :
    Bool :=
  match assessment.confirmedPolicy, assessment.suggestedPolicy with
  | some confirmed, some suggested => confirmed ≠ suggested
  | _, _ => false

structure LateAuthorisationPolicyAssessment where
  evidenceFingerprint : Sha256Digest
  confirmedPolicy : Option LateAuthorisationPolicy
  evidenceCurrent : Option Bool
  /-- A confirmation says whether its evidence is current. -/
  currentMatches : confirmedPolicy.isSome ↔ evidenceCurrent.isSome
  deriving DecidableEq

structure MerchantPolicyAssessment where
  fulfilment : FulfilmentPolicyAssessment
  lateAuthorisation : LateAuthorisationPolicyAssessment
  deriving DecidableEq

/-! ## Assertions and instances -/

/-- One assertion of an instance. -/
structure AssertionApplicability where
  assertionId : AssertionId
  key : AssertionKey
  role : AssertionRole
  state : ApplicabilityState
  reasons : List ApplicabilityReason
  normalControlId : Option NormalControlId
  deriving DecidableEq, Repr

/-- `roll_up_assertions`: the first of the states, in order of precedence, that a core
assertion has. -/
def rollUpAssertions (assertions : List AssertionApplicability) : Except String ApplicabilityState :=
  let states := (assertions.filter (·.role = .core)).map (·.state)
  if states = [] then
    .error "scenario applicability requires at least one core assertion"
  else if .applicable ∈ states then
    .ok .applicable
  else if .needsInput ∈ states then
    .ok .needsInput
  else if .indeterminate ∈ states then
    .ok .indeterminate
  else
    .ok .notApplicable

/-- The assertions roll up. -/
def HasCore (assertions : List AssertionApplicability) : Prop :=
  ∃ assertion ∈ assertions, assertion.role = .core

instance (assertions : List AssertionApplicability) : Decidable (HasCore assertions) :=
  inferInstanceAs (Decidable (∃ _ ∈ _, _))

/-- A state rolls up exactly from the lists that have a core assertion. -/
theorem rollUpAssertions_ok_iff (assertions : List AssertionApplicability) :
    (∃ state, rollUpAssertions assertions = .ok state) ↔ HasCore assertions := by
  rw [HasCore, rollUpAssertions]
  constructor
  · rintro ⟨state, rolled⟩
    by_contra coreless
    have none : (assertions.filter (·.role = .core)).map (·.state) = [] := by
      rw [List.map_eq_nil_iff, List.filter_eq_nil_iff]
      intro assertion membership core
      exact coreless ⟨assertion, membership, by simpa using core⟩
    rw [if_pos none] at rolled
    cases rolled
  · rintro ⟨assertion, membership, core⟩
    have some : (assertions.filter (·.role = .core)).map (·.state) ≠ [] := by
      rw [ne_eq, List.map_eq_nil_iff, List.filter_eq_nil_iff]
      intro coreless
      exact coreless assertion membership (by simp [core])
    rw [if_neg some]
    split
    next => exact ⟨_, rfl⟩
    next =>
      split
      next => exact ⟨_, rfl⟩
      next => split <;> exact ⟨_, rfl⟩

/-- One occurrence of a scenario in the project. -/
structure ScenarioInstance where
  instanceId : ScenarioInstanceId
  ingressNodeId : Option GraphNodeId
  normalControlId : Option NormalControlId
  routeRegistrationId : Option RouteRegistrationId
  customerValueNodeId : Option GraphNodeId
  customerValueSymbolId : Option SymbolId
  assertions : List AssertionApplicability
  /-- The state of the instance rolls up. -/
  hasCore : HasCore assertions
  deriving DecidableEq

/-- The recorded state of an instance, which its validator compares with the roll-up. -/
def ScenarioInstance.state (item : ScenarioInstance) : ApplicabilityState :=
  match rollUpAssertions item.assertions with
  | .ok state => state
  | .error _ => .notApplicable

theorem ScenarioInstance.rollUp (item : ScenarioInstance) :
    rollUpAssertions item.assertions = .ok item.state := by
  obtain ⟨state, rolled⟩ := (rollUpAssertions_ok_iff item.assertions).mpr item.hasCore
  rw [ScenarioInstance.state, rolled]

/-- One scenario with its instances. -/
structure ScenarioApplicability where
  scenarioId : ScenarioId
  instances : List ScenarioInstance
  /-- A scenario has an instance. -/
  nonempty : instances ≠ []
  /-- Instance identities are unique. -/
  instancesUnique : (instances.map (·.instanceId)).Nodup
  deriving DecidableEq

/-! ## The artifact -/

/-- Everything the applicability artifact states, which its fingerprint is taken of. -/
structure ScenarioApplicabilityPayload where
  projectId : ProjectId
  projectSourceFingerprint : Sha256Digest
  sourceIndexFingerprint : Sha256Digest
  structuralGraphFingerprint : Sha256Digest
  projectedGraphFingerprint : Sha256Digest
  semanticResolutionFingerprint : Option Sha256Digest
  policy : MerchantPolicyAssessment
  normalControls : List NormalControlInstance
  scenarios : List ScenarioApplicability
  deriving DecidableEq

structure ScenarioApplicabilityArtifact extends ScenarioApplicabilityPayload where
  applicabilityFingerprint : Sha256Digest
  deriving DecidableEq

namespace ScenarioApplicabilityPayload

variable (payload : ScenarioApplicabilityPayload)

/-- The control with an identity. -/
def control? (controlId : NormalControlId) : Option NormalControlInstance :=
  payload.normalControls.find? (·.controlId = controlId)

/-- The control identity of an instance is that of its exact normal control. -/
def validateInstance (item : ScenarioInstance) : Except String Unit := do
  match item.normalControlId with
  | some controlId =>
    match payload.control? controlId with
    | none => .error "scenario instance refers to an unknown normal control"
    | some control => do
      raiseIf (item.ingressNodeId ≠ some control.ingressNodeId)
        "scenario instance ingress must match exact normal control"
      raiseIf (item.routeRegistrationId ≠ some control.routeRegistrationId)
        "scenario instance route must match exact normal control"
      raiseIf (item.customerValueNodeId ≠ some control.customerValueNodeId)
        "scenario instance customer-value node must match exact normal control"
      raiseIf (item.customerValueSymbolId ≠ some control.customerValueSymbolId)
        "scenario instance customer-value symbol must match exact normal control"
  | none =>
    raiseIf (item.routeRegistrationId.isSome ∨ item.customerValueNodeId.isSome ∨
        item.customerValueSymbolId.isSome)
      "control identity fields require a normal control"
  forEach (fun assertion : AssertionApplicability => do
    raiseIf (∃ controlId ∈ assertion.normalControlId.toList, payload.control? controlId = none)
      "assertion refers to an unknown normal control"
    raiseIf (item.normalControlId.isSome ∧ assertion.normalControlId.isSome ∧
        assertion.normalControlId ≠ item.normalControlId)
      "assertion dependency must match exact instance control") item.assertions

/-- `validate_artifact`, up to the fingerprint. -/
def validateArtifact : Except String Unit := do
  raiseIf (¬ (payload.normalControls.map (·.controlId)).Nodup) "normal-control IDs must be unique"
  raiseIf (payload.scenarios.length ≠ 8) "applicability artifact has eight scenarios"
  raiseIf (∃ scenario ∈ ScenarioId.all, scenario ∉ payload.scenarios.map (·.scenarioId))
    "applicability artifact must contain the fixed scenario catalog"
  forEach (fun scenario : ScenarioApplicability =>
    forEach payload.validateInstance scenario.instances) payload.scenarios

/-- The assertions of the artifact with the scenario and the instance they belong to. -/
def rows : List (ScenarioId × ScenarioInstance × AssertionApplicability) :=
  payload.scenarios.flatMap fun scenario =>
    scenario.instances.flatMap fun item =>
      item.assertions.map fun assertion => (scenario.scenarioId, item, assertion)

theorem mem_rows (row : ScenarioId × ScenarioInstance × AssertionApplicability) :
    row ∈ payload.rows ↔ ∃ scenario ∈ payload.scenarios, ∃ item ∈ scenario.instances,
      ∃ assertion ∈ item.assertions, (scenario.scenarioId, item, assertion) = row := by
  simp [rows]

end ScenarioApplicabilityPayload

end StateGuard
