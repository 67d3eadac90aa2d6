import Mathlib.Data.List.Dedup
import StateGuard.Ci.Gate
import StateGuard.Evidence.Catalog
import StateGuard.FailureLab.Contracts
import StateGuard.Applicability.Policy

/-!
# Verification runs

The checks of a run with the evidence they rest on, the findings and the summary, and the
validators of these records.  `validateRun` computes the findings, the summary, the identities and
the roll-ups of the authority again from the checks.

The gate reads a part of a check only; `VerificationRun.gateView` is that part.
-/

namespace StateGuard

namespace Evidence

open Checks KeyOrder

abbrev VerificationCheckId := String
abbrev FindingKey := String
abbrev FindingOccurrenceId := String

/-- What a run takes from hashing, besides what applicability takes from it. -/
structure RunHashing extends Hashing where
  /-- `_SCENARIO_DEFINITION_FINGERPRINTS`. -/
  scenarioDefinition : ScenarioId → Sha256Digest
  /-- `razorpay_rule_catalog_fingerprint`. -/
  ruleCatalog : Sha256Digest
  /-- The fingerprint of a scenario result. -/
  result : ScenarioResultPayload → Sha256Digest

namespace RunHashing

variable (hashing : RunHashing)

def verificationCheckId (runId : VerificationRunId) (instanceId : ScenarioInstanceId)
    (assertion : AssertionId) : VerificationCheckId :=
  hashing.stableId "sgcheck" [runId, instanceId, assertion]

def verificationCheckKey (components : List String) : VerificationCheckKey :=
  hashing.stableId "sgcheckkey" components

def findingKey (checkKey : VerificationCheckKey) : FindingKey :=
  hashing.stableId "sgfindingkey" [checkKey]

def findingOccurrenceId (runId : VerificationRunId) (checkId : VerificationCheckId) :
    FindingOccurrenceId :=
  hashing.stableId "sgfinding" [runId, checkId]

end RunHashing

/-! ## Authority -/

structure PolicyAuthoritySnapshot where
  fulfilment : Option FulfilmentPolicy
  fulfilmentEvidenceFingerprint : Sha256Digest
  fulfilmentEvidenceCurrent : Option Bool
  lateAuthorisation : Option LateAuthorisationPolicy
  lateAuthorisationEvidenceFingerprint : Sha256Digest
  lateAuthorisationEvidenceCurrent : Option Bool
  deriving DecidableEq

inductive RazorpayGroundingStatus where
  | grounded | unavailable
  deriving DecidableEq, Repr

/-- One attempt to ground the run in a test resource. -/
structure RazorpayGroundingSnapshot where
  status : RazorpayGroundingStatus
  runId : VerificationRunId
  acquiredAt : Int
  sanitizedProjectionFingerprint : Option Sha256Digest
  groundingFingerprint : Sha256Digest
  deriving DecidableEq

/-- The schema versions that a run checks. -/
structure ComponentSchemaVersions where
  scenarioExecutionResult : Nat
  razorpayGrounding : Option Nat
  deriving DecidableEq

/-- The authority of a run. -/
structure VerificationAuthoritySnapshot where
  projectId : ProjectId
  configFingerprint : Sha256Digest
  projectSourceFingerprint : Sha256Digest
  sourceIndexFingerprint : Sha256Digest
  structuralGraphFingerprint : Sha256Digest
  projectedGraphFingerprint : Sha256Digest
  applicabilityFingerprint : Sha256Digest
  runtimeConfigFingerprint : Sha256Digest
  runtimeCapabilityFingerprints : List Sha256Digest
  policy : PolicyAuthoritySnapshot
  ruleCatalogFingerprint : Sha256Digest
  referencedRules : List RazorpayProtocolRuleId
  razorpayGrounding : Option RazorpayGroundingSnapshot
  schemaVersions : ComponentSchemaVersions
  deriving DecidableEq

/-! ## Checks -/

/-- The applicability evidence of a check, with the rules of `validate_collections`. -/
structure ApplicabilityEvidenceSnapshot where
  state : ApplicabilityState
  role : AssertionRole
  reasons : List ApplicabilityReasonCode
  graphNodeIds : List GraphNodeId
  graphEdgeIds : List GraphEdgeId
  normalControlIds : List NormalControlId
  reasonsUnique : reasons.Nodup
  nodesUnique : graphNodeIds.Nodup
  edgesUnique : graphEdgeIds.Nodup
  controlsUnique : normalControlIds.Nodup
  deriving DecidableEq

/-- `tuple(sorted(set(items)))`. -/
def sortedSet (items : List String) : List String := sortedByKey id items.dedup

theorem sortedSet_nodup (items : List String) : (sortedSet items).Nodup :=
  (sortedByKey_perm id items.dedup).nodup_iff.mpr (List.nodup_dedup items)

theorem sortedSet_pairwise (items : List String) : (sortedSet items).Pairwise (· ≤ ·) :=
  sortedByKey_pairwise id items.dedup

@[simp]
theorem mem_sortedSet (items : List String) (item : String) :
    item ∈ sortedSet items ↔ item ∈ items := by
  rw [sortedSet, mem_sortedByKey, List.mem_dedup]

/-- What a check is about, with the rules of `validate_targets`. -/
structure CheckTargetReference where
  ingressNodeId : Option GraphNodeId
  routeRegistrationId : Option RouteRegistrationId
  ingressSymbolId : Option SymbolId
  normalControlId : Option NormalControlId
  customerValueNodeId : Option GraphNodeId
  customerValueSymbolId : Option SymbolId
  connectivityEdgeId : Option GraphEdgeId
  mutationNodeIds : List GraphNodeId
  acknowledgementNodeIds : List GraphNodeId
  mutationsUnique : mutationNodeIds.Nodup
  mutationsOrdered : mutationNodeIds.Pairwise (· ≤ ·)
  acknowledgementsUnique : acknowledgementNodeIds.Nodup
  acknowledgementsOrdered : acknowledgementNodeIds.Pairwise (· ≤ ·)
  deriving DecidableEq

/-- What one request contributes: the part it plays and what was observed of it. -/
structure RuntimeRequestEvidence where
  ordinal : Nat
  role : RequestRole
  observation : ScenarioObservation
  deriving DecidableEq

def RuntimeRequestEvidence.requestId (evidence : RuntimeRequestEvidence) : RuntimeRequestId :=
  evidence.observation.requestId

/-- The runtime evidence of a check. -/
structure RuntimeEvidenceProjection where
  scenarioExecutionId : ScenarioExecutionId
  runtimeSessionId : Option RuntimeSessionId
  runtimeCapabilityFingerprint : Option Sha256Digest
  transcriptFingerprint : Option Sha256Digest
  requests : List RuntimeRequestEvidence
  diagnostics : List RuntimeCapabilityReasonCode
  deriving DecidableEq

/-- `validate_runtime`. -/
def RuntimeEvidenceProjection.validateRuntime (evidence : RuntimeEvidenceProjection) :
    Except String Unit := do
  raiseIf (¬ (evidence.requests.map (·.requestId)).Nodup) "runtime request evidence must be unique"
  raiseIf (evidence.requests.map (·.ordinal) ≠ List.range evidence.requests.length)
    "runtime request evidence must preserve exact order"
  raiseIf (evidence.requests ≠ [] ∧ evidence.runtimeSessionId = none)
    "runtime requests require session authority"
  raiseIf (evidence.transcriptFingerprint.isSome ∧
      (evidence.runtimeSessionId = none ∨ evidence.runtimeCapabilityFingerprint = none))
    "transcript evidence requires session and capability authority"
  raiseIf (¬ evidence.diagnostics.Nodup) "runtime diagnostic codes must be unique"

/-- The policies a check rests on. -/
structure CheckPolicyAuthority where
  dimensions : List PolicyDimension
  fulfilment : Option FulfilmentPolicy
  fulfilmentEvidenceFingerprint : Option Sha256Digest
  lateAuthorisation : Option LateAuthorisationPolicy
  lateAuthorisationEvidenceFingerprint : Option Sha256Digest
  /-- The fulfilment evidence is recorded where it is used. -/
  fulfilmentUsed : .fulfilment ∈ dimensions ↔ fulfilmentEvidenceFingerprint.isSome
  /-- So is the late-authorisation evidence. -/
  lateUsed : .lateAuthorisation ∈ dimensions ↔ lateAuthorisationEvidenceFingerprint.isSome
  deriving DecidableEq

structure SourceEvidenceReference where
  symbolId : SymbolId
  sourceLocation : SourceLocation
  deriving DecidableEq

/-- How to verify a check again. -/
structure ReverificationReference where
  scenarioId : ScenarioId
  assertionKey : AssertionKey
  invariantId : String
  invariantVersion : Nat
  targets : CheckTargetReference
  inputReference : Option ScenarioSafeInputReference
  configFingerprint : Sha256Digest
  projectSourceFingerprint : Sha256Digest
  projectedGraphFingerprint : Sha256Digest
  applicabilityFingerprint : Sha256Digest
  razorpayRuleCatalogFingerprint : Sha256Digest
  deriving DecidableEq

/-- One check of a run. -/
structure VerificationCheck where
  checkId : VerificationCheckId
  checkKey : VerificationCheckKey
  scenarioId : ScenarioId
  scenarioInstanceId : ScenarioInstanceId
  assertionId : AssertionId
  assertionKey : AssertionKey
  invariantId : String
  invariantVersion : Nat
  expectedInvariant : String
  scenarioDefinitionFingerprint : Sha256Digest
  scenarioResultFingerprint : Sha256Digest
  applicability : ApplicabilityEvidenceSnapshot
  targets : CheckTargetReference
  policyAuthority : CheckPolicyAuthority
  keyPolicyDimensions : List PolicyDimension
  razorpayRuleIds : List RazorpayProtocolRuleId
  sourceReferences : List SourceEvidenceReference
  graphNodeIds : List GraphNodeId
  graphEdgeIds : List GraphEdgeId
  inputReference : Option ScenarioSafeInputReference
  runtimeEvidence : RuntimeEvidenceProjection
  result : VerificationResultState
  evidenceTier : Option EvidenceTier
  grounding : Option InputGrounding
  reason : ScenarioResultReasonCode
  reverification : ReverificationReference
  relevantAuthority : Option Sha256Digest
  deriving DecidableEq

namespace VerificationCheck

variable (check : VerificationCheck)

/-- The grounding of the input of a check. -/
def inputGrounding? : Option InputGrounding :=
  match check.inputReference with
  | some (.groundedScenarioInput _ grounding) => some grounding
  | _ => none

/-- What `validate_check` asks of a verified check, or of another one. -/
def validateEvidence : Except String Unit :=
  if check.result.verified then do
    raiseIf (check.evidenceTier ≠ some .e3DynamicVerified ∧
        check.evidenceTier ≠ some .e4RazorpayGrounded)
      "verified checks require dynamic evidence"
    raiseIf (check.inputReference = none ∨ check.runtimeEvidence.requests = [] ∨
        check.runtimeEvidence.runtimeSessionId = none ∨
        check.runtimeEvidence.runtimeCapabilityFingerprint = none ∨
        check.runtimeEvidence.transcriptFingerprint = none)
      "verified checks require complete safe runtime authority"
  else do
    raiseIf (check.evidenceTier = some .e3DynamicVerified) "non-verified checks cannot claim E3"
    raiseIf (check.evidenceTier = some .e4RazorpayGrounded) "non-verified checks cannot claim E4"

/-- `validate_check`. -/
def validateCheck : Except String Unit := do
  check.validateEvidence
  if check.evidenceTier = some .e4RazorpayGrounded then
    raiseIf (check.scenarioId ≠ .sg01 ∨ check.grounding = none ∨
        check.grounding ≠ check.inputGrounding?)
      "E4 requires exact SG-01 resource-profile grounding"
  else
    raiseIf (check.grounding.isSome) "per-check grounding is valid only for E4"
  raiseIf (check.inputReference ≠ check.reverification.inputReference)
    "re-verification input reference must match recorded evidence"
  raiseIf (¬ check.razorpayRuleIds.Nodup) "check Razorpay rule references must be unique"
  raiseIf (∃ dimension ∈ check.keyPolicyDimensions, dimension ∉ check.policyAuthority.dimensions)
    "check-key policy dimensions must be used check authority"
  raiseIf (check.graphNodeIds ≠ sortedSet check.graphNodeIds)
    "check graph node references must be unique and ordered"
  raiseIf (check.graphEdgeIds ≠ sortedSet check.graphEdgeIds)
    "check graph edge references must be unique and ordered"
  raiseIf (¬ check.sourceReferences.Nodup) "check source references must be unique"

end VerificationCheck

/-! ## Check keys -/

/-- The persisted spelling of a fulfilment policy. -/
def fulfilmentValue : FulfilmentPolicy → String
  | .captureRequired => "CAPTURE_REQUIRED"
  | .authorizedAllowed => "AUTHORIZED_ALLOWED"

/-- The persisted spelling of a late-authorisation policy. -/
def lateAuthorisationValue : LateAuthorisationPolicy → String
  | .fulfilLater => "FULFIL_LATER"
  | .doNotFulfil => "DO_NOT_FULFIL"

/-- A policy of a check key, as `str` spells the pair. -/
def policyComponent (dimension : PolicyDimension) (value : Option String) : String :=
  "('" ++ dimension.value ++ "', '" ++ value.getD "UNRESOLVED" ++ "')"

/-- The policies of a check key. -/
def policyComponents (dimensions : List PolicyDimension) (policy : PolicyAuthoritySnapshot) :
    List String :=
  (if .fulfilment ∈ dimensions then
    [policyComponent .fulfilment (policy.fulfilment.map fulfilmentValue)] else []) ++
  if .lateAuthorisation ∈ dimensions then
    [policyComponent .lateAuthorisation (policy.lateAuthorisation.map lateAuthorisationValue)]
  else []

/-- The components of a check key: what names the assertion, the six identities of the target, and
the mutations, acknowledgements and policies. -/
def checkKeyComponents (projectId : ProjectId) (scenario : ScenarioId) (key : AssertionKey)
    (invariantId : String) (invariantVersion : Nat) (targets : CheckTargetReference)
    (dimensions : List PolicyDimension) (policy : PolicyAuthoritySnapshot) : List String :=
  ["VERIFICATION_CHECK_KEY_V1", projectId, scenario.value, key.value, invariantId,
    toString invariantVersion, targets.ingressNodeId.getD "NO_INGRESS",
    targets.routeRegistrationId.getD "NO_ROUTE", targets.ingressSymbolId.getD "NO_INGRESS_SYMBOL",
    targets.customerValueNodeId.getD "NO_CUSTOMER_NODE",
    targets.customerValueSymbolId.getD "NO_CUSTOMER_SYMBOL",
    targets.connectivityEdgeId.getD "NO_CONNECTIVITY_EDGE"] ++
    (targets.mutationNodeIds ++ targets.acknowledgementNodeIds ++
      policyComponents dimensions policy)

/-- `build_verification_check_key`. -/
def buildVerificationCheckKey (hashing : RunHashing) (projectId : ProjectId)
    (scenario : ScenarioId) (key : AssertionKey) (invariantId : String) (invariantVersion : Nat)
    (targets : CheckTargetReference) (dimensions : List PolicyDimension)
    (policy : PolicyAuthoritySnapshot) : VerificationCheckKey :=
  hashing.verificationCheckKey
    (checkKeyComponents projectId scenario key invariantId invariantVersion targets dimensions
      policy)

/-! ## Findings and summary -/

inductive FindingKind where
  | verifiedFailure | staticWarning | resolutionRequired | verificationCoverage
  deriving DecidableEq, Repr

/-- `_FINDING_KIND_BY_RESULT`. -/
def findingKind : VerificationResultState → Option FindingKind
  | .verifiedFail => some .verifiedFailure
  | .staticWarning => some .staticWarning
  | .needsInput => some .resolutionRequired
  | .unverified => some .verificationCoverage
  | .verifiedPass | .notApplicable => none

/-- A finding, with the rule of `validate_critical`. -/
structure Finding where
  occurrenceId : FindingOccurrenceId
  findingKey : FindingKey
  checkId : VerificationCheckId
  checkKey : VerificationCheckKey
  kind : FindingKind
  critical : Bool
  /-- Only verified failures are critical. -/
  criticalMatches : critical = true ↔ kind = .verifiedFailure
  deriving DecidableEq

theorem critical_iff (kind : FindingKind) :
    decide (kind = .verifiedFailure) = true ↔ kind = .verifiedFailure := decide_eq_true_iff

/-- `derive_findings`. -/
def deriveFindings (hashing : RunHashing) (runId : VerificationRunId)
    (checks : List VerificationCheck) : List Finding :=
  checks.filterMap fun check => (findingKind check.result).map fun kind =>
    { occurrenceId := hashing.findingOccurrenceId runId check.checkId
      findingKey := hashing.findingKey check.checkKey
      checkId := check.checkId
      checkKey := check.checkKey
      kind := kind
      critical := kind = .verifiedFailure
      criticalMatches := critical_iff kind }

structure EvidenceTierDistribution where
  noTier : Nat
  e0Discovered : Nat
  e1Resolved : Nat
  e2StaticVerified : Nat
  e3DynamicVerified : Nat
  e4RazorpayGrounded : Nat
  deriving DecidableEq

structure VerificationRunSummary where
  verifiedPass : Nat
  verifiedFail : Nat
  staticWarning : Nat
  needsInput : Nat
  unverified : Nat
  notApplicable : Nat
  dynamicCoverageNumerator : Nat
  dynamicCoverageDenominator : Nat
  evidenceTiers : EvidenceTierDistribution
  deriving DecidableEq

/-- `summarize_checks`. -/
def summarizeChecks (checks : List VerificationCheck) : VerificationRunSummary :=
  let count := fun state : VerificationResultState => checks.countP (·.result = state)
  let tier := fun tier : Option EvidenceTier => checks.countP (·.evidenceTier = tier)
  { verifiedPass := count .verifiedPass
    verifiedFail := count .verifiedFail
    staticWarning := count .staticWarning
    needsInput := count .needsInput
    unverified := count .unverified
    notApplicable := count .notApplicable
    dynamicCoverageNumerator :=
      tier (some .e3DynamicVerified) + tier (some .e4RazorpayGrounded)
    dynamicCoverageDenominator := checks.length - count .notApplicable
    evidenceTiers :=
      { noTier := tier none
        e0Discovered := tier (some .e0Discovered)
        e1Resolved := tier (some .e1Resolved)
        e2StaticVerified := tier (some .e2StaticVerified)
        e3DynamicVerified := tier (some .e3DynamicVerified)
        e4RazorpayGrounded := tier (some .e4RazorpayGrounded) } }

/-! ## The run -/

/-- Everything a run states, which its fingerprint is taken of. -/
structure VerificationRunPayload where
  schemaVersion : Nat
  runId : VerificationRunId
  createdAt : Int
  completedAt : Int
  authority : VerificationAuthoritySnapshot
  checks : List VerificationCheck
  findings : List Finding
  summary : VerificationRunSummary

structure VerificationRun extends VerificationRunPayload where
  runFingerprint : Sha256Digest

/-- What the gate reads of a run. -/
def VerificationRun.gateView (run : VerificationRun) : StateGuard.VerificationRun :=
  { runId := run.runId
    runFingerprint := run.runFingerprint
    checks := run.checks.map fun check =>
      { checkKey := check.checkKey
        scenarioId := check.scenarioId
        assertionKey := check.assertionKey.value
        applicability := ⟨check.applicability.role⟩
        result := check.result
        reason := check.reason
        keyBounded := by cases check.assertionKey <;> decide } }

namespace VerificationRunPayload

variable (run : VerificationRunPayload)

/-- The checks grounded in a test resource. -/
def e4Checks : List VerificationCheck :=
  run.checks.filter (·.evidenceTier = some .e4RazorpayGrounded)

/-- The grounding of a run is of that run and of its time. -/
def validateGrounding : Except String Unit :=
  match run.authority.razorpayGrounding with
  | some grounding =>
    raiseIf (grounding.runId ≠ run.runId ∨
        ¬ (run.createdAt ≤ grounding.acquiredAt ∧ grounding.acquiredAt ≤ run.completedAt) ∨
        run.authority.schemaVersions.razorpayGrounding ≠ some 1)
      "run grounding must be current and bound to the exact run"
  | none => raiseIf (run.authority.schemaVersions.razorpayGrounding.isSome)
      "grounding schema authority requires a grounding attempt"

/-- The grounding of a check is that of the run. -/
def GroundedInRun (check : VerificationCheck) : Prop :=
  ∃ snapshot ∈ run.authority.razorpayGrounding, ∃ grounding ∈ check.grounding,
    grounding.groundingFingerprint = snapshot.groundingFingerprint ∧
      some grounding.sanitizedProjectionFingerprint = snapshot.sanitizedProjectionFingerprint

instance (check : VerificationCheck) : Decidable (run.GroundedInRun check) :=
  inferInstanceAs (Decidable (∃ _ ∈ _, ∃ _ ∈ _, _))

/-- The capability fingerprints of the checks. -/
def runtimeFingerprints : List Sha256Digest :=
  sortedSet (run.checks.filterMap (·.runtimeEvidence.runtimeCapabilityFingerprint))

/-- The re-verification reference of a check is that of the run. -/
def ReverifiesRun (check : VerificationCheck) : Prop :=
  check.reverification.scenarioId = check.scenarioId ∧
    check.reverification.assertionKey = check.assertionKey ∧
    check.reverification.invariantId = check.invariantId ∧
    check.reverification.invariantVersion = check.invariantVersion ∧
    check.reverification.targets = check.targets ∧
    check.reverification.configFingerprint = run.authority.configFingerprint ∧
    check.reverification.projectSourceFingerprint = run.authority.projectSourceFingerprint ∧
    check.reverification.projectedGraphFingerprint = run.authority.projectedGraphFingerprint ∧
    check.reverification.applicabilityFingerprint = run.authority.applicabilityFingerprint ∧
    check.reverification.razorpayRuleCatalogFingerprint = run.authority.ruleCatalogFingerprint

instance (check : VerificationCheck) : Decidable (run.ReverifiesRun check) :=
  inferInstanceAs (Decidable (_ ∧ _ ∧ _ ∧ _ ∧ _ ∧ _ ∧ _ ∧ _ ∧ _ ∧ _))

/-- What `validate_run` checks of one check against the run. -/
def validateRunCheck (hashing : RunHashing) (check : VerificationCheck) : Except String Unit := do
  raiseIf (check.assertionId ≠ hashing.assertionId check.scenarioInstanceId check.assertionKey)
    "verification assertion identity is not canonical"
  raiseIf (check.checkId ≠ hashing.verificationCheckId run.runId check.scenarioInstanceId
      check.assertionId)
    "verification check occurrence identity is not canonical"
  raiseIf (check.checkKey ≠ buildVerificationCheckKey hashing run.authority.projectId
      check.scenarioId check.assertionKey check.invariantId check.invariantVersion check.targets
      check.keyPolicyDimensions run.authority.policy)
    "verification check key is not canonical"
  raiseIf (¬ run.ReverifiesRun check)
    "check re-verification authority is inconsistent with its run"
  raiseIf (.fulfilment ∈ check.policyAuthority.dimensions ∧
      (check.policyAuthority.fulfilment ≠ run.authority.policy.fulfilment ∨
        check.policyAuthority.fulfilmentEvidenceFingerprint ≠
          some run.authority.policy.fulfilmentEvidenceFingerprint))
    "check fulfilment authority is inconsistent with its run"
  raiseIf (.lateAuthorisation ∈ check.policyAuthority.dimensions ∧
      (check.policyAuthority.lateAuthorisation ≠ run.authority.policy.lateAuthorisation ∨
        check.policyAuthority.lateAuthorisationEvidenceFingerprint ≠
          some run.authority.policy.lateAuthorisationEvidenceFingerprint))
    "check late-policy authority is inconsistent with its run"

/-- `validate_run`, up to the fingerprint. -/
def validatePayload (hashing : RunHashing) : Except String Unit := do
  raiseIf (run.checks = []) "a verification run has a check"
  raiseIf (run.completedAt < run.createdAt)
    "verification run completion cannot precede creation"
  raiseIf (¬ (run.checks.map (·.checkId)).Nodup)
    "verification check occurrence IDs must be unique"
  raiseIf (¬ (run.checks.map (·.checkKey)).Nodup)
    "verification check keys must be unique within one run"
  raiseIf (run.schemaVersion = 1 ∧ ∃ check ∈ run.checks, check.relevantAuthority.isSome)
    "schema-v1 verification checks cannot carry v2 authority"
  raiseIf ((run.schemaVersion = 2 ∨ run.schemaVersion = 3) ∧
      ∃ check ∈ run.checks, check.relevantAuthority = none)
    "current verification checks require relevant authority"
  raiseIf ((run.schemaVersion = 1 ∨ run.schemaVersion = 2) ∧
      (run.authority.razorpayGrounding.isSome ∨ ∃ check ∈ run.checks, check.grounding.isSome))
    "legacy verification runs cannot carry Razorpay grounding"
  raiseIf (run.schemaVersion = 3 ∧ run.authority.schemaVersions.scenarioExecutionResult ≠ 3)
    "schema-v3 verification requires scenario result schema v3"
  run.validateGrounding
  raiseIf (1 < run.e4Checks.length) "bounded grounding may promote at most one SG-01 check"
  raiseIf (run.e4Checks ≠ [] ∧
      ¬ ∃ snapshot ∈ run.authority.razorpayGrounding, snapshot.status = .grounded)
    "E4 checks require a successful run grounding snapshot"
  raiseIf (∃ check ∈ run.e4Checks, ¬ run.GroundedInRun check)
    "E4 check grounding must match exact run authority"
  raiseIf (run.runtimeFingerprints ≠ run.authority.runtimeCapabilityFingerprints)
    "run runtime authority must match check evidence"
  forEach (run.validateRunCheck hashing) run.checks
  raiseIf (run.findings ≠ deriveFindings hashing run.runId run.checks)
    "findings must be derived exactly from normalized checks"
  raiseIf (run.summary ≠ summarizeChecks run.checks)
    "run summary must be derived exactly from normalized checks"
  raiseIf (¬ (run.checks.flatMap (·.razorpayRuleIds) ⊆ run.authority.referencedRules ∧
      run.authority.referencedRules ⊆ run.checks.flatMap (·.razorpayRuleIds)))
    "run rule snapshot must match check rule references"

end VerificationRunPayload

/-- `validate_run`. -/
def VerificationRun.validateRun (hashing : RunHashing)
    (fingerprint : VerificationRunPayload → Sha256Digest) (run : VerificationRun) :
    Except String Unit := do
  run.toVerificationRunPayload.validatePayload hashing
  raiseIf (run.runFingerprint ≠ fingerprint run.toVerificationRunPayload)
    "verification-run fingerprint must match artifact contents"

end Evidence

end StateGuard
