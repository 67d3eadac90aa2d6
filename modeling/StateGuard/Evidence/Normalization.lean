import StateGuard.Discovery.Contracts
import StateGuard.Evidence.Contracts

/-!
# Building a verification run

`buildVerificationRun` pairs the assertions of an applicability artifact with scenario results, makes
a check of each pair and assembles the run, which its own validator then accepts or refuses.  The
fingerprints of the relevant source text are read from the repository (`RunInputs.relevantAuthority`);
timestamps are instants.
-/

namespace StateGuard

namespace Evidence

open Checks KeyOrder

/-! ## Assertions and results -/

/-- An assertion with the scenario and the instance it belongs to. -/
abbrev AuthorityRow := ScenarioId × ScenarioInstance × AssertionApplicability

/-- What an assertion and its result share. -/
abbrev AuthorityKey := ScenarioId × ScenarioInstanceId × AssertionId

def rowKey (row : AuthorityRow) : AuthorityKey :=
  (row.1, row.2.1.instanceId, row.2.2.assertionId)

def resultKey (result : ScenarioExecutionResult) : AuthorityKey :=
  (result.scenarioId, result.authority.scenarioInstanceId, result.assertionId)

/-- `_assertion_authorities`. -/
def assertionAuthorities (hashing : RunHashing) (applicability : ScenarioApplicabilityArtifact) :
    Except String Unit :=
  forEachDistinct (fun row : AuthorityRow =>
      raiseIf (row.2.2.assertionId ≠ hashing.assertionId row.2.1.instanceId row.2.2.key)
        "applicability assertion identity is not canonical")
    rowKey "duplicate applicability assertion authority" [] applicability.rows

/-- `_execution_results`. -/
def executionResults (hashing : RunHashing) (results : List ScenarioExecutionResult) :
    Except String Unit :=
  forEachDistinct (fun result : ScenarioExecutionResult => result.validateResult hashing.result)
    resultKey "duplicate scenario execution assertion authority" [] results

/-- The message of results that do not belong to the assertions, with how many keys each side
lacks. -/
def notOneToOne (assertions results : List AuthorityKey) : String :=
  "scenario results must map one-to-one to applicability assertions (missing=" ++
    toString (assertions.filter (· ∉ results)).length ++ ", foreign=" ++
    toString (results.filter (· ∉ assertions)).length ++ ")"

/-! ## The parts of a check -/

/-- The references of a kind in the evidence of an assertion. -/
def referencesOf (assertion : AssertionApplicability) (kind : EvidenceReferenceKind) :
    List String :=
  ((assertion.reasons.flatMap (·.evidence)).filter (·.kind = kind)).map (·.reference)

/-- `dict.fromkeys`. -/
def distinct {α : Type} [DecidableEq α] (items : List α) : List α := items.reverse.dedup.reverse

theorem distinct_nodup {α : Type} [DecidableEq α] (items : List α) : (distinct items).Nodup :=
  List.nodup_reverse.mpr (List.nodup_dedup _)

/-- `_applicability_projection`. -/
def applicabilityProjection (assertion : AssertionApplicability) :
    Except String ApplicabilityEvidenceSnapshot := do
  raiseIf (∃ item ∈ assertion.reasons.flatMap (·.evidence),
      item.kind ∉ [EvidenceReferenceKind.graphNode, .graphEdge, .normalControl])
    "unsupported free-form applicability evidence reference"
  pure
    { state := assertion.state
      role := assertion.role
      reasons := distinct (assertion.reasons.map (·.code))
      graphNodeIds := distinct (referencesOf assertion .graphNode)
      graphEdgeIds := distinct (referencesOf assertion .graphEdge)
      normalControlIds := distinct (referencesOf assertion .normalControl)
      reasonsUnique := distinct_nodup _
      nodesUnique := distinct_nodup _
      edgesUnique := distinct_nodup _
      controlsUnique := distinct_nodup _ }

/-- The mutations a check is about: those referred to and those observed. -/
def targetMutations (graph : PaymentSafetyGraphArtifact) (assertion : AssertionApplicability)
    (result : ScenarioExecutionResult) : List GraphNodeId :=
  sortedSet ((referencesOf assertion .graphNode ++
    result.mutations.flatMap (·.targetIds)).filter fun nodeId =>
      ∃ node ∈ (graph.node? nodeId).toList, node.mutation?.isSome)

/-- The acknowledgements a check is about. -/
def targetAcknowledgements (graph : PaymentSafetyGraphArtifact)
    (assertion : AssertionApplicability) (result : ScenarioExecutionResult) : List GraphNodeId :=
  sortedSet ((referencesOf assertion .graphNode).filter (fun nodeId =>
      ∃ node ∈ (graph.node? nodeId).toList, node.acknowledgement?.isSome) ++
    result.customers.filterMap fun observation =>
      observation.acknowledgementFailure.map (·.acknowledgementNodeId))

/-- The control that names the target: that of the instance, or else that of the result. -/
def identityControl (applicability : ScenarioApplicabilityArtifact) (item : ScenarioInstance)
    (result : ScenarioExecutionResult) : Option NormalControlInstance :=
  match item.normalControlId with
  | some controlId => applicability.control? controlId
  | none => result.authority.normalControlId.bind applicability.control?

/-- `_target_reference`. -/
def targetReference (applicability : ScenarioApplicabilityArtifact)
    (graph : PaymentSafetyGraphArtifact) (item : ScenarioInstance)
    (assertion : AssertionApplicability) (result : ScenarioExecutionResult) :
    Except String CheckTargetReference := do
  raiseIf (result.authority.normalControlId ≠ assertion.normalControlId)
    "scenario result substituted assertion normal-control authority"
  raiseIf (∃ controlId ∈ result.authority.normalControlId, applicability.control? controlId = none)
    "scenario result refers to an unknown normal control"
  let control := identityControl applicability item result
  pure
    { ingressNodeId := item.ingressNodeId
      routeRegistrationId := item.routeRegistrationId
      ingressSymbolId := item.ingressNodeId.bind fun nodeId =>
        (graph.node? nodeId).map (·.backingSymbolId)
      normalControlId := result.authority.normalControlId
      customerValueNodeId := control.map (·.customerValueNodeId)
      customerValueSymbolId := control.map (·.customerValueSymbolId)
      connectivityEdgeId := control.map (·.connectivityEdgeId)
      mutationNodeIds := targetMutations graph assertion result
      acknowledgementNodeIds := targetAcknowledgements graph assertion result
      mutationsUnique := sortedSet_nodup _
      mutationsOrdered := sortedSet_pairwise _
      acknowledgementsUnique := sortedSet_nodup _
      acknowledgementsOrdered := sortedSet_pairwise _ }

/-- `_request_projection`. -/
def requestProjection (result : ScenarioExecutionResult) (roles : List RequestRole) :
    Except String (List RuntimeRequestEvidence) := do
  raiseIf (roles.length < result.requestObservations.length)
    "scenario result has more requests than its assertion definition"
  pure ((result.requestObservations.zip roles).mapIdx fun ordinal entry =>
    ⟨ordinal, entry.2, entry.1⟩)

/-- `_check_policy`. -/
def checkPolicy (dimensions : List PolicyDimension) (policy : MerchantPolicyAssessment) :
    CheckPolicyAuthority where
  dimensions := dimensions
  fulfilment := if .fulfilment ∈ dimensions then policy.fulfilment.confirmedPolicy else none
  fulfilmentEvidenceFingerprint :=
    if .fulfilment ∈ dimensions then some policy.fulfilment.evidenceFingerprint else none
  lateAuthorisation :=
    if .lateAuthorisation ∈ dimensions then policy.lateAuthorisation.confirmedPolicy else none
  lateAuthorisationEvidenceFingerprint :=
    if .lateAuthorisation ∈ dimensions then some policy.lateAuthorisation.evidenceFingerprint
    else none
  fulfilmentUsed := by split <;> simp [*]
  lateUsed := by split <;> simp [*]

/-- `_policy_snapshot`. -/
def policySnapshot (policy : MerchantPolicyAssessment) : PolicyAuthoritySnapshot where
  fulfilment := policy.fulfilment.confirmedPolicy
  fulfilmentEvidenceFingerprint := policy.fulfilment.evidenceFingerprint
  fulfilmentEvidenceCurrent := policy.fulfilment.evidenceCurrent
  lateAuthorisation := policy.lateAuthorisation.confirmedPolicy
  lateAuthorisationEvidenceFingerprint := policy.lateAuthorisation.evidenceFingerprint
  lateAuthorisationEvidenceCurrent := policy.lateAuthorisation.evidenceCurrent

/-- The symbols behind some nodes, each with its location.  The source orders them by their JSON
text. -/
def sourceReferences (index : SourceIndexArtifact) (graph : PaymentSafetyGraphArtifact)
    (nodeIds : List GraphNodeId) : List SourceEvidenceReference :=
  let symbolIds := (nodeIds.filterMap fun nodeId =>
    (graph.node? nodeId).map (·.backingSymbolId)).dedup
  symbolIds.filterMap fun symbolId =>
    (index.symbols.find? (·.symbolId = symbolId)).map fun symbol =>
      ⟨symbolId, symbol.sourceLocation⟩

/-! ## Checks -/

/-- The arguments of `build_verification_run`. -/
structure RunInputs where
  runId : VerificationRunId
  createdAt : Int
  completedAt : Int
  configFingerprint : Sha256Digest
  runtimeConfigFingerprint : Sha256Digest
  projectSourceFingerprint : Sha256Digest
  sourceIndex : SourceIndexArtifact
  structuralGraphFingerprint : Sha256Digest
  projectedGraph : PaymentSafetyGraphArtifact
  applicability : ScenarioApplicabilityArtifact
  results : List ScenarioExecutionResult
  razorpayGrounding : Option RazorpayGroundingSnapshot
  /-- `build_finding_relevant_authority_snapshot`, which reads the source files. -/
  relevantAuthority : CheckTargetReference → List GraphNodeId → List GraphEdgeId →
    AssertionApplicability → Except String Sha256Digest

/-- The grounding a result brings to its check: it must be that of the run. -/
def checkGrounding (inputs : RunInputs) (scenario : ScenarioId)
    (result : ScenarioExecutionResult) :
    Except String (Option EvidenceTier × Option InputGrounding) :=
  match result.inputReference with
  | some (.groundedScenarioInput _ grounding) =>
    if scenario = .sg01 ∧ ∃ snapshot ∈ inputs.razorpayGrounding,
        snapshot.status = .grounded ∧
          snapshot.groundingFingerprint = grounding.groundingFingerprint ∧
          snapshot.sanitizedProjectionFingerprint =
            some grounding.sanitizedProjectionFingerprint then
      if result.evidenceTier = some .e3DynamicVerified then
        .ok (some .e4RazorpayGrounded, some grounding)
      else .ok (result.evidenceTier, none)
    else .error "grounded scenario input has no matching run grounding authority"
  | _ => .ok (result.evidenceTier, none)

/-- The nodes a check refers to. -/
def checkNodeIds (evidence : ApplicabilityEvidenceSnapshot) (targets : CheckTargetReference) :
    List GraphNodeId :=
  sortedSet (evidence.graphNodeIds ++ targets.mutationNodeIds ++ targets.acknowledgementNodeIds ++
    targets.ingressNodeId.toList ++ targets.customerValueNodeId.toList)

/-- The edges a check refers to. -/
def checkEdgeIds (evidence : ApplicabilityEvidenceSnapshot) (targets : CheckTargetReference) :
    List GraphEdgeId :=
  sortedSet (evidence.graphEdgeIds ++ targets.connectivityEdgeId.toList)

/-- The runtime evidence of a result. -/
def runtimeProjection (result : ScenarioExecutionResult) (requests : List RuntimeRequestEvidence) :
    RuntimeEvidenceProjection where
  scenarioExecutionId := result.executionId
  runtimeSessionId := result.authority.runtimeSessionId
  runtimeCapabilityFingerprint := result.authority.runtimeCapabilityFingerprint
  transcriptFingerprint := result.authority.transcriptFingerprint
  requests := requests
  diagnostics := result.runtimeDiagnostics

/-- The check of a result, from the parts that were computed of it. -/
def checkRecord (hashing : RunHashing) (inputs : RunInputs) (row : AuthorityRow)
    (result : ScenarioExecutionResult) (definition : AssertionDefinition)
    (targets : CheckTargetReference) (evidence : ApplicabilityEvidenceSnapshot)
    (requests : List RuntimeRequestEvidence)
    (grounded : Option EvidenceTier × Option InputGrounding) (relevant : Sha256Digest) :
    VerificationCheck where
  checkId := hashing.verificationCheckId inputs.runId row.2.1.instanceId row.2.2.assertionId
  checkKey := buildVerificationCheckKey hashing inputs.applicability.projectId row.1 row.2.2.key
    definition.invariantId definition.invariantVersion targets definition.keyPolicyDimensions
    (policySnapshot inputs.applicability.policy)
  scenarioId := row.1
  scenarioInstanceId := row.2.1.instanceId
  assertionId := row.2.2.assertionId
  assertionKey := row.2.2.key
  invariantId := definition.invariantId
  invariantVersion := definition.invariantVersion
  expectedInvariant := definition.expectedInvariant
  scenarioDefinitionFingerprint := result.scenarioDefinitionFingerprint
  scenarioResultFingerprint := result.resultFingerprint
  applicability := evidence
  targets := targets
  policyAuthority := checkPolicy definition.policyAuthority inputs.applicability.policy
  keyPolicyDimensions := definition.keyPolicyDimensions
  razorpayRuleIds := definition.razorpayRuleIds
  sourceReferences := sourceReferences inputs.sourceIndex inputs.projectedGraph
    (checkNodeIds evidence targets)
  graphNodeIds := checkNodeIds evidence targets
  graphEdgeIds := checkEdgeIds evidence targets
  inputReference := result.inputReference
  runtimeEvidence := runtimeProjection result requests
  result := result.result
  evidenceTier := grounded.1
  grounding := grounded.2
  reason := result.reason
  reverification :=
    { scenarioId := row.1
      assertionKey := row.2.2.key
      invariantId := definition.invariantId
      invariantVersion := definition.invariantVersion
      targets := targets
      inputReference := result.inputReference
      configFingerprint := inputs.configFingerprint
      projectSourceFingerprint := inputs.projectSourceFingerprint
      projectedGraphFingerprint := inputs.projectedGraph.graphFingerprint
      applicabilityFingerprint := inputs.applicability.applicabilityFingerprint
      razorpayRuleCatalogFingerprint := hashing.ruleCatalog }
  relevantAuthority := some relevant

/-- The check of one assertion. -/
def buildCheck (hashing : RunHashing) (inputs : RunInputs) (row : AuthorityRow) :
    Except String VerificationCheck :=
  match inputs.results.find? (resultKey · = rowKey row) with
  | none => .error (notOneToOne [rowKey row] [])
  | some result => do
    raiseIf (result.authority.applicabilityFingerprint ≠
        inputs.applicability.applicabilityFingerprint)
      "scenario result has foreign applicability authority"
    raiseIf (result.scenarioDefinitionFingerprint ≠ hashing.scenarioDefinition row.1)
      "scenario result has foreign invariant-definition authority"
    let definition ← assertionDefinition row.1 row.2.2.key
    let targets ← targetReference inputs.applicability inputs.projectedGraph row.2.1 row.2.2 result
    let evidence ← applicabilityProjection row.2.2
    let requests ← requestProjection result definition.requestRoles
    raiseIf (requests.map (·.requestId) ≠ result.requestObservations.map (·.requestId))
      "runtime evidence projection changed request identity"
    let grounded ← checkGrounding inputs row.1 result
    (runtimeProjection result requests).validateRuntime
    let relevant ← inputs.relevantAuthority targets (checkNodeIds evidence targets)
      (checkEdgeIds evidence targets) row.2.2
    let check := checkRecord hashing inputs row result definition targets evidence requests grounded
      relevant
    check.validateCheck
    pure check

/-! ## The run -/

/-- The place of a check: by scenario, instance and assertion. -/
def checkOrder (check : VerificationCheck) : Lex (Nat × Lex (String × Nat)) :=
  toLex (ScenarioId.all.idxOf check.scenarioId, toLex (check.scenarioInstanceId,
    assertionOrder check.scenarioId check.assertionKey))

/-- The rules of the checks, each once, ordered by their spelling. -/
def ruleSnapshot (checks : List VerificationCheck) : List RazorpayProtocolRuleId :=
  sortedByKey RazorpayProtocolRuleId.value (checks.flatMap (·.razorpayRuleIds)).dedup

/-- The authority of a run. -/
def runAuthority (hashing : RunHashing) (inputs : RunInputs) (checks : List VerificationCheck) :
    VerificationAuthoritySnapshot where
  projectId := inputs.sourceIndex.projectId
  configFingerprint := inputs.configFingerprint
  projectSourceFingerprint := inputs.projectSourceFingerprint
  sourceIndexFingerprint := inputs.sourceIndex.sourceIndexFingerprint
  structuralGraphFingerprint := inputs.structuralGraphFingerprint
  projectedGraphFingerprint := inputs.projectedGraph.graphFingerprint
  applicabilityFingerprint := inputs.applicability.applicabilityFingerprint
  runtimeConfigFingerprint := inputs.runtimeConfigFingerprint
  runtimeCapabilityFingerprints :=
    sortedSet (checks.filterMap (·.runtimeEvidence.runtimeCapabilityFingerprint))
  policy := policySnapshot inputs.applicability.policy
  ruleCatalogFingerprint := hashing.ruleCatalog
  referencedRules := ruleSnapshot checks
  razorpayGrounding := inputs.razorpayGrounding
  schemaVersions := ⟨3, inputs.razorpayGrounding.map fun _ => 1⟩

/-- The run as `build_verification_run` puts it together, before the run validates itself. -/
def assembleRun (hashing : RunHashing) (inputs : RunInputs) :
    Except String VerificationRunPayload := do
  raiseIf (inputs.sourceIndex.projectId ≠ inputs.applicability.projectId)
    "verification authority refers to different projects"
  raiseIf (inputs.sourceIndex.sourceIndexFingerprint ≠ inputs.applicability.sourceIndexFingerprint)
    "verification applicability has stale source authority"
  raiseIf (inputs.structuralGraphFingerprint ≠ inputs.applicability.structuralGraphFingerprint)
    "verification applicability has stale structural graph authority"
  raiseIf (inputs.projectedGraph.graphFingerprint ≠ inputs.applicability.projectedGraphFingerprint)
    "verification applicability has stale projected graph authority"
  assertionAuthorities hashing inputs.applicability
  executionResults hashing inputs.results
  raiseIf (¬ (inputs.applicability.rows.map rowKey ⊆ inputs.results.map resultKey ∧
      inputs.results.map resultKey ⊆ inputs.applicability.rows.map rowKey))
    (notOneToOne (inputs.applicability.rows.map rowKey) (inputs.results.map resultKey))
  let built ← collect (buildCheck hashing inputs) inputs.applicability.rows
  let checks := sortedByKey checkOrder built
  pure
    { schemaVersion := 3
      runId := inputs.runId
      createdAt := inputs.createdAt
      completedAt := inputs.completedAt
      authority := runAuthority hashing inputs checks
      checks := checks
      findings := deriveFindings hashing inputs.runId checks
      summary := summarizeChecks checks }

/-- `build_verification_run`. -/
def buildVerificationRun (hashing : RunHashing)
    (fingerprint : VerificationRunPayload → Sha256Digest) (inputs : RunInputs) :
    Except String VerificationRun := do
  let payload ← assembleRun hashing inputs
  let run : VerificationRun := { payload with runFingerprint := fingerprint payload }
  run.validateRun hashing fingerprint
  pure run

end Evidence

end StateGuard
