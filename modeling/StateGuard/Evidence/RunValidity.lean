import StateGuard.Applicability.Instances
import StateGuard.Evidence.Targets
import StateGuard.FailureLab.StateRegression

/-!
# The validity of an assembled run

`assembledRun_valid`: the run that is assembled of an evaluated artifact and its results passes its
own validator, when at most one result would be grounded and the grounding is of this run.  The
checks are related to the rows they are made of (`CheckOf`), and what the validator computes again is
read off that relation.
-/

namespace StateGuard

namespace Evidence

open Checks KeyOrder

/-! ## Digests that do not collide -/

/-- Component lists whose digests do not collide. -/
def Collisionless (hashing : Hashing) (keys : List (List String)) : Prop :=
  ∀ a ∈ keys, ∀ b ∈ keys,
    hashing.digest (String.intercalate "\x1f" a) = hashing.digest (String.intercalate "\x1f" b) →
      a = b

instance (hashing : Hashing) (keys : List (List String)) :
    Decidable (Collisionless hashing keys) :=
  inferInstanceAs (Decidable (∀ a ∈ keys, ∀ b ∈ keys, _ → a = b))

theorem Collisionless.stableId {hashing : Hashing} {keys : List (List String)}
    (distinct : Collisionless hashing keys) {tag : String} {a b : List String} (ma : a ∈ keys)
    (mb : b ∈ keys) (same : hashing.stableId tag a = hashing.stableId tag b) : a = b := by
  refine distinct a ma b mb ?_
  exact String.append_right_inj _ |>.mp same

/-- What the identity of a check occurrence is a digest of. -/
def occurrenceComponents (run : VerificationRunPayload) (check : VerificationCheck) :
    List String :=
  [run.runId, check.scenarioInstanceId, check.assertionId]

/-- What the identity of an assertion is a digest of. -/
def assertionComponents (check : VerificationCheck) : List String :=
  [check.scenarioInstanceId, check.assertionKey.value]

/-- What the key of a check is a digest of. -/
def keyComponents (run : VerificationRunPayload) (check : VerificationCheck) : List String :=
  checkKeyComponents run.authority.projectId check.scenarioId check.assertionKey check.invariantId
    check.invariantVersion check.targets check.keyPolicyDimensions run.authority.policy

/-- What the identities of a run are digests of. -/
def VerificationRunPayload.identities (run : VerificationRunPayload) : List (List String) :=
  run.checks.flatMap fun check =>
    [occurrenceComponents run check, assertionComponents check, keyComponents run check]

theorem AssertionKey.value_injective {a b : AssertionKey} (same : a.value = b.value) : a = b := by
  revert same
  cases a <;> cases b <;> decide

/-! ## The row of a check -/

/-- A result that is promoted to a grounded check. -/
def Promotable (result : ScenarioExecutionResult) : Prop :=
  (∃ input ∈ result.inputReference, input.isGrounded = true) ∧
    result.evidenceTier = some .e3DynamicVerified

instance (result : ScenarioExecutionResult) : Decidable (Promotable result) :=
  inferInstanceAs (Decidable ((∃ _ ∈ _, _) ∧ _))

/-- The grounding of the run is of the run and of its time. -/
def GroundingCurrent (inputs : RunInputs) : Prop :=
  ∀ snapshot ∈ inputs.razorpayGrounding, snapshot.runId = inputs.runId ∧
    inputs.createdAt ≤ snapshot.acquiredAt ∧ snapshot.acquiredAt ≤ inputs.completedAt

instance (inputs : RunInputs) : Decidable (GroundingCurrent inputs) :=
  inferInstanceAs (Decidable (∀ _ ∈ _, _ ∧ _ ∧ _))

/-- What a check keeps of the assertion it is made of. -/
def checkRowKey (check : VerificationCheck) : AuthorityKey :=
  (check.scenarioId, check.scenarioInstanceId, check.assertionId)

/-- A valid result is not grounded yet. -/
theorem evidenceTier_of_valid {fingerprint : ScenarioResultPayload → Sha256Digest}
    {result : ScenarioExecutionResult} (valid : result.validateResult fingerprint = .ok ()) :
    result.evidenceTier ≠ some .e4RazorpayGrounded := by
  simp only [ScenarioExecutionResult.validateResult, ScenarioResultPayload.validateCommon,
    bind_eq_ok, exists_unit, raiseIf_eq_ok] at valid
  exact valid.1.2.1

section

variable {hashing : RunHashing} {inputs : RunInputs} {row : AuthorityRow}
  {check : VerificationCheck}

/-- How a check was made. -/
structure CheckOf (hashing : RunHashing) (inputs : RunInputs) (row : AuthorityRow)
    (check : VerificationCheck) : Prop where
  record : ∃ result ∈ inputs.results, resultKey result = rowKey row ∧
    ∃ targets evidence requests grounded relevant,
      targetReference inputs.applicability inputs.projectedGraph row.2.1 row.2.2 result =
        .ok targets ∧
      checkGrounding inputs row.1 result = .ok grounded ∧
      check = checkRecord hashing inputs row result (definitionOf row.2.2.key) targets evidence
        requests grounded relevant
  scenario : (definitionOf row.2.2.key).scenarioId = row.1

theorem buildCheck_eq_ok (built : buildCheck hashing inputs row = .ok check) :
    CheckOf hashing inputs row check := by
  unfold buildCheck at built
  split at built
  next => cases built
  next result found =>
    simp only [bind_eq_ok, exists_unit, raiseIf_eq_ok, pure_eq_ok] at built
    obtain ⟨-, -, definition, isDefined, targets, isTarget, evidence, -, requests, -, -, grounded,
      isGrounded, -, relevant, -, -, isCheck⟩ := built
    obtain ⟨isDefinition, sameScenario⟩ := assertionDefinition_eq_ok isDefined
    subst isDefinition
    have sameKey := List.find?_some found
    rw [decide_eq_true_iff] at sameKey
    exact ⟨⟨result, List.mem_of_find?_eq_some found, sameKey, targets, evidence, requests,
      grounded, relevant, isTarget, isGrounded, isCheck.symm⟩, sameScenario⟩

namespace CheckOf

theorem rowKey_eq (made : CheckOf hashing inputs row check) : checkRowKey check = rowKey row := by
  obtain ⟨result, -, -, targets, evidence, requests, grounded, relevant, -, -, rfl⟩ := made.record
  rfl

theorem assertionKey_eq (made : CheckOf hashing inputs row check) :
    check.assertionKey = row.2.2.key := by
  obtain ⟨result, -, -, targets, evidence, requests, grounded, relevant, -, -, rfl⟩ := made.record
  rfl

/-- The identities of a check are canonical, and it is verified again under the authority of the
run. -/
theorem validateRunCheck (made : CheckOf hashing inputs row check)
    (canonical : row.2.2.assertionId = hashing.assertionId row.2.1.instanceId row.2.2.key)
    (project : inputs.sourceIndex.projectId = inputs.applicability.projectId)
    {run : VerificationRunPayload} {checks : List VerificationCheck}
    (sameRun : run.runId = inputs.runId)
    (authority : run.authority = runAuthority hashing inputs checks) :
    run.validateRunCheck hashing check = .ok () := by
  obtain ⟨result, -, -, targets, evidence, requests, grounded, relevant, -, -, rfl⟩ := made.record
  obtain ⟨schemaVersion, runId, createdAt, completedAt, runAuthority, runChecks, findings,
    summary⟩ := run
  dsimp only at sameRun authority
  subst sameRun authority
  simp only [VerificationRunPayload.validateRunCheck, bind_eq_ok, exists_unit, raiseIf_eq_ok,
    not_not, not_and, not_or]
  refine ⟨canonical, rfl, ?_, ⟨rfl, rfl, rfl, rfl, rfl, rfl, rfl, rfl, rfl, rfl⟩, ?_, ?_⟩
  · show buildVerificationCheckKey hashing inputs.applicability.projectId _ _ _ _ _ _ _ =
      buildVerificationCheckKey hashing inputs.sourceIndex.projectId _ _ _ _ _ _ _
    rw [project]
    rfl
  · intro used
    exact ⟨if_pos used, if_pos used⟩
  · intro used
    exact ⟨if_pos used, if_pos used⟩

/-- The ingress and the edge of a check are those of its instance. -/
theorem target (made : CheckOf hashing inputs row check) :
    check.targets.ingressNodeId = row.2.1.ingressNodeId ∧ ∃ result,
      check.targets.connectivityEdgeId =
        (identityControl inputs.applicability row.2.1 result).map (·.connectivityEdgeId) := by
  obtain ⟨result, -, -, targets, evidence, requests, grounded, relevant, isTarget, -, rfl⟩ :=
    made.record
  obtain ⟨sameIngress, sameEdge⟩ := targetReference_eq_ok isTarget
  exact ⟨sameIngress, result, sameEdge⟩

/-- A grounded check comes of a promotable result, and its grounding is that of the run. -/
theorem grounded (made : CheckOf hashing inputs row check)
    (valid : ∀ result ∈ inputs.results, result.validateResult hashing.result = .ok ())
    (e4 : check.evidenceTier = some .e4RazorpayGrounded) :
    ∃ result ∈ inputs.results, resultKey result = rowKey row ∧ Promotable result ∧
      ∃ snapshot ∈ inputs.razorpayGrounding, snapshot.status = .grounded ∧
        ∃ grounding ∈ check.grounding,
          grounding.groundingFingerprint = snapshot.groundingFingerprint ∧
            some grounding.sanitizedProjectionFingerprint =
              snapshot.sanitizedProjectionFingerprint := by
  obtain ⟨result, isResult, sameKey, targets, evidence, requests, grounded, relevant, -, isGrounded,
    rfl⟩ := made.record
  have offline : result.evidenceTier ≠ some .e4RazorpayGrounded := evidenceTier_of_valid
    (valid result isResult)
  change grounded.1 = some .e4RazorpayGrounded at e4
  unfold checkGrounding at isGrounded
  split at isGrounded
  next input grounding isInput =>
    split at isGrounded
    next exact =>
      split at isGrounded
      next verified =>
        cases isGrounded
        obtain ⟨-, snapshot, isSnapshot, status, sameGrounding, sameProjection⟩ := exact
        refine ⟨result, isResult, sameKey, ⟨⟨_, isInput, rfl⟩, verified⟩, snapshot, isSnapshot,
          status, grounding, rfl, sameGrounding.symm, sameProjection.symm⟩
      next =>
        cases isGrounded
        exact absurd e4 offline
    next => cases isGrounded
  next =>
    cases isGrounded
    exact absurd e4 offline

end CheckOf

end

/-! ## The assembled run -/

/-- What an assembled run is made of. -/
structure Assembled (hashing : RunHashing) (inputs : RunInputs) (run : VerificationRunPayload) :
    Prop where
  project : inputs.sourceIndex.projectId = inputs.applicability.projectId
  canonical : ∀ row ∈ inputs.applicability.rows,
    row.2.2.assertionId = hashing.assertionId row.2.1.instanceId row.2.2.key
  resultsValid : ∀ result ∈ inputs.results, result.validateResult hashing.result = .ok ()
  made : ∀ check ∈ run.checks, ∃ row ∈ inputs.applicability.rows,
    CheckOf hashing inputs row check
  /-- There is one check for each row. -/
  rows : (run.checks.map checkRowKey).Perm (inputs.applicability.rows.map rowKey)
  rowsUnique : (inputs.applicability.rows.map rowKey).Nodup
  record : run =
    { schemaVersion := 3
      runId := inputs.runId
      createdAt := inputs.createdAt
      completedAt := inputs.completedAt
      authority := runAuthority hashing inputs run.checks
      checks := run.checks
      findings := deriveFindings hashing inputs.runId run.checks
      summary := summarizeChecks run.checks }

section

variable {hashing : RunHashing} {inputs : RunInputs} {run : VerificationRunPayload}

theorem assembleRun_eq_ok (assembled : assembleRun hashing inputs = .ok run) :
    Assembled hashing inputs run := by
  simp only [assembleRun, assertionAuthorities, executionResults, bind_eq_ok, exists_unit,
    raiseIf_eq_ok, forEachDistinct_eq_ok, not_not, pure_eq_ok] at assembled
  obtain ⟨project, -, -, -, ⟨canonical, rowsUnique, -⟩, ⟨valid, -, -⟩, -, built, collected, rfl⟩ :=
    assembled
  refine ⟨project, canonical, valid, ?_, ?_, rowsUnique, rfl⟩
  · intro check membership
    obtain ⟨row, isRow, isCheck⟩ :=
      exists_of_mem_collect collected ((mem_sortedByKey _ _ _).mp membership)
    exact ⟨row, isRow, buildCheck_eq_ok isCheck⟩
  · refine ((sortedByKey_perm checkOrder built).map checkRowKey).trans (List.Perm.of_eq ?_)
    exact map_key_of_collect (fun row check isCheck => (buildCheck_eq_ok isCheck).rowKey_eq)
      collected

namespace Assembled

/-- Two checks of one row are one check. -/
theorem check_of_rowKey (assembled : Assembled hashing inputs run) {a b : VerificationCheck}
    (ma : a ∈ run.checks) (mb : b ∈ run.checks) (same : checkRowKey a = checkRowKey b) : a = b :=
  List.inj_on_of_nodup_map (assembled.rows.nodup_iff.mpr assembled.rowsUnique) ma mb same

theorem checks_nodup (assembled : Assembled hashing inputs run) : run.checks.Nodup :=
  List.Nodup.of_map checkRowKey (assembled.rows.nodup_iff.mpr assembled.rowsUnique)

theorem assertionId_eq (assembled : Assembled hashing inputs run) {check : VerificationCheck}
    (membership : check ∈ run.checks) :
    check.assertionId = hashing.assertionId check.scenarioInstanceId check.assertionKey := by
  obtain ⟨row, isRow, made⟩ := assembled.made check membership
  have canonical := assembled.canonical row isRow
  rw [← made.assertionKey_eq] at canonical
  have same := made.rowKey_eq
  simp only [checkRowKey, rowKey, Prod.mk.injEq] at same
  rw [same.2.2, same.2.1]
  exact canonical

/-- The scenario of a check is that of its assertion. -/
theorem scenarioId_eq (assembled : Assembled hashing inputs run) {check : VerificationCheck}
    (membership : check ∈ run.checks) :
    check.scenarioId = (definitionOf check.assertionKey).scenarioId := by
  obtain ⟨row, isRow, made⟩ := assembled.made check membership
  have same := made.rowKey_eq
  simp only [checkRowKey, rowKey, Prod.mk.injEq] at same
  rw [made.assertionKey_eq, made.scenario]
  exact same.1

/-- Checks of one instance and one assertion are one check. -/
theorem check_of_instance (assembled : Assembled hashing inputs run) {a b : VerificationCheck}
    (ma : a ∈ run.checks) (mb : b ∈ run.checks)
    (sameInstance : a.scenarioInstanceId = b.scenarioInstanceId)
    (sameKey : a.assertionKey = b.assertionKey) : a = b := by
  refine assembled.check_of_rowKey ma mb ?_
  rw [checkRowKey, checkRowKey, assembled.assertionId_eq ma, assembled.assertionId_eq mb,
    assembled.scenarioId_eq ma, assembled.scenarioId_eq mb, sameInstance, sameKey]

theorem mem_identities {check : VerificationCheck} (membership : check ∈ run.checks) :
    occurrenceComponents run check ∈ run.identities ∧ assertionComponents check ∈ run.identities ∧
      keyComponents run check ∈ run.identities :=
  ⟨List.mem_flatMap.mpr ⟨check, membership, by simp⟩,
    List.mem_flatMap.mpr ⟨check, membership, by simp⟩,
    List.mem_flatMap.mpr ⟨check, membership, by simp⟩⟩

/-- Check occurrences have distinct identities. -/
theorem checkIds_nodup (assembled : Assembled hashing inputs run)
    (distinct : Collisionless hashing.toHashing run.identities) :
    (run.checks.map (·.checkId)).Nodup := by
  refine List.Nodup.map_on ?_ assembled.checks_nodup
  intro a ma b mb same
  have isId : ∀ check ∈ run.checks, check.checkId =
      hashing.stableId "sgcheck" (occurrenceComponents run check) := by
    intro check membership
    obtain ⟨row, isRow, made⟩ := assembled.made check membership
    obtain ⟨result, -, -, targets, evidence, requests, grounded, relevant, -, -, rfl⟩ := made.record
    rw [occurrenceComponents, assembled.record]
    rfl
  rw [isId a ma, isId b mb] at same
  have components := distinct.stableId (mem_identities ma).1 (mem_identities mb).1 same
  simp only [occurrenceComponents, List.cons.injEq, and_true, true_and] at components
  obtain ⟨sameInstance, sameAssertion⟩ := components
  rw [assembled.assertionId_eq ma, assembled.assertionId_eq mb] at sameAssertion
  have assertions := distinct.stableId (mem_identities ma).2.1 (mem_identities mb).2.1
    sameAssertion
  simp only [assertionComponents, List.cons.injEq, and_true] at assertions
  exact assembled.check_of_instance ma mb sameInstance
    (AssertionKey.value_injective assertions.2)

/-- Check keys are distinct: a key names the assertion and the target of its instance. -/
theorem checkKeys_nodup (assembled : Assembled hashing inputs run)
    {config : Option MerchantPolicyConfig} {resolution : Option CustomerValueResolution}
    {resolutionFingerprint : Option Sha256Digest}
    (evaluated : Evaluated hashing.toHashing config inputs.projectedGraph resolution
      resolutionFingerprint inputs.applicability)
    (distinct : Collisionless hashing.toHashing run.identities) :
    (run.checks.map (·.checkKey)).Nodup := by
  refine List.Nodup.map_on ?_ assembled.checks_nodup
  intro a ma b mb same
  have isKey : ∀ check ∈ run.checks, check.checkKey =
      hashing.stableId "sgcheckkey" (keyComponents run check) := by
    intro check membership
    obtain ⟨row, isRow, made⟩ := assembled.made check membership
    obtain ⟨result, -, -, targets, evidence, requests, grounded, relevant, -, -, rfl⟩ := made.record
    rw [keyComponents, assembled.record]
    show buildVerificationCheckKey hashing inputs.applicability.projectId _ _ _ _ _ _ _ = _
    rw [← assembled.project]
    rfl
  rw [isKey a ma, isKey b mb] at same
  have components := distinct.stableId (mem_identities ma).2.2 (mem_identities mb).2.2 same
  simp only [keyComponents, checkKeyComponents, List.cons_append, List.cons.injEq, true_and,
    List.nil_append] at components
  obtain ⟨sameScenario, sameKey, -, -, sameIngress, -, -, -, -, sameEdge, -⟩ := components
  obtain ⟨rowA, isRowA, madeA⟩ := assembled.made a ma
  obtain ⟨rowB, isRowB, madeB⟩ := assembled.made b mb
  obtain ⟨ingressA, resultA, edgeA⟩ := madeA.target
  obtain ⟨ingressB, resultB, edgeB⟩ := madeB.target
  have keyA := madeA.rowKey_eq
  have keyB := madeB.rowKey_eq
  simp only [checkRowKey, rowKey, Prod.mk.injEq] at keyA keyB
  have scenarios : rowA.1 = rowB.1 := by
    rw [← keyA.1, ← keyB.1]
    exact ScenarioId.value_injective sameScenario
  rw [ingressA, ingressB] at sameIngress
  rw [edgeA, edgeB] at sameEdge
  have inA := ((evaluated.mem_rows rowA.1 rowA.2.1 rowA.2.2).mp isRowA).1
  have inB := ((evaluated.mem_rows rowB.1 rowB.2.1 rowB.2.2).mp isRowB).1
  rw [← scenarios] at inB
  have sameInstance := instanceId_of_target evaluated inA inB sameIngress sameEdge
  refine assembled.check_of_instance ma mb ?_ (AssertionKey.value_injective sameKey)
  rw [keyA.2.1, keyB.2.1, sameInstance]

/-- No more checks are grounded than results are promotable. -/
theorem e4Checks_length (assembled : Assembled hashing inputs run) :
    run.e4Checks.length ≤ (inputs.results.filter (Promotable ·)).length := by
  have unique : (run.e4Checks.map checkRowKey).Nodup :=
    (assembled.rows.nodup_iff.mpr assembled.rowsUnique).sublist (List.filter_sublist.map _)
  have promoted : run.e4Checks.map checkRowKey ⊆
      (inputs.results.filter (Promotable ·)).map resultKey := by
    intro key membership
    obtain ⟨check, isGrounded, rfl⟩ := List.mem_map.mp membership
    obtain ⟨isCheck, e4⟩ := List.mem_filter.mp isGrounded
    obtain ⟨row, isRow, made⟩ := assembled.made check isCheck
    obtain ⟨result, isResult, sameKey, promotable, -⟩ :=
      made.grounded assembled.resultsValid (of_decide_eq_true e4)
    refine List.mem_map.mpr ⟨result, List.mem_filter.mpr ⟨isResult, decide_eq_true promotable⟩, ?_⟩
    rw [sameKey, made.rowKey_eq]
  have bound := (List.subperm_of_subset unique promoted).length_le
  rwa [List.length_map, List.length_map] at bound

/-- An evaluated artifact has an assertion, so an assembled run has a check. -/
theorem checks_ne_nil (assembled : Assembled hashing inputs run)
    {config : Option MerchantPolicyConfig} {resolution : Option CustomerValueResolution}
    {resolutionFingerprint : Option Sha256Digest}
    (evaluated : Evaluated hashing.toHashing config inputs.projectedGraph resolution
      resolutionFingerprint inputs.applicability) : run.checks ≠ [] := by
  intro empty
  have known : ScenarioId.sg01 ∈ inputs.applicability.scenarios.map (·.scenarioId) := by
    rw [evaluated.scenarioIds]
    exact ScenarioId.mem_all _
  obtain ⟨scenario, isScenario, -⟩ := List.mem_map.mp known
  obtain ⟨item, isItem⟩ := List.exists_mem_of_ne_nil _ scenario.nonempty
  obtain ⟨assertion, isAssertion, -⟩ := item.hasCore
  have isRow := (inputs.applicability.mem_rows (scenario.scenarioId, item, assertion)).mpr
    ⟨scenario, isScenario, item, isItem, assertion, isAssertion, rfl⟩
  have listed := assembled.rows.mem_iff.mpr (List.mem_map.mpr ⟨_, isRow, rfl⟩)
  rw [empty] at listed
  cases listed

theorem validateGrounding_ok (assembled : Assembled hashing inputs run)
    (current : GroundingCurrent inputs) : run.validateGrounding = .ok () := by
  have sameGrounding : run.authority.razorpayGrounding = inputs.razorpayGrounding := by
    rw [assembled.record]
    rfl
  have versions : run.authority.schemaVersions.razorpayGrounding =
      inputs.razorpayGrounding.map fun _ => 1 := by
    rw [assembled.record]
    rfl
  have sameRun : run.runId = inputs.runId := by rw [assembled.record]
  have created : run.createdAt = inputs.createdAt := by rw [assembled.record]
  have completed : run.completedAt = inputs.completedAt := by rw [assembled.record]
  unfold VerificationRunPayload.validateGrounding
  rw [versions, sameRun, created, completed]
  split
  next snapshot isSnapshot =>
    rw [sameGrounding] at isSnapshot
    obtain ⟨ofRun, after, before⟩ := current snapshot isSnapshot
    refine raiseIf_of_not ?_ _
    rintro (otherRun | outside | unversioned)
    · exact otherRun ofRun
    · exact outside ⟨after, before⟩
    · rw [isSnapshot] at unversioned
      exact unversioned rfl
  next none =>
    rw [sameGrounding] at none
    rw [none]
    rfl

/-- The grounding of a grounded check is that of the run. -/
theorem groundedInRun (assembled : Assembled hashing inputs run) {check : VerificationCheck}
    (membership : check ∈ run.e4Checks) :
    run.GroundedInRun check ∧
      ∃ snapshot ∈ run.authority.razorpayGrounding, snapshot.status = .grounded := by
  obtain ⟨isCheck, e4⟩ := List.mem_filter.mp membership
  obtain ⟨row, isRow, made⟩ := assembled.made check isCheck
  obtain ⟨result, -, -, -, snapshot, isSnapshot, status, grounding, isGrounding, same⟩ :=
    made.grounded assembled.resultsValid (of_decide_eq_true e4)
  have ofRun : snapshot ∈ run.authority.razorpayGrounding := by
    rw [assembled.record]
    exact isSnapshot
  exact ⟨⟨snapshot, ofRun, grounding, isGrounding, same⟩, snapshot, ofRun, status⟩

/-- Every check of a run passes the checks against the run. -/
theorem validateRunCheck_ok (assembled : Assembled hashing inputs run) :
    ∀ check ∈ run.checks, run.validateRunCheck hashing check = .ok () := by
  intro check membership
  obtain ⟨row, isRow, made⟩ := assembled.made check membership
  have sameRun : run.runId = inputs.runId := by rw [assembled.record]
  have authority : run.authority = runAuthority hashing inputs run.checks := by
    rw [assembled.record]
  exact made.validateRunCheck (assembled.canonical row isRow) assembled.project sameRun authority

theorem relevantAuthority_isSome (assembled : Assembled hashing inputs run)
    {check : VerificationCheck} (membership : check ∈ run.checks) :
    check.relevantAuthority ≠ none := by
  obtain ⟨row, isRow, made⟩ := assembled.made check membership
  obtain ⟨result, -, -, targets, evidence, requests, grounded, relevant, -, -, rfl⟩ := made.record
  exact Option.some_ne_none relevant

end Assembled

/-- The run assembled of an evaluated artifact and its results is valid, and is what is built: at
most one result may be promoted, the run must not end before it began, and a grounding must be of
the run. -/
theorem assembledRun_valid (hashing : RunHashing)
    (fingerprint : VerificationRunPayload → Sha256Digest) (config : Option MerchantPolicyConfig)
    (source : SourceAuthority) (resolution : Option CustomerValueResolution)
    (resolutionFingerprint : Option Sha256Digest) (inputs : RunInputs)
    (run : VerificationRunPayload)
    (evaluated : evaluateApplicability hashing.toHashing config source inputs.projectedGraph
      resolution resolutionFingerprint = .ok inputs.applicability)
    (assembled : assembleRun hashing inputs = .ok run)
    (distinct : Collisionless hashing.toHashing run.identities)
    (single : (inputs.results.filter (Promotable ·)).length ≤ 1)
    (ordered : inputs.createdAt ≤ inputs.completedAt) (current : GroundingCurrent inputs) :
    ∃ built, buildVerificationRun hashing fingerprint inputs = .ok built ∧
      built.toVerificationRunPayload = run ∧ built.validateRun hashing fingerprint = .ok () := by
  have known := evaluateApplicability_eq_ok evaluated
  have facts := assembleRun_eq_ok assembled
  have atMostOne : ¬ 1 < run.e4Checks.length := by
    have bound := facts.e4Checks_length
    omega
  have valid : run.validatePayload hashing = .ok () := by
    simp only [VerificationRunPayload.validatePayload, bind_eq_ok, exists_unit, raiseIf_eq_ok,
      forEach_eq_ok, not_not]
    refine ⟨facts.checks_ne_nil known, ?_, facts.checkIds_nodup distinct,
      facts.checkKeys_nodup known distinct, ?_, ?_, ?_, ?_, facts.validateGrounding_ok current,
      atMostOne, ?_, ?_, ?_, facts.validateRunCheck_ok, ?_, ?_, ?_⟩
    · rw [facts.record]
      exact not_lt.mpr ordered
    · rintro ⟨legacy, -⟩
      rw [facts.record] at legacy
      cases legacy
    · rintro ⟨-, check, membership, missing⟩
      exact facts.relevantAuthority_isSome membership missing
    · rintro ⟨legacy, -⟩
      rw [facts.record] at legacy
      rcases legacy with legacy | legacy <;> cases legacy
    · rintro ⟨-, other⟩
      rw [facts.record] at other
      exact other rfl
    · rintro ⟨some, unsupported⟩
      obtain ⟨check, membership⟩ := List.exists_mem_of_ne_nil _ some
      exact unsupported (facts.groundedInRun membership).2
    · rintro ⟨check, membership, foreign⟩
      exact foreign (facts.groundedInRun membership).1
    · rw [VerificationRunPayload.runtimeFingerprints, facts.record]
      rfl
    · rw [facts.record]
    · rw [facts.record]
    · have sameRules : run.authority.referencedRules = ruleSnapshot run.checks := by
        rw [facts.record]
        rfl
      have isRule : ∀ rule, rule ∈ ruleSnapshot run.checks ↔
          rule ∈ run.checks.flatMap (·.razorpayRuleIds) := fun rule => by
        rw [ruleSnapshot, mem_sortedByKey, List.mem_dedup]
      rw [sameRules]
      exact ⟨fun rule used => (isRule rule).mpr used, fun rule listed => (isRule rule).mp listed⟩
  have accepted : VerificationRun.validateRun hashing fingerprint
      { run with runFingerprint := fingerprint run } = .ok () := by
    simp only [VerificationRun.validateRun, bind_eq_ok, exists_unit, raiseIf_eq_ok, not_not]
    exact ⟨valid, trivial⟩
  refine ⟨{ run with runFingerprint := fingerprint run }, ?_, rfl, accepted⟩
  simp only [buildVerificationRun, bind_eq_ok, exists_unit, pure_eq_ok]
  exact ⟨run, assembled, accepted, rfl⟩

end

/-! ### Runs of three artifacts -/

/-- A webhook ingress of a route. -/
def webhookIngress (nodeId : GraphNodeId) (routeId : RouteRegistrationId) : GraphNode :=
  { nodeId := nodeId
    label := "POST /webhook"
    backingSymbolId := "handler"
    details := .paymentIngress
      { ingressKind := .webhook
        registration :=
          { routeRegistrationId := routeId
            appInstanceId := "app"
            registrarInstanceId := "app"
            method := "POST"
            componentPath := "/webhook"
            effectivePath := "/webhook" }
        evidenceFamilies := []
        checkoutRequestBinding := none }
    provenance := [] }

/-- The gate for captured payments of a route. -/
def capturedGate (nodeId : GraphNodeId) (routeId : RouteRegistrationId) : GraphNode :=
  { nodeId := nodeId
    label := "status"
    backingSymbolId := "handler"
    details := .paymentStateGate
      { routeRegistrationId := routeId
        structuralAnchor := "gate"
        operator := .equals
        states := ["captured"] }
    provenance := [] }

/-- One webhook that delivers captured payments. -/
def oneWebhook : PaymentSafetyGraphArtifact :=
  { projectId := "project"
    sourceIndexFingerprint := "index"
    graphFingerprint := "graph"
    completeness := .complete
    diagnostics := []
    nodes := [webhookIngress "A" "a", { sampleValue with nodeId := "V" }, capturedGate "F" "a"]
    edges := [{ sampleCall with edgeId := "c", sourceNodeId := "A", targetNodeId := "V" },
      sampleBranch "f" "F" "V" .captured]
    nodesUnique := by decide
    edgesUnique := by decide
    endpoints := by decide
    completenessMatches := rfl }

/-- Two webhooks that deliver captured payments. -/
def twoWebhooks : PaymentSafetyGraphArtifact :=
  { oneWebhook with
    nodes := [webhookIngress "A" "a", webhookIngress "B" "b", { sampleValue with nodeId := "V" },
      capturedGate "F" "a", capturedGate "G" "b"]
    edges :=
      [{ sampleCall with edgeId := "c", sourceNodeId := "A", targetNodeId := "V" },
        { sampleCall with edgeId := "d", sourceNodeId := "B", targetNodeId := "V" },
        sampleBranch "f" "F" "V" .captured, sampleBranch "g" "G" "V" .captured]
    nodesUnique := by decide
    edgesUnique := by decide
    endpoints := by decide }

/-- The merchant fulfils on capture. -/
def capturePolicy : MerchantPolicyConfig :=
  { fulfilment := some ⟨.captureRequired, "fulfilment evidence"⟩
    lateAuthorisation := none }

/-- The artifact of a graph under that policy. -/
def capturedArtifact (graph : PaymentSafetyGraphArtifact) :
    Except String ScenarioApplicabilityArtifact :=
  evaluateApplicability sampleHashing (some capturePolicy) sampleSource graph
    (some sampleResolution) (some "r")

def sampleRunHashing : RunHashing :=
  { sampleHashing with
    scenarioDefinition := fun scenario => scenario.value
    ruleCatalog := "rules"
    result := fun _ => "result" }

/-- A result that is not verified. -/
def unverifiedResult (row : AuthorityRow) : ScenarioExecutionResult :=
  { schemaVersion := 3
    executionId := "execution"
    scenarioId := row.1
    scenarioDefinitionFingerprint := row.1.value
    assertionId := row.2.2.assertionId
    authority :=
      { applicabilityFingerprint := "applicability"
        scenarioInstanceId := row.2.1.instanceId
        normalControlId := row.2.2.normalControlId
        runtimeCapabilityFingerprint := none
        runtimeSessionId := none
        runtimeRequestIds := []
        transcriptFingerprint := none
        requestsNeedSession := by decide
        requestsUnique := List.nodup_nil
        transcriptNeedsAuthority := by decide }
    inputReference := none
    requestObservations := []
    result := .unverified
    evidenceTier := none
    reason := .requestExecutionFailed
    runtimeDiagnostics := []
    resultFingerprint := "result" }

/-- A grounded pass of the first scenario. -/
def groundedResult (row : AuthorityRow) : ScenarioExecutionResult :=
  { unverifiedResult row with
    authority :=
      { (unverifiedResult row).authority with
        runtimeCapabilityFingerprint := some "capability"
        runtimeSessionId := some "session"
        runtimeRequestIds := ["first"]
        transcriptFingerprint := some "transcript"
        requestsNeedSession := by decide
        requestsUnique := by decide
        transcriptNeedsAuthority := sampleAuthority.transcriptNeedsAuthority }
    inputReference := some (.groundedScenarioInput
      { fixtureFingerprint := "fixture"
        rawBodyFingerprint := "body"
        syntheticEventId := "event"
        path := "/webhook" } ⟨"grounding", "projection"⟩)
    requestObservations := (sampleObservations.take 1).map .customer
    result := .verifiedPass
    evidenceTier := some .e3DynamicVerified
    reason := .exactTargetEnteredOnce }

/-- The inputs of a run of an artifact in which every result of the first scenario is grounded, where
the artifact has a control for it. -/
def sampleInputs (graph : PaymentSafetyGraphArtifact) (artifact : ScenarioApplicabilityArtifact) :
    RunInputs :=
  { runId := "run"
    createdAt := 0
    completedAt := 2
    configFingerprint := "config"
    runtimeConfigFingerprint := "runtime"
    projectSourceFingerprint := "source"
    sourceIndex :=
      { projectId := "project"
        sourceIndexFingerprint := "index"
        symbols := []
        callSites := []
        frameworkInstances := []
        appTargets := []
        routes := []
        routerIncludes := []
        completeness := .complete
        symbolsUnique := List.nodup_nil
        frameworksUnique := List.nodup_nil
        callSitesKnown := callSitesKnown_nil }
    structuralGraphFingerprint := "structural"
    projectedGraph := graph
    applicability := artifact
    results := artifact.rows.map fun row =>
      if row.1 = .sg01 ∧ row.2.2.normalControlId.isSome then groundedResult row
      else unverifiedResult row
    razorpayGrounding := some ⟨.grounded, "run", 1, some "projection", "grounding"⟩
    relevantAuthority := fun _ _ _ _ => .ok "relevant" }

/-- What the validator says of the run of an artifact. -/
def runVerdict (graph : PaymentSafetyGraphArtifact) (artifact : ScenarioApplicabilityArtifact) :
    Except String Unit := do
  let run ← assembleRun sampleRunHashing (sampleInputs graph artifact)
  run.validatePayload sampleRunHashing

/-- An instance of no ingress with one assertion. -/
def bareInstance (key : AssertionKey) (instanceId : ScenarioInstanceId) : ScenarioInstance :=
  { instanceId := instanceId
    ingressNodeId := none
    normalControlId := none
    routeRegistrationId := none
    customerValueNodeId := none
    customerValueSymbolId := none
    assertions := [assertionOf sampleHashing instanceId key .core
      (assessed .notApplicable .ingressAbsent []) none]
    hasCore := ⟨_, List.mem_singleton_self _, rfl⟩ }

/-- A scenario of such instances. -/
def bareScenario (scenario : ScenarioId) (key : AssertionKey)
    (instanceIds : List ScenarioInstanceId) (nonempty : instanceIds ≠ [])
    (unique : instanceIds.Nodup) : ScenarioApplicability :=
  { scenarioId := scenario
    instances := instanceIds.map (bareInstance key)
    nonempty := by simpa using nonempty
    instancesUnique := by
      rw [List.map_map]
      exact unique.map fun _ _ same => same }

/-- An artifact whose first scenario has two instances of no ingress. -/
def twinInstances : ScenarioApplicabilityArtifact :=
  { projectId := "project"
    projectSourceFingerprint := "source"
    sourceIndexFingerprint := "index"
    structuralGraphFingerprint := "structural"
    projectedGraphFingerprint := "graph"
    semanticResolutionFingerprint := none
    policy := policyAssessment sampleHashing none oneWebhook []
    normalControls := []
    scenarios :=
      [bareScenario .sg01 .sg01 ["A", "B"] (by decide) (by decide),
        bareScenario .sg02 .sg02 ["C"] (by decide) (by decide),
        bareScenario .sg03 .sg03 ["D"] (by decide) (by decide),
        bareScenario .sg04 .sg04CustomerValue ["E"] (by decide) (by decide),
        bareScenario .sg05 .sg05CustomerValue ["F"] (by decide) (by decide),
        bareScenario .sg06 .sg06CustomerValue ["G"] (by decide) (by decide),
        bareScenario .sg07 .sg07CustomerValue ["H"] (by decide) (by decide),
        bareScenario .sg08 .sg08LatePolicy ["I"] (by decide) (by decide)]
    applicabilityFingerprint := "applicability" }

/-- A run of two grounded webhooks is refused, and so is a run of an artifact whose instances share
their target. -/
theorem assembledRun_refused :
    (∃ artifact ∈ (capturedArtifact twoWebhooks).toOption, runVerdict twoWebhooks artifact =
      .error "bounded grounding may promote at most one SG-01 check") ∧
    twinInstances.validateArtifact = .ok () ∧
      runVerdict oneWebhook twinInstances =
        .error "verification check keys must be unique within one run" := by
  refine ⟨?_, by decide, ?_⟩ <;> decide +kernel

/-- The run of one grounded webhook is valid. -/
theorem oneWebhook_valid : ∃ artifact run,
    assembleRun sampleRunHashing (sampleInputs oneWebhook artifact) = .ok run ∧
      run.e4Checks ≠ [] ∧
      ∃ built, buildVerificationRun sampleRunHashing (fun _ => "fingerprint")
          (sampleInputs oneWebhook artifact) = .ok built ∧
        built.toVerificationRunPayload = run ∧
        built.validateRun sampleRunHashing (fun _ => "fingerprint") = .ok () := by
  obtain ⟨artifact, isArtifact, run, isRun, grounded, distinct, single, current⟩ :
      ∃ artifact ∈ (capturedArtifact oneWebhook).toOption,
        ∃ run ∈ (assembleRun sampleRunHashing (sampleInputs oneWebhook artifact)).toOption,
          run.e4Checks ≠ [] ∧ Collisionless sampleRunHashing.toHashing run.identities ∧
            ((sampleInputs oneWebhook artifact).results.filter (Promotable ·)).length ≤ 1 ∧
            GroundingCurrent (sampleInputs oneWebhook artifact) := by
    decide +kernel
  have evaluated := eq_ok_of_mem_toOption isArtifact
  have assembled := eq_ok_of_mem_toOption isRun
  exact ⟨artifact, run, assembled, grounded, assembledRun_valid sampleRunHashing
    (fun _ => "fingerprint") (some capturePolicy) sampleSource (some sampleResolution) (some "r")
    (sampleInputs oneWebhook artifact) run evaluated assembled distinct single
    (show (0 : Int) ≤ 2 by decide) current⟩

end Evidence

end StateGuard
