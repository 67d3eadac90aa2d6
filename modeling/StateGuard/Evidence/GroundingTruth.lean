import StateGuard.Evidence.KeyStability

/-!
# Grounding and truth

Two runs of one artifact whose results agree in what was observed differ only in the evidence
level of grounded checks: keys, states, reasons, findings and the decision of the gate are the
same (`grounding_keepsTruth`).
-/

namespace StateGuard

namespace Evidence

open Checks KeyOrder

/-! ## What a run says is true -/

/-- What a check says of its assertion. -/
structure CheckTruth where
  checkKey : VerificationCheckKey
  scenarioId : ScenarioId
  scenarioInstanceId : ScenarioInstanceId
  assertionId : AssertionId
  assertionKey : AssertionKey
  role : AssertionRole
  result : VerificationResultState
  reason : ScenarioResultReasonCode
  deriving DecidableEq

def truthOf (check : VerificationCheck) : CheckTruth where
  checkKey := check.checkKey
  scenarioId := check.scenarioId
  scenarioInstanceId := check.scenarioInstanceId
  assertionId := check.assertionId
  assertionKey := check.assertionKey
  role := check.applicability.role
  result := check.result
  reason := check.reason

/-- The findings of such checks in a run. -/
def findingsOf (hashing : RunHashing) (runId : VerificationRunId) (truths : List CheckTruth) :
    List Finding :=
  truths.filterMap fun truth => (findingKind truth.result).map fun kind =>
    { occurrenceId := hashing.findingOccurrenceId runId
        (hashing.verificationCheckId runId truth.scenarioInstanceId truth.assertionId)
      findingKey := hashing.findingKey truth.checkKey
      checkId := hashing.verificationCheckId runId truth.scenarioInstanceId truth.assertionId
      checkKey := truth.checkKey
      kind := kind
      critical := kind = .verifiedFailure
      criticalMatches := critical_iff kind }

/-- Results of one assertion that agree in states, reasons and observations. -/
structure SameTruth (result result' : ScenarioExecutionResult) : Prop where
  normalControl : result.authority.normalControlId = result'.authority.normalControlId
  observations : result.requestObservations = result'.requestObservations
  state : result.result = result'.result
  tier : result.evidenceTier = result'.evidenceTier
  reason : result.reason = result'.reason

instance (result result' : ScenarioExecutionResult) : Decidable (SameTruth result result') :=
  decidable_of_iff (result.authority.normalControlId = result'.authority.normalControlId ∧
      result.requestObservations = result'.requestObservations ∧ result.result = result'.result ∧
        result.evidenceTier = result'.evidenceTier ∧ result.reason = result'.reason)
    ⟨fun ⟨control, observations, state, tier, reason⟩ =>
        ⟨control, observations, state, tier, reason⟩,
      fun same => ⟨same.normalControl, same.observations, same.state, same.tier, same.reason⟩⟩

/-- A verified check of the first scenario is raised: its input is the grounding of the run. -/
structure Raised (inputs : RunInputs) (check : VerificationCheck) : Prop where
  tier : check.evidenceTier = some .e4RazorpayGrounded
  scenario : check.scenarioId = .sg01
  verified : check.result.verified = true
  matching : ∃ snapshot ∈ inputs.razorpayGrounding, snapshot.status = .grounded ∧
    ∃ grounding, check.inputGrounding? = some grounding ∧
      snapshot.groundingFingerprint = grounding.groundingFingerprint ∧
        snapshot.sanitizedProjectionFingerprint = some grounding.sanitizedProjectionFingerprint

section

variable {hashing : RunHashing} {inputs inputs' : RunInputs} {row : AuthorityRow}
  {check check' : VerificationCheck}

theorem key_of_find {results : List ScenarioExecutionResult} {result : ScenarioExecutionResult}
    (found : results.find? (resultKey · = rowKey row) = some result) :
    result ∈ results ∧ resultKey result = rowKey row := by
  have sameKey := List.find?_some found
  rw [decide_eq_true_iff] at sameKey
  exact ⟨List.mem_of_find?_eq_some found, sameKey⟩

/-- A check has the evidence level of its result, or was raised above dynamic verification. -/
theorem tier_of_built (built : buildCheck hashing inputs row = .ok check) :
    ∃ result ∈ inputs.results, resultKey result = rowKey row ∧
      (check.evidenceTier = result.evidenceTier ∨
        result.evidenceTier = some .e3DynamicVerified ∧ Raised inputs check) := by
  unfold buildCheck at built
  split at built
  next => cases built
  next result found =>
    simp only [bind_eq_ok, exists_unit, raiseIf_eq_ok, pure_eq_ok] at built
    obtain ⟨-, -, definition, -, targets, -, evidence, -, requests, -, -, grounded, isGrounded, -,
      relevant, -, valid, rfl⟩ := built
    refine ⟨result, (key_of_find found).1, (key_of_find found).2, ?_⟩
    unfold checkGrounding at isGrounded
    split at isGrounded
    next input grounding isInput =>
      split at isGrounded
      next exact =>
        split at isGrounded
        next verified =>
          cases isGrounded
          obtain ⟨isScenario, snapshot, isSnapshot, status, sameGrounding, sameProjection⟩ := exact
          refine .inr ⟨verified, rfl, isScenario, ?_, snapshot, isSnapshot, status, grounding, ?_,
            sameGrounding, sameProjection⟩
          · -- an unverified check cannot claim this level
            by_contra unverified
            rw [VerificationCheck.validateCheck, VerificationCheck.validateEvidence,
              if_neg unverified] at valid
            simp only [bind_eq_ok, exists_unit, raiseIf_eq_ok] at valid
            exact valid.1.2 rfl
          · simp only [VerificationCheck.inputGrounding?, checkRecord, isInput]
        next =>
          cases isGrounded
          exact .inl rfl
      next => cases isGrounded
    next =>
      cases isGrounded
      exact .inl rfl

/-- The targets of a check depend on what was observed alone. -/
theorem targetReference_congr {applicability : ScenarioApplicabilityArtifact}
    {graph : PaymentSafetyGraphArtifact} {item : ScenarioInstance}
    {assertion : AssertionApplicability} {result result' : ScenarioExecutionResult}
    (same : SameTruth result result') :
    targetReference applicability graph item assertion result =
      targetReference applicability graph item assertion result' := by
  have mutations : result.mutations = result'.mutations := by
    rw [ScenarioResultPayload.mutations, ScenarioResultPayload.mutations, same.observations]
  have customers : result.customers = result'.customers := by
    rw [ScenarioResultPayload.customers, ScenarioResultPayload.customers, same.observations]
  simp only [targetReference, identityControl, targetMutations, targetAcknowledgements,
    same.normalControl, mutations, customers]

/-- The checks of an assertion in two runs say the same. -/
theorem truth_of_built (sameApplicability : inputs'.applicability = inputs.applicability)
    (sameGraph : inputs'.projectedGraph = inputs.projectedGraph)
    (sameTruth : ∀ result ∈ inputs.results, ∀ result' ∈ inputs'.results,
      resultKey result = resultKey result' → SameTruth result result')
    (built : buildCheck hashing inputs row = .ok check)
    (built' : buildCheck hashing inputs' row = .ok check') : truthOf check = truthOf check' := by
  unfold buildCheck at built built'
  split at built
  next => cases built
  next result found =>
    split at built'
    next => cases built'
    next result' found' =>
      obtain ⟨isResult, key⟩ := key_of_find found
      obtain ⟨isResult', key'⟩ := key_of_find found'
      have same := sameTruth result isResult result' isResult' (key.trans key'.symm)
      simp only [bind_eq_ok, exists_unit, raiseIf_eq_ok, pure_eq_ok] at built built'
      obtain ⟨-, -, definition, isDefined, targets, isTarget, evidence, isEvidence, requests, -, -,
        grounded, -, -, relevant, -, -, rfl⟩ := built
      obtain ⟨-, -, definition', isDefined', targets', isTarget', evidence', isEvidence',
        requests', -, -, grounded', -, -, relevant', -, -, rfl⟩ := built'
      obtain rfl : definition = definition' := by
        rw [isDefined] at isDefined'
        exact Except.ok.inj isDefined'
      obtain rfl : evidence = evidence' := by
        rw [isEvidence] at isEvidence'
        exact Except.ok.inj isEvidence'
      obtain rfl : targets = targets' := by
        rw [sameApplicability, sameGraph, ← targetReference_congr same, isTarget] at isTarget'
        exact Except.ok.inj isTarget'
      simp only [truthOf, checkRecord, sameApplicability, same.state, same.reason]

end

/-! ## Two runs -/

section

variable {hashing : RunHashing} {fingerprint : VerificationRunPayload → Sha256Digest}
  {inputs inputs' : RunInputs} {run run' : VerificationRun}

/-- The checks of a run are built of the assertions and then ordered. -/
theorem checks_of_built (built : buildVerificationRun hashing fingerprint inputs = .ok run) :
    ∃ checks, collect (buildCheck hashing inputs) inputs.applicability.rows = .ok checks ∧
      run.checks = sortedByKey checkOrder checks := by
  simp only [buildVerificationRun, assembleRun, bind_eq_ok, exists_unit, pure_eq_ok] at built
  obtain ⟨payload, ⟨-, -, -, -, -, -, -, checks, collected, rfl⟩, -, rfl⟩ := built
  exact ⟨checks, collected, rfl⟩

/-- The place of a check, by what it says. -/
def truthOrder (truth : CheckTruth) : Lex (Nat × Lex (String × Nat)) :=
  toLex (ScenarioId.all.idxOf truth.scenarioId, toLex (truth.scenarioInstanceId,
    assertionOrder truth.scenarioId truth.assertionKey))

/-- The findings of a run follow from what its checks say. -/
theorem findings_of_built (built : buildVerificationRun hashing fingerprint inputs = .ok run) :
    run.findings = findingsOf hashing run.runId (run.checks.map truthOf) := by
  obtain ⟨facts, -⟩ := assembled_of_built built
  have sameRun : run.runId = inputs.runId := congrArg (·.runId) facts.record
  have derived : run.findings = deriveFindings hashing inputs.runId run.checks :=
    congrArg (·.findings) facts.record
  rw [derived, sameRun, deriveFindings, findingsOf, List.filterMap_map]
  refine List.filterMap_congr fun check isCheck => ?_
  obtain ⟨row, -, made⟩ := facts.made check isCheck
  obtain ⟨result, -, -, targets, evidence, requests, grounded, relevant, -, -, rfl⟩ := made.record
  rfl

/-- The gate reads of a check only what it says. -/
def gateCheck (truth : CheckTruth) : StateGuard.VerificationCheck where
  checkKey := truth.checkKey
  scenarioId := truth.scenarioId
  assertionKey := truth.assertionKey.value
  applicability := ⟨truth.role⟩
  result := truth.result
  reason := truth.reason
  keyBounded := by cases truth.assertionKey <;> decide

theorem gateView_checks (run : VerificationRun) :
    run.gateView.checks = (run.checks.map truthOf).map gateCheck := by
  rw [List.map_map]
  rfl

/-- The gate decides alike on runs that say the same. -/
theorem gate_of_truths (built : buildVerificationRun hashing fingerprint inputs = .ok run)
    (built' : buildVerificationRun hashing fingerprint inputs' = .ok run')
    (same : run.checks.map truthOf = run'.checks.map truthOf) :
    ∃ gate, evaluateCiGate run.gateView = .ok gate ∧ evaluateCiGate run'.gateView =
      .ok { gate with runId := run'.runId, runFingerprint := run'.runFingerprint } := by
  have distinct : ∀ {run : VerificationRun}, (run.checks.map (·.checkKey)).Nodup →
      (run.gateView.checks.map (·.checkKey)).Nodup := by
    intro run unique
    rw [gateView_checks, List.map_map, List.map_map]
    exact unique
  have sameView : run'.gateView = { run.gateView with
      runId := run'.runId, runFingerprint := run'.runFingerprint } := by
    have sameChecks : run'.gateView.checks = run.gateView.checks := by
      rw [gateView_checks, gateView_checks, same]
    calc run'.gateView = ⟨run'.runId, run'.runFingerprint, run'.gateView.checks⟩ := rfl
      _ = _ := by rw [sameChecks]
  refine ⟨gateOf run.gateView,
    evaluateCiGate_eq_ok _ (distinct (assembled_of_built built).2), ?_⟩
  rw [evaluateCiGate_eq_ok _ (distinct (assembled_of_built built').2), sameView]
  rfl

/-- Grounding does not change what is true.  Two runs of one artifact, whose results agree in
states, reasons and observations, have the same check keys, states, reasons and findings up to
the id of the run, and the gate decides alike on them; the evidence levels of the checks of an
assertion are the same, or one is raised, in a run whose grounding its input matches. -/
theorem grounding_keepsTruth (sameApplicability : inputs'.applicability = inputs.applicability)
    (sameGraph : inputs'.projectedGraph = inputs.projectedGraph)
    (sameTruth : ∀ result ∈ inputs.results, ∀ result' ∈ inputs'.results,
      resultKey result = resultKey result' → SameTruth result result')
    (built : buildVerificationRun hashing fingerprint inputs = .ok run)
    (built' : buildVerificationRun hashing fingerprint inputs' = .ok run') :
    (∃ truths, run.checks.map truthOf = truths ∧ run'.checks.map truthOf = truths ∧
      run.findings = findingsOf hashing run.runId truths ∧
        run'.findings = findingsOf hashing run'.runId truths) ∧
    (∃ gate, evaluateCiGate run.gateView = .ok gate ∧ evaluateCiGate run'.gateView =
      .ok { gate with runId := run'.runId, runFingerprint := run'.runFingerprint }) ∧
    ∀ check ∈ run.checks, ∀ check' ∈ run'.checks, checkRowKey check = checkRowKey check' →
      check.evidenceTier = check'.evidenceTier ∨
        (Raised inputs check ∧ check'.evidenceTier = some .e3DynamicVerified) ∨
        (Raised inputs' check' ∧ check.evidenceTier = some .e3DynamicVerified) := by
  obtain ⟨checks, collected, sorted⟩ := checks_of_built built
  obtain ⟨checks', collected', sorted'⟩ := checks_of_built built'
  rw [sameApplicability] at collected'
  have sameTruths : run.checks.map truthOf = run'.checks.map truthOf := by
    have unsorted : checks.map truthOf = checks'.map truthOf :=
      map_eq_of_collect (fun row check check' isCheck isCheck' =>
        truth_of_built sameApplicability sameGraph sameTruth isCheck isCheck') collected collected'
    have ordered : ∀ checks : List VerificationCheck,
        (sortedByKey checkOrder checks).map truthOf =
          sortedByKey truthOrder (checks.map truthOf) :=
      fun checks => map_sortedByKey fun _ _ _ _ => Iff.rfl
    rw [sorted, sorted', ordered, ordered, unsorted]
  refine ⟨⟨_, rfl, sameTruths.symm, findings_of_built built, ?_⟩,
    gate_of_truths built built' sameTruths, ?_⟩
  · rw [sameTruths]
    exact findings_of_built built'
  · intro check isCheck check' isCheck' sameRow
    rw [sorted, mem_sortedByKey] at isCheck
    rw [sorted', mem_sortedByKey] at isCheck'
    obtain ⟨row, isRow, made⟩ := exists_of_mem_collect collected isCheck
    obtain ⟨row', isRow', made'⟩ := exists_of_mem_collect collected' isCheck'
    obtain ⟨facts, -⟩ := assembled_of_built built
    rw [(buildCheck_eq_ok made).rowKey_eq, (buildCheck_eq_ok made').rowKey_eq] at sameRow
    obtain ⟨result, isResult, key, level⟩ := tier_of_built made
    obtain ⟨result', isResult', key', level'⟩ := tier_of_built made'
    have same := (sameTruth result isResult result' isResult'
      (key.trans (sameRow.trans key'.symm))).tier
    rcases level with plain | ⟨dynamic, raised⟩
    · rcases level' with plain' | ⟨dynamic', raised'⟩
      · exact .inl (plain.trans (same.trans plain'.symm))
      · exact .inr (.inr ⟨raised', plain.trans (same.trans dynamic')⟩)
    · rcases level' with plain' | ⟨dynamic', raised'⟩
      · exact .inr (.inl ⟨raised, plain'.trans (same.symm.trans dynamic)⟩)
      · exact .inl (raised.tier.trans raised'.tier.symm)

end

/-! ### A grounded run and a plain one -/

/-- A result whose input is not grounded. -/
def plainResult (result : ScenarioExecutionResult) : ScenarioExecutionResult :=
  match result.inputReference with
  | some (.groundedScenarioInput input _) =>
    { result with inputReference := some (.scenarioInput input) }
  | _ => result

/-- A later run without grounding. -/
def plainInputs (inputs : RunInputs) : RunInputs :=
  { inputs with
    runId := "later"
    results := inputs.results.map plainResult
    razorpayGrounding := none }

theorem grounding_keepsTruth_webhook : ∃ inputs run run',
    buildVerificationRun sampleRunHashing (fun _ => "fingerprint") inputs = .ok run ∧
      buildVerificationRun sampleRunHashing (fun _ => "fingerprint") (plainInputs inputs) =
        .ok run' ∧
      run.e4Checks ≠ [] ∧ run'.e4Checks = [] ∧
      run.checks.map truthOf = run'.checks.map truthOf := by
  obtain ⟨artifact, -, run, isRun, run', isRun', raised, plain, same⟩ :
      ∃ artifact ∈ (capturedArtifact oneWebhook).toOption,
        ∃ run ∈ (buildVerificationRun sampleRunHashing (fun _ => "fingerprint")
            (sampleInputs oneWebhook artifact)).toOption,
          ∃ run' ∈ (buildVerificationRun sampleRunHashing (fun _ => "fingerprint")
              (plainInputs (sampleInputs oneWebhook artifact))).toOption,
            run.e4Checks ≠ [] ∧ run'.e4Checks = [] ∧
              ∀ result ∈ (sampleInputs oneWebhook artifact).results,
                ∀ result' ∈ (plainInputs (sampleInputs oneWebhook artifact)).results,
                  resultKey result = resultKey result' → SameTruth result result' := by
    decide +kernel
  have built := eq_ok_of_mem_toOption isRun
  have built' := eq_ok_of_mem_toOption isRun'
  obtain ⟨⟨truths, isTruth, isTruth', -⟩, -⟩ :=
    @grounding_keepsTruth sampleRunHashing (fun _ => "fingerprint")
      (sampleInputs oneWebhook artifact) (plainInputs (sampleInputs oneWebhook artifact)) run run'
      rfl rfl same built built'
  exact ⟨_, run, run', built, built', raised, plain, isTruth.trans isTruth'.symm⟩

end Evidence

end StateGuard
