import StateGuard.Ci.Contracts

/-!
# Evaluating the release gate

`evaluateCiGate` projects a completed verification run into the release decision.  It picks
the blockers, orders them, counts the checks by state, and chooses the status, reason and
exit code; building the persisted record then runs `validateBlocker` on each blocker and
`validateGate` on the record, which recompute the same partition by a second path.

The argument goes through the partition.  `Blocks` says when a check blocks, and a check is
a proven failure or an open core check but never both, so the list of blockers is, up to
order, the blocking checks of the run (`blockerChecks_perm`).  The counts the validator
recomputes are then counts of the run (`resultCounts_of`).
-/

namespace StateGuard

open Checks KeyOrder

/-- What the gate reads of the applicability evidence of a check. -/
structure ApplicabilityEvidenceSnapshot where
  role : AssertionRole
  deriving DecidableEq, Repr

/-- One completed check of a verification run.  Its key carries the bounds of the field. -/
structure VerificationCheck where
  checkKey : VerificationCheckKey
  scenarioId : ScenarioId
  assertionKey : String
  applicability : ApplicabilityEvidenceSnapshot
  result : VerificationResultState
  reason : ScenarioResultReasonCode
  /-- The assertion key is within its bounds. -/
  keyBounded : KeyBounded assertionKey
  deriving DecidableEq

/-- A completed verification run, as the gate reads it. -/
structure VerificationRun where
  runId : VerificationRunId
  runFingerprint : Sha256Digest
  checks : List VerificationCheck
  deriving DecidableEq

/-! ## The evaluation -/

/-- `_result_counts`: one counter a state, advanced check by check. -/
def countStates (checks : List VerificationCheck) : VerificationResultState → Nat :=
  checks.foldl (fun counts check =>
    Function.update counts check.result (counts check.result + 1)) fun _ => 0

/-- The counters as the persisted record. -/
def resultCounts (checks : List VerificationCheck) : VerificationResultCountsV1 :=
  let counts := countStates checks
  { verifiedPass := counts .verifiedPass
    verifiedFail := counts .verifiedFail
    staticWarning := counts .staticWarning
    needsInput := counts .needsInput
    unverified := counts .unverified
    notApplicable := counts .notApplicable }

/-- The blocker a check is recorded as. -/
def blockerOf (check : VerificationCheck) : CIGateBlockingCheckV1 :=
  { blockerClass :=
      if check.result = .verifiedFail then .provenFailure else .requiredNotProven
    role := check.applicability.role
    checkKey := check.checkKey
    scenarioId := check.scenarioId
    assertionKey := check.assertionKey
    result := check.result
    reason := check.reason }

/-- `_blocker`: the record, once its validator accepts it. -/
def blocker (check : VerificationCheck) : Except String CIGateBlockingCheckV1 := do
  (blockerOf check).validateBlocker
  pure (blockerOf check)

/-- The required checks of a run. -/
def coreChecks (run : VerificationRun) : List VerificationCheck :=
  run.checks.filter (·.applicability.role = .core)

/-- The verified failures of a run, required or not. -/
def provenFailures (run : VerificationRun) : List VerificationCheck :=
  run.checks.filter (·.result = .verifiedFail)

/-- The required checks a run leaves open. -/
def coreNotProven (run : VerificationRun) : List VerificationCheck :=
  (coreChecks run).filter (·.result ∈ notProvenStates)

/-- The status, reason and exit code of a run. -/
def gateOutcome (run : VerificationRun) : CIGateStatus × CIGateReason × Nat :=
  let coreCounts := resultCounts (coreChecks run)
  if provenFailures run ≠ [] then
    (.verifiedFailure, .provenFailure, 1)
  else if coreNotProven run ≠ [] then
    (.notProven, .requiredChecksNotProven, 2)
  else if coreCounts.total - coreCounts.notApplicable = 0 then
    (.notProven, .noApplicableRequiredChecks, 2)
  else
    (.passed, .requiredChecksPassed, 0)

/-- The record the evaluation builds from the run and its blockers. -/
def gateRecord (run : VerificationRun) (blockers : List CIGateBlockingCheckV1) :
    CIGateResultV1 :=
  let coreCounts := resultCounts (coreChecks run)
  let outcome := gateOutcome run
  { status := outcome.1
    reason := outcome.2.1
    exitCode := outcome.2.2
    runId := run.runId
    runFingerprint := run.runFingerprint
    allCheckCounts := resultCounts run.checks
    coreCheckCounts := coreCounts
    provenFailureCount := (provenFailures run).length
    coreNotProvenCount := (coreNotProven run).length
    applicableCoreCheckCount := coreCounts.total - coreCounts.notApplicable
    blockingChecks := sortedByKey CIGateBlockingCheckV1.sortKey blockers }

/-- `evaluate_ci_gate`: the record of a run, once every validator accepts. -/
def evaluateCiGate (run : VerificationRun) : Except String CIGateResultV1 := do
  let blockers ← collect blocker (provenFailures run ++ coreNotProven run)
  let gate := gateRecord run blockers
  gate.validateGate
  pure gate

/-! ## Counting states -/

theorem countStates_foldl (checks : List VerificationCheck)
    (start : VerificationResultState → Nat) (state : VerificationResultState) :
    checks.foldl (fun counts check =>
        Function.update counts check.result (counts check.result + 1)) start state =
      start state + checks.countP (·.result = state) := by
  induction checks generalizing start with
  | nil => simp
  | cons check rest ih =>
    rw [List.foldl_cons, ih, List.countP_cons]
    by_cases same : check.result = state
    · subst same
      simp
      omega
    · simp [Function.update_of_ne (Ne.symm same), same]

theorem countStates_eq (checks : List VerificationCheck) (state : VerificationResultState) :
    countStates checks state = checks.countP (·.result = state) := by
  simpa [countStates] using countStates_foldl checks (fun _ => 0) state

/-- Every counter of the record counts its state. -/
@[simp]
theorem resultCounts_of (checks : List VerificationCheck) (state : VerificationResultState) :
    (resultCounts checks).of state = checks.countP (·.result = state) := by
  cases state <;> exact countStates_eq checks _

@[simp]
theorem resultCounts_verifiedFail (checks : List VerificationCheck) :
    (resultCounts checks).verifiedFail = checks.countP (·.result = .verifiedFail) :=
  resultCounts_of checks .verifiedFail

@[simp]
theorem resultCounts_notApplicable (checks : List VerificationCheck) :
    (resultCounts checks).notApplicable = checks.countP (·.result = .notApplicable) :=
  resultCounts_of checks .notApplicable

/-- Every check is in exactly one state, so the counters add up to the checks. -/
@[simp]
theorem resultCounts_total (checks : List VerificationCheck) :
    (resultCounts checks).total = checks.length := by
  unfold resultCounts VerificationResultCountsV1.total
  simp only [countStates_eq]
  induction checks with
  | nil => rfl
  | cons check rest ih =>
    simp only [List.countP_cons, List.length_cons, ← ih]
    cases state : check.result <;> simp <;> omega

/-- The open states of a list are counted by its open checks. -/
theorem resultCounts_unresolved (checks : List VerificationCheck) :
    (resultCounts checks).unresolved =
      (checks.filter (·.result ∈ notProvenStates)).length := by
  unfold resultCounts VerificationResultCountsV1.unresolved
  simp only [countStates_eq, ← List.countP_eq_length_filter]
  induction checks with
  | nil => rfl
  | cons check rest ih =>
    simp only [List.countP_cons, ← ih]
    cases state : check.result <;> simp [notProvenStates] <;> omega

/-! ## The blocking checks -/

/-- A check blocks when it failed, or is required and left open. -/
def Blocks (check : VerificationCheck) : Prop :=
  check.result = .verifiedFail ∨
    check.applicability.role = .core ∧ check.result ∈ notProvenStates

instance : DecidablePred Blocks := fun _ => inferInstanceAs (Decidable (_ ∨ _))

theorem mem_blockerChecks (run : VerificationRun) (check : VerificationCheck) :
    check ∈ provenFailures run ++ coreNotProven run ↔ check ∈ run.checks ∧ Blocks check := by
  simp only [provenFailures, coreNotProven, coreChecks, Blocks, List.mem_append,
    List.mem_filter, decide_eq_true_eq]
  tauto

/-- A failed check is not an open one. -/
theorem not_open_of_failed {check : VerificationCheck} (failed : check.result = .verifiedFail) :
    check.result ∉ notProvenStates := by
  rw [failed]
  decide

/-- The two lists the gate concatenates are the blocking checks, each once. -/
theorem blockerChecks_perm (run : VerificationRun) :
    (provenFailures run ++ coreNotProven run).Perm (run.checks.filter (Blocks ·)) := by
  unfold provenFailures coreNotProven coreChecks
  induction run.checks with
  | nil => rfl
  | cons check rest ih =>
    by_cases failed : check.result = .verifiedFail
    · simpa [Blocks, failed, not_open_of_failed failed, notProvenStates] using ih.cons check
    · by_cases undecided : check.applicability.role = .core ∧ check.result ∈ notProvenStates
      · have moved := List.perm_middle.trans (ih.cons check)
        simpa [Blocks, failed, undecided.1, undecided.2] using moved
      · by_cases core : check.applicability.role = .core
        · have settled : check.result ∉ notProvenStates := fun open_ => undecided ⟨core, open_⟩
          simpa [Blocks, failed, core, settled] using ih
        · simpa [Blocks, failed, core] using ih

/-- Every blocker the gate builds passes its own validator. -/
theorem blocker_eq_ok {check : VerificationCheck} (blocks : Blocks check) :
    blocker check = .ok (blockerOf check) := by
  simp only [blocker, CIGateBlockingCheckV1.validateBlocker, bind_eq_ok, exists_unit,
    raiseIf_eq_ok, pure_eq_ok, and_true, not_not]
  refine ⟨check.keyBounded, ?_⟩
  by_cases failed : check.result = .verifiedFail
  · simp [blockerOf, failed]
  · have undecided := blocks.resolve_left failed
    simp [blockerOf, failed, undecided.1, undecided.2]

/-- The blockers the gate builds. -/
def gateBlockers (run : VerificationRun) : List CIGateBlockingCheckV1 :=
  sortedByKey CIGateBlockingCheckV1.sortKey
    ((provenFailures run ++ coreNotProven run).map blockerOf)

theorem gateBlockers_perm (run : VerificationRun) :
    (gateBlockers run).Perm ((run.checks.filter (Blocks ·)).map blockerOf) :=
  (sortedByKey_perm _ _).trans ((blockerChecks_perm run).map blockerOf)

/-- The keys of the blockers are the keys of the blocking checks. -/
theorem gateBlockers_keys_perm (run : VerificationRun) :
    ((gateBlockers run).map (·.checkKey)).Perm
      ((run.checks.filter (Blocks ·)).map (·.checkKey)) := by
  have keys := (gateBlockers_perm run).map (·.checkKey)
  rwa [List.map_map] at keys

/-! ## The record meets its rules -/

/-- The record of a run with its own blockers. -/
def gateOf (run : VerificationRun) : CIGateResultV1 :=
  gateRecord run ((provenFailures run ++ coreNotProven run).map blockerOf)

theorem gateOf_blockersOf (run : VerificationRun) (blockerClass : CIGateBlockerClass) :
    (gateOf run).blockersOf blockerClass =
      (provenFailures run ++ coreNotProven run).countP
        fun check => (blockerOf check).blockerClass = blockerClass := by
  have keeps := (sortedByKey_perm CIGateBlockingCheckV1.sortKey
    ((provenFailures run ++ coreNotProven run).map blockerOf)).countP_eq
      (·.blockerClass = blockerClass)
  rw [List.countP_map] at keeps
  exact keeps

theorem blockerClass_of_failure {run : VerificationRun} {check : VerificationCheck}
    (membership : check ∈ provenFailures run) :
    (blockerOf check).blockerClass = .provenFailure := by
  have failed : check.result = .verifiedFail := by
    simpa [provenFailures] using (List.mem_filter.mp membership).2
  simp [blockerOf, failed]

theorem blockerClass_of_open {run : VerificationRun} {check : VerificationCheck}
    (membership : check ∈ coreNotProven run) :
    (blockerOf check).blockerClass = .requiredNotProven := by
  have undecided : check.result ∈ notProvenStates := by
    simpa [coreNotProven] using (List.mem_filter.mp membership).2
  have notFailed : check.result ≠ .verifiedFail := fun failed =>
    not_open_of_failed failed undecided
  simp [blockerOf, notFailed]

theorem gateOf_failing (run : VerificationRun) :
    (gateOf run).blockersOf .provenFailure = (provenFailures run).length := by
  rw [gateOf_blockersOf, List.countP_append]
  have all : (provenFailures run).countP
      (fun check => (blockerOf check).blockerClass = .provenFailure) =
        (provenFailures run).length :=
    List.countP_eq_length.mpr fun check membership => by
      simpa using blockerClass_of_failure membership
  have none : (coreNotProven run).countP
      (fun check => (blockerOf check).blockerClass = .provenFailure) = 0 :=
    List.countP_eq_zero.mpr fun check membership => by
      simp [blockerClass_of_open membership]
  rw [all, none, Nat.add_zero]

theorem gateOf_unproven (run : VerificationRun) :
    (gateOf run).blockersOf .requiredNotProven = (coreNotProven run).length := by
  rw [gateOf_blockersOf, List.countP_append]
  have none : (provenFailures run).countP
      (fun check => (blockerOf check).blockerClass = .requiredNotProven) = 0 :=
    List.countP_eq_zero.mpr fun check membership => by
      simp [blockerClass_of_failure membership]
  have all : (coreNotProven run).countP
      (fun check => (blockerOf check).blockerClass = .requiredNotProven) =
        (coreNotProven run).length :=
    List.countP_eq_length.mpr fun check membership => by
      simpa using blockerClass_of_open membership
  rw [none, all, Nat.zero_add]

theorem coreChecks_sublist (run : VerificationRun) : (coreChecks run).Sublist run.checks :=
  List.filter_sublist

/-- The status, reason and exit code are the ones the record's own counts call for. -/
theorem gateOf_outcome (run : VerificationRun) :
    ((gateOf run).status, (gateOf run).reason, (gateOf run).exitCode) =
      (gateOf run).expectedOutcome := by
  simp only [gateOf, gateRecord, gateOutcome, CIGateResultV1.expectedOutcome,
    List.length_eq_zero_iff, ne_eq, Prod.mk.eta]

/-- The record of a run with distinct check keys meets every rule of its validator. -/
theorem gateOf_rules (run : VerificationRun)
    (distinct : (run.checks.map (·.checkKey)).Nodup) :
    CIGateResultV1.GateRules (gateOf run) where
  totals := by
    simpa [gateOf, gateRecord] using (coreChecks_sublist run).length_le
  states := fun state => by
    simpa [gateOf, gateRecord] using (coreChecks_sublist run).countP_le
  failures := by
    simp [gateOf, gateRecord, provenFailures, List.countP_eq_length_filter]
  open_core := by
    simp [gateOf, gateRecord, resultCounts_unresolved, coreNotProven]
  applicable := rfl
  ordered := (sortedByKey_idem _ _).symm
  unique := by
    have keys := List.filter_sublist (p := (Blocks ·)) (l := run.checks)
    exact (gateBlockers_keys_perm run).nodup_iff.mpr
      (distinct.sublist (keys.map (·.checkKey)))
  failing := gateOf_failing run
  unproven := gateOf_unproven run
  outcome := gateOf_outcome run

/-- With distinct check keys no validator raises. -/
theorem evaluateCiGate_eq_ok (run : VerificationRun)
    (distinct : (run.checks.map (·.checkKey)).Nodup) :
    evaluateCiGate run = .ok (gateOf run) := by
  have builds : collect blocker (provenFailures run ++ coreNotProven run) =
      .ok ((provenFailures run ++ coreNotProven run).map blockerOf) :=
    collect_eq_map fun check membership =>
      blocker_eq_ok ((mem_blockerChecks run check).mp membership).2
  have accepted := (CIGateResultV1.validateGate_eq_ok _).mpr (gateOf_rules run distinct)
  simp only [gateOf] at accepted ⊢
  simp only [evaluateCiGate, builds, ok_bind, accepted]
  rfl

/-! ## When the gate passes -/

/-- A required check counts as applicable unless it is marked not applicable. -/
theorem applicableCore_pos_iff (run : VerificationRun) :
    (resultCounts (coreChecks run)).total - (resultCounts (coreChecks run)).notApplicable ≠ 0 ↔
      ∃ check ∈ coreChecks run, check.result ≠ .notApplicable := by
  have bounded := List.countP_le_length (p := fun check => decide (check.result = .notApplicable))
    (l := coreChecks run)
  rw [resultCounts_total, resultCounts_notApplicable]
  constructor
  · intro positive
    by_contra none
    push Not at none
    have all : (coreChecks run).countP (·.result = .notApplicable) = (coreChecks run).length :=
      List.countP_eq_length.mpr fun check membership => by simpa using none check membership
    omega
  · rintro ⟨check, membership, applicable⟩ zero
    have all : (coreChecks run).countP (·.result = .notApplicable) = (coreChecks run).length := by
      omega
    have inapplicable := List.countP_eq_length.mp all check membership
    exact applicable (by simpa using inapplicable)

/-- A required check that neither blocks nor is inapplicable is a verified pass. -/
theorem verifiedPass_of_core {check : VerificationCheck}
    (core : check.applicability.role = .core) (clear : ¬ Blocks check)
    (applicable : check.result ≠ .notApplicable) : check.result = .verifiedPass := by
  unfold Blocks at clear
  rw [core] at clear
  cases state : check.result <;> simp_all [notProvenStates]

theorem gateOutcome_exit_zero_iff (run : VerificationRun) :
    (gateOutcome run).2.2 = 0 ↔
      (∀ check ∈ run.checks, ¬ Blocks check) ∧
        ∃ check ∈ run.checks, check.applicability.role = .core ∧
          check.result = .verifiedPass := by
  have blocking : (provenFailures run = [] ∧ coreNotProven run = []) ↔
      ∀ check ∈ run.checks, ¬ Blocks check := by
    rw [← List.append_eq_nil_iff, List.eq_nil_iff_forall_not_mem]
    simp only [mem_blockerChecks, not_and]
  have passing (clear : ∀ check ∈ run.checks, ¬ Blocks check) :
      (resultCounts (coreChecks run)).total - (resultCounts (coreChecks run)).notApplicable ≠ 0 ↔
        ∃ check ∈ run.checks, check.applicability.role = .core ∧
          check.result = .verifiedPass := by
    rw [applicableCore_pos_iff]
    simp only [coreChecks, List.mem_filter, decide_eq_true_eq]
    constructor
    · rintro ⟨check, ⟨membership, core⟩, applicable⟩
      exact ⟨check, membership, core,
        verifiedPass_of_core core (clear check membership) applicable⟩
    · rintro ⟨check, membership, core, passed⟩
      exact ⟨check, ⟨membership, core⟩, by rw [passed]; decide⟩
  rw [← blocking]
  by_cases failures : provenFailures run = []
  · by_cases undecided : coreNotProven run = []
    · have clear := blocking.mp ⟨failures, undecided⟩
      rw [← passing clear]
      simp only [gateOutcome, failures, undecided, ne_eq, not_true_eq_false, if_false,
        true_and, and_self]
      split <;> simp_all
    · simp [gateOutcome, failures, undecided]
  · simp [gateOutcome, failures]

/-- The gate of a run with distinct check keys is accepted by its validator, lists exactly
the blocking checks, each once, and exits 0 exactly when nothing blocks and some required
check passed. -/
theorem evaluateCiGate_decides (run : VerificationRun)
    (distinct : (run.checks.map (·.checkKey)).Nodup) :
    ∃ gate, evaluateCiGate run = .ok gate ∧
      gate.validateGate = .ok () ∧
      gate.blockingChecks.Perm ((run.checks.filter (Blocks ·)).map blockerOf) ∧
      (gate.blockingChecks.map (·.checkKey)).Nodup ∧
      (gate.exitCode = 0 ↔
        gate.blockingChecks = [] ∧
          ∃ check ∈ run.checks, check.applicability.role = .core ∧
            check.result = .verifiedPass) := by
  have rules := gateOf_rules run distinct
  refine ⟨gateOf run, evaluateCiGate_eq_ok run distinct,
    (CIGateResultV1.validateGate_eq_ok _).mpr rules, gateBlockers_perm run, rules.unique, ?_⟩
  have none : (gateOf run).blockingChecks = [] ↔ ∀ check ∈ run.checks, ¬ Blocks check := by
    rw [show (gateOf run).blockingChecks = gateBlockers run from rfl,
      ← List.length_eq_zero_iff, (gateBlockers_perm run).length_eq, List.length_map,
      List.length_eq_zero_iff, List.filter_eq_nil_iff]
    simp
  rw [none]
  exact gateOutcome_exit_zero_iff run

/-- A run with one check of each kind: its two open required checks and its failed optional
check block, its passed required check does not. -/
def sampleRun : VerificationRun :=
  let check (key : String) (role : AssertionRole) (result : VerificationResultState) :
      VerificationCheck :=
    { checkKey := key
      scenarioId := .sg05
      assertionKey := "FORGED_WEBHOOK_NO_CUSTOMER_VALUE"
      applicability := ⟨role⟩
      result := result
      reason := .validSignatureControlUnproven
      keyBounded := by decide }
  { runId := "sgvrun_sample"
    runFingerprint := "sha256:sample"
    checks := [check "a" .core .verifiedPass, check "b" .core .needsInput,
      check "c" .optional .verifiedFail, check "d" .optional .unverified,
      check "e" .core .unverified, check "f" .core .notApplicable] }

theorem evaluateCiGate_decides_sample :
    ∃ gate, evaluateCiGate sampleRun = .ok gate ∧
      gate.validateGate = .ok () ∧
      gate.blockingChecks.Perm ((sampleRun.checks.filter (Blocks ·)).map blockerOf) ∧
      (gate.blockingChecks.map (·.checkKey)).Nodup ∧
      (gate.exitCode = 0 ↔
        gate.blockingChecks = [] ∧
          ∃ check ∈ sampleRun.checks, check.applicability.role = .core ∧
            check.result = .verifiedPass) :=
  evaluateCiGate_decides sampleRun (by decide)

end StateGuard
