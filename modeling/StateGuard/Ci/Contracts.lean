import Mathlib.Data.String.Basic
import StateGuard.Library.Checks
import StateGuard.Library.KeyOrder
import StateGuard.Contracts.Vocabulary

/-!
# The persisted result of the release gate

`CIGateResultV1` is the typed record of one gate evaluation, and `validateGate` is its
model validator: it recomputes the partition of the checks from the two count records,
checks that the blockers are ordered, unique and complete, and that the status, reason and
exit code agree with the counts.  `validateBlocker` is the validator of one blocker.

`validateGate_eq_ok` reads the validator as the record `GateRules`, which the gate's
evaluation is proved to meet in `Ci/Gate.lean`.
-/

namespace StateGuard

open Checks KeyOrder

/-- The release decision. -/
inductive CIGateStatus where
  | passed | verifiedFailure | notProven
  deriving DecidableEq, Repr

/-- Why the gate decided as it did. -/
inductive CIGateReason where
  | requiredChecksPassed | noApplicableRequiredChecks | provenFailure | requiredChecksNotProven
  deriving DecidableEq, Repr

/-- The two kinds of blocker. -/
inductive CIGateBlockerClass where
  | provenFailure | requiredNotProven
  deriving DecidableEq, Repr

/-- How many checks carry each result state. -/
structure VerificationResultCountsV1 where
  verifiedPass : Nat
  verifiedFail : Nat
  staticWarning : Nat
  needsInput : Nat
  unverified : Nat
  notApplicable : Nat
  deriving DecidableEq, Repr

namespace VerificationResultCountsV1

def total (counts : VerificationResultCountsV1) : Nat :=
  counts.verifiedPass + counts.verifiedFail + counts.staticWarning + counts.needsInput +
    counts.unverified + counts.notApplicable

/-- The count of one result state. -/
def of (counts : VerificationResultCountsV1) : VerificationResultState → Nat
  | .verifiedPass => counts.verifiedPass
  | .verifiedFail => counts.verifiedFail
  | .staticWarning => counts.staticWarning
  | .needsInput => counts.needsInput
  | .unverified => counts.unverified
  | .notApplicable => counts.notApplicable

/-- The checks whose state leaves a required assertion open. -/
def unresolved (counts : VerificationResultCountsV1) : Nat :=
  counts.staticWarning + counts.needsInput + counts.unverified

end VerificationResultCountsV1

/-- The result states that leave a required assertion open. -/
def notProvenStates : List VerificationResultState :=
  [.staticWarning, .needsInput, .unverified]

/-- The length bounds on an assertion key. -/
def KeyBounded (key : String) : Prop := 1 ≤ key.length ∧ key.length ≤ 128

instance (key : String) : Decidable (KeyBounded key) :=
  inferInstanceAs (Decidable (_ ∧ _))

/-- One check that keeps the gate from passing. -/
structure CIGateBlockingCheckV1 where
  blockerClass : CIGateBlockerClass
  role : AssertionRole
  checkKey : VerificationCheckKey
  scenarioId : ScenarioId
  assertionKey : String
  result : VerificationResultState
  reason : ScenarioResultReasonCode
  deriving DecidableEq, Repr

namespace CIGateBlockingCheckV1

/-- The key blockers are ordered by. -/
def sortKey (item : CIGateBlockingCheckV1) : Lex (String × Lex (String × String)) :=
  toLex (item.scenarioId.value, toLex (item.assertionKey, item.checkKey))

/-- `validate_blocker`, after the bounds on the assertion key. -/
def validateBlocker (item : CIGateBlockingCheckV1) : Except String Unit := do
  raiseIf (¬ KeyBounded item.assertionKey) "assertion key must have 1 to 128 characters"
  if item.blockerClass = .provenFailure then
    raiseIf (item.result ≠ .verifiedFail) "proven-failure blockers must be VERIFIED FAIL"
  else
    raiseIf (item.role ≠ .core ∨ item.result ∉ notProvenStates)
      "required-not-proven blockers must be unresolved core checks"

end CIGateBlockingCheckV1

/-- One evaluation of the gate. -/
structure CIGateResultV1 where
  status : CIGateStatus
  reason : CIGateReason
  exitCode : Nat
  runId : VerificationRunId
  runFingerprint : Sha256Digest
  allCheckCounts : VerificationResultCountsV1
  coreCheckCounts : VerificationResultCountsV1
  provenFailureCount : Nat
  coreNotProvenCount : Nat
  applicableCoreCheckCount : Nat
  blockingChecks : List CIGateBlockingCheckV1
  deriving DecidableEq, Repr

namespace CIGateResultV1

/-- How many blockers of one class the gate lists. -/
def blockersOf (gate : CIGateResultV1) (blockerClass : CIGateBlockerClass) : Nat :=
  gate.blockingChecks.countP (·.blockerClass = blockerClass)

/-- The outcome the counts call for. -/
def expectedOutcome (gate : CIGateResultV1) : CIGateStatus × CIGateReason × Nat :=
  if gate.provenFailureCount ≠ 0 then
    (.verifiedFailure, .provenFailure, 1)
  else if gate.coreNotProvenCount ≠ 0 then
    (.notProven, .requiredChecksNotProven, 2)
  else if gate.applicableCoreCheckCount = 0 then
    (.notProven, .noApplicableRequiredChecks, 2)
  else
    (.passed, .requiredChecksPassed, 0)

/-- The result states, in the order `validate_gate` compares their counts. -/
def countFields : List VerificationResultState :=
  [.verifiedPass, .verifiedFail, .staticWarning, .needsInput, .unverified, .notApplicable]

/-- `validate_gate`.  Counts are natural numbers here; the source subtracts after checking
that `not_applicable` is part of the total, so the truncated difference is the source's. -/
def validateGate (gate : CIGateResultV1) : Except String Unit := do
  raiseIf (gate.coreCheckCounts.total > gate.allCheckCounts.total)
    "core check counts cannot exceed all check counts"
  forEach (fun state =>
    raiseIf (gate.coreCheckCounts.of state > gate.allCheckCounts.of state)
      "core result-state counts cannot exceed all-check counts") countFields
  raiseIf (gate.provenFailureCount ≠ gate.allCheckCounts.verifiedFail)
    "proven-failure count must include every verified failure"
  raiseIf (gate.coreNotProvenCount ≠ gate.coreCheckCounts.unresolved)
    "core not-proven count must match unresolved core states"
  raiseIf (gate.applicableCoreCheckCount ≠
      gate.coreCheckCounts.total - gate.coreCheckCounts.notApplicable)
    "applicable core count must exclude only NOT APPLICABLE checks"
  raiseIf (gate.blockingChecks ≠
      sortedByKey CIGateBlockingCheckV1.sortKey gate.blockingChecks)
    "CI blockers must be deterministically ordered"
  raiseIf (¬ (gate.blockingChecks.map (·.checkKey)).Nodup)
    "CI blockers must have unique logical check keys"
  raiseIf (gate.blockersOf .provenFailure ≠ gate.provenFailureCount)
    "every proven failure must be represented as a blocker"
  raiseIf (gate.blockersOf .requiredNotProven ≠ gate.coreNotProvenCount)
    "every unresolved core check must be represented as a blocker"
  raiseIf ((gate.status, gate.reason, gate.exitCode) ≠ gate.expectedOutcome)
    "CI gate status, reason, and exit code are inconsistent"

/-- The rules of `validate_gate`, one field a rule. -/
structure GateRules (gate : CIGateResultV1) : Prop where
  /-- Core checks are among all checks. -/
  totals : gate.coreCheckCounts.total ≤ gate.allCheckCounts.total
  /-- State by state too. -/
  states : ∀ state, gate.coreCheckCounts.of state ≤ gate.allCheckCounts.of state
  /-- Every verified failure is counted. -/
  failures : gate.provenFailureCount = gate.allCheckCounts.verifiedFail
  /-- Every open core check is counted. -/
  open_core : gate.coreNotProvenCount = gate.coreCheckCounts.unresolved
  /-- Only inapplicable core checks are left out of the applicable ones. -/
  applicable : gate.applicableCoreCheckCount =
    gate.coreCheckCounts.total - gate.coreCheckCounts.notApplicable
  /-- The blockers are in their order. -/
  ordered : gate.blockingChecks = sortedByKey CIGateBlockingCheckV1.sortKey gate.blockingChecks
  /-- No blocker is listed twice. -/
  unique : (gate.blockingChecks.map (·.checkKey)).Nodup
  /-- Every verified failure blocks. -/
  failing : gate.blockersOf .provenFailure = gate.provenFailureCount
  /-- Every open core check blocks. -/
  unproven : gate.blockersOf .requiredNotProven = gate.coreNotProvenCount
  /-- The decision is the one the counts call for. -/
  outcome : (gate.status, gate.reason, gate.exitCode) = gate.expectedOutcome

theorem mem_countFields (state : VerificationResultState) : state ∈ countFields := by
  cases state <;> decide

/-- The validator accepts exactly the gates that meet the rules. -/
theorem validateGate_eq_ok (gate : CIGateResultV1) :
    gate.validateGate = .ok () ↔ GateRules gate := by
  simp only [validateGate, bind_eq_ok, exists_unit, raiseIf_eq_ok, forEach_eq_ok, not_lt,
    gt_iff_lt, not_not, mem_countFields, forall_true_left]
  constructor
  · rintro ⟨h1, h2, h3, h4, h5, h6, h7, h8, h9, h10⟩
    exact ⟨h1, h2, h3, h4, h5, h6, h7, h8, h9, h10⟩
  · rintro ⟨h1, h2, h3, h4, h5, h6, h7, h8, h9, h10⟩
    exact ⟨h1, h2, h3, h4, h5, h6, h7, h8, h9, h10⟩

end CIGateResultV1

end StateGuard
