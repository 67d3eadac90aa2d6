import Mathlib.Data.List.Basic

/-!
# The shared vocabulary of the artifacts

The identifiers, scenario names and result enumerations that the persisted artifacts share.
Identifiers are strings produced by hashing (`Identity.lean`); their pattern is not used by
any check modelled here.  Each enumeration keeps the source's members; an enumeration whose
string value is read by the code (`ScenarioId.value` orders the gate's blockers) has that
value beside it.
-/

namespace StateGuard

abbrev ProjectId := String
abbrev GraphNodeId := String
abbrev GraphEdgeId := String
abbrev SymbolId := String
abbrev SourceFileId := String
abbrev FrameworkInstanceId := String
abbrev RouteRegistrationId := String
abbrev MerchantStateCarrierId := String
abbrev NormalControlId := String
abbrev ScenarioInstanceId := String
abbrev AssertionId := String
abbrev ScenarioExecutionId := String
abbrev VerificationRunId := String
abbrev VerificationCheckKey := String
abbrev RuntimeSessionId := String
abbrev RuntimeRequestId := String
abbrev Sha256Digest := String

/-- A span of source text: one file and two positions. -/
structure SourceLocation where
  path : String
  lineStart : Nat
  columnStart : Nat
  lineEnd : Nat
  columnEnd : Nat
  deriving DecidableEq, Repr

/-- Where a recorded fact comes from. -/
inductive ProvenanceKind where
  | static | aiInferred | humanConfirmed | runtimeObserved
  deriving DecidableEq, Repr

/-- One record of provenance. -/
structure ProvenanceRecord where
  kind : ProvenanceKind
  reference : String
  sourceLocation : Option SourceLocation
  supportingFingerprint : Option Sha256Digest
  deriving DecidableEq, Repr

/-- The merchant's fulfilment threshold. -/
inductive FulfilmentPolicy where
  | captureRequired | authorizedAllowed
  deriving DecidableEq, Repr

/-- The merchant's policy for payments authorised late. -/
inductive LateAuthorisationPolicy where
  | fulfilLater | doNotFulfil
  deriving DecidableEq, Repr

/-- The fixed scenario catalog. -/
inductive ScenarioId where
  | sg01 | sg02 | sg03 | sg04 | sg05 | sg06 | sg07 | sg08
  deriving DecidableEq, Repr

namespace ScenarioId

/-- The persisted spelling of a scenario. -/
def value : ScenarioId → String
  | .sg01 => "SG-01"
  | .sg02 => "SG-02"
  | .sg03 => "SG-03"
  | .sg04 => "SG-04"
  | .sg05 => "SG-05"
  | .sg06 => "SG-06"
  | .sg07 => "SG-07"
  | .sg08 => "SG-08"

/-- Every scenario, in the order the catalog lists them. -/
def all : List ScenarioId :=
  [.sg01, .sg02, .sg03, .sg04, .sg05, .sg06, .sg07, .sg08]

theorem mem_all (scenario : ScenarioId) : scenario ∈ all := by
  cases scenario <;> decide

theorem value_injective {a b : ScenarioId} (same : a.value = b.value) : a = b := by
  cases a <;> cases b <;> first | rfl | exact absurd same (by decide)

end ScenarioId

instance : LawfulBEq (ScenarioId × ScenarioInstanceId × AssertionId) := inferInstance

/-- Whether an assertion decides the release gate. -/
inductive AssertionRole where
  | core | optional
  deriving DecidableEq, Repr

/-- The public result of one assertion. -/
inductive VerificationResultState where
  | verifiedPass | verifiedFail | staticWarning | needsInput | unverified | notApplicable
  deriving DecidableEq, Repr

/-- A result the failure lab reached by execution. -/
def VerificationResultState.verified : VerificationResultState → Bool
  | .verifiedPass | .verifiedFail => true
  | _ => false

/-- The strength of the evidence behind a result. -/
inductive EvidenceTier where
  | e0Discovered | e1Resolved | e2StaticVerified | e3DynamicVerified | e4RazorpayGrounded
  deriving DecidableEq, Repr

/-- The reason recorded with every scenario result. -/
inductive ScenarioResultReasonCode where
  | applicabilityNotApplicable
  | applicabilityNeedsInput
  | applicabilityIndeterminate
  | staleApplicabilityAuthority
  | authorityMismatch
  | runtimeModeUnsupported
  | runtimeSessionUnavailable
  | runtimeCapabilityInsufficient
  | webhookSecretUnavailable
  | checkoutSecretUnavailable
  | serverOrderControlUnavailable
  | requestExecutionFailed
  | transcriptUntrustworthy
  | requestLifecycleUnproven
  | normalInputPreconditionUnproven
  | targetTerminalUnproven
  | exactTargetEnteredOnce
  | exactTargetEnteredMultipleTimes
  | normalControlMultipleTargetEntries
  | duplicateDeliveryAddedTargetEntry
  | duplicateDeliveryAddedNoTargetEntry
  | rejectedSignatureAddedCustomerTargetEntry
  | rejectedSignatureAddedNoCustomerTargetEntry
  | rejectedSignatureCompletedMutation
  | rejectedSignatureAddedNoMutation
  | validSignatureControlUnproven
  | mutationOutcomeUnproven
  | outOfOrderControlMultipleTargetEntries
  | staleAuthorizedAddedTargetEntry
  | staleAuthorizedAddedNoTargetEntry
  | merchantStateRegressedToAuthorized
  | merchantStateDidNotRegress
  | capturedStateControlUnproven
  | tamperedCallbackAddedCustomerTargetEntry
  | tamperedCallbackAddedNoCustomerTargetEntry
  | tamperedCallbackCompletedMutation
  | tamperedCallbackAddedNoMutation
  | validCheckoutControlUnproven
  | webhookOnlyTargetEnteredOnce
  | webhookOnlyTargetEnteredMultipleTimes
  | modeledAckFailureUnproven
  | initialDeliveryMultipleTargetEntries
  | modeledRetryAddedTargetEntry
  | modeledRetryAddedNoTargetEntry
  | merchantLateContextUnproven
  | authorizedExecutedBeforeCapture
  | authorizedAddedNoTargetEntry
  | capturedThresholdTargetEnteredOnce
  | capturedThresholdMultipleTargetEntries
  deriving DecidableEq, Repr

end StateGuard
