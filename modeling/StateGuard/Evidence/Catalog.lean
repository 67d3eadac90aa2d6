import StateGuard.Applicability.Contracts
import StateGuard.Library.Checks

/-!
# The catalog of assertions

What each assertion of the failure lab stands for in a verification run: the invariant it checks,
the requests it sends, the policies it rests on and the protocol rules it refers to.
-/

namespace StateGuard

namespace Evidence

/-- The part a request plays in an assertion. -/
inductive RequestRole where
  | normalCapture
  | initialDelivery
  | duplicateDelivery
  | initialWithAckFailure
  | modeledRetry
  | capturedControl
  | staleAuthorized
  | rejectedSignature
  | validSignatureControl
  | tamperedCallback
  | validCallbackControl
  | webhookWithCallbackOmitted
  | modeledLateAuthorized
  | capturedThresholdControl
  deriving DecidableEq, Repr

/-- The two merchant policies. -/
inductive PolicyDimension where
  | fulfilment | lateAuthorisation
  deriving DecidableEq, Repr

/-- The persisted spelling of a dimension. -/
def PolicyDimension.value : PolicyDimension → String
  | .fulfilment => "FULFILMENT"
  | .lateAuthorisation => "LATE_AUTHORISATION"

/-- The facts of the payment protocol. -/
inductive RazorpayProtocolRuleId where
  | paymentCapturedWebhookEvent
  | paymentAuthorizedWebhookEvent
  | webhookSignatureRawBody
  | webhookDuplicateDelivery
  | webhookOrderNotGuaranteed
  | webhookRetryOnUnsuccessfulAck
  | checkoutServerSignatureVerification
  | checkoutServerOrderId
  | captureBeforeFulfilment
  | lateAuthorisationBusinessPolicy
  deriving DecidableEq, Repr

/-- The persisted spelling of a rule. -/
def RazorpayProtocolRuleId.value : RazorpayProtocolRuleId → String
  | .paymentCapturedWebhookEvent => "RZP-PAYMENT-CAPTURED-WEBHOOK-EVENT-001"
  | .paymentAuthorizedWebhookEvent => "RZP-PAYMENT-AUTHORIZED-WEBHOOK-EVENT-001"
  | .webhookSignatureRawBody => "RZP-WEBHOOK-SIGNATURE-RAW-BODY-001"
  | .webhookDuplicateDelivery => "RZP-WEBHOOK-DUPLICATE-DELIVERY-001"
  | .webhookOrderNotGuaranteed => "RZP-WEBHOOK-ORDER-NOT-GUARANTEED-001"
  | .webhookRetryOnUnsuccessfulAck => "RZP-WEBHOOK-RETRY-ON-UNSUCCESSFUL-ACK-001"
  | .checkoutServerSignatureVerification => "RZP-CHECKOUT-SERVER-SIGNATURE-VERIFICATION-001"
  | .checkoutServerOrderId => "RZP-CHECKOUT-SERVER-ORDER-ID-001"
  | .captureBeforeFulfilment => "RZP-CAPTURE-BEFORE-FULFILMENT-001"
  | .lateAuthorisationBusinessPolicy => "RZP-LATE-AUTHORISATION-BUSINESS-POLICY-001"

/-- One entry of the catalog, with the rules of `validate_policy_dimensions`. -/
structure AssertionDefinition where
  scenarioId : ScenarioId
  assertionKey : AssertionKey
  invariantId : String
  invariantVersion : Nat
  expectedInvariant : String
  requestRoles : List RequestRole
  policyAuthority : List PolicyDimension
  keyPolicyDimensions : List PolicyDimension
  razorpayRuleIds : List RazorpayProtocolRuleId
  /-- The policies in a check key are policies the assertion rests on. -/
  keyDimensionsUsed : keyPolicyDimensions ⊆ policyAuthority
  /-- No rule is listed twice. -/
  rulesUnique : razorpayRuleIds.Nodup

def captureRules : List RazorpayProtocolRuleId :=
  [.paymentCapturedWebhookEvent, .webhookSignatureRawBody]

def outOfOrderRules : List RazorpayProtocolRuleId :=
  [.paymentCapturedWebhookEvent, .webhookOrderNotGuaranteed, .webhookSignatureRawBody]

def checkoutRules : List RazorpayProtocolRuleId :=
  [.checkoutServerSignatureVerification, .checkoutServerOrderId]

def lateRules : List RazorpayProtocolRuleId :=
  [.paymentAuthorizedWebhookEvent, .paymentCapturedWebhookEvent, .lateAuthorisationBusinessPolicy,
    .webhookSignatureRawBody]

/-- The entry of an assertion. -/
def definitionOf : AssertionKey → AssertionDefinition
  | .sg01 => ⟨.sg01, .sg01, "NORMAL_CAPTURE_VALUE_EXACTLY_ONCE", 1,
      "A normal captured payment enters and normally returns from the exact customer-value " ++
        "target once.",
      [.normalCapture], [.fulfilment], [.fulfilment], captureRules, by decide, by decide⟩
  | .sg02 => ⟨.sg02, .sg02, "DUPLICATE_DELIVERY_VALUE_AT_MOST_ONCE", 1,
      "A duplicate captured webhook adds no customer-value target entry after a normal first " ++
        "delivery.",
      [.initialDelivery, .duplicateDelivery], [.fulfilment], [],
      captureRules ++ [.webhookDuplicateDelivery], by decide, by decide⟩
  | .sg03 => ⟨.sg03, .sg03, "MODELED_RETRY_VALUE_AT_MOST_ONCE", 1,
      "A modeled retry after an injected unsuccessful acknowledgement adds no customer-value " ++
        "target entry.",
      [.initialWithAckFailure, .modeledRetry], [.fulfilment], [],
      captureRules ++ [.webhookRetryOnUnsuccessfulAck], by decide, by decide⟩
  | .sg04CustomerValue => ⟨.sg04, .sg04CustomerValue, "OUT_OF_ORDER_VALUE_AT_MOST_ONCE", 1,
      "A stale authorized event after capture adds no customer-value target entry.",
      [.capturedControl, .staleAuthorized], [.fulfilment], [], outOfOrderRules, by decide,
      by decide⟩
  | .sg04StateRegression => ⟨.sg04, .sg04StateRegression, "MERCHANT_STATE_DOES_NOT_REGRESS", 1,
      "The exact observed merchant assignment does not complete a captured-to-authorized " ++
        "regression.",
      [.capturedControl, .staleAuthorized], [], [], outOfOrderRules, by decide, by decide⟩
  | .sg05Mutation => ⟨.sg05, .sg05Mutation, "FORGED_WEBHOOK_NO_MUTATION_COMPLETION", 1,
      "A forged webhook completes no exact Python merchant-assignment instruction.",
      [.rejectedSignature, .validSignatureControl], [], [], captureRules, by decide, by decide⟩
  | .sg05CustomerValue => ⟨.sg05, .sg05CustomerValue, "FORGED_WEBHOOK_NO_CUSTOMER_VALUE", 1,
      "A forged webhook does not enter the exact customer-value target.",
      [.rejectedSignature, .validSignatureControl], [], [], captureRules, by decide, by decide⟩
  | .sg06Mutation => ⟨.sg06, .sg06Mutation, "TAMPERED_CHECKOUT_NO_MUTATION_COMPLETION", 1,
      "A tampered Checkout callback completes no exact protected Python assignment instruction.",
      [.tamperedCallback, .validCallbackControl], [], [], checkoutRules, by decide, by decide⟩
  | .sg06CustomerValue => ⟨.sg06, .sg06CustomerValue, "TAMPERED_CHECKOUT_NO_CUSTOMER_VALUE", 1,
      "A tampered Checkout callback does not enter the exact customer-value target.",
      [.tamperedCallback, .validCallbackControl], [], [], checkoutRules, by decide, by decide⟩
  | .sg07CustomerValue => ⟨.sg07, .sg07CustomerValue, "WEBHOOK_OUTCOME_WITHOUT_CALLBACK", 1,
      "The captured webhook reaches the exact customer-value target once without a browser " ++
        "callback.",
      [.webhookWithCallbackOmitted], [.fulfilment], [], captureRules, by decide, by decide⟩
  | .sg08Precapture => ⟨.sg08, .sg08Precapture, "LATE_AUTHORIZATION_NO_PRECAPTURE_VALUE", 1,
      "Under capture-required policy, modeled late authorization does not enter the " ++
        "customer-value target before capture.",
      [.modeledLateAuthorized, .capturedThresholdControl], [.fulfilment, .lateAuthorisation],
      [.fulfilment, .lateAuthorisation], lateRules, by decide, by decide⟩
  | .sg08Capture => ⟨.sg08, .sg08Capture, "LATE_PAYMENT_VALUE_ONCE_AFTER_CAPTURE", 1,
      "Under fulfil-later capture policy, the capture threshold enters the customer-value " ++
        "target once.",
      [.modeledLateAuthorized, .capturedThresholdControl], [.fulfilment, .lateAuthorisation],
      [.fulfilment, .lateAuthorisation], lateRules, by decide, by decide⟩
  | .sg08LatePolicy => ⟨.sg08, .sg08LatePolicy, "LATE_PAYMENT_POLICY_OUTCOME", 1,
      "The late-payment outcome is re-verifiable only with current merchant late-policy context.",
      [.modeledLateAuthorized], [.fulfilment, .lateAuthorisation],
      [.fulfilment, .lateAuthorisation], lateRules, by decide, by decide⟩

/-- `ASSERTION_DEFINITIONS`, in the order of the source. -/
def assertionDefinitions : List AssertionDefinition :=
  [.sg01, .sg02, .sg03, .sg04CustomerValue, .sg04StateRegression, .sg05Mutation,
    .sg05CustomerValue, .sg06Mutation, .sg06CustomerValue, .sg07CustomerValue, .sg08Precapture,
    .sg08Capture, .sg08LatePolicy].map definitionOf

/-- `assertion_definition`. -/
def assertionDefinition (scenario : ScenarioId) (key : AssertionKey) :
    Except String AssertionDefinition :=
  match assertionDefinitions.find? fun item =>
      item.scenarioId = scenario ∧ item.assertionKey = key with
  | some item => .ok item
  | none => .error "unknown Failure Lab assertion definition"

/-- `assertion_order`: the place of an assertion among those of its scenario. -/
def assertionOrder (scenario : ScenarioId) (key : AssertionKey) : Nat :=
  (assertionDefinitions.filter (·.scenarioId = scenario)).findIdx (·.assertionKey = key)

/-- An assertion belongs to the scenario of its entry. -/
theorem assertionDefinition_eq_ok {scenario : ScenarioId} {key : AssertionKey}
    {definition : AssertionDefinition} (found : assertionDefinition scenario key = .ok definition) :
    definition = definitionOf key ∧ definition.scenarioId = scenario := by
  rw [assertionDefinition] at found
  split at found
  next item isItem =>
    cases found
    have both := List.find?_some isItem
    rw [decide_eq_true_iff] at both
    obtain ⟨sameScenario, sameKey⟩ := both
    obtain ⟨other, -, rfl⟩ := List.mem_map.mp (List.mem_of_find?_eq_some isItem)
    refine ⟨?_, sameScenario⟩
    have isKey : (definitionOf other).assertionKey = other := by cases other <;> rfl
    rw [← sameKey, isKey]
  next => cases found

end Evidence

end StateGuard
