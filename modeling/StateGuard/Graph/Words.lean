import StateGuard.Graph.Service

/-!
# The words of a graph

The values of the enumerations in the records of a graph, as they are persisted.  No enumeration has
one value for two members.
-/

namespace StateGuard

def ProvenanceKind.value : ProvenanceKind → String
  | .static => "STATIC"
  | .aiInferred => "AI_INFERRED"
  | .humanConfirmed => "HUMAN_CONFIRMED"
  | .runtimeObserved => "RUNTIME_OBSERVED"

def GraphCompleteness.value : GraphCompleteness → String
  | .complete => "COMPLETE"
  | .partialGraph => "PARTIAL"

def GraphDiagnosticImpact.value : GraphDiagnosticImpact → String
  | .coverageReduced => "COVERAGE_REDUCED"
  | .notice => "NOTICE"

def GraphDiagnosticCode.value : GraphDiagnosticCode → String
  | .upstreamSourceIndexPartial => "UPSTREAM_SOURCE_INDEX_PARTIAL"
  | .appTargetUnselected => "APP_TARGET_UNSELECTED"
  | .routeCompositionUnresolved => "ROUTE_COMPOSITION_UNRESOLVED"
  | .routeCompositionCycle => "ROUTE_COMPOSITION_CYCLE"
  | .unresolvedStructuralCandidate => "UNRESOLVED_STRUCTURAL_CANDIDATE"
  | .controlFlowUnsupported => "CONTROL_FLOW_UNSUPPORTED"
  | .callPathUnresolved => "CALL_PATH_UNRESOLVED"

def GraphCandidateKind.value : GraphCandidateKind → String
  | .webhookIngress => "WEBHOOK_INGRESS"
  | .checkoutCallbackIngress => "CHECKOUT_CALLBACK_INGRESS"
  | .webhookSignature => "WEBHOOK_SIGNATURE"
  | .checkoutSignature => "CHECKOUT_SIGNATURE"
  | .serverOrderIdentity => "SERVER_ORDER_IDENTITY"
  | .eventIdentity => "EVENT_IDENTITY"
  | .paymentState => "PAYMENT_STATE"
  | .merchantMutation => "MERCHANT_MUTATION"
  | .acknowledgement => "ACKNOWLEDGEMENT"
  | .customerValueExecution => "CUSTOMER_VALUE_EXECUTION"

def GraphDiagnosticReason.value : GraphDiagnosticReason → String
  | .insufficientConvergingEvidence => "INSUFFICIENT_CONVERGING_EVIDENCE"
  | .rawBodyUnresolved => "RAW_BODY_UNRESOLVED"
  | .parsedBodyUsed => "PARSED_BODY_USED"
  | .validationNotControlEffective => "VALIDATION_NOT_CONTROL_EFFECTIVE"
  | .validationAfterMutation => "VALIDATION_AFTER_MUTATION"
  | .clientOrderIdUsed => "CLIENT_ORDER_ID_USED"
  | .orderIdentityUnknown => "ORDER_IDENTITY_UNKNOWN"
  | .eventIdObservedOnly => "EVENT_ID_OBSERVED_ONLY"
  | .persistenceUnresolved => "PERSISTENCE_UNRESOLVED"
  | .dynamicResponse => "DYNAMIC_RESPONSE"
  | .recursiveCallPath => "RECURSIVE_CALL_PATH"
  | .unsupportedAst => "UNSUPPORTED_AST"
  | .sdkBindingUnresolved => "SDK_BINDING_UNRESOLVED"
  | .executionSemanticsUnproven => "EXECUTION_SEMANTICS_UNPROVEN"

def CheckoutRequestTransport.value : CheckoutRequestTransport → String
  | .json => "JSON"
  | .formUrlencoded => "FORM_URLENCODED"
  | .query => "QUERY"

def OrderIdentityOrigin.value : OrderIdentityOrigin → String
  | .clientReturned => "CLIENT_RETURNED"
  | .serverStateConfirmed => "SERVER_STATE_CONFIRMED"
  | .unknown => "UNKNOWN"

def WebhookBodyOrigin.value : WebhookBodyOrigin → String
  | .rawPreserved => "RAW_PRESERVED"
  | .parsed => "PARSED"
  | .unknown => "UNKNOWN"

def EventIdentityStrategy.value : EventIdentityStrategy → String
  | .lookupAndRecord => "LOOKUP_AND_RECORD"
  | .atomicClaim => "ATOMIC_CLAIM"

def AcknowledgementExitKind.value : AcknowledgementExitKind → String
  | .explicitReturn => "RETURN"
  | .implicitReturn => "IMPLICIT_RETURN"
  | .response => "RESPONSE"
  | .httpException => "HTTP_EXCEPTION"

def BranchDisposition.value : BranchDisposition → String
  | .matched => "MATCHED"
  | .notMatched => "NOT_MATCHED"
  | .defaultArm => "DEFAULT"

/-- The kind of a node. -/
inductive GraphNodeKind where
  | paymentIngress
  | trustGate
  | eventIdentityGuard
  | paymentStateGate
  | merchantStateMutation
  | customerValueAction
  | acknowledgementBoundary
  deriving DecidableEq

def GraphNodeKind.value : GraphNodeKind → String
  | .paymentIngress => "PAYMENT_INGRESS"
  | .trustGate => "TRUST_GATE"
  | .eventIdentityGuard => "EVENT_IDENTITY_GUARD"
  | .paymentStateGate => "PAYMENT_STATE_GATE"
  | .merchantStateMutation => "MERCHANT_STATE_MUTATION"
  | .customerValueAction => "CUSTOMER_VALUE_ACTION"
  | .acknowledgementBoundary => "ACKNOWLEDGEMENT_BOUNDARY"

/-- The kind that the details of a node belong to. -/
def GraphNodeDetails.kind : GraphNodeDetails → GraphNodeKind
  | .paymentIngress _ => .paymentIngress
  | .trustGate _ => .trustGate
  | .eventIdentityGuard _ => .eventIdentityGuard
  | .paymentStateGate _ => .paymentStateGate
  | .merchantStateMutation _ => .merchantStateMutation
  | .acknowledgementBoundary _ => .acknowledgementBoundary
  | .customerValueAction => .customerValueAction

/-! ## Members have different values -/

/-- A value that differs along a list of all members tells them apart. -/
theorem injective_of_nodup {α : Type} {value : α → String} (members : List α)
    (complete : ∀ member, member ∈ members) (distinct : (members.map value).Nodup) :
    Function.Injective value :=
  fun a b same => List.inj_on_of_nodup_map distinct (complete a) (complete b) same

theorem ProvenanceKind.value_injective : Function.Injective ProvenanceKind.value :=
  injective_of_nodup [.static, .aiInferred, .humanConfirmed, .runtimeObserved]
    (by intro member; cases member <;> decide) (by decide)

theorem GraphCompleteness.value_injective : Function.Injective GraphCompleteness.value :=
  injective_of_nodup [.complete, .partialGraph]
    (by intro member; cases member <;> decide) (by decide)

theorem GraphDiagnosticImpact.value_injective : Function.Injective GraphDiagnosticImpact.value :=
  injective_of_nodup [.coverageReduced, .notice]
    (by intro member; cases member <;> decide) (by decide)

theorem GraphDiagnosticCode.value_injective : Function.Injective GraphDiagnosticCode.value :=
  injective_of_nodup
    [.upstreamSourceIndexPartial, .appTargetUnselected, .routeCompositionUnresolved,
      .routeCompositionCycle, .unresolvedStructuralCandidate, .controlFlowUnsupported,
      .callPathUnresolved]
    (by intro member; cases member <;> decide) (by decide)

theorem GraphCandidateKind.value_injective : Function.Injective GraphCandidateKind.value :=
  injective_of_nodup
    [.webhookIngress, .checkoutCallbackIngress, .webhookSignature, .checkoutSignature,
      .serverOrderIdentity, .eventIdentity, .paymentState, .merchantMutation, .acknowledgement,
      .customerValueExecution]
    (by intro member; cases member <;> decide) (by decide)

theorem GraphDiagnosticReason.value_injective : Function.Injective GraphDiagnosticReason.value :=
  injective_of_nodup
    [.insufficientConvergingEvidence, .rawBodyUnresolved, .parsedBodyUsed,
      .validationNotControlEffective, .validationAfterMutation, .clientOrderIdUsed,
      .orderIdentityUnknown, .eventIdObservedOnly, .persistenceUnresolved, .dynamicResponse,
      .recursiveCallPath, .unsupportedAst, .sdkBindingUnresolved, .executionSemanticsUnproven]
    (by intro member; cases member <;> decide) (by decide)

theorem CheckoutRequestTransport.value_injective :
    Function.Injective CheckoutRequestTransport.value :=
  injective_of_nodup [.json, .formUrlencoded, .query]
    (by intro member; cases member <;> decide) (by decide)

theorem OrderIdentityOrigin.value_injective : Function.Injective OrderIdentityOrigin.value :=
  injective_of_nodup [.clientReturned, .serverStateConfirmed, .unknown]
    (by intro member; cases member <;> decide) (by decide)

theorem WebhookBodyOrigin.value_injective : Function.Injective WebhookBodyOrigin.value :=
  injective_of_nodup [.rawPreserved, .parsed, .unknown]
    (by intro member; cases member <;> decide) (by decide)

theorem EventIdentityStrategy.value_injective : Function.Injective EventIdentityStrategy.value :=
  injective_of_nodup [.lookupAndRecord, .atomicClaim]
    (by intro member; cases member <;> decide) (by decide)

theorem AcknowledgementExitKind.value_injective :
    Function.Injective AcknowledgementExitKind.value :=
  injective_of_nodup [.explicitReturn, .implicitReturn, .response, .httpException]
    (by intro member; cases member <;> decide) (by decide)

theorem BranchDisposition.value_injective : Function.Injective BranchDisposition.value :=
  injective_of_nodup [.matched, .notMatched, .defaultArm]
    (by intro member; cases member <;> decide) (by decide)

theorem AcknowledgementOutcome.value_injective : Function.Injective AcknowledgementOutcome.value :=
  injective_of_nodup [.success2xx, .nonSuccess, .unknown]
    (by intro member; cases member <;> decide) (by decide)

theorem MerchantMutationKind.value_injective : Function.Injective MerchantMutationKind.value :=
  injective_of_nodup [.attributeWrite, .subscriptWrite, .merchantHelper]
    (by intro member; cases member <;> decide) (by decide)

theorem PaymentStateOperator.value_injective : Function.Injective PaymentStateOperator.value :=
  injective_of_nodup [.equals, .notEquals, .isIn, .notIn, .matchCase, .compound]
    (by intro member; cases member <;> decide) (by decide)

theorem PaymentIngressKind.value_injective : Function.Injective PaymentIngressKind.value :=
  injective_of_nodup [.webhook, .checkoutCallback]
    (by intro member; cases member <;> decide) (by decide)

theorem TrustGateKind.value_injective : Function.Injective TrustGateKind.value :=
  injective_of_nodup
    [.webhookSignatureVerification, .checkoutSignatureVerification, .serverOrderIdentityBinding]
    (by intro member; cases member <;> decide) (by decide)

theorem GraphEdgeKind.value_injective : Function.Injective GraphEdgeKind.value :=
  injective_of_nodup
    [.calls, .guards, .branchesTo, .mutates, .triggers, .acknowledgesAfter]
    (by intro member; cases member <;> decide) (by decide)

theorem AssignedPaymentState.value_injective : Function.Injective AssignedPaymentState.value :=
  injective_of_nodup [.authorized, .captured]
    (by intro member; cases member <;> decide) (by decide)

theorem GraphNodeKind.value_injective : Function.Injective GraphNodeKind.value :=
  injective_of_nodup
    [.paymentIngress, .trustGate, .eventIdentityGuard, .paymentStateGate,
      .merchantStateMutation, .customerValueAction, .acknowledgementBoundary]
    (by intro member; cases member <;> decide) (by decide)

end StateGuard
