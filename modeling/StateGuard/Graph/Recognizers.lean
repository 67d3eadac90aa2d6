import StateGuard.Graph.FunctionModel
import StateGuard.Library.KeyOrder

/-!
# The recognizers

What the graph build recognises in one function: signature verifications, payment-state
branches, merchant mutations, event-identity guards and acknowledgements, with the diagnostics
of unresolved calls and of verifier-shaped calls.

A verification is a call of a client's verifier, or an `if` on `hmac.compare_digest`; the facts
of a function are recognised with what verifies them (`recognizeVerifications`).
-/

namespace StateGuard

open Python

/-! ## Constants -/

/-- `PAYMENT_EVENTS`, in order. -/
def paymentEvents : List String :=
  ["order.paid", "payment.authorized", "payment.captured", "payment.failed"]

/-- `CHECKOUT_IDENTIFIERS`. -/
def checkoutIdentifiers : List String :=
  ["razorpay_order_id", "razorpay_payment_id", "razorpay_signature"]

/-- `_MERCHANT_STATE_FIELDS`. -/
def merchantStateFields : List String :=
  ["status", "paid", "payment_id", "razorpay_payment_id", "payment_status"]

/-! ## Facts -/

structure TrustFact where
  symbolId : SymbolId
  location : SourceLocation
  context : StatementContext
  trustKind : TrustGateKind
  webhookBodyOrigin : Option WebhookBodyOrigin
  orderIdentityOrigin : Option OrderIdentityOrigin
  routeGuardContext : Option StatementContext := none

structure EventIdentityFact where
  symbolId : SymbolId
  location : SourceLocation
  context : StatementContext
  strategy : EventIdentityStrategy

structure StateGateFact where
  symbolId : SymbolId
  location : SourceLocation
  context : StatementContext
  operator : PaymentStateOperator
  states : List String

structure MutationFact where
  symbolId : SymbolId
  location : SourceLocation
  context : StatementContext
  mutationKind : MerchantMutationKind
  carrierReference : MerchantStateCarrierId
  assignedPaymentState : Option AssignedPaymentState

structure AcknowledgementFact where
  symbolId : SymbolId
  location : SourceLocation
  context : Option StatementContext
  anchor : String
  exitKind : AcknowledgementExitKind
  statusCode : Option Nat
  outcome : AcknowledgementOutcome

section

variable (text : BuildText)

/-! ## Literals and origins -/

/-- `_all_strings`: the folded string literals in a node. -/
def allStrings (n : Node) : List String :=
  (walk n).filterMap fun
    | .expr (.constant _ (.text value)) => some (text.fold value)
    | _ => none

/-- `_literal_values`: the payment events among the literals, in order. -/
def literalValues (n : Node) : List String :=
  paymentEvents.filter (· ∈ allStrings text n)

/-- `_origin_in_expression`. -/
def originsInExpression (model : FunctionControlModel) (e : Expr) : List ValueOrigin :=
  model.origin text e :: (walk (.expr e)).filterMap fun
    | .expr (.name _ id _) => some ((model.nameOrigins.get? id).getD .unknown)
    | .expr (.subscript info value slice) => some (model.origin text (.subscript info value slice))
    | .expr (.attribute info value attr) => some (model.origin text (.attribute info value attr))
    | .expr (.call info func args keywords) =>
      some (model.origin text (.call info func args keywords))
    | .expr (.await info value) => some (model.origin text (.await info value))
    | _ => none

/-! ## Calls of a verifier -/

/-- The callee of a call. -/
def calleeOf : Expr → Option Expr
  | .call _ func _ _ => some func
  | _ => none

/-- The reference of the callee of a call, or the empty text. -/
def calleeReference (call : Expr) : String := ((calleeOf call).map referenceOrEmpty).getD ""

/-- The positional arguments of a call. -/
def argumentsOf : Expr → List Expr
  | .call _ _ args _ => args
  | _ => []

/-- The value of a keyword argument. -/
def keywordOf (call : Expr) (name : String) : Option Expr :=
  match call with
  | .call _ _ _ keywords => (keywords.find? (·.arg = some name)).map (·.value)
  | _ => none

/-- `_sdk_method_kind`. -/
def sdkMethodKind (call : Expr) : Option TrustGateKind :=
  if endsWith ".utility.verify_webhook_signature" (calleeReference call) then
    some .webhookSignatureVerification
  else if endsWith ".utility.verify_payment_signature" (calleeReference call) then
    some .checkoutSignatureVerification
  else none

/-- `_function_shadows_name`. -/
def functionShadowsName (model : FunctionControlModel) (name : String) : Bool :=
  (parameters model.function).any (·.arg = name) ||
    model.nodes.any fun n => (assignedNames n).any (· = name)

/-- `_sdk_binding_proven`. -/
def sdkBindingProven (call : Expr) (model : FunctionControlModel) : Bool :=
  let root := beforeFirst '.' (calleeReference call)
  model.module.sdkBindings.get? root = some .razorpayClient && !functionShadowsName model root

/-- `_sdk_verifier`. -/
def sdkVerifier (call : Expr) (model : FunctionControlModel) : Option TrustGateKind :=
  match sdkMethodKind call with
  | some kind => if sdkBindingProven call model then some kind else none
  | none => none

/-- `_try_swallows`: a call in the body of a `try` with a handler that does not terminate. -/
def trySwallows (model : FunctionControlModel) (call : Expr) : Bool :=
  model.nodes.any fun
    | .stmt (.try _ false body handlers _ _) =>
      body.any (fun s => FunctionControlModel.contains s call.info) &&
        handlers.any fun h => !blockTerminates h.body
    | _ => false

/-- `_dict_for_call_argument`. -/
def dictForCallArgument (call : Expr) (model : FunctionControlModel) : Option (List DictItem) :=
  match argumentsOf call with
  | .dict _ items :: _ => some items
  | .name _ id _ :: _ =>
    (model.nodes.filterMap fun
      | .stmt (.assign info targets (.dict _ items)) =>
        if NodeInfo.lineno info < NodeInfo.lineno call.info ∧ id ∈ targetNames targets then
          some items
        else none
      | _ => none).getLast?
  | _ => none

/-- `_checkout_origins`: the origins of the three checkout values, and that of the order. -/
def checkoutOrigins (call : Expr) (model : FunctionControlModel) :
    List ValueOrigin × OrderIdentityOrigin :=
  ((dictForCallArgument call model).getD []).foldl (fun state item =>
    match item.key?.bind (stringKey text) with
    | some key =>
      if key ∈ checkoutIdentifiers then
        let origin := model.origin text item.value
        (state.1 ++ [origin],
          if key = "razorpay_order_id" then
            match origin with
            | .clientReturnedOrderId => .clientReturned
            | .serverConfirmedOrderId => .serverStateConfirmed
            | _ => .unknown
          else state.2)
      else state
    | none => state) ([], .unknown)

/-! ## Direct comparisons -/

/-- The message of `hmac.new(key, message, sha256)`, also under `.hexdigest()`. -/
def hmacMessage (e : Expr) : Option Expr :=
  let candidate :=
    match e with
    | .call _ (.attribute _ value attr) _ _ => if attr = "hexdigest" then value else e
    | _ => e
  if (calleeOf candidate).bind referenceFor = some "hmac.new" then
    let digest := (keywordOf candidate "digestmod").or (argumentsOf candidate)[2]?
    let reference := digest.bind referenceFor
    if reference = some "hashlib.sha256" ∨ reference = some "sha256" then
      (keywordOf candidate "msg").or (argumentsOf candidate)[1]?
    else none
  else none

/-- The test of an `if` without a `not` around it, with whether there was one. -/
def comparedCall : Expr → Expr × Bool
  | .unaryOp _ .negation operand => (operand, true)
  | test => (test, false)

/-- The message and the signature that `compare_digest` compares. -/
def comparedDigests (call : Expr) : Option (Expr × Expr) :=
  let reference := (calleeOf call).bind referenceFor
  if reference = some "hmac.compare_digest" ∨ reference = some "compare_digest" then
    match argumentsOf call with
    | [left, right] =>
      match hmacMessage left, hmacMessage right with
      | some message, _ => some (message, right)
      | none, some message => some (message, left)
      | none, none => none
    | _ => none
  else none

/-- `_direct_hmac_fact`. -/
def directHmacFact (context : StatementContext) (model : FunctionControlModel) :
    Option TrustFact :=
  match context.node with
  | .if info test body orelse =>
    let compared := comparedCall test
    match comparedDigests compared.1 with
    | none => none
    | some (message, signature) =>
      if blockTerminates (if compared.2 then body else orelse) then
        let origins := originsInExpression text model message
        let signatureOrigins := originsInExpression text model signature
        if ValueOrigin.webhookSignature ∈ signatureOrigins then
          if ValueOrigin.rawWebhookBody ∈ origins then
            some
              { symbolId := model.symbol.symbolId
                location := sourceLocation model.module.path (some info)
                context := context
                trustKind := .webhookSignatureVerification
                webhookBodyOrigin := some .rawPreserved
                orderIdentityOrigin := none }
          else none
        else if ValueOrigin.checkoutSignature ∈ signatureOrigins then
          some
            { symbolId := model.symbol.symbolId
              location := sourceLocation model.module.path (some info)
              context := context
              trustKind := .checkoutSignatureVerification
              webhookBodyOrigin := none
              orderIdentityOrigin := some
                (if ValueOrigin.serverConfirmedOrderId ∈ origins then .serverStateConfirmed
                else if ValueOrigin.clientReturnedOrderId ∈ origins then .clientReturned
                else .unknown) }
        else none
      else none
  | _ => none

/-! ## Verifications -/

/-- What a fact stands for, by the identity of its nodes: an arm of a comparison, or a call.  The
source does not keep this; it is the statement or the call in its hand when it makes the fact. -/
inductive Verification where
  | comparison (gate : Nat) (arm : Arm)
  | call (call : Nat)
  deriving DecidableEq, Repr

/-- The arm of an `if` on a comparison that is entered when the digests agree. -/
def successArm : Stmt → Arm
  | .if _ test _ _ => if (comparedCall test).2 then .orelse else .body
  | _ => .body

/-- What a pass over the statements has recognised: the facts, and the keys taken. -/
structure TrustState where
  facts : List (TrustFact × Verification) := []
  seen : List (String × TrustGateKind) := []

/-- Record a fact unless its key is taken. -/
def TrustState.record (state : TrustState) (fact : TrustFact) (verification : Verification) :
    TrustState :=
  if (fact.context.anchor, fact.trustKind) ∈ state.seen then state
  else
    { facts := state.facts ++ [(fact, verification)]
      seen := (fact.context.anchor, fact.trustKind) :: state.seen }

/-- A checkout verification whose order identity is confirmed also binds the order. -/
def bindsOrder (fact : TrustFact) : Bool :=
  fact.trustKind = .checkoutSignatureVerification &&
    fact.orderIdentityOrigin = some .serverStateConfirmed

/-- The fact of a direct comparison. -/
def recordDirect (model : FunctionControlModel) (state : TrustState) (context : StatementContext) :
    TrustState :=
  match directHmacFact text context model with
  | some direct =>
    let verification := .comparison context.node.info.identity (successArm context.node)
    let recorded := state.record direct verification
    if bindsOrder direct then
      recorded.record { direct with trustKind := .serverOrderIdentityBinding } verification
    else recorded
  | none => state

/-- The fact of a call of a verifier, if its arguments have the right origins. -/
def callFact (model : FunctionControlModel) (context : StatementContext) (kind : TrustGateKind)
    (call : Expr) : Option TrustFact :=
  match kind with
  | .webhookSignatureVerification =>
    if model.originOf text (argumentsOf call)[0]? = .rawWebhookBody ∧
        model.originOf text (argumentsOf call)[1]? = .webhookSignature then
      some
        { symbolId := model.symbol.symbolId
          location := sourceLocation model.module.path (some call.info)
          context := context
          trustKind := kind
          webhookBodyOrigin := some .rawPreserved
          orderIdentityOrigin := none }
    else none
  | _ =>
    let origins := checkoutOrigins text call model
    if ValueOrigin.checkoutPaymentId ∈ origins.1 ∧ ValueOrigin.checkoutSignature ∈ origins.1 then
      some
        { symbolId := model.symbol.symbolId
          location := sourceLocation model.module.path (some call.info)
          context := context
          trustKind := kind
          webhookBodyOrigin := none
          orderIdentityOrigin := some origins.2 }
    else none

/-- One call in a statement.  The binding of a confirmed order is recorded with its
verification, under the key of the verification only. -/
def recordCall (model : FunctionControlModel) (context : StatementContext) (state : TrustState)
    (call : Expr) : TrustState :=
  match sdkVerifier call model with
  | some kind =>
    if trySwallows model call then state
    else
      let callContext := (model.contextFor text call.info).getD context
      if (callContext.anchor, kind) ∈ state.seen then state
      else
        match callFact text model callContext kind call with
        | some fact =>
          { facts := state.facts ++ ((fact, .call call.info.identity) ::
              if fact.orderIdentityOrigin = some .serverStateConfirmed then
                [({ fact with trustKind := .serverOrderIdentityBinding },
                  .call call.info.identity)]
              else [])
            seen := (callContext.anchor, kind) :: state.seen }
        | none => state
  | none => state

/-- The calls in a statement, breadth first. -/
def callsIn (n : Node) : List Expr :=
  (walk n).filterMap fun
    | .expr (.call info func args keywords) => some (.call info func args keywords)
    | _ => none

/-- The facts of a function, each with its verification. -/
def recognizeVerifications (model : FunctionControlModel) : List (TrustFact × Verification) :=
  ((model.statements text).foldl (fun state context =>
    (callsIn (.stmt context.node)).foldl (recordCall text model context)
      (recordDirect text model state context)) {}).facts

/-- `_recognize_trust`. -/
def recognizeTrust (model : FunctionControlModel) : List TrustFact :=
  (recognizeVerifications text model).map Prod.fst

/-! ## Branches on the payment state -/

/-- The operator of a single comparison. -/
def comparisonOperator : CmpOp → Option PaymentStateOperator
  | .eq => some .equals
  | .notEq => some .notEquals
  | .isIn => some .isIn
  | .notIn => some .notIn
  | .other => none

/-- `_state_condition`. -/
def stateCondition (test : Expr) (model : FunctionControlModel) :
    Option (PaymentStateOperator × List String) :=
  let states := literalValues text (.expr test)
  if states.isEmpty ∨ ValueOrigin.paymentEventSelector ∉ originsInExpression text model test then
    none
  else
    match test with
    | .compare _ _ [.mk op _] => (comparisonOperator op).map fun operator => (operator, states)
    | .boolOp .. | .unaryOp .. => some (.compound, states)
    | _ => none

/-- The gate a statement is, if any. -/
def stateGateFact (model : FunctionControlModel) (context : StatementContext) :
    Option StateGateFact :=
  match context.node with
  | .if _ test _ _ =>
    (stateCondition text test model).map fun recognized =>
      { symbolId := model.symbol.symbolId
        location := sourceLocation model.module.path (some test.info)
        context := context
        operator := recognized.1
        states := recognized.2 }
  | .match _ subject _ =>
    let states := literalValues text (.stmt context.node)
    if model.origin text subject = .paymentEventSelector ∧ states ≠ [] then
      some
        { symbolId := model.symbol.symbolId
          location := sourceLocation model.module.path (some subject.info)
          context := context
          operator := .matchCase
          states := states }
    else none
  | _ => none

/-- `_recognize_state_gates`. -/
def recognizeStateGates (model : FunctionControlModel) : List StateGateFact :=
  (model.statements text).filterMap (stateGateFact text model)

/-! ## Mutations -/

/-- `_target_field`. -/
def targetField : Expr → Option String
  | .attribute _ _ attr => some (text.casefold attr)
  | .subscript _ _ slice => stringKey text slice
  | _ => none

/-- The targets and the value of an assigning statement. -/
def assignedTargets : Stmt → List Expr × Option Expr
  | .assign _ targets value => (targets, some value)
  | .annAssign _ target _ value => ([target], value)
  | .augAssign _ target value => ([target], some value)
  | _ => ([], none)

/-- The payment state a literal value assigns. -/
def assignedState : Expr → Option AssignedPaymentState
  | .constant _ (.text value) =>
    let state := removePrefix "payment." (text.fold value)
    if state = "authorized" then some .authorized
    else if state = "captured" then some .captured
    else none
  | _ => none

/-- The kind of write a target is. -/
def mutationKindOf : Expr → Option MerchantMutationKind
  | .attribute .. => some .attributeWrite
  | .subscript .. => some .subscriptWrite
  | _ => none

/-- Whether a branch or a checkout verification controls a statement. -/
def mutationControlled (model : FunctionControlModel) (stateGates : List StateGateFact)
    (trust : List TrustFact) (context : StatementContext) : Bool :=
  context.ancestors.any (fun ancestor => stateGates.any (·.context.anchor = ancestor.gateAnchor)) ||
    trust.any fun fact => fact.symbolId = model.symbol.symbolId &&
      (fact.trustKind = .checkoutSignatureVerification ||
        fact.trustKind = .serverOrderIdentityBinding) &&
      contextDominates fact.context context

/-- The fact of one target of an assignment. -/
def mutationFact (model : FunctionControlModel) (context : StatementContext) (controlled : Bool)
    (value target : Expr) : Option MutationFact :=
  match mutationKindOf target, rootName target with
  | some kind, some root =>
    let origin := model.origin text value
    let relevant := origin = .paymentEventSelector ∨ origin = .checkoutPaymentId ∨
      (controlled = true ∧ ∃ field ∈ targetField text target, field ∈ merchantStateFields)
    if root ∈ model.module.moduleStateNames ∧ relevant then
      some
        { symbolId := model.symbol.symbolId
          location := sourceLocation model.module.path (some target.info)
          context := context
          mutationKind := kind
          carrierReference := text.merchantStateCarrierId model.symbol.sourceFileId root
          assignedPaymentState := assignedState text value }
    else none
  | _, _ => none

/-- `_recognize_mutations`. -/
def recognizeMutations (model : FunctionControlModel) (stateGates : List StateGateFact)
    (trust : List TrustFact) : List MutationFact :=
  (model.statements text).flatMap fun context =>
    match assignedTargets context.node with
    | (targets, some value) =>
      targets.filterMap (mutationFact text model context
        (mutationControlled model stateGates trust context) value)
    | (_, none) => []

/-! ## Event identity -/

/-- `_event_membership_test`: the container an event identity is looked up in. -/
def eventMembershipTest (model : FunctionControlModel) : Expr → Option String
  | .compare _ left [.mk op container] =>
    if (op = .isIn ∨ op = .notIn) ∧ model.origin text left = .webhookEventId then
      rootName container
    else none
  | _ => none

/-- Whether an expression is one of the names of the event identity. -/
def isEventName (eventNames : List String) : Expr → Bool
  | .name _ id _ => id ∈ eventNames
  | _ => false

/-- `_is_event_claim`. -/
def isEventClaim (eventNames : List String) (carrier : String) : Stmt → Bool
  | .expr _ (.call _ func args _) =>
    referenceOrEmpty func = carrier ++ ".add" && (args.head?.any (isEventName eventNames))
  | .assign _ targets _ =>
    targets.any fun
      | .subscript _ value slice => rootName value = some carrier && isEventName eventNames slice
      | _ => false
  | _ => false

/-- The line of the first mutation, or a line after every file. -/
def firstMutationLine (mutations : List MutationFact) : Nat :=
  ((mutations.map (·.location.lineStart)).min?).getD (10 ^ 9)

/-- The guard a statement is: a lookup that ends the duplicate, with a later claim before a
line. -/
def eventIdentityFact (model : FunctionControlModel) (eventNames : List String) (before : Nat)
    (context : StatementContext) : Option EventIdentityFact :=
  match context.node with
  | .if _ test body _ =>
    match eventMembershipTest text model test with
    | some carrier =>
      if carrier ∈ model.module.moduleStateNames ∧ blockTerminates body = true ∧
          ∃ claim ∈ model.statements text, locationBefore context.locationTuple claim.locationTuple ∧
            isEventClaim eventNames carrier claim.node = true ∧
            NodeInfo.lineno claim.node.info < before then
        some
          { symbolId := model.symbol.symbolId
            location := sourceLocation model.module.path (some test.info)
            context := context
            strategy := .lookupAndRecord }
      else none
    | none => none
  | _ => none

/-- `_recognize_event_identity`. -/
def recognizeEventIdentity (model : FunctionControlModel) (mutations : List MutationFact) :
    List EventIdentityFact :=
  let eventNames := model.nameOrigins.entries.filterMap fun entry =>
    if entry.2 = .webhookEventId then some entry.1 else none
  (model.statements text).filterMap
    (eventIdentityFact text model eventNames (firstMutationLine mutations))

/-! ## Acknowledgements -/

/-- An HTTP status a constant spells. -/
def statusOf : Option Expr → Option Nat
  | some (.constant _ (.int value)) =>
    if 100 ≤ value ∧ value ≤ 599 then some value.toNat else none
  | _ => none

/-- `_literal_status`. -/
def literalStatus (call : Expr) : Option Nat :=
  match keywordOf call "status_code" with
  | some candidate => statusOf (some candidate)
  | none =>
    if endsWith "HTTPException" (calleeReference call) then statusOf (argumentsOf call)[0]?
    else none

/-- `_outcome`. -/
def outcomeOf : Option Nat → AcknowledgementOutcome
  | none => .unknown
  | some status => if 200 ≤ status ∧ status < 300 then .success2xx else .nonSuccess

/-- `_route_default_status`. -/
def routeDefaultStatus (model : FunctionControlModel) : Nat :=
  ((model.function.decoratorList.filterMap fun decorator =>
    statusOf (keywordOf decorator "status_code")).head?).getD 200

/-- The acknowledgement a statement is, if any. -/
def acknowledgementFact (model : FunctionControlModel) (context : StatementContext) :
    Option AcknowledgementFact :=
  let fact (exitKind : AcknowledgementExitKind) (status : Option Nat) : AcknowledgementFact :=
    { symbolId := model.symbol.symbolId
      location := sourceLocation model.module.path (some context.node.info)
      context := some context
      anchor := context.anchor
      exitKind := exitKind
      statusCode := status
      outcome := outcomeOf status }
  match context.node with
  | .return _ value =>
    match value with
    | some (.call info func args keywords) =>
      if endsWith "Response" (referenceOrEmpty func) then
        some (fact .response (literalStatus (.call info func args keywords)))
      else some (fact .explicitReturn (some (routeDefaultStatus model)))
    | _ => some (fact .explicitReturn (some (routeDefaultStatus model)))
  | .raise _ (some (.call info func args keywords)) _ =>
    if endsWith "HTTPException" (referenceOrEmpty func) then
      some (fact .httpException (literalStatus (.call info func args keywords)))
    else none
  | _ => none

/-- `_recognize_acknowledgements`. -/
def recognizeAcknowledgements (model : FunctionControlModel) : List AcknowledgementFact :=
  (model.statements text).filterMap (acknowledgementFact model) ++
    if blockTerminates model.function.body then []
    else
      [{ symbolId := model.symbol.symbolId
         location := model.symbol.sourceLocation
         context := none
         anchor := text.structuralAnchor [model.symbol.symbolId, "IMPLICIT_RETURN"]
         exitKind := .implicitReturn
         statusCode := some (routeDefaultStatus model)
         outcome := outcomeOf (some (routeDefaultStatus model)) }]

end

end StateGuard
