import StateGuard.Graph.CallPaths

/-!
# The analysis of one route

What `analyze_route_concepts` gathers for a route: the models of the functions on its call paths
with the origins their callers pass (`modelsWithForwardedOrigins`), the facts recognised in them,
the statement of the handler that stands for a verification in a helper (`routeGuardContext`),
the kind of the ingress and the diagnostics.
-/

namespace StateGuard

open Python

/-- A route of the selected application, with the includes it came through. -/
structure ReachableRoute where
  registration : EffectiveRouteRegistration
  ownerSymbolId : SymbolId
  routeLocation : SourceLocation
  includeLocations : List SourceLocation
  includeAnchors : List String

section

variable (text : BuildText)

/-! ## Models on the call paths -/

/-- `_call_node`: the first call of a function at the position of a call site. -/
def callNode (model : FunctionControlModel) (callSite : CallSiteRecord) : Option Expr :=
  model.calls.find? fun call =>
    NodeInfo.lineno call.info = callSite.sourceLocation.lineStart ∧
      call.info.column = callSite.sourceLocation.columnStart

/-- `_call_context`. -/
def callContext (model : FunctionControlModel) (callSite : CallSiteRecord) :
    Option StatementContext :=
  (callNode model callSite).bind fun call => model.contextFor text call.info

/-- A parameter takes the origin of its argument, where that is known. -/
def forwardOrigin (caller : FunctionControlModel) (origins : Dict String ValueOrigin)
    (parameter : String) (argument : Expr) : Dict String ValueOrigin :=
  let origin := caller.origin text argument
  if origin = .unknown then origins else origins.set parameter origin

/-- The origins a call passes to its callee: by position, then by name. -/
def forwardArguments (caller callee : FunctionControlModel) (call : Expr) :
    Dict String ValueOrigin :=
  let names := (parameters callee.function).map (·.arg)
  let byPosition := (names.zip (argumentsOf call)).foldl
    (fun origins argument => forwardOrigin text caller origins argument.1 argument.2)
    callee.nameOrigins
  match call with
  | .call _ _ _ keywords =>
    keywords.foldl (fun origins keyword =>
      match keyword.arg with
      | some name =>
        if name ∈ names then forwardOrigin text caller origins name keyword.value else origins
      | none => origins) byPosition
  | _ => byPosition

/-- The models with the origins one more call passes. -/
def forwardCall (models : SymbolId → Option FunctionControlModel)
    (callee : SymbolId) (path : List CallSiteRecord) : SymbolId → Option FunctionControlModel :=
  match path.getLast? with
  | none => models
  | some callSite =>
    match models callSite.callerSymbolId, models callee with
    | some callerModel, some calleeModel =>
      match callNode callerModel callSite with
      | some call =>
        Function.update models callee
          (some { calleeModel with nameOrigins := forwardArguments text callerModel calleeModel call })
      | none => models
    | _, _ => models

/-- `_models_with_forwarded_origins`: along the paths, the shortest first. -/
def modelsWithForwardedOrigins (paths : Dict SymbolId (List CallSiteRecord))
    (project : ParsedProject) : SymbolId → Option FunctionControlModel :=
  (KeyOrder.sortedByKey (fun entry => entry.2.length) paths.entries).foldl
    (fun models entry => forwardCall text models entry.1 entry.2)
    (fun symbolId => if symbolId ∈ paths.keys then project.function? symbolId else none)

/-- `_route_guard_context`: the statement that stands for a verification at the end of a call
path. -/
def routeGuardContext (models : SymbolId → Option FunctionControlModel) (fact : TrustFact)
    (path : List CallSiteRecord) : Option StatementContext :=
  match path with
  | [] => some fact.context
  | first :: rest =>
    if (models fact.symbolId).isSome ∧ exceptionPropagatesFromFunction fact.context = true ∧
        rest.all (fun callSite =>
          ((models callSite.callerSymbolId).bind (callContext text · callSite)).any
            exceptionPropagatesFromFunction) = true then
      (models first.callerSymbolId).bind (callContext text · first)
    else none

/-! ## Diagnostics -/

/-- A verifier-shaped call that is not recognised as a verification, with what it lacks. -/
def trustCandidateDiagnostic (model : FunctionControlModel) (route : ReachableRoute) (call : Expr) :
    Option GraphDiagnosticRecord :=
  let diagnostic (candidate : GraphCandidateKind) (impact : GraphDiagnosticImpact)
      (reason : GraphDiagnosticReason) : GraphDiagnosticRecord :=
    { code := .unresolvedStructuralCandidate
      impact := impact
      candidateKind := some candidate
      reason := some reason
      symbolId := some model.symbol.symbolId
      routeRegistrationId := some route.registration.routeRegistrationId
      sourceLocation := some (sourceLocation model.module.path (some call.info)) }
  match sdkMethodKind call with
  | none => none
  | some method =>
    let candidate := if method = .webhookSignatureVerification then
      GraphCandidateKind.webhookSignature else .checkoutSignature
    match sdkVerifier call model with
    | none => some (diagnostic candidate .coverageReduced .sdkBindingUnresolved)
    | some .webhookSignatureVerification =>
      let body := model.originOf text (argumentsOf call)[0]?
      if model.originOf text (argumentsOf call)[1]? ≠ .webhookSignature then none
      else if body = .parsedWebhookBody then some (diagnostic candidate .notice .parsedBodyUsed)
      else if body ≠ .rawWebhookBody then some (diagnostic candidate .notice .rawBodyUnresolved)
      else if trySwallows model call then
        some (diagnostic candidate .notice .validationNotControlEffective)
      else none
    | some _ =>
      let origins := (checkoutOrigins text call model).1
      if ValueOrigin.checkoutPaymentId ∈ origins ∧ ValueOrigin.checkoutSignature ∈ origins ∧
          trySwallows model call = true then
        some (diagnostic candidate .notice .validationNotControlEffective)
      else none

/-- `_trust_candidate_diagnostics`. -/
def trustCandidateDiagnostics (model : FunctionControlModel) (route : ReachableRoute) :
    List GraphDiagnosticRecord :=
  model.calls.filterMap (trustCandidateDiagnostic text model route)

/-- Whether a function names anything of a payment. -/
def paymentRelevant (model : FunctionControlModel) : Bool :=
  (allStrings text (.stmt model.function.stmt)).any (fun value => value ∈ paymentEvents ||
    value ∈ checkoutIdentifiers || value = "x-razorpay-signature" ||
    value = "x-razorpay-event-id") ||
  model.nameOrigins.values.any (· ≠ .unknown)

/-- The roots of calls that need no resolution. -/
def allowedRoots (model : FunctionControlModel) : List String :=
  ["request", "hmac", "hashlib", "JSONResponse", "Response", "HTTPException", "fastapi",
    "starlette", "set", "dict", "list"] ++
  (model.module.sdkBindings.entries.filterMap fun entry =>
    if entry.2 = .razorpayClient then some entry.1 else none) ++
  model.module.moduleStateNames

/-- Whether a call of a function is unresolved and matters. -/
def unresolvedCall (model : FunctionControlModel) (callSite : CallSiteRecord) : Bool :=
  callSite.callerSymbolId = model.symbol.symbolId && callSite.calleeSymbolId.isNone &&
    !(endsWith ".utility.verify_webhook_signature" callSite.calleeReference ||
      endsWith ".utility.verify_payment_signature" callSite.calleeReference) &&
    !(beforeFirst '.' callSite.calleeReference ∈ allowedRoots model)

/-- `_unresolved_call_diagnostics`. -/
def unresolvedCallDiagnostics (model : FunctionControlModel) (index : SourceIndexArtifact) :
    List GraphDiagnosticRecord :=
  if paymentRelevant text model then
    (index.callSites.filter (unresolvedCall model)).map fun callSite =>
      { code := .callPathUnresolved
        impact := .coverageReduced
        symbolId := some model.symbol.symbolId
        sourceLocation := some callSite.sourceLocation }
  else []

/-- A function with `except*` is not analysed completely. -/
def unsupportedFlowDiagnostics (model : FunctionControlModel) : List GraphDiagnosticRecord :=
  if model.unsupportedExceptionFlow then
    [{ code := .controlFlowUnsupported
       impact := .coverageReduced
       symbolId := some model.symbol.symbolId
       sourceLocation := some model.symbol.sourceLocation }]
  else []

/-- The candidate kind of a trust fact. -/
def trustCandidate (kind : TrustGateKind) : GraphCandidateKind :=
  if kind = .webhookSignatureVerification then .webhookSignature else .checkoutSignature

/-- A verification in a helper that its callers may swallow. -/
def helperDiagnostics (route : ReachableRoute) (path : List CallSiteRecord)
    (model : FunctionControlModel) (trust : List TrustFact) : List GraphDiagnosticRecord :=
  if model.symbol.symbolId = route.ownerSymbolId then []
  else trust.filterMap fun fact =>
    if fact.routeGuardContext.all exceptionFailureAllowsContinuation then
      some
        { code := .unresolvedStructuralCandidate
          impact := .notice
          candidateKind := some (trustCandidate fact.trustKind)
          reason := some .validationNotControlEffective
          symbolId := some fact.symbolId
          routeRegistrationId := some route.registration.routeRegistrationId
          sourceLocation := path.head?.map (·.sourceLocation) }
    else none

/-- A checkout verification whose order identity is not confirmed. -/
def orderDiagnostic (route : ReachableRoute) (fact : TrustFact) : Option GraphDiagnosticRecord :=
  let diagnostic (reason : GraphDiagnosticReason) : GraphDiagnosticRecord :=
    { code := .unresolvedStructuralCandidate
      impact := .notice
      candidateKind := some .serverOrderIdentity
      reason := some reason
      symbolId := some fact.symbolId
      routeRegistrationId := some route.registration.routeRegistrationId
      sourceLocation := some fact.location }
  if fact.trustKind = .checkoutSignatureVerification then
    match fact.orderIdentityOrigin with
    | some .clientReturned => some (diagnostic .clientOrderIdUsed)
    | some .unknown => some (diagnostic .orderIdentityUnknown)
    | _ => none
  else none

/-! ## One function -/

/-- What is recognised in one function of a route. -/
structure FunctionConcepts where
  trust : List TrustFact
  stateGates : List StateGateFact
  mutations : List MutationFact
  eventIdentity : List EventIdentityFact
  diagnostics : List GraphDiagnosticRecord

/-- The trust facts of a function, with the statement of the handler that stands for each. -/
def routeTrust (models : SymbolId → Option FunctionControlModel) (path : List CallSiteRecord)
    (model : FunctionControlModel) : List TrustFact :=
  (recognizeTrust text model).map fun fact =>
    { fact with routeGuardContext := routeGuardContext text models fact path }

/-- One function of a route. -/
def functionConcepts (route : ReachableRoute) (index : SourceIndexArtifact)
    (models : SymbolId → Option FunctionControlModel) (path : List CallSiteRecord)
    (model : FunctionControlModel) : FunctionConcepts :=
  let trust := routeTrust text models path model
  let stateGates := recognizeStateGates text model
  let mutations := recognizeMutations text model stateGates trust
  { trust := trust
    stateGates := stateGates
    mutations := mutations
    eventIdentity := recognizeEventIdentity text model mutations
    diagnostics := trustCandidateDiagnostics text model route ++
      unresolvedCallDiagnostics text model index ++ unsupportedFlowDiagnostics model ++
      helperDiagnostics route path model trust }

/-! ## The route -/

structure RouteConceptAnalysis where
  ingressKind : Option PaymentIngressKind
  evidenceFamilies : List String
  checkoutRequestBinding : Option CheckoutRequestBinding
  trust : List TrustFact
  eventIdentity : List EventIdentityFact
  stateGates : List StateGateFact
  mutations : List MutationFact
  acknowledgements : List AcknowledgementFact
  callPaths : Dict SymbolId (List CallSiteRecord)
  diagnostics : List GraphDiagnosticRecord

/-- The models of a route in the order of its call paths. -/
def routeModels (paths : Dict SymbolId (List CallSiteRecord)) (project : ParsedProject) :
    List (List CallSiteRecord × FunctionControlModel) :=
  let models := modelsWithForwardedOrigins text paths project
  paths.entries.filterMap fun entry => (models entry.1).map fun model => (entry.2, model)

/-- The concepts of the functions of a route. -/
def routeConcepts (route : ReachableRoute) (index : SourceIndexArtifact) (project : ParsedProject) :
    List FunctionConcepts :=
  let paths := resolvedCallPaths index route.ownerSymbolId project
  (routeModels text paths project).map fun entry =>
    functionConcepts text route index (modelsWithForwardedOrigins text paths project) entry.1 entry.2

/-- The evidence of a webhook, by family. -/
def webhookEvidence (strings : List String) (origins : List ValueOrigin) (trust : List TrustFact)
    (stateGates : List StateGateFact) : List String :=
  (if "x-razorpay-signature" ∈ strings ∧
      trust.any (·.trustKind = .webhookSignatureVerification) = true then
    ["WEBHOOK_SIGNATURE_PIPELINE"] else []) ++
  (if "x-razorpay-event-id" ∈ strings ∨ ValueOrigin.webhookEventId ∈ origins then
    ["WEBHOOK_EVENT_ID"] else []) ++
  (if stateGates.isEmpty then [] else ["PAYMENT_EVENT_BRANCH"])

/-- The checkout identifiers a route names, in order. -/
def observedCheckoutIdentifiers (strings : List String) (origins : List ValueOrigin) :
    List String :=
  checkoutIdentifiers.filter fun name => name ∈ strings ||
    (name = "razorpay_payment_id" && ValueOrigin.checkoutPaymentId ∈ origins) ||
    (name = "razorpay_order_id" && ValueOrigin.clientReturnedOrderId ∈ origins) ||
    (name = "razorpay_signature" && ValueOrigin.checkoutSignature ∈ origins)

/-- The kind of ingress that converging evidence makes a route. -/
def ingressKindOf (method : String) (evidence identifiers : List String)
    (checkoutVerifier : Bool) : Option PaymentIngressKind :=
  if method = "POST" then
    if 2 ≤ evidence.length ∧ ("WEBHOOK_SIGNATURE_PIPELINE" ∈ evidence ∨
        "WEBHOOK_EVENT_ID" ∈ evidence) then some .webhook
    else if identifiers = checkoutIdentifiers ∨ (checkoutVerifier = true ∧
        "razorpay_payment_id" ∈ identifiers ∧ "razorpay_signature" ∈ identifiers) then
      some .checkoutCallback
    else none
  else none

/-- A route with some evidence that is no ingress. -/
def insufficientEvidence (route : ReachableRoute) (ingressKind : Option PaymentIngressKind)
    (evidence identifiers : List String) (webhookVerifier checkoutVerifier : Bool) :
    List GraphDiagnosticRecord :=
  if ingressKind.isNone ∧ (evidence ≠ [] ∨ identifiers ≠ [] ∨ webhookVerifier = true ∨
      checkoutVerifier = true) then
    [{ code := .unresolvedStructuralCandidate
       impact := .notice
       candidateKind := some (if evidence ≠ [] ∨ webhookVerifier = true then .webhookIngress
        else .checkoutCallbackIngress)
       reason := some .insufficientConvergingEvidence
       symbolId := some route.ownerSymbolId
       routeRegistrationId := some route.registration.routeRegistrationId
       sourceLocation := some route.routeLocation }]
  else []

/-- A webhook that observes an event identity and guards nothing with it. -/
def observedOnly (route : ReachableRoute) (ingressKind : Option PaymentIngressKind)
    (observed : Bool) (identities : List EventIdentityFact) : List GraphDiagnosticRecord :=
  if ingressKind = some .webhook ∧ observed = true ∧ identities.isEmpty = true then
    [{ code := .unresolvedStructuralCandidate
       impact := .notice
       candidateKind := some .eventIdentity
       reason := some .eventIdObservedOnly
       symbolId := some route.ownerSymbolId
       routeRegistrationId := some route.registration.routeRegistrationId
       sourceLocation := some route.routeLocation }]
  else []

/-- `analyze_route_concepts`.  How a checkout callback reads its fields is no input of anything
modelled here; `checkoutBinding` stands for `_checkout_request_binding`. -/
def analyzeRouteConcepts (checkoutBinding : FunctionControlModel → Option CheckoutRequestBinding)
    (route : ReachableRoute) (index : SourceIndexArtifact) (project : ParsedProject) :
    RouteConceptAnalysis :=
  let paths := resolvedCallPaths index route.ownerSymbolId project
  let models := routeModels text paths project
  let concepts := routeConcepts text route index project
  let strings := models.flatMap fun entry => allStrings text (.stmt entry.2.function.stmt)
  let origins := models.flatMap fun entry => entry.2.nameOrigins.values
  let trust := concepts.flatMap (·.trust)
  let stateGates := concepts.flatMap (·.stateGates)
  let identities := concepts.flatMap (·.eventIdentity)
  let evidence := webhookEvidence strings origins trust stateGates
  let identifiers := observedCheckoutIdentifiers strings origins
  let webhookVerifier := trust.any (·.trustKind = .webhookSignatureVerification)
  let checkoutVerifier := trust.any (·.trustKind = .checkoutSignatureVerification)
  let ingressKind := ingressKindOf route.registration.method evidence identifiers checkoutVerifier
  let observed := "x-razorpay-event-id" ∈ strings ∨ ValueOrigin.webhookEventId ∈ origins
  { ingressKind := ingressKind
    evidenceFamilies := KeyOrder.sortedByKey id
      (if ingressKind = some .webhook then evidence else identifiers)
    checkoutRequestBinding :=
      if ingressKind = some .checkoutCallback then
        (modelsWithForwardedOrigins text paths project route.ownerSymbolId).bind checkoutBinding
      else none
    trust := trust
    eventIdentity := identities
    stateGates := stateGates
    mutations := concepts.flatMap (·.mutations)
    acknowledgements :=
      if ingressKind = some .webhook then
        ((project.function? route.ownerSymbolId).map (recognizeAcknowledgements text)).getD []
      else []
    callPaths := paths
    diagnostics := concepts.flatMap (·.diagnostics) ++
      insufficientEvidence route ingressKind evidence identifiers webhookVerifier checkoutVerifier ++
      observedOnly route ingressKind observed identities ++
      trust.filterMap (orderDiagnostic route) }

end

/-! ## The functions of a route -/

section

variable {text : BuildText}

/-- Two models of one function, up to the origins its callers pass. -/
structure SameFunction (a b : FunctionControlModel) : Prop where
  symbol : a.symbol = b.symbol
  function : a.function = b.function
  module : a.module = b.module

theorem forwardCall_same {models : SymbolId → Option FunctionControlModel} {callee symbolId : SymbolId}
    {path : List CallSiteRecord} {model : FunctionControlModel}
    (found : forwardCall text models callee path symbolId = some model) :
    ∃ source, models symbolId = some source ∧ SameFunction model source := by
  cases last : path.getLast? with
  | none =>
    simp only [forwardCall, last] at found
    exact ⟨model, found, rfl, rfl, rfl⟩
  | some callSite =>
    cases caller : models callSite.callerSymbolId with
    | none =>
      simp only [forwardCall, last, caller] at found
      exact ⟨model, found, rfl, rfl, rfl⟩
    | some callerModel =>
      cases called : models callee with
      | none =>
        simp only [forwardCall, last, caller, called] at found
        exact ⟨model, found, rfl, rfl, rfl⟩
      | some calleeModel =>
        cases node : callNode callerModel callSite with
        | none =>
          simp only [forwardCall, last, caller, called, node] at found
          exact ⟨model, found, rfl, rfl, rfl⟩
        | some call =>
          simp only [forwardCall, last, caller, called, node] at found
          by_cases here : symbolId = callee
          · rw [here, Function.update_self] at found
            cases found
            exact ⟨calleeModel, here ▸ called, rfl, rfl, rfl⟩
          · rw [Function.update_of_ne here] at found
            exact ⟨model, found, rfl, rfl, rfl⟩

/-- Forwarding changes the origins of a function, nothing else. -/
theorem modelsWithForwardedOrigins_same {paths : Dict SymbolId (List CallSiteRecord)}
    {project : ParsedProject} {symbolId : SymbolId} {model : FunctionControlModel}
    (found : modelsWithForwardedOrigins text paths project symbolId = some model) :
    symbolId ∈ paths.keys ∧
      ∃ source, project.function? symbolId = some source ∧ SameFunction model source := by
  rw [modelsWithForwardedOrigins] at found
  generalize KeyOrder.sortedByKey (fun entry : SymbolId × List CallSiteRecord => entry.2.length)
    paths.entries = entries at found
  generalize start : (fun symbolId => if symbolId ∈ paths.keys then project.function? symbolId
    else none) = models at found
  have initial : ∀ model, models symbolId = some model → symbolId ∈ paths.keys ∧
      ∃ source, project.function? symbolId = some source ∧ SameFunction model source := by
    intro model found
    rw [← start] at found
    dsimp only at found
    split at found
    next known => exact ⟨known, model, found, rfl, rfl, rfl⟩
    next => cases found
  clear start
  induction entries generalizing models with
  | nil => exact initial model found
  | cons entry rest ih =>
    refine ih _ found fun model found => ?_
    obtain ⟨source, known, same⟩ := forwardCall_same found
    obtain ⟨key, original, parsed, same'⟩ := initial source known
    exact ⟨key, original, parsed, same.symbol.trans same'.symbol,
      same.function.trans same'.function, same.module.trans same'.module⟩

/-- The models of a route are parsed functions, under the symbols their paths lead to. -/
theorem exists_of_mem_routeModels {paths : Dict SymbolId (List CallSiteRecord)}
    {project : ParsedProject} {entry : List CallSiteRecord × FunctionControlModel}
    (membership : entry ∈ routeModels text paths project) :
    ∃ source, project.function? entry.2.symbol.symbolId = some source ∧
      SameFunction entry.2 source ∧ paths.get? entry.2.symbol.symbolId = some entry.1 := by
  obtain ⟨⟨symbolId, path⟩, listed, made⟩ := List.mem_filterMap.mp membership
  obtain ⟨model, found, rfl⟩ := Option.map_eq_some_iff.mp made
  obtain ⟨-, source, parsed, same⟩ := modelsWithForwardedOrigins_same found
  have key : model.symbol.symbolId = symbolId := by
    rw [same.symbol]
    exact project.keyed symbolId source parsed
  dsimp only
  rw [key]
  exact ⟨source, parsed, same, Dict.get?_of_mem_entries listed⟩

end

end StateGuard
