import StateGuard.Graph.RouteAnalysis

/-!
# Construction of the graph

The graph of the routes of the selected application: for every route that is an ingress, a node
for the ingress and one for each recognised fact, and the edges between them.  An edge says that
a fact lies on a call path, that a verification or an event-identity guard guards a fact, that a
fact is in an arm of a branch on the payment state, or that an acknowledgement follows a fact.

The lemmas `exists_of_mem_guardEdges`, `exists_of_mem_branchEdges` say where the edges of a kind
come from.
-/

namespace StateGuard

open Python

/-! ## Facts -/

/-- A fact that becomes a node. -/
inductive RecognizedFact where
  | trust (fact : TrustFact)
  | eventIdentity (fact : EventIdentityFact)
  | stateGate (fact : StateGateFact)
  | mutation (fact : MutationFact)
  | acknowledgement (fact : AcknowledgementFact)

namespace RecognizedFact

def symbolId : RecognizedFact → SymbolId
  | trust fact => fact.symbolId
  | eventIdentity fact => fact.symbolId
  | stateGate fact => fact.symbolId
  | mutation fact => fact.symbolId
  | acknowledgement fact => fact.symbolId

def location : RecognizedFact → SourceLocation
  | trust fact => fact.location
  | eventIdentity fact => fact.location
  | stateGate fact => fact.location
  | mutation fact => fact.location
  | acknowledgement fact => fact.location

/-- `_fact_context`. -/
def context? : RecognizedFact → Option StatementContext
  | trust fact => some fact.context
  | eventIdentity fact => some fact.context
  | stateGate fact => some fact.context
  | mutation fact => some fact.context
  | acknowledgement fact => fact.context

/-- The facts that something may guard, and that an acknowledgement may follow. -/
def isWork : RecognizedFact → Bool
  | acknowledgement _ => false
  | _ => true

/-- The facts that guard others. -/
def isGuard : RecognizedFact → Bool
  | trust _ | eventIdentity _ => true
  | _ => false

end RecognizedFact

/-- The statements of an acknowledgement and of a mutation state, as they are spelled. -/
def AcknowledgementOutcome.value : AcknowledgementOutcome → String
  | .success2xx => "SUCCESS_2XX"
  | .nonSuccess => "NON_SUCCESS"
  | .unknown => "UNKNOWN"

def MerchantMutationKind.value : MerchantMutationKind → String
  | .attributeWrite => "ATTRIBUTE_WRITE"
  | .subscriptWrite => "SUBSCRIPT_WRITE"
  | .merchantHelper => "MERCHANT_HELPER"

def PaymentStateOperator.value : PaymentStateOperator → String
  | .equals => "EQUALS"
  | .notEquals => "NOT_EQUALS"
  | .isIn => "IN"
  | .notIn => "NOT_IN"
  | .matchCase => "MATCH_CASE"
  | .compound => "COMPOUND"

def PaymentIngressKind.value : PaymentIngressKind → String
  | .webhook => "WEBHOOK"
  | .checkoutCallback => "CHECKOUT_CALLBACK"

def TrustGateKind.value : TrustGateKind → String
  | .webhookSignatureVerification => "WEBHOOK_SIGNATURE_VERIFICATION"
  | .checkoutSignatureVerification => "CHECKOUT_SIGNATURE_VERIFICATION"
  | .serverOrderIdentityBinding => "SERVER_ORDER_IDENTITY_BINDING"

/-- The rule a trust gate is recognised by. -/
def TrustGateKind.ruleId : TrustGateKind → String
  | .webhookSignatureVerification => "SG-AST-WEBHOOK-SIGNATURE-001"
  | .checkoutSignatureVerification => "SG-AST-CHECKOUT-SIGNATURE-001"
  | .serverOrderIdentityBinding => "SG-AST-SERVER-ORDER-BINDING-001"

def GraphEdgeKind.value : GraphEdgeKind → String
  | .calls => "CALLS"
  | .guards => "GUARDS"
  | .branchesTo => "BRANCHES_TO"
  | .mutates => "MUTATES"
  | .triggers => "TRIGGERS"
  | .acknowledgesAfter => "ACKNOWLEDGES_AFTER"

section

variable (text : BuildText) (index : SourceIndexArtifact)

/-! ## Provenance -/

/-- `_provenance`. -/
def provenance (reference : String) (location : Option SourceLocation) : ProvenanceRecord where
  kind := .static
  reference := reference
  sourceLocation := location
  supportingFingerprint := some index.sourceIndexFingerprint

/-- `_ordered`, for provenance. -/
def orderedProvenance (records : List ProvenanceRecord) : List ProvenanceRecord :=
  KeyOrder.sortedByKey text.provenanceJson records

/-- The calls of one caller with one callee and one spelling, by the JSON text of their place. -/
def callSitePeers (callSite : CallSiteRecord) : List CallSiteRecord :=
  KeyOrder.sortedByKey (fun call => text.locationJson call.sourceLocation)
    (index.callSites.filter fun call => call.callerSymbolId = callSite.callerSymbolId ∧
      call.calleeSymbolId = callSite.calleeSymbolId ∧
      call.calleeReference = callSite.calleeReference)

/-- The ordinal of a call among its peers. -/
def callSiteOrdinal (callSite : CallSiteRecord) : Nat :=
  ((callSitePeers text index callSite).map (·.sourceLocation)).idxOf callSite.sourceLocation

/-- `_call_site_reference`. -/
def callSiteReference (callSite : CallSiteRecord) : String :=
  "call-site:" ++ callSite.callerSymbolId ++ ":" ++ toString (callSiteOrdinal text index callSite)

/-- The provenance of a call path. -/
def pathProvenance (path : List CallSiteRecord) : List ProvenanceRecord :=
  path.map fun call => provenance index (callSiteReference text index call)
    (some call.sourceLocation)

/-- `_node_provenance`. -/
def nodeProvenance (route : ReachableRoute) (symbolId : SymbolId) (location : SourceLocation)
    (ruleId anchor : String) (path : List CallSiteRecord) : List ProvenanceRecord :=
  orderedProvenance text
    ([provenance index ("route-registration:" ++ route.registration.routeRegistrationId)
        (some route.routeLocation),
      provenance index ("symbol:" ++ symbolId) (some location),
      provenance index ("ast-fact:" ++ ruleId ++ ":node:" ++ anchor) (some location)] ++
      pathProvenance text index path)

/-! ## Nodes -/

/-- `_ingress_node`. -/
def ingressNode (route : ReachableRoute) (analysis : RouteConceptAnalysis)
    (kind : PaymentIngressKind) : GraphNode where
  nodeId := text.graphNodeId "PAYMENT_INGRESS" route.ownerSymbolId
    (route.registration.routeRegistrationId ++ ":" ++ kind.value)
  label := kind.value ++ " " ++ route.registration.method ++ " " ++ route.registration.effectivePath
  backingSymbolId := route.ownerSymbolId
  details := .paymentIngress
    { ingressKind := kind
      registration := route.registration
      evidenceFamilies := analysis.evidenceFamilies
      checkoutRequestBinding := analysis.checkoutRequestBinding }
  provenance := orderedProvenance text
    ([provenance index ("route-registration:" ++ route.registration.routeRegistrationId)
        (some route.routeLocation),
      provenance index ("symbol:" ++ route.ownerSymbolId) (some route.routeLocation)] ++
      ((route.includeLocations.zip route.includeAnchors).zipIdx.map fun entry =>
        provenance index ("ast-fact:FASTAPI_ROUTER_INCLUDE:registration:" ++
          text.structuralAnchor [route.registration.routeRegistrationId, entry.1.2,
            toString entry.2]) (some entry.1.1)) ++
      (analysis.evidenceFamilies.map fun family =>
        provenance index ("source-reference:ingress-evidence:" ++ family)
          (some route.routeLocation)))

/-- The discriminator of a fact among the nodes of its kind and symbol. -/
def factDiscriminator (route : ReachableRoute) : RecognizedFact → String
  | .trust fact => route.registration.routeRegistrationId ++ ":" ++ fact.context.anchor ++ ":" ++
      fact.trustKind.value
  | .eventIdentity fact => route.registration.routeRegistrationId ++ ":" ++ fact.context.anchor
  | .stateGate fact => route.registration.routeRegistrationId ++ ":" ++ fact.context.anchor
  | .mutation fact => route.registration.routeRegistrationId ++ ":" ++ fact.context.anchor ++ ":" ++
      fact.carrierReference
  | .acknowledgement fact => route.registration.routeRegistrationId ++ ":" ++ fact.anchor

/-- The node kind of a fact. -/
def factKind : RecognizedFact → String
  | .trust _ => "TRUST_GATE"
  | .eventIdentity _ => "EVENT_IDENTITY_GUARD"
  | .stateGate _ => "PAYMENT_STATE_GATE"
  | .mutation _ => "MERCHANT_STATE_MUTATION"
  | .acknowledgement _ => "ACKNOWLEDGEMENT_BOUNDARY"

/-- The identity of the node of a fact. -/
def factNodeId (route : ReachableRoute) (fact : RecognizedFact) : GraphNodeId :=
  text.graphNodeId (factKind fact) fact.symbolId (factDiscriminator route fact)

/-- `_trust_node`. -/
def trustNode (route : ReachableRoute) (fact : TrustFact) (path : List CallSiteRecord) :
    GraphNode where
  nodeId := factNodeId text route (.trust fact)
  label := fact.trustKind.value
  backingSymbolId := fact.symbolId
  details := .trustGate
    { trustKind := fact.trustKind
      routeRegistrationId := route.registration.routeRegistrationId
      structuralAnchor := fact.context.anchor
      webhookBodyOrigin := fact.webhookBodyOrigin
      orderIdentityOrigin := fact.orderIdentityOrigin }
  provenance := nodeProvenance text index route fact.symbolId fact.location fact.trustKind.ruleId
    fact.context.anchor path

/-- `_event_node`. -/
def eventNode (route : ReachableRoute) (fact : EventIdentityFact) (path : List CallSiteRecord) :
    GraphNode where
  nodeId := factNodeId text route (.eventIdentity fact)
  label := "Webhook event identity guard"
  backingSymbolId := fact.symbolId
  details := .eventIdentityGuard
    { routeRegistrationId := route.registration.routeRegistrationId
      structuralAnchor := fact.context.anchor
      strategy := fact.strategy }
  provenance := nodeProvenance text index route fact.symbolId fact.location
    "SG-AST-EVENT-IDENTITY-GUARD-001" fact.context.anchor path

/-- `_state_node`. -/
def stateNode (route : ReachableRoute) (fact : StateGateFact) (path : List CallSiteRecord) :
    GraphNode where
  nodeId := factNodeId text route (.stateGate fact)
  label := "Payment state " ++ fact.operator.value ++ ": " ++ String.intercalate ", " fact.states
  backingSymbolId := fact.symbolId
  details := .paymentStateGate
    { routeRegistrationId := route.registration.routeRegistrationId
      structuralAnchor := fact.context.anchor
      operator := fact.operator
      states := fact.states }
  provenance := nodeProvenance text index route fact.symbolId fact.location
    "SG-AST-PAYMENT-STATE-GATE-001" fact.context.anchor path

/-- `_mutation_node`. -/
def mutationNode (route : ReachableRoute) (fact : MutationFact) (path : List CallSiteRecord) :
    GraphNode where
  nodeId := factNodeId text route (.mutation fact)
  label := "Merchant payment state " ++ fact.mutationKind.value
  backingSymbolId := fact.symbolId
  details := .merchantStateMutation
    { routeRegistrationId := route.registration.routeRegistrationId
      structuralAnchor := fact.context.anchor
      mutationKind := fact.mutationKind
      carrierReference := fact.carrierReference
      assignedPaymentState := fact.assignedPaymentState }
  provenance := orderedProvenance text
    (nodeProvenance text index route fact.symbolId fact.location "SG-AST-MERCHANT-MUTATION-001"
        fact.context.anchor path ++
      [provenance index ("ast-fact:SG-AST-MERCHANT-CARRIER-001:carrier:" ++ fact.carrierReference)
        (some fact.location)])

/-- `_ack_node`. -/
def ackNode (route : ReachableRoute) (fact : AcknowledgementFact) : GraphNode where
  nodeId := factNodeId text route (.acknowledgement fact)
  label := "Webhook acknowledgement " ++ fact.outcome.value
  backingSymbolId := fact.symbolId
  details := .acknowledgementBoundary
    { routeRegistrationId := route.registration.routeRegistrationId
      structuralAnchor := fact.anchor
      exitKind := fact.exitKind
      statusCode := fact.statusCode
      outcome := fact.outcome }
  provenance := nodeProvenance text index route fact.symbolId fact.location
    "SG-AST-ACKNOWLEDGEMENT-001" fact.anchor []

/-- The call path to the function of a fact. -/
def pathOf (analysis : RouteConceptAnalysis) (symbolId : SymbolId) : List CallSiteRecord :=
  (analysis.callPaths.get? symbolId).getD []

/-- The node of a fact. -/
def factNode (route : ReachableRoute) (analysis : RouteConceptAnalysis) :
    RecognizedFact → GraphNode
  | .trust fact => trustNode text index route fact (pathOf analysis fact.symbolId)
  | .eventIdentity fact => eventNode text index route fact (pathOf analysis fact.symbolId)
  | .stateGate fact => stateNode text index route fact (pathOf analysis fact.symbolId)
  | .mutation fact => mutationNode text index route fact (pathOf analysis fact.symbolId)
  | .acknowledgement fact => ackNode text index route fact

/-- The facts of a route, in the order of their nodes. -/
def routeFacts (analysis : RouteConceptAnalysis) : List RecognizedFact :=
  analysis.trust.map .trust ++ analysis.eventIdentity.map .eventIdentity ++
    analysis.stateGates.map .stateGate ++ analysis.mutations.map .mutation ++
    analysis.acknowledgements.map .acknowledgement

@[simp]
theorem factNode_nodeId (route : ReachableRoute) (analysis : RouteConceptAnalysis)
    (fact : RecognizedFact) :
    (factNode text index route analysis fact).nodeId = factNodeId text route fact := by
  cases fact <;> rfl

/-! ## Edges -/

/-- `_edge_provenance`. -/
def edgeProvenance (reference : String) (location : SourceLocation) (path : List CallSiteRecord) :
    List ProvenanceRecord :=
  orderedProvenance text (provenance index reference (some location) :: pathProvenance text index path)

/-- What an edge is made from. -/
structure EdgeRequest where
  source : GraphNode
  target : GraphNode
  reference : String
  location : SourceLocation
  path : List CallSiteRecord := []

/-- The JSON text of the branch of an edge. -/
def branchDiscriminator (branch : Option GraphBranchDetails) : String :=
  (branch.map text.branchJson).getD ""

/-- The edge `_append_edge` makes. -/
def edgeOf (kind : GraphEdgeKind) (branch : Option GraphBranchDetails)
    (branchOnlyOnBranches : kind = .branchesTo ↔ branch.isSome) (request : EdgeRequest) :
    GraphEdge where
  edgeId := text.graphEdgeId kind.value request.source.nodeId request.target.nodeId
    (branchDiscriminator text branch)
  sourceNodeId := request.source.nodeId
  targetNodeId := request.target.nodeId
  kind := kind
  branch := branch
  provenance := edgeProvenance text index
    (request.reference ++ ":relationship:" ++
      text.structuralAnchor [kind.value, request.source.nodeId, request.target.nodeId,
        request.reference, branchDiscriminator text branch])
    request.location request.path
  branchOnlyOnBranches := branchOnlyOnBranches

/-- Append an edge unless its identity is taken. -/
def appendEdge (edges : List GraphEdge) (edge : GraphEdge) : List GraphEdge :=
  if edge.edgeId ∈ edges.map (·.edgeId) then edges else edges ++ [edge]

variable (route : ReachableRoute) (analysis : RouteConceptAnalysis)

/-- The calls from the ingress to the facts of helpers. -/
def callEdges (ingress : GraphNode) (facts : List RecognizedFact) : List GraphEdge :=
  facts.filterMap fun fact =>
    match pathOf analysis fact.symbolId with
    | [] => none
    | first :: rest =>
      if fact.symbolId ≠ route.ownerSymbolId then
        some (edgeOf text index .calls none GraphEdgeKind.calls_unbranched
          { source := ingress
            target := factNode text index route analysis fact
            reference := "ast-fact:RESOLVED_MERCHANT_CALL_PATH"
            location := first.sourceLocation
            path := first :: rest })
      else none

/-- The statement that stands for a guard where a target is, and whether it stands in a caller. -/
def guardContext (guard target : RecognizedFact) : Option StatementContext × Bool :=
  match guard with
  | .trust fact =>
    if fact.symbolId ≠ target.symbolId ∧ fact.routeGuardContext.isSome = true ∧
        target.symbolId = route.ownerSymbolId then (fact.routeGuardContext, true)
    else (some fact.context, false)
  | other => (other.context?, false)

/-- Whether a guard guards a target. -/
def guards (guard target : RecognizedFact) : Bool :=
  factNodeId text route guard ≠ factNodeId text route target &&
    match (guardContext route guard target).1, target.context? with
    | some source, some context => contextDominates source context
    | _, _ => false

/-- The guards of the facts. -/
def guardEdges (facts : List RecognizedFact) : List GraphEdge :=
  (facts.filter RecognizedFact.isGuard).flatMap fun guard =>
    (facts.filter RecognizedFact.isWork).filterMap fun target =>
      if guards text route guard target then
        some (edgeOf text index .guards none (by simp)
          { source := factNode text index route analysis guard
            target := factNode text index route analysis target
            reference := "ast-fact:CONTROL_DOMINANCE"
            location := guard.location
            path := if (guardContext route guard target).2 then pathOf analysis guard.symbolId
              else [] })
      else none

/-- The arm of a state gate a fact is in. -/
def branchOf (gate : StateGateFact) (target : RecognizedFact) : Option GraphBranchDetails :=
  if factNodeId text route (.stateGate gate) = factNodeId text route target then none
  else (target.context?.bind (branchControls gate.context)).map fun branch =>
    { disposition := branch.disposition
      states := if branch.disposition = .matched then gate.states else [] }

/-- The arms the facts are in. -/
def branchEdges (facts : List RecognizedFact) : List GraphEdge :=
  analysis.stateGates.flatMap fun gate =>
    facts.filterMap fun target =>
      (branchOf text route gate target).map fun branch =>
        edgeOf text index .branchesTo (some branch) (by simp)
          { source := factNode text index route analysis (.stateGate gate)
            target := factNode text index route analysis target
            reference := "ast-fact:PAYMENT_STATE_BRANCH_CONTROL"
            location := gate.location }

/-- Whether an acknowledgement follows a fact. -/
def acknowledges (ack : AcknowledgementFact) (target : RecognizedFact) : Bool :=
  match target.context? with
  | none => false
  | some work =>
    match ack.context with
    | some context => contextDominates work context
    | none => work.symbolId = route.ownerSymbolId && work.ancestors.isEmpty

/-- The acknowledgements that follow the facts. -/
def ackEdges (facts : List RecognizedFact) : List GraphEdge :=
  analysis.acknowledgements.flatMap fun ack =>
    (facts.filter RecognizedFact.isWork).filterMap fun target =>
      if acknowledges route ack target then
        some (edgeOf text index .acknowledgesAfter none GraphEdgeKind.acknowledgesAfter_unbranched
          { source := factNode text index route analysis (.acknowledgement ack)
            target := factNode text index route analysis target
            reference := "ast-fact:EXIT_DOMINANCE"
            location := ack.location })
      else none

/-! ## The graph of a route -/

/-- The diagnostics of verifications that come after a mutation. -/
def lateVerificationDiagnostics : List GraphDiagnosticRecord :=
  analysis.trust.filterMap fun fact =>
    if analysis.mutations.any (fun mutation => mutation.symbolId = fact.symbolId &&
        mutation.location.lineStart < fact.location.lineStart) then
      some
        { code := .unresolvedStructuralCandidate
          impact := .notice
          candidateKind := some .webhookSignature
          reason := some .validationAfterMutation
          symbolId := some fact.symbolId
          routeRegistrationId := some route.registration.routeRegistrationId
          sourceLocation := some fact.location }
    else none

/-- A recognised fact in a loop. -/
def loopDiagnostics : List GraphDiagnosticRecord :=
  if (routeFacts analysis).any fun fact => fact.context?.any (·.inLoop) then
    [{ code := .controlFlowUnsupported
       impact := .coverageReduced
       sourceLocation := some route.routeLocation }]
  else []

/-- What a route adds to the graph. -/
structure RouteGraph where
  nodes : List GraphNode
  edges : List GraphEdge
  diagnostics : List GraphDiagnosticRecord

/-- `_construct_route_graph`. -/
def constructRouteGraph : RouteGraph :=
  match analysis.ingressKind with
  | none => ⟨[], [], analysis.diagnostics⟩
  | some kind =>
    let ingress := ingressNode text index route analysis kind
    let facts := routeFacts analysis
    { nodes := ingress :: facts.map (factNode text index route analysis)
      edges := (callEdges text index route analysis ingress facts ++
        guardEdges text index route analysis facts ++
        branchEdges text index route analysis facts ++
        ackEdges text index route analysis facts).foldl appendEdge []
      diagnostics := analysis.diagnostics ++ lateVerificationDiagnostics route analysis ++
        loopDiagnostics route analysis }

end

/-! ## Where the edges come from -/

section

variable {text : BuildText} {index : SourceIndexArtifact} {route : ReachableRoute}
  {analysis : RouteConceptAnalysis}

theorem mem_of_mem_foldl_appendEdge {edges more : List GraphEdge} {edge : GraphEdge}
    (membership : edge ∈ more.foldl appendEdge edges) : edge ∈ edges ∨ edge ∈ more := by
  induction more generalizing edges with
  | nil => exact .inl membership
  | cons first rest ih =>
    rcases ih membership with earlier | later
    · rw [appendEdge] at earlier
      split at earlier
      next => exact .inl earlier
      next =>
        rcases List.mem_append.mp earlier with old | new
        · exact .inl old
        · exact .inr (List.mem_cons.mpr (.inl (List.mem_singleton.mp new)))
    · exact .inr (List.mem_cons_of_mem _ later)

/-- The identities of appended edges are distinct. -/
theorem nodup_foldl_appendEdge {edges more : List GraphEdge}
    (distinct : (edges.map (·.edgeId)).Nodup) :
    ((more.foldl appendEdge edges).map (·.edgeId)).Nodup := by
  induction more generalizing edges with
  | nil => exact distinct
  | cons first rest ih =>
    refine ih ?_
    rw [appendEdge]
    split
    next => exact distinct
    next fresh =>
      rw [List.map_append]
      refine distinct.append (List.nodup_singleton _) ?_
      simpa [List.disjoint_right] using fresh

/-- A guard edge joins a guard to a fact it dominates. -/
theorem exists_of_mem_guardEdges {facts : List RecognizedFact} {edge : GraphEdge}
    (membership : edge ∈ guardEdges text index route analysis facts) :
    ∃ guard ∈ facts, ∃ target ∈ facts, guard.isGuard = true ∧
      guards text route guard target = true ∧
      edge.sourceNodeId = factNodeId text route guard ∧
      edge.targetNodeId = factNodeId text route target := by
  obtain ⟨guard, inGuards, found⟩ := List.mem_flatMap.mp membership
  obtain ⟨target, inWork, made⟩ := List.mem_filterMap.mp found
  obtain ⟨inFacts, isGuard⟩ := List.mem_filter.mp inGuards
  split at made
  next guarded =>
    cases made
    exact ⟨guard, inFacts, target, List.mem_of_mem_filter inWork, isGuard, guarded,
      factNode_nodeId .., factNode_nodeId ..⟩
  next => cases made

/-- A branch edge joins a state gate to a fact in one of its arms. -/
theorem exists_of_mem_branchEdges {facts : List RecognizedFact} {edge : GraphEdge}
    (membership : edge ∈ branchEdges text index route analysis facts) :
    ∃ gate ∈ analysis.stateGates, ∃ target ∈ facts, ∃ branch,
      branchOf text route gate target = some branch ∧ edge.branch = some branch ∧
      edge.sourceNodeId = factNodeId text route (.stateGate gate) ∧
      edge.targetNodeId = factNodeId text route target := by
  obtain ⟨gate, inGates, found⟩ := List.mem_flatMap.mp membership
  obtain ⟨target, inFacts, made⟩ := List.mem_filterMap.mp found
  obtain ⟨branch, controls, same⟩ := Option.map_eq_some_iff.mp made
  cases same
  exact ⟨gate, inGates, target, inFacts, branch, controls, rfl, factNode_nodeId ..,
    factNode_nodeId ..⟩

end

end StateGuard
