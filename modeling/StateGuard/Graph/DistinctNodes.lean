import StateGuard.Graph.Coverage
import StateGuard.Graph.Registrations

/-!
# Distinct nodes

The identity of a node digests its kind, the function, the registration of the route and what is
left of its discriminator (`NodeParts`).  Identities are distinct exactly when these parts are,
and the parts are read off the code one kind of fact at a time: a statement holds at most one
gate, event-identity guard or acknowledgement, a verification is recorded once, and only three
things may coincide (`FactsDistinct`): two registrations of one key, two targets of one carrier in
one assignment, and the binding of an order that is recorded twice.

The graph of a project is built exactly when nothing coincides
(`constructPaymentSafetyGraph_total_iff`).
-/

namespace StateGuard

open Python

/-! ## What identities digest -/

/-- The parts of the identity of a node, besides the registration of its route. -/
structure NodeParts where
  kind : String
  backing : SymbolId
  rest : String

/-- The statement a fact is at, or the end of its function. -/
def factAnchor : RecognizedFact → String
  | .trust fact => fact.context.anchor
  | .eventIdentity fact => fact.context.anchor
  | .stateGate fact => fact.context.anchor
  | .mutation fact => fact.context.anchor
  | .acknowledgement fact => fact.anchor

/-- What tells facts of one kind at one statement apart. -/
def factExtra : RecognizedFact → String
  | .trust fact => ":" ++ fact.trustKind.value
  | .mutation fact => ":" ++ fact.carrierReference
  | _ => ""

/-- The parts of the node of an ingress. -/
def ingressParts (route : ReachableRoute) (kind : PaymentIngressKind) : NodeParts :=
  ⟨"PAYMENT_INGRESS", route.ownerSymbolId, ":" ++ kind.value⟩

/-- The parts of the node of a fact. -/
def factParts (fact : RecognizedFact) : NodeParts :=
  ⟨factKind fact, fact.symbolId, ":" ++ (factAnchor fact ++ factExtra fact)⟩

/-- The parts of the nodes of a route. -/
def routeParts (route : ReachableRoute) (analysis : RouteConceptAnalysis) : List NodeParts :=
  match analysis.ingressKind with
  | none => []
  | some kind => ingressParts route kind :: (routeFacts analysis).map factParts

section

variable (text : BuildText)

/-- What the identity of a node digests. -/
def NodeParts.key (route : ReachableRoute) (parts : NodeParts) : List String :=
  [text.strip parts.kind, text.strip parts.backing,
    text.strip (route.registration.routeRegistrationId ++ parts.rest)]

/-- The identity of a node with some parts. -/
def NodeParts.nodeId (route : ReachableRoute) (parts : NodeParts) : GraphNodeId :=
  text.stableId "sgnode" (parts.key text route)

/-- What the identity of an edge digests. -/
def edgeKey (edge : GraphEdge) : List String :=
  [text.strip edge.kind.value, edge.sourceNodeId, edge.targetNodeId, "0",
    text.strip (branchDiscriminator text edge.branch)]

/-- What the anchors of a function digest. -/
def anchorKeys (model : FunctionControlModel) : List (List String) :=
  [model.symbol.symbolId, "IMPLICIT_RETURN"] :: (model.statements text).map fun context =>
    anchorKey text model.symbol.symbolId context.node context.ordinal

/-- What the carriers of a function digest. -/
def carrierKeys (model : FunctionControlModel) : List (List String) :=
  model.module.moduleStateNames.map fun root => [model.symbol.sourceFileId, text.strip root]

/-- The functions of the indexed symbols. -/
def indexedFunctions (index : SourceIndexArtifact) (project : ParsedProject) :
    List FunctionControlModel :=
  index.symbols.filterMap fun symbol => project.function? symbol.symbolId

variable (checkoutBinding : FunctionControlModel → Option CheckoutRequestBinding)
  (index : SourceIndexArtifact) (project : ParsedProject)

/-- The analysis of a route in the build of a graph. -/
def routeAnalysis (route : ReachableRoute) : RouteConceptAnalysis :=
  analyzeRouteConcepts text checkoutBinding route index (parsedFunctions text index project)

/-- No two digests of a build collide. -/
structure NoCollisions : Prop where
  registrations : DistinctDigests text
    ((effectiveRegistrations text index).map (Registration.key text index))
  anchors : DistinctDigests text ((indexedFunctions index project).flatMap (anchorKeys text))
  carriers : DistinctDigests text ((indexedFunctions index project).flatMap (carrierKeys text))
  nodes : DistinctDigests text ((composeEffectiveRoutes text index).routes.flatMap fun route =>
    (routeParts route (routeAnalysis text checkoutBinding index project route)).map
      (NodeParts.key text route))
  edges : DistinctDigests text
    (((routeGraphs text checkoutBinding index project).flatMap (·.edges)).map (edgeKey text))

end

section

variable {text : BuildText}

@[simp]
theorem ingressNode_nodeId (index : SourceIndexArtifact) (route : ReachableRoute)
    (analysis : RouteConceptAnalysis) (kind : PaymentIngressKind) :
    (ingressNode text index route analysis kind).nodeId =
      (ingressParts route kind).nodeId text route := by
  rw [ingressNode, ingressParts, NodeParts.nodeId, NodeParts.key, BuildText.graphNodeId,
    String.append_assoc]

theorem factNodeId_eq (route : ReachableRoute) (fact : RecognizedFact) :
    factNodeId text route fact = (factParts fact).nodeId text route := by
  cases fact <;>
    simp only [factNodeId, factKind, RecognizedFact.symbolId, factDiscriminator, factParts,
      factAnchor, factExtra, NodeParts.nodeId, NodeParts.key, BuildText.graphNodeId,
      String.append_assoc, String.append_empty]

/-- The identities of the nodes of a route are those of its parts. -/
theorem constructRouteGraph_nodeIds (index : SourceIndexArtifact) (route : ReachableRoute)
    (analysis : RouteConceptAnalysis) :
    (constructRouteGraph text index route analysis).nodes.map (·.nodeId) =
      (routeParts route analysis).map (NodeParts.nodeId text route) := by
  rw [constructRouteGraph, routeParts]
  cases analysis.ingressKind with
  | none => rfl
  | some kind =>
    simp only [List.map_cons, List.map_map, ingressNode_nodeId]
    refine congrArg _ (List.map_congr_left fun fact _ => ?_)
    rw [Function.comp_apply, Function.comp_apply, factNode_nodeId, factNodeId_eq]

/-! ## Well-formed parts -/

/-- A fact whose anchor digests one of some keys, with its symbol first, and whose carrier is a
digest. -/
structure Formed (text : BuildText) (keys : List (List String)) (fact : RecognizedFact) :
    Prop where
  anchored : ∃ key ∈ keys, key.head? = some fact.symbolId ∧
    factAnchor fact = text.structuralAnchor key
  carried : ∀ mutation, fact = .mutation mutation →
    ∃ key, mutation.carrierReference = text.stableId "sgcarrier" key

theorem Formed.mono {keys more : List (List String)} {fact : RecognizedFact}
    (formed : Formed text keys fact) (sub : keys ⊆ more) : Formed text more fact where
  anchored := by
    obtain ⟨key, membership, same⟩ := formed.anchored
    exact ⟨key, sub membership, same⟩
  carried := formed.carried

/-- Facts at one statement are of one function. -/
theorem Formed.symbolId_eq {keys : List (List String)} (distinct : DistinctDigests text keys)
    {a b : RecognizedFact} (formed : Formed text keys a) (otherFormed : Formed text keys b)
    (same : factAnchor a = factAnchor b) : a.symbolId = b.symbolId := by
  obtain ⟨key, membership, head, here⟩ := formed.anchored
  obtain ⟨other, otherMembership, otherHead, there⟩ := otherFormed.anchored
  rw [here, there] at same
  rw [distinct.stableId membership otherMembership same, otherHead] at head
  exact (Option.some.inj head).symm

/-- The registration of a route is a digest. -/
def Registered (text : BuildText) (route : ReachableRoute) : Prop :=
  ∃ key, route.registration.routeRegistrationId = text.stableId "sgroute" key

/-- Parts that `strip` leaves alone. -/
structure NodeParts.Plain (route : ReachableRoute) (parts : NodeParts) : Prop where
  kind : Unpadded parts.kind
  rest : Unpadded (route.registration.routeRegistrationId ++ parts.rest)

theorem TrustGateKind.unpadded_value (kind : TrustGateKind) : Unpadded kind.value := by
  cases kind <;> decide +kernel

theorem PaymentIngressKind.unpadded_value (kind : PaymentIngressKind) : Unpadded kind.value := by
  cases kind <;> decide +kernel

theorem unpadded_factKind (fact : RecognizedFact) : Unpadded (factKind fact) := by
  cases fact <;> simp only [factKind] <;> decide +kernel

variable {route other : ReachableRoute}

theorem Registered.unpadded (standard : text.Standard) (registered : Registered text route) :
    Unpadded route.registration.routeRegistrationId := by
  obtain ⟨key, same⟩ := registered
  rw [same]
  exact standard.unpadded_stableId (by decide +kernel) key

theorem plain_ingressParts (standard : text.Standard) (registered : Registered text route)
    (kind : PaymentIngressKind) : (ingressParts route kind).Plain route where
  kind := by
    show Unpadded "PAYMENT_INGRESS"
    decide +kernel
  rest := by
    rw [ingressParts, ← String.append_assoc]
    exact (registered.unpadded standard).append kind.unpadded_value ":"

theorem plain_factParts (standard : text.Standard) (registered : Registered text route)
    {keys : List (List String)} {fact : RecognizedFact} (formed : Formed text keys fact) :
    (factParts fact).Plain route where
  kind := unpadded_factKind fact
  rest := by
    have start := registered.unpadded standard
    obtain ⟨key, -, -, anchored⟩ := formed.anchored
    have anchor : Unpadded (factAnchor fact) := by
      rw [anchored]
      exact standard.unpadded_stableId (by decide +kernel) key
    have ends : ∀ last, Unpadded last → Unpadded (route.registration.routeRegistrationId ++
        (":" ++ (factAnchor fact ++ (":" ++ last)))) := by
      intro last unpadded
      have whole := start.append unpadded (":" ++ factAnchor fact ++ ":")
      simpa only [String.append_assoc] using whole
    have alone : Unpadded (route.registration.routeRegistrationId ++
        (":" ++ (factAnchor fact ++ ""))) := by
      have whole := start.append anchor ":"
      simpa only [String.append_assoc, String.append_empty] using whole
    cases fact with
    | trust trust => exact ends _ trust.trustKind.unpadded_value
    | mutation mutation =>
      obtain ⟨carrierKey, carrier⟩ := formed.carried mutation rfl
      refine ends _ ?_
      rw [carrier]
      exact standard.unpadded_stableId (by decide +kernel) carrierKey
    | eventIdentity guard => exact alone
    | stateGate gate => exact alone
    | acknowledgement ack => exact alone

/-- Nodes of one identity are of one registration and have one kind and one rest. -/
theorem NodeParts.eq_of_nodeId (standard : text.Standard) {keys : List (List String)}
    (distinct : DistinctDigests text keys) (registered : Registered text route)
    (otherRegistered : Registered text other) {a b : NodeParts} (plain : a.Plain route)
    (otherPlain : b.Plain other) (ma : a.key text route ∈ keys) (mb : b.key text other ∈ keys)
    (same : a.nodeId text route = b.nodeId text other) :
    route.registration.routeRegistrationId = other.registration.routeRegistrationId ∧
      a.kind = b.kind ∧ a.rest = b.rest := by
  have keys := distinct.stableId ma mb same
  simp only [NodeParts.key, List.cons.injEq, and_true] at keys
  obtain ⟨kinds, -, rests⟩ := keys
  rw [standard.strip_unpadded _ plain.kind, standard.strip_unpadded _ otherPlain.kind] at kinds
  rw [standard.strip_unpadded _ plain.rest, standard.strip_unpadded _ otherPlain.rest] at rests
  obtain ⟨key, here⟩ := registered
  obtain ⟨otherKey, there⟩ := otherRegistered
  have length : route.registration.routeRegistrationId.length =
      other.registration.routeRegistrationId.length := by
    rw [here, there]
    exact standard.length_stableId "sgroute" key otherKey
  obtain ⟨registrations, rest⟩ := append_inj_of_length rests length
  exact ⟨registrations, kinds, rest⟩

/-- Facts with one rest are at one statement and are not told apart there. -/
theorem eq_of_factParts_rest (standard : text.Standard) {keys : List (List String)}
    {a b : RecognizedFact} (formed : Formed text keys a) (otherFormed : Formed text keys b)
    (same : (factParts a).rest = (factParts b).rest) :
    factAnchor a = factAnchor b ∧ factExtra a = factExtra b := by
  obtain ⟨-, inner⟩ := append_inj_of_length same rfl
  obtain ⟨key, -, -, here⟩ := formed.anchored
  obtain ⟨otherKey, -, -, there⟩ := otherFormed.anchored
  refine append_inj_of_length inner ?_
  rw [here, there]
  exact standard.length_stableId "sganchor" key otherKey

end

end StateGuard
