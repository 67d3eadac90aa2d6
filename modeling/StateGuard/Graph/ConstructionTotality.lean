import StateGuard.Graph.DistinctFacts
import StateGuard.Graph.Words

/-!
# Totality of the construction

When the graph of a project is built.  The functions of a route are different symbols, so facts of
two functions are apart, and within a function the facts are told apart as `DistinctFacts` says.
Nodes of two routes differ in the registration, and edges of two routes in their sources.  What is
left are the orientations of the edges, and these follow from the facts the edges join.
-/

namespace StateGuard

open Python Checks

/-! ## The functions of a route -/

section

variable {text : BuildText} {checkoutBinding : FunctionControlModel → Option CheckoutRequestBinding}
  {index : SourceIndexArtifact} {project : ParsedProject}

theorem anchorKeys_congr {a b : FunctionControlModel} (same : SameFunction a b) :
    anchorKeys text a = anchorKeys text b := by
  rw [anchorKeys, anchorKeys, FunctionControlModel.statements, FunctionControlModel.statements,
    same.symbol, same.function]

theorem carrierKeys_congr {a b : FunctionControlModel} (same : SameFunction a b) :
    carrierKeys text a = carrierKeys text b := by
  rw [carrierKeys, carrierKeys, same.module, same.symbol]

theorem mem_indexedFunctions_of_restrict {wanted : SymbolId → Bool} {symbolId : SymbolId}
    {model : FunctionControlModel}
    (found : (project.restrict index wanted).function? symbolId = some model) :
    model ∈ indexedFunctions index project := by
  rw [ParsedProject.restrict] at found
  dsimp only at found
  split at found
  next known =>
    obtain ⟨symbol, isSymbol, same⟩ := List.any_eq_true.mp known.2
    refine List.mem_filterMap.mpr ⟨symbol, isSymbol, ?_⟩
    rw [(of_decide_eq_true same).1]
    exact found
  next => cases found

/-- A parsed function is the function of an indexed symbol. -/
theorem mem_indexedFunctions {symbolId : SymbolId} {model : FunctionControlModel}
    (found : (parsedFunctions text index project).function? symbolId = some model) :
    model ∈ indexedFunctions index project :=
  mem_indexedFunctions_of_restrict found

variable {paths : Dict SymbolId (List CallSiteRecord)}
  {entry : List CallSiteRecord × FunctionControlModel}

theorem anchorKeys_subset
    (isModel : entry ∈ routeModels text paths (parsedFunctions text index project)) :
    anchorKeys text entry.2 ⊆ (indexedFunctions index project).flatMap (anchorKeys text) := by
  obtain ⟨source, parsed, same, -⟩ := exists_of_mem_routeModels isModel
  intro key membership
  rw [anchorKeys_congr same] at membership
  exact List.mem_flatMap.mpr ⟨source, mem_indexedFunctions parsed, membership⟩

theorem carrierKeys_subset
    (isModel : entry ∈ routeModels text paths (parsedFunctions text index project)) :
    carrierKeys text entry.2 ⊆ (indexedFunctions index project).flatMap (carrierKeys text) := by
  obtain ⟨source, parsed, same, -⟩ := exists_of_mem_routeModels isModel
  intro key membership
  rw [carrierKeys_congr same] at membership
  exact List.mem_flatMap.mpr ⟨source, mem_indexedFunctions parsed, membership⟩

/-- The functions of a route are different symbols. -/
theorem routeModels_pairwise (parsed : ParsedProject) :
    (routeModels text paths parsed).Pairwise fun a b =>
      a.2.symbol.symbolId ≠ b.2.symbol.symbolId := by
  rw [routeModels]
  refine List.pairwise_filterMap.mpr ((List.pairwise_map.mp paths.nodup).imp ?_)
  intro a b differ first made second otherMade
  obtain ⟨model, found, rfl⟩ := Option.map_eq_some_iff.mp made
  obtain ⟨other, otherFound, rfl⟩ := Option.map_eq_some_iff.mp otherMade
  obtain ⟨-, source, known, same⟩ := modelsWithForwardedOrigins_same found
  obtain ⟨-, otherSource, otherKnown, otherSame⟩ := modelsWithForwardedOrigins_same otherFound
  dsimp only
  rw [same.symbol, otherSame.symbol, parsed.keyed _ _ known, parsed.keyed _ _ otherKnown]
  exact differ

/-! ## Facts of several functions -/

variable {route : ReachableRoute}

/-- Facts of functions that are apart within each function are apart. -/
theorem pairwise_concepts_iff {α : Type} (pick : FunctionConcepts → List α)
    (wrap : α → RecognizedFact)
    (collisions : NoCollisions text checkoutBinding index project)
    (formed : ∀ model path, ∀ fact ∈ pick (functionConcepts text route index
      (modelsWithForwardedOrigins text (resolvedCallPaths index route.ownerSymbolId
        (parsedFunctions text index project)) (parsedFunctions text index project)) path model),
      Formed text (anchorKeys text model) (wrap fact)) :
    ((routeConcepts text route index (parsedFunctions text index project)).flatMap pick).Pairwise
        (fun a b => Apart (wrap a) (wrap b)) ↔
      ∀ entry ∈ routeModels text (resolvedCallPaths index route.ownerSymbolId
          (parsedFunctions text index project)) (parsedFunctions text index project),
        (pick (functionConcepts text route index
          (modelsWithForwardedOrigins text (resolvedCallPaths index route.ownerSymbolId
            (parsedFunctions text index project)) (parsedFunctions text index project))
          entry.1 entry.2)).Pairwise fun a b => Apart (wrap a) (wrap b) := by
  rw [routeConcepts, List.flatMap_map, List.pairwise_flatMap]
  refine and_iff_left ((routeModels_pairwise _).imp_of_mem ?_)
  intro a b isModel isOther differ first inFirst second inSecond
  refine .inl fun same => differ ?_
  have here := formed a.2 a.1 first inFirst
  have there := formed b.2 b.1 second inSecond
  have symbols := (here.mono (anchorKeys_subset isModel)).symbolId_eq collisions.anchors
    (there.mono (anchorKeys_subset isOther)) same
  obtain ⟨key, membership, head, -⟩ := here.anchored
  obtain ⟨other, otherMembership, otherHead, -⟩ := there.anchored
  rw [head?_of_mem_anchorKeys membership] at head
  rw [head?_of_mem_anchorKeys otherMembership] at otherHead
  exact (Option.some.inj head).trans (symbols.trans (Option.some.inj otherHead).symm)

theorem apart_trust_iff {a b : TrustFact} :
    Apart (.trust a) (.trust b) ↔ trustKey a ≠ trustKey b := by
  constructor
  · rintro (anchors | extras) same
    · exact anchors (congrArg Prod.fst same)
    · have kinds : a.trustKind = b.trustKind := congrArg Prod.snd same
      exact extras (by rw [factExtra, factExtra, kinds])
  · intro differ
    by_cases anchors : a.context.anchor = b.context.anchor
    · refine .inr fun extras => differ ?_
      have kinds := TrustGateKind.value_injective (append_inj_of_length extras rfl).2
      rw [trustKey, trustKey, anchors, kinds]
    · exact .inl anchors

/-- The statement that stands for a verification plays no part in what tells it apart. -/
theorem routeTrust_pairwise_iff {models : SymbolId → Option FunctionControlModel}
    {path : List CallSiteRecord} {model : FunctionControlModel} :
    ((routeTrust text models path model).Pairwise fun a b => Apart (.trust a) (.trust b)) ↔
      ((recognizeTrust text model).filter isBinding).Pairwise fun a b =>
        a.context.anchor ≠ b.context.anchor := by
  rw [routeTrust, List.pairwise_map, ← trust_pairwise_iff]
  exact List.Pairwise.iff fun a b => apart_trust_iff

theorem mutationControlled_routeTrust {models : SymbolId → Option FunctionControlModel}
    {path : List CallSiteRecord} {model : FunctionControlModel} (stateGates : List StateGateFact)
    (context : StatementContext) :
    mutationControlled model stateGates (routeTrust text models path model) context =
      mutationControlled model stateGates (recognizeTrust text model) context := by
  rw [mutationControlled, mutationControlled, routeTrust, List.any_map]
  rfl

/-! ## Facts of a route -/

variable (text checkoutBinding index project) in
/-- The functions of a route in the build of a graph. -/
def analysedFunctions (route : ReachableRoute) :
    List (List CallSiteRecord × FunctionControlModel) :=
  routeModels text (resolvedCallPaths index route.ownerSymbolId (parsedFunctions text index project))
    (parsedFunctions text index project)

/-- In the functions of a route no assignment writes two recognised targets of one carrier, and no
binding of an order is recognised twice at one statement. -/
structure DistinctFacts (text : BuildText) (index : SourceIndexArtifact) (project : ParsedProject)
    (route : ReachableRoute) : Prop where
  targets : ∀ entry ∈ analysedFunctions text index project route,
    ∀ context ∈ entry.2.statements text,
      DistinctCarriers text entry.2 (mutationControlled entry.2 (recognizeStateGates text entry.2)
        (recognizeTrust text entry.2) context) context
  bindings : ∀ entry ∈ analysedFunctions text index project route,
    ((recognizeTrust text entry.2).filter isBinding).Pairwise fun a b =>
      a.context.anchor ≠ b.context.anchor

/-- Facts of one kind are apart. -/
def KindApart (a b : RecognizedFact) : Prop := factKind a = factKind b → Apart a b

theorem pairwise_map_kind {α : Type} {wrap : α → RecognizedFact} (kind : String)
    (same : ∀ x, factKind (wrap x) = kind) {items : List α} :
    (items.map wrap).Pairwise KindApart ↔ items.Pairwise fun a b => Apart (wrap a) (wrap b) := by
  rw [List.pairwise_map]
  exact List.Pairwise.iff fun a b => forall_prop_of_true ((same a).trans (same b).symm)

/-- Facts of different kinds are apart. -/
theorem pairwise_append_kind {α : Type} {wrap : α → RecognizedFact} (kind : String)
    (same : ∀ x, factKind (wrap x) = kind) {facts : List RecognizedFact} {items : List α}
    (differ : ∀ fact ∈ facts, factKind fact ≠ kind) :
    (facts ++ items.map wrap).Pairwise KindApart ↔
      facts.Pairwise KindApart ∧ items.Pairwise fun a b => Apart (wrap a) (wrap b) := by
  rw [List.pairwise_append, pairwise_map_kind kind same]
  refine and_congr_right fun _ => and_iff_left ?_
  intro fact earlier other later kinds
  obtain ⟨item, -, rfl⟩ := List.mem_map.mp later
  exact absurd (kinds.trans (same item)) (differ fact earlier)

/-- The acknowledgements of a route are those of its handler. -/
theorem exists_of_mem_acknowledgements {ack : AcknowledgementFact}
    (membership : ack ∈ (routeAnalysis text checkoutBinding index project route).acknowledgements) :
    ∃ model, (parsedFunctions text index project).function? route.ownerSymbolId = some model ∧
      ack ∈ recognizeAcknowledgements text model := by
  simp only [routeAnalysis, analyzeRouteConcepts] at membership
  split at membership
  next =>
    cases found : (parsedFunctions text index project).function? route.ownerSymbolId with
    | none =>
      rw [found] at membership
      cases membership
    | some model =>
      rw [found] at membership
      exact ⟨model, rfl, membership⟩
  next => cases membership

theorem acknowledgements_apart (collisions : NoCollisions text checkoutBinding index project) :
    (routeAnalysis text checkoutBinding index project route).acknowledgements.Pairwise
      fun a b => Apart (.acknowledgement a) (.acknowledgement b) := by
  simp only [routeAnalysis, analyzeRouteConcepts]
  split
  next =>
    cases found : (parsedFunctions text index project).function? route.ownerSymbolId with
    | none => exact List.Pairwise.nil
    | some model =>
      have known : anchorKeys text model ⊆
          (indexedFunctions index project).flatMap (anchorKeys text) := by
        intro key membership
        exact List.mem_flatMap.mpr ⟨model, mem_indexedFunctions found, membership⟩
      exact (acknowledgements_pairwise collisions.anchors known).imp fun differ => .inl differ
  next => exact List.Pairwise.nil

theorem trust_apart_iff (collisions : NoCollisions text checkoutBinding index project) :
    ((routeAnalysis text checkoutBinding index project route).trust.Pairwise
        fun a b => Apart (.trust a) (.trust b)) ↔
      ∀ entry ∈ analysedFunctions text index project route,
        ((recognizeTrust text entry.2).filter isBinding).Pairwise fun a b =>
          a.context.anchor ≠ b.context.anchor := by
  refine (pairwise_concepts_iff (·.trust) .trust collisions ?_).trans
    (forall₂_congr fun entry _ => routeTrust_pairwise_iff)
  intro model path fact membership
  obtain ⟨recognised, isFact, rfl⟩ := List.mem_map.mp membership
  exact ⟨(trust_formed isFact).anchored, fun _ impossible => by cases impossible⟩

theorem mutations_apart_iff (collisions : NoCollisions text checkoutBinding index project) :
    ((routeAnalysis text checkoutBinding index project route).mutations.Pairwise
        fun a b => Apart (.mutation a) (.mutation b)) ↔
      ∀ entry ∈ analysedFunctions text index project route,
        ∀ context ∈ entry.2.statements text,
          DistinctCarriers text entry.2 (mutationControlled entry.2
            (recognizeStateGates text entry.2) (recognizeTrust text entry.2) context) context := by
  refine (pairwise_concepts_iff (·.mutations) .mutation collisions ?_).trans
    (forall₂_congr fun entry isModel => ?_)
  · intro model path fact membership
    exact mutation_formed membership
  · refine (mutations_pairwise_iff collisions.anchors (anchorKeys_subset isModel)
      collisions.carriers (carrierKeys_subset isModel) _ _).trans
      (forall₂_congr fun context _ => ?_)
    rw [mutationControlled_routeTrust]

theorem stateGates_apart (collisions : NoCollisions text checkoutBinding index project) :
    (routeAnalysis text checkoutBinding index project route).stateGates.Pairwise
      fun a b => Apart (.stateGate a) (.stateGate b) := by
  refine (pairwise_concepts_iff (·.stateGates) .stateGate collisions ?_).mpr ?_
  · intro model path fact membership
    exact stateGate_formed membership
  · intro entry isModel
    exact (stateGates_pairwise collisions.anchors (anchorKeys_subset isModel)).imp
      fun differ => .inl differ

theorem eventIdentity_apart (collisions : NoCollisions text checkoutBinding index project) :
    (routeAnalysis text checkoutBinding index project route).eventIdentity.Pairwise
      fun a b => Apart (.eventIdentity a) (.eventIdentity b) := by
  refine (pairwise_concepts_iff (·.eventIdentity) .eventIdentity collisions ?_).mpr ?_
  · intro model path fact membership
    exact eventIdentity_formed membership
  · intro entry isModel
    exact (eventIdentity_pairwise collisions.anchors (anchorKeys_subset isModel) _).imp
      fun differ => .inl differ

/-- The facts of a route are apart when its functions hold distinct facts. -/
theorem routeFacts_pairwise_iff (collisions : NoCollisions text checkoutBinding index project) :
    (routeFacts (routeAnalysis text checkoutBinding index project route)).Pairwise KindApart ↔
      DistinctFacts text index project route := by
  rw [routeFacts, pairwise_append_kind "ACKNOWLEDGEMENT_BOUNDARY" (fun _ => rfl),
    pairwise_append_kind "MERCHANT_STATE_MUTATION" (fun _ => rfl),
    pairwise_append_kind "PAYMENT_STATE_GATE" (fun _ => rfl),
    pairwise_append_kind "EVENT_IDENTITY_GUARD" (fun _ => rfl),
    pairwise_map_kind "TRUST_GATE" (fun _ => rfl),
    trust_apart_iff collisions, mutations_apart_iff collisions]
  · constructor
    · rintro ⟨⟨⟨⟨bindings, -⟩, -⟩, targets⟩, -⟩
      exact ⟨targets, bindings⟩
    · intro distinct
      exact ⟨⟨⟨⟨distinct.bindings, eventIdentity_apart collisions⟩, stateGates_apart collisions⟩,
        distinct.targets⟩, acknowledgements_apart collisions⟩
  -- the facts before are of other kinds
  all_goals
    intro fact membership
    cases fact <;> simp [factKind] at membership ⊢

/-! ## Nodes of a route -/

/-- Every fact of a route has an anchor of one of its functions. -/
theorem routeFacts_formed {fact : RecognizedFact}
    (membership : fact ∈ routeFacts (routeAnalysis text checkoutBinding index project route)) :
    Formed text ((indexedFunctions index project).flatMap (anchorKeys text)) fact := by
  have concept : ∀ {α : Type} (pick : FunctionConcepts → List α) (wrap : α → RecognizedFact),
      (∀ model path, ∀ fact ∈ pick (functionConcepts text route index
        (modelsWithForwardedOrigins text (resolvedCallPaths index route.ownerSymbolId
          (parsedFunctions text index project)) (parsedFunctions text index project)) path model),
        Formed text (anchorKeys text model) (wrap fact)) →
      ∀ item ∈ (routeConcepts text route index (parsedFunctions text index project)).flatMap pick,
        Formed text ((indexedFunctions index project).flatMap (anchorKeys text)) (wrap item) := by
    intro α pick wrap formed item found
    obtain ⟨_, isConcept, picked⟩ := List.mem_flatMap.mp found
    obtain ⟨entry, isModel, rfl⟩ := List.mem_map.mp isConcept
    exact (formed entry.2 entry.1 item picked).mono (anchorKeys_subset isModel)
  simp only [routeFacts, List.mem_append] at membership
  rcases membership with (((trust | guard) | gate) | mutation) | ack
  · obtain ⟨item, isTrust, rfl⟩ := List.mem_map.mp trust
    refine concept (·.trust) .trust (fun model path fact recognised => ?_) item isTrust
    obtain ⟨original, isFact, rfl⟩ := List.mem_map.mp recognised
    exact ⟨(trust_formed isFact).anchored, fun _ impossible => by cases impossible⟩
  · obtain ⟨item, isGuard, rfl⟩ := List.mem_map.mp guard
    exact concept (·.eventIdentity) .eventIdentity
      (fun _ _ _ recognised => eventIdentity_formed recognised) item isGuard
  · obtain ⟨item, isGate, rfl⟩ := List.mem_map.mp gate
    exact concept (·.stateGates) .stateGate
      (fun _ _ _ recognised => stateGate_formed recognised) item isGate
  · obtain ⟨item, isMutation, rfl⟩ := List.mem_map.mp mutation
    exact concept (·.mutations) .mutation
      (fun _ _ _ recognised => mutation_formed recognised) item isMutation
  · obtain ⟨item, isAck, rfl⟩ := List.mem_map.mp ack
    obtain ⟨model, found, recognised⟩ := exists_of_mem_acknowledgements isAck
    refine (acknowledgement_formed recognised).2.mono fun key isKey => ?_
    exact List.mem_flatMap.mpr ⟨model, mem_indexedFunctions found, isKey⟩

/-- An effective route is a registration. -/
theorem exists_registration (isRoute : route ∈ (composeEffectiveRoutes text index).routes) :
    ∃ registration ∈ effectiveRegistrations text index, registration.route text index = route :=
  List.mem_map.mp ((composeEffectiveRoutes_perm text index).mem_iff.mp isRoute)

theorem registered_of_mem (isRoute : route ∈ (composeEffectiveRoutes text index).routes) :
    Registered text route := by
  obtain ⟨registration, -, rfl⟩ := exists_registration isRoute
  exact ⟨_, registration.routeRegistrationId text index⟩

/-- The parts of the nodes of a route are plain, and their keys do not collide. -/
theorem plain_of_mem_routeParts (standard : text.Standard) {parts : NodeParts}
    (isRoute : route ∈ (composeEffectiveRoutes text index).routes)
    (membership : parts ∈ routeParts route
      (routeAnalysis text checkoutBinding index project route)) :
    parts.Plain route ∧ parts.key text route ∈
      (composeEffectiveRoutes text index).routes.flatMap fun route =>
        (routeParts route (routeAnalysis text checkoutBinding index project route)).map
          (NodeParts.key text route) := by
  refine ⟨?_, List.mem_flatMap.mpr ⟨route, isRoute, List.mem_map_of_mem membership⟩⟩
  have registered := registered_of_mem isRoute
  rw [routeParts] at membership
  split at membership
  next => cases membership
  next kind _ =>
    rcases List.mem_cons.mp membership with rfl | later
    · exact plain_ingressParts standard registered kind
    · obtain ⟨fact, isFact, rfl⟩ := List.mem_map.mp later
      exact plain_factParts standard registered (routeFacts_formed isFact)

/-- The nodes of an ingress are distinct when its functions hold distinct facts. -/
theorem routeIds_nodup_iff (standard : text.Standard)
    (collisions : NoCollisions text checkoutBinding index project)
    (isRoute : route ∈ (composeEffectiveRoutes text index).routes) {kind : PaymentIngressKind}
    (ingress : (routeAnalysis text checkoutBinding index project route).ingressKind = some kind) :
    ((routeParts route (routeAnalysis text checkoutBinding index project route)).map
        (NodeParts.nodeId text route)).Nodup ↔ DistinctFacts text index project route := by
  have registered := registered_of_mem isRoute
  have plain : ∀ parts ∈ routeParts route (routeAnalysis text checkoutBinding index project route),
      _ := fun parts => plain_of_mem_routeParts standard isRoute
  have unfolded : routeParts route (routeAnalysis text checkoutBinding index project route) =
      ingressParts route kind ::
        (routeFacts (routeAnalysis text checkoutBinding index project route)).map factParts := by
    rw [routeParts, ingress]
  rw [← routeFacts_pairwise_iff collisions]
  rw [unfolded] at plain ⊢
  have isFirst := plain _ List.mem_cons_self
  have isLater := fun fact membership =>
    plain _ (List.mem_cons_of_mem _ (List.mem_map_of_mem (f := factParts) (a := fact) membership))
  rw [List.Nodup, List.pairwise_map, List.pairwise_cons, List.pairwise_map, and_iff_right]
  · refine List.Pairwise.iff_of_mem fun {a b} inFirst inSecond => ?_
    have formed := routeFacts_formed inFirst
    have otherFormed := routeFacts_formed inSecond
    constructor
    · intro differ kinds
      by_contra together
      simp only [Apart, not_or, not_not] at together
      have symbols := formed.symbolId_eq collisions.anchors otherFormed together.1
      refine differ ?_
      rw [factParts, factParts, kinds, symbols, together.1, together.2]
    · intro apart same
      obtain ⟨-, kinds, rests⟩ := NodeParts.eq_of_nodeId standard collisions.nodes registered
        registered (isLater a inFirst).1 (isLater b inSecond).1 (isLater a inFirst).2
        (isLater b inSecond).2 same
      obtain ⟨anchors, extras⟩ := eq_of_factParts_rest standard formed otherFormed rests
      exact (apart kinds).elim (fun differ => differ anchors) fun differ => differ extras
  · intro parts later same
    obtain ⟨fact, isFact, rfl⟩ := List.mem_map.mp later
    obtain ⟨-, kinds, -⟩ := NodeParts.eq_of_nodeId standard collisions.nodes registered
      registered isFirst.1 (isLater fact isFact).1 isFirst.2 (isLater fact isFact).2 same
    cases fact <;> simp [ingressParts, factParts, factKind] at kinds

/-! ## Nodes of several routes -/

variable (text checkoutBinding index project) in
/-- The identities of the nodes of a route. -/
def routeNodeIds (route : ReachableRoute) : List GraphNodeId :=
  (routeParts route (routeAnalysis text checkoutBinding index project route)).map
    (NodeParts.nodeId text route)

theorem routeGraph_nodeIds :
    (routeGraph text checkoutBinding index (parsedFunctions text index project) route).nodes.map
      (·.nodeId) = routeNodeIds text checkoutBinding index project route :=
  constructRouteGraph_nodeIds index route _

/-- The kind of an ingress is that of its handler and its method. -/
theorem ingressKind_congr {other : ReachableRoute}
    (owner : route.ownerSymbolId = other.ownerSymbolId)
    (method : route.registration.method = other.registration.method) :
    (routeAnalysis text checkoutBinding index project route).ingressKind =
      (routeAnalysis text checkoutBinding index project other).ingressKind := by
  have trust : (routeConcepts text route index (parsedFunctions text index project)).flatMap
        (·.trust) =
      (routeConcepts text other index (parsedFunctions text index project)).flatMap (·.trust) := by
    rw [routeConcepts, routeConcepts, List.flatMap_map, List.flatMap_map, owner]
    rfl
  have gates : (routeConcepts text route index (parsedFunctions text index project)).flatMap
        (·.stateGates) =
      (routeConcepts text other index (parsedFunctions text index project)).flatMap
        (·.stateGates) := by
    rw [routeConcepts, routeConcepts, List.flatMap_map, List.flatMap_map, owner]
    rfl
  simp only [routeAnalysis, analyzeRouteConcepts, owner, method, trust, gates]

variable (text checkoutBinding index project) in
/-- A registration of an ingress. -/
def IsIngress (registration : Registration) : Prop :=
  (routeAnalysis text checkoutBinding index project
    (registration.route text index)).ingressKind.isSome = true

instance (registration : Registration) :
    Decidable (IsIngress text checkoutBinding index project registration) :=
  inferInstanceAs (Decidable (_ = true))

/-- Two registrations share a node exactly when they are ingresses of one key. -/
theorem routeNodeIds_disjoint_iff (standard : text.Standard)
    (collisions : NoCollisions text checkoutBinding index project) {a b : Registration}
    (isFirst : a ∈ effectiveRegistrations text index)
    (isSecond : b ∈ effectiveRegistrations text index) :
    (routeNodeIds text checkoutBinding index project (a.route text index)).Disjoint
        (routeNodeIds text checkoutBinding index project (b.route text index)) ↔
      (IsIngress text checkoutBinding index project a →
        IsIngress text checkoutBinding index project b → a.key text index ≠ b.key text index) := by
  have isRoute : ∀ registration ∈ effectiveRegistrations text index,
      registration.route text index ∈ (composeEffectiveRoutes text index).routes :=
    fun _ membership => (composeEffectiveRoutes_perm text index).mem_iff.mpr
      (List.mem_map_of_mem membership)
  constructor
  · intro disjoint ingress _ same
    obtain ⟨owner, method⟩ := Registration.eq_of_key text index same
    obtain ⟨kind, isKind⟩ := Option.isSome_iff_exists.mp ingress
    have otherKind := isKind
    rw [ingressKind_congr owner method] at otherKind
    have identity : (ingressParts (a.route text index) kind).nodeId text (a.route text index) =
        (ingressParts (b.route text index) kind).nodeId text (b.route text index) := by
      simp only [ingressParts, NodeParts.nodeId, NodeParts.key,
        Registration.routeRegistrationId, owner, same]
    refine disjoint (a := (ingressParts (a.route text index) kind).nodeId text
      (a.route text index)) ?_ ?_
    · rw [routeNodeIds, routeParts, isKind]
      exact List.mem_cons_self
    · rw [identity, routeNodeIds, routeParts, otherKind]
      exact List.mem_cons_self
  · intro differ nodeId inFirst inSecond
    obtain ⟨parts, isPart, rfl⟩ := List.mem_map.mp inFirst
    obtain ⟨other, isOther, same⟩ := List.mem_map.mp inSecond
    have plain := plain_of_mem_routeParts standard (isRoute a isFirst) isPart
    have otherPlain := plain_of_mem_routeParts standard (isRoute b isSecond) isOther
    obtain ⟨registrations, -, -⟩ := NodeParts.eq_of_nodeId standard collisions.nodes
      (registered_of_mem (isRoute a isFirst)) (registered_of_mem (isRoute b isSecond)) plain.1
      otherPlain.1 plain.2 otherPlain.2 same.symm
    have ingress : ∀ {route : ReachableRoute} {parts : NodeParts},
        parts ∈ routeParts route (routeAnalysis text checkoutBinding index project route) →
        (routeAnalysis text checkoutBinding index project route).ingressKind.isSome = true := by
      intro route parts membership
      rw [routeParts] at membership
      split at membership
      next => cases membership
      next kind isKind => rw [isKind]; rfl
    refine differ (ingress isPart) (ingress isOther) ?_
    exact collisions.registrations.stableId (List.mem_map_of_mem isFirst)
      (List.mem_map_of_mem isSecond) registrations

/-- No two registrations of an ingress have one key, and the functions of every ingress hold
distinct facts. -/
structure FactsDistinct (text : BuildText)
    (checkoutBinding : FunctionControlModel → Option CheckoutRequestBinding)
    (index : SourceIndexArtifact) (project : ParsedProject) : Prop where
  registrations : (effectiveRegistrations text index).Pairwise fun a b =>
    IsIngress text checkoutBinding index project a →
      IsIngress text checkoutBinding index project b → a.key text index ≠ b.key text index
  facts : ∀ registration ∈ effectiveRegistrations text index,
    IsIngress text checkoutBinding index project registration →
      DistinctFacts text index project (registration.route text index)

theorem routeNodeIds_nodup_iff (standard : text.Standard)
    (collisions : NoCollisions text checkoutBinding index project)
    (isRoute : route ∈ (composeEffectiveRoutes text index).routes) :
    (routeNodeIds text checkoutBinding index project route).Nodup ↔
      ((routeAnalysis text checkoutBinding index project route).ingressKind.isSome = true →
        DistinctFacts text index project route) := by
  rw [routeNodeIds]
  cases ingress : (routeAnalysis text checkoutBinding index project route).ingressKind with
  | none => simp [routeParts, ingress]
  | some kind =>
    rw [routeIds_nodup_iff standard collisions isRoute ingress]
    simp

/-- The nodes of all routes are distinct exactly when nothing coincides. -/
theorem nodeIds_nodup_iff (standard : text.Standard)
    (collisions : NoCollisions text checkoutBinding index project) :
    ((composeEffectiveRoutes text index).routes.flatMap
        (routeNodeIds text checkoutBinding index project)).Nodup ↔
      FactsDistinct text checkoutBinding index project := by
  have perm := composeEffectiveRoutes_perm text index
  rw [(perm.flatMap_right _).nodup_iff, List.flatMap_map, List.nodup_flatMap]
  have isRoute : ∀ registration ∈ effectiveRegistrations text index,
      registration.route text index ∈ (composeEffectiveRoutes text index).routes :=
    fun _ membership => perm.mem_iff.mpr (List.mem_map_of_mem membership)
  have within : (∀ registration ∈ effectiveRegistrations text index,
      (routeNodeIds text checkoutBinding index project (registration.route text index)).Nodup) ↔
      ∀ registration ∈ effectiveRegistrations text index,
        IsIngress text checkoutBinding index project registration →
          DistinctFacts text index project (registration.route text index) :=
    forall₂_congr fun registration membership =>
      routeNodeIds_nodup_iff standard collisions (isRoute registration membership)
  have across : (effectiveRegistrations text index).Pairwise
      (Function.onFun List.Disjoint fun registration =>
        routeNodeIds text checkoutBinding index project (registration.route text index)) ↔
      (effectiveRegistrations text index).Pairwise fun a b =>
        IsIngress text checkoutBinding index project a →
          IsIngress text checkoutBinding index project b →
            a.key text index ≠ b.key text index :=
    List.Pairwise.iff_of_mem fun isFirst isSecond =>
      routeNodeIds_disjoint_iff standard collisions isFirst isSecond
  rw [within, across]
  exact ⟨fun both => ⟨both.2, both.1⟩, fun distinct => ⟨distinct.facts, distinct.registrations⟩⟩

/-! ## Edges -/

/-- An edge that joins two nodes in the right direction under the identity of its contents. -/
structure Joins (text : BuildText) (nodes : List GraphNode) (edge : GraphEdge) : Prop where
  keyed : edge.edgeId = text.stableId "sgedge" (edgeKey text edge)
  joined : ∃ source ∈ nodes, ∃ target ∈ nodes, source.nodeId = edge.sourceNodeId ∧
    target.nodeId = edge.targetNodeId ∧ edge.kind.joins source.details target.details = true

theorem called_factNode {analysis : RouteConceptAnalysis} {fact : RecognizedFact}
    (work : fact.isWork = true) : (factNode text index route analysis fact).details.called = true := by
  cases fact with
  | acknowledgement ack => cases work
  | _ => rfl

theorem guard_factNode {analysis : RouteConceptAnalysis} {fact : RecognizedFact}
    (guard : fact.isGuard = true) :
    (factNode text index route analysis fact).details.guard = true := by
  cases fact with
  | trust fact => rfl
  | eventIdentity fact => rfl
  | _ => cases guard

theorem branched_factNode {analysis : RouteConceptAnalysis} {fact : RecognizedFact} :
    ((factNode text index route analysis fact).details.called ||
      (factNode text index route analysis fact).details.acknowledgement) = true := by
  cases fact <;> rfl

/-- Every edge of a route joins two of its nodes. -/
theorem joins_of_mem {edge : GraphEdge} (membership : edge ∈
      (constructRouteGraph text index route
        (routeAnalysis text checkoutBinding index project route)).edges) :
    Joins text (constructRouteGraph text index route
      (routeAnalysis text checkoutBinding index project route)).nodes edge := by
  have handler : ∀ ack ∈ (routeAnalysis text checkoutBinding index project route).acknowledgements,
      ack.symbolId = route.ownerSymbolId := by
    intro ack isAck
    obtain ⟨model, found, recognised⟩ := exists_of_mem_acknowledgements isAck
    rw [(acknowledgement_formed recognised).1]
    exact (parsedFunctions text index project).keyed _ _ found
  have listed : ∀ ack, .acknowledgement ack ∈
      routeFacts (routeAnalysis text checkoutBinding index project route) →
      ack ∈ (routeAnalysis text checkoutBinding index project route).acknowledgements := by
    intro ack isFact
    simpa [routeFacts] using isFact
  revert membership
  generalize routeAnalysis text checkoutBinding index project route = analysis at handler listed ⊢
  intro membership
  rw [constructRouteGraph] at membership ⊢
  split at membership
  next => cases membership
  next kind isKind =>
    dsimp only at membership ⊢
    have node : ∀ fact ∈ routeFacts analysis, factNode text index route analysis fact ∈
        ingressNode text index route analysis kind ::
          (routeFacts analysis).map (factNode text index route analysis) :=
      fun fact isFact => List.mem_cons_of_mem _ (List.mem_map_of_mem isFact)
    have made := (mem_of_mem_foldl_appendEdge membership).resolve_left List.not_mem_nil
    simp only [List.mem_append] at made
    rcases made with ((call | guard) | branch) | ack
    · obtain ⟨fact, isFact, found⟩ := List.mem_filterMap.mp call
      split at found
      next => cases found
      next first rest _ =>
        split at found
        next helper =>
          cases found
          refine ⟨rfl, _, List.mem_cons_self, _, node fact isFact, rfl, rfl, ?_⟩
          refine called_factNode ?_
          cases fact with
          | acknowledgement ack => exact absurd (handler ack (listed ack isFact)) helper
          | _ => rfl
        next => cases found
    · obtain ⟨fact, isGuard, found⟩ := List.mem_flatMap.mp guard
      obtain ⟨target, isWork, made⟩ := List.mem_filterMap.mp found
      obtain ⟨inFacts, guarding⟩ := List.mem_filter.mp isGuard
      obtain ⟨inWork, work⟩ := List.mem_filter.mp isWork
      split at made
      next =>
        cases made
        refine ⟨rfl, _, node fact inFacts, _, node target inWork, rfl, rfl, ?_⟩
        exact Bool.and_eq_true_iff.mpr ⟨guard_factNode guarding, called_factNode work⟩
      next => cases made
    · obtain ⟨gate, isGate, found⟩ := List.mem_flatMap.mp branch
      obtain ⟨target, isFact, made⟩ := List.mem_filterMap.mp found
      obtain ⟨details, -, rfl⟩ := Option.map_eq_some_iff.mp made
      have inFacts : .stateGate gate ∈ routeFacts analysis := by
        simpa [routeFacts] using isGate
      refine ⟨rfl, _, node _ inFacts, _, node target isFact, rfl, rfl, ?_⟩
      exact branched_factNode
    · obtain ⟨fact, isAck, found⟩ := List.mem_flatMap.mp ack
      obtain ⟨target, isWork, made⟩ := List.mem_filterMap.mp found
      obtain ⟨inWork, work⟩ := List.mem_filter.mp isWork
      split at made
      next =>
        cases made
        have inFacts : .acknowledgement fact ∈ routeFacts analysis := by
          simpa [routeFacts] using isAck
        refine ⟨rfl, _, node _ inFacts, _, node target inWork, rfl, rfl, ?_⟩
        exact called_factNode work
      next => cases made

/-- The edges of one route are distinct. -/
theorem routeEdges_nodup (analysis : RouteConceptAnalysis) :
    ((constructRouteGraph text index route analysis).edges.map (·.edgeId)).Nodup := by
  rw [constructRouteGraph]
  split
  next => exact List.nodup_nil
  next => exact nodup_foldl_appendEdge List.nodup_nil

/-! ## The record -/

/-- A graph is admitted when identities are distinct and every edge is valid. -/
theorem graphArtifact_isOk_iff {fingerprint : GraphFingerprint} {projectId : ProjectId}
    {sourceIndexFingerprint : Sha256Digest} {diagnostics : List GraphDiagnosticRecord}
    {nodes : List GraphNode} {edges : List GraphEdge} :
    (∃ graph, graphArtifact fingerprint projectId sourceIndexFingerprint diagnostics nodes edges =
        .ok graph) ↔
      (nodes.map (·.nodeId)).Nodup ∧ (edges.map (·.edgeId)).Nodup ∧
        ∀ edge ∈ edges, validateEdge nodes edge = .ok () := by
  rw [← forEach_eq_ok _ _ ()]
  constructor
  · rintro ⟨graph, built⟩
    rw [graphArtifact] at built
    split at built
    next nodesUnique =>
      split at built
      next edgesUnique =>
        split at built
        next valid => exact ⟨nodesUnique, edgesUnique, valid⟩
        next => cases built
      next => cases built
    next => cases built
  · rintro ⟨nodesUnique, edgesUnique, valid⟩
    rw [graphArtifact, dif_pos nodesUnique, dif_pos edgesUnique]
    split
    next => exact ⟨_, rfl⟩
    next message failed =>
      rw [valid] at failed
      cases failed

/-- An edge that joins two nodes is valid among distinct nodes. -/
theorem Joins.valid {nodes : List GraphNode} {edge : GraphEdge} (joins : Joins text nodes edge)
    (distinct : (nodes.map (·.nodeId)).Nodup) : validateEdge nodes edge = .ok () := by
  obtain ⟨source, isSource, target, isTarget, atSource, atTarget, oriented⟩ := joins.joined
  have found := find?_of_distinct distinct isSource
  have otherFound := find?_of_distinct distinct isTarget
  rw [atSource] at found
  rw [atTarget] at otherFound
  rw [validateEdge, nodeById, nodeById, found, otherFound]
  exact raiseIf_of_not (by simp [oriented]) _

theorem Joins.mono {nodes more : List GraphNode} {edge : GraphEdge} (joins : Joins text nodes edge)
    (sub : nodes ⊆ more) : Joins text more edge where
  keyed := joins.keyed
  joined := by
    obtain ⟨source, isSource, target, isTarget, same⟩ := joins.joined
    exact ⟨source, sub isSource, target, sub isTarget, same⟩

/-! ## The graph of a project -/

theorem routeGraphs_nodeIds :
    ((routeGraphs text checkoutBinding index project).flatMap (·.nodes)).map (·.nodeId) =
      (composeEffectiveRoutes text index).routes.flatMap
        (routeNodeIds text checkoutBinding index project) := by
  rw [routeGraphs, List.flatMap_map, List.map_flatMap]
  exact List.flatMap_congr fun route _ => routeGraph_nodeIds

/-- Edges of two routes with different nodes are different. -/
theorem edgeIds_nodup (collisions : NoCollisions text checkoutBinding index project)
    (distinct : ((composeEffectiveRoutes text index).routes.flatMap
      (routeNodeIds text checkoutBinding index project)).Nodup) :
    (((routeGraphs text checkoutBinding index project).flatMap (·.edges)).map
      (·.edgeId)).Nodup := by
  have known := collisions.edges
  rw [routeGraphs, List.flatMap_map] at known ⊢
  rw [List.map_flatMap, List.nodup_flatMap]
  refine ⟨fun route _ => routeEdges_nodup _, ?_⟩
  refine (List.nodup_flatMap.mp distinct).2.imp_of_mem ?_
  intro a b isFirst isSecond apart edgeId inFirst inSecond
  obtain ⟨edge, isEdge, rfl⟩ := List.mem_map.mp inFirst
  obtain ⟨other, isOther, same⟩ := List.mem_map.mp inSecond
  have joins := joins_of_mem isEdge
  have otherJoins := joins_of_mem isOther
  rw [joins.keyed, otherJoins.keyed] at same
  have keys := known.stableId
    (List.mem_map_of_mem (List.mem_flatMap.mpr ⟨b, isSecond, isOther⟩))
    (List.mem_map_of_mem (List.mem_flatMap.mpr ⟨a, isFirst, isEdge⟩)) same
  simp only [edgeKey, List.cons.injEq] at keys
  obtain ⟨source, isSource, -, -, atSource, -⟩ := joins.joined
  obtain ⟨otherSource, isOtherSource, -, -, atOther, -⟩ := otherJoins.joined
  refine apart (a := source.nodeId) ?_ ?_
  · rw [← routeGraph_nodeIds]
    exact List.mem_map_of_mem isSource
  · rw [← routeGraph_nodeIds, atSource, ← keys.2.1, ← atOther]
    exact List.mem_map_of_mem isOtherSource

end

section Example

/-- A digest of 32 hexadecimal digits. -/
def hexDigest (s : String) : String :=
  let code := s.toUTF8.data.toList.foldl (fun code byte => (code * 1000003 + byte.toNat) % 2 ^ 128) 7
  String.ofList ((List.range 32).map fun place => Nat.digitChar (code / 16 ^ place % 16))

/-- Texts with digests of one length. -/
def hexText : BuildText := { plainText with digest := hexDigest }

theorem hexText_standard : hexText.Standard where
  digest_length := by
    intro s
    show (hexDigest s).length = 32
    simp [hexDigest, String.length_ofList]
  digest_alphanum := by
    have digits : ∀ n < 16, (Nat.digitChar n).isAlphanum = true := by decide
    intro s c membership
    simp only [hexText, hexDigest, String.toList_ofList, List.mem_map] at membership
    obtain ⟨place, -, rfl⟩ := membership
    exact digits _ (Nat.mod_lt _ (by decide))
  strip_unpadded := fun _ _ => rfl

/-- `ORDERS["status"] = ORDERS["payment_status"] = payload["event"]`. -/
def recordTwice : Stmt :=
  .assign (node 210 7)
    [.subscript (node 211 7) (named 212 7 "ORDERS") (literal 213 7 "status"),
      .subscript (node 214 7) (named 215 7 "ORDERS") (literal 216 7 "payment_status")]
    (eventOfPayload 217 7)

/-- The index of a handler that calls nothing. -/
def recordingIndex : SourceIndexArtifact := servedIndex [] (by decide)

/-- A handler that records a captured payment. -/
def recordedOnce : ParsedProject :=
  projectOf [deliveringHandler [recordEvent 210 7] (by decide), deliverFunction]

/-- A handler that records a captured payment in two fields at once. -/
def recordedTwice : ParsedProject := projectOf [deliveringHandler [recordTwice] (by decide),
  deliverFunction]

/-- The graph of a project with the handler. -/
def recordingGraph (project : ParsedProject) : Except String PaymentSafetyGraphArtifact :=
  constructPaymentSafetyGraph hexText (fun _ => none) (fun _ _ _ _ _ _ => "graph") recordingIndex
    project

end Example

end StateGuard
