import StateGuard.Graph.ProjectionLocality
import StateGuard.Graph.ValueBranches
import StateGuard.Library.JsonText

/-!
# Policy evidence is local

The evidence of a merchant policy is made of the controls, of the branches into the customer value
and of the diagnostics, each in an order that is that of their texts.  The text of a control holds
the fingerprint of the resolution and an identity that is made of it, but it begins with the call
path and the identity of the edge (`controlHead`), which no two controls of a graph share.  So the
order of the controls does not depend on the resolution (`normalControls_core`), and the
fingerprints of the evidence do not either (`policyFingerprints_local`).
-/

namespace StateGuard

open Checks (eq_ok_of_mem_toOption)
open Insertion JsonText KeyOrder

/-! ## The text of a control -/

/-- What the text of a control begins with: its first two keys. -/
def controlHead (callPathReferences : List String) (connectivityEdgeId : GraphEdgeId) :
    List Char :=
  "\x7b\"call_path_references\":".toList ++ array callPathReferences ++
    (",\"connectivity_edge_id\":".toList ++ quote connectivityEdgeId)

/-- A key of a record and its text. -/
def fieldText (key value : String) : List Char :=
  ",\"".toList ++ key.toList ++ "\":".toList ++ quote value

/-- `canonical_json` of a control. -/
def canonicalControl (control : NormalControlInstance) : String :=
  String.ofList (controlHead control.callPathReferences control.connectivityEdgeId ++
    (fieldText "control_id" control.controlId ++
      fieldText "customer_value_node_id" control.customerValueNodeId ++
      fieldText "customer_value_symbol_id" control.customerValueSymbolId ++
      fieldText "ingress_kind" control.ingressKind.value ++
      fieldText "ingress_node_id" control.ingressNodeId ++
      fieldText "route_registration_id" control.routeRegistrationId ++
      fieldText "semantic_resolution_fingerprint" control.semanticResolutionFingerprint ++
      "\x7d".toList))

theorem selfDelimiting_controlHead :
    SelfDelimiting fun head : List String × GraphEdgeId => controlHead head.1 head.2 := by
  -- For any two keys: what they are is not to be computed.
  have keyed : ∀ first second : List Char, SelfDelimiting fun head : List String × GraphEdgeId =>
      first ++ array head.1 ++ (second ++ quote head.2) := by
    rintro first second ⟨path, edge⟩ ⟨path', edge'⟩ x y same
    simp only [List.append_assoc, List.append_right_inj] at same
    obtain ⟨rfl, later⟩ := selfDelimiting_array _ _ _ _ same
    rw [List.append_right_inj] at later
    obtain ⟨rfl, rest⟩ := selfDelimiting_quote _ _ _ _ later
    exact ⟨rfl, rest⟩
  exact keyed _ _

/-! ## The controls of a projected graph -/

/-- What the policy evidence and the order of the controls take of a control. -/
def controlCore (control : NormalControlInstance) : PolicyControlEvidence × GraphEdgeId :=
  (policyControlEvidence control, control.connectivityEdgeId)

/-- What the text of a control begins with, as far as it is ordered by. -/
def coreText (core : PolicyControlEvidence × GraphEdgeId) : String :=
  String.ofList (controlHead core.1.callPathReferences core.2)

/-- Controls of different edges are in the order of what their texts begin with. -/
theorem canonicalControl_le_iff {a b : NormalControlInstance}
    (different : a.connectivityEdgeId ≠ b.connectivityEdgeId) :
    canonicalControl a ≤ canonicalControl b ↔
      coreText (controlCore a) ≤ coreText (controlCore b) := by
  rw [String.le_iff_toList_le, String.le_iff_toList_le]
  simp only [canonicalControl, coreText, String.toList_ofList]
  exact selfDelimiting_controlHead.append_le_append_iff
    (a := (a.callPathReferences, a.connectivityEdgeId))
    (b := (b.callPathReferences, b.connectivityEdgeId))
    (fun same => different (congrArg Prod.snd same)) _ _

/-- The selected action is the one node of its kind. -/
structure SoleAction (graph : PaymentSafetyGraphArtifact) (customerNode : GraphNode)
    (selected : SymbolId) : Prop where
  isNode : customerNode ∈ graph.nodes
  isAction : customerNode.details = .customerValueAction
  isSelected : customerNode.backingSymbolId = selected
  sole : ∀ node ∈ graph.nodes, node.details = .customerValueAction → node = customerNode

section

variable {hashing : Hashing} {graph graph' : PaymentSafetyGraphArtifact}
  {customerNode customerNode' : GraphNode} {selected : SymbolId}
  {resolutionFingerprint resolutionFingerprint' : Sha256Digest}
  {routes : List RouteRegistrationId} {edge : GraphEdge} {control : NormalControlInstance}

/-- What a control is made of. -/
structure ControlMade (graph : PaymentSafetyGraphArtifact) (edge : GraphEdge)
    (control : NormalControlInstance) : Prop where
  source : ∃ source, graph.node? edge.sourceNodeId = some source ∧
    source.routeId? = some control.routeRegistrationId
  target : ∃ target, graph.node? edge.targetNodeId = some target ∧
    target.details = .customerValueAction
  connectivity : control.connectivityEdgeId = edge.edgeId

theorem controlMade_of_controlOfEdge
    (made : controlOfEdge hashing graph selected resolutionFingerprint edge = some control) :
    ControlMade graph edge control := by
  unfold controlOfEdge at made
  simp only [Option.bind_eq_bind, Option.bind_eq_some_iff] at made
  obtain ⟨source, foundSource, target, foundTarget, ingress, isIngress, made⟩ := made
  split at made
  next =>
    split at made
    next proven =>
      cases made
      exact ⟨⟨source, foundSource, routeId_of_ingress isIngress⟩, ⟨target, foundTarget,
        proven.2.1⟩, rfl⟩
    next => cases made
  next => cases made

/-- The edge of a control on the routes starts on them. -/
theorem ControlMade.startsAmong (made : ControlMade graph edge control)
    (on : control.routeRegistrationId ∈ routes) :
    startsAmong (nodesOn routes graph.nodes) edge = true := by
  obtain ⟨source, found, route⟩ := made.source
  obtain ⟨isNode, same⟩ := graph.node?_eq_some found
  refine decide_eq_true_iff.mpr ?_
  rw [← same, startsOn_iff graph.nodesUnique isNode, route]
  exact decide_eq_true_iff.mpr on

/-- A node that an edge on the routes starts at is found in both graphs. -/
theorem SameOn.node? (same : SameOn routes graph graph')
    (starts : StateGuard.startsAmong (nodesOn routes graph.nodes) edge = true) :
    graph.node? edge.sourceNodeId = graph'.node? edge.sourceNodeId := by
  have listed := decide_eq_true_iff.mp starts
  unfold PaymentSafetyGraphArtifact.node?
  rw [find?_nodesOn graph.nodesUnique listed, same.nodes,
    ← find?_nodesOn graph'.nodesUnique (same.nodes ▸ listed)]

theorem SoleAction.node? (action : SoleAction graph customerNode selected) :
    graph.node? customerNode.nodeId = some customerNode :=
  graph.node?_of_mem action.isNode

/-- The edge of a control ends at the selected action. -/
theorem ControlMade.target_eq (action : SoleAction graph customerNode selected)
    (made : ControlMade graph edge control) : edge.targetNodeId = customerNode.nodeId := by
  obtain ⟨target, found, isAction⟩ := made.target
  obtain ⟨isNode, same⟩ := graph.node?_eq_some found
  rw [← same, action.sole target isNode isAction]

/-- An edge on the routes makes controls that agree in what is taken of them. -/
theorem controlOfEdge_core (same : SameOn routes graph graph')
    (action : SoleAction graph customerNode selected)
    (action' : SoleAction graph' customerNode' selected)
    (sameAction : customerNode.nodeId = customerNode'.nodeId)
    (starts : StateGuard.startsAmong (nodesOn routes graph.nodes) edge = true) :
    (controlOfEdge hashing graph selected resolutionFingerprint edge).map controlCore =
      (controlOfEdge hashing graph' selected resolutionFingerprint' edge).map controlCore := by
  by_cases target : edge.targetNodeId = customerNode.nodeId
  · have found := action.node?
    have found' := action'.node?
    rw [← target] at found
    rw [← sameAction, ← target] at found'
    unfold controlOfEdge
    rw [same.node? starts, found, found']
    cases graph'.node? edge.sourceNodeId with
    | none => rfl
    | some source =>
      simp only [Option.bind_eq_bind, Option.bind_some]
      cases source.ingress? with
      | none => rfl
      | some ingress =>
        simp only [Option.bind_some, action.isAction, action'.isAction, action.isSelected,
          action'.isSelected, and_true]
        split
        next =>
          split
          next => simp [controlCore, policyControlEvidence, sameAction]
          next => rfl
        next => rfl
  · have unmade : controlOfEdge hashing graph selected resolutionFingerprint edge = none := by
      rw [Option.eq_none_iff_forall_ne_some]
      intro control made
      exact target ((controlMade_of_controlOfEdge made).target_eq action)
    have unmade' : controlOfEdge hashing graph' selected resolutionFingerprint' edge = none := by
      rw [Option.eq_none_iff_forall_ne_some]
      intro control made
      rw [sameAction] at target
      exact target ((controlMade_of_controlOfEdge made).target_eq action')
    rw [unmade, unmade']

/-- The controls of a graph, before they are put in order. -/
def rawControls (hashing : Hashing) (graph : PaymentSafetyGraphArtifact) (selected : SymbolId)
    (resolutionFingerprint : Sha256Digest) : List NormalControlInstance :=
  graph.edges.filterMap (controlOfEdge hashing graph selected resolutionFingerprint)

theorem normalControls_eq {resolution : CustomerValueResolution}
    (unique : resolution.state = .unique) (selects : resolution.selectedSymbolId = some selected) :
    normalControls hashing graph (some resolution) (some resolutionFingerprint) =
      sortedByKey hashing.controlJson (rawControls hashing graph selected resolutionFingerprint) := by
  unfold normalControls
  dsimp only
  rw [unique, selects]
  rfl

/-- Only edges on the routes make controls. -/
theorem rawControls_on (on : ∀ control ∈ rawControls hashing graph selected resolutionFingerprint,
      control.routeRegistrationId ∈ routes) :
    rawControls hashing graph selected resolutionFingerprint =
      (graph.edges.filter (StateGuard.startsAmong (nodesOn routes graph.nodes))).filterMap
        (controlOfEdge hashing graph selected resolutionFingerprint) := by
  rw [List.filterMap_filter]
  refine List.filterMap_congr fun edge membership => ?_
  split
  next => rfl
  next elsewhere =>
    rw [Option.eq_none_iff_forall_ne_some]
    intro control made
    have isControl := List.mem_filterMap.mpr ⟨edge, membership, made⟩
    exact elsewhere ((controlMade_of_controlOfEdge made).startsAmong (on control isControl))

/-- The controls of two graphs that say the same of their routes agree in what is taken of them. -/
theorem rawControls_core (same : SameOn routes graph graph')
    (action : SoleAction graph customerNode selected)
    (action' : SoleAction graph' customerNode' selected)
    (sameAction : customerNode.nodeId = customerNode'.nodeId)
    (on : ∀ control ∈ rawControls hashing graph selected resolutionFingerprint,
      control.routeRegistrationId ∈ routes)
    (on' : ∀ control ∈ rawControls hashing graph' selected resolutionFingerprint',
      control.routeRegistrationId ∈ routes) :
    (rawControls hashing graph selected resolutionFingerprint).map controlCore =
      (rawControls hashing graph' selected resolutionFingerprint').map controlCore := by
  rw [rawControls_on on, rawControls_on on', List.map_filterMap, List.map_filterMap, ← same.edges]
  refine List.filterMap_congr fun edge membership => ?_
  exact controlOfEdge_core same action action' sameAction (List.mem_filter.mp membership).2

/-- The order of the controls is that of what their texts begin with. -/
theorem sorted_core (written : hashing.controlJson = canonicalControl) :
    (sortedByKey hashing.controlJson
        (rawControls hashing graph selected resolutionFingerprint)).map controlCore =
      sortedByKey coreText
        ((rawControls hashing graph selected resolutionFingerprint).map controlCore) := by
  rw [written]
  refine map_sortedByKey fun a isA b isB => ?_
  by_cases different : a.connectivityEdgeId = b.connectivityEdgeId
  · -- One edge makes one control.
    obtain ⟨edge, isEdge, made⟩ := List.mem_filterMap.mp isA
    obtain ⟨other, isOther, otherMade⟩ := List.mem_filterMap.mp isB
    rw [(controlMade_of_controlOfEdge made).connectivity,
      (controlMade_of_controlOfEdge otherMade).connectivity] at different
    rw [List.inj_on_of_nodup_map graph.edgesUnique isEdge isOther different] at made
    rw [Option.some.inj (made.symm.trans otherMade)]
    exact iff_of_true le_rfl le_rfl
  · exact canonicalControl_le_iff different

/-! ## The evidence of a policy -/

/-- Two lists of controls of two graphs that say the same of their routes. -/
structure ControlsAgree (routes : List RouteRegistrationId)
    (graph graph' : PaymentSafetyGraphArtifact) (controls controls' : List NormalControlInstance) :
    Prop where
  same : SameOn routes graph graph'
  core : controls.map controlCore = controls'.map controlCore
  known : ∀ control ∈ controls, ControlOf graph control
  known' : ∀ control ∈ controls', ControlOf graph' control
  on : ∀ control ∈ controls, control.routeRegistrationId ∈ routes
  on' : ∀ control ∈ controls', control.routeRegistrationId ∈ routes

variable {controls controls' : List NormalControlInstance}

namespace ControlsAgree

variable (agree : ControlsAgree routes graph graph' controls controls')

include agree

theorem evidence : controls.map policyControlEvidence = controls'.map policyControlEvidence := by
  have first := congrArg (List.map Prod.fst) agree.core
  rwa [List.map_map, List.map_map] at first

theorem field {α : Type} (f : PolicyControlEvidence → α) :
    controls.map (fun control => f (policyControlEvidence control)) =
      controls'.map (fun control => f (policyControlEvidence control)) := by
  have mapped := congrArg (List.map f) agree.evidence
  rwa [List.map_map, List.map_map] at mapped

theorem webhooks :
    ControlsAgree routes graph graph' (webhookControls controls) (webhookControls controls') where
  same := agree.same
  core := by
    have filtered := congrArg (List.filter fun core => core.1.ingressKind = .webhook) agree.core
    rwa [List.filter_map, List.filter_map] at filtered
  known control membership := agree.known control (List.mem_of_mem_filter membership)
  known' control membership := agree.known' control (List.mem_of_mem_filter membership)
  on control membership := agree.on control (List.mem_of_mem_filter membership)
  on' control membership := agree.on' control (List.mem_of_mem_filter membership)

/-- The diagnostics of the controls. -/
theorem relevantDiagnostics :
    relevantDiagnostics graph controls = relevantDiagnostics graph' controls' := by
  have listed : ∀ (graph : PaymentSafetyGraphArtifact) (controls : List NormalControlInstance),
      (∀ control ∈ controls, control.routeRegistrationId ∈ routes) →
        StateGuard.relevantDiagnostics graph controls =
          (diagnosticsOn routes graph.diagnostics).filter fun item =>
            item.impact = .coverageReduced ∧
              item.routeRegistrationId ∈ (controls.map (·.routeRegistrationId)).map some := by
    intro graph controls on
    unfold StateGuard.relevantDiagnostics diagnosticsOn
    rw [List.filter_filter]
    refine List.filter_congr fun item _ => ?_
    rw [Bool.eq_iff_iff]
    simp only [decide_eq_true_eq, Bool.and_eq_true, List.mem_map, exists_exists_and_eq_and]
    constructor
    · rintro ⟨reduced, control, isControl, route⟩
      refine ⟨⟨reduced, control, isControl, route.symm⟩, ?_⟩
      rw [route]
      exact decide_eq_true_iff.mpr (on control isControl)
    · rintro ⟨⟨reduced, control, isControl, route⟩, -⟩
      exact ⟨reduced, control, isControl, route.symm⟩
  rw [listed graph controls agree.on, listed graph' controls' agree.on', agree.same.diagnostics]
  have routeIds : controls.map (·.routeRegistrationId) = controls'.map (·.routeRegistrationId) :=
    agree.field (·.routeRegistrationId)
  rw [routeIds]

/-- What an edge on the routes starts at. -/
theorem source {edge : GraphEdge}
    (starts : StateGuard.startsAmong (nodesOn routes graph.nodes) edge = true) :
    graph.node? edge.sourceNodeId = graph'.node? edge.sourceNodeId :=
  agree.same.node? starts

/-- The matched branches into the customer value start on the routes. -/
theorem startsAmong_of_policyStateEdges {edge : GraphEdge}
    (membership : edge ∈ policyStateEdges graph controls) :
    StateGuard.startsAmong (nodesOn routes graph.nodes) edge = true := by
  unfold policyStateEdges at membership
  obtain ⟨-, isBranch⟩ := List.mem_filter.mp membership
  obtain ⟨-, -, source, found, routeId, listed, route⟩ := decide_eq_true_iff.mp isBranch
  obtain ⟨isNode, same⟩ := graph.node?_eq_some (Option.mem_toList.mp found)
  obtain ⟨control, isControl, rfl⟩ := List.mem_map.mp listed
  refine decide_eq_true_iff.mpr ?_
  rw [← same, startsOn_iff graph.nodesUnique isNode, route]
  exact decide_eq_true_iff.mpr (agree.on control isControl)

theorem symm : ControlsAgree routes graph' graph controls' controls where
  same := ⟨agree.same.nodes.symm, agree.same.edges.symm, agree.same.diagnostics.symm⟩
  core := agree.core.symm
  known := agree.known'
  known' := agree.known
  on := agree.on'
  on' := agree.on

theorem policyStateEdges_on : policyStateEdges graph controls =
    (graph.edges.filter (StateGuard.startsAmong (nodesOn routes graph.nodes))).filter fun edge =>
      edge.targetNodeId ∈ controls.map (·.customerValueNodeId) ∧
        MatchedBranchOf graph (controls.map (·.routeRegistrationId)) edge := by
  rw [List.filter_comm]
  exact (List.filter_eq_self.mpr fun edge membership =>
    agree.startsAmong_of_policyStateEdges membership).symm

/-- The matched branches into the customer value. -/
theorem policyStateEdges : policyStateEdges graph controls = policyStateEdges graph' controls' := by
  rw [agree.policyStateEdges_on, agree.symm.policyStateEdges_on, ← agree.same.edges]
  refine List.filter_congr fun edge membership => ?_
  have targets : controls.map (·.customerValueNodeId) = controls'.map (·.customerValueNodeId) :=
    agree.field (·.customerValueNodeId)
  have routeIds : controls.map (·.routeRegistrationId) = controls'.map (·.routeRegistrationId) :=
    agree.field (·.routeRegistrationId)
  rw [decide_eq_decide, targets, routeIds]
  unfold MatchedBranchOf
  rw [agree.source (List.mem_filter.mp membership).2]

theorem stateEdgeEvidence {edge : GraphEdge}
    (membership : edge ∈ StateGuard.policyStateEdges graph controls) :
    policyStateEdgeEvidence graph edge = policyStateEdgeEvidence graph' edge := by
  unfold policyStateEdgeEvidence
  rw [agree.source (agree.startsAmong_of_policyStateEdges membership)]

/-- The evidence of the fulfilment policy. -/
theorem fulfilmentEvidence :
    fulfilmentEvidence hashing graph controls = fulfilmentEvidence hashing graph' controls' := by
  unfold StateGuard.fulfilmentEvidence
  rw [agree.evidence, agree.relevantDiagnostics, ← agree.policyStateEdges,
    List.map_congr_left fun edge membership => agree.stateEdgeEvidence membership]

/-- A webhook node of a control is on the routes. -/
theorem webhookNodes_on : (graph.nodes.filterMap fun node => node.ingress?.bind fun details =>
      if details.ingressKind = .webhook ∧ node.nodeId ∈ controls.map (·.ingressNodeId) then
        some (policyWebhookEvidence node.nodeId details)
      else none) =
    (nodesOn routes graph.nodes).filterMap fun node => node.ingress?.bind fun details =>
      if details.ingressKind = .webhook ∧ node.nodeId ∈ controls.map (·.ingressNodeId) then
        some (policyWebhookEvidence node.nodeId details)
      else none := by
  unfold nodesOn
  rw [List.filterMap_filter]
  refine List.filterMap_congr fun node isNode => ?_
  split
  next => rfl
  next elsewhere =>
    cases node.ingress? with
    | none => rfl
    | some details =>
      refine if_neg ?_
      rintro ⟨-, listed⟩
      obtain ⟨control, isControl, same⟩ := List.mem_map.mp listed
      obtain ⟨source, isSource, sourceId, other, isIngress, -, route⟩ :=
        (agree.known control isControl).ingress
      rw [List.inj_on_of_nodup_map graph.nodesUnique isSource isNode (sourceId.trans same)]
        at isIngress
      refine elsewhere ?_
      rw [routeId_of_ingress isIngress, route]
      exact decide_eq_true_iff.mpr (agree.on control isControl)

/-- The evidence of the late-authorisation policy. -/
theorem lateAuthorisationEvidence :
    lateAuthorisationEvidence hashing graph controls =
      lateAuthorisationEvidence hashing graph' controls' := by
  have webhooks := agree.webhooks
  have ingresses : (webhookControls controls).map (·.ingressNodeId) =
      (webhookControls controls').map (·.ingressNodeId) := webhooks.field (·.ingressNodeId)
  have routeIds : (webhookControls controls).map (·.routeRegistrationId) =
      (webhookControls controls').map (·.routeRegistrationId) :=
    webhooks.field (·.routeRegistrationId)
  have listed : ∀ (controls : List NormalControlInstance) (route : Option RouteRegistrationId),
      (∃ control ∈ controls, route = some control.routeRegistrationId) ↔
        route ∈ (controls.map (·.routeRegistrationId)).map some := by
    intro controls route
    rw [List.map_map, List.mem_map]
    exact exists_congr fun control => and_congr_right fun _ => eq_comm
  have edges : ((StateGuard.policyStateEdges graph controls).filter fun edge =>
        ∃ control ∈ webhookControls controls, (graph.node? edge.sourceNodeId).bind (·.routeId?) =
          some control.routeRegistrationId).map (policyStateEdgeEvidence graph) =
      ((StateGuard.policyStateEdges graph' controls').filter fun edge =>
        ∃ control ∈ webhookControls controls',
          (graph'.node? edge.sourceNodeId).bind (·.routeId?) =
            some control.routeRegistrationId).map (policyStateEdgeEvidence graph') := by
    rw [List.map_congr_left fun edge membership =>
      agree.stateEdgeEvidence (List.mem_of_mem_filter membership), ← agree.policyStateEdges]
    refine congrArg _ (List.filter_congr fun edge membership => ?_)
    rw [decide_eq_decide, listed, listed, routeIds,
      agree.source (agree.startsAmong_of_policyStateEdges membership)]
  unfold StateGuard.lateAuthorisationEvidence
  dsimp only
  rw [edges, webhooks.evidence, webhooks.relevantDiagnostics, webhooks.webhookNodes_on,
    webhooks.symm.webhookNodes_on, agree.same.nodes, ingresses]

end ControlsAgree

end

section

variable {text : BuildText} {checkoutBinding : FunctionControlModel → Option CheckoutRequestBinding}
  {index : SourceIndexArtifact} {project : ParsedProject}
  {structural graph : PaymentSafetyGraphArtifact} {symbol : SymbolRecord}
  {basis : ResolutionBasis} {resolutionFingerprint : Sha256Digest} {selected : SymbolId}

/-- The selected action is the one action of a projected graph. -/
theorem ProjectionMade.soleAction
    (made : ProjectionMade text checkoutBinding index project structural graph symbol
      (customerValueNode text symbol basis resolutionFingerprint) selected) :
    SoleAction graph (customerValueNode text symbol basis resolutionFingerprint) selected where
  isNode := by
    rw [made.nodes, mem_sortedByKey]
    exact List.mem_append_right _ (List.mem_singleton_self _)
  isAction := rfl
  isSelected := by
    have found := List.find?_some made.found
    exact of_decide_eq_true found
  sole := by
    intro node isNode isAction
    rw [made.nodes, mem_sortedByKey, projectedNodes, List.mem_append, List.mem_singleton] at isNode
    rcases isNode with kept | same
    · exact absurd isAction (by simpa using (List.mem_filter.mp kept).2)
    · exact same

/-- The controls of two projections that select one symbol agree, where nothing was added to their
routes. -/
theorem controlsAgree_of_projections {fingerprint : GraphFingerprint} {hashing : Hashing}
    {extended graph' : PaymentSafetyGraphArtifact}
    {resolution resolution' : CustomerValueResolution} {basis' : ResolutionBasis}
    {resolutionFingerprint' : Sha256Digest} {routes : List RouteRegistrationId}
    (written : hashing.controlJson = canonicalControl)
    (unique : resolution.state = .unique) (selects : resolution.selectedSymbolId = some selected)
    (unique' : resolution'.state = .unique)
    (selects' : resolution'.selectedSymbolId = some selected)
    (projected : projectCustomerValue text checkoutBinding index project fingerprint structural
      resolution basis resolutionFingerprint = .ok graph)
    (projected' : projectCustomerValue text checkoutBinding index project fingerprint extended
      resolution' basis' resolutionFingerprint' = .ok graph')
    {addition : Addition structural extended} (elsewhere : addition.Elsewhere routes)
    (distinct : ∀ symbol ∈ symbol? index selected,
      EdgesDistinct (projectionEdges text checkoutBinding index project structural symbol basis
        resolutionFingerprint selected) ∧
      EdgesDistinct (projectionEdges text checkoutBinding index project extended symbol basis'
        resolutionFingerprint' selected))
    (on : ∀ control ∈ normalControls hashing graph (some resolution) (some resolutionFingerprint),
      control.routeRegistrationId ∈ routes)
    (on' : ∀ control ∈ normalControls hashing graph' (some resolution')
      (some resolutionFingerprint'), control.routeRegistrationId ∈ routes) :
    ControlsAgree routes graph graph'
      (normalControls hashing graph (some resolution) (some resolutionFingerprint))
      (normalControls hashing graph' (some resolution') (some resolutionFingerprint')) := by
  obtain ⟨symbol, made⟩ := projectionMade_of_project projected unique selects
  obtain ⟨other, made'⟩ := projectionMade_of_project projected' unique' selects'
  obtain rfl : symbol = other := Option.some.inj (made.found.symm.trans made'.found)
  obtain ⟨distinctEdges, distinctEdges'⟩ := distinct symbol made.found
  have same := sameOn_of_projections elsewhere made made' distinctEdges distinctEdges'
  refine ⟨same, ?_, fun _ => normalControls_spec, fun _ => normalControls_spec, on, on'⟩
  rw [normalControls_eq unique selects] at on ⊢
  rw [normalControls_eq unique' selects'] at on' ⊢
  rw [sorted_core written, sorted_core written,
    rawControls_core same made.soleAction made'.soleAction rfl
      (fun control isControl => on control ((mem_sortedByKey _ _ _).mpr isControl))
      (fun control isControl => on' control ((mem_sortedByKey _ _ _).mpr isControl))]

end

/-- Neither another resolution that selects the same symbol nor what is added of routes without a
normal control changes the fingerprints of the policy evidence, so a confirmed policy does not
become stale. -/
theorem policyFingerprints_local (text : BuildText)
    (checkoutBinding : FunctionControlModel → Option CheckoutRequestBinding)
    (index : SourceIndexArtifact) (project : ParsedProject) (fingerprint : GraphFingerprint)
    (hashing : Hashing) (config : Option MerchantPolicyConfig)
    {structural extended graph graph' : PaymentSafetyGraphArtifact}
    {resolution resolution' : CustomerValueResolution} {basis basis' : ResolutionBasis}
    {resolutionFingerprint resolutionFingerprint' : Sha256Digest} {selected : SymbolId}
    (written : hashing.controlJson = canonicalControl)
    (unique : resolution.state = .unique) (selects : resolution.selectedSymbolId = some selected)
    (unique' : resolution'.state = .unique)
    (selects' : resolution'.selectedSymbolId = some selected)
    (projected : projectCustomerValue text checkoutBinding index project fingerprint structural
      resolution basis resolutionFingerprint = .ok graph)
    (projected' : projectCustomerValue text checkoutBinding index project fingerprint extended
      resolution' basis' resolutionFingerprint' = .ok graph')
    (addition : Addition structural extended)
    (elsewhere : addition.Elsewhere
      ((normalControls hashing graph (some resolution) (some resolutionFingerprint) ++
        normalControls hashing graph' (some resolution') (some resolutionFingerprint')).map
          (·.routeRegistrationId)))
    (distinct : ∀ symbol ∈ symbol? index selected,
      EdgesDistinct (projectionEdges text checkoutBinding index project structural symbol basis
        resolutionFingerprint selected) ∧
      EdgesDistinct (projectionEdges text checkoutBinding index project extended symbol basis'
        resolutionFingerprint' selected)) :
    let controls := normalControls hashing graph (some resolution) (some resolutionFingerprint)
    let controls' := normalControls hashing graph' (some resolution') (some resolutionFingerprint')
    let assessment := policyAssessment hashing config graph controls
    let assessment' := policyAssessment hashing config graph' controls'
    assessment.fulfilment.evidenceFingerprint = assessment'.fulfilment.evidenceFingerprint ∧
      assessment.lateAuthorisation.evidenceFingerprint =
        assessment'.lateAuthorisation.evidenceFingerprint ∧
      assessment.fulfilment.evidenceCurrent = assessment'.fulfilment.evidenceCurrent ∧
      assessment.lateAuthorisation.evidenceCurrent =
        assessment'.lateAuthorisation.evidenceCurrent := by
  have on : ∀ control ∈ normalControls hashing graph (some resolution)
      (some resolutionFingerprint), control.routeRegistrationId ∈
      (normalControls hashing graph (some resolution) (some resolutionFingerprint) ++
        normalControls hashing graph' (some resolution') (some resolutionFingerprint')).map
          (·.routeRegistrationId) :=
    fun control isControl => List.mem_map_of_mem (List.mem_append_left _ isControl)
  have on' : ∀ control ∈ normalControls hashing graph' (some resolution')
      (some resolutionFingerprint'), control.routeRegistrationId ∈
      (normalControls hashing graph (some resolution) (some resolutionFingerprint) ++
        normalControls hashing graph' (some resolution') (some resolutionFingerprint')).map
          (·.routeRegistrationId) :=
    fun control isControl => List.mem_map_of_mem (List.mem_append_right _ isControl)
  have agree := controlsAgree_of_projections written unique selects unique' selects' projected
    projected' elsewhere distinct on on'
  have fulfilment : fulfilmentEvidence hashing graph _ = fulfilmentEvidence hashing graph' _ :=
    agree.fulfilmentEvidence
  have late : lateAuthorisationEvidence hashing graph _ =
      lateAuthorisationEvidence hashing graph' _ := agree.lateAuthorisationEvidence
  dsimp only [policyAssessment]
  rw [fulfilment, late]
  exact ⟨rfl, rfl, rfl, rfl⟩

section Example

/-- A diagnostic of a route that is not in the graph. -/
def healthDiagnostic : GraphDiagnosticRecord where
  code := .controlFlowUnsupported
  impact := .coverageReduced
  candidateKind := none
  reason := none
  symbolId := none
  routeRegistrationId := some "health"
  sourceLocation := none

/-- A graph with a diagnostic more. -/
def withDiagnostic (graph : PaymentSafetyGraphArtifact) (diagnostic : GraphDiagnosticRecord) :
    PaymentSafetyGraphArtifact :=
  { graph with
    completeness := completenessFor (graph.diagnostics ++ [diagnostic])
    diagnostics := graph.diagnostics ++ [diagnostic]
    completenessMatches := rfl }

def additionOf (graph : PaymentSafetyGraphArtifact) (diagnostic : GraphDiagnosticRecord) :
    Addition graph (withDiagnostic graph diagnostic) where
  nodes := []
  edges := []
  diagnostics := [diagnostic]
  insertsNodes := ⟨List.Sublist.refl _, by rw [List.append_nil]; exact List.Perm.refl _⟩
  insertsEdges := ⟨List.Sublist.refl _, by rw [List.append_nil]; exact List.Perm.refl _⟩
  insertsDiagnostics := ⟨List.sublist_append_left _ _, List.Perm.refl _⟩

/-- Texts of controls, and fingerprints that list what the evidence refers to. -/
def listingHashing : Hashing :=
  { sampleHashing with
    controlJson := canonicalControl
    fulfilment := fun evidence => String.intercalate "," (evidence.captureRule ::
      evidence.controls.map (·.ingressNodeId) ++ evidence.stateEdges.map (·.sourceNodeId) ++
      evidence.diagnostics.map (·.routeRegistrationId.getD ""))
    lateAuthorisation := fun evidence => String.intercalate "," (evidence.lateRule ::
      evidence.webhookControls.map (·.ingressNodeId) ++ evidence.webhookNodes.map (·.nodeId) ++
      evidence.stateEdges.map (·.sourceNodeId) ++
      evidence.diagnostics.map (·.routeRegistrationId.getD "")) }

/-- The graph of `gatedDelivery` with `deliver` projected on it. -/
def gatedProjection (structural : PaymentSafetyGraphArtifact) (basis : ResolutionBasis)
    (resolutionFingerprint : Sha256Digest) : Except String PaymentSafetyGraphArtifact :=
  projectCustomerValue plainText (fun _ => none) gatedIndex gatedDelivery
    (fun _ _ _ _ _ _ => "graph") structural deliverResolution basis resolutionFingerprint

/-- A confirmation of the action and a diagnostic elsewhere leave the evidence as it is. -/
theorem policyFingerprints_local_gated :
    ∃ structural ∈ (structuralOf gatedIndex gatedDelivery).toOption,
      ∃ graph ∈ (gatedProjection structural .modelUnique "proposed").toOption,
      ∃ graph' ∈ (gatedProjection (withDiagnostic structural healthDiagnostic) .humanConfirmed
        "confirmed").toOption,
      healthDiagnostic ∈ graph'.diagnostics ∧
      (policyAssessment listingHashing none graph (normalControls listingHashing graph
        (some deliverResolution) (some "proposed"))).fulfilment.evidenceFingerprint =
      (policyAssessment listingHashing none graph' (normalControls listingHashing graph'
        (some deliverResolution) (some "confirmed"))).fulfilment.evidenceFingerprint := by
  obtain ⟨structural, isBuilt, graph, isProjected, graph', isProjected', reported, apart,
      distinct⟩ : ∃ structural ∈ (structuralOf gatedIndex gatedDelivery).toOption,
      ∃ graph ∈ (gatedProjection structural .modelUnique "proposed").toOption,
      ∃ graph' ∈ (gatedProjection (withDiagnostic structural healthDiagnostic) .humanConfirmed
        "confirmed").toOption,
      healthDiagnostic ∈ graph'.diagnostics ∧
      "health" ∉ (normalControls listingHashing graph (some deliverResolution) (some "proposed") ++
        normalControls listingHashing graph' (some deliverResolution) (some "confirmed")).map
          (·.routeRegistrationId) ∧
      ∀ symbol ∈ (symbol? gatedIndex "deliver").toList,
        EdgesDistinct (projectionEdges plainText (fun _ => none) gatedIndex gatedDelivery structural
          symbol .modelUnique "proposed" "deliver") ∧
        EdgesDistinct (projectionEdges plainText (fun _ => none) gatedIndex gatedDelivery
          (withDiagnostic structural healthDiagnostic) symbol .humanConfirmed "confirmed"
          "deliver") := by
    decide +kernel
  refine ⟨structural, isBuilt, graph, isProjected, graph', isProjected', reported, ?_⟩
  refine (policyFingerprints_local plainText (fun _ => none) gatedIndex gatedDelivery
    (fun _ _ _ _ _ _ => "graph") listingHashing none rfl rfl rfl rfl rfl
    (eq_ok_of_mem_toOption isProjected) (eq_ok_of_mem_toOption isProjected')
    (additionOf structural healthDiagnostic) ⟨?_, ?_, ?_⟩
    fun symbol found => distinct symbol (Option.mem_toList.mpr found)).1
  · intro node isAdded
    cases isAdded
  · intro edge isAdded
    cases isAdded
  · intro diagnostic isAdded
    rw [List.mem_singleton.mp isAdded]
    exact decide_eq_false apart

end Example

end StateGuard
