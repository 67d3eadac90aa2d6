import StateGuard.Graph.ProjectionLocality
import StateGuard.Graph.ValueBranches

/-!
# Projecting onto a projected graph

A graph that an action was projected onto can be given to the projection again.  The projection
drops the old action and the edges that lose an end with it, so what it keeps of the old edges are
those of the structural graph (`keptEdges_projected`).  It keeps every diagnostic, and where the
action is the same it keeps the old edges to it and adds its calls once more.  The old projection
is replaced exactly when neither happens (`reprojection_iff`).
-/

namespace StateGuard

open KeyOrder
open Checks (eq_ok_of_mem_toOption)

/-- A graph that no action was projected onto. -/
def IsStructural (graph : PaymentSafetyGraphArtifact) : Prop :=
  ∀ node ∈ graph.nodes, node.details ≠ .customerValueAction

instance (graph : PaymentSafetyGraphArtifact) : Decidable (IsStructural graph) :=
  inferInstanceAs (Decidable (∀ node ∈ graph.nodes, _))

section

variable (text : BuildText) (checkoutBinding : FunctionControlModel → Option CheckoutRequestBinding)
  (index : SourceIndexArtifact) (project : ParsedProject)

/-- An ingress whose handler calls a symbol, directly or through others. -/
def callsAction (selected : SymbolId) (ingress : GraphNode) : Prop :=
  ingress.ingress?.isSome ∧ ∃ path, path ≠ [] ∧
    resolvedPath text index ingress.backingSymbolId selected = some path

/-- A projection of `first` leaves nothing behind that a projection of `second` would keep. -/
def LeavesNothing (structural : PaymentSafetyGraphArtifact) (first second : SymbolId) : Prop :=
  ∀ ingress ∈ structural.nodes, callsAction text index first ingress →
    first ≠ second ∧
      ∀ diagnostic ∈ gapOfIngress text checkoutBinding index
        (project.restrict index fun _ => true) first ingress, diagnostic ∈ structural.diagnostics

end

/-! ## Diagnostics that are appended -/

/-- Append a diagnostic unless it is there. -/
def appendDiagnostic (diagnostics : List GraphDiagnosticRecord)
    (diagnostic : GraphDiagnosticRecord) : List GraphDiagnosticRecord :=
  if diagnostic ∈ diagnostics then diagnostics else diagnostics ++ [diagnostic]

/-- What is appended depends on which of the diagnostics are there. -/
theorem exists_appended (more : List GraphDiagnosticRecord) :
    ∀ known : List GraphDiagnosticRecord, ∃ added,
      (∀ diagnostic ∈ added, diagnostic ∈ more) ∧
      (added = [] ↔ ∀ diagnostic ∈ more, diagnostic ∈ known) ∧
      ∀ other : List GraphDiagnosticRecord,
        (∀ diagnostic ∈ more, diagnostic ∈ other ↔ diagnostic ∈ known) →
        more.foldl appendDiagnostic other = other ++ added := by
  induction more with
  | nil => exact fun known => ⟨[], by simp, by simp, by simp⟩
  | cons diagnostic more ih =>
    intro known
    by_cases isKnown : diagnostic ∈ known
    · obtain ⟨added, fromMore, none, appended⟩ := ih known
      refine ⟨added, fun other isAdded => List.mem_cons_of_mem _ (fromMore other isAdded), ?_, ?_⟩
      · rw [none, List.forall_mem_cons]
        exact (and_iff_right isKnown).symm
      · intro other alike
        obtain ⟨first, rest⟩ := List.forall_mem_cons.mp alike
        rw [List.foldl_cons, appendDiagnostic, if_pos (first.mpr isKnown)]
        exact appended other rest
    · obtain ⟨added, fromMore, -, appended⟩ := ih (known ++ [diagnostic])
      refine ⟨diagnostic :: added, ?_, ?_, ?_⟩
      · intro other isAdded
        rcases List.mem_cons.mp isAdded with rfl | isAdded
        · exact List.mem_cons_self
        · exact List.mem_cons_of_mem _ (fromMore other isAdded)
      · exact ⟨fun empty => absurd empty (List.cons_ne_nil _ _),
          fun all => absurd (all _ List.mem_cons_self) isKnown⟩
      · intro other alike
        obtain ⟨first, rest⟩ := List.forall_mem_cons.mp alike
        rw [List.foldl_cons, appendDiagnostic, if_neg fun isOther => isKnown (first.mp isOther),
          appended]
        · rw [List.append_assoc, List.singleton_append]
        · intro later isLater
          rw [List.mem_append, List.mem_append, rest later isLater]

section

variable (text : BuildText) (checkoutBinding : FunctionControlModel → Option CheckoutRequestBinding)
  (index : SourceIndexArtifact) (project : ParsedProject)

/-- The edges that an ingress gives to a projection. -/
def edgesGiven (nodes : List GraphNode) (customerNode : GraphNode) (selected : SymbolId)
    (ingress : GraphNode) : List GraphEdge :=
  match gapOfIngress text checkoutBinding index project selected ingress with
  | some _ => []
  | none => edgesOfIngress text checkoutBinding index project nodes customerNode selected ingress

/-- A projection appends edges and diagnostics side by side. -/
theorem foldl_projectIngress (nodes : List GraphNode) (customerNode : GraphNode)
    (selected : SymbolId) (ingresses : List GraphNode) (state : Projection) :
    ingresses.foldl (projectIngress text checkoutBinding index project nodes customerNode selected)
        state =
      ⟨(ingresses.flatMap (edgesGiven text checkoutBinding index project nodes customerNode
          selected)).foldl appendEdge state.edges,
        (ingresses.filterMap (gapOfIngress text checkoutBinding index project selected)).foldl
          appendDiagnostic state.diagnostics⟩ := by
  induction ingresses generalizing state with
  | nil => rfl
  | cons ingress rest ih =>
    rw [List.foldl_cons, ih, projectIngress_eq, List.flatMap_cons, List.foldl_append,
      List.filterMap_cons, edgesGiven]
    cases gapOfIngress text checkoutBinding index project selected ingress with
    | none => rfl
    | some diagnostic =>
      dsimp only
      rw [List.foldl_cons, appendDiagnostic]
      split
      next => rfl
      next => rfl

end

section

variable {text : BuildText} {checkoutBinding : FunctionControlModel → Option CheckoutRequestBinding}
  {index : SourceIndexArtifact} {project : ParsedProject} {fingerprint : GraphFingerprint}
  {structural graph : PaymentSafetyGraphArtifact} {nodes : List GraphNode}
  {customerNode ingress : GraphNode} {resolution : CustomerValueResolution}
  {basis : ResolutionBasis} {resolutionFingerprint : Sha256Digest} {symbol : SymbolRecord}
  {selected : SymbolId}

/-! ## What is added leads to the action -/

/-- An ingress that calls the action is given a call edge. -/
theorem valueCallEdge_isSome_iff (isIngress : ingress.ingress?.isSome) :
    (∃ edge, valueCallEdge text index customerNode selected ingress = some edge) ↔
      callsAction text index selected ingress := by
  unfold valueCallEdge callsAction
  split
  next none =>
    rw [none]
    simp
  next empty =>
    rw [empty]
    simp
  next path notEmpty found =>
    exact ⟨fun _ => ⟨isIngress, path, notEmpty, found⟩,
      fun _ => ⟨_, rfl⟩⟩

theorem target_of_edgesGiven {edge : GraphEdge}
    (membership : edge ∈ edgesGiven text checkoutBinding index project nodes customerNode selected
      ingress) : edge.targetNodeId = customerNode.nodeId := by
  unfold edgesGiven at membership
  split at membership
  next => cases membership
  next =>
    obtain ⟨node, -, -, kind, leads⟩ := leadsTo_of_edgesOfIngress membership
    exact leads.target

theorem sublist_foldl_appendEdge {edges more : List GraphEdge} :
    edges.Sublist (more.foldl appendEdge edges) := by
  induction more generalizing edges with
  | nil => exact List.Sublist.refl _
  | cons edge more ih =>
    refine List.Sublist.trans ?_ ih
    unfold appendEdge
    split
    next => exact List.Sublist.refl _
    next => exact List.sublist_append_left _ _

/-! ## What a projection onto a structural graph is made of -/

theorem IsStructural.projectedNodes_eq (isStructural : IsStructural structural) :
    projectedNodes structural customerNode = structural.nodes ++ [customerNode] := by
  unfold projectedNodes
  rw [List.filter_eq_self.mpr fun node isNode => decide_eq_true (isStructural node isNode)]

/-- The action is a new node. -/
theorem IsStructural.fresh (isStructural : IsStructural structural)
    (distinct : ((projectedNodes structural customerNode).map (·.nodeId)).Nodup) :
    customerNode.nodeId ∉ structural.nodes.map (·.nodeId) := by
  rw [isStructural.projectedNodes_eq, List.map_append, List.nodup_append] at distinct
  exact fun listed => distinct.2.2 _ listed _ (List.mem_singleton_self _) rfl

/-- The calls of the ingresses to the action. -/
def callsGiven (text : BuildText) (index : SourceIndexArtifact)
    (structural : PaymentSafetyGraphArtifact) (customerNode : GraphNode) (selected : SymbolId) :
    List GraphEdge :=
  (sortedByKey (·.nodeId) ((projectedNodes structural customerNode).filter
    (·.ingress?.isSome))).filterMap (valueCallEdge text index customerNode selected)

theorem IsStructural.projectedEdges_eq (isStructural : IsStructural structural) :
    projectedEdges text index structural customerNode selected =
      structural.edges ++ callsGiven text index structural customerNode selected := by
  unfold projectedEdges callsGiven
  dsimp only
  refine congrArg (· ++ _) (List.filter_eq_self.mpr fun edge isEdge => decide_eq_true ?_)
  rw [isStructural.projectedNodes_eq, List.map_append]
  obtain ⟨source, target⟩ := structural.endpoints edge isEdge
  exact ⟨List.mem_append_left _ source, List.mem_append_left _ target⟩

/-- The action is called from ingresses of the structural graph. -/
theorem IsStructural.mem_callsGiven (isStructural : IsStructural structural)
    (isAction : customerNode.details = .customerValueAction) {edge : GraphEdge} :
    edge ∈ callsGiven text index structural customerNode selected ↔
      ∃ ingress ∈ structural.nodes, ingress.ingress?.isSome ∧
        valueCallEdge text index customerNode selected ingress = some edge := by
  unfold callsGiven
  rw [List.mem_filterMap]
  refine exists_congr fun ingress => ?_
  rw [mem_sortedByKey, List.mem_filter, isStructural.projectedNodes_eq, List.mem_append,
    List.mem_singleton, ← and_assoc]
  refine and_congr_left fun _ => and_congr_left fun isIngress => or_iff_left ?_
  rintro rfl
  rw [GraphNode.ingress?, isAction] at isIngress
  cases isIngress

/-- The ingresses that a projection connects are those that call the action. -/
theorem IsStructural.mem_connectedIngresses (isStructural : IsStructural structural)
    (isAction : customerNode.details = .customerValueAction)
    (distinct : ((projectedNodes structural customerNode).map (·.nodeId)).Nodup) :
    ingress ∈ connectedIngresses
        (sortedByKey text.nodeJson (projectedNodes structural customerNode))
        (sortedByKey text.edgeJson (projectedEdges text index structural customerNode selected))
        customerNode ↔
      ingress ∈ structural.nodes ∧ callsAction text index selected ingress := by
  unfold connectedIngresses
  rw [List.mem_filter, mem_sortedByKey, decide_eq_true_iff, isStructural.projectedNodes_eq,
    isStructural.projectedEdges_eq]
  constructor
  · rintro ⟨isNode, isIngress, edge, isEdge, isCall, source, target⟩
    have isStructuralNode : ingress ∈ structural.nodes := by
      rcases List.mem_append.mp isNode with isStructuralNode | same
      · exact isStructuralNode
      · rw [List.mem_singleton.mp same, GraphNode.ingress?, isAction] at isIngress
        cases isIngress
    refine ⟨isStructuralNode, (@valueCallEdge_isSome_iff text index customerNode ingress selected
      isIngress).mp ?_⟩
    rw [mem_sortedByKey, List.mem_append] at isEdge
    rcases isEdge with old | given
    · -- An edge of the structural graph does not end at the new node.
      have known := (structural.endpoints edge old).2
      rw [target] at known
      exact absurd known (isStructural.fresh distinct)
    · obtain ⟨other, isOther, -, made⟩ := (isStructural.mem_callsGiven isAction).mp given
      have same : other = ingress := by
        refine List.inj_on_of_nodup_map structural.nodesUnique isOther isStructuralNode ?_
        rw [← (leadsTo_of_valueCallEdge made).source, source]
      rw [← same]
      exact ⟨edge, made⟩
  · rintro ⟨isNode, calls⟩
    obtain ⟨edge, made⟩ := (@valueCallEdge_isSome_iff text index customerNode ingress selected
      calls.1).mpr calls
    have leads := leadsTo_of_valueCallEdge made
    refine ⟨List.mem_append_left _ isNode, calls.1, edge, ?_, leads.kind, leads.source,
      leads.target⟩
    rw [mem_sortedByKey, List.mem_append]
    exact .inr ((isStructural.mem_callsGiven isAction).mpr ⟨ingress, isNode, calls.1, made⟩)

/-! ## The projection as a record -/

/-- A resolution selects an action that is projected. -/
structure Selects (index : SourceIndexArtifact) (resolution : CustomerValueResolution)
    (selected : SymbolId) (symbol : SymbolRecord) : Prop where
  unique : resolution.state = .unique
  selects : resolution.selectedSymbolId = some selected
  found : symbol? index selected = some symbol
  admitted : ¬ (selected ∈ index.routes.map (·.ownerSymbolId) ∨ symbol.kind.callable = false)

theorem Selects.project_eq (selects : Selects index resolution selected symbol) :
    projectCustomerValue text checkoutBinding index project fingerprint structural resolution basis
        resolutionFingerprint =
      graphArtifact fingerprint structural.projectId structural.sourceIndexFingerprint
        (sortedByKey text.diagnosticJson (projectionOf text checkoutBinding index project structural
          (customerValueNode text symbol basis resolutionFingerprint) selected).diagnostics)
        (sortedByKey text.nodeJson (projectedNodes structural
          (customerValueNode text symbol basis resolutionFingerprint)))
        (sortedByKey text.edgeJson (projectionOf text checkoutBinding index project structural
          (customerValueNode text symbol basis resolutionFingerprint) selected).edges) := by
  unfold projectCustomerValue
  rw [selects.unique, selects.selects]
  dsimp only
  rw [selects.found]
  dsimp only
  rw [if_neg selects.admitted]

theorem selects_of_project
    (projected : projectCustomerValue text checkoutBinding index project fingerprint structural
      resolution basis resolutionFingerprint = .ok graph)
    (unique : resolution.state = .unique) (selects : resolution.selectedSymbolId = some selected) :
    ∃ symbol, Selects index resolution selected symbol := by
  unfold projectCustomerValue at projected
  rw [unique, selects] at projected
  dsimp only at projected
  split at projected
  next => cases projected
  next symbol found =>
    split at projected
    next => cases projected
    next admitted => exact ⟨symbol, unique, selects, found, admitted⟩

/-- A graph record is of the project and the index it is made of. -/
theorem origin_of_graphArtifact {projectId : ProjectId} {sourceIndexFingerprint : Sha256Digest}
    {diagnostics : List GraphDiagnosticRecord} {edges : List GraphEdge}
    (built : graphArtifact fingerprint projectId sourceIndexFingerprint diagnostics nodes edges =
      .ok graph) :
    graph.projectId = projectId ∧ graph.sourceIndexFingerprint = sourceIndexFingerprint := by
  rw [graphArtifact] at built
  split at built
  next =>
    split at built
    next =>
      split at built
      next =>
        cases built
        exact ⟨rfl, rfl⟩
      next => cases built
    next => cases built
  next => cases built

end

section

variable {text : BuildText} {checkoutBinding : FunctionControlModel → Option CheckoutRequestBinding}
  {index : SourceIndexArtifact} {project : ParsedProject}
  {structural graph : PaymentSafetyGraphArtifact} {first second : SymbolRecord}
  {firstNode secondNode : GraphNode} {selected : SymbolId}

/-! ## What is kept of the first projection -/

/-- The edges that a projection adds are of ingresses that call the action, and lead to it. -/
theorem exists_of_added (isStructural : IsStructural structural)
    (isAction : firstNode.details = .customerValueAction)
    (distinct : ((projectedNodes structural firstNode).map (·.nodeId)).Nodup) {edge : GraphEdge}
    (added : edge ∈ callsGiven text index structural firstNode selected ∨
      edge ∈ (connectedIngresses (sortedByKey text.nodeJson (projectedNodes structural firstNode))
        (sortedByKey text.edgeJson (projectedEdges text index structural firstNode selected))
        firstNode).flatMap (edgesGiven text checkoutBinding index
          (project.restrict index fun _ => true)
          (sortedByKey text.nodeJson (projectedNodes structural firstNode)) firstNode selected)) :
    edge.targetNodeId = firstNode.nodeId ∧
      ∃ ingress ∈ structural.nodes, callsAction text index selected ingress := by
  rcases added with call | given
  · obtain ⟨ingress, isNode, isIngress, made⟩ := (isStructural.mem_callsGiven isAction).mp call
    exact ⟨(leadsTo_of_valueCallEdge made).target, ingress, isNode,
      (valueCallEdge_isSome_iff isIngress).mp ⟨edge, made⟩⟩
  · obtain ⟨ingress, isConnected, isGiven⟩ := List.mem_flatMap.mp given
    exact ⟨target_of_edgesGiven isGiven, ingress,
      (isStructural.mem_connectedIngresses isAction distinct).mp isConnected⟩

/-- The nodes of a projection onto a projected graph. -/
theorem projectedNodes_projected (isStructural : IsStructural structural)
    (isAction : firstNode.details = .customerValueAction)
    (nodes : graph.nodes = sortedByKey text.nodeJson (projectedNodes structural firstNode)) :
    projectedNodes graph secondNode =
      sortedByKey text.nodeJson structural.nodes ++ [secondNode] := by
  unfold projectedNodes
  rw [nodes, sortedByKey_filter, isStructural.projectedNodes_eq, List.filter_append,
    List.filter_eq_self.mpr fun node isNode => decide_eq_true (isStructural node isNode),
    List.filter_cons_of_neg (by simp [isAction]), List.filter_nil, List.append_nil]

/-- A new projection keeps the edges of the structural graph, where the old action is another one
or is not called. -/
theorem keptEdges_projected (isStructural : IsStructural structural)
    (isAction : firstNode.details = .customerValueAction)
    (distinct : ((projectedNodes structural firstNode).map (·.nodeId)).Nodup)
    (nodes : graph.nodes = sortedByKey text.nodeJson (projectedNodes structural firstNode))
    (edges : graph.edges = sortedByKey text.edgeJson (projectionOf text checkoutBinding index
      project structural firstNode selected).edges)
    (gone : firstNode.nodeId ≠ secondNode.nodeId ∨
      ∀ ingress ∈ structural.nodes, ¬ callsAction text index selected ingress) :
    graph.edges.filter (fun edge =>
        edge.sourceNodeId ∈ (projectedNodes graph secondNode).map (·.nodeId) ∧
        edge.targetNodeId ∈ (projectedNodes graph secondNode).map (·.nodeId)) =
      sortedByKey text.edgeJson structural.edges := by
  rw [projectedNodes_projected isStructural isAction nodes]
  have listed : ∀ nodeId, nodeId ∈ (sortedByKey text.nodeJson structural.nodes ++
      [secondNode]).map (·.nodeId) ↔
        nodeId ∈ structural.nodes.map (·.nodeId) ∨ nodeId = secondNode.nodeId := by
    intro nodeId
    rw [List.map_append, List.mem_append, List.map_singleton, List.mem_singleton]
    exact or_congr_left ((sortedByKey_perm _ _).map _).mem_iff
  simp only [listed]
  have dropped : ∀ edge : GraphEdge, (edge.targetNodeId = firstNode.nodeId ∧
      ∃ ingress ∈ structural.nodes, callsAction text index selected ingress) →
      decide ((edge.sourceNodeId ∈ structural.nodes.map (·.nodeId) ∨
          edge.sourceNodeId = secondNode.nodeId) ∧
        (edge.targetNodeId ∈ structural.nodes.map (·.nodeId) ∨
          edge.targetNodeId = secondNode.nodeId)) = false := by
    rintro edge ⟨target, ingress, isNode, calls⟩
    refine decide_eq_false ?_
    rintro ⟨-, known | same⟩
    · rw [target] at known
      exact isStructural.fresh distinct known
    · rw [target] at same
      rcases gone with other | uncalled
      · exact other same
      · exact uncalled ingress isNode calls
  rw [edges, sortedByKey_filter]
  unfold projectionOf projectControlRelationships
  rw [foldl_projectIngress, filter_foldl_appendEdge fun edge given => dropped edge
      (exists_of_added isStructural isAction distinct (.inr given)),
    sortedByKey_filter, sortedByKey_idem, isStructural.projectedEdges_eq, List.filter_append]
  have calls : (callsGiven text index structural firstNode selected).filter (fun edge =>
      (edge.sourceNodeId ∈ structural.nodes.map (·.nodeId) ∨
          edge.sourceNodeId = secondNode.nodeId) ∧
        (edge.targetNodeId ∈ structural.nodes.map (·.nodeId) ∨
          edge.targetNodeId = secondNode.nodeId)) = [] := by
    refine List.filter_eq_nil_iff.mpr fun edge isCall kept => ?_
    rw [dropped edge (@exists_of_added text checkoutBinding index project _ _ _ isStructural
      isAction distinct _ (.inl isCall))] at kept
    cases kept
  rw [calls, List.append_nil, List.filter_eq_self.mpr fun edge isEdge => decide_eq_true ?_]
  obtain ⟨source, target⟩ := structural.endpoints edge isEdge
  exact ⟨.inl source, .inl target⟩

/-- Where the edges of the structural graph are kept, a new projection finds the nodes and the edges
that it finds on the structural graph. -/
theorem projection_projected {selected' : SymbolId} (isStructural : IsStructural structural)
    (isAction : firstNode.details = .customerValueAction)
    (isAction' : secondNode.details = .customerValueAction)
    (nodes : graph.nodes = sortedByKey text.nodeJson (projectedNodes structural firstNode))
    (kept : graph.edges.filter (fun edge =>
        edge.sourceNodeId ∈ (projectedNodes graph secondNode).map (·.nodeId) ∧
        edge.targetNodeId ∈ (projectedNodes graph secondNode).map (·.nodeId)) =
      sortedByKey text.edgeJson structural.edges) :
    sortedByKey text.nodeJson (projectedNodes graph secondNode) =
        sortedByKey text.nodeJson (projectedNodes structural secondNode) ∧
      sortedByKey text.edgeJson (projectedEdges text index graph secondNode selected') =
        sortedByKey text.edgeJson (projectedEdges text index structural secondNode selected') := by
  have projected : projectedNodes graph secondNode =
      sortedByKey text.nodeJson structural.nodes ++ [secondNode] :=
    projectedNodes_projected isStructural isAction nodes
  refine ⟨?_, ?_⟩
  · rw [projected, isStructural.projectedNodes_eq]
    exact sortedByKey_append _ _ _
  · have ingresses : sortedByKey (·.nodeId)
          ((projectedNodes graph secondNode).filter (·.ingress?.isSome)) =
        sortedByKey (·.nodeId)
          ((projectedNodes structural secondNode).filter (·.ingress?.isSome)) := by
      have notIngress : [secondNode].filter (·.ingress?.isSome) = [] := by
        rw [List.filter_cons_of_neg (by simp [GraphNode.ingress?, isAction']), List.filter_nil]
      rw [projected, isStructural.projectedNodes_eq, List.filter_append, List.filter_append,
        notIngress, List.append_nil, List.append_nil]
      refine sortedByKey_eq_of_perm ?_ ((sortedByKey_perm _ _).filter _)
      have distinct : ((sortedByKey text.nodeJson structural.nodes).map (·.nodeId)).Nodup :=
        ((sortedByKey_perm _ _).map _).nodup_iff.mpr structural.nodesUnique
      exact distinct.sublist (List.filter_sublist.map _)
    have calls : projectedEdges text index graph secondNode selected' =
        sortedByKey text.edgeJson structural.edges ++
          callsGiven text index structural secondNode selected' := by
      unfold projectedEdges callsGiven
      dsimp only
      rw [kept, ingresses]
    rw [calls, isStructural.projectedEdges_eq]
    exact sortedByKey_append _ _ _

/-- A second projection of the same action finds the calls to it a second time. -/
theorem not_projected_twice (isStructural : IsStructural structural)
    (isAction : firstNode.details = .customerValueAction)
    (same : firstNode.nodeId = secondNode.nodeId)
    (nodes : graph.nodes = sortedByKey text.nodeJson (projectedNodes structural firstNode))
    (edges : graph.edges = sortedByKey text.edgeJson (projectionOf text checkoutBinding index
      project structural firstNode selected).edges)
    {ingress : GraphNode} (isNode : ingress ∈ structural.nodes)
    (calls : callsAction text index selected ingress) :
    ¬ ((projectedEdges text index graph secondNode selected).map (·.edgeId)).Nodup := by
  intro distinct
  obtain ⟨edge, made⟩ :=
    (@valueCallEdge_isSome_iff text index firstNode ingress selected calls.1).mpr calls
  have madeAgain : valueCallEdge text index secondNode selected ingress = some edge := by
    unfold valueCallEdge at made ⊢
    rw [← same]
    exact made
  have projected : projectedNodes graph secondNode =
      sortedByKey text.nodeJson structural.nodes ++ [secondNode] :=
    projectedNodes_projected isStructural isAction nodes
  have isListed : ingress ∈ sortedByKey text.nodeJson structural.nodes :=
    (mem_sortedByKey _ _ _).mpr isNode
  have isEdge : edge ∈ graph.edges := by
    rw [edges, mem_sortedByKey]
    unfold projectionOf projectControlRelationships
    rw [foldl_projectIngress]
    refine sublist_foldl_appendEdge.subset ?_
    rw [mem_sortedByKey, isStructural.projectedEdges_eq, List.mem_append]
    exact .inr ((isStructural.mem_callsGiven isAction).mpr ⟨ingress, isNode, calls.1, made⟩)
  unfold projectedEdges at distinct
  dsimp only at distinct
  rw [List.map_append, projected] at distinct
  refine List.disjoint_of_nodup_append distinct (List.mem_map_of_mem (a := edge) ?_)
    (List.mem_map_of_mem (a := edge) ?_)
  · refine List.mem_filter.mpr ⟨isEdge, decide_eq_true ⟨?_, ?_⟩⟩
    · rw [(leadsTo_of_valueCallEdge made).source]
      exact List.mem_map_of_mem (List.mem_append_left _ isListed)
    · rw [(leadsTo_of_valueCallEdge madeAgain).target]
      exact List.mem_map_of_mem (List.mem_append_right _ (List.mem_singleton_self _))
  · refine List.mem_filterMap.mpr ⟨ingress, ?_, madeAgain⟩
    rw [mem_sortedByKey]
    exact List.mem_filter.mpr ⟨List.mem_append_left _ isListed, calls.1⟩

/-- The edges that a projection starts from have distinct identities in a graph. -/
theorem nodup_projectedEdges
    (edges : graph.edges = sortedByKey text.edgeJson (projectionOf text checkoutBinding index
      project structural firstNode selected).edges) :
    ((projectedEdges text index structural firstNode selected).map (·.edgeId)).Nodup := by
  have distinct := graph.edgesUnique
  rw [edges] at distinct
  have unsorted := ((sortedByKey_perm _ _).map GraphEdge.edgeId).nodup_iff.mp distinct
  unfold projectionOf projectControlRelationships at unsorted
  rw [foldl_projectIngress] at unsorted
  have started := unsorted.sublist (sublist_foldl_appendEdge.map _)
  exact ((sortedByKey_perm _ _).map _).nodup_iff.mp started

/-- The diagnostic that an ingress is given names the action. -/
theorem symbolId_of_gap {ingress : GraphNode} {diagnostic : GraphDiagnosticRecord}
    (gap : gapOfIngress text checkoutBinding index project selected ingress = some diagnostic) :
    diagnostic.symbolId = some selected := by
  unfold gapOfIngress at gap
  obtain ⟨details, -, gap⟩ := Option.bind_eq_some_iff.mp gap
  obtain ⟨chain, -, gap⟩ := Option.bind_eq_some_iff.mp gap
  obtain ⟨call, -, rfl⟩ := Option.map_eq_some_iff.mp gap
  rfl

/-- The gaps on the ways of a projection to its action. -/
def gapsFound (text : BuildText)
    (checkoutBinding : FunctionControlModel → Option CheckoutRequestBinding)
    (index : SourceIndexArtifact) (project : ParsedProject)
    (structural : PaymentSafetyGraphArtifact) (customerNode : GraphNode) (selected : SymbolId) :
    List GraphDiagnosticRecord :=
  (connectedIngresses (sortedByKey text.nodeJson (projectedNodes structural customerNode))
    (sortedByKey text.edgeJson (projectedEdges text index structural customerNode selected))
    customerNode).filterMap
      (gapOfIngress text checkoutBinding index (project.restrict index fun _ => true) selected)

theorem IsStructural.mem_gapsFound (isStructural : IsStructural structural)
    (isAction : firstNode.details = .customerValueAction)
    (distinct : ((projectedNodes structural firstNode).map (·.nodeId)).Nodup)
    {diagnostic : GraphDiagnosticRecord} :
    diagnostic ∈ gapsFound text checkoutBinding index project structural firstNode selected ↔
      ∃ ingress ∈ structural.nodes, callsAction text index selected ingress ∧
        gapOfIngress text checkoutBinding index (project.restrict index fun _ => true) selected
          ingress = some diagnostic := by
  unfold gapsFound
  rw [List.mem_filterMap]
  refine exists_congr fun ingress => ?_
  rw [isStructural.mem_connectedIngresses isAction distinct, and_assoc]

theorem diagnostics_of_projection :
    (projectionOf text checkoutBinding index project structural firstNode selected).diagnostics =
      (gapsFound text checkoutBinding index project structural firstNode selected).foldl
        appendDiagnostic structural.diagnostics := by
  unfold projectionOf projectControlRelationships
  rw [foldl_projectIngress]
  rfl

/-- Where the first action is another one or is not called, a second projection finds what it finds
on the structural graph, after the diagnostics that the first one added. -/
theorem exists_projection {second : SymbolId} (isStructural : IsStructural structural)
    (isAction : firstNode.details = .customerValueAction)
    (isAction' : secondNode.details = .customerValueAction)
    (distinct : ((projectedNodes structural firstNode).map (·.nodeId)).Nodup)
    (nodes : graph.nodes = sortedByKey text.nodeJson (projectedNodes structural firstNode))
    (edges : graph.edges = sortedByKey text.edgeJson (projectionOf text checkoutBinding index
      project structural firstNode selected).edges)
    (diagnostics : graph.diagnostics = sortedByKey text.diagnosticJson (projectionOf text
      checkoutBinding index project structural firstNode selected).diagnostics)
    (gone : firstNode.nodeId ≠ secondNode.nodeId ∧ selected ≠ second ∨
      ∀ ingress ∈ structural.nodes, ¬ callsAction text index selected ingress) :
    ∃ added more : List GraphDiagnosticRecord,
      (added = [] ↔ ∀ diagnostic ∈ gapsFound text checkoutBinding index project structural firstNode
        selected, diagnostic ∈ structural.diagnostics) ∧
      sortedByKey text.nodeJson (projectedNodes graph secondNode) =
        sortedByKey text.nodeJson (projectedNodes structural secondNode) ∧
      (projectionOf text checkoutBinding index project graph secondNode second).edges =
        (projectionOf text checkoutBinding index project structural secondNode second).edges ∧
      (projectionOf text checkoutBinding index project structural secondNode second).diagnostics =
        structural.diagnostics ++ more ∧
      sortedByKey text.diagnosticJson (projectionOf text checkoutBinding index project graph
          secondNode second).diagnostics =
        sortedByKey text.diagnosticJson (structural.diagnostics ++ added ++ more) := by
  have kept := keptEdges_projected isStructural isAction distinct nodes edges
    (gone.imp_left And.left)
  obtain ⟨sameNodes, sameEdges⟩ := @projection_projected text index structural graph firstNode
    secondNode second isStructural isAction isAction' nodes kept
  obtain ⟨added, fromGaps, none, appended⟩ := exists_appended
    (gapsFound text checkoutBinding index project structural firstNode selected)
    structural.diagnostics
  obtain ⟨more, -, -, appendedMore⟩ := exists_appended
    (gapsFound text checkoutBinding index project structural secondNode second)
    structural.diagnostics
  have gaps : gapsFound text checkoutBinding index project graph secondNode second =
      gapsFound text checkoutBinding index project structural secondNode second := by
    unfold gapsFound
    rw [sameNodes, sameEdges]
  have recorded : graph.diagnostics =
      sortedByKey text.diagnosticJson (structural.diagnostics ++ added) := by
    rw [diagnostics, diagnostics_of_projection, appended _ fun _ _ => Iff.rfl]
  have alike : ∀ diagnostic ∈ gapsFound text checkoutBinding index project structural secondNode
      second, diagnostic ∈ graph.diagnostics ↔ diagnostic ∈ structural.diagnostics := by
    intro diagnostic isGap
    rw [recorded, mem_sortedByKey, List.mem_append]
    refine or_iff_left fun isAdded => ?_
    obtain ⟨ingress, isNode, calls, gap⟩ :=
      (isStructural.mem_gapsFound isAction distinct).mp (fromGaps diagnostic isAdded)
    obtain ⟨other, -, gap'⟩ := List.mem_filterMap.mp isGap
    rcases gone with ⟨-, different⟩ | uncalled
    · refine different (Option.some.inj ?_)
      rw [← symbolId_of_gap gap, symbolId_of_gap gap']
    · exact uncalled ingress isNode calls
  refine ⟨added, more, none, sameNodes, ?_, ?_, ?_⟩
  · unfold projectionOf projectControlRelationships
    rw [foldl_projectIngress, foldl_projectIngress, sameNodes, sameEdges]
  · rw [diagnostics_of_projection, appendedMore _ fun _ _ => Iff.rfl]
  · rw [diagnostics_of_projection, gaps, appendedMore _ alike, recorded]
    exact sortedByKey_append _ _ _

end

/-- A projection onto a projected graph replaces the first projection exactly when nothing calls
the first action that is the second one too, and the first projection met no call that may not run
its callee. -/
theorem reprojection_iff (text : BuildText)
    (checkoutBinding : FunctionControlModel → Option CheckoutRequestBinding)
    (index : SourceIndexArtifact) (project : ParsedProject) (fingerprint : GraphFingerprint)
    {structural graph graph' : PaymentSafetyGraphArtifact}
    {resolution resolution' : CustomerValueResolution} {basis basis' : ResolutionBasis}
    {resolutionFingerprint resolutionFingerprint' : Sha256Digest} {first second : SymbolId}
    (isStructural : IsStructural structural)
    (unique : resolution.state = .unique) (selects : resolution.selectedSymbolId = some first)
    (unique' : resolution'.state = .unique) (selects' : resolution'.selectedSymbolId = some second)
    (apart : text.graphNodeId "CUSTOMER_VALUE_ACTION" first "" =
      text.graphNodeId "CUSTOMER_VALUE_ACTION" second "" → first = second)
    (projected : projectCustomerValue text checkoutBinding index project fingerprint structural
      resolution basis resolutionFingerprint = .ok graph)
    (projected' : projectCustomerValue text checkoutBinding index project fingerprint structural
      resolution' basis' resolutionFingerprint' = .ok graph') :
    projectCustomerValue text checkoutBinding index project fingerprint graph resolution' basis'
        resolutionFingerprint' = .ok graph' ↔
      LeavesNothing text checkoutBinding index project structural first second := by
  obtain ⟨symbol, selected⟩ := selects_of_project projected unique selects
  obtain ⟨symbol', selected'⟩ := selects_of_project projected' unique' selects'
  rw [selected.project_eq] at projected
  rw [selected'.project_eq] at projected' ⊢
  obtain ⟨diagnostics, nodes, edges⟩ := graphArtifact_eq_ok projected
  obtain ⟨ofProject, ofIndex⟩ := origin_of_graphArtifact projected
  have atSymbol : symbol.symbolId = first := by simpa using List.find?_some selected.found
  have atSymbol' : symbol'.symbolId = second := by simpa using List.find?_some selected'.found
  generalize isFirst : customerValueNode text symbol basis resolutionFingerprint = firstNode at *
  generalize isSecond : customerValueNode text symbol' basis' resolutionFingerprint' = secondNode
    at *
  have isAction : firstNode.details = .customerValueAction := by rw [← isFirst]; rfl
  have isAction' : secondNode.details = .customerValueAction := by rw [← isSecond]; rfl
  have sameSymbol : firstNode.nodeId = secondNode.nodeId → first = second := by
    rw [← isFirst, ← isSecond]
    unfold customerValueNode
    rw [atSymbol, atSymbol']
    exact apart
  have sameNode : first = second → firstNode.nodeId = secondNode.nodeId := by
    intro same
    rw [← isFirst, ← isSecond]
    unfold customerValueNode
    rw [atSymbol, atSymbol', same]
  have distinct : ((projectedNodes structural firstNode).map (·.nodeId)).Nodup := by
    have distinct := graph.nodesUnique
    rw [nodes] at distinct
    exact ((sortedByKey_perm _ _).map _).nodup_iff.mp distinct
  by_cases gone : firstNode.nodeId ≠ secondNode.nodeId ∧ first ≠ second ∨
      ∀ ingress ∈ structural.nodes, ¬ callsAction text index first ingress
  · obtain ⟨added, more, none, sameNodes, sameEdges, recorded, recorded'⟩ :=
      @exists_projection text checkoutBinding index project structural graph firstNode secondNode
        first second isStructural isAction isAction' distinct nodes edges diagnostics gone
    have nothing : LeavesNothing text checkoutBinding index project structural first second ↔
        added = [] := by
      rw [none]
      constructor
      · intro leaves diagnostic isGap
        obtain ⟨ingress, isNode, calls, gap⟩ :=
          (isStructural.mem_gapsFound isAction distinct).mp isGap
        exact (leaves ingress isNode calls).2 diagnostic gap
      · intro reported ingress isNode calls
        refine ⟨(gone.resolve_right fun uncalled => uncalled ingress isNode calls).2, ?_⟩
        intro diagnostic gap
        exact reported diagnostic ((isStructural.mem_gapsFound isAction distinct).mpr
          ⟨ingress, isNode, calls, gap⟩)
    rw [nothing, ofProject, ofIndex, sameNodes, sameEdges, recorded']
    rw [recorded] at projected'
    constructor
    · intro replaced
      have lengths := congrArg List.length ((graphArtifact_eq_ok replaced).1.symm.trans
        (graphArtifact_eq_ok projected').1)
      rw [(sortedByKey_perm _ _).length_eq, (sortedByKey_perm _ _).length_eq] at lengths
      simpa using lengths
    · rintro rfl
      rw [List.append_nil]
      exact projected'
  · have same : first = second := by
      by_contra different
      exact gone (.inl ⟨fun same => different (sameSymbol same), different⟩)
    have called : ∃ ingress ∈ structural.nodes, callsAction text index first ingress := by
      by_contra none
      exact gone (.inr fun ingress isNode calls => none ⟨ingress, isNode, calls⟩)
    obtain ⟨ingress, isNode, calls⟩ := called
    constructor
    · intro replaced
      have again := nodup_projectedEdges (graphArtifact_eq_ok replaced).2.2
      rw [← same] at again
      exact absurd again (not_projected_twice isStructural isAction (sameNode same) nodes edges
        isNode calls)
    · intro leaves
      exact absurd same (leaves ingress isNode calls).1

section Example

/-- The index of `gatedDelivery` with a function `refund` that nothing calls. -/
def refundableIndex : SourceIndexArtifact :=
  { indexOf ["webhook", "deliver", "refund"] [deliverSite] (by decide) (by decide) with
    frameworkInstances := gatedIndex.frameworkInstances
    appTargets := gatedIndex.appTargets
    routes := gatedIndex.routes
    frameworksUnique := gatedIndex.frameworksUnique }

/-- A graph with `refund` projected on it. -/
def refundProjected (structural : PaymentSafetyGraphArtifact) :
    Except String PaymentSafetyGraphArtifact :=
  projectCustomerValue plainText (fun _ => none) refundableIndex gatedDelivery
    (fun _ _ _ _ _ _ => "graph") structural ⟨.unique, some "refund", by decide⟩ .humanConfirmed
    "resolution"

/-- The projection of `deliver` is replaced by that of `refund`. -/
theorem reprojection_iff_refund :
    ∃ structural ∈ (structuralOf refundableIndex gatedDelivery).toOption,
      ∃ graph ∈ (projectedOf refundableIndex gatedDelivery structural).toOption,
      ∃ graph' ∈ (refundProjected structural).toOption, refundProjected graph = .ok graph' := by
  obtain ⟨structural, isBuilt, graph, isProjected, graph', isProjected', isStructural, noGaps⟩ :
      ∃ structural ∈ (structuralOf refundableIndex gatedDelivery).toOption,
      ∃ graph ∈ (projectedOf refundableIndex gatedDelivery structural).toOption,
      ∃ graph' ∈ (refundProjected structural).toOption, IsStructural structural ∧
      ∀ ingress ∈ structural.nodes, gapOfIngress plainText (fun _ => none) refundableIndex
        (gatedDelivery.restrict refundableIndex fun _ => true) "deliver" ingress = none := by
    decide +kernel
  refine ⟨structural, isBuilt, graph, isProjected, graph', isProjected', ?_⟩
  refine (reprojection_iff plainText (fun _ => none) refundableIndex gatedDelivery
    (fun _ _ _ _ _ _ => "graph") isStructural rfl rfl rfl rfl (by decide)
    (eq_ok_of_mem_toOption isProjected) (eq_ok_of_mem_toOption isProjected')).mpr ?_
  intro ingress isNode calls
  refine ⟨by decide, fun diagnostic gap => ?_⟩
  rw [noGaps ingress isNode] at gap
  cases gap

/-- The projection of `deliver` onto a graph with `deliver` is refused. -/
theorem reprojection_refused :
    ∃ structural ∈ (structuralOf gatedIndex gatedDelivery).toOption, IsStructural structural ∧
      ∃ graph ∈ (projectedOf gatedIndex gatedDelivery structural).toOption,
        projectedOf gatedIndex gatedDelivery graph = .error "graph edge IDs must be unique" := by
  decide +kernel

end Example

end StateGuard
