import StateGuard.Graph.SemanticProjection
import StateGuard.Library.Insertion

/-!
# What a projection says of some routes

A projected graph is made of a structural graph and of a resolution.  What it says of some routes
does not depend on the basis and the fingerprint of the resolution, nor on what the structural
graph holds of other routes (`sameOn_of_project`): what each step of the projection adds for an
ingress is of the route of the ingress.

The projection drops an edge whose identity is taken, so it is assumed that edges of one identity
start at one node (`EdgesDistinct`).
-/

namespace StateGuard

open Insertion KeyOrder

/-! ## The part of a graph that is of some routes -/

/-- The route is one of some routes. -/
def isOn (routes : List RouteRegistrationId) (routeId : Option RouteRegistrationId) : Bool :=
  routeId.any (· ∈ routes)

def nodesOn (routes : List RouteRegistrationId) (nodes : List GraphNode) : List GraphNode :=
  nodes.filter fun node => isOn routes node.routeId?

/-- The edge starts at one of the nodes. -/
def startsAmong (nodes : List GraphNode) (edge : GraphEdge) : Bool :=
  edge.sourceNodeId ∈ nodes.map (·.nodeId)

def diagnosticsOn (routes : List RouteRegistrationId) (diagnostics : List GraphDiagnosticRecord) :
    List GraphDiagnosticRecord :=
  diagnostics.filter fun diagnostic => isOn routes diagnostic.routeRegistrationId

/-- Two graphs that say the same of some routes. -/
structure SameOn (routes : List RouteRegistrationId) (a b : PaymentSafetyGraphArtifact) :
    Prop where
  nodes : nodesOn routes a.nodes = nodesOn routes b.nodes
  edges : a.edges.filter (startsAmong (nodesOn routes a.nodes)) =
    b.edges.filter (startsAmong (nodesOn routes b.nodes))
  diagnostics : diagnosticsOn routes a.diagnostics = diagnosticsOn routes b.diagnostics

/-- A node of a graph whose identity is that of a node on some routes is on them. -/
theorem startsOn_iff {routes : List RouteRegistrationId} {nodes : List GraphNode}
    (distinct : (nodes.map (·.nodeId)).Nodup) {node : GraphNode} (membership : node ∈ nodes) :
    node.nodeId ∈ (nodesOn routes nodes).map (·.nodeId) ↔ isOn routes node.routeId? = true := by
  constructor
  · intro listed
    obtain ⟨other, isOther, same⟩ := List.mem_map.mp listed
    obtain ⟨isNode, on⟩ := List.mem_filter.mp isOther
    rw [← List.inj_on_of_nodup_map distinct isNode membership same]
    exact on
  · intro on
    exact List.mem_map_of_mem (List.mem_filter.mpr ⟨membership, on⟩)

/-- What is on the routes is found among what is on the routes. -/
theorem find?_nodesOn {routes : List RouteRegistrationId} {nodes : List GraphNode}
    (distinct : (nodes.map (·.nodeId)).Nodup) {nodeId : GraphNodeId}
    (listed : nodeId ∈ (nodesOn routes nodes).map (·.nodeId)) :
    nodes.find? (·.nodeId = nodeId) = (nodesOn routes nodes).find? (·.nodeId = nodeId) := by
  obtain ⟨node, isNode, rfl⟩ := List.mem_map.mp listed
  have distinctOn : ((nodesOn routes nodes).map (·.nodeId)).Nodup :=
    distinct.sublist ((List.filter_sublist).map _)
  rw [find?_of_distinct distinct (List.mem_of_mem_filter isNode),
    find?_of_distinct distinctOn isNode]

/-! ## Additions -/

/-- A structural graph with nodes, edges and diagnostics put into another. -/
structure Addition (original extended : PaymentSafetyGraphArtifact) where
  nodes : List GraphNode
  edges : List GraphEdge
  diagnostics : List GraphDiagnosticRecord
  insertsNodes : Inserts original.nodes nodes extended.nodes
  insertsEdges : Inserts original.edges edges extended.edges
  insertsDiagnostics : Inserts original.diagnostics diagnostics extended.diagnostics

/-- What was added is of none of the routes.  An edge is of the route of the node that it starts
at. -/
structure Addition.Elsewhere {original extended : PaymentSafetyGraphArtifact}
    (addition : Addition original extended) (routes : List RouteRegistrationId) : Prop where
  nodes : ∀ node ∈ addition.nodes, isOn routes node.routeId? = false
  edges : ∀ edge ∈ addition.edges, startsAmong (nodesOn routes extended.nodes) edge = false
  diagnostics : ∀ diagnostic ∈ addition.diagnostics,
    isOn routes diagnostic.routeRegistrationId = false

section

variable (text : BuildText) (checkoutBinding : FunctionControlModel → Option CheckoutRequestBinding)
  (index : SourceIndexArtifact) (project : ParsedProject)

/-! ## What an ingress is given -/

/-- The chain that is recorded for an ingress, with its route. -/
def chainOf (selected : SymbolId) (ingress : GraphNode) :
    Option (ReachableRoute × List CallSiteRecord) :=
  ingress.ingress?.bind fun details =>
    (routeOf (composeEffectiveRoutes text index).routes
      details.registration.routeRegistrationId).bind fun route =>
        ((analyzeRouteConcepts text checkoutBinding route index project).callPaths.get?
          selected).bind fun path => if path = [] then none else some (route, path)

/-- The edges that a chain gives to an ingress. -/
def edgesOfChain (nodes : List GraphNode) (customerNode : GraphNode) (route : ReachableRoute)
    (path : List CallSiteRecord) (routeId : RouteRegistrationId) : List GraphEdge :=
  let analysis := analyzeRouteConcepts text checkoutBinding route index project
  analysis.stateGates.filterMap (valueBranchEdge text index project nodes customerNode routeId path)
    ++ ((routeCallContext text project route.ownerSymbolId path).map fun work =>
      analysis.acknowledgements.filterMap (valueAckEdge text index nodes customerNode routeId path
        route.ownerSymbolId work)).getD []

/-- The edges that an ingress is given, if nothing stands in their way. -/
def edgesOfIngress (nodes : List GraphNode) (customerNode : GraphNode) (selected : SymbolId)
    (ingress : GraphNode) : List GraphEdge :=
  (ingress.ingress?.bind fun details =>
    (chainOf text checkoutBinding index project selected ingress).map fun chain =>
      edgesOfChain text checkoutBinding index project nodes customerNode chain.1 chain.2
        details.registration.routeRegistrationId).getD []

/-- The diagnostic that an ingress is given. -/
def gapOfIngress (selected : SymbolId) (ingress : GraphNode) : Option GraphDiagnosticRecord :=
  ingress.ingress?.bind fun details =>
    (chainOf text checkoutBinding index project selected ingress).bind fun chain =>
      (pathExecutionGap index project chain.2).map
        (executionGapDiagnostic details.registration.routeRegistrationId selected)

/-- What a projection does for one ingress. -/
theorem projectIngress_eq (nodes : List GraphNode) (customerNode : GraphNode) (selected : SymbolId)
    (state : Projection) (ingress : GraphNode) :
    projectIngress text checkoutBinding index project nodes customerNode selected state ingress =
      match gapOfIngress text checkoutBinding index project selected ingress with
      | some diagnostic =>
        if diagnostic ∈ state.diagnostics then state
        else { state with diagnostics := state.diagnostics ++ [diagnostic] }
      | none =>
        { state with
          edges := (edgesOfIngress text checkoutBinding index project nodes customerNode selected
            ingress).foldl appendEdge state.edges } := by
  unfold projectIngress gapOfIngress edgesOfIngress chainOf
  cases ingress.ingress? with
  | none => rfl
  | some details =>
    dsimp only [Option.bind_some]
    cases routeOf (composeEffectiveRoutes text index).routes
        details.registration.routeRegistrationId with
    | none => rfl
    | some route =>
      dsimp only [Option.bind_some]
      cases (analyzeRouteConcepts text checkoutBinding route index project).callPaths.get?
          selected with
      | none => rfl
      | some path =>
        cases path with
        | nil => rfl
        | cons call rest =>
          simp only [Option.bind_some, reduceCtorEq, if_false, Option.map_some, Option.getD_some,
            projectPath]
          cases pathExecutionGap index project (call :: rest) with
          | some gap => rfl
          | none =>
            dsimp only [Option.map_none]
            cases contexts : routeCallContext text project route.ownerSymbolId (call :: rest) with
            | none => simp [edgesOfChain, contexts]
            | some work => simp [edgesOfChain, contexts, List.foldl_append]

/-- The edges that a projection starts from or is given. -/
def offeredEdges (nodes : List GraphNode) (edges : List GraphEdge) (customerNode : GraphNode)
    (selected : SymbolId) : List GraphEdge :=
  edges ++ (connectedIngresses nodes edges customerNode).flatMap
    (edgesOfIngress text checkoutBinding index (project.restrict index fun _ => true) nodes
      customerNode selected)

end

/-- Edges of one identity start at one node.  An identity is the digest of the ends of an edge, so
this is to say that these digests do not collide. -/
def EdgesDistinct (edges : List GraphEdge) : Prop :=
  ∀ a ∈ edges, ∀ b ∈ edges, a.edgeId = b.edgeId → a.sourceNodeId = b.sourceNodeId

instance (edges : List GraphEdge) : Decidable (EdgesDistinct edges) :=
  inferInstanceAs (Decidable (∀ a ∈ edges, ∀ b ∈ edges, _ → _))

section

variable {text : BuildText} {checkoutBinding : FunctionControlModel → Option CheckoutRequestBinding}
  {index : SourceIndexArtifact} {project : ParsedProject} {routes : List RouteRegistrationId}
  {nodes : List GraphNode} {customerNode ingress : GraphNode} {selected : SymbolId}

/-! ## What is given is of the route of the ingress -/

theorem routeId_of_ingress {node : GraphNode} {details : PaymentIngressDetails}
    (isIngress : node.ingress? = some details) :
    node.routeId? = some details.registration.routeRegistrationId := by
  unfold GraphNode.ingress? at isIngress
  unfold GraphNode.routeId?
  split at isIngress
  next same =>
    cases isIngress
    rw [same]
  next => cases isIngress

theorem routeId_of_stateNode {routeId : RouteRegistrationId} {anchor : String} {node : GraphNode}
    (found : stateNode? nodes routeId anchor = some node) :
    node ∈ nodes ∧ node.routeId? = some routeId := by
  obtain ⟨membership, isGate⟩ := List.mem_filter.mp (List.mem_of_getLast? found)
  refine ⟨membership, ?_⟩
  unfold GraphNode.stateGate? at isGate
  unfold GraphNode.routeId?
  split at isGate
  next details same =>
    rw [same]
    simp only [Option.any_some, Bool.and_eq_true, decide_eq_true_eq] at isGate
    exact congrArg some isGate.1
  next => cases isGate

theorem routeId_of_ackNode {routeId : RouteRegistrationId} {anchor : String} {node : GraphNode}
    (found : ackNode? nodes routeId anchor = some node) :
    node ∈ nodes ∧ node.routeId? = some routeId := by
  obtain ⟨membership, isBoundary⟩ := List.mem_filter.mp (List.mem_of_getLast? found)
  refine ⟨membership, ?_⟩
  unfold GraphNode.acknowledgement? at isBoundary
  unfold GraphNode.routeId?
  split at isBoundary
  next details same =>
    rw [same]
    simp only [Option.any_some, Bool.and_eq_true, decide_eq_true_eq] at isBoundary
    exact congrArg some isBoundary.1
  next => cases isBoundary

/-- The edges that an ingress is given lead from nodes of its route to the action. -/
theorem leadsTo_of_edgesOfIngress {edge : GraphEdge}
    (membership : edge ∈ edgesOfIngress text checkoutBinding index project nodes customerNode
      selected ingress) :
    ∃ node ∈ nodes, node.routeId? = ingress.routeId? ∧
      ∃ kind, LeadsTo text customerNode node kind edge := by
  unfold edgesOfIngress at membership
  cases isIngress : ingress.ingress? with
  | none => simp [isIngress] at membership
  | some details =>
    cases recorded : chainOf text checkoutBinding index project selected ingress with
    | none => simp [isIngress, recorded] at membership
    | some chain =>
      rw [routeId_of_ingress isIngress]
      simp only [isIngress, recorded, Option.bind_some, Option.map_some, Option.getD_some,
        edgesOfChain, List.mem_append] at membership
      rcases membership with gate | ack
      · obtain ⟨fact, -, made⟩ := List.mem_filterMap.mp gate
        obtain ⟨source, found, leads⟩ := valueBranchEdge_eq_some made
        obtain ⟨isNode, same⟩ := routeId_of_stateNode found
        exact ⟨source, isNode, same, _, leads⟩
      · cases work : routeCallContext text project chain.1.ownerSymbolId chain.2 with
        | none => simp [work] at ack
        | some work =>
          simp only [work, Option.map_some, Option.getD_some] at ack
          obtain ⟨fact, -, made⟩ := List.mem_filterMap.mp ack
          obtain ⟨-, source, found, leads⟩ := valueAckEdge_eq_some made
          obtain ⟨isNode, same⟩ := routeId_of_ackNode found
          exact ⟨source, isNode, same, _, leads⟩

/-- The diagnostic that an ingress is given is of its route. -/
theorem routeId_of_gap {diagnostic : GraphDiagnosticRecord}
    (gap : gapOfIngress text checkoutBinding index project selected ingress = some diagnostic) :
    diagnostic.routeRegistrationId = ingress.routeId? := by
  unfold gapOfIngress at gap
  obtain ⟨details, isIngress, gap⟩ := Option.bind_eq_some_iff.mp gap
  obtain ⟨chain, -, gap⟩ := Option.bind_eq_some_iff.mp gap
  obtain ⟨call, -, rfl⟩ := Option.map_eq_some_iff.mp gap
  rw [routeId_of_ingress isIngress]
  rfl

/-! ## What is given depends on the nodes of the route -/

theorem stateNode?_nodesOn {routeId : RouteRegistrationId} (on : routeId ∈ routes)
    (anchor : String) :
    stateNode? (nodesOn routes nodes) routeId anchor = stateNode? nodes routeId anchor := by
  unfold stateNode? nodesOn
  rw [List.filter_filter]
  refine congrArg List.getLast? (List.filter_congr fun node _ => ?_)
  unfold GraphNode.stateGate? GraphNode.routeId? isOn
  cases node.details <;> simp
  rintro rfl -
  exact on

theorem ackNode?_nodesOn {routeId : RouteRegistrationId} (on : routeId ∈ routes)
    (anchor : String) :
    ackNode? (nodesOn routes nodes) routeId anchor = ackNode? nodes routeId anchor := by
  unfold ackNode? nodesOn
  rw [List.filter_filter]
  refine congrArg List.getLast? (List.filter_congr fun node _ => ?_)
  unfold GraphNode.acknowledgement? GraphNode.routeId? isOn
  cases node.details <;> simp
  rintro rfl -
  exact on

/-- An ingress on the routes is given the same whatever the other nodes are. -/
theorem edgesOfIngress_nodesOn (on : isOn routes ingress.routeId? = true) :
    edgesOfIngress text checkoutBinding index project (nodesOn routes nodes) customerNode selected
        ingress =
      edgesOfIngress text checkoutBinding index project nodes customerNode selected ingress := by
  unfold edgesOfIngress
  cases isIngress : ingress.ingress? with
  | none => rfl
  | some details =>
    have listed : details.registration.routeRegistrationId ∈ routes := by
      rw [routeId_of_ingress isIngress] at on
      simpa [isOn] using on
    have gates : valueBranchEdge text index project (nodesOn routes nodes) customerNode
        details.registration.routeRegistrationId =
        valueBranchEdge text index project nodes customerNode
          details.registration.routeRegistrationId := by
      funext path fact
      unfold valueBranchEdge
      rw [stateNode?_nodesOn listed]
    have boundaries : valueAckEdge text index (nodesOn routes nodes) customerNode
        details.registration.routeRegistrationId =
        valueAckEdge text index nodes customerNode
          details.registration.routeRegistrationId := by
      funext path owner work fact
      unfold valueAckEdge
      rw [ackNode?_nodesOn listed]
    dsimp only [Option.bind_some]
    unfold edgesOfChain
    rw [gates, boundaries]

/-! ## Edges that are appended -/

theorem mem_appendEdge {edges : List GraphEdge} {edge other : GraphEdge}
    (membership : other ∈ appendEdge edges edge) : other ∈ edges ∨ other = edge := by
  unfold appendEdge at membership
  split at membership
  next => exact .inl membership
  next => simpa using membership

/-- What keeps none of the appended edges keeps the same as before. -/
theorem filter_foldl_appendEdge {keep : GraphEdge → Bool} {edges more : List GraphEdge}
    (skips : ∀ edge ∈ more, keep edge = false) :
    (more.foldl appendEdge edges).filter keep = edges.filter keep := by
  induction more generalizing edges with
  | nil => rfl
  | cons edge more ih =>
    obtain ⟨first, rest⟩ := List.forall_mem_cons.mp skips
    rw [List.foldl_cons, ih rest, appendEdge]
    split
    next => rfl
    next =>
      rw [List.filter_append, List.filter_cons_of_neg (by simp [first]), List.filter_nil,
        List.append_nil]

/-- What two lists of edges have in common, as far as some nodes go: each is among edges that are
told apart by their identities. -/
structure EdgesAgree (among : List GraphNode) (known known' edges edges' : List GraphEdge) :
    Prop where
  same : edges.filter (startsAmong among) = edges'.filter (startsAmong among)
  left : edges ⊆ known
  right : edges' ⊆ known'

/-- An identity that an edge at the nodes has is taken in both lists or in none. -/
theorem EdgesAgree.taken {among : List GraphNode} {known known' edges edges' : List GraphEdge}
    (agree : EdgesAgree among known known' edges edges') (distinct : EdgesDistinct known)
    {edge : GraphEdge} (isKnown : edge ∈ known) (starts : startsAmong among edge = true)
    (taken : edge.edgeId ∈ edges.map (·.edgeId)) : edge.edgeId ∈ edges'.map (·.edgeId) := by
  obtain ⟨other, isOther, same⟩ := List.mem_map.mp taken
  have source := distinct other (agree.left isOther) edge isKnown same
  have otherStarts : startsAmong among other = true := by
    unfold startsAmong at starts ⊢
    rw [source]
    exact starts
  have kept : other ∈ edges'.filter (startsAmong among) := by
    rw [← agree.same]
    exact List.mem_filter.mpr ⟨isOther, otherStarts⟩
  rw [← same]
  exact List.mem_map_of_mem (List.mem_of_mem_filter kept)

theorem EdgesAgree.symm {among : List GraphNode} {known known' edges edges' : List GraphEdge}
    (agree : EdgesAgree among known known' edges edges') :
    EdgesAgree among known' known edges' edges :=
  ⟨agree.same.symm, agree.right, agree.left⟩

theorem EdgesAgree.appendEdge {among : List GraphNode}
    {known known' edges edges' : List GraphEdge}
    (agree : EdgesAgree among known known' edges edges') (distinct : EdgesDistinct known)
    (distinct' : EdgesDistinct known') {edge : GraphEdge} (isKnown : edge ∈ known)
    (isKnown' : edge ∈ known') (starts : startsAmong among edge = true) :
    EdgesAgree among known known' (appendEdge edges edge) (appendEdge edges' edge) where
  same := by
    have taken : edge.edgeId ∈ edges.map (·.edgeId) ↔ edge.edgeId ∈ edges'.map (·.edgeId) :=
      ⟨agree.taken distinct isKnown starts, agree.symm.taken distinct' isKnown' starts⟩
    unfold StateGuard.appendEdge
    by_cases isTaken : edge.edgeId ∈ edges.map (·.edgeId)
    · rw [if_pos isTaken, if_pos (taken.mp isTaken)]
      exact agree.same
    · rw [if_neg isTaken, if_neg fun other => isTaken (taken.mpr other), List.filter_append,
        List.filter_append, agree.same]
  left := by
    intro other membership
    rcases mem_appendEdge membership with earlier | rfl
    · exact agree.left earlier
    · exact isKnown
  right := by
    intro other membership
    rcases mem_appendEdge membership with earlier | rfl
    · exact agree.right earlier
    · exact isKnown'

theorem EdgesAgree.foldl {among : List GraphNode} {known known' : List GraphEdge}
    (distinct : EdgesDistinct known) (distinct' : EdgesDistinct known') {more : List GraphEdge}
    (isKnown : more ⊆ known) (isKnown' : more ⊆ known')
    (starts : ∀ edge ∈ more, startsAmong among edge = true) {edges edges' : List GraphEdge}
    (agree : EdgesAgree among known known' edges edges') :
    EdgesAgree among known known' (more.foldl StateGuard.appendEdge edges)
      (more.foldl StateGuard.appendEdge edges') := by
  induction more generalizing edges edges' with
  | nil => exact agree
  | cons edge more ih =>
    exact ih (fun _ isMore => isKnown (List.mem_cons_of_mem _ isMore))
      (fun _ isMore => isKnown' (List.mem_cons_of_mem _ isMore))
      (fun other isMore => starts other (List.mem_cons_of_mem _ isMore))
      (agree.appendEdge distinct distinct' (isKnown List.mem_cons_self)
        (isKnown' List.mem_cons_self) (starts edge List.mem_cons_self))

/-- Edges that start elsewhere are appended to one list without harm. -/
theorem EdgesAgree.foldl_elsewhere {among : List GraphNode}
    {known known' edges edges' : List GraphEdge}
    (agree : EdgesAgree among known known' edges edges') {more : List GraphEdge}
    (isKnown : more ⊆ known) (elsewhere : ∀ edge ∈ more, startsAmong among edge = false) :
    EdgesAgree among known known' (more.foldl StateGuard.appendEdge edges) edges' where
  same := (filter_foldl_appendEdge elsewhere).trans agree.same
  left := fun _ membership =>
    (mem_of_mem_foldl_appendEdge membership).elim (fun earlier => agree.left earlier)
      (fun added => isKnown added)
  right := agree.right

/-! ## One ingress -/

/-- Two projections say the same of some routes. -/
structure ProjectionsAgree (routes : List RouteRegistrationId) (among : List GraphNode)
    (known known' : List GraphEdge) (state state' : Projection) : Prop where
  edges : EdgesAgree among known known' state.edges state'.edges
  diagnostics : diagnosticsOn routes state.diagnostics = diagnosticsOn routes state'.diagnostics

theorem ProjectionsAgree.symm {among : List GraphNode} {known known' : List GraphEdge}
    {state state' : Projection} (agree : ProjectionsAgree routes among known known' state state') :
    ProjectionsAgree routes among known' known state' state :=
  ⟨agree.edges.symm, agree.diagnostics.symm⟩

/-- Where an ingress is on other routes, what it is given starts at none of the nodes. -/
theorem startsAmong_of_edgesOfIngress (distinct : (nodes.map (·.nodeId)).Nodup) {edge : GraphEdge}
    (membership : edge ∈ edgesOfIngress text checkoutBinding index project nodes customerNode
      selected ingress) :
    startsAmong (nodesOn routes nodes) edge = isOn routes ingress.routeId? := by
  obtain ⟨node, isNode, route, kind, leads⟩ := leadsTo_of_edgesOfIngress membership
  rw [Bool.eq_iff_iff, ← route, ← startsOn_iff distinct isNode, ← leads.source]
  exact decide_eq_true_iff

/-- An ingress on other routes changes nothing of the routes. -/
theorem ProjectionsAgree.skip (distinct : (nodes.map (·.nodeId)).Nodup)
    (elsewhere : isOn routes ingress.routeId? = false) {known known' : List GraphEdge}
    (isKnown : edgesOfIngress text checkoutBinding index project nodes customerNode selected
      ingress ⊆ known) {state state' : Projection}
    (agree : ProjectionsAgree routes (nodesOn routes nodes) known known' state state') :
    ProjectionsAgree routes (nodesOn routes nodes) known known'
      (projectIngress text checkoutBinding index project nodes customerNode selected state ingress)
      state' := by
  rw [projectIngress_eq]
  cases gap : gapOfIngress text checkoutBinding index project selected ingress with
  | some diagnostic =>
    dsimp only
    split
    next => exact agree
    next =>
      refine ⟨agree.edges, ?_⟩
      rw [← agree.diagnostics]
      unfold diagnosticsOn
      rw [List.filter_append, List.filter_cons_of_neg (by rw [routeId_of_gap gap, elsewhere]; simp),
        List.filter_nil, List.append_nil]
  | none =>
    refine ⟨agree.edges.foldl_elsewhere isKnown fun edge membership => ?_, agree.diagnostics⟩
    rw [startsAmong_of_edgesOfIngress distinct membership, elsewhere]

/-- An ingress on the routes adds the same to both projections. -/
theorem ProjectionsAgree.both {nodes' : List GraphNode} {customerNode' : GraphNode}
    (distinct : (nodes.map (·.nodeId)).Nodup)
    (given : edgesOfIngress text checkoutBinding index project nodes customerNode selected ingress =
      edgesOfIngress text checkoutBinding index project nodes' customerNode' selected ingress)
    (on : isOn routes ingress.routeId? = true) {known known' : List GraphEdge}
    (distinctEdges : EdgesDistinct known) (distinctEdges' : EdgesDistinct known')
    (isKnown : edgesOfIngress text checkoutBinding index project nodes customerNode selected
      ingress ⊆ known)
    (isKnown' : edgesOfIngress text checkoutBinding index project nodes' customerNode' selected
      ingress ⊆ known') {state state' : Projection}
    (agree : ProjectionsAgree routes (nodesOn routes nodes) known known' state state') :
    ProjectionsAgree routes (nodesOn routes nodes) known known'
      (projectIngress text checkoutBinding index project nodes customerNode selected state ingress)
      (projectIngress text checkoutBinding index project nodes' customerNode' selected state'
        ingress) := by
  rw [projectIngress_eq, projectIngress_eq]
  cases gap : gapOfIngress text checkoutBinding index project selected ingress with
  | some diagnostic =>
    have onRoutes : isOn routes diagnostic.routeRegistrationId = true := by
      rw [routeId_of_gap gap, on]
    have reported : diagnostic ∈ state.diagnostics ↔ diagnostic ∈ state'.diagnostics := by
      have member : ∀ diagnostics : List GraphDiagnosticRecord,
          diagnostic ∈ diagnosticsOn routes diagnostics ↔ diagnostic ∈ diagnostics := by
        intro diagnostics
        unfold diagnosticsOn
        rw [List.mem_filter]
        exact and_iff_left onRoutes
      rw [← member state.diagnostics, ← member state'.diagnostics, agree.diagnostics]
    dsimp only
    by_cases isReported : diagnostic ∈ state.diagnostics
    · rw [if_pos isReported, if_pos (reported.mp isReported)]
      exact agree
    · rw [if_neg isReported, if_neg fun other => isReported (reported.mpr other)]
      refine ⟨agree.edges, ?_⟩
      have before := agree.diagnostics
      unfold diagnosticsOn at before ⊢
      rw [List.filter_append, List.filter_append, before]
  | none =>
    dsimp only
    rw [← given] at isKnown' ⊢
    refine ⟨EdgesAgree.foldl distinctEdges distinctEdges' isKnown isKnown' ?_ agree.edges,
      agree.diagnostics⟩
    intro edge membership
    rw [startsAmong_of_edgesOfIngress distinct membership, on]

end

section

variable {text : BuildText} {checkoutBinding : FunctionControlModel → Option CheckoutRequestBinding}
  {index : SourceIndexArtifact} {project : ParsedProject} {routes : List RouteRegistrationId}
  {symbol : SymbolRecord} {basis basis' : ResolutionBasis}
  {resolutionFingerprint resolutionFingerprint' : Sha256Digest} {selected : SymbolId}
  {structural extended : PaymentSafetyGraphArtifact}

/-! ## The nodes and the edges that a projection starts from -/

theorem nodesOn_projectedNodes :
    nodesOn routes (projectedNodes structural
      (customerValueNode text symbol basis resolutionFingerprint)) =
      nodesOn routes structural.nodes := by
  unfold nodesOn projectedNodes
  rw [List.filter_append, List.filter_filter]
  have action : [customerValueNode text symbol basis resolutionFingerprint].filter
      (fun node => isOn routes node.routeId?) = [] := rfl
  rw [action, List.append_nil]
  refine List.filter_congr fun node _ => ?_
  unfold isOn GraphNode.routeId?
  cases node.details <;> simp

/-- An identity of a node is kept with the node, unless it is that of the action. -/
theorem mem_projectedIds {node : GraphNode} (membership : node ∈ structural.nodes)
    {customerNode : GraphNode} :
    node.nodeId ∈ (projectedNodes structural customerNode).map (·.nodeId) ↔
      node.details ≠ .customerValueAction ∨ node.nodeId = customerNode.nodeId := by
  unfold projectedNodes
  rw [List.map_append, List.mem_append, List.map_singleton, List.mem_singleton]
  refine or_congr_left ?_
  constructor
  · intro listed
    obtain ⟨other, isOther, same⟩ := List.mem_map.mp listed
    obtain ⟨isNode, kept⟩ := List.mem_filter.mp isOther
    rw [← List.inj_on_of_nodup_map structural.nodesUnique isNode membership same]
    simpa using kept
  · intro kept
    exact List.mem_map_of_mem (List.mem_filter.mpr ⟨membership, by simpa using kept⟩)

variable (addition : Addition structural extended)

include addition in
/-- An edge of the original keeps its ends in the one projection as in the other. -/
theorem mem_projectedIds_extended {nodeId : GraphNodeId}
    (listed : nodeId ∈ structural.nodes.map (·.nodeId)) :
    nodeId ∈ (projectedNodes structural
        (customerValueNode text symbol basis resolutionFingerprint)).map (·.nodeId) ↔
      nodeId ∈ (projectedNodes extended
        (customerValueNode text symbol basis' resolutionFingerprint')).map (·.nodeId) := by
  obtain ⟨node, membership, rfl⟩ := List.mem_map.mp listed
  rw [mem_projectedIds membership,
    mem_projectedIds (addition.insertsNodes.sublist.subset membership)]
  rfl

variable {addition}

theorem nodesOn_extended (elsewhere : addition.Elsewhere routes) :
    nodesOn routes extended.nodes = nodesOn routes structural.nodes :=
  addition.insertsNodes.filter_eq elsewhere.nodes

/-- The edges that are kept of the structural graph. -/
theorem keptEdges_extended (elsewhere : addition.Elsewhere routes) :
    (structural.edges.filter fun edge =>
        edge.sourceNodeId ∈ (projectedNodes structural
          (customerValueNode text symbol basis resolutionFingerprint)).map (·.nodeId) ∧
        edge.targetNodeId ∈ (projectedNodes structural
          (customerValueNode text symbol basis resolutionFingerprint)).map (·.nodeId)).filter
      (startsAmong (nodesOn routes structural.nodes)) =
    (extended.edges.filter fun edge =>
        edge.sourceNodeId ∈ (projectedNodes extended
          (customerValueNode text symbol basis' resolutionFingerprint')).map (·.nodeId) ∧
        edge.targetNodeId ∈ (projectedNodes extended
          (customerValueNode text symbol basis' resolutionFingerprint')).map (·.nodeId)).filter
      (startsAmong (nodesOn routes structural.nodes)) := by
  have edges : extended.edges.filter (startsAmong (nodesOn routes structural.nodes)) =
      structural.edges.filter (startsAmong (nodesOn routes structural.nodes)) := by
    refine addition.insertsEdges.filter_eq fun edge isAdded => ?_
    rw [← nodesOn_extended elsewhere]
    exact elsewhere.edges edge isAdded
  rw [List.filter_comm, List.filter_comm _ _ extended.edges, edges]
  refine List.filter_congr fun edge membership => ?_
  obtain ⟨source, target⟩ := structural.endpoints edge (List.mem_of_mem_filter membership)
  rw [decide_eq_decide]
  exact and_congr (mem_projectedIds_extended addition source)
    (mem_projectedIds_extended addition target)

/-- The ingresses of some routes among the nodes of a projection, in the order of their
identities. -/
theorem ingresses_on {customerNode : GraphNode} (action : customerNode =
      customerValueNode text symbol basis resolutionFingerprint) :
    (sortedByKey (·.nodeId) ((projectedNodes structural customerNode).filter
      (·.ingress?.isSome))).filter (fun node => isOn routes node.routeId?) =
    sortedByKey (·.nodeId) ((nodesOn routes structural.nodes).filter (·.ingress?.isSome)) := by
  rw [sortedByKey_filter, List.filter_comm, action]
  exact congrArg _ (congrArg _ nodesOn_projectedNodes)

/-- The call edges of some routes. -/
theorem callEdges_on {customerNode : GraphNode} (action : customerNode =
      customerValueNode text symbol basis resolutionFingerprint)
    (distinct : ((projectedNodes structural customerNode).map (·.nodeId)).Nodup) :
    ((sortedByKey (·.nodeId) ((projectedNodes structural customerNode).filter
        (·.ingress?.isSome))).filterMap (valueCallEdge text index customerNode selected)).filter
      (startsAmong (nodesOn routes structural.nodes)) =
    (sortedByKey (·.nodeId) ((nodesOn routes structural.nodes).filter
      (·.ingress?.isSome))).filterMap (valueCallEdge text index customerNode selected) := by
  rw [← ingresses_on action, List.filter_filterMap, List.filterMap_filter]
  refine List.filterMap_congr fun ingress membership => ?_
  have isNode : ingress ∈ projectedNodes structural customerNode :=
    List.mem_of_mem_filter ((mem_sortedByKey _ _ _).mp membership)
  have on : ingress.nodeId ∈ (nodesOn routes (projectedNodes structural customerNode)).map
      (·.nodeId) ↔ isOn routes ingress.routeId? = true := startsOn_iff distinct isNode
  rw [action, nodesOn_projectedNodes] at on
  cases made : valueCallEdge text index customerNode selected ingress with
  | none => simp
  | some edge =>
    have starts : startsAmong (nodesOn routes structural.nodes) edge =
        isOn routes ingress.routeId? := by
      rw [Bool.eq_iff_iff, ← on, ← (leadsTo_of_valueCallEdge made).source]
      exact decide_eq_true_iff
    rw [Option.filter_some, starts]

/-- What two projections start from at some routes. -/
theorem projectedEdges_on (elsewhere : addition.Elsewhere routes)
    (distinct : ((projectedNodes structural
      (customerValueNode text symbol basis resolutionFingerprint)).map (·.nodeId)).Nodup)
    (distinct' : ((projectedNodes extended
      (customerValueNode text symbol basis' resolutionFingerprint')).map (·.nodeId)).Nodup) :
    (projectedEdges text index structural
        (customerValueNode text symbol basis resolutionFingerprint) selected).filter
      (startsAmong (nodesOn routes structural.nodes)) =
    (projectedEdges text index extended
        (customerValueNode text symbol basis' resolutionFingerprint') selected).filter
      (startsAmong (nodesOn routes structural.nodes)) := by
  unfold projectedEdges
  rw [List.filter_append, List.filter_append, keptEdges_extended elsewhere,
    callEdges_on rfl distinct]
  refine congrArg _ ?_
  rw [← nodesOn_extended elsewhere, callEdges_on rfl distinct', nodesOn_extended elsewhere]
  rfl

/-- The connected ingresses of some routes. -/
theorem connectedIngresses_on {nodes nodes' : List GraphNode} {edges edges' : List GraphEdge}
    {customerNode customerNode' : GraphNode} (sameAction : customerNode.nodeId = customerNode'.nodeId)
    (sameNodes : nodesOn routes nodes = nodesOn routes nodes')
    (sameEdges : edges.filter (startsAmong (nodesOn routes nodes)) =
      edges'.filter (startsAmong (nodesOn routes nodes))) :
    (connectedIngresses nodes edges customerNode).filter (fun node => isOn routes node.routeId?) =
      (connectedIngresses nodes' edges' customerNode').filter
        (fun node => isOn routes node.routeId?) := by
  unfold connectedIngresses
  rw [List.filter_comm, List.filter_comm _ _ nodes']
  change List.filter _ (nodesOn routes nodes) = List.filter _ (nodesOn routes nodes')
  rw [← sameNodes]
  refine List.filter_congr fun node membership => ?_
  have among : ∀ edge : GraphEdge, edge.sourceNodeId = node.nodeId →
      (edge ∈ edges ↔ edge ∈ edges') := by
    intro edge source
    have starts : startsAmong (nodesOn routes nodes) edge = true := by
      refine decide_eq_true_iff.mpr ?_
      rw [source]
      exact List.mem_map_of_mem membership
    have kept : ∀ all : List GraphEdge,
        edge ∈ all.filter (startsAmong (nodesOn routes nodes)) ↔ edge ∈ all := by
      intro all
      rw [List.mem_filter]
      exact and_iff_left starts
    rw [← kept edges, ← kept edges', sameEdges]
  rw [decide_eq_decide, sameAction]
  refine and_congr_right fun _ => exists_congr fun edge => ?_
  constructor
  · rintro ⟨membership, isCall, source, target⟩
    exact ⟨(among edge source).mp membership, isCall, source, target⟩
  · rintro ⟨membership, isCall, source, target⟩
    exact ⟨(among edge source).mpr membership, isCall, source, target⟩

/-! ## The projection -/

/-- The projections of a structural graph and of one with an addition elsewhere say the same of the
routes, whatever the resolutions say of the selected action beside its symbol. -/
theorem projectControlRelationships_agree {nodes nodes' : List GraphNode}
    {edges edges' : List GraphEdge} {diagnostics diagnostics' : List GraphDiagnosticRecord}
    (distinct : (nodes.map (·.nodeId)).Nodup) (distinct' : (nodes'.map (·.nodeId)).Nodup)
    (sameNodes : nodesOn routes nodes = nodesOn routes nodes')
    (sameEdges : edges.filter (startsAmong (nodesOn routes nodes)) =
      edges'.filter (startsAmong (nodesOn routes nodes)))
    (sameDiagnostics : diagnosticsOn routes diagnostics = diagnosticsOn routes diagnostics')
    (distinctEdges : EdgesDistinct (offeredEdges text checkoutBinding index project nodes edges
      (customerValueNode text symbol basis resolutionFingerprint) selected))
    (distinctEdges' : EdgesDistinct (offeredEdges text checkoutBinding index project nodes' edges'
      (customerValueNode text symbol basis' resolutionFingerprint') selected)) :
    ProjectionsAgree routes (nodesOn routes nodes)
      (offeredEdges text checkoutBinding index project nodes edges
        (customerValueNode text symbol basis resolutionFingerprint) selected)
      (offeredEdges text checkoutBinding index project nodes' edges'
        (customerValueNode text symbol basis' resolutionFingerprint') selected)
      (projectControlRelationships text checkoutBinding index project nodes edges diagnostics
        (customerValueNode text symbol basis resolutionFingerprint) selected)
      (projectControlRelationships text checkoutBinding index project nodes' edges' diagnostics'
        (customerValueNode text symbol basis' resolutionFingerprint') selected) := by
  have given : ∀ ingress ∈ connectedIngresses nodes edges
      (customerValueNode text symbol basis resolutionFingerprint),
      edgesOfIngress text checkoutBinding index (project.restrict index fun _ => true) nodes
        (customerValueNode text symbol basis resolutionFingerprint) selected ingress ⊆
      offeredEdges text checkoutBinding index project nodes edges
        (customerValueNode text symbol basis resolutionFingerprint) selected :=
    fun ingress isIngress edge membership =>
      List.mem_append_right _ (List.mem_flatMap.mpr ⟨ingress, isIngress, membership⟩)
  have given' : ∀ ingress ∈ connectedIngresses nodes' edges'
      (customerValueNode text symbol basis' resolutionFingerprint'),
      edgesOfIngress text checkoutBinding index (project.restrict index fun _ => true) nodes'
        (customerValueNode text symbol basis' resolutionFingerprint') selected ingress ⊆
      offeredEdges text checkoutBinding index project nodes' edges'
        (customerValueNode text symbol basis' resolutionFingerprint') selected :=
    fun ingress isIngress edge membership =>
      List.mem_append_right _ (List.mem_flatMap.mpr ⟨ingress, isIngress, membership⟩)
  refine foldl_related (connectedIngresses_on rfl sameNodes sameEdges) ?_ ?_ ?_
    ⟨⟨sameEdges, List.subset_append_left _ _, List.subset_append_left _ _⟩, sameDiagnostics⟩
  · intro ingress isIngress elsewhere state state' agree
    exact agree.skip distinct elsewhere (given ingress isIngress)
  · intro ingress isIngress elsewhere state state' agree
    have turned := agree.symm
    rw [sameNodes] at turned ⊢
    exact (turned.skip distinct' elsewhere (given' ingress isIngress)).symm
  · intro ingress isIngress isIngress' on state state' agree
    refine agree.both distinct ?_ on distinctEdges distinctEdges' (given ingress isIngress)
      (given' ingress isIngress')
    rw [← edgesOfIngress_nodesOn on, sameNodes, edgesOfIngress_nodesOn on]
    rfl

theorem startsAmong_sorted {key : GraphNode → String} {nodes : List GraphNode} :
    startsAmong (sortedByKey key nodes) = startsAmong nodes := by
  funext edge
  exact decide_eq_decide.mpr ((sortedByKey_perm key nodes).map _).mem_iff

end

section

variable (text : BuildText) (checkoutBinding : FunctionControlModel → Option CheckoutRequestBinding)
  (index : SourceIndexArtifact) (project : ParsedProject)

/-- The edges that the projection of a symbol on a structural graph starts from or is given. -/
def projectionEdges (structural : PaymentSafetyGraphArtifact) (symbol : SymbolRecord)
    (basis : ResolutionBasis) (resolutionFingerprint : Sha256Digest) (selected : SymbolId) :
    List GraphEdge :=
  let customerNode := customerValueNode text symbol basis resolutionFingerprint
  offeredEdges text checkoutBinding index project
    (sortedByKey text.nodeJson (projectedNodes structural customerNode))
    (sortedByKey text.edgeJson (projectedEdges text index structural customerNode selected))
    customerNode selected

end

/-! ## Identities that are digests -/

section

variable {text : BuildText} {checkoutBinding : FunctionControlModel → Option CheckoutRequestBinding}
  {index : SourceIndexArtifact} {project : ParsedProject}

/-- The identity of an edge is the digest of components of which the second is its source. -/
def Keyed (text : BuildText) (key : List String) (edge : GraphEdge) : Prop :=
  edge.edgeId = text.stableId "sgedge" key ∧ key[1]? = some edge.sourceNodeId

/-- Where the digests do not collide, edges are told apart by their identities. -/
theorem edgesDistinct_of_keyed {key : GraphEdge → List String} {edges : List GraphEdge}
    (distinct : DistinctDigests text (edges.map key))
    (keyed : ∀ edge ∈ edges, Keyed text (key edge) edge) : EdgesDistinct edges := by
  intro a isA b isB same
  obtain ⟨atA, sourceA⟩ := keyed a isA
  obtain ⟨atB, sourceB⟩ := keyed b isB
  rw [atA, atB] at same
  have keys := distinct.stableId (List.mem_map_of_mem isA) (List.mem_map_of_mem isB) same
  rw [keys, sourceB] at sourceA
  exact (Option.some.inj sourceA).symm

theorem LeadsTo.keyed {customerNode source : GraphNode} {kind : GraphEdgeKind} {edge : GraphEdge}
    (leads : LeadsTo text customerNode source kind edge) : ∃ key, Keyed text key edge := by
  obtain ⟨discriminator, identity⟩ := leads.identity
  exact ⟨_, identity, congrArg some leads.source.symm⟩

/-- The identities of the edges of a projection are digests where those of the structural graph
are. -/
theorem keyed_of_projectionEdges {structural : PaymentSafetyGraphArtifact} {symbol : SymbolRecord}
    {basis : ResolutionBasis} {resolutionFingerprint : Sha256Digest} {selected : SymbolId}
    (built : ∀ edge ∈ structural.edges, ∃ key, Keyed text key edge) {edge : GraphEdge}
    (membership : edge ∈ projectionEdges text checkoutBinding index project structural symbol basis
      resolutionFingerprint selected) : ∃ key, Keyed text key edge := by
  unfold projectionEdges offeredEdges at membership
  rw [List.mem_append, mem_sortedByKey, projectedEdges, List.mem_append] at membership
  rcases membership with (kept | call) | given
  · exact built edge (List.mem_of_mem_filter kept)
  · obtain ⟨ingress, -, made⟩ := List.mem_filterMap.mp call
    exact (leadsTo_of_valueCallEdge made).keyed
  · obtain ⟨ingress, -, isGiven⟩ := List.mem_flatMap.mp given
    obtain ⟨node, -, -, kind, leads⟩ := leadsTo_of_edgesOfIngress isGiven
    exact leads.keyed

end

/-! ## What two projections have in common -/

section

variable (text : BuildText) (checkoutBinding : FunctionControlModel → Option CheckoutRequestBinding)
  (index : SourceIndexArtifact) (project : ParsedProject)

/-- What a projection that selects a symbol is made of. -/
structure ProjectionMade (structural graph : PaymentSafetyGraphArtifact) (symbol : SymbolRecord)
    (customerNode : GraphNode) (selected : SymbolId) : Prop where
  found : symbol? index selected = some symbol
  nodes : graph.nodes = sortedByKey text.nodeJson (projectedNodes structural customerNode)
  edges : graph.edges = sortedByKey text.edgeJson
    (projectionOf text checkoutBinding index project structural customerNode selected).edges
  diagnostics : graph.diagnostics = sortedByKey text.diagnosticJson
    (projectionOf text checkoutBinding index project structural customerNode selected).diagnostics

end

section

variable {text : BuildText} {checkoutBinding : FunctionControlModel → Option CheckoutRequestBinding}
  {index : SourceIndexArtifact} {project : ParsedProject} {fingerprint : GraphFingerprint}
  {structural extended graph graph' : PaymentSafetyGraphArtifact}
  {resolution resolution' : CustomerValueResolution} {basis basis' : ResolutionBasis}
  {resolutionFingerprint resolutionFingerprint' : Sha256Digest} {selected : SymbolId}
  {symbol : SymbolRecord} {routes : List RouteRegistrationId}

theorem projectionMade_of_project
    (projected : projectCustomerValue text checkoutBinding index project fingerprint structural
      resolution basis resolutionFingerprint = .ok graph)
    (unique : resolution.state = .unique) (selects : resolution.selectedSymbolId = some selected) :
    ∃ symbol, ProjectionMade text checkoutBinding index project structural graph symbol
      (customerValueNode text symbol basis resolutionFingerprint) selected := by
  unfold projectCustomerValue at projected
  rw [unique, selects] at projected
  dsimp only at projected
  split at projected
  next => cases projected
  next symbol found =>
    split at projected
    next => cases projected
    next =>
      obtain ⟨diagnostics, nodes, edges⟩ := graphArtifact_eq_ok projected
      exact ⟨symbol, found, nodes, edges, diagnostics⟩

theorem ProjectionMade.distinct {customerNode : GraphNode}
    (made : ProjectionMade text checkoutBinding index project structural graph symbol customerNode
      selected) :
    ((projectedNodes structural customerNode).map (·.nodeId)).Nodup := by
  have distinct := graph.nodesUnique
  rw [made.nodes] at distinct
  exact ((sortedByKey_perm _ _).map _).nodup_iff.mp distinct

theorem ProjectionMade.nodes_on
    (made : ProjectionMade text checkoutBinding index project structural graph symbol
      (customerValueNode text symbol basis resolutionFingerprint) selected) :
    nodesOn routes graph.nodes = sortedByKey text.nodeJson (nodesOn routes structural.nodes) := by
  rw [made.nodes]
  exact (sortedByKey_filter _ _ _).trans (congrArg _ nodesOn_projectedNodes)

/-- Two projections that select one symbol say the same of the routes that nothing was added to. -/
theorem sameOn_of_projections {addition : Addition structural extended}
    (elsewhere : addition.Elsewhere routes)
    (made : ProjectionMade text checkoutBinding index project structural graph symbol
      (customerValueNode text symbol basis resolutionFingerprint) selected)
    (made' : ProjectionMade text checkoutBinding index project extended graph' symbol
      (customerValueNode text symbol basis' resolutionFingerprint') selected)
    (distinct : EdgesDistinct (projectionEdges text checkoutBinding index project structural symbol
      basis resolutionFingerprint selected))
    (distinct' : EdgesDistinct (projectionEdges text checkoutBinding index project extended symbol
      basis' resolutionFingerprint' selected)) :
    SameOn routes graph graph' := by
  have nodes : nodesOn routes graph.nodes = nodesOn routes graph'.nodes := by
    rw [made.nodes_on, made'.nodes_on, nodesOn_extended elsewhere]
  have among : startsAmong (nodesOn routes graph.nodes) =
      startsAmong (nodesOn routes structural.nodes) := by
    rw [made.nodes_on, startsAmong_sorted]
  have diagnostics : diagnosticsOn routes structural.diagnostics =
      diagnosticsOn routes extended.diagnostics :=
    (addition.insertsDiagnostics.filter_eq elsewhere.diagnostics).symm
  have distinctNodes : ((sortedByKey text.nodeJson (projectedNodes structural
      (customerValueNode text symbol basis resolutionFingerprint))).map (·.nodeId)).Nodup := by
    rw [← made.nodes]
    exact graph.nodesUnique
  have distinctNodes' : ((sortedByKey text.nodeJson (projectedNodes extended
      (customerValueNode text symbol basis' resolutionFingerprint'))).map (·.nodeId)).Nodup := by
    rw [← made'.nodes]
    exact graph'.nodesUnique
  have edges : (projectedEdges text index structural
        (customerValueNode text symbol basis resolutionFingerprint) selected).filter
        (startsAmong (nodesOn routes structural.nodes)) =
      (projectedEdges text index extended
        (customerValueNode text symbol basis' resolutionFingerprint') selected).filter
        (startsAmong (nodesOn routes structural.nodes)) :=
    projectedEdges_on elsewhere made.distinct made'.distinct
  have agree := projectControlRelationships_agree distinctNodes distinctNodes'
    (by rw [← made.nodes, ← made'.nodes]; exact nodes)
    (by
      rw [← made.nodes, among, sortedByKey_filter, sortedByKey_filter]
      exact congrArg _ edges) diagnostics distinct distinct'
  constructor
  · exact nodes
  · rw [← nodes, made.edges, made'.edges, sortedByKey_filter, sortedByKey_filter, made.nodes]
    exact congrArg _ agree.edges.same
  · unfold diagnosticsOn
    rw [made.diagnostics, made'.diagnostics, sortedByKey_filter, sortedByKey_filter]
    exact congrArg _ agree.diagnostics

end

end StateGuard
