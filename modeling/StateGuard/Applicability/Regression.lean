import StateGuard.Applicability.Engine

/-!
# The mutations a regression assertion tracks

`regressionMutationsForControl` collects the assignments of a control's route into a
dictionary by carrier and assigned state, so of several statements that assign one state to
one carrier the last one remains.  `BranchAssigns` says what an assignment of the route is,
without the dictionary; `mem_regressionMutations` says that the tracked mutations are the
last assignments of each state to the carriers that receive both states.
-/

namespace StateGuard

open KeyOrder

/-! ## The assignments of a route -/

/-- An edge leads from a state gate of the route into an assignment of a state under a branch
of that state. -/
structure AssignmentEdge (graph : PaymentSafetyGraphArtifact) (control : NormalControlInstance)
    (edge : GraphEdge) (carrier : MerchantStateCarrierId) (assigned : AssignedPaymentState)
    (node : GraphNode) : Prop where
  branch : ∃ states ∈ edge.matchedStates?, assigned.value ∈ states.map paymentState
  gate : ∃ gate ∈ graph.node? edge.sourceNodeId, ∃ details ∈ gate.stateGate?,
    details.routeRegistrationId = control.routeRegistrationId
  target : graph.node? edge.targetNodeId = some node
  mutation : ∃ details ∈ node.mutation?, details.carrierReference = carrier ∧
    details.assignedPaymentState = some assigned ∧
    details.routeRegistrationId = control.routeRegistrationId

theorem regressionAssignment_eq_some {graph : PaymentSafetyGraphArtifact}
    {control : NormalControlInstance} {edge : GraphEdge} {carrier : MerchantStateCarrierId}
    {assigned : AssignedPaymentState} {node : GraphNode} :
    regressionAssignment graph control edge = some (carrier, assigned, node) ↔
      AssignmentEdge graph control edge carrier assigned node := by
  simp only [regressionAssignment, Option.bind_eq_bind, Option.bind_eq_some_iff]
  constructor
  · rintro ⟨states, matched, gate, foundGate, gateDetails, isGate, mutation, foundMutation, details,
      isMutation, state, isState, selected⟩
    split at selected
    next conditions =>
      cases selected
      obtain ⟨sameRoute, sameGateRoute, branch⟩ := conditions
      exact ⟨⟨states, matched, branch⟩, ⟨gate, foundGate, gateDetails, isGate, sameGateRoute⟩,
        foundMutation, ⟨details, isMutation, rfl, isState, sameRoute⟩⟩
    next => cases selected
  · intro assignment
    obtain ⟨states, matched, branch⟩ := assignment.branch
    obtain ⟨gate, foundGate, gateDetails, isGate, sameGateRoute⟩ := assignment.gate
    obtain ⟨details, isMutation, rfl, isState, sameRoute⟩ := assignment.mutation
    exact ⟨states, matched, gate, foundGate, gateDetails, isGate, node, assignment.target, details,
      isMutation, assigned, isState, by rw [if_pos ⟨sameRoute, sameGateRoute, branch⟩]⟩

/-- A mutation of the route assigns a state to a carrier under a branch of that state. -/
def BranchAssigns (graph : PaymentSafetyGraphArtifact) (control : NormalControlInstance)
    (carrier : MerchantStateCarrierId) (assigned : AssignedPaymentState) (node : GraphNode) :
    Prop :=
  ∃ edge ∈ graph.edges, AssignmentEdge graph control edge carrier assigned node

/-- The statements that assign a state to a carrier, in the order of the graph's edges. -/
def statements (graph : PaymentSafetyGraphArtifact) (control : NormalControlInstance)
    (carrier : MerchantStateCarrierId) (assigned : AssignedPaymentState) : List GraphNode :=
  Dict.listed (graph.edges.filterMap (regressionAssignment graph control)) carrier assigned

theorem mem_statements {graph : PaymentSafetyGraphArtifact} {control : NormalControlInstance}
    {carrier : MerchantStateCarrierId} {assigned : AssignedPaymentState} {node : GraphNode} :
    node ∈ statements graph control carrier assigned ↔
      BranchAssigns graph control carrier assigned node := by
  simp only [statements, Dict.mem_listed, List.mem_filterMap, regressionAssignment_eq_some,
    BranchAssigns]

namespace BranchAssigns

variable {graph : PaymentSafetyGraphArtifact} {control : NormalControlInstance}
  {carrier other : MerchantStateCarrierId} {assigned state : AssignedPaymentState}
  {node : GraphNode}

/-- An assignment is found in the graph under its identity. -/
theorem node? (assigns : BranchAssigns graph control carrier assigned node) :
    graph.node? node.nodeId = some node := by
  obtain ⟨edge, -, assignment⟩ := assigns
  obtain ⟨-, same⟩ := graph.node?_eq_some assignment.target
  rw [same]
  exact assignment.target

theorem assignedPaymentState (assigns : BranchAssigns graph control carrier assigned node) :
    node.mutation?.bind (·.assignedPaymentState) = some assigned := by
  obtain ⟨edge, -, assignment⟩ := assigns
  obtain ⟨details, isMutation, -, isState, -⟩ := assignment.mutation
  rw [Option.mem_def] at isMutation
  rw [isMutation]
  exact isState

/-- A mutation assigns to one carrier only. -/
theorem carrier_unique (assigns : BranchAssigns graph control carrier assigned node)
    (also : BranchAssigns graph control other state node) : carrier = other := by
  obtain ⟨edge, -, assignment⟩ := assigns
  obtain ⟨otherEdge, -, otherAssignment⟩ := also
  obtain ⟨details, isMutation, rfl, -⟩ := assignment.mutation
  obtain ⟨otherDetails, isOther, rfl, -⟩ := otherAssignment.mutation
  rw [Option.mem_unique isMutation isOther]

end BranchAssigns

/-! ## Tracked carriers -/

/-- Both states are assigned to the carrier on the control's route. -/
def TrackedCarrier (graph : PaymentSafetyGraphArtifact) (control : NormalControlInstance)
    (carrier : MerchantStateCarrierId) : Prop :=
  ∀ assigned, ∃ node, BranchAssigns graph control carrier assigned node

/-- The last statement that assigns a state to a carrier: the one the dictionary keeps. -/
def lastStatement? (graph : PaymentSafetyGraphArtifact) (control : NormalControlInstance)
    (carrier : MerchantStateCarrierId) (assigned : AssignedPaymentState) : Option GraphNode :=
  (statements graph control carrier assigned).getLast?

/-- The last statement is one of the statements. -/
theorem lastStatement?_assigns {graph : PaymentSafetyGraphArtifact}
    {control : NormalControlInstance} {carrier : MerchantStateCarrierId}
    {assigned : AssignedPaymentState} {node : GraphNode}
    (last : lastStatement? graph control carrier assigned = some node) :
    BranchAssigns graph control carrier assigned node :=
  mem_statements.mp (List.mem_of_getLast? last)

/-- A carrier that receives a state has a last statement that assigns it. -/
theorem exists_lastStatement? {graph : PaymentSafetyGraphArtifact}
    {control : NormalControlInstance} {carrier : MerchantStateCarrierId}
    {assigned : AssignedPaymentState} {node : GraphNode}
    (assigns : BranchAssigns graph control carrier assigned node) :
    ∃ last, lastStatement? graph control carrier assigned = some last := by
  have nonempty : statements graph control carrier assigned ≠ [] :=
    List.ne_nil_of_mem (mem_statements.mpr assigns)
  exact ⟨_, List.getLast?_eq_some_getLast nonempty⟩

/-- What the dictionary of a carrier holds. -/
theorem get?_mutationsByCarrier {graph : PaymentSafetyGraphArtifact}
    {control : NormalControlInstance} {carrier : MerchantStateCarrierId}
    {values : Dict AssignedPaymentState GraphNode}
    (found : (mutationsByCarrier graph control).get? carrier = some values)
    (assigned : AssignedPaymentState) :
    values.get? assigned = lastStatement? graph control carrier assigned :=
  Dict.get?_of_get?_group found assigned

/-- The dictionary of a carrier holds both states when the carrier is tracked. -/
theorem assignsBoth_iff {graph : PaymentSafetyGraphArtifact} {control : NormalControlInstance}
    {carrier : MerchantStateCarrierId} {values : Dict AssignedPaymentState GraphNode}
    (found : (mutationsByCarrier graph control).get? carrier = some values) :
    AssignsBoth values ↔ TrackedCarrier graph control carrier := by
  have key (assigned : AssignedPaymentState) :
      assigned ∈ values.keys ↔ ∃ node, BranchAssigns graph control carrier assigned node := by
    rw [← Dict.isSome_get?, get?_mutationsByCarrier found, Option.isSome_iff_exists]
    constructor
    · rintro ⟨node, last⟩
      exact ⟨node, lastStatement?_assigns last⟩
    · rintro ⟨node, assigns⟩
      exact exists_lastStatement? assigns
  rw [AssignsBoth, key, key]
  constructor
  · rintro ⟨authorized, captured⟩ assigned
    cases assigned with
    | authorized => exact authorized
    | captured => exact captured
  · intro tracked
    exact ⟨tracked .authorized, tracked .captured⟩

/-- A tracked carrier has its dictionary. -/
theorem exists_mutationsByCarrier {graph : PaymentSafetyGraphArtifact}
    {control : NormalControlInstance} {carrier : MerchantStateCarrierId}
    (tracked : TrackedCarrier graph control carrier) :
    ∃ values, (mutationsByCarrier graph control).get? carrier = some values := by
  obtain ⟨node, edge, isEdge, assignment⟩ := tracked .captured
  refine Dict.exists_get? ((Dict.mem_keys_group _ _).mpr ?_)
  exact List.mem_map_of_mem (f := Prod.fst)
    (List.mem_filterMap.mpr ⟨edge, isEdge, regressionAssignment_eq_some.mpr assignment⟩)

/-- The tracked mutations are the last statements of the tracked carriers. -/
theorem mem_regressionMutations {hashing : Hashing} {graph : PaymentSafetyGraphArtifact}
    {control : NormalControlInstance} {node : GraphNode} :
    node ∈ regressionMutationsForControl hashing graph control ↔
      ∃ carrier, TrackedCarrier graph control carrier ∧
        ∃ assigned, lastStatement? graph control carrier assigned = some node := by
  -- One dictionary of the complete ones, and a value in it.
  have value (node : GraphNode) :
      (∃ values ∈ (mutationsByCarrier graph control).values.filter (AssignsBoth ·),
          node ∈ values.values) ↔
        ∃ carrier, TrackedCarrier graph control carrier ∧
          ∃ assigned, lastStatement? graph control carrier assigned = some node := by
    constructor
    · rintro ⟨values, selected, isValue⟩
      obtain ⟨isValues, both⟩ := List.mem_filter.mp selected
      obtain ⟨carrier, found⟩ := Dict.mem_values.mp isValues
      obtain ⟨assigned, isNode⟩ := Dict.mem_values.mp isValue
      refine ⟨carrier, (assignsBoth_iff found).mp (by simpa using both), assigned, ?_⟩
      rw [← get?_mutationsByCarrier found]
      exact isNode
    · rintro ⟨carrier, tracked, assigned, last⟩
      obtain ⟨values, found⟩ := exists_mutationsByCarrier tracked
      refine ⟨values, List.mem_filter.mpr ⟨Dict.mem_values.mpr ⟨carrier, found⟩, ?_⟩,
        Dict.mem_values.mpr ⟨assigned, ?_⟩⟩
      · simpa using (assignsBoth_iff found).mpr tracked
      · rw [get?_mutationsByCarrier found]
        exact last
  rw [regressionMutationsForControl, mem_sortedByKey, Dict.mem_values_ofList]
  · simp only [List.map_flatMap, List.mem_flatMap, List.map_map, Function.comp_def, List.map_id',
      value]
  · -- The identity of a node determines it.
    intro one isOne another isAnother same
    have known (pair : GraphNodeId × GraphNode)
        (membership : pair ∈ ((mutationsByCarrier graph control).values.filter
          (AssignsBoth ·)).flatMap fun values =>
            values.values.map fun node => (node.nodeId, node)) :
        graph.node? pair.1 = some pair.2 := by
      obtain ⟨values, selected, isPair⟩ := List.mem_flatMap.mp membership
      obtain ⟨node, isNode, rfl⟩ := List.mem_map.mp isPair
      obtain ⟨carrier, -, assigned, last⟩ := (value node).mp ⟨values, selected, isNode⟩
      exact (lastStatement?_assigns last).node?
    have found := known one isOne
    rw [same, known another isAnother] at found
    exact (Option.some.inj found).symm

end StateGuard
