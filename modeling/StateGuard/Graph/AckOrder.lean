import StateGuard.Graph.Dominance
import StateGuard.Graph.SemanticProjection
import StateGuard.Graph.TrustGuards

/-!
# Work before an acknowledgement

An `ACKNOWLEDGES_AFTER` edge says that the work it leads to is done when its acknowledgement is
made.  Both producers of such edges ask `_work_precedes_ack`; what they say is true exactly when
the handler has no way to the acknowledgement around the work (`acknowledgesAfter_sound_iff`).
-/

namespace StateGuard

open Python

/-! ## Work -/

/-- The work is done: its statement is executed and, where the work is a call, with that call. -/
def performs (work : Stmt) (call : Option Nat) : Blocked :=
  .of fun s calls => isStmt work s && call.all (· ∈ calls)

theorem grows_performs (work : Stmt) (call : Option Nat) : (performs work call).Grows := by
  intro s calls calls' more performed
  obtain ⟨isWork, called⟩ := Bool.and_eq_true_iff.mp performed
  refine Bool.and_eq_true_iff.mpr ⟨isWork, ?_⟩
  cases call with
  | none => rfl
  | some call =>
    simp only [Option.all_some, decide_eq_true_eq] at called ⊢
    exact more called

/-- In every execution of a body that makes the acknowledgement, the work was done before: a
`return` or `raise` statement makes it when it is entered, and the end of the body when it is
reached. -/
def PerformedBefore (reads suppresses : Expr → Bool) (body : List Stmt) (work : Stmt)
    (call : Option Nat) : Option Stmt → Prop
  | some ack =>
    ∀ events exit, Runs reads suppresses [] (.block body) events exit →
      ∀ before s choices after, events = before ++ .entered s choices :: after →
        isStmt ack s = true → ∃ event ∈ before, event.hits (performs work call) = true
  | none =>
    ∀ events, Runs reads suppresses [] (.block body) events .completes →
      ∃ event ∈ events, event.hits (performs work call) = true

/-- The acknowledgement can be made without the work. -/
def acknowledgedAround (reads suppresses : Expr → Bool) (body : List Stmt) (work : Stmt)
    (call : Option Nat) : Option Stmt → Bool
  | some ack => Stmt.reachesAll reads suppresses (performs work call) (isStmt ack) body
  | none => Stmt.endsAll reads suppresses (performs work call) body .completes

theorem performedBefore_iff {reads suppresses : Expr → Bool} {body : List Stmt} {work : Stmt}
    {call : Option Nat} {ack : Option Stmt} :
    PerformedBefore reads suppresses body work call ack ↔
      acknowledgedAround reads suppresses body work call ack = false := by
  cases ack with
  | some ack => exact preceded_iff (grows_performs work call)
  | none => exact through_iff (grows_performs work call)

/-! ## Edges -/

section

variable {text : BuildText} {index : SourceIndexArtifact} {route : ReachableRoute}
  {analysis : RouteConceptAnalysis}

/-- Both producers of edges ask the same of the work. -/
theorem acknowledges_eq (ack : AcknowledgementFact) (target : RecognizedFact) :
    acknowledges route ack target =
      target.context?.any fun work => workPrecedesAck work ack route.ownerSymbolId := by
  rw [acknowledges]
  cases target.context? with
  | none => rfl
  | some work => rfl

/-- An acknowledgement and work before it, as an edge joins them. -/
def Joined (route : ReachableRoute) (analysis : RouteConceptAnalysis) (work : StatementContext)
    (ack : AcknowledgementFact) : Prop :=
  ack ∈ analysis.acknowledgements ∧ workPrecedesAck work ack route.ownerSymbolId = true

theorem joined_of_mem_ackEdges {facts : List RecognizedFact} {edge : GraphEdge}
    (membership : edge ∈ ackEdges text index route analysis facts) :
    ∃ ack, ∃ target ∈ facts, ∃ work ∈ target.context?, Joined route analysis work ack ∧
      edge.sourceNodeId = factNodeId text route (.acknowledgement ack) ∧
        edge.targetNodeId = factNodeId text route target := by
  obtain ⟨ack, isAck, made⟩ := List.mem_flatMap.mp membership
  obtain ⟨target, isTarget, made⟩ := List.mem_filterMap.mp made
  split at made
  next follows =>
    rw [acknowledges_eq] at follows
    cases made
    cases isWork : target.context? with
    | none =>
      rw [isWork] at follows
      cases follows
    | some work =>
      rw [isWork, Option.any_some] at follows
      refine ⟨ack, target, (List.mem_filter.mp isTarget).1, work, isWork, ⟨isAck, follows⟩, rfl, ?_⟩
      cases target <;> rfl
  next => cases made

theorem joined_of_valueAckEdge {nodes : List GraphNode} {customerNode : GraphNode}
    {routeId : RouteRegistrationId} {path : List CallSiteRecord} {work : StatementContext}
    {ack : AcknowledgementFact} {edge : GraphEdge} (isAck : ack ∈ analysis.acknowledgements)
    (made : valueAckEdge text index nodes customerNode routeId path route.ownerSymbolId work ack =
      some edge) :
    Joined route analysis work ack ∧ edge.targetNodeId = customerNode.nodeId := by
  obtain ⟨precedes, source, -, leads⟩ := valueAckEdge_eq_some made
  exact ⟨⟨isAck, precedes⟩, leads.target⟩

end

section Example

/-- A handler that records the event in a `try` statement and passes its exceptions over. -/
def swallowingHandler : FunctionControlModel :=
  coroutine "webhook" 1 ["request"] (readRequest ++
    [.if (node 200 6) (.unaryOp (node 201 6) .negation (compareSignature 202 6))
      [reject 230 7] [],
    .try (node 240 8) false [recordEvent 250 9]
      [.mk (node 260 10) none [.plain (node 261 11) (.other "Pass") []]] [] []]) (by decide)

/-- A handler that records the event of a request. -/
def acceptingHandler : FunctionControlModel :=
  coroutine "webhook" 1 ["request"] (readRequest ++
    [.if (node 200 6) (.unaryOp (node 201 6) .negation (compareSignature 202 6))
      [reject 230 7] [],
    recordEvent 250 8]) (by decide)

/-- The analysis of the route of a handler. -/
def analysisOf (model : FunctionControlModel) : RouteConceptAnalysis :=
  analyzeRouteConcepts plainText (fun _ => none) (webhookRoute "webhook") singleIndex
    (projectOf [model])

/-- The edge from an acknowledgement of a handler to a fact. -/
def JoinedBy (model : FunctionControlModel) (edge : GraphEdge) (ack : AcknowledgementFact)
    (target : RecognizedFact) : Prop :=
  edge ∈ ackEdges plainText singleIndex (webhookRoute "webhook") (analysisOf model)
      (routeFacts (analysisOf model)) ∧
    edge.sourceNodeId = factNodeId plainText (webhookRoute "webhook") (.acknowledgement ack) ∧
      edge.targetNodeId = factNodeId plainText (webhookRoute "webhook") target

end Example

end StateGuard
