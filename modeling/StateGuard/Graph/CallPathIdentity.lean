import StateGuard.Graph.SemanticProjection
import StateGuard.Library.Separated
import StateGuard.Library.JsonText

/-!
# The identity of a call path

A call edge of the customer-value action, and the normal control that is made of it, are identified
by the references of the calls on the path, and a reference names the caller and an ordinal among
its calls of one callee in one spelling.  The spelling itself is no part of the reference: two calls
of one callee in two spellings have one reference if their ordinals are the same
(`callSiteReference_eq_iff`).
-/

namespace StateGuard

open BreadthFirst (Links Chain)

section

variable (text : BuildText) (hashing : Hashing) (index : SourceIndexArtifact)

/-! ## Edges and controls of a path -/

/-- The texts that a digest is taken of do not collide. -/
def Uncollided (digest : String → String) (a b : List String) : Prop :=
  digest (String.intercalate "\x1f" a) = digest (String.intercalate "\x1f" b) →
    String.intercalate "\x1f" a = String.intercalate "\x1f" b

/-- What a call edge of a path is identified by. -/
def callEdgeComponents (ingressId customerId : GraphNodeId) (path : List CallSiteRecord) :
    List String :=
  [text.strip GraphEdgeKind.calls.value, ingressId, customerId, "0",
    text.strip (semanticCallEdgeDiscriminator text (pathProvenance text index path))]

/-- The call edge of a path. -/
def callEdge (customerNode ingress : GraphNode) (path : List CallSiteRecord) : GraphEdge where
  edgeId := text.graphEdgeId GraphEdgeKind.calls.value ingress.nodeId customerNode.nodeId
    (semanticCallEdgeDiscriminator text (pathProvenance text index path))
  sourceNodeId := ingress.nodeId
  targetNodeId := customerNode.nodeId
  kind := .calls
  branch := none
  provenance := pathProvenance text index path
  branchOnlyOnBranches := GraphEdgeKind.calls_unbranched

/-- The references of a path. -/
def pathReferences (path : List CallSiteRecord) : List String :=
  path.map (callSiteReference text index)

/-- What the normal control of a path is identified by. -/
def controlComponents (customerNode ingress : GraphNode) (details : PaymentIngressDetails)
    (selected : SymbolId) (fingerprint : Sha256Digest) (path : List CallSiteRecord) : List String :=
  [ingress.nodeId, details.registration.routeRegistrationId, customerNode.nodeId, selected,
    (callEdge text index customerNode ingress path).edgeId] ++ pathReferences text index path ++
      [fingerprint]

/-- A path of resolved calls from the handler of an ingress to a symbol. -/
def CallPath (ingress : GraphNode) (selected : SymbolId) (path : List CallSiteRecord) : Prop :=
  path ≠ [] ∧ Chain (callsByText text index) ingress.backingSymbolId path selected

/-- Different paths from an ingress to the action give call edges with different identities, and
normal controls with different identities. -/
def PathsApart (customerNode ingress : GraphNode) (details : PaymentIngressDetails)
    (selected : SymbolId) (fingerprint : Sha256Digest) : Prop :=
  ∀ p q, CallPath text index ingress selected p → CallPath text index ingress selected q → p ≠ q →
    Uncollided text.digest (callEdgeComponents text index ingress.nodeId customerNode.nodeId p)
      (callEdgeComponents text index ingress.nodeId customerNode.nodeId q) →
    Uncollided hashing.digest
      (controlComponents text index customerNode ingress details selected fingerprint p)
      (controlComponents text index customerNode ingress details selected fingerprint q) →
    (callEdge text index customerNode ingress p).edgeId ≠
        (callEdge text index customerNode ingress q).edgeId ∧
      hashing.normalControlId
          (controlComponents text index customerNode ingress details selected fingerprint p) ≠
        hashing.normalControlId
          (controlComponents text index customerNode ingress details selected fingerprint q)

/-- No function on a path calls the next one in two spellings. -/
def OneSpelling (ingress : GraphNode) (selected : SymbolId) : Prop :=
  ∀ p, CallPath text index ingress selected p → ∀ call ∈ p, ∀ other ∈ index.callSites,
    other.callerSymbolId = call.callerSymbolId → other.calleeSymbolId = call.calleeSymbolId →
      other.calleeReference = call.calleeReference

/-- The JSON texts of strings, `strip` and the length of a digest are as they are in Python. -/
structure PlainJson : Prop where
  quoted : ∀ s, (text.quote s).toList = JsonText.quote s
  bracketed : ∀ s, text.strip ("[" ++ s ++ "]") = "[" ++ s ++ "]"
  sized : ∀ s, (text.digest s).length = 32

end

section

variable {text : BuildText} {hashing : Hashing} {index : SourceIndexArtifact}

/-! ## The code -/

/-- The call edge of an ingress is that of the path that is found. -/
theorem valueCallEdge_eq (customerNode ingress : GraphNode) (selected : SymbolId) :
    valueCallEdge text index customerNode selected ingress =
      ((resolvedPath text index ingress.backingSymbolId selected).filter (· ≠ [])).map
        (callEdge text index customerNode ingress) := by
  rw [valueCallEdge]
  cases resolvedPath text index ingress.backingSymbolId selected with
  | none => rfl
  | some path =>
    cases path with
    | nil => rfl
    | cons call rest => rfl

/-- The normal control that a graph gives for the call edge of a path. -/
theorem controlId_of_callEdge {graph : PaymentSafetyGraphArtifact}
    {customerNode ingress : GraphNode} {selected : SymbolId} {fingerprint : Sha256Digest}
    {path : List CallSiteRecord} {control : NormalControlInstance}
    (isIngress : graph.node? ingress.nodeId = some ingress)
    (isCustomer : graph.node? customerNode.nodeId = some customerNode)
    (built : controlOfEdge hashing graph selected fingerprint
      (callEdge text index customerNode ingress path) = some control) :
    ∃ details ∈ ingress.ingress?, control.controlId = hashing.normalControlId
      (controlComponents text index customerNode ingress details selected fingerprint path) := by
  have kept : ((callEdge text index customerNode ingress path).provenance.filter
      (Python.startsWith "call-site:" ·.reference)).map (·.reference) =
        pathReferences text index path := by
    have records : (callEdge text index customerNode ingress path).provenance =
        pathProvenance text index path := rfl
    rw [records, pathProvenance, pathReferences, List.filter_eq_self.mpr, List.map_map]
    · rfl
    · intro record listed
      obtain ⟨call, -, rfl⟩ := List.mem_map.mp listed
      rw [provenance, callSiteReference, Python.startsWith, List.isPrefixOf_iff_prefix]
      simp only [String.toList_append, List.append_assoc]
      exact List.prefix_append _ _
  simp only [controlOfEdge, kept] at built
  have source : (callEdge text index customerNode ingress path).sourceNodeId = ingress.nodeId := rfl
  have target : (callEdge text index customerNode ingress path).targetNodeId =
      customerNode.nodeId := rfl
  rw [source, target, isIngress, isCustomer] at built
  obtain ⟨_, isSource, built⟩ := Option.bind_eq_some_iff.mp built
  obtain ⟨_, isTarget, built⟩ := Option.bind_eq_some_iff.mp built
  cases isSource
  cases isTarget
  obtain ⟨details, isDetails, built⟩ := Option.bind_eq_some_iff.mp built
  refine ⟨details, isDetails, ?_⟩
  split at built
  next =>
    split at built
    next =>
      cases built
      rfl
    next => cases built
  next => cases built

/-! ## References -/

/-- A reference names the caller and the ordinal of a call. -/
theorem callSiteReference_eq_iff {a b : CallSiteRecord} :
    callSiteReference text index a = callSiteReference text index b ↔
      a.callerSymbolId = b.callerSymbolId ∧
        callSiteOrdinal text index a = callSiteOrdinal text index b := by
  constructor
  · intro same
    have chars := congrArg String.toList same
    rw [callSiteReference, callSiteReference] at chars
    simp only [String.toList_append, List.append_assoc] at chars
    have tails := List.append_cancel_left chars
    obtain ⟨caller, ordinal⟩ := Separated.last_inj (Python.notMem_toString (by decide) _)
      (Python.notMem_toString (by decide) _) tails
    exact ⟨String.toList_inj.mp caller, Python.toString_injective (String.toList_inj.mp ordinal)⟩
  · rintro ⟨caller, ordinal⟩
    rw [callSiteReference, callSiteReference, caller, ordinal]

/-- Calls of one caller, one callee and one spelling are told apart by their ordinals. -/
theorem eq_of_ordinal {a b : CallSiteRecord} (isCall : a ∈ index.callSites)
    (isCall' : b ∈ index.callSites) (caller : a.callerSymbolId = b.callerSymbolId)
    (callee : a.calleeSymbolId = b.calleeSymbolId)
    (spelling : a.calleeReference = b.calleeReference)
    (ordinal : callSiteOrdinal text index a = callSiteOrdinal text index b) : a = b := by
  have peers : callSitePeers text index a = callSitePeers text index b := by
    rw [callSitePeers, callSitePeers, caller, callee, spelling]
  have listed : ∀ call ∈ index.callSites,
      call.sourceLocation ∈ (callSitePeers text index call).map (·.sourceLocation) := by
    intro call isCall
    have isPeer : call ∈ callSitePeers text index call :=
      (KeyOrder.mem_sortedByKey _ _ _).mpr (List.mem_filter.mpr ⟨isCall, by simp⟩)
    exact List.mem_map_of_mem isPeer
  rw [callSiteOrdinal, callSiteOrdinal, peers] at ordinal
  have here := listed a isCall
  rw [peers] at here
  have location := (List.idxOf_inj here).mp ordinal
  cases a
  cases b
  simp only at caller callee spelling location
  subst caller callee spelling location
  rfl

/-- Some call of a spelling has the ordinal 0. -/
theorem exists_first_peer {call : CallSiteRecord} (isCall : call ∈ index.callSites) :
    ∃ first ∈ index.callSites, first.callerSymbolId = call.callerSymbolId ∧
      first.calleeSymbolId = call.calleeSymbolId ∧
      first.calleeReference = call.calleeReference ∧ callSiteOrdinal text index first = 0 := by
  have listed : call ∈ callSitePeers text index call :=
    (KeyOrder.mem_sortedByKey _ _ _).mpr (List.mem_filter.mpr ⟨isCall, by simp⟩)
  cases peers : callSitePeers text index call with
  | nil =>
    rw [peers] at listed
    exact absurd listed List.not_mem_nil
  | cons first rest =>
    have isFirst : first ∈ callSitePeers text index call := by
      rw [peers]
      exact List.mem_cons_self
    rw [callSitePeers, KeyOrder.mem_sortedByKey, List.mem_filter, decide_eq_true_eq] at isFirst
    obtain ⟨isCall', caller, callee, spelling⟩ := isFirst
    refine ⟨first, isCall', caller, callee, spelling, ?_⟩
    have same : callSitePeers text index first = callSitePeers text index call := by
      rw [callSitePeers, callSitePeers, caller, callee, spelling]
    rw [callSiteOrdinal, same, peers, List.map_cons, List.idxOf_cons_self]

/-! ## Paths -/

theorem mem_callSites_of_chain {root symbolId : SymbolId} {path : List CallSiteRecord}
    (chain : Chain (callsByText text index) root path symbolId) :
    ∀ call ∈ path, call ∈ index.callSites ∧ call.calleeSymbolId.isSome = true := by
  induction chain with
  | nil => exact fun _ listed => absurd listed List.not_mem_nil
  | snoc _ next ih =>
    intro call listed
    rcases List.mem_append.mp listed with earlier | last
    · exact ih call earlier
    · rw [List.mem_singleton.mp last]
      have resolved := mem_resolvedCalls.mp ((KeyOrder.mem_sortedByKey _ _ _).mp next)
      exact ⟨resolved.1, resolved.2.2⟩

/-- The path with a call replaced by one of the same caller and callee. -/
theorem CallPath.replace {ingress : GraphNode} {selected : SymbolId} {a b : List CallSiteRecord}
    {call other : CallSiteRecord} (path : CallPath text index ingress selected (a ++ call :: b))
    (isCall : other ∈ index.callSites) (caller : other.callerSymbolId = call.callerSymbolId)
    (callee : other.calleeSymbolId = call.calleeSymbolId) :
    CallPath text index ingress selected (a ++ other :: b) := by
  refine ⟨by simp, path.2.replace ?_ ?_⟩
  · intro symbolId next
    have resolved := mem_resolvedCalls.mp ((KeyOrder.mem_sortedByKey _ _ _).mp next)
    refine (KeyOrder.mem_sortedByKey _ _ _).mpr (mem_resolvedCalls.mpr ⟨isCall, ?_, ?_⟩)
    · rw [caller, resolved.2.1]
    · rw [callee, resolved.2.2]
  · exact congrArg (Option.getD · "") callee

/-- Paths with the same references to one symbol have the same callers and callees. -/
theorem forall₂_of_references {root goal : SymbolId} {p q : List CallSiteRecord}
    (chain : Chain (callsByText text index) root p goal)
    (chain' : Chain (callsByText text index) root q goal)
    (same : pathReferences text index p = pathReferences text index q) :
    List.Forall₂ (fun a b => a.callerSymbolId = b.callerSymbolId ∧
      a.calleeSymbolId = b.calleeSymbolId ∧
        callSiteOrdinal text index a = callSiteOrdinal text index b) p q := by
  induction p using List.reverseRecOn generalizing q goal with
  | nil =>
    have none : q = [] := by simpa [pathReferences] using same.symm
    rw [none]
    exact .nil
  | append_singleton p a ih =>
    rcases List.eq_nil_or_concat q with rfl | ⟨q, b, rfl⟩
    · simp [pathReferences] at same
    · rw [List.concat_eq_append] at chain' same ⊢
      rw [pathReferences, pathReferences, List.map_append, List.map_append] at same
      obtain ⟨earlier, last⟩ := List.append_inj' same rfl
      obtain ⟨caller, ordinal⟩ := callSiteReference_eq_iff.mp (List.cons.inj last).1
      obtain ⟨node, before, next, target⟩ := chain.snoc_inv
      obtain ⟨node', before', next', target'⟩ := chain'.snoc_inv
      have resolved := mem_resolvedCalls.mp ((KeyOrder.mem_sortedByKey _ _ _).mp next)
      have resolved' := mem_resolvedCalls.mp ((KeyOrder.mem_sortedByKey _ _ _).mp next')
      have nodes : node = node' := by rw [← resolved.2.1, caller, resolved'.2.1]
      subst nodes
      have callee : a.calleeSymbolId = b.calleeSymbolId := by
        obtain ⟨x, isX⟩ := Option.isSome_iff_exists.mp resolved.2.2
        obtain ⟨y, isY⟩ := Option.isSome_iff_exists.mp resolved'.2.2
        have targets : a.callee = b.callee := target.symm.trans target'
        rw [CallSiteRecord.callee, CallSiteRecord.callee, isX, isY] at targets
        rw [isX, isY]
        exact congrArg some targets
      exact List.rel_append (ih before before' earlier) (.cons ⟨caller, callee, ordinal⟩ .nil)

/-- The discriminator of a call edge tells the references of its path. -/
theorem references_of_discriminator (plain : PlainJson text) {p q : List CallSiteRecord}
    (same : semanticCallEdgeDiscriminator text (pathProvenance text index p) =
      semanticCallEdgeDiscriminator text (pathProvenance text index q)) :
    pathReferences text index p = pathReferences text index q := by
  have spelled : ∀ path,
      (semanticCallEdgeDiscriminator text (pathProvenance text index path)).toList =
        JsonText.array (pathReferences text index path) := by
    intro path
    have quotes : (pathProvenance text index path).map (text.quote ·.reference) =
        (pathReferences text index path).map text.quote := by
      rw [pathProvenance, pathReferences, List.map_map, List.map_map]
      rfl
    rw [semanticCallEdgeDiscriminator, quotes]
    exact JsonText.toList_array plain.quoted _
  have arrays := congrArg String.toList same
  rw [spelled, spelled] at arrays
  have whole : JsonText.array (pathReferences text index p) ++ [] =
      JsonText.array (pathReferences text index q) ++ [] := by rw [arrays]
  exact (JsonText.selfDelimiting_array _ _ _ _ whole).1

theorem intercalate_cons_inj {first : String} {a b : List String} (nonempty : a ≠ [])
    (nonempty' : b ≠ []) (same : String.intercalate "\x1f" (first :: a) =
      String.intercalate "\x1f" (first :: b)) :
    String.intercalate "\x1f" a = String.intercalate "\x1f" b := by
  rw [String.intercalate_cons_of_ne_nil nonempty,
    String.intercalate_cons_of_ne_nil nonempty'] at same
  exact String.append_right_inj _ |>.mp same

/-- The components of a call edge tell the references of its path. -/
theorem references_of_components (plain : PlainJson text) {ingressId customerId : GraphNodeId}
    {p q : List CallSiteRecord}
    (same : String.intercalate "\x1f" (callEdgeComponents text index ingressId customerId p) =
      String.intercalate "\x1f" (callEdgeComponents text index ingressId customerId q)) :
    pathReferences text index p = pathReferences text index q := by
  have spelled : ∀ path, text.strip (semanticCallEdgeDiscriminator text
      (pathProvenance text index path)) =
        semanticCallEdgeDiscriminator text (pathProvenance text index path) :=
    fun path => plain.bracketed _
  have last := intercalate_cons_inj (by simp) (by simp) (intercalate_cons_inj (by simp) (by simp)
    (intercalate_cons_inj (by simp) (by simp) (intercalate_cons_inj (by simp) (by simp) same)))
  rw [String.intercalate_singleton, String.intercalate_singleton, spelled, spelled] at last
  exact references_of_discriminator plain last

/-- Paths with the same references have edges and controls with the same identities. -/
theorem components_of_references {customerNode ingress : GraphNode}
    {details : PaymentIngressDetails} {selected : SymbolId} {fingerprint : Sha256Digest}
    {p q : List CallSiteRecord}
    (same : pathReferences text index p = pathReferences text index q) :
    callEdgeComponents text index ingress.nodeId customerNode.nodeId p =
        callEdgeComponents text index ingress.nodeId customerNode.nodeId q ∧
      controlComponents text index customerNode ingress details selected fingerprint p =
        controlComponents text index customerNode ingress details selected fingerprint q := by
  have discriminator : semanticCallEdgeDiscriminator text (pathProvenance text index p) =
      semanticCallEdgeDiscriminator text (pathProvenance text index q) := by
    have spelled : ∀ path, (pathProvenance text index path).map (text.quote ·.reference) =
        (pathReferences text index path).map text.quote := by
      intro path
      rw [pathProvenance, pathReferences, List.map_map, List.map_map]
      rfl
    rw [semanticCallEdgeDiscriminator, semanticCallEdgeDiscriminator, spelled, spelled, same]
  refine ⟨?_, ?_⟩
  · rw [callEdgeComponents, callEdgeComponents, discriminator]
  · rw [controlComponents, controlComponents, callEdge, callEdge]
    dsimp only
    rw [discriminator, same]

/-- Controls of edges with different identities are different. -/
theorem controlComponents_ne (plain : PlainJson text) {customerNode ingress : GraphNode}
    {details : PaymentIngressDetails} {selected : SymbolId} {fingerprint : Sha256Digest}
    {p q : List CallSiteRecord}
    (different : (callEdge text index customerNode ingress p).edgeId ≠
      (callEdge text index customerNode ingress q).edgeId) :
    String.intercalate "\x1f"
        (controlComponents text index customerNode ingress details selected fingerprint p) ≠
      String.intercalate "\x1f"
        (controlComponents text index customerNode ingress details selected fingerprint q) := by
  intro same
  have opened : ∀ path,
      controlComponents text index customerNode ingress details selected fingerprint path =
        ingress.nodeId :: details.registration.routeRegistrationId :: customerNode.nodeId ::
          selected :: (callEdge text index customerNode ingress path).edgeId ::
            (pathReferences text index path ++ [fingerprint]) := fun _ => rfl
  rw [opened, opened] at same
  have rest := intercalate_cons_inj (by simp) (by simp) (intercalate_cons_inj (by simp) (by simp)
    (intercalate_cons_inj (by simp) (by simp) (intercalate_cons_inj (by simp) (by simp) same)))
  rw [String.intercalate_cons_of_ne_nil (by simp), String.intercalate_cons_of_ne_nil (by simp)]
    at rest
  have chars := congrArg String.toList rest
  simp only [String.toList_append, List.append_assoc] at chars
  have sized : ∀ path,
      (callEdge text index customerNode ingress path).edgeId.toList.length = 39 := by
    intro path
    rw [callEdge, BuildText.graphEdgeId, BuildText.stableId, String.length_toList,
      String.length_append, String.length_append, plain.sized]
    rfl
  have heads := (List.append_inj chars (by rw [sized, sized])).1
  exact different (String.toList_inj.mp heads)

end

/-- Assuming that digests do not collide, different call paths from an ingress to the action are
told apart by their edges and controls exactly if no function on a path calls the next one in two
spellings. -/
theorem pathsApart_iff (text : BuildText) (hashing : Hashing) (index : SourceIndexArtifact)
    (customerNode ingress : GraphNode) (details : PaymentIngressDetails) (selected : SymbolId)
    (fingerprint : Sha256Digest) (plain : PlainJson text) :
    PathsApart text hashing index customerNode ingress details selected fingerprint ↔
      OneSpelling text index ingress selected := by
  constructor
  · intro apart p path call listed other isCall caller callee
    by_contra different
    obtain ⟨a, b, rfl⟩ := List.append_of_mem listed
    have isCall' := (mem_callSites_of_chain path.2 call listed).1
    obtain ⟨first, isFirst, caller₁, callee₁, spelling₁, ordinal₁⟩ :=
      @exists_first_peer text index call isCall'
    obtain ⟨second, isSecond, caller₂, callee₂, spelling₂, ordinal₂⟩ :=
      @exists_first_peer text index other isCall
    have path₁ := path.replace isFirst caller₁ callee₁
    have path₂ := path.replace isSecond (caller₂.trans caller) (callee₂.trans callee)
    -- Both calls have the ordinal 0 in their spellings, so the two paths have one reference.
    have same : callSiteReference text index first = callSiteReference text index second := by
      refine callSiteReference_eq_iff.mpr ⟨?_, ordinal₁.trans ordinal₂.symm⟩
      rw [caller₁, caller₂, caller]
    have references : pathReferences text index (a ++ first :: b) =
        pathReferences text index (a ++ second :: b) := by
      simp only [pathReferences, List.map_append, List.map_cons, same]
    obtain ⟨edges, controls⟩ := @components_of_references text index customerNode ingress details
      selected fingerprint _ _ references
    have distinct : a ++ first :: b ≠ a ++ second :: b := by
      intro equal
      have heads := (List.cons.inj (List.append_cancel_left equal)).1
      refine different ?_
      rw [← spelling₁, ← spelling₂, heads]
    have apart := (apart _ _ path₁ path₂ distinct (fun _ => by rw [edges])
      fun _ => by rw [controls]).2
    exact apart (by rw [controls])
  · intro oneSpelling p q path path' different edges controls
    have edgesDiffer : (callEdge text index customerNode ingress p).edgeId ≠
        (callEdge text index customerNode ingress q).edgeId := by
      intro same
      have references := references_of_components plain
        (edges (String.append_right_inj _ |>.mp same))
      refine different (List.forall₂_eq_eq_eq ▸ ?_)
      have related := forall₂_of_references path.2 path'.2 references
      refine List.forall₂_iff_zip.mpr ⟨related.length_eq, fun {a b} zipped => ?_⟩
      obtain ⟨caller, callee, ordinal⟩ := (List.forall₂_iff_zip.mp related).2 zipped
      obtain ⟨inP, inQ⟩ := List.of_mem_zip zipped
      have isCall := (mem_callSites_of_chain path.2 a inP).1
      have isCall' := (mem_callSites_of_chain path'.2 b inQ).1
      have spelling := oneSpelling p path a inP b isCall' caller.symm callee.symm
      exact eq_of_ordinal isCall isCall' caller callee spelling.symm ordinal
    refine ⟨edgesDiffer, fun same => ?_⟩
    exact controlComponents_ne plain edgesDiffer (controls (String.append_right_inj _ |>.mp same))

/-! ### One callee in two spellings -/

section Example

/-- JSON strings, and digests of 32 characters. -/
def jsonText : BuildText :=
  { plainText with
    digest := fun s => String.ofList ((s.toList ++ List.replicate 32 '0').take 32)
    quote := fun s => String.ofList (JsonText.quote s) }

theorem plainJson_jsonText : PlainJson jsonText where
  quoted s := String.toList_ofList
  bracketed s := rfl
  sized s := by
    rw [jsonText, String.length_ofList, List.length_take, List.length_append, List.length_replicate]
    omega

/-- A call in the handler. -/
def spelledCall (spelling : String) (line : Nat) : CallSiteRecord :=
  ⟨"webhook", some "ship", spelling, ⟨"main.py", line, 4, line, 12⟩⟩

/-- A handler that calls `ship` in some spellings, line by line. -/
def shippingIndex (spellings : List String) : SourceIndexArtifact where
  projectId := "project"
  sourceIndexFingerprint := "fingerprint"
  symbols := ["webhook", "ship"].map fun symbolId =>
    ⟨symbolId, "file", symbolId, .function, ⟨"main.py", 1, 0, 1, 0⟩⟩
  callSites := spellings.zipIdx.map fun spelling => spelledCall spelling.1 spelling.2
  frameworkInstances := []
  appTargets := []
  routes := []
  routerIncludes := []
  completeness := .complete
  symbolsUnique := by decide
  frameworksUnique := List.nodup_nil
  callSitesKnown := by
    intro call listed
    obtain ⟨spelling, -, rfl⟩ := List.mem_map.mp listed
    exact ⟨List.mem_cons_self, fun callee same => by
      cases same
      exact List.mem_cons_of_mem _ List.mem_cons_self⟩

/-- The ingress of the handler. -/
def shippingDetails : PaymentIngressDetails where
  ingressKind := .webhook
  registration := ⟨"registration", "app", "app", "POST", "/webhook", "/webhook"⟩
  evidenceFamilies := ["signature"]
  checkoutRequestBinding := none

/-- A node of the graph. -/
def actionNode (symbolId : SymbolId) (details : GraphNodeDetails) : GraphNode :=
  ⟨"node:" ++ symbolId, symbolId, symbolId, details, []⟩

/-- Digests of 32 characters for the controls. -/
def jsonHashing : Hashing where
  digest := jsonText.digest
  controlJson _ := ""
  nodeJson _ := ""
  captureRule := ""
  lateRule := ""
  fulfilment _ := ""
  lateAuthorisation _ := ""
  applicability _ := ""

/-- The paths of a handler that calls `ship` in some spellings are told apart. -/
def ShippingApart (spellings : List String) : Prop :=
  PathsApart jsonText jsonHashing (shippingIndex spellings) (actionNode "ship" .customerValueAction)
    (actionNode "webhook" (.paymentIngress shippingDetails)) shippingDetails "ship" "fingerprint"

theorem callPath_spelledCall {spellings : List String} {spelling : String} {line : Nat}
    (listed : (spelling, line) ∈ spellings.zipIdx) {details : GraphNodeDetails} :
    CallPath jsonText (shippingIndex spellings) (actionNode "webhook" details) "ship"
      [spelledCall spelling line] := by
  refine ⟨List.cons_ne_nil _ _, ?_⟩
  have isCall : spelledCall spelling line ∈ (shippingIndex spellings).callSites :=
    List.mem_map_of_mem (f := fun spelling => spelledCall spelling.1 spelling.2) listed
  have next : spelledCall spelling line ∈
      (callsByText jsonText (shippingIndex spellings)).next "webhook" :=
    (KeyOrder.mem_sortedByKey _ _ _).mpr (mem_resolvedCalls.mpr ⟨isCall, rfl, rfl⟩)
  exact Chain.nil.snoc next

theorem oneSpelling_ship : OneSpelling jsonText (shippingIndex ["ship", "ship"])
    (actionNode "webhook" (.paymentIngress shippingDetails)) "ship" := by
  have spelled : ∀ call ∈ (shippingIndex ["ship", "ship"]).callSites,
      call.calleeReference = "ship" := by decide
  intro p path call listed other isCall _ _
  rw [spelled other isCall, spelled call (mem_callSites_of_chain path.2 call listed).1]

/-- Two calls in one spelling are told apart. -/
theorem pathsApart_iff_ship : ShippingApart ["ship", "ship"] :=
  (pathsApart_iff jsonText jsonHashing (shippingIndex ["ship", "ship"])
    (actionNode "ship" .customerValueAction) (actionNode "webhook" (.paymentIngress shippingDetails))
    shippingDetails "ship" "fingerprint" plainJson_jsonText).mpr oneSpelling_ship

/-- Calls of `ship` and of `orders.ship` give one call edge and one normal control. -/
theorem spellings_collide : ¬ ShippingApart ["ship", "orders.ship"] := by
  intro apart
  have references : pathReferences jsonText (shippingIndex ["ship", "orders.ship"])
      [spelledCall "ship" 0] = pathReferences jsonText (shippingIndex ["ship", "orders.ship"])
        [spelledCall "orders.ship" 1] := by decide +kernel
  obtain ⟨edges, controls⟩ := @components_of_references jsonText
    (shippingIndex ["ship", "orders.ship"]) (actionNode "ship" .customerValueAction)
    (actionNode "webhook" (.paymentIngress shippingDetails)) shippingDetails "ship" "fingerprint" _ _
    references
  have apart := (apart [spelledCall "ship" 0] [spelledCall "orders.ship" 1]
    (callPath_spelledCall (by decide)) (callPath_spelledCall (by decide)) (by decide)
    (fun _ => by rw [edges]) fun _ => by rw [controls]).2
  exact apart (by rw [controls])

end Example

end StateGuard
