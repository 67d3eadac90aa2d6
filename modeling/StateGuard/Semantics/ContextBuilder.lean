import Mathlib.Data.List.Dedup
import StateGuard.Contracts.Untrusted
import StateGuard.Library.BreadthFirst
import StateGuard.Semantics.Context
import StateGuard.Semantics.Mapper

/-!
# Building a semantic context

`buildSemanticContext` follows the resolved calls from the payment ingresses, takes the evidence of
the symbols it meets, and says which of them a model is shown.  What it could not see becomes a
diagnostic, and a context without diagnostics is complete.

`Reached` says without a search which symbols are relevant.  A context is complete when all that is
reached is shown and every relevant call is resolved (`complete_iff`); it stands for the text of
the relevant definitions when two contexts with one fingerprint have the same text
(`sameSource_iff`).
-/

namespace StateGuard

namespace Semantics

open KeyOrder BreadthFirst Python Checks

/-! ## Diagnostics of the source index -/

inductive DiagnosticImpact where
  | coverageReduced | notice
  deriving DecidableEq, Repr

inductive AnalysisDiagnosticCode where
  | unreadableDirectory | unreadableFile | symlinkSkipped | invalidSourceEncoding | syntaxError
  | moduleNameCollision | unresolvedRelativeImport | wildcardImport | ambiguousFrameworkBinding
  | dynamicFrameworkConstruction | dynamicRouterPrefix | dynamicRoutePath | dynamicRouteMethods
  | dynamicRouteRegistration | unresolvedRouterInclude | automaticAppTargetMissing
  | automaticAppTargetAmbiguous | configuredAppTargetMissing | configuredAppTargetAmbiguous
  | configuredAppTargetUnparsable | configuredAppTargetNotFastapi
  deriving DecidableEq, Repr

def AnalysisDiagnosticCode.value : AnalysisDiagnosticCode → String
  | .unreadableDirectory => "UNREADABLE_DIRECTORY"
  | .unreadableFile => "UNREADABLE_FILE"
  | .symlinkSkipped => "SYMLINK_SKIPPED"
  | .invalidSourceEncoding => "INVALID_SOURCE_ENCODING"
  | .syntaxError => "SYNTAX_ERROR"
  | .moduleNameCollision => "MODULE_NAME_COLLISION"
  | .unresolvedRelativeImport => "UNRESOLVED_RELATIVE_IMPORT"
  | .wildcardImport => "WILDCARD_IMPORT"
  | .ambiguousFrameworkBinding => "AMBIGUOUS_FRAMEWORK_BINDING"
  | .dynamicFrameworkConstruction => "DYNAMIC_FRAMEWORK_CONSTRUCTION"
  | .dynamicRouterPrefix => "DYNAMIC_ROUTER_PREFIX"
  | .dynamicRoutePath => "DYNAMIC_ROUTE_PATH"
  | .dynamicRouteMethods => "DYNAMIC_ROUTE_METHODS"
  | .dynamicRouteRegistration => "DYNAMIC_ROUTE_REGISTRATION"
  | .unresolvedRouterInclude => "UNRESOLVED_ROUTER_INCLUDE"
  | .automaticAppTargetMissing => "AUTOMATIC_APP_TARGET_MISSING"
  | .automaticAppTargetAmbiguous => "AUTOMATIC_APP_TARGET_AMBIGUOUS"
  | .configuredAppTargetMissing => "CONFIGURED_APP_TARGET_MISSING"
  | .configuredAppTargetAmbiguous => "CONFIGURED_APP_TARGET_AMBIGUOUS"
  | .configuredAppTargetUnparsable => "CONFIGURED_APP_TARGET_UNPARSABLE"
  | .configuredAppTargetNotFastapi => "CONFIGURED_APP_TARGET_NOT_FASTAPI"

structure AnalysisDiagnosticRecord where
  code : AnalysisDiagnosticCode
  impact : DiagnosticImpact := .coverageReduced
  path : Option String := none
  sourceLocation : Option SourceLocation := none
  deriving DecidableEq, Repr

/-- `item.path or item.source_location.path`. -/
def AnalysisDiagnosticRecord.affectedPath (item : AnalysisDiagnosticRecord) : Option String :=
  (item.path.filter (· ≠ "")).or (item.sourceLocation.map (·.path))

/-- `GraphDiagnosticCode.value`. -/
def graphDiagnosticValue : GraphDiagnosticCode → String
  | .upstreamSourceIndexPartial => "UPSTREAM_SOURCE_INDEX_PARTIAL"
  | .appTargetUnselected => "APP_TARGET_UNSELECTED"
  | .routeCompositionUnresolved => "ROUTE_COMPOSITION_UNRESOLVED"
  | .routeCompositionCycle => "ROUTE_COMPOSITION_CYCLE"
  | .unresolvedStructuralCandidate => "UNRESOLVED_STRUCTURAL_CANDIDATE"
  | .controlFlowUnsupported => "CONTROL_FLOW_UNSUPPORTED"
  | .callPathUnresolved => "CALL_PATH_UNRESOLVED"

/-- `GraphNodeKind.value` of the kind that the details of a node belong to. -/
def graphNodeKindValue : GraphNodeDetails → String
  | .paymentIngress _ => "PAYMENT_INGRESS"
  | .trustGate _ => "TRUST_GATE"
  | .eventIdentityGuard _ => "EVENT_IDENTITY_GUARD"
  | .paymentStateGate _ => "PAYMENT_STATE_GATE"
  | .merchantStateMutation _ => "MERCHANT_STATE_MUTATION"
  | .acknowledgementBoundary _ => "ACKNOWLEDGEMENT_BOUNDARY"
  | .customerValueAction => "CUSTOMER_VALUE_ACTION"

/-! ## The source -/

/-- The source as the context build finds it. -/
structure SourceSnapshot where
  index : SourceIndexArtifact
  /-- The diagnostics of the source index. -/
  diagnostics : List AnalysisDiagnosticRecord
  /-- Whether the bytes on disk are the bytes that were indexed. -/
  unchanged : Bool
  /-- `path.read_text(encoding="utf-8")`, with its newlines translated; nothing where it raises. -/
  readText : String → Option String

/-- The characters at which `str.splitlines` ends a line. -/
def isLineBreak (c : Char) : Bool :=
  c ∈ ['\n', '\r', '\x0b', '\x0c', '\x1c', '\x1d', '\x1e', '\x85', '\u2028', '\u2029']

/-- The lines of a text, each with the character that ends it. -/
def linesBy (ends : Char → Bool) : List Char → List (List Char)
  | [] => []
  | c :: rest =>
    if ends c then [c] :: linesBy ends rest
    else
      match linesBy ends rest with
      | [] => [[c]]
      | line :: lines => (c :: line) :: lines

/-- The text from one line to another. -/
def textOfLines (ends : Char → Bool) (text : String) (first last : Nat) : String :=
  String.ofList (((linesBy ends text.toList).take last).drop (first - 1)).flatten

/-- A text that `strip` leaves nothing of. -/
def isBlank (text : String) : Bool := decide ((Str.ofString text).strip = [])

/-- `_symbol_source`. -/
def symbolSource (snapshot : SourceSnapshot) (symbol : SymbolRecord) : Option String :=
  match snapshot.readText symbol.sourceLocation.path with
  | none => none
  | some text =>
    let excerpt := textOfLines isLineBreak text symbol.sourceLocation.lineStart
      symbol.sourceLocation.lineEnd
    if isBlank excerpt then none else some excerpt

/-! ## What is relevant -/

section

variable (snapshot : SourceSnapshot) (graph : PaymentSafetyGraphArtifact)

/-- `symbol_by_id.get`. -/
def symbol? (symbolId : SymbolId) : Option SymbolRecord :=
  snapshot.index.symbols.find? (·.symbolId = symbolId)

/-- An indexed symbol that can be called. -/
def isCallable (symbolId : SymbolId) : Bool :=
  match symbol? snapshot symbolId with
  | none => false
  | some symbol => symbol.kind.callable

def ingressNodes : List GraphNode := graph.nodes.filter (·.ingress?.isSome)

/-- `seed_ids`. -/
def seedIds : List SymbolId :=
  sortedByKey id (((ingressNodes graph).map (·.backingSymbolId)).filter (· ≠ "")).dedup

/-- The resolved calls of a caller, in the order in which they are followed. -/
def outgoing (caller : SymbolId) : List CallSiteRecord :=
  sortedByKey (fun call => toLex (call.calleeSymbolId.getD "", call.calleeReference))
    (snapshot.index.callSites.filter fun call =>
      call.callerSymbolId = caller ∧ call.calleeSymbolId.isSome)

/-- The resolved calls of callables. -/
def callLinks : Links SymbolId CallSiteRecord where
  next caller := (outgoing snapshot caller).filter fun call =>
    isCallable snapshot (call.calleeSymbolId.getD "")
  source := (·.callerSymbolId)
  target call := call.calleeSymbolId.getD ""
  sourced caller call leaves := by
    have outgoes := (mem_sortedByKey _ _ _).mp (List.mem_of_mem_filter leaves)
    exact (of_decide_eq_true (List.mem_filter.mp outgoes).2).1

/-- The seeds that the search starts from. -/
def roots : List SymbolId := (seedIds graph).filter (isCallable snapshot)

/-- `paths`.  The distance of a symbol is the length of its path. -/
def relevantPaths : Dict SymbolId (List CallSiteRecord) :=
  (search (callLinks snapshot) snapshot.index.symbols.length (startAll (roots snapshot graph))).paths

def relevantIds : List SymbolId := sortedByKey id (relevantPaths snapshot graph).keys

/-- The order by distance, then by identity. -/
def distanceKey (symbolId : SymbolId) : Nat ×ₗ SymbolId :=
  toLex ((((relevantPaths snapshot graph).get? symbolId).getD []).length, symbolId)

def routeOwnerIds : List SymbolId := snapshot.index.routes.map (·.ownerSymbolId)

def candidateIds : List SymbolId :=
  sortedByKey (distanceKey snapshot graph)
    ((relevantIds snapshot graph).filter (· ∉ routeOwnerIds snapshot))

def supportingIds : List SymbolId :=
  sortedByKey (distanceKey snapshot graph)
    ((relevantIds snapshot graph).filter (· ∈ routeOwnerIds snapshot))

def relevantRouteIds : List RouteRegistrationId :=
  graph.nodes.filterMap fun node => node.ingress?.map (·.registration.routeRegistrationId)

/-- `source_text.get`. -/
def sourceText (symbolId : SymbolId) : Option String :=
  (symbol? snapshot symbolId).bind (symbolSource snapshot)

end

/-! ## Evidence and diagnostics -/

/-- The payload of the fingerprint of a definition. -/
structure DefinitionPayload where
  symbolId : SymbolId
  qualifiedName : Option String
  kind : Option SymbolKind
  content : String
  deriving DecidableEq

/-- The digests of the records of evidence. -/
structure EvidenceHashing where
  diagnostic : SemanticDiagnosticCode → String → Option SymbolId → Option String → Sha256Digest
  definition : DefinitionPayload → Sha256Digest
  /-- Of a caller, a callee, the reference and the place of a call. -/
  call : SymbolId → SymbolId → String → SourceLocation → Sha256Digest
  /-- Of the details, the backing symbol and the label of a node. -/
  fact : GraphNodeDetails → SymbolId → String → Sha256Digest

section

variable (hash : EvidenceHashing) (snapshot : SourceSnapshot) (graph : PaymentSafetyGraphArtifact)

/-- `_diagnostic`. -/
def diagnostic (code : SemanticDiagnosticCode) (reference : String) (symbolId : Option SymbolId)
    (path : Option String) : SemanticContextDiagnostic where
  code
  reference
  affectedSymbolId := symbolId
  affectedPath := path
  fingerprint := hash.diagnostic code reference symbolId path

/-- The paths of the relevant symbols. -/
def relevantFiles : List String :=
  (relevantIds snapshot graph).filterMap fun symbolId =>
    (symbol? snapshot symbolId).map (·.sourceLocation.path)

def sourceDiagnostics : List SemanticContextDiagnostic :=
  (snapshot.diagnostics.filter fun item => item.impact = .coverageReduced ∧
    ∃ path ∈ item.affectedPath, path ∈ relevantFiles snapshot graph).map fun item =>
      diagnostic hash .relevantSourceDiagnostic ("source-diagnostic:" ++ item.code.value) none
        item.affectedPath

/-- `_GLOBAL_SEED_DIAGNOSTICS`. -/
def isGlobalSeedDiagnostic : GraphDiagnosticCode → Bool
  | .appTargetUnselected | .routeCompositionUnresolved | .routeCompositionCycle => true
  | _ => false

def graphDiagnostics : List SemanticContextDiagnostic :=
  (graph.diagnostics.filter fun item => item.impact = .coverageReduced ∧
    ((∃ symbolId ∈ item.symbolId, symbolId ∈ relevantIds snapshot graph) ∨
      (∃ routeId ∈ item.routeRegistrationId, routeId ∈ relevantRouteIds graph) ∨
      (seedIds graph = [] ∧ isGlobalSeedDiagnostic item.code))).map fun item =>
        diagnostic hash .relevantGraphDiagnostic
          ("graph-diagnostic:" ++ graphDiagnosticValue item.code) item.symbolId
          (item.sourceLocation.map (·.path))

/-- The last component of a dotted name. -/
def simpleName (name : String) : String := afterLast '.' name

def knownSimpleNames : List String :=
  (snapshot.index.symbols.filter (·.kind.callable)).map fun item => simpleName item.qualifiedName

def callDiagnostics : List SemanticContextDiagnostic :=
  (snapshot.index.callSites.filter fun call =>
    call.callerSymbolId ∈ relevantIds snapshot graph ∧ call.calleeSymbolId = none ∧
      simpleName call.calleeReference ∈ knownSimpleNames snapshot).map fun call =>
        diagnostic hash .relevantCallUnresolved
          ("unresolved-call:" ++ call.callerSymbolId ++ ":" ++ call.calleeReference)
          (some call.callerSymbolId) (some call.sourceLocation.path)

def unavailableDiagnostics : List SemanticContextDiagnostic :=
  ((relevantIds snapshot graph).filter fun symbolId => sourceText snapshot symbolId = none).map
    fun symbolId =>
      diagnostic hash .relevantSourceUnavailable ("source-unavailable:" ++ symbolId) (some symbolId)
        ((symbol? snapshot symbolId).map (·.sourceLocation.path))

/-- What the fingerprint of a definition covers. -/
def definitionPayload (symbolId : SymbolId) : DefinitionPayload where
  symbolId
  qualifiedName := (symbol? snapshot symbolId).map (·.qualifiedName)
  kind := (symbol? snapshot symbolId).map (·.kind)
  content := (sourceText snapshot symbolId).getD "<unavailable>"

def sourceEvidence : List SemanticContextEvidence :=
  (relevantIds snapshot graph).map fun symbolId => {
    reference := "symbol-definition:" ++ symbolId
    fingerprint := hash.definition (definitionPayload snapshot symbolId) }

/-- The qualified name of an indexed symbol. -/
def nameOf (symbolId : SymbolId) : String :=
  ((symbol? snapshot symbolId).map (·.qualifiedName)).getD ""

def callEvidence : List SemanticContextEvidence :=
  snapshot.index.callSites.filterMap fun call =>
    match call.calleeSymbolId with
    | none => none
    | some callee =>
      if call.callerSymbolId ∈ relevantIds snapshot graph ∧ callee ∈ relevantIds snapshot graph then
        some {
          reference := "resolved-call:" ++ nameOf snapshot call.callerSymbolId ++ "->" ++
            nameOf snapshot callee ++ "@" ++ call.sourceLocation.path ++ ":" ++
            toString call.sourceLocation.lineStart ++ ":" ++
            toString call.sourceLocation.columnStart
          fingerprint := hash.call call.callerSymbolId callee call.calleeReference
            call.sourceLocation }
      else none

/-- `details.route_registration_id`, which the details of an ingress do not have. -/
def ownRouteId? (node : GraphNode) : Option RouteRegistrationId :=
  match node.details with
  | .paymentIngress _ => none
  | _ => node.routeId?

def graphEvidence : List SemanticContextEvidence :=
  (graph.nodes.filter fun node => node.backingSymbolId ∈ relevantIds snapshot graph ∨
    ∃ routeId ∈ ownRouteId? node, routeId ∈ relevantRouteIds graph).map fun node => {
      reference := "graph-fact:" ++ graphNodeKindValue node.details ++ ":" ++ node.backingSymbolId
      fingerprint := hash.fact node.details node.backingSymbolId node.label }

/-! ## The bounded view -/

/-- What a provider is shown, and what was left out. -/
structure View where
  excerptBytes : Nat
  presented : List SymbolId
  omissions : List SemanticContextDiagnostic

/-- Take in the excerpt of a route owner. -/
def supply (policy : SemanticBundlePolicy) (view : View) (symbolId : SymbolId) : View :=
  match sourceText snapshot symbolId with
  | none => view
  | some content =>
    if policy.generation.maxExcerptMaterialBytes < view.excerptBytes + content.utf8ByteSize then
      { view with omissions := view.omissions ++ [diagnostic hash .excerptByteLimitReached
          ("supporting-excerpt-omitted:" ++ symbolId) (some symbolId) none] }
    else { view with excerptBytes := view.excerptBytes + content.utf8ByteSize }

/-- Present a candidate. -/
def present (policy : SemanticBundlePolicy) (view : View) (symbolId : SymbolId) : View :=
  match sourceText snapshot symbolId with
  | none => view
  | some content =>
    if policy.maxPresentedCandidates ≤ view.presented.length then
      { view with omissions := view.omissions ++ [diagnostic hash .candidateLimitReached
          ("candidate-omitted:" ++ symbolId) (some symbolId) none] }
    else if policy.generation.maxExcerptMaterialBytes <
        view.excerptBytes + content.utf8ByteSize then
      { view with omissions := view.omissions ++ [diagnostic hash .excerptByteLimitReached
          ("candidate-excerpt-omitted:" ++ symbolId) (some symbolId) none] }
    else {
      view with
      excerptBytes := view.excerptBytes + content.utf8ByteSize
      presented := view.presented ++ [symbolId] }

def boundedView (policy : SemanticBundlePolicy) : View :=
  (candidateIds snapshot graph).foldl (present hash snapshot policy)
    ((supportingIds snapshot graph).foldl (supply hash snapshot policy) ⟨0, [], []⟩)

/-! ## The context -/

/-- `sorted(set(diagnostics), key=...)`.  Diagnostics with one key stand here in the order in which
they were found. -/
def diagnosticTuple (diagnostics : List SemanticContextDiagnostic) :
    List SemanticContextDiagnostic :=
  sortedByKey (fun item => toLex (item.code.value, item.reference)) diagnostics.dedup

/-- The descriptor, before it is validated. -/
def descriptorOf (policy : SemanticBundlePolicy) : SemanticContextDescriptor :=
  let view := boundedView hash snapshot graph policy
  let diagnostics := diagnosticTuple (sourceDiagnostics hash snapshot graph ++
    graphDiagnostics hash snapshot graph ++ callDiagnostics hash snapshot graph ++
    unavailableDiagnostics hash snapshot graph ++ view.omissions)
  { paymentIngressSymbolIds := seedIds graph
    relevantSymbolIds := relevantIds snapshot graph
    presentedSymbolIds := view.presented
    bundleCompleteness := if diagnostics = [] then .bundleComplete else .bundlePartial
    diagnostics
    sourceExcerpts := sourceEvidence hash snapshot graph
    paymentCalls := callEvidence hash snapshot graph
    graphNeighborhood := graphEvidence hash snapshot graph }

end

/-- How the build of a context fails. -/
inductive ContextError where
  | valueError | staleSourceIndexError | validationError
  deriving DecidableEq, Repr

/-- `validate_context`. -/
def SemanticContextDescriptor.validate (descriptor : SemanticContextDescriptor) :
    Except ContextError SemanticContextDescriptor := do
  raiseIf (¬ descriptor.paymentIngressSymbolIds.Nodup ∨ ¬ descriptor.relevantSymbolIds.Nodup ∨
    ¬ descriptor.presentedSymbolIds.Nodup) .validationError
  raiseIf (¬ descriptor.paymentIngressSymbolIds ⊆ descriptor.relevantSymbolIds) .validationError
  raiseIf (¬ descriptor.presentedSymbolIds ⊆ descriptor.relevantSymbolIds) .validationError
  raiseIf (∃ symbolId ∈ descriptor.paymentIngressSymbolIds,
    symbolId ∈ descriptor.presentedSymbolIds) .validationError
  raiseIf (descriptor.bundleCompleteness = .bundleComplete ∧ descriptor.diagnostics ≠ [])
    .validationError
  raiseIf (descriptor.bundleCompleteness = .bundlePartial ∧ descriptor.diagnostics = [])
    .validationError
  raiseIf (¬ descriptor.sourceExcerpts.Nodup ∨ ¬ descriptor.paymentCalls.Nodup ∨
    ¬ descriptor.graphNeighborhood.Nodup) .validationError
  pure descriptor

/-- `build_semantic_context`: the descriptor of the build. -/
def buildSemanticContext (hash : EvidenceHashing) (policy : SemanticBundlePolicy)
    (snapshot : SourceSnapshot) (graph : PaymentSafetyGraphArtifact) :
    Except ContextError SemanticContextDescriptor := do
  raiseIf (snapshot.index.projectId ≠ graph.projectId) .valueError
  raiseIf (snapshot.index.sourceIndexFingerprint ≠ graph.sourceIndexFingerprint) .valueError
  raiseIf (snapshot.unchanged = false) .staleSourceIndexError
  (descriptorOf hash snapshot graph policy).validate

/-- A context that is built is the descriptor. -/
theorem buildSemanticContext_eq {hash : EvidenceHashing} {policy : SemanticBundlePolicy}
    {snapshot : SourceSnapshot} {graph : PaymentSafetyGraphArtifact}
    {descriptor : SemanticContextDescriptor}
    (built : buildSemanticContext hash policy snapshot graph = .ok descriptor) :
    descriptor = descriptorOf hash snapshot graph policy := by
  simp only [buildSemanticContext, SemanticContextDescriptor.validate, bind_eq_ok, pure_eq_ok,
    exists_unit] at built
  obtain ⟨-, -, -, -, -, -, -, -, -, -, same⟩ := built
  exact same.symm

/-! ## What is reached -/

section

variable (snapshot : SourceSnapshot) (graph : PaymentSafetyGraphArtifact)

/-- A callable that is a payment ingress, or that resolved calls lead to from one. -/
inductive Reached : SymbolId → Prop where
  | ingress {node} (membership : node ∈ graph.nodes) (isIngress : node.ingress?.isSome = true)
      (named : node.backingSymbolId ≠ "")
      (callable : isCallable snapshot node.backingSymbolId = true) : Reached node.backingSymbolId
  | call {call callee} (reached : Reached call.callerSymbolId)
      (membership : call ∈ snapshot.index.callSites) (resolved : call.calleeSymbolId = some callee)
      (callable : isCallable snapshot callee = true) : Reached callee

variable {snapshot graph}

theorem symbol?_of_isCallable {symbolId : SymbolId}
    (callable : isCallable snapshot symbolId = true) :
    ∃ symbol, symbol? snapshot symbolId = some symbol := by
  rw [isCallable] at callable
  cases found : symbol? snapshot symbolId with
  | none => simp [found] at callable
  | some symbol => exact ⟨symbol, rfl⟩

theorem mem_symbols_of_isCallable {symbolId : SymbolId}
    (callable : isCallable snapshot symbolId = true) :
    symbolId ∈ snapshot.index.symbols.map (·.symbolId) := by
  obtain ⟨symbol, found⟩ := symbol?_of_isCallable callable
  have named : symbol.symbolId = symbolId := by simpa using List.find?_some found
  exact List.mem_map.mpr ⟨symbol, List.mem_of_find?_eq_some found, named⟩

theorem mem_roots {symbolId : SymbolId} : symbolId ∈ roots snapshot graph ↔
    isCallable snapshot symbolId = true ∧ symbolId ≠ "" ∧
      ∃ node ∈ graph.nodes, node.ingress?.isSome = true ∧ node.backingSymbolId = symbolId := by
  simp only [roots, seedIds, ingressNodes, List.mem_filter, mem_sortedByKey, List.mem_dedup,
    List.mem_map, decide_eq_true_eq]
  constructor
  · rintro ⟨⟨⟨node, ⟨membership, isIngress⟩, same⟩, named⟩, callable⟩
    exact ⟨callable, named, node, membership, isIngress, same⟩
  · rintro ⟨callable, named, node, membership, isIngress, same⟩
    exact ⟨⟨⟨node, ⟨membership, isIngress⟩, same⟩, named⟩, callable⟩

theorem roots_nodup : (roots snapshot graph).Nodup :=
  List.Nodup.filter _ ((sortedByKey_perm _ _).nodup_iff.mpr (List.nodup_dedup _))

theorem mem_next {caller : SymbolId} {call : CallSiteRecord} :
    call ∈ (callLinks snapshot).next caller ↔ call ∈ snapshot.index.callSites ∧
      call.callerSymbolId = caller ∧ ∃ callee, call.calleeSymbolId = some callee ∧
        isCallable snapshot callee = true := by
  simp only [callLinks, outgoing, List.mem_filter, mem_sortedByKey, decide_eq_true_eq]
  cases call.calleeSymbolId with
  | none => simp
  | some callee => simp [and_assoc]

/-- A search along the calls reaches what is reached. -/
theorem reachable_iff {symbolId : SymbolId} :
    Reachable (callLinks snapshot) (roots snapshot graph) symbolId ↔
      Reached snapshot graph symbolId := by
  constructor
  · rintro ⟨root, membership, path, chain⟩
    induction chain with
    | nil =>
      obtain ⟨callable, named, node, inGraph, isIngress, rfl⟩ := mem_roots.mp membership
      exact .ingress inGraph isIngress named callable
    | @snoc path caller call _ leaves ih =>
      obtain ⟨inIndex, rfl, callee, resolved, callable⟩ := mem_next.mp leaves
      have target : (callLinks snapshot).target call = callee := by
        simp [callLinks, resolved]
      rw [target]
      exact .call ih inIndex resolved callable
  · intro reached
    induction reached with
    | ingress inGraph isIngress named callable =>
      exact ⟨_, mem_roots.mpr ⟨callable, named, _, inGraph, isIngress, rfl⟩, [], .nil⟩
    | @call call callee _ inIndex resolved callable ih =>
      obtain ⟨root, membership, path, chain⟩ := ih
      have leaves : call ∈ (callLinks snapshot).next call.callerSymbolId :=
        mem_next.mpr ⟨inIndex, rfl, callee, resolved, callable⟩
      have target : (callLinks snapshot).target call = callee := by
        simp [callLinks, resolved]
      exact ⟨root, membership, _, target ▸ chain.snoc leaves⟩

theorem Reached.callable {symbolId : SymbolId} (reached : Reached snapshot graph symbolId) :
    isCallable snapshot symbolId = true := by
  cases reached with
  | ingress _ _ _ callable => exact callable
  | call _ _ _ callable => exact callable

/-- The relevant symbols are the callables that are reached. -/
theorem mem_relevantIds {symbolId : SymbolId} :
    symbolId ∈ relevantIds snapshot graph ↔ Reached snapshot graph symbolId := by
  have bounded : ∀ node, Reachable (callLinks snapshot) (roots snapshot graph) node →
      node ∈ snapshot.index.symbols.map (·.symbolId) :=
    fun node reached => mem_symbols_of_isCallable (reachable_iff.mp reached).callable
  have enough : (snapshot.index.symbols.map (·.symbolId)).length ≤ snapshot.index.symbols.length := by
    rw [List.length_map]
  rw [relevantIds, mem_sortedByKey, relevantPaths, ← reachable_iff]
  exact mem_keys_searchAll roots_nodup bounded enough

theorem mem_candidateIds {symbolId : SymbolId} :
    symbolId ∈ candidateIds snapshot graph ↔
      Reached snapshot graph symbolId ∧ symbolId ∉ routeOwnerIds snapshot := by
  rw [candidateIds, mem_sortedByKey, List.mem_filter, mem_relevantIds, decide_eq_true_eq]

end

/-! ## A complete context -/

section

variable {hash : EvidenceHashing} {policy : SemanticBundlePolicy} {snapshot : SourceSnapshot}
  {graph : PaymentSafetyGraphArtifact}

/-- A step that leaves nothing out presents the candidate whose source is at hand. -/
theorem present_cases {view : View} {symbolId : SymbolId}
    (nothing : (present hash snapshot policy view symbolId).omissions = []) :
    view.omissions = [] ∧
      (∀ shown ∈ view.presented, shown ∈ (present hash snapshot policy view symbolId).presented) ∧
      (sourceText snapshot symbolId ≠ none →
        symbolId ∈ (present hash snapshot policy view symbolId).presented) := by
  rw [present] at nothing ⊢
  split at nothing
  next unavailable =>
    exact ⟨nothing, fun _ shown => shown, fun available => absurd unavailable available⟩
  next content found =>
    split at nothing
    next => simp at nothing
    next within =>
      split at nothing
      next => simp at nothing
      next small =>
        rw [if_neg within, if_neg small]
        exact ⟨nothing, fun _ shown => List.mem_append_left _ shown, fun _ => by simp⟩

/-- A view that leaves nothing out presents every candidate whose source is at hand. -/
theorem presents_cases {view : View} {symbolIds : List SymbolId}
    (nothing : (symbolIds.foldl (present hash snapshot policy) view).omissions = []) :
    view.omissions = [] ∧
      (∀ shown ∈ view.presented,
        shown ∈ (symbolIds.foldl (present hash snapshot policy) view).presented) ∧
      ∀ symbolId ∈ symbolIds, sourceText snapshot symbolId ≠ none →
        symbolId ∈ (symbolIds.foldl (present hash snapshot policy) view).presented := by
  induction symbolIds generalizing view with
  | nil => exact ⟨nothing, fun _ shown => shown, by simp⟩
  | cons symbolId rest ih =>
    obtain ⟨before, kept, shown⟩ := ih nothing
    obtain ⟨start, keeps, shows⟩ := present_cases before
    refine ⟨start, fun other old => kept other (keeps other old),
      fun other membership available => ?_⟩
    rcases List.mem_cons.mp membership with rfl | later
    · exact kept _ (shows available)
    · exact shown other later available

/-- A complete context has no diagnostic of any kind. -/
theorem descriptorOf_complete
    (complete : (descriptorOf hash snapshot graph policy).bundleCompleteness = .bundleComplete) :
    callDiagnostics hash snapshot graph = [] ∧ unavailableDiagnostics hash snapshot graph = [] ∧
      (boundedView hash snapshot graph policy).omissions = [] := by
  simp only [descriptorOf] at complete
  split at complete
  next nothing =>
    have none_left : ∀ item, item ∉ (sourceDiagnostics hash snapshot graph ++
        graphDiagnostics hash snapshot graph ++ callDiagnostics hash snapshot graph ++
        unavailableDiagnostics hash snapshot graph ++
        (boundedView hash snapshot graph policy).omissions) := by
      intro item membership
      have listed : item ∈ diagnosticTuple _ :=
        (mem_sortedByKey _ _ _).mpr (List.mem_dedup.mpr membership)
      rw [nothing] at listed
      exact List.not_mem_nil listed
    have all_nil := List.eq_nil_iff_forall_not_mem.mpr none_left
    simp only [List.append_eq_nil_iff] at all_nil
    exact ⟨all_nil.1.1.2, all_nil.1.2, all_nil.2⟩
  next => cases complete

/-- In a complete context every candidate is presented. -/
theorem presented_of_complete
    (complete : (descriptorOf hash snapshot graph policy).bundleCompleteness = .bundleComplete)
    {symbolId : SymbolId} (candidate : symbolId ∈ candidateIds snapshot graph) :
    symbolId ∈ (descriptorOf hash snapshot graph policy).presentedSymbolIds := by
  obtain ⟨-, available, nothing⟩ := descriptorOf_complete complete
  have relevant := mem_relevantIds.mpr (mem_candidateIds.mp candidate).1
  refine (presents_cases nothing).2.2 symbolId candidate fun unavailable => ?_
  rw [unavailableDiagnostics, List.map_eq_nil_iff, List.filter_eq_nil_iff] at available
  exact available symbolId relevant (decide_eq_true unavailable)

/-- In a complete context an unresolved call of a relevant symbol names no indexed callable. -/
theorem unknown_of_complete
    (complete : (descriptorOf hash snapshot graph policy).bundleCompleteness = .bundleComplete)
    {call : CallSiteRecord} (membership : call ∈ snapshot.index.callSites)
    (reached : Reached snapshot graph call.callerSymbolId) (unresolved : call.calleeSymbolId = none) :
    simpleName call.calleeReference ∉ knownSimpleNames snapshot := by
  intro known
  obtain ⟨nothing, -, -⟩ := descriptorOf_complete complete
  rw [callDiagnostics, List.map_eq_nil_iff, List.filter_eq_nil_iff] at nothing
  exact nothing call membership
    (decide_eq_true ⟨mem_relevantIds.mpr reached, unresolved, known⟩)

end

/-! ## What a complete context leaves out -/

/-- What the calls of a project target, indexed or not. -/
structure CallTargets where
  /-- The files that were selected for analysis, the unparsable ones included. -/
  selectedFiles : List String
  /-- The file that defines the function or method a call targets, if it targets one. -/
  definedIn : CallSiteRecord → Option String

/-- A call of a function or method that a selected file defines. -/
def CallTargets.Selects (targets : CallTargets) (call : CallSiteRecord) : Prop :=
  ∃ file ∈ targets.definedIn call, file ∈ targets.selectedFiles

def webhookSymbol : SymbolRecord where
  symbolId := "sgsym_webhook"
  sourceFileId := "sgfile_app"
  qualifiedName := "app.webhook"
  kind := .function
  sourceLocation := ⟨"app.py", 3, 0, 4, 22⟩

def shipSymbol : SymbolRecord where
  symbolId := "sgsym_ship"
  sourceFileId := "sgfile_fulfil"
  qualifiedName := "fulfil.ship"
  kind := .function
  sourceLocation := ⟨"fulfil.py", 2, 0, 3, 22⟩

def shipCall (callee : Option SymbolId) : CallSiteRecord where
  callerSymbolId := "sgsym_webhook"
  calleeSymbolId := callee
  calleeReference := "ship"
  sourceLocation := ⟨"app.py", 4, 11, 4, 22⟩

def webhookRoute : RouteRecord where
  ownerSymbolId := "sgsym_webhook"
  registrarInstanceId := "sgfw_app"
  method := "POST"
  routePath := "/webhook"
  sourceLocation := ⟨"app.py", 2, 1, 2, 21⟩

/-- The index where both files parse. -/
def shipIndex (fingerprint : Sha256Digest) : SourceIndexArtifact where
  projectId := "project"
  sourceIndexFingerprint := fingerprint
  symbols := [webhookSymbol, shipSymbol]
  callSites := [shipCall (some "sgsym_ship")]
  frameworkInstances := []
  appTargets := []
  routes := [webhookRoute]
  routerIncludes := []
  completeness := .complete
  symbolsUnique := by decide +kernel
  frameworksUnique := List.nodup_nil
  callSitesKnown := by decide +kernel

/-- The index where `fulfil.py` does not parse. -/
def unparsedIndex : SourceIndexArtifact where
  projectId := "project"
  sourceIndexFingerprint := "sha256:unparsed"
  symbols := [webhookSymbol]
  callSites := [shipCall none]
  frameworkInstances := []
  appTargets := []
  routes := [webhookRoute]
  routerIncludes := []
  completeness := .partialIndex
  symbolsUnique := by decide +kernel
  frameworksUnique := List.nodup_nil
  callSitesKnown := by decide +kernel

def webhookNode : GraphNode where
  nodeId := "sggn_ingress"
  label := "POST /webhook"
  backingSymbolId := "sgsym_webhook"
  details := .paymentIngress {
    ingressKind := .webhook
    registration := {
      routeRegistrationId := "sgroute_webhook"
      appInstanceId := "sgfw_app"
      registrarInstanceId := "sgfw_app"
      method := "POST"
      componentPath := "/webhook"
      effectivePath := "/webhook" }
    evidenceFamilies := ["event", "signature"]
    checkoutRequestBinding := none }
  provenance := []

/-- A graph of one ingress. -/
def webhookGraph (index : SourceIndexArtifact) (diagnostics : List GraphDiagnosticRecord) :
    PaymentSafetyGraphArtifact where
  projectId := index.projectId
  sourceIndexFingerprint := index.sourceIndexFingerprint
  graphFingerprint := "sha256:graph"
  completeness := completenessFor diagnostics
  diagnostics
  nodes := [webhookNode]
  edges := []
  nodesUnique := by simp
  edgesUnique := by simp
  endpoints := by simp
  completenessMatches := rfl

def appText : String :=
  "from fulfil import ship\n@app.post('/webhook')\ndef webhook(event):\n    return ship(event)\n"

/-- The source of a project of two files. -/
def shipText (fulfil : String) (path : String) : Option String :=
  if path = "app.py" then some appText
  else if path = "fulfil.py" then some fulfil
  else none

def shipSnapshot (fingerprint : Sha256Digest) (fulfil : String) : SourceSnapshot where
  index := shipIndex fingerprint
  diagnostics := []
  unchanged := true
  readText := shipText fulfil

def shipSource : String := "@once\ndef ship(event):\n    return event.total\n"

def unparsedSnapshot : SourceSnapshot where
  index := unparsedIndex
  diagnostics := [{
    code := .syntaxError
    path := some "fulfil.py"
    sourceLocation := some ⟨"fulfil.py", 2, 15, 2, 15⟩ }]
  unchanged := true
  readText := shipText "@once\ndef ship(event)\n    return event.total\n"

/-- Digests that keep what they cover. -/
def plainHashing : EvidenceHashing where
  diagnostic code reference _ _ := code.value ++ reference
  definition payload := payload.symbolId ++ payload.content
  call caller callee reference _ := caller ++ callee ++ reference
  fact details symbolId label := graphNodeKindValue details ++ symbolId ++ label

/-- The call that both samples make targets `fulfil.py`. -/
def shipTargets : CallTargets where
  selectedFiles := ["app.py", "fulfil.py"]
  definedIn _ := some "fulfil.py"

/-- The graph of the project whose `fulfil.py` does not parse. -/
def unparsedGraph : PaymentSafetyGraphArtifact :=
  webhookGraph unparsedIndex [{ code := .upstreamSourceIndexPartial, impact := .coverageReduced }]

def unparsedDescriptor : SemanticContextDescriptor :=
  descriptorOf plainHashing unparsedSnapshot unparsedGraph {}

theorem reached_webhook {snapshot : SourceSnapshot} {graph : PaymentSafetyGraphArtifact}
    (callable : isCallable snapshot "sgsym_webhook" = true) (inGraph : webhookNode ∈ graph.nodes) :
    Reached snapshot graph "sgsym_webhook" :=
  .ingress inGraph rfl (by decide +kernel) callable

def shippedGraph : PaymentSafetyGraphArtifact := webhookGraph (shipIndex "sha256:index") []

def shippedDescriptor : SemanticContextDescriptor :=
  descriptorOf plainHashing (shipSnapshot "sha256:index" shipSource) shippedGraph {}

theorem build_shipped : buildSemanticContext plainHashing {}
    (shipSnapshot "sha256:index" shipSource) shippedGraph = .ok shippedDescriptor := by
  decide +kernel

/-- What the parser saw of the source. -/
structure ParsedSource where
  /-- The text of a file as the parser decodes it, with its newlines translated. -/
  text : String → String
  /-- The first line of a definition, with its decorators. -/
  definitionStart : SymbolId → Nat

/-- A state of a project. -/
structure ProjectState where
  snapshot : SourceSnapshot
  graph : PaymentSafetyGraphArtifact
  parsed : ParsedSource

/-- The parser ends its lines at newlines only. -/
def isNewline (c : Char) : Bool := decide (c = '\n')

namespace ProjectState

variable (state : ProjectState)

/-- The lines of the decorators of a definition. -/
def decorators (symbolId : SymbolId) : Option String :=
  (symbol? state.snapshot symbolId).map fun symbol =>
    textOfLines isNewline (state.parsed.text symbol.sourceLocation.path)
      (state.parsed.definitionStart symbolId) (symbol.sourceLocation.lineStart - 1)

/-- The lines of a definition from its `def` on. -/
def body (symbolId : SymbolId) : Option String :=
  (symbol? state.snapshot symbolId).map fun symbol =>
    textOfLines isNewline (state.parsed.text symbol.sourceLocation.path)
      symbol.sourceLocation.lineStart symbol.sourceLocation.lineEnd

/-- The file of a definition is read as the parser reads it. -/
def Seen (symbolId : SymbolId) : Prop :=
  ∃ symbol, symbol? state.snapshot symbolId = some symbol ∧
    state.snapshot.readText symbol.sourceLocation.path =
      some (state.parsed.text symbol.sourceLocation.path) ∧
    (∀ c ∈ (state.parsed.text symbol.sourceLocation.path).toList,
      isLineBreak c = true → c = '\n') ∧
    isBlank (textOfLines isNewline (state.parsed.text symbol.sourceLocation.path)
      symbol.sourceLocation.lineStart symbol.sourceLocation.lineEnd) = false

end ProjectState

/-- Lines depend only on which characters of the text end them. -/
theorem linesBy_congr {ends ends' : Char → Bool} {text : List Char}
    (agree : ∀ c ∈ text, ends c = ends' c) : linesBy ends text = linesBy ends' text := by
  induction text with
  | nil => rfl
  | cons c rest ih =>
    have tail := ih fun other membership => agree other (List.mem_cons_of_mem _ membership)
    rw [linesBy, linesBy, agree c (List.mem_cons_self ..), tail]

/-- The excerpt of a definition that is seen is its text. -/
theorem sourceText_of_seen {state : ProjectState} {symbolId : SymbolId}
    (seen : state.Seen symbolId) : sourceText state.snapshot symbolId = state.body symbolId := by
  obtain ⟨symbol, found, read, plain, substantial⟩ := seen
  have same : textOfLines isLineBreak (state.parsed.text symbol.sourceLocation.path)
      symbol.sourceLocation.lineStart symbol.sourceLocation.lineEnd =
      textOfLines isNewline (state.parsed.text symbol.sourceLocation.path)
        symbol.sourceLocation.lineStart symbol.sourceLocation.lineEnd := by
    rw [textOfLines, textOfLines, linesBy_congr]
    intro c membership
    by_cases newline : c = '\n'
    · subst newline
      decide
    · have unbroken : isLineBreak c = false :=
        eq_false_of_ne_true fun broken => newline (plain c membership broken)
      rw [unbroken, isNewline, decide_eq_false newline]
  rw [sourceText, ProjectState.body, found, Option.bind_some, Option.map_some, symbolSource, read]
  simp only [same, substantial, Bool.false_eq_true, if_false]

/-- Contexts with one fingerprint have the same records of definitions. -/
theorem mem_sourceEvidence_of_same {context : ContextHashing} {hash : EvidenceHashing}
    {policy policy' : SemanticBundlePolicy} {snapshot snapshot' : SourceSnapshot}
    {graph graph' : PaymentSafetyGraphArtifact}
    (same : (descriptorOf hash snapshot graph policy).payload context =
      (descriptorOf hash snapshot' graph' policy').payload context)
    {record : SemanticContextEvidence} (membership : record ∈ sourceEvidence hash snapshot graph) :
    record ∈ sourceEvidence hash snapshot' graph' := by
  have records : canonicalEvidence (sourceEvidence hash snapshot graph) =
      canonicalEvidence (sourceEvidence hash snapshot' graph') := congrArg (·.sourceExcerpts) same
  rw [← mem_sortedByKey (fun record => toLex (record.reference, record.fingerprint))]
    at membership ⊢
  rw [canonicalEvidence, canonicalEvidence] at records
  rwa [← records]

/-- Contexts with one fingerprint cover the same text of each relevant definition. -/
theorem definitionPayload_eq_of_same {context : ContextHashing} {hash : EvidenceHashing}
    {policy policy' : SemanticBundlePolicy} {snapshot snapshot' : SourceSnapshot}
    {graph graph' : PaymentSafetyGraphArtifact}
    (same : (descriptorOf hash snapshot graph policy).payload context =
      (descriptorOf hash snapshot' graph' policy').payload context)
    {symbolId : SymbolId} (reached : Reached snapshot graph symbolId)
    (distinct : hash.definition (definitionPayload snapshot symbolId) =
        hash.definition (definitionPayload snapshot' symbolId) →
      definitionPayload snapshot symbolId = definitionPayload snapshot' symbolId) :
    definitionPayload snapshot symbolId = definitionPayload snapshot' symbolId := by
  have recorded := mem_sourceEvidence_of_same same
    (List.mem_map_of_mem (mem_relevantIds.mpr reached))
  obtain ⟨other, -, equal⟩ := List.mem_map.mp recorded
  have reference := congrArg SemanticContextEvidence.reference equal
  have fingerprint := congrArg SemanticContextEvidence.fingerprint equal
  have identity : other = symbolId := by simpa using reference
  subst identity
  exact distinct fingerprint.symm

/-- Two states with one fingerprint have the same relevant definitions exactly when they have the
same decorators, and the same text where one of them is not read as the parser reads it. -/
theorem sameSource_iff {context : ContextHashing} {hash : EvidenceHashing}
    {policy policy' : SemanticBundlePolicy} {state state' : ProjectState}
    {descriptor descriptor' : SemanticContextDescriptor}
    (built : buildSemanticContext hash policy state.snapshot state.graph = .ok descriptor)
    (built' : buildSemanticContext hash policy' state'.snapshot state'.graph = .ok descriptor')
    (same : semanticContextFingerprint context descriptor =
      semanticContextFingerprint context descriptor')
    (distinct : context.context (descriptor.payload context) =
        context.context (descriptor'.payload context) →
      descriptor.payload context = descriptor'.payload context)
    (distinctDefinitions : ∀ symbolId, Reached state.snapshot state.graph symbolId →
      hash.definition (definitionPayload state.snapshot symbolId) =
          hash.definition (definitionPayload state'.snapshot symbolId) →
        definitionPayload state.snapshot symbolId = definitionPayload state'.snapshot symbolId) :
    (∀ symbolId, Reached state.snapshot state.graph symbolId →
      state.decorators symbolId = state'.decorators symbolId ∧
        state.body symbolId = state'.body symbolId) ↔
      (∀ symbolId, Reached state.snapshot state.graph symbolId →
        state.decorators symbolId = state'.decorators symbolId) ∧
      ∀ symbolId, Reached state.snapshot state.graph symbolId →
        ¬ (state.Seen symbolId ∧ state'.Seen symbolId) →
          state.body symbolId = state'.body symbolId := by
  have payloads := distinct same
  rw [buildSemanticContext_eq built, buildSemanticContext_eq built'] at payloads
  constructor
  · intro holds
    exact ⟨fun symbolId reached => (holds symbolId reached).1,
      fun symbolId reached _ => (holds symbolId reached).2⟩
  · rintro ⟨sameDecorators, sameUnseen⟩ symbolId reached
    refine ⟨sameDecorators symbolId reached, ?_⟩
    by_cases seen : state.Seen symbolId ∧ state'.Seen symbolId
    · have covered := definitionPayload_eq_of_same payloads reached
        (distinctDefinitions symbolId reached)
      have contents := congrArg DefinitionPayload.content covered
      obtain ⟨symbol, found, -⟩ := seen.1
      obtain ⟨symbol', found', -⟩ := seen.2
      have isBody := sourceText_of_seen seen.1
      have isBody' := sourceText_of_seen seen.2
      rw [definitionPayload, definitionPayload, isBody, isBody'] at contents
      simp only [ProjectState.body, found, found', Option.map_some, Option.getD_some] at contents ⊢
      rw [contents]
    · exact sameUnseen symbolId reached seen

/-- The state of the project of two files with a source of `fulfil.py`. -/
def shipState (fingerprint : Sha256Digest) (fulfil : String) : ProjectState where
  snapshot := shipSnapshot fingerprint fulfil
  graph := webhookGraph (shipIndex fingerprint) []
  parsed := {
    text := fun path => (shipText fulfil path).getD ""
    definitionStart := fun symbolId => if symbolId = "sgsym_webhook" then 2 else 1 }

/-- The source with a comment below. -/
def commentedSource : String := shipSource ++ "# shipped\n"

theorem mem_of_reached_ship {fingerprint : Sha256Digest} {fulfil : String} {symbolId : SymbolId}
    (reached : Reached (shipState fingerprint fulfil).snapshot (shipState fingerprint fulfil).graph
      symbolId) : symbolId = "sgsym_webhook" ∨ symbolId = "sgsym_ship" := by
  have indexed := mem_symbols_of_isCallable reached.callable
  simpa [shipState, shipSnapshot, shipIndex, webhookSymbol, shipSymbol] using indexed

/-- Digests of contexts that keep which symbols are relevant. -/
def plainContext : ContextHashing where
  diagnosticText item := item.reference
  context payload := String.join payload.relevantSymbolIds
  resolution _ fingerprint := fingerprint

/-- A comment below a definition leaves the fingerprint and the definitions as they are. -/
theorem sameSource_commented :
    commentedSource ≠ shipSource ∧
      ∀ symbolId, Reached (shipState "sha256:index" shipSource).snapshot
        (shipState "sha256:index" shipSource).graph symbolId →
          (shipState "sha256:index" shipSource).decorators symbolId =
              (shipState "sha256:commented" commentedSource).decorators symbolId ∧
            (shipState "sha256:index" shipSource).body symbolId =
              (shipState "sha256:commented" commentedSource).body symbolId := by
  have commented : buildSemanticContext plainHashing {}
      (shipState "sha256:commented" commentedSource).snapshot
      (shipState "sha256:commented" commentedSource).graph = .ok shippedDescriptor := by
    decide +kernel
  have covered : ∀ symbolId, Reached (shipState "sha256:index" shipSource).snapshot
      (shipState "sha256:index" shipSource).graph symbolId →
        definitionPayload (shipState "sha256:index" shipSource).snapshot symbolId =
          definitionPayload (shipState "sha256:commented" commentedSource).snapshot symbolId := by
    intro symbolId reached
    rcases mem_of_reached_ship reached with rfl | rfl
    · decide +kernel
    · decide +kernel
  have same : semanticContextFingerprint plainContext shippedDescriptor =
    semanticContextFingerprint plainContext shippedDescriptor := rfl
  refine ⟨by decide +kernel, (@sameSource_iff plainContext plainHashing {} {}
    (shipState "sha256:index" shipSource) (shipState "sha256:commented" commentedSource) _ _
    build_shipped commented same (fun _ => rfl)
    fun symbolId reached _ => covered symbolId reached).mpr ⟨?_, ?_⟩⟩
  · intro symbolId reached
    rcases mem_of_reached_ship reached with rfl | rfl
    · decide +kernel
    · decide +kernel
  · intro symbolId reached _
    rcases mem_of_reached_ship reached with rfl | rfl
    · decide +kernel
    · decide +kernel

/-- The source with another decorator. -/
def redecoratedSource : String := "@every\ndef ship(event):\n    return event.total\n"

theorem descriptorOf_redecorated (hash : EvidenceHashing) :
    descriptorOf hash (shipSnapshot "sha256:index" shipSource)
        (webhookGraph (shipIndex "sha256:index") []) {} =
      descriptorOf hash (shipSnapshot "sha256:edited" redecoratedSource)
        (webhookGraph (shipIndex "sha256:edited") []) {} := by
  rfl

/-- Whatever the digests, another decorator leaves the context as it is. -/
theorem decorator_unseen :
    (∀ hash : EvidenceHashing,
      buildSemanticContext hash {} (shipState "sha256:index" shipSource).snapshot
          (shipState "sha256:index" shipSource).graph =
        buildSemanticContext hash {} (shipState "sha256:edited" redecoratedSource).snapshot
          (shipState "sha256:edited" redecoratedSource).graph) ∧
    buildSemanticContext plainHashing {} (shipState "sha256:index" shipSource).snapshot
      (shipState "sha256:index" shipSource).graph = .ok shippedDescriptor ∧
    Reached (shipState "sha256:index" shipSource).snapshot
      (shipState "sha256:index" shipSource).graph "sgsym_ship" ∧
    (shipState "sha256:index" shipSource).decorators "sgsym_ship" ≠
      (shipState "sha256:edited" redecoratedSource).decorators "sgsym_ship" := by
  refine ⟨fun hash => ?_, build_shipped, ?_, by decide +kernel⟩
  · simp only [shipState, buildSemanticContext, ← descriptorOf_redecorated hash]
    rfl
  · have handler : Reached (shipState "sha256:index" shipSource).snapshot
        (shipState "sha256:index" shipSource).graph "sgsym_webhook" :=
      reached_webhook (by decide +kernel) (List.mem_singleton_self _)
    exact @Reached.call _ _ (shipCall (some "sgsym_ship")) _ handler (List.mem_singleton_self _) rfl
      (by decide +kernel)

end Semantics

end StateGuard
