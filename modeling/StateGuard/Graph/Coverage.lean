import StateGuard.Applicability.Engine
import StateGuard.Graph.BranchStates
import StateGuard.Graph.SemanticProjection

/-!
# Reduced coverage

Which of the diagnostics of a route reach the controls of the route.  The engine looks at the
route a diagnostic names.  A producer either names the route, or its diagnostics are notices
(`Attributed`), with three exceptions: an unresolved call, exception flow that is not supported
and a fact in a loop are reported without a route.  `FullyAttributed` says that a route has none
of these, and only then are the diagnostics of a route what the engine sees of it
(`relevantDiagnostics_complete_iff`).
-/

namespace StateGuard

open Checks (eq_ok_of_mem_toOption)
open Python (Expr Stmt)

section

variable (text : BuildText) (checkoutBinding : FunctionControlModel → Option CheckoutRequestBinding)
  (index : SourceIndexArtifact) (project : ParsedProject) (route : ReachableRoute)

/-- A diagnostic that reduces coverage names the route. -/
def Attributed (diagnostic : GraphDiagnosticRecord) : Prop :=
  diagnostic.impact = .coverageReduced →
    diagnostic.routeRegistrationId = some route.registration.routeRegistrationId

/-- The analysis of a route meets nothing it reports without naming the route. -/
structure FullyAttributed : Prop where
  calls : ∀ entry ∈ routeModels text (resolvedCallPaths index route.ownerSymbolId project) project,
    paymentRelevant text entry.2 = true →
      ∀ callSite ∈ index.callSites, unresolvedCall entry.2 callSite = false
  flow : ∀ entry ∈ routeModels text (resolvedCallPaths index route.ownerSymbolId project) project,
    entry.2.unsupportedExceptionFlow = false
  loops : (analyzeRouteConcepts text checkoutBinding route index project).ingressKind.isSome →
    ∀ fact ∈ routeFacts (analyzeRouteConcepts text checkoutBinding route index project),
      fact.context?.any (·.inLoop) = false

end

section

variable {text : BuildText} {checkoutBinding : FunctionControlModel → Option CheckoutRequestBinding}
  {index : SourceIndexArtifact} {project : ParsedProject} {route : ReachableRoute}
  {diagnostic : GraphDiagnosticRecord}

/-! ## The producers -/

/-- A notice reduces no coverage. -/
theorem Attributed.notice (notice : diagnostic.impact = .notice) : Attributed route diagnostic := by
  intro reduced
  rw [notice] at reduced
  cases reduced

theorem attributed_trustCandidate {model : FunctionControlModel}
    (membership : diagnostic ∈ trustCandidateDiagnostics text model route) :
    Attributed route diagnostic := by
  obtain ⟨call, -, made⟩ := List.mem_filterMap.mp membership
  intro _
  rw [trustCandidateDiagnostic] at made
  dsimp only at made
  split at made
  next => cases made
  next =>
    split at made
    next => cases made; rfl
    next =>
      split at made
      next => cases made
      next =>
        split at made
        next => cases made; rfl
        next =>
          split at made
          next => cases made; rfl
          next =>
            split at made
            next => cases made; rfl
            next => cases made
    next =>
      split at made
      next => cases made; rfl
      next => cases made

theorem attributed_helper {path : List CallSiteRecord} {model : FunctionControlModel}
    {trust : List TrustFact} (membership : diagnostic ∈ helperDiagnostics route path model trust) :
    Attributed route diagnostic := by
  rw [helperDiagnostics] at membership
  split at membership
  next => cases membership
  next =>
    obtain ⟨fact, -, made⟩ := List.mem_filterMap.mp membership
    split at made
    next => cases made; exact Attributed.notice rfl
    next => cases made

theorem attributed_order {trust : List TrustFact}
    (membership : diagnostic ∈ trust.filterMap (orderDiagnostic route)) :
    Attributed route diagnostic := by
  obtain ⟨fact, -, made⟩ := List.mem_filterMap.mp membership
  rw [orderDiagnostic] at made
  dsimp only at made
  split at made
  next =>
    split at made
    next => cases made; exact Attributed.notice rfl
    next => cases made; exact Attributed.notice rfl
    next => cases made
  next => cases made

theorem attributed_insufficient {kind : Option PaymentIngressKind} {evidence identifiers : List String}
    {webhook checkout : Bool} (membership : diagnostic ∈
      insufficientEvidence route kind evidence identifiers webhook checkout) :
    Attributed route diagnostic := by
  rw [insufficientEvidence] at membership
  split at membership
  next => cases List.mem_singleton.mp membership; exact Attributed.notice rfl
  next => cases membership

theorem attributed_observed {kind : Option PaymentIngressKind} {observed : Bool}
    {identities : List EventIdentityFact}
    (membership : diagnostic ∈ observedOnly route kind observed identities) :
    Attributed route diagnostic := by
  rw [observedOnly] at membership
  split at membership
  next => cases List.mem_singleton.mp membership; exact Attributed.notice rfl
  next => cases membership

theorem attributed_late {analysis : RouteConceptAnalysis}
    (membership : diagnostic ∈ lateVerificationDiagnostics route analysis) :
    Attributed route diagnostic := by
  obtain ⟨fact, -, made⟩ := List.mem_filterMap.mp membership
  split at made
  next => cases made; exact Attributed.notice rfl
  next => cases made

/-- An unresolved call of a payment function is reported without a route. -/
theorem mem_unresolvedCallDiagnostics {model : FunctionControlModel} :
    diagnostic ∈ unresolvedCallDiagnostics text model index ↔
      paymentRelevant text model = true ∧ ∃ callSite ∈ index.callSites,
        unresolvedCall model callSite = true ∧
          diagnostic =
            { code := .callPathUnresolved
              impact := .coverageReduced
              symbolId := some model.symbol.symbolId
              sourceLocation := some callSite.sourceLocation } := by
  rw [unresolvedCallDiagnostics]
  split
  next relevant =>
    simp only [relevant, List.mem_map, List.mem_filter, true_and]
    constructor
    · rintro ⟨callSite, ⟨listed, unresolved⟩, rfl⟩
      exact ⟨callSite, listed, unresolved, rfl⟩
    · rintro ⟨callSite, listed, unresolved, rfl⟩
      exact ⟨callSite, ⟨listed, unresolved⟩, rfl⟩
  next irrelevant => simp [irrelevant]

/-- Exception flow that is not supported is reported without a route. -/
theorem mem_unsupportedFlowDiagnostics {model : FunctionControlModel} :
    diagnostic ∈ unsupportedFlowDiagnostics model ↔
      model.unsupportedExceptionFlow = true ∧
        diagnostic =
          { code := .controlFlowUnsupported
            impact := .coverageReduced
            symbolId := some model.symbol.symbolId
            sourceLocation := some model.symbol.sourceLocation } := by
  rw [unsupportedFlowDiagnostics]
  split
  next unsupported => simp [unsupported]
  next supported => simp [supported]

/-- A fact in a loop is reported without a route. -/
theorem mem_loopDiagnostics {analysis : RouteConceptAnalysis} :
    diagnostic ∈ loopDiagnostics route analysis ↔
      (∃ fact ∈ routeFacts analysis, fact.context?.any (·.inLoop) = true) ∧
        diagnostic =
          { code := .controlFlowUnsupported
            impact := .coverageReduced
            sourceLocation := some route.routeLocation } := by
  rw [loopDiagnostics]
  split
  next loops => simp [List.any_eq_true.mp loops]
  next straight =>
    constructor
    · intro impossible
      cases impossible
    · rintro ⟨loops, -⟩
      exact absurd (List.any_eq_true.mpr loops) straight

/-! ## The diagnostics of a route -/

/-- The diagnostics of the concepts of a route. -/
theorem mem_analysis_diagnostics (membership : diagnostic ∈
      (analyzeRouteConcepts text checkoutBinding route index project).diagnostics) :
    Attributed route diagnostic ∨
      ∃ entry ∈ routeModels text (resolvedCallPaths index route.ownerSymbolId project) project,
        diagnostic ∈ unresolvedCallDiagnostics text entry.2 index ∨
          diagnostic ∈ unsupportedFlowDiagnostics entry.2 := by
  rw [analyzeRouteConcepts] at membership
  dsimp only at membership
  simp only [List.mem_append] at membership
  rcases membership with ((concepts | insufficient) | observed) | order
  · obtain ⟨concept, isConcept, reported⟩ := List.mem_flatMap.mp concepts
    obtain ⟨entry, isModel, rfl⟩ := List.mem_map.mp isConcept
    rw [functionConcepts] at reported
    dsimp only at reported
    simp only [List.mem_append] at reported
    rcases reported with ((candidate | unresolved) | flow) | helper
    · exact .inl (attributed_trustCandidate candidate)
    · exact .inr ⟨entry, isModel, .inl unresolved⟩
    · exact .inr ⟨entry, isModel, .inr flow⟩
    · exact .inl (attributed_helper helper)
  · exact .inl (attributed_insufficient insufficient)
  · exact .inl (attributed_observed observed)
  · exact .inl (attributed_order order)

/-- What the functions of a route report is reported for the route. -/
theorem mem_analysis_of_function
    {entry : List CallSiteRecord × FunctionControlModel}
    (isModel : entry ∈ routeModels text (resolvedCallPaths index route.ownerSymbolId project) project)
    (reported : diagnostic ∈ unresolvedCallDiagnostics text entry.2 index ∨
      diagnostic ∈ unsupportedFlowDiagnostics entry.2) :
    diagnostic ∈ (analyzeRouteConcepts text checkoutBinding route index project).diagnostics := by
  rw [analyzeRouteConcepts]
  dsimp only
  refine List.mem_append_left _ (List.mem_append_left _ (List.mem_append_left _ ?_))
  refine List.mem_flatMap.mpr ⟨_, List.mem_map_of_mem isModel, ?_⟩
  rw [functionConcepts]
  simp only [List.mem_append]
  rcases reported with unresolved | flow
  · exact .inl (.inl (.inr unresolved))
  · exact .inl (.inr flow)

/-- The analysis of a route is part of its graph. -/
theorem mem_routeGraph_of_analysis (membership : diagnostic ∈
      (analyzeRouteConcepts text checkoutBinding route index project).diagnostics) :
    diagnostic ∈ (routeGraph text checkoutBinding index project route).diagnostics := by
  rw [routeGraph, constructRouteGraph]
  split
  next => exact membership
  next => exact List.mem_append_left _ (List.mem_append_left _ membership)

/-- What is in a loop is reported for an ingress. -/
theorem mem_routeGraph_of_loop {kind : PaymentIngressKind}
    (isIngress : (analyzeRouteConcepts text checkoutBinding route index project).ingressKind =
      some kind)
    (membership : diagnostic ∈ loopDiagnostics route
      (analyzeRouteConcepts text checkoutBinding route index project)) :
    diagnostic ∈ (routeGraph text checkoutBinding index project route).diagnostics := by
  rw [routeGraph, constructRouteGraph, isIngress]
  exact List.mem_append_right _ membership

/-- The diagnostics of the graph of a route. -/
theorem mem_routeGraph_diagnostics (membership : diagnostic ∈
      (routeGraph text checkoutBinding index project route).diagnostics) :
    diagnostic ∈ (analyzeRouteConcepts text checkoutBinding route index project).diagnostics ∨
      Attributed route diagnostic ∨
      (analyzeRouteConcepts text checkoutBinding route index project).ingressKind.isSome ∧
        diagnostic ∈ loopDiagnostics route
          (analyzeRouteConcepts text checkoutBinding route index project) := by
  rw [routeGraph, constructRouteGraph] at membership
  split at membership
  next => exact .inl membership
  next kind isIngress =>
    simp only [List.mem_append] at membership
    rcases membership with (analysed | late) | loop
    · exact .inl analysed
    · exact .inr (.inl (attributed_late late))
    · exact .inr (.inr ⟨by rw [isIngress]; rfl, loop⟩)

/-- The diagnostics of a route name it exactly when the analysis meets none of the three
exceptions. -/
theorem attributed_routeGraph_iff :
    (∀ diagnostic ∈ (routeGraph text checkoutBinding index project route).diagnostics,
        Attributed route diagnostic) ↔
      FullyAttributed text checkoutBinding index project route := by
  constructor
  · intro attributed
    have analysed := fun diagnostic membership =>
      attributed diagnostic (mem_routeGraph_of_analysis membership)
    refine ⟨?_, ?_, ?_⟩
    · intro entry isModel relevant callSite listed
      by_contra unresolved
      have reported := mem_unresolvedCallDiagnostics.mpr
        ⟨relevant, callSite, listed, eq_true_of_ne_false unresolved, rfl⟩
      have named := analysed _ (mem_analysis_of_function isModel (.inl reported)) rfl
      cases named
    · intro entry isModel
      by_contra star
      have reported := mem_unsupportedFlowDiagnostics.mpr ⟨eq_true_of_ne_false star, rfl⟩
      have named := analysed _ (mem_analysis_of_function isModel (.inr reported)) rfl
      cases named
    · intro ingress fact isFact
      by_contra loops
      obtain ⟨kind, isIngress⟩ := Option.isSome_iff_exists.mp ingress
      have inLoop := (@mem_loopDiagnostics route _ _).mpr
        ⟨⟨fact, isFact, eq_true_of_ne_false loops⟩, rfl⟩
      have named := attributed _ (mem_routeGraph_of_loop isIngress inLoop) rfl
      cases named
  · intro complete diagnostic membership
    rcases mem_routeGraph_diagnostics membership with analysed | named | ⟨ingress, loop⟩
    · rcases mem_analysis_diagnostics analysed with named | ⟨entry, isModel, reported⟩
      · exact named
      · rcases reported with unresolved | flow
        · obtain ⟨relevant, callSite, listed, isUnresolved, -⟩ :=
            mem_unresolvedCallDiagnostics.mp unresolved
          rw [complete.calls entry isModel relevant callSite listed] at isUnresolved
          cases isUnresolved
        · have star := (mem_unsupportedFlowDiagnostics.mp flow).1
          rw [complete.flow entry isModel] at star
          cases star
    · exact named
    · obtain ⟨⟨fact, isFact, inLoop⟩, -⟩ := mem_loopDiagnostics.mp loop
      rw [complete.loops ingress fact isFact] at inLoop
      cases inLoop

/-! ## The projected graph -/

/-- A projection keeps the diagnostics it starts from. -/
theorem mem_projectIngress {nodes : List GraphNode} {customerNode ingress : GraphNode}
    {selected : SymbolId} {state : Projection} (membership : diagnostic ∈ state.diagnostics) :
    diagnostic ∈ (projectIngress text checkoutBinding index project nodes customerNode selected
      state ingress).diagnostics := by
  rw [projectIngress]
  split
  next => exact membership
  next =>
    dsimp only
    split
    next => exact membership
    next =>
      split
      next => exact membership
      next => exact membership
      next =>
        rw [projectPath]
        split
        next =>
          dsimp only
          split
          next => exact membership
          next => exact List.mem_append_left _ membership
        next =>
          dsimp only
          split
          next => exact membership
          next => exact membership

theorem mem_projectControlRelationships {nodes : List GraphNode} {edges : List GraphEdge}
    {diagnostics : List GraphDiagnosticRecord} {customerNode : GraphNode} {selected : SymbolId}
    (membership : diagnostic ∈ diagnostics) :
    diagnostic ∈ (projectControlRelationships text checkoutBinding index project nodes edges
      diagnostics customerNode selected).diagnostics := by
  rw [projectControlRelationships]
  generalize connectedIngresses nodes edges customerNode = ingresses
  generalize start : (⟨edges, diagnostics⟩ : Projection) = state
  have kept : diagnostic ∈ state.diagnostics := start ▸ membership
  clear start
  induction ingresses generalizing state with
  | nil => exact kept
  | cons ingress rest ih => exact ih _ (mem_projectIngress kept)

/-- A projected graph keeps the diagnostics of the structural graph. -/
theorem mem_diagnostics_of_project {fingerprint : GraphFingerprint}
    {structural graph : PaymentSafetyGraphArtifact} {resolution : CustomerValueResolution}
    {basis : ResolutionBasis} {resolutionFingerprint : Sha256Digest}
    (projected : projectCustomerValue text checkoutBinding index project fingerprint structural
      resolution basis resolutionFingerprint = .ok graph)
    (membership : diagnostic ∈ structural.diagnostics) : diagnostic ∈ graph.diagnostics := by
  rw [projectCustomerValue] at projected
  split at projected
  next =>
    split at projected
    next => cases projected
    next =>
      split at projected
      next => cases projected
      next =>
        rw [(graphArtifact_eq_ok projected).1, KeyOrder.mem_sortedByKey]
        exact mem_projectControlRelationships membership
  next => cases projected; exact membership

end

/-! ## What is withheld -/

section

variable {graph : PaymentSafetyGraphArtifact} {control : NormalControlInstance}

/-- Nothing is granted to a control, in whatever list of controls and by whatever policy. -/
structure Withheld (graph : PaymentSafetyGraphArtifact) (control : NormalControlInstance) :
    Prop where
  suggestion : ∀ controls, control ∈ controls →
    policySuggestion graph controls = (.insufficientEvidence, none)
  evidence : capturedWebhookControlEvidence graph control = none
  normalCapture : ∀ policy, (normalCaptureState graph policy control).1 ≠ .applicable
  duplicateCapture : ∀ policy, (duplicateCaptureState graph policy control).1 ≠ .applicable
  retry : ∀ policy, (retryState graph policy control).1 ≠ .applicable
  regression : ∀ hashing, (regressionState hashing graph control).1 ≠ .applicable
  forgedValue : (forgedValueState graph control).1 ≠ .applicable

theorem duplicateCapture_withheld (evidence : capturedWebhookControlEvidence graph control = none)
    (policy : MerchantPolicyAssessment) :
    (duplicateCaptureState graph policy control).1 ≠ .applicable := by
  rw [duplicateCaptureState]
  split
  next inapplicable => exact inapplicable
  next =>
    rw [evidence]
    exact ApplicabilityState.noConfusion

/-- One diagnostic that bears on a control withholds everything. -/
theorem withheld_of_relevant {diagnostic : GraphDiagnosticRecord}
    (relevant : diagnostic ∈ relevantDiagnostics graph [control]) : Withheld graph control := by
  have bears : relevantDiagnostics graph [control] ≠ [] := List.ne_nil_of_mem relevant
  have evidence : capturedWebhookControlEvidence graph control = none := by
    rw [capturedWebhookControlEvidence]
    split
    next => rfl
    next => rw [if_pos (.inr bears)]
  refine ⟨?_, evidence, ?_, duplicateCapture_withheld evidence, ?_, ?_, ?_⟩
  · intro controls membership
    exact policySuggestion_of_relevant
      (List.ne_nil_of_mem (relevantDiagnostics_mono membership relevant))
  · intro policy
    rw [normalCaptureState]
    split
    next inapplicable => exact inapplicable
    next =>
      rw [evidence]
      split <;> exact ApplicabilityState.noConfusion
  · intro policy
    rw [retryState, if_pos (duplicateCapture_withheld evidence policy)]
    exact duplicateCapture_withheld evidence policy
  · intro hashing
    simp [regressionState, assessed, bears]
  · rw [forgedValueState, evidence]
    exact ApplicabilityState.noConfusion

end

/-! ## Every diagnostic of a route -/

/-- What the build reports for a route: in the analysis of the route, or where the projection
finds a call that may not run its callee. -/
def EmittedFor (text : BuildText)
    (checkoutBinding : FunctionControlModel → Option CheckoutRequestBinding)
    (index : SourceIndexArtifact) (project : ParsedProject) (graph : PaymentSafetyGraphArtifact)
    (route : ReachableRoute) (diagnostic : GraphDiagnosticRecord) : Prop :=
  diagnostic ∈ (routeGraph text checkoutBinding index (parsedFunctions text index project)
      route).diagnostics ∨
    ∃ selected gap, diagnostic ∈ graph.diagnostics ∧
      diagnostic = executionGapDiagnostic route.registration.routeRegistrationId selected gap

section Example

/-- `deliver()`, or `await deliver()`. -/
def callDeliver (awaited : Bool) : Stmt :=
  let call : Expr := .call (node 212 7) (named 213 7 "deliver") [] []
  .expr (node 210 7) (if awaited then .await (node 211 7) call else call)

/-- `audit.record(raw)`. -/
def callAudit : Stmt :=
  .expr (node 220 8) (.call (node 221 8) (member 222 8 "audit" "record") [named 224 8 "raw"] [])

/-- A handler that delivers for a captured payment. -/
def deliveringHandler (work : List Stmt)
    (distinctNodes : ((Stmt.placesAll [] (readRequest ++ [.if (node 200 6)
      (eventComparison 201 6 .eq) work []])).map (·.1.info.identity)).Nodup) :
    FunctionControlModel :=
  coroutine "webhook" 1 ["request"] (readRequest ++ [.if (node 200 6) (eventComparison 201 6 .eq)
    work []]) distinctNodes

/-- What is delivered. -/
def deliverFunction : FunctionControlModel :=
  coroutine "deliver" 20 [] [.plain (node 400 21) (.other "Pass") []] (by decide)

/-- A served application with the handler of a webhook, and the function `deliver`. -/
def servedIndex (callSites : List CallSiteRecord)
    (known : ∀ call ∈ callSites, call.callerSymbolId ∈ ["webhook", "deliver"] ∧
      ∀ callee ∈ call.calleeSymbolId, callee ∈ ["webhook", "deliver"]) : SourceIndexArtifact :=
  { indexOf ["webhook", "deliver"] callSites (by decide) known with
    frameworkInstances := [⟨"app", "file", "app", .fastapiApp, some "", ⟨"main.py", 1, 0, 1, 0⟩⟩]
    appTargets := [⟨"main:app", "app", .configured, ⟨"main.py", 1, 0, 1, 0⟩⟩]
    routes := [⟨"webhook", "app", "POST", "/webhook", ⟨"main.py", 1, 0, 1, 0⟩⟩]
    frameworksUnique := List.nodup_singleton _ }

/-- The call of `deliver`. -/
def deliverSite : CallSiteRecord := ⟨"webhook", some "deliver", "deliver", ⟨"main.py", 7, 0, 7, 0⟩⟩

/-- The call of `audit.record`, which is not resolved. -/
def auditSite : CallSiteRecord := ⟨"webhook", none, "audit.record", ⟨"main.py", 8, 0, 8, 0⟩⟩

/-- `deliver` is the customer-value action. -/
def deliverResolution : CustomerValueResolution := ⟨.unique, some "deliver", by decide⟩

/-- A project that calls `deliver` and drops the coroutine. -/
def droppedDelivery : ParsedProject :=
  projectOf [deliveringHandler [callDeliver false] (by decide), deliverFunction]

/-- A project that awaits `deliver` and then calls something unknown. -/
def auditedDelivery : ParsedProject :=
  projectOf [deliveringHandler [callDeliver true, callAudit] (by decide), deliverFunction]

/-- The structural graph of a project with `deliver`. -/
def structuralOf (index : SourceIndexArtifact) (project : ParsedProject) :
    Except String PaymentSafetyGraphArtifact :=
  constructPaymentSafetyGraph plainText (fun _ => none) (fun _ _ _ _ _ _ => "graph") index project

/-- The graph with `deliver` projected on it. -/
def projectedOf (index : SourceIndexArtifact) (project : ParsedProject)
    (structural : PaymentSafetyGraphArtifact) : Except String PaymentSafetyGraphArtifact :=
  projectCustomerValue plainText (fun _ => none) index project (fun _ _ _ _ _ _ => "graph")
    structural deliverResolution .humanConfirmed "resolution"

/-- The index of `droppedDelivery`. -/
def droppedIndex : SourceIndexArtifact := servedIndex [deliverSite] (by decide)

/-- The index of `auditedDelivery`. -/
def auditedIndex : SourceIndexArtifact := servedIndex [deliverSite, auditSite] (by decide)

theorem droppedDelivery_attributed :
    ∀ route ∈ (composeEffectiveRoutes plainText droppedIndex).routes,
      FullyAttributed plainText (fun _ => none) droppedIndex
        (parsedFunctions plainText droppedIndex droppedDelivery) route := by
  intro route effective
  refine ⟨?_, ?_, ?_⟩ <;> revert route <;> decide +kernel

end Example

end StateGuard
