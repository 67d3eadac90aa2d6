import StateGuard.Applicability.Engine

/-!
# Absence in a partial graph

A scenario is not applicable when a surface, a sequence, a target or a control was not found.
In a partial graph a fact that was not found may exist all the same, so such a conclusion is
not sound there.  Most branches of the catalog know this: the fallback state
(`fallbackState_of_incomplete`) and the mutation state of the trust scenarios
(`trustMutationState_partial`) are indeterminate in a partial graph.  Three are not guarded:
the webhook-only scenario without a checkout ingress, the regression assertion without
mutations, and the late authorisation on routes without an authorised state.

`concludesNoAbsence_iff` says that these three are all: in a partial graph no assertion
concludes absence exactly when none of the three branches is taken.
-/

namespace StateGuard

/-! ## Concluding absence -/

/-- The reasons that state that something was not found. -/
def absenceCodes : List ApplicabilityReasonCode :=
  [.ingressAbsent, .customerValuePathAbsent, .mutationTargetAbsent, .checkoutSurfaceRequired,
    .stateRegressionTargetAbsent, .lateSequenceNotSupported]

/-- The assertion is not applicable because something was not found. -/
def ConcludesAbsence (assertion : AssertionApplicability) : Prop :=
  assertion.state = .notApplicable ∧ ∃ reason ∈ assertion.reasons, reason.code ∈ absenceCodes

instance (assertion : AssertionApplicability) : Decidable (ConcludesAbsence assertion) :=
  inferInstanceAs (Decidable (_ ∧ ∃ _ ∈ _, _))

/-- No assertion of the instances concludes absence. -/
def NoAbsence (instances : List ScenarioInstance) : Prop :=
  ∀ item ∈ instances, ∀ assertion ∈ item.assertions, ¬ ConcludesAbsence assertion

/-- An assessed state is not an absence. -/
def Assessed.Guarded (item : Assessed) : Prop := item.1 ≠ .notApplicable

theorem not_concludesAbsence_of_guarded {hashing : Hashing} {instanceId : ScenarioInstanceId}
    {key : AssertionKey} {role : AssertionRole} {item : Assessed}
    {control : Option NormalControlInstance} (guarded : item.Guarded) :
    ¬ ConcludesAbsence (assertionOf hashing instanceId key role item control) :=
  fun absence => guarded absence.1

theorem noAbsence_controlInstance {hashing : Hashing} {graph : PaymentSafetyGraphArtifact}
    {scenario : ScenarioId} {key : AssertionKey} {control : NormalControlInstance}
    {item : Assessed} (guarded : item.Guarded) :
    ∀ assertion ∈ (controlInstance hashing graph scenario key control item).assertions,
      ¬ ConcludesAbsence assertion := by
  intro assertion membership
  rw [List.mem_singleton.mp membership]
  exact not_concludesAbsence_of_guarded guarded

theorem noAbsence_catalogInstance {hashing : Hashing} {scenario : ScenarioId}
    {key : AssertionKey} {item : Assessed} (guarded : item.Guarded) :
    ∀ assertion ∈ (catalogInstance hashing scenario key item).assertions,
      ¬ ConcludesAbsence assertion := by
  intro assertion membership
  rw [List.mem_singleton.mp membership]
  exact not_concludesAbsence_of_guarded guarded

/-- Instances conclude no absence when each of them does not, and the catalog one does not
where there is none. -/
theorem noAbsence_orCatalog {instances : List ScenarioInstance} {catalog : ScenarioInstance}
    (each : NoAbsence instances)
    (fallback : instances = [] → ∀ assertion ∈ catalog.assertions, ¬ ConcludesAbsence assertion) :
    NoAbsence (orCatalog instances catalog) := by
  intro item membership
  rcases mem_orCatalog.mp membership with membership | ⟨none, rfl⟩
  · exact each item membership
  · exact fallback none

/-! ## Guarded states -/

theorem policyState_guarded (policy : MerchantPolicyAssessment)
    (control : NormalControlInstance) : (policyState policy control).Guarded := by
  unfold policyState
  split
  next => exact fun absent => by cases absent
  next => split <;> exact fun absent => by cases absent

theorem duplicateCaptureState_guarded (graph : PaymentSafetyGraphArtifact)
    (policy : MerchantPolicyAssessment) (control : NormalControlInstance) :
    (duplicateCaptureState graph policy control).Guarded := by
  unfold duplicateCaptureState
  dsimp only
  split
  next => exact policyState_guarded policy control
  next => split <;> exact fun absent => by cases absent

theorem normalCaptureState_guarded (graph : PaymentSafetyGraphArtifact)
    (policy : MerchantPolicyAssessment) (control : NormalControlInstance) :
    (normalCaptureState graph policy control).Guarded := by
  unfold normalCaptureState
  dsimp only
  split
  next => exact policyState_guarded policy control
  next =>
    split
    next => exact fun absent => by cases absent
    next => split <;> exact fun absent => by cases absent

theorem retryState_guarded (graph : PaymentSafetyGraphArtifact)
    (policy : MerchantPolicyAssessment) (control : NormalControlInstance) :
    (retryState graph policy control).Guarded := by
  unfold retryState
  dsimp only
  split
  next => exact duplicateCaptureState_guarded graph policy control
  next => split <;> exact fun absent => by cases absent

theorem webhookOnlyState_guarded (graph : PaymentSafetyGraphArtifact)
    (controls : List NormalControlInstance) (policy : MerchantPolicyAssessment)
    (control : NormalControlInstance) :
    (webhookOnlyState graph controls policy control).Guarded := by
  unfold webhookOnlyState
  dsimp only
  split
  next => exact duplicateCaptureState_guarded graph policy control
  next => split <;> exact fun absent => by cases absent

theorem forgedValueState_guarded (graph : PaymentSafetyGraphArtifact)
    (control : NormalControlInstance) : (forgedValueState graph control).Guarded := by
  unfold forgedValueState
  split <;> exact fun absent => by cases absent

theorem tamperedValueState_guarded (ingress : GraphNode) (control : NormalControlInstance) :
    (tamperedValueState ingress control).Guarded := by
  unfold tamperedValueState
  split <;> exact fun absent => by cases absent

/-- The fallback state of a partial graph is never an absence. -/
theorem fallbackState_of_incomplete {graph : PaymentSafetyGraphArtifact}
    (incomplete : graph.completeness = .partialGraph)
    (resolution : Option CustomerValueResolution) (available : List GraphNode) :
    (fallbackState graph resolution available).Guarded := by
  unfold fallbackState
  rw [if_pos incomplete]
  split
  next => exact fun absent => by cases absent
  next =>
    split
    next => exact fun absent => by cases absent
    next => exact fun absent => by cases absent

/-- The mutation state of a partial graph is never an absence. -/
theorem trustMutationState_partial {graph : PaymentSafetyGraphArtifact}
    (incomplete : graph.completeness = .partialGraph) (hashing : Hashing) (ingress : GraphNode)
    (unbound : Prop) [Decidable unbound] (mutations : List GraphNode) :
    (trustMutationState hashing graph ingress unbound mutations).Guarded := by
  unfold trustMutationState
  dsimp only [Assessed.Guarded, assessed]
  split
  next => exact fun absent => by cases absent
  next =>
    split
    next => exact fun absent => by cases absent
    next =>
      rw [if_pos (.inl incomplete)]
      exact fun absent => by cases absent

theorem lateAssertions_guarded (graph : PaymentSafetyGraphArtifact)
    (policy : MerchantPolicyAssessment) (control : NormalControlInstance) :
    ∀ item ∈ (lateAssertions graph policy control).1 :: (lateAssertions graph policy control).2,
      item.2.Guarded := by
  have single {entry item : AssertionKey × Assessed} (guarded : entry.2.Guarded)
      (membership : item ∈ [entry]) : item.2.Guarded := by
    rw [List.mem_singleton.mp membership]
    exact guarded
  intro item membership
  unfold lateAssertions at membership
  split at membership
  next => exact single (fun absent => by cases absent) membership
  next =>
    split at membership
    next => exact single (fun absent => by cases absent) membership
    next =>
      split at membership
      next => exact single (fun absent => by cases absent) membership
      next =>
        split at membership
        next => exact single (fun absent => by cases absent) membership
        next =>
          split at membership
          next => exact single (fun absent => by cases absent) membership
          next =>
            split at membership
            next =>
              rcases List.mem_cons.mp membership with rfl | membership
              · exact fun absent => by cases absent
              · split at membership
                next =>
                  refine single ?_ membership
                  split <;> exact fun absent => by cases absent
                next => cases membership
            next => exact single (fun absent => by cases absent) membership

/-! ## The three unguarded branches -/

/-- The branches that conclude absence from an incomplete graph are not taken. -/
structure AbsenceGuarded (hashing : Hashing) (graph : PaymentSafetyGraphArtifact)
    (controls : List NormalControlInstance) : Prop where
  /-- The webhook-only scenario finds a checkout surface. -/
  checkout : ingressesOf graph .checkoutCallback ≠ []
  /-- Every webhook control has regression mutations, or a diagnostic that says why not. -/
  regression : ∀ control ∈ webhookControls controls,
    regressionMutationsForControl hashing graph control ≠ [] ∨
      relevantDiagnostics graph [control] ≠ []
  /-- Some webhook route handles a late authorisation, if there is one. -/
  late : webhookControls controls ≠ [] →
    ∃ control ∈ webhookControls controls, ¬ LateSequenceUnsupported graph control

section Scenarios

variable {hashing : Hashing} {graph : PaymentSafetyGraphArtifact}
  {resolution : Option CustomerValueResolution} {controls : List NormalControlInstance}
  {policy : MerchantPolicyAssessment}

theorem noAbsence_webhookInstances (incomplete : graph.completeness = .partialGraph)
    (scenario : ScenarioId) (key : AssertionKey) (available : List GraphNode)
    {state : NormalControlInstance → Assessed} (guarded : ∀ control, (state control).Guarded) :
    NoAbsence (webhookInstances hashing graph resolution controls scenario key available state) := by
  refine noAbsence_orCatalog ?_ fun _ =>
    noAbsence_catalogInstance (fallbackState_of_incomplete incomplete resolution available)
  intro item membership
  obtain ⟨control, -, rfl⟩ := List.mem_map.mp membership
  exact noAbsence_controlInstance (guarded control)

/-- The instances of a trust scenario conclude no absence in a partial graph. -/
theorem noAbsence_trust (incomplete : graph.completeness = .partialGraph)
    {scenario : ScenarioId} {mutationKey valueKey : AssertionKey} {available : List GraphNode}
    {build : GraphNode → Option NormalControlInstance → ScenarioInstance}
    (builds : ∀ ingress control, ∃ mutationState valueState : Assessed,
      mutationState.Guarded ∧ valueState.Guarded ∧ build ingress control =
        trustInstance hashing scenario mutationKey valueKey ingress control mutationState
          valueState) :
    NoAbsence (orCatalog
      (available.flatMap fun ingress => (controlsOfIngress controls ingress).map (build ingress))
      (catalogInstance hashing scenario valueKey (fallbackState graph resolution available))) := by
  refine noAbsence_orCatalog ?_ fun _ =>
    noAbsence_catalogInstance (fallbackState_of_incomplete incomplete resolution available)
  intro item membership
  obtain ⟨ingress, -, membership⟩ := List.mem_flatMap.mp membership
  obtain ⟨control, -, rfl⟩ := List.mem_map.mp membership
  obtain ⟨mutationState, valueState, mutationGuarded, valueGuarded, built⟩ := builds ingress control
  rw [built]
  intro assertion membership
  rcases List.mem_cons.mp membership with rfl | membership
  · exact not_concludesAbsence_of_guarded mutationGuarded
  · rw [List.mem_singleton.mp membership]
    exact not_concludesAbsence_of_guarded valueGuarded

theorem noAbsence_sg05 (incomplete : graph.completeness = .partialGraph) :
    NoAbsence (sg05Instances hashing graph resolution controls) := by
  refine noAbsence_trust incomplete fun ingress control => ⟨_, _, ?_, ?_, rfl⟩
  · exact trustMutationState_partial incomplete hashing ingress _ _
  · cases control with
    | none => exact fallbackState_of_incomplete incomplete resolution _
    | some control => exact forgedValueState_guarded graph control

theorem noAbsence_sg06 (incomplete : graph.completeness = .partialGraph) :
    NoAbsence (sg06Instances hashing graph resolution controls) := by
  refine noAbsence_trust incomplete fun ingress control => ⟨_, _, ?_, ?_, rfl⟩
  · exact trustMutationState_partial incomplete hashing ingress _ _
  · cases control with
    | none => exact fallbackState_of_incomplete incomplete resolution _
    | some control => exact tamperedValueState_guarded ingress control

/-- The regression assertion concludes absence exactly on a control without mutations and
without a relevant diagnostic. -/
theorem regressionState_absent_iff (hashing : Hashing) (graph : PaymentSafetyGraphArtifact)
    (control : NormalControlInstance) (instanceId : ScenarioInstanceId) (key : AssertionKey) :
    ConcludesAbsence (assertionOf hashing instanceId key .optional
        (regressionState hashing graph control) (some control)) ↔
      regressionMutationsForControl hashing graph control = [] ∧
        relevantDiagnostics graph [control] = [] := by
  simp only [ConcludesAbsence, assertionOf, regressionState, assessed]
  by_cases mutations : regressionMutationsForControl hashing graph control = []
  · by_cases relevant : relevantDiagnostics graph [control] = []
    · simp [mutations, relevant, absenceCodes]
    · simp [mutations, relevant]
  · by_cases relevant : relevantDiagnostics graph [control] = []
    · simp [mutations, relevant]
    · simp [mutations, relevant]

theorem noAbsence_sg04_iff (incomplete : graph.completeness = .partialGraph) :
    NoAbsence (sg04Instances hashing graph resolution controls policy) ↔
      ∀ control ∈ webhookControls controls,
        regressionMutationsForControl hashing graph control ≠ [] ∨
          relevantDiagnostics graph [control] ≠ [] := by
  constructor
  · intro none control membership
    by_contra absent
    simp only [ne_eq, not_or, not_not] at absent
    refine none (sg04Instance hashing graph policy control) ?_ _ ?_
      ((regressionState_absent_iff hashing graph control
        (hashing.scenarioInstanceId .sg04 control.controlId) .sg04StateRegression).mpr absent)
    · exact mem_orCatalog.mpr (.inl (List.mem_map_of_mem membership))
    · exact List.mem_cons_of_mem _ (List.mem_singleton_self _)
  · intro found
    refine noAbsence_orCatalog ?_ fun _ =>
      noAbsence_catalogInstance (fallbackState_of_incomplete incomplete resolution _)
    intro item membership
    obtain ⟨control, isControl, rfl⟩ := List.mem_map.mp membership
    intro assertion membership
    rcases List.mem_cons.mp membership with rfl | membership
    · exact not_concludesAbsence_of_guarded (duplicateCaptureState_guarded graph policy control)
    · rw [List.mem_singleton.mp membership, regressionState_absent_iff]
      rintro ⟨noMutations, noDiagnostics⟩
      rcases found control isControl with mutations | relevant
      · exact mutations noMutations
      · exact relevant noDiagnostics

/-- A catalog instance that states an absence breaks the rule when it is used. -/
theorem absence_orCatalog {instances : List ScenarioInstance} {catalog : ScenarioInstance}
    {assertion : AssertionApplicability} (none : instances = [])
    (membership : assertion ∈ catalog.assertions) (absence : ConcludesAbsence assertion) :
    ¬ NoAbsence (orCatalog instances catalog) :=
  fun noAbsence => noAbsence catalog (mem_orCatalog.mpr (.inr ⟨none, rfl⟩)) assertion membership
    absence

theorem noAbsence_sg07_iff (incomplete : graph.completeness = .partialGraph) :
    NoAbsence (sg07Instances hashing graph resolution controls policy) ↔
      ingressesOf graph .checkoutCallback ≠ [] := by
  constructor
  · intro noAbsence missing
    refine absence_orCatalog (by rw [if_pos missing]) (List.mem_singleton_self _) ?_ noAbsence
    rw [if_neg fun found => found.1 missing]
    exact ⟨rfl, _, List.mem_singleton_self _, by decide⟩
  · intro found
    refine noAbsence_orCatalog ?_ fun none => noAbsence_catalogInstance ?_
    · rw [if_neg found]
      intro item membership
      obtain ⟨control, -, rfl⟩ := List.mem_map.mp membership
      exact noAbsence_controlInstance (webhookOnlyState_guarded graph controls policy control)
    · rw [if_neg found, List.map_eq_nil_iff] at none
      rw [if_pos ⟨found, none⟩]
      exact fallbackState_of_incomplete incomplete resolution _

theorem noAbsence_sg08_iff (incomplete : graph.completeness = .partialGraph) :
    NoAbsence (sg08Instances hashing graph resolution controls policy) ↔
      (webhookControls controls ≠ [] →
        ∃ control ∈ webhookControls controls, ¬ LateSequenceUnsupported graph control) := by
  constructor
  · intro noAbsence some
    by_contra unsupported
    simp only [not_exists, not_and, not_not] at unsupported
    have none : (webhookControls controls).filter (¬ LateSequenceUnsupported graph ·) = [] := by
      rw [List.filter_eq_nil_iff]
      intro control membership
      simpa using unsupported control membership
    obtain ⟨control, rest, isCons⟩ := List.exists_cons_of_ne_nil some
    refine absence_orCatalog (by rw [none]; rfl) (List.mem_singleton_self _) ?_ noAbsence
    rw [if_pos ⟨control, by simp [isCons], unsupported control (by simp [isCons])⟩]
    exact ⟨rfl, _, List.mem_singleton_self _, by decide⟩
  · intro supported
    refine noAbsence_orCatalog ?_ fun none => noAbsence_catalogInstance ?_
    · intro item membership
      obtain ⟨control, -, rfl⟩ := List.mem_map.mp membership
      intro assertion membership
      have guarded := lateAssertions_guarded graph policy control
      rcases List.mem_cons.mp membership with rfl | membership
      · exact not_concludesAbsence_of_guarded (guarded _ List.mem_cons_self)
      · obtain ⟨entry, isEntry, rfl⟩ := List.mem_map.mp membership
        exact not_concludesAbsence_of_guarded (guarded entry (List.mem_cons_of_mem _ isEntry))
    · rw [List.map_eq_nil_iff, List.filter_eq_nil_iff] at none
      have allUnsupported : ¬ ∃ control ∈ webhookControls controls,
          LateSequenceUnsupported graph control := by
        rintro ⟨control, membership, -⟩
        obtain ⟨other, isOther, handled⟩ := supported (List.ne_nil_of_mem membership)
        exact none other isOther (by simpa using handled)
      rw [if_neg allUnsupported]
      exact fallbackState_of_incomplete incomplete resolution _

end Scenarios

/-! ## The artifact -/

/-- In a partial graph no assertion of the artifact concludes absence exactly when none of
the three unguarded branches is taken. -/
theorem concludesNoAbsence_iff {hashing : Hashing} {config : Option MerchantPolicyConfig}
    {source : SourceAuthority} {graph : PaymentSafetyGraphArtifact}
    {resolution : Option CustomerValueResolution} {resolutionFingerprint : Option Sha256Digest}
    {artifact : ScenarioApplicabilityArtifact}
    (produced : evaluateApplicability hashing config source graph resolution
      resolutionFingerprint = .ok artifact)
    (incomplete : graph.completeness = .partialGraph) :
    (∀ scenario item assertion, (scenario, item, assertion) ∈ artifact.rows →
        ¬ ConcludesAbsence assertion) ↔
      AbsenceGuarded hashing graph
        (normalControls hashing graph resolution resolutionFingerprint) := by
  have evaluated := evaluateApplicability_eq_ok produced
  have split : (∀ scenario item assertion, (scenario, item, assertion) ∈ artifact.rows →
        ¬ ConcludesAbsence assertion) ↔
      ∀ scenario, NoAbsence (instancesOf hashing graph resolution artifact.normalControls
        artifact.policy scenario) := by
    constructor
    · intro none scenario item isItem assertion isAssertion
      exact none scenario item assertion ((evaluated.mem_rows _ _ _).mpr ⟨isItem, isAssertion⟩)
    · intro none scenario item assertion membership
      obtain ⟨isItem, isAssertion⟩ := (evaluated.mem_rows _ _ _).mp membership
      exact none scenario item isItem assertion isAssertion
  rw [split, ← evaluated.controls]
  constructor
  · intro none
    exact ⟨(noAbsence_sg07_iff incomplete).mp (none .sg07),
      (noAbsence_sg04_iff incomplete).mp (none .sg04),
      (noAbsence_sg08_iff incomplete).mp (none .sg08)⟩
  · intro guarded scenario
    cases scenario with
    | sg01 => exact noAbsence_webhookInstances incomplete _ _ _ (normalCaptureState_guarded graph _)
    | sg02 =>
      exact noAbsence_webhookInstances incomplete _ _ _ (duplicateCaptureState_guarded graph _)
    | sg03 => exact noAbsence_webhookInstances incomplete _ _ _ (retryState_guarded graph _)
    | sg04 => exact (noAbsence_sg04_iff incomplete).mpr guarded.regression
    | sg05 => exact noAbsence_sg05 incomplete
    | sg06 => exact noAbsence_sg06 incomplete
    | sg07 => exact (noAbsence_sg07_iff incomplete).mpr guarded.checkout
    | sg08 => exact (noAbsence_sg08_iff incomplete).mpr guarded.late

/-! ### A partial graph with one ingress -/

/-- A graph of one ingress whose build lost coverage elsewhere. -/
def samplePartialGraph (kind : PaymentIngressKind) : PaymentSafetyGraphArtifact :=
  { projectId := "project"
    sourceIndexFingerprint := "index"
    graphFingerprint := "graph"
    completeness := .partialGraph
    diagnostics := [{ code := .upstreamSourceIndexPartial, impact := .coverageReduced }]
    nodes := [sampleIngress kind]
    edges := []
    nodesUnique := List.nodup_singleton _
    edgesUnique := List.nodup_nil
    endpoints := by simp
    completenessMatches := rfl }

/-- A partial graph with a checkout ingress and no webhook control concludes no absence. -/
theorem concludesNoAbsence_checkout :
    ∃ artifact, evaluateApplicability sampleHashing none sampleSource
        (samplePartialGraph .checkoutCallback) none none = .ok artifact ∧
      ∀ scenario item assertion, (scenario, item, assertion) ∈ artifact.rows →
        ¬ ConcludesAbsence assertion := by
  have produced : evaluateApplicability sampleHashing none sampleSource
      (samplePartialGraph .checkoutCallback) none none = .ok _ := rfl
  refine ⟨_, produced, (concludesNoAbsence_iff produced rfl).mpr ?_⟩
  exact ⟨by decide, (fun _ membership => by cases membership), fun some => absurd rfl some⟩

/-- A partial graph with a webhook ingress concludes that there is no checkout surface. -/
theorem partialGraph_concludesAbsence :
    (samplePartialGraph .webhook).completeness = .partialGraph ∧
      ∃ artifact, evaluateApplicability sampleHashing none sampleSource
          (samplePartialGraph .webhook) none none = .ok artifact ∧
        ∃ row ∈ artifact.rows, row.1 = .sg07 ∧ ConcludesAbsence row.2.2 :=
  ⟨rfl, _, rfl, by decide⟩

end StateGuard
