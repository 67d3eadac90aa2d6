import StateGuard.Runtime.Capability
import StateGuard.Runtime.ManagedSession

/-!
# The capability of a managed session

Every plan of the planner has a capability that its validation accepts (`capability_sealed`).  In a
managed session what the parent says of the targets is what the worker observes of them
(`managed_capability_agrees`).
-/

namespace StateGuard

namespace Capability

open Checks KeyOrder
open Routes (RouteAttachment)

variable {plan : RuntimeTargetPlan} {mode : RuntimeMode} {prepared : PreparedInstrumentation}
  {attachments : List RouteAttachment}

/-! ## The capability is valid -/

/-- The route of an ingress of the plan is assessed. -/
theorem routeAssessments_eq (planned : Planned plan) {item : IngressRuntimeBinding}
    (listed : item ∈ plan.ingresses) :
    routeAssessments plan mode attachments item.ingressNodeId =
      .ok (routeAssessment plan mode attachments item) := by
  have distinct : (plan.ingresses.reverse.map (·.ingressNodeId)).Nodup := by
    rw [List.map_reverse, List.nodup_reverse]
    exact planned.nodes
  have found : plan.ingresses.reverse.find? (·.ingressNodeId = item.ingressNodeId) = some item :=
    find?_of_distinct distinct (List.mem_reverse.mpr listed)
  rw [routeAssessments, found]

theorem Planned.customer (planned : Planned plan) {target : CustomerValueRuntimeTarget}
    (listed : target ∈ plan.customerValues) : target.ingress ∈ plan.ingresses :=
  planned.bound _ (by simp [List.mem_map_of_mem listed])

theorem Planned.mutation (planned : Planned plan) {target : MutationRuntimeTarget}
    (listed : target ∈ plan.mutations) : target.ingress ∈ plan.ingresses :=
  planned.bound _ (by simp [List.mem_map_of_mem listed])

theorem Planned.acknowledgement (planned : Planned plan) {target : AcknowledgementRuntimeTarget}
    (listed : target ∈ plan.acknowledgements) : target.ingress ∈ plan.ingresses :=
  planned.bound _ (by simp [List.mem_map_of_mem listed])

/-- An assessment is complete exactly when its reason is that nothing lacks. -/
def RuntimeCapabilityAssessment.Sound (assessed : RuntimeCapabilityAssessment) : Prop :=
  assessed.state = .complete ↔ assessed.reason = .available

theorem sound_assessment {state : RuntimeCapabilityState} {reason : RuntimeCapabilityReasonCode} :
    (assessment state reason).Sound ↔ (state = .complete ↔ reason = .available) := Iff.rfl

/-- An attachment says that a route is available exactly when it is attached. -/
def Honest (attachments : List RouteAttachment) : Prop :=
  ∀ attachment ∈ attachments, attachment.attached = true ↔ attachment.reason = .available

/-- Every target has a trace, or a failure that says why not. -/
structure Accounted (plan : RuntimeTargetPlan) (prepared : PreparedInstrumentation) : Prop where
  customers : ∀ target ∈ plan.customerValues,
    target.normalControlId ∈ prepared.customers.map (·.normalControlId) ∨
      (prepared.customerFailures target.normalControlId).isSome
  mutations : ∀ target ∈ plan.mutations,
    target.mutationNodeId ∈ prepared.mutations.map (·.mutationNodeId) ∨
      (prepared.mutationFailures target.mutationNodeId).isSome
  customerFailures : ∀ id, prepared.customerFailures id ≠ some .available
  mutationFailures : ∀ id, prepared.mutationFailures id ≠ some .available

theorem byIngress_mem {nodeId : GraphNodeId} {attachment : RouteAttachment}
    (found : byIngress attachments nodeId = some attachment) : attachment ∈ attachments :=
  List.mem_reverse.mp (List.mem_of_find?_eq_some found)

theorem sound_routeAssessment (honest : Honest attachments) (item : IngressRuntimeBinding) :
    (routeAssessment plan mode attachments item).Sound := by
  rw [routeAssessment.eq_def]
  split
  next => exact sound_assessment.mpr (by decide)
  next => split <;> exact sound_assessment.mpr (by decide)
  next =>
    split
    next attachment found =>
      split
      next => exact sound_assessment.mpr (by decide)
      next unattached =>
        refine sound_assessment.mpr (iff_of_false nofun fun available => unattached ?_)
        exact (honest attachment (byIngress_mem found)).mpr available
    next => exact sound_assessment.mpr (by decide)

/-- Whether the route of an ingress is attached. -/
def Attached (attachments : List RouteAttachment) (nodeId : GraphNodeId) : Prop :=
  ∃ attachment, byIngress attachments nodeId = some attachment ∧ attachment.attached = true

theorem managed_route_iff {item : IngressRuntimeBinding} :
    (routeAssessment plan .managed attachments item).state ≠ .unavailable ↔
      Attached attachments item.ingressNodeId := by
  rw [routeAssessment, Attached]
  cases byIngress attachments item.ingressNodeId with
  | none => exact iff_of_false (not_not.mpr rfl) nofun
  | some attachment =>
    dsimp only
    split
    next attached => exact iff_of_true nofun ⟨attachment, rfl, attached⟩
    next unattached =>
      refine iff_of_false (not_not.mpr rfl) ?_
      rintro ⟨other, isOther, attached⟩
      cases isOther
      exact unattached attached

theorem find?_trace {id : NormalControlId} :
    prepared.customers.reverse.find? (·.normalControlId = id) = none ↔
      id ∉ prepared.customers.map (·.normalControlId) := by
  rw [List.find?_eq_none, List.mem_map]
  simp [eq_comm]

/-- What a target lacks is not nothing. -/
theorem sound_unavailable {failure : Option RuntimeCapabilityReasonCode}
    {route : RuntimeCapabilityAssessment} (sound : route.Sound)
    (reported : failure ≠ some .available)
    (given : failure.isSome ∨ route.state = .unavailable) :
    (assessment .unavailable (failure.getD route.reason)).Sound := by
  refine sound_assessment.mpr (iff_of_false nofun fun available => ?_)
  cases failure with
  | some reason => exact reported (congrArg some available)
  | none =>
    have complete := sound.mpr available
    rw [given.resolve_left nofun] at complete
    cases complete

theorem assessCustomerValue_spec (planned : Planned plan) (mode : RuntimeMode)
    (prepared : PreparedInstrumentation) (attachments : List RouteAttachment)
    {target : CustomerValueRuntimeTarget} (listed : target ∈ plan.customerValues) :
    ∃ item, assessCustomerValue plan mode prepared attachments target = .ok item ∧
      item.target = target ∧ (item.lifecycle.state = .unavailable ↔ item.strength = none) ∧
      (item.lifecycle.state ≠ .unavailable ↔ mode = .managed ∧
        (routeAssessment plan mode attachments target.ingress).state ≠ .unavailable ∧
        target.normalControlId ∈ prepared.customers.map (·.normalControlId)) ∧
      (Accounted plan prepared → Honest attachments → item.lifecycle.Sound) := by
  have route (honest : Honest attachments) :
      (routeAssessment plan mode attachments target.ingress).Sound :=
    sound_routeAssessment honest target.ingress
  rw [assessCustomerValue, routeAssessments_eq planned (planned.customer listed), ok_bind]
  refine ⟨_, rfl, ?_⟩
  have off {reason : RuntimeCapabilityReasonCode} (lacks : mode ≠ .managed ∨
        (routeAssessment plan mode attachments target.ingress).state = .unavailable ∨
        target.normalControlId ∉ prepared.customers.map (·.normalControlId))
      (sound : Accounted plan prepared → Honest attachments →
        (assessment .unavailable reason).Sound) :
      let item : AssessedCustomerValue :=
        { target, lifecycle := assessment .unavailable reason, strength := none }
      item.target = target ∧ (item.lifecycle.state = .unavailable ↔ item.strength = none) ∧
      (item.lifecycle.state ≠ .unavailable ↔ mode = .managed ∧
        (routeAssessment plan mode attachments target.ingress).state ≠ .unavailable ∧
        target.normalControlId ∈ prepared.customers.map (·.normalControlId)) ∧
      (Accounted plan prepared → Honest attachments → item.lifecycle.Sound) := by
    refine ⟨rfl, iff_of_true rfl rfl, iff_of_false (not_not.mpr rfl) ?_, sound⟩
    rintro ⟨managed, available, traced⟩
    rcases lacks with other | unavailable | untraced
    · exact other managed
    · exact available unavailable
    · exact untraced traced
  dsimp only
  split
  next => exact off (.inl nofun) fun _ _ => sound_assessment.mpr (by decide)
  next => exact off (.inl nofun) fun _ _ => sound_assessment.mpr (by decide)
  next untraced =>
    have absent := find?_trace.mp untraced
    refine off (.inr (.inr absent)) fun accounted honest => ?_
    exact sound_unavailable (route honest) (accounted.customerFailures _)
      (.inl ((accounted.customers target listed).resolve_left absent))
  next trace found =>
    have traced : target.normalControlId ∈ prepared.customers.map (·.normalControlId) := by
      by_contra absent
      rw [find?_trace.mpr absent] at found
      cases found
    split
    next unavailable =>
      refine off (.inr (.inl unavailable)) fun accounted honest => ?_
      exact sound_unavailable (route honest) (accounted.customerFailures _)
        (.inr unavailable)
    next available =>
      split
      next => exact ⟨rfl, iff_of_false nofun nofun, iff_of_true nofun ⟨rfl, available, traced⟩,
          fun _ _ => sound_assessment.mpr (by decide)⟩
      next => exact ⟨rfl, iff_of_false nofun nofun, iff_of_true nofun ⟨rfl, available, traced⟩,
          fun _ _ => sound_assessment.mpr (by decide)⟩

theorem assessMutation_spec (planned : Planned plan) (mode : RuntimeMode)
    (prepared : PreparedInstrumentation) (attachments : List RouteAttachment)
    {target : MutationRuntimeTarget} (listed : target ∈ plan.mutations) :
    ∃ item, assessMutation plan mode prepared attachments target = .ok item ∧
      item.target = target ∧ (item.assignment.state = .unavailable ↔ item.strength = none) ∧
      (item.assignment.state ≠ .unavailable ↔ mode = .managed ∧
        (routeAssessment plan mode attachments target.ingress).state ≠ .unavailable ∧
        target.mutationNodeId ∈ prepared.mutations.map (·.mutationNodeId)) ∧
      (Accounted plan prepared → Honest attachments → item.assignment.Sound) := by
  have route (honest : Honest attachments) :
      (routeAssessment plan mode attachments target.ingress).Sound :=
    sound_routeAssessment honest target.ingress
  rw [assessMutation, routeAssessments_eq planned (planned.mutation listed), ok_bind]
  refine ⟨_, rfl, ?_⟩
  split
  next whole =>
    exact ⟨rfl, iff_of_false nofun nofun, iff_of_true nofun whole,
      fun _ _ => sound_assessment.mpr (by decide)⟩
  next lacks =>
    refine ⟨rfl, iff_of_true rfl rfl, iff_of_false (not_not.mpr rfl) lacks,
      fun accounted honest => ?_⟩
    split
    next => exact sound_assessment.mpr (by decide)
    next => exact sound_assessment.mpr (by decide)
    next =>
      refine sound_unavailable (route honest) (accounted.mutationFailures _) ?_
      by_cases unavailable : (routeAssessment plan .managed attachments target.ingress).state =
          .unavailable
      · exact .inr unavailable
      · exact .inl ((accounted.mutations target listed).resolve_left fun traced =>
          lacks ⟨rfl, unavailable, traced⟩)

theorem assessIngress_spec (planned : Planned plan) (mode : RuntimeMode)
    (attachments : List RouteAttachment) {item : IngressRuntimeBinding}
    (listed : item ∈ plan.ingresses) :
    ∃ ingress, assessIngress plan mode attachments item = .ok ingress ∧ ingress.binding = item ∧
      ingress.addressability = routeAssessment plan mode attachments item ∧
      (Honest attachments → ingress.requestCorrelation.Sound) := by
  rw [assessIngress, routeAssessments_eq planned listed, ok_bind]
  refine ⟨_, rfl, rfl, rfl, fun honest => ?_⟩
  have route : (routeAssessment plan mode attachments item).Sound :=
    sound_routeAssessment honest item
  dsimp only
  split
  next => exact route
  next unmanaged =>
    have foreign : (routeAssessment plan mode attachments item).reason ≠ .available := by
      rw [routeAssessment.eq_def]
      split
      next => exact nofun
      next => split <;> exact nofun
      next => exact absurd rfl unmanaged
    refine sound_assessment.mpr (iff_of_false ?_ ?_)
    · split <;> exact nofun
    · split
      next => exact nofun
      next => exact foreign

theorem assessAcknowledgement_spec (planned : Planned plan) (mode : RuntimeMode)
    (attachments : List RouteAttachment) {target : AcknowledgementRuntimeTarget}
    (listed : target ∈ plan.acknowledgements) :
    ∃ item, assessAcknowledgement plan mode attachments target = .ok item ∧
      item.target = target ∧
      (item.timeline.state ≠ .unavailable → mode ≠ .static ∧
        (routeAssessment plan mode attachments target.ingress).state ≠ .unavailable) ∧
      (Honest attachments → item.timeline.Sound) := by
  rw [assessAcknowledgement, routeAssessments_eq planned (planned.acknowledgement listed), ok_bind]
  refine ⟨_, rfl, rfl, ?_, fun honest => ?_⟩
  · dsimp only
    split
    next managed => exact fun available => ⟨by rw [managed]; exact nofun, available⟩
    next =>
      show (if mode = .byo ∧ _ then _ else _) ≠ _ → _
      split
      next whole => exact fun _ => ⟨by rw [whole.1]; exact nofun, whole.2⟩
      next => exact fun available => absurd rfl available
  · dsimp only
    split
    next => exact sound_routeAssessment honest target.ingress
    next =>
      refine sound_assessment.mpr (iff_of_false ?_ ?_)
      · split <;> exact nofun
      · split <;> exact nofun

/-- A list whose elements can be built is built, each with what is said of it. -/
theorem collect_spec {ε α β : Type} {build : α → Except ε β} {told : α → β → Prop} {items : List α}
    (spec : ∀ item ∈ items, ∃ value, build item = .ok value ∧ told item value) :
    ∃ built, collect build items = .ok built ∧ List.Forall₂ told items built := by
  obtain ⟨built, collected⟩ := collect_ok fun item listed =>
    (spec item listed).imp fun _ isBuilt => isBuilt.1
  refine ⟨built, collected, (collect_related collected).imp fun item value related => ?_⟩
  obtain ⟨other, isOther, holds⟩ := spec item related.1
  cases related.2.symm.trans isOther
  exact holds

theorem map_of_forall₂ {α β : Type} {told : α → β → Prop} {key : β → α} {items : List α}
    {built : List β} (related : List.Forall₂ told items built)
    (keeps : ∀ item value, told item value → key value = item) : built.map key = items := by
  induction related with
  | nil => rfl
  | cons holds _ ih => rw [List.map_cons, keeps _ _ holds, ih]

theorem forall_of_forall₂ {α β : Type} {told : α → β → Prop} {holds : β → Prop} {items : List α}
    {built : List β} (related : List.Forall₂ told items built)
    (gives : ∀ item value, told item value → holds value) : ∀ value ∈ built, holds value := by
  induction related with
  | nil => exact fun value listed => by cases listed
  | cons first _ ih => exact List.forall_mem_cons.mpr ⟨gives _ _ first, ih⟩

/-- What is said of the targets of a plan. -/
structure Assesses (plan : RuntimeTargetPlan) (mode : RuntimeMode)
    (prepared : PreparedInstrumentation) (attachments : List RouteAttachment)
    (payload : CapabilityPayload) : Prop where
  ingresses : payload.ingresses.map (·.binding) = plan.ingresses
  customerValues : payload.customerValues.map (·.target) = plan.customerValues
  mutations : payload.mutations.map (·.target) = plan.mutations
  acknowledgements : payload.acknowledgements.map (·.target) = plan.acknowledgements
  routes : ∀ ingress ∈ payload.ingresses,
    ingress.addressability = routeAssessment plan mode attachments ingress.binding
  customerStrength : ∀ item ∈ payload.customerValues,
    item.lifecycle.state = .unavailable ↔ item.strength = none
  mutationStrength : ∀ item ∈ payload.mutations,
    item.assignment.state = .unavailable ↔ item.strength = none
  customer : ∀ item ∈ payload.customerValues, item.lifecycle.state ≠ .unavailable ↔
    mode = .managed ∧
      (routeAssessment plan mode attachments item.target.ingress).state ≠ .unavailable ∧
      item.target.normalControlId ∈ prepared.customers.map (·.normalControlId)
  mutation : ∀ item ∈ payload.mutations, item.assignment.state ≠ .unavailable ↔
    mode = .managed ∧
      (routeAssessment plan mode attachments item.target.ingress).state ≠ .unavailable ∧
      item.target.mutationNodeId ∈ prepared.mutations.map (·.mutationNodeId)
  acknowledgement : ∀ item ∈ payload.acknowledgements, item.timeline.state ≠ .unavailable →
    mode ≠ .static ∧
      (routeAssessment plan mode attachments item.target.ingress).state ≠ .unavailable

/-- Every assessment of a payload is complete exactly when its reason is that nothing lacks. -/
structure CapabilityPayload.Sound (payload : CapabilityPayload) : Prop where
  ingresses : ∀ item ∈ payload.ingresses,
    item.addressability.Sound ∧ item.requestCorrelation.Sound
  customerValues : ∀ item ∈ payload.customerValues, item.lifecycle.Sound
  mutations : ∀ item ∈ payload.mutations, item.assignment.Sound
  acknowledgements : ∀ item ∈ payload.acknowledgements, item.timeline.Sound
  isolation : payload.isolation.freshProcess.Sound ∧ payload.isolation.observationReset.Sound ∧
    payload.isolation.externalStateReset.Sound

theorem sound_assessIsolation (mode : RuntimeMode) (ownership : RuntimeProcessOwnership) :
    (assessIsolation mode ownership).freshProcess.Sound ∧
      (assessIsolation mode ownership).observationReset.Sound ∧
      (assessIsolation mode ownership).externalStateReset.Sound := by
  cases mode <;> cases ownership <;>
    exact ⟨sound_assessment.mpr (by decide), sound_assessment.mpr (by decide),
      sound_assessment.mpr (by decide)⟩

theorem buildCapability_spec (planned : Planned plan) (mode : RuntimeMode)
    (prepared : PreparedInstrumentation) (attachments : List RouteAttachment)
    (runtimeConfigFingerprint : Sha256Digest) (sessionId : RuntimeSessionId)
    (lifecycle : RuntimeLifecycleState) (ownership : RuntimeProcessOwnership)
    (diagnostics : List RuntimeDiagnostic) :
    ∃ payload, buildCapability plan mode prepared attachments runtimeConfigFingerprint sessionId
        lifecycle ownership diagnostics = .ok payload ∧
      Assesses plan mode prepared attachments payload ∧
      (Accounted plan prepared → Honest attachments → payload.Sound) := by
  obtain ⟨ingresses, isIngresses, ofIngress⟩ :=
    collect_spec fun item => assessIngress_spec planned mode attachments
  obtain ⟨customers, isCustomers, ofCustomer⟩ := collect_spec fun item =>
    assessCustomerValue_spec planned mode prepared attachments
  obtain ⟨mutations, isMutations, ofMutation⟩ := collect_spec fun item =>
    assessMutation_spec planned mode prepared attachments
  obtain ⟨acknowledgements, isAcks, ofAck⟩ := collect_spec fun item =>
    assessAcknowledgement_spec planned mode attachments
  rw [buildCapability, isIngresses, ok_bind, isCustomers, ok_bind, isMutations, ok_bind, isAcks,
    ok_bind]
  refine ⟨_, rfl, ?assesses, fun accounted honest => ?sound⟩
  case assesses =>
    exact
      { ingresses := map_of_forall₂ ofIngress fun _ _ told => told.1
        customerValues := map_of_forall₂ ofCustomer fun _ _ told => told.1
        mutations := map_of_forall₂ ofMutation fun _ _ told => told.1
        acknowledgements := map_of_forall₂ ofAck fun _ _ told => told.1
        routes := forall_of_forall₂ ofIngress fun _ _ told => by rw [told.1]; exact told.2.1
        customerStrength := forall_of_forall₂ ofCustomer fun _ _ told => told.2.1
        mutationStrength := forall_of_forall₂ ofMutation fun _ _ told => told.2.1
        customer := forall_of_forall₂ ofCustomer fun _ _ told => by rw [told.1]; exact told.2.2.1
        mutation := forall_of_forall₂ ofMutation fun _ _ told => by rw [told.1]; exact told.2.2.1
        acknowledgement := forall_of_forall₂ ofAck fun _ _ told => by
          rw [told.1]
          exact told.2.1 }
  case sound =>
    exact
      { ingresses := forall_of_forall₂ ofIngress fun item _ told =>
          ⟨told.2.1 ▸ sound_routeAssessment honest item, told.2.2 honest⟩
        customerValues := forall_of_forall₂ ofCustomer fun _ _ told => told.2.2.2 accounted honest
        mutations := forall_of_forall₂ ofMutation fun _ _ told => told.2.2.2 accounted honest
        acknowledgements := forall_of_forall₂ ofAck fun _ _ told => told.2.2 honest
        isolation := sound_assessIsolation mode ownership }

/-- What is assessed passes the validation of the artifact. -/
theorem Assesses.sealed (planned : Planned plan) {payload : CapabilityPayload}
    (assesses : Assesses plan mode prepared attachments payload)
    (fingerprint : CapabilityPayload → Sha256Digest) :
    ∃ artifact, sealCapability fingerprint payload = .ok artifact ∧
      artifact.ingresses.map (·.binding) = plan.ingresses ∧
      artifact.customerValues.map (·.target) = plan.customerValues ∧
      artifact.mutations.map (·.target) = plan.mutations ∧
      artifact.acknowledgements.map (·.target) = plan.acknowledgements := by
  have ingresses : (payload.ingresses.map AssessedIngress.capability).map (·.binding) =
      plan.ingresses := by
    rw [List.map_map]
    exact assesses.ingresses
  have customers : (payload.customerValues.pmap AssessedCustomerValue.capability
      assesses.customerStrength).map (·.target) = plan.customerValues := by
    rw [List.map_pmap]
    exact (List.pmap_eq_map ..).trans assesses.customerValues
  have mutations : (payload.mutations.pmap AssessedMutation.capability
      assesses.mutationStrength).map (·.target) = plan.mutations := by
    rw [List.map_pmap]
    exact (List.pmap_eq_map ..).trans assesses.mutations
  have acknowledgements : (payload.acknowledgements.map
      AssessedAcknowledgement.capability).map (·.target) = plan.acknowledgements := by
    rw [List.map_map]
    exact assesses.acknowledgements
  have ingressesUnique : ((payload.ingresses.map AssessedIngress.capability).map
      (·.binding.key)).Nodup := by
    have keys := planned.keys
    rw [← ingresses, List.map_map] at keys
    exact keys
  have controlsUnique : ((payload.customerValues.pmap AssessedCustomerValue.capability
      assesses.customerStrength).map (·.target.normalControlId)).Nodup := by
    have controls := planned.controls
    rw [← customers, List.map_map] at controls
    exact controls
  have mutationsUnique : ((payload.mutations.pmap AssessedMutation.capability
      assesses.mutationStrength).map (·.target.mutationNodeId)).Nodup := by
    have unique := planned.mutations
    rw [← mutations, List.map_map] at unique
    exact unique
  have acknowledgementsUnique : ((payload.acknowledgements.map
      AssessedAcknowledgement.capability).map (·.target.acknowledgementNodeId)).Nodup := by
    have unique := planned.acknowledgements
    rw [← acknowledgements, List.map_map] at unique
    exact unique
  have bound := planned.bound
  rw [← customers, ← mutations, ← acknowledgements, ← ingresses, List.map_map, List.map_map,
    List.map_map] at bound
  simp only [Function.comp_def] at bound
  rw [sealCapability, dif_pos assesses.customerStrength, dif_pos assesses.mutationStrength]
  dsimp only
  rw [dif_pos ingressesUnique, dif_pos bound, dif_pos controlsUnique, dif_pos mutationsUnique,
    dif_pos acknowledgementsUnique]
  exact ⟨_, rfl, ingresses, customers, mutations, acknowledgements⟩

/-! ## What both sides keep -/

section Restricting

variable {κ τ : Type} [DecidableEq κ] {key : τ → κ} {live : List κ} {traces : List τ}
  {failures : κ → Option RuntimeCapabilityReasonCode} {id : κ}

theorem failMissing_apply : failMissing key live traces failures id =
    if id ∈ traces.map key ∧ id ∉ live then some .targetCodeMismatch else failures id := by
  rw [failMissing]
  induction traces generalizing failures with
  | nil => rfl
  | cons trace rest ih =>
    rw [List.foldl_cons, ih]
    by_cases here : id = key trace
    · subst here
      by_cases isLive : key trace ∈ live
      · simp [isLive]
      · by_cases later : key trace ∈ rest.map key
        · simp [isLive, later]
        · simp [isLive, later, setFailure]
    · by_cases isLive : key trace ∈ live
      · simp [isLive, here]
      · simp [isLive, here, setFailure]

/-- Of the traces, those with the keys of the live ones are the live ones. -/
theorem mem_left (listed : id ∈ traces.map key) :
    id ∈ (traces.filter fun trace => key trace ∈ live).map key ↔ id ∈ live := by
  obtain ⟨trace, isTrace, rfl⟩ := List.mem_map.mp listed
  refine ⟨fun kept => ?_, fun isLive => List.mem_map.mpr ⟨trace, ?_, rfl⟩⟩
  · obtain ⟨other, isOther, same⟩ := List.mem_map.mp kept
    rw [← same]
    exact of_decide_eq_true (List.mem_filter.mp isOther).2
  · exact List.mem_filter.mpr ⟨isTrace, decide_eq_true isLive⟩

theorem filter_left : (traces.filter fun trace => key trace ∈
      (traces.filter fun trace => key trace ∈ live).map key) =
    traces.filter fun trace => key trace ∈ live :=
  List.filter_congr fun _ listed => decide_eq_decide.mpr (mem_left (List.mem_map_of_mem listed))

theorem failMissing_left : failMissing key
      ((traces.filter fun trace => key trace ∈ live).map key) traces failures =
    failMissing key live traces failures := by
  funext id
  rw [failMissing_apply, failMissing_apply]
  exact if_congr (and_congr_right fun listed => not_congr (mem_left listed)) rfl rfl

theorem failMissing_accounts (given : id ∈ traces.map key ∨ (failures id).isSome) :
    id ∈ (traces.filter fun trace => key trace ∈ live).map key ∨
      (failMissing key live traces failures id).isSome := by
  rw [failMissing_apply]
  by_cases listed : id ∈ traces.map key
  · by_cases isLive : id ∈ live
    · exact .inl ((mem_left listed).mpr isLive)
    · rw [if_pos ⟨listed, isLive⟩]
      exact .inr rfl
  · rw [if_neg fun both => listed both.1]
    exact .inr (given.resolve_left listed)

theorem failMissing_ne (named : failures id ≠ some .available) :
    failMissing key live traces failures id ≠ some .available := by
  rw [failMissing_apply]
  split
  next => exact nofun
  next => exact named

end Restricting

/-- The worker's status says which traces it has kept. -/
def readinessOf (port : Nat) (attachments : List RouteAttachment)
    (prepared : PreparedInstrumentation) : Managed.Readiness where
  port
  attachments
  liveCustomerIds := prepared.customers.map (·.normalControlId)
  liveMutationIds := prepared.mutations.map (·.mutationNodeId)

/-- What `start` makes of a status that says `READY`. -/
def startedInstrumentation (staticallyPrepared : PreparedInstrumentation)
    (readiness : Managed.Readiness) : PreparedInstrumentation :=
  restrictPreparedInstrumentation staticallyPrepared readiness.liveCustomerIds
    readiness.liveMutationIds

/-- Restricting to what is left changes nothing. -/
theorem restrict_left (prepared : PreparedInstrumentation) (customerIds : List NormalControlId)
    (mutationIds : List GraphNodeId) (port : Nat) (attachments : List RouteAttachment) :
    startedInstrumentation prepared (readinessOf port attachments
        (restrictPreparedInstrumentation prepared customerIds mutationIds)) =
      restrictPreparedInstrumentation prepared customerIds mutationIds := by
  rw [startedInstrumentation, readinessOf, restrictPreparedInstrumentation,
    restrictPreparedInstrumentation]
  congr 1
  · exact filter_left
  · exact failMissing_left
  · exact filter_left
  · exact failMissing_left

theorem Accounted.restrict (accounted : Accounted plan prepared)
    (customerIds : List NormalControlId) (mutationIds : List GraphNodeId) :
    Accounted plan (restrictPreparedInstrumentation prepared customerIds mutationIds) where
  customers target listed := failMissing_accounts (accounted.customers target listed)
  mutations target listed := failMissing_accounts (accounted.mutations target listed)
  customerFailures id := failMissing_ne (accounted.customerFailures id)
  mutationFailures id := failMissing_ne (accounted.mutationFailures id)

/-! ## What was prepared -/

section Preparing

variable {describe : SymbolId → Except Raised TraceCodeDescriptor}
  {locate : GraphNodeId → Except Raised (TraceCodeDescriptor × Nat)}
  {after : PreparedInstrumentation}

theorem setFailure_self {κ : Type} [DecidableEq κ]
    (failures : κ → Option RuntimeCapabilityReasonCode) (key : κ)
    (reason : RuntimeCapabilityReasonCode) : setFailure failures key reason key = some reason :=
  if_pos rfl

theorem setFailure_isSome {κ : Type} [DecidableEq κ]
    {failures : κ → Option RuntimeCapabilityReasonCode} {key id : κ}
    {reason : RuntimeCapabilityReasonCode} (failed : (failures id).isSome) :
    (setFailure failures key reason id).isSome := by
  rw [setFailure]
  split
  next => rfl
  next => exact failed

theorem setFailure_ne {κ : Type} [DecidableEq κ]
    {failures : κ → Option RuntimeCapabilityReasonCode} {key id : κ}
    {reason : RuntimeCapabilityReasonCode} (named : reason ≠ .available)
    (other : failures id ≠ some .available) :
    setFailure failures key reason id ≠ some .available := by
  rw [setFailure]
  split
  next => exact fun same => named (Option.some_inj.mp same)
  next => exact other

/-- Of a plan with some of its targets, the others are not yet prepared. -/
def targetsOf (plan : RuntimeTargetPlan) (customers : List CustomerValueRuntimeTarget)
    (mutations : List MutationRuntimeTarget) : RuntimeTargetPlan :=
  { plan with customerValues := customers, mutations := mutations }

theorem Accounted.prepareCustomer {customers : List CustomerValueRuntimeTarget}
    {mutations : List MutationRuntimeTarget}
    (accounted : Accounted (targetsOf plan customers mutations) prepared)
    {target : CustomerValueRuntimeTarget}
    (prepares : Capability.prepareCustomer describe prepared target = .ok after) :
    Accounted (targetsOf plan (customers ++ [target]) mutations) after := by
  rw [Capability.prepareCustomer] at prepares
  split at prepares
  next =>
    cases prepares
    refine { accounted with customers := ?_ }
    rw [targetsOf, List.forall_mem_append, List.forall_mem_singleton]
    refine ⟨fun other listed => (accounted.customers other listed).imp_left fun traced => ?_,
      .inl ?_⟩
    · rw [List.map_append]
      exact List.mem_append_left _ traced
    · simp
  next =>
    cases prepares
    refine { accounted with
      customers := ?_
      customerFailures := fun id => setFailure_ne nofun (accounted.customerFailures id) }
    rw [targetsOf, List.forall_mem_append, List.forall_mem_singleton]
    exact ⟨fun other listed => (accounted.customers other listed).imp_right setFailure_isSome,
      .inr (Option.isSome_of_eq_some (setFailure_self _ _ _))⟩
  next => cases prepares

theorem Accounted.prepareMutation {customers : List CustomerValueRuntimeTarget}
    {mutations : List MutationRuntimeTarget}
    (accounted : Accounted (targetsOf plan customers mutations) prepared)
    {target : MutationRuntimeTarget}
    (prepares : Capability.prepareMutation locate prepared target = .ok after) :
    Accounted (targetsOf plan customers (mutations ++ [target])) after := by
  rw [Capability.prepareMutation] at prepares
  split at prepares
  next =>
    cases prepares
    refine { accounted with mutations := ?_ }
    rw [targetsOf, List.forall_mem_append, List.forall_mem_singleton]
    refine ⟨fun other listed => (accounted.mutations other listed).imp_left fun traced => ?_,
      .inl ?_⟩
    · rw [List.map_append]
      exact List.mem_append_left _ traced
    · simp
  next => cases prepares
  next =>
    cases prepares
    refine { accounted with
      mutations := ?_
      mutationFailures := fun id => setFailure_ne nofun (accounted.mutationFailures id) }
    rw [targetsOf, List.forall_mem_append, List.forall_mem_singleton]
    exact ⟨fun other listed => (accounted.mutations other listed).imp_right setFailure_isSome,
      .inr (Option.isSome_of_eq_some (setFailure_self _ _ _))⟩

/-- What every pass of a loop adds holds of all that it has passed. -/
theorem foldlM_passes {ε σ α : Type} {step : σ → α → Except ε σ} (holds : List α → σ → Prop)
    (keeps : ∀ {done item before after}, holds done before → step before item = .ok after →
      holds (done ++ [item]) after)
    {items : List α} (done : List α) {before after : σ} (start : holds done before)
    (runs : items.foldlM step before = .ok after) : holds (done ++ items) after := by
  induction items generalizing done before with
  | nil =>
    cases runs
    rw [List.append_nil]
    exact start
  | cons item rest ih =>
    rw [List.foldlM_cons] at runs
    obtain ⟨next, one, later⟩ := (bind_eq_ok _ _ _).mp runs
    rw [List.append_cons]
    exact ih _ (keeps start one) later

/-- Every target of the plan is given a trace, or a failure. -/
theorem accounted_of_prepare
    (prepares : prepareInstrumentation describe locate plan = .ok prepared) :
    Accounted plan prepared := by
  obtain ⟨first, customers, mutations⟩ := (bind_eq_ok _ _ _).mp prepares
  have none : Accounted (targetsOf plan [] []) {} :=
    { customers := fun target listed => by cases listed
      mutations := fun target listed => by cases listed
      customerFailures := fun _ => nofun
      mutationFailures := fun _ => nofun }
  have ofCustomers : Accounted (targetsOf plan plan.customerValues []) first :=
    foldlM_passes (fun done => Accounted (targetsOf plan done []))
      (fun accounted => accounted.prepareCustomer) [] none customers
  exact foldlM_passes (fun done => Accounted (targetsOf plan plan.customerValues done))
    (fun accounted => accounted.prepareMutation) [] ofCustomers mutations

end Preparing

/-! ## What was attached -/

section Attaching

open Routes

variable {Bytes Rule : Type} {surroundings : Routes.Surroundings Bytes} {routePlan : RoutePlan}
  {state after : Attaching Rule}

theorem Honest.refuse (honest : Honest state.attachments) (binding : RoutedBinding)
    {reason : RuntimeCapabilityReasonCode} (named : reason ≠ .available) :
    Honest (state.refuse binding reason).attachments := by
  refine List.forall_mem_append.mpr ⟨honest, List.forall_mem_singleton.mpr ?_⟩
  exact iff_of_false nofun named

theorem Honest.attachRoute (honest : Honest state.attachments) (binding : RoutedBinding)
    (descriptor : TraceCodeDescriptor) :
    Honest (Routes.attachRoute surroundings routePlan state binding descriptor).attachments := by
  rw [Routes.attachRoute.eq_def]
  split
  next => exact honest.refuse binding (by decide)
  next =>
    split
    next => exact honest.refuse binding (by decide)
    next =>
      split
      next => exact honest.refuse binding (by decide)
      next =>
        split
        next => exact honest.refuse binding (by decide)
        next =>
          split
          next => exact honest.refuse binding (by decide)
          next =>
            refine List.forall_mem_append.mpr ⟨honest, List.forall_mem_singleton.mpr ?_⟩
            exact iff_of_true rfl rfl
  next => exact honest.refuse binding (by decide)

/-- What the worker attaches is honest. -/
theorem honest_of_attach {table : RouteTable Rule}
    (attaches : attachExactRoutes surroundings routePlan table = .ok after) :
    Honest after.attachments := by
  refine foldlM_passes (fun _ (state : Attaching Rule) => Honest state.attachments)
    (fun {done binding before next} honest attaches => ?_) []
    (fun attachment listed => by cases listed) attaches
  rw [attachBinding] at attaches
  split at attaches
  next =>
    split at attaches
    next =>
      cases attaches
      exact honest.refuse binding (by decide)
    next => cases attaches
  next =>
    cases attaches
    exact honest.attachRoute binding _

end Attaching

/-! ## A session with one trace -/

section Sample

open Routes

/-- The sample handler on the route of the sample graph. -/
def paymentsPlan : RoutePlan where
  ingresses := webhookPlan.ingresses.map fun binding =>
    { binding with
      ingressNodeId := "ingress"
      routeRegistrationId := "route"
      effectivePath := "/payments" }
  customerValues := []
  acknowledgements := []

theorem oneRoute_shared {Rule : Type} (route : Route Rule) :
    ∀ first ∈ [route], ∀ other ∈ [route], first.id = other.id → first = other := by
  intro first isFirst other isOther _
  rw [List.mem_singleton.mp isFirst, List.mem_singleton.mp isOther]

def paymentsRoute : Route (List Segment × List String) :=
  { razorpayRoute with path := some "/payments" }

def paymentsTable : RouteTable (List Segment × List String) where
  routes := [paymentsRoute]
  shared := oneRoute_shared paymentsRoute

theorem branched_evaluates : (evaluateApplicability sampleHashing none sampleSource
    (branchedGraph .authorized) none none).toOption.isSome = true := rfl

def branchedApplicability : ScenarioApplicabilityArtifact :=
  (evaluateApplicability sampleHashing none sampleSource (branchedGraph .authorized) none
    none).toOption.get branched_evaluates

theorem branched_builds : (buildRuntimeTargetPlan plannedIndex (branchedGraph .authorized)
    branchedApplicability).toOption.isSome = true := rfl

/-- The plan of a route with two mutations. -/
def branchedPlan : RuntimeTargetPlan :=
  (buildRuntimeTargetPlan plannedIndex (branchedGraph .authorized)
    branchedApplicability).toOption.get branched_builds

theorem branched_distinct :
    (branchedApplicability.normalControls.map (·.controlId)).Nodup := by decide +kernel

theorem branchedPlan_built : buildRuntimeTargetPlan plannedIndex (branchedGraph .authorized)
    branchedApplicability = .ok branchedPlan := rfl

/-- The instruction of one mutation is found. -/
def locateCaptured (nodeId : GraphNodeId) : Except Raised (TraceCodeDescriptor × Nat) :=
  if nodeId = "captured" then .ok (⟨"shop.py", "ship", 1, "sha256:ship", 0, .sync⟩, 4)
  else .error .instrumentationError

def allImported : Imported where
  customer _ _ := true
  mutation _ _ := true

end Sample

/-! ## Results -/

section Results

variable {index : SourceIndexArtifact} {graph : PaymentSafetyGraphArtifact}
  {applicability : ScenarioApplicabilityArtifact}
  (runtimeConfigFingerprint : Sha256Digest) (sessionId : RuntimeSessionId)
  (lifecycle : RuntimeLifecycleState) (ownership : RuntimeProcessOwnership)
  (diagnostics : List RuntimeDiagnostic)

/-- Every plan of the planner has a capability, whatever was prepared and attached, that its
validation accepts: of exactly the ingresses and the targets of the plan. -/
theorem capability_sealed (distinct : (applicability.normalControls.map (·.controlId)).Nodup)
    (built : buildRuntimeTargetPlan index graph applicability = .ok plan)
    (fingerprint : CapabilityPayload → Sha256Digest) :
    ∃ payload artifact, buildCapability plan mode prepared attachments runtimeConfigFingerprint
        sessionId lifecycle ownership diagnostics = .ok payload ∧
      sealCapability fingerprint payload = .ok artifact ∧
      artifact.ingresses.map (·.binding) = plan.ingresses ∧
      artifact.customerValues.map (·.target) = plan.customerValues ∧
      artifact.mutations.map (·.target) = plan.mutations ∧
      artifact.acknowledgements.map (·.target) = plan.acknowledgements := by
  have planned := planned_of_build distinct built
  obtain ⟨payload, isPayload, assesses, -⟩ := buildCapability_spec planned mode prepared attachments
    runtimeConfigFingerprint sessionId lifecycle ownership diagnostics
  obtain ⟨artifact, isArtifact, targets⟩ := assesses.sealed planned fingerprint
  exact ⟨payload, artifact, isPayload, isArtifact, targets⟩

theorem capability_sealed_sample : ∃ payload artifact,
    buildCapability branchedPlan .managed {} [] "sha256:config" "sgrun_1" .ready .stateguard [] =
      .ok payload ∧
    sealCapability (fun _ => "sha256:capability") payload = .ok artifact ∧
    artifact.mutations.map (·.target) = branchedPlan.mutations := by
  obtain ⟨payload, artifact, isPayload, isArtifact, -, -, mutations, -⟩ :=
    capability_sealed "sha256:config" "sgrun_1" .ready .stateguard [] branched_distinct
      branchedPlan_built fun _ => "sha256:capability"
  exact ⟨payload, artifact, isPayload, isArtifact, mutations⟩

/-- The traces that the parent assesses are those that the worker observes with.  A target is
available exactly when the worker has its trace and has attached its ingress, and an assessment is
complete exactly when its reason is that nothing lacks. -/
theorem managed_capability_agrees
    (distinct : (applicability.normalControls.map (·.controlId)).Nodup)
    (built : buildRuntimeTargetPlan index graph applicability = .ok plan)
    {describe : SymbolId → Except Raised TraceCodeDescriptor}
    {locate : GraphNodeId → Except Raised (TraceCodeDescriptor × Nat)}
    (prepares : prepareInstrumentation describe locate plan = .ok prepared) (imported : Imported)
    (port : Nat) {Bytes Rule : Type} {surroundings : Routes.Surroundings Bytes}
    {routePlan : Routes.RoutePlan} {table : Routes.RouteTable Rule} {result : Routes.Attaching Rule}
    (attaches : Routes.attachExactRoutes surroundings routePlan table = .ok result) :
    let worker := reconcileLiveInstrumentation imported prepared
    let parent := startedInstrumentation prepared (readinessOf port result.attachments worker)
    parent = worker ∧
    ∃ payload, buildCapability plan .managed parent result.attachments runtimeConfigFingerprint
        sessionId lifecycle ownership diagnostics = .ok payload ∧
      payload.Sound ∧
      (∀ item ∈ payload.customerValues, item.lifecycle.state ≠ .unavailable ↔
        Attached result.attachments item.target.ingress.ingressNodeId ∧
          item.target.normalControlId ∈ worker.customers.map (·.normalControlId)) ∧
      ∀ item ∈ payload.mutations, item.assignment.state ≠ .unavailable ↔
        Attached result.attachments item.target.ingress.ingressNodeId ∧
          item.target.mutationNodeId ∈ worker.mutations.map (·.mutationNodeId) := by
  intro worker parent
  have same : parent = worker := restrict_left prepared _ _ port result.attachments
  have accounted : Accounted plan worker := (accounted_of_prepare prepares).restrict _ _
  obtain ⟨payload, isPayload, assesses, sound⟩ :=
    buildCapability_spec (planned_of_build distinct built) .managed worker result.attachments
      runtimeConfigFingerprint sessionId lifecycle ownership diagnostics
  refine ⟨same, payload, same ▸ isPayload, sound accounted (honest_of_attach attaches),
    fun item listed => ?_, fun item listed => ?_⟩
  · rw [assesses.customer item listed, managed_route_iff]
    simp
  · rw [assesses.mutation item listed, managed_route_iff]
    simp

/-- The worker attaches the route, and finds the instruction of one of the two mutations. -/
theorem managed_capability_agrees_sample : ∃ prepared result payload,
    prepareInstrumentation (fun _ => .error .instrumentationError) locateCaptured branchedPlan =
      .ok prepared ∧
    Routes.attachExactRoutes Routes.sampleSurroundings paymentsPlan paymentsTable = .ok result ∧
    buildCapability branchedPlan .managed (startedInstrumentation prepared
        (readinessOf 8000 result.attachments (reconcileLiveInstrumentation allImported prepared)))
      result.attachments "sha256:config" "sgrun_1" .ready .stateguard [] = .ok payload ∧
    payload.Sound ∧ payload.mutations.map (·.assignment.state) = [.unavailable, .complete] := by
  have prepares : prepareInstrumentation (fun _ => .error .instrumentationError) locateCaptured
      branchedPlan = .ok _ := rfl
  have attaches : Routes.attachExactRoutes Routes.sampleSurroundings paymentsPlan paymentsTable =
      .ok _ := rfl
  obtain ⟨-, payload, isPayload, sound, -⟩ := managed_capability_agrees "sha256:config" "sgrun_1"
    .ready .stateguard [] branched_distinct branchedPlan_built prepares allImported 8000 attaches
  refine ⟨_, _, payload, prepares, attaches, isPayload, sound, ?_⟩
  cases isPayload
  rfl

end Results

end Capability

end StateGuard
