import StateGuard.Runtime.Contracts

/-!
# The admission of a transcript

`validate_observation_transcript` walks the events with the bindings of the requests it has met.
A binding that is recorded is never replaced (`admitEvent_keeps`), so after the walk each event is
at the binding that is recorded for its request (`admitEvents_eq_ok`).

* `validateObservationTranscript_ok_iff` says which transcripts are admitted.
* `observationTranscript_bound` says what an admitted transcript says of one request.
-/

namespace StateGuard

open Checks

variable {artifact : RuntimeCapabilityArtifact}

/-- The targets of an event are those of its assessed binding. -/
structure Belongs (artifact : RuntimeCapabilityArtifact) (binding : IngressRuntimeBinding)
    (event : RuntimeObservationEvent) : Prop where
  assessed : artifact.binding? event.bindingKey = some binding
  controls : ∀ controlId ∈ event.normalControlId, ∃ target ∈ artifact.customer? controlId,
    target.ingress = binding ∧
      event.customerValueNodeId = some target.customerValueNodeId ∧
      event.customerValueSymbolId = some target.customerValueSymbolId
  mutations : ∀ nodeId ∈ event.mutationNodeId, ∃ target ∈ artifact.mutation? nodeId,
    target.ingress = binding
  acknowledgements : ∀ nodeId ∈ event.acknowledgementNodeId,
    ∃ target ∈ artifact.acknowledgement? nodeId, target.ingress = binding

/-- The bindings of the requests after an event: those before it, and its own if it is the first
of its request. -/
def RequestBindings.record (requests : RequestBindings) (event : RuntimeObservationEvent) :
    RequestBindings :=
  if event.requestId ∈ requests.keys then requests
  else requests.set event.requestId event.bindingKey

theorem RequestBindings.record_keeps {requests : RequestBindings}
    (event : RuntimeObservationEvent) {requestId : RuntimeRequestId}
    {key : GraphNodeId × RouteRegistrationId} (recorded : requests.get? requestId = some key) :
    (requests.record event).get? requestId = some key := by
  rw [record]
  split
  next met => exact recorded
  next first =>
    have other : requestId ≠ event.requestId := by
      rintro rfl
      exact first (Dict.mem_keys_of_get? recorded)
    rw [Dict.get?_set, if_neg other]
    exact recorded

theorem RequestBindings.record_own {requests : RequestBindings} {event : RuntimeObservationEvent}
    (first : requests.get? event.requestId = none) :
    (requests.record event).get? event.requestId = some event.bindingKey := by
  rw [record, if_neg ((Dict.get?_eq_none _ _).mp first), Dict.get?_set, if_pos rfl]

theorem RequestBindings.get?_record_other {requests : RequestBindings}
    {event : RuntimeObservationEvent} {requestId : RuntimeRequestId}
    (other : requestId ≠ event.requestId) :
    (requests.record event).get? requestId = requests.get? requestId := by
  rw [record]
  split
  next met => rfl
  next first => rw [Dict.get?_set, if_neg other]

/-- A control that is looked up and meets no check is the assessed one. -/
theorem not_exists_toList_iff {ι τ : Type} {field : Option ι} {lookup : ι → Option τ}
    {bad : τ → Prop} :
    ¬ (∃ item ∈ field.toList, ∀ target ∈ (lookup item).toList, bad target) ↔
      ∀ item ∈ field, ∃ target ∈ lookup item, ¬ bad target := by
  simp only [Option.mem_toList, not_exists, not_and, not_forall, exists_prop, Option.mem_def]

/-- An event is admitted when its targets belong to an assessed binding, and its request is bound
to no other. -/
theorem admitEvent_eq_ok {requests after : RequestBindings} {event : RuntimeObservationEvent} :
    admitEvent artifact requests event = .ok after ↔
      (∃ binding, Belongs artifact binding event) ∧ after = requests.record event ∧
        after.get? event.requestId = some event.bindingKey := by
  simp only [admitEvent, bind_eq_ok, pure_eq_ok, raiseIf_eq_ok, exists_unit, not_not,
    not_exists_toList_iff, not_or]
  constructor
  · rintro ⟨assessed, own, controls, mutations, acknowledgements, rfl⟩
    obtain ⟨binding, isBinding⟩ := Option.ne_none_iff_exists'.mp assessed
    refine ⟨⟨binding, isBinding, ?_, ?_, ?_⟩, rfl, own⟩
    · intro controlId carried
      obtain ⟨target, found, ingress, node, symbol⟩ := controls controlId carried
      refine ⟨target, found, ?_, node, symbol⟩
      exact Option.some.inj (ingress.symm.trans isBinding)
    · intro nodeId carried
      obtain ⟨target, found, ingress⟩ := mutations nodeId carried
      exact ⟨target, found, Option.some.inj (ingress.symm.trans isBinding)⟩
    · intro nodeId carried
      obtain ⟨target, found, ingress⟩ := acknowledgements nodeId carried
      exact ⟨target, found, Option.some.inj (ingress.symm.trans isBinding)⟩
  · rintro ⟨⟨binding, belongs⟩, rfl, own⟩
    refine ⟨by simp [belongs.assessed], own, ?_, ?_, ?_, rfl⟩
    · intro controlId carried
      obtain ⟨target, found, ingress, node, symbol⟩ := belongs.controls controlId carried
      exact ⟨target, found, by rw [belongs.assessed, ingress], node, symbol⟩
    · intro nodeId carried
      obtain ⟨target, found, ingress⟩ := belongs.mutations nodeId carried
      exact ⟨target, found, by rw [belongs.assessed, ingress]⟩
    · intro nodeId carried
      obtain ⟨target, found, ingress⟩ := belongs.acknowledgements nodeId carried
      exact ⟨target, found, by rw [belongs.assessed, ingress]⟩

/-- The events are at the bindings that are recorded, or at those of the first events of their
requests. -/
def Agrees (requests : RequestBindings) (events : List RuntimeObservationEvent) : Prop :=
  (∀ event ∈ events, ∀ key ∈ requests.get? event.requestId, event.bindingKey = key) ∧
    ∀ event ∈ events, ∀ other ∈ events, event.requestId = other.requestId →
      event.bindingKey = other.bindingKey

theorem agrees_cons {requests : RequestBindings} {event : RuntimeObservationEvent}
    {rest : List RuntimeObservationEvent} :
    Agrees requests (event :: rest) ↔
      (requests.record event).get? event.requestId = some event.bindingKey ∧
        Agrees (requests.record event) rest := by
  constructor
  · rintro ⟨recorded, shared⟩
    have own : (requests.record event).get? event.requestId = some event.bindingKey := by
      cases found : requests.get? event.requestId with
      | none => exact RequestBindings.record_own found
      | some key =>
        rw [RequestBindings.record_keeps event found, recorded event (by simp) key found]
    refine ⟨own, ?_, fun first isFirst second isSecond =>
      shared first (by simp [isFirst]) second (by simp [isSecond])⟩
    intro other isOther key found
    by_cases same : other.requestId = event.requestId
    · rw [same, own, Option.mem_some_iff] at found
      rw [← found]
      exact shared other (by simp [isOther]) event (by simp) same
    · rw [RequestBindings.get?_record_other same] at found
      exact recorded other (by simp [isOther]) key found
  · rintro ⟨own, recorded, shared⟩
    have first : ∀ other ∈ rest, other.requestId = event.requestId →
        other.bindingKey = event.bindingKey := by
      intro other isOther same
      exact recorded other isOther event.bindingKey (by rw [same, own]; rfl)
    constructor
    · intro other isOther key found
      have kept := RequestBindings.record_keeps event found
      rcases List.mem_cons.mp isOther with rfl | isOther
      · exact Option.some.inj (own.symm.trans kept)
      · exact recorded other isOther key kept
    · intro one isOne other isOther same
      rcases List.mem_cons.mp isOne with rfl | oneLater <;>
        rcases List.mem_cons.mp isOther with rfl | otherLater
      · rfl
      · exact (first other otherLater same.symm).symm
      · exact first one oneLater same
      · exact shared one oneLater other otherLater same

/-- The walk admits the events that belong to assessed bindings, one for each request. -/
theorem admitEvents_ok_iff {events : List RuntimeObservationEvent} {requests : RequestBindings} :
    (∃ after, events.foldlM (admitEvent artifact) requests = .ok after) ↔
      (∀ event ∈ events, ∃ binding, Belongs artifact binding event) ∧ Agrees requests events := by
  induction events generalizing requests with
  | nil => exact iff_of_true ⟨requests, rfl⟩ ⟨by simp, by simp, by simp⟩
  | cons event rest ih =>
    simp only [List.foldlM_cons, bind_eq_ok, admitEvent_eq_ok, List.forall_mem_cons, agrees_cons]
    constructor
    · rintro ⟨after, between, ⟨belongs, rfl, own⟩, walked⟩
      obtain ⟨others, agrees⟩ := ih.mp ⟨after, walked⟩
      exact ⟨⟨belongs, others⟩, own, agrees⟩
    · rintro ⟨⟨belongs, others⟩, own, agrees⟩
      obtain ⟨after, walked⟩ := ih.mpr ⟨others, agrees⟩
      exact ⟨after, requests.record event, ⟨belongs, rfl, own⟩, walked⟩

/-- The transcripts that are admitted. -/
theorem validateObservationTranscript_ok_iff {transcript : RuntimeObservationTranscript} :
    validateObservationTranscript artifact transcript = .ok () ↔
      (transcript.complete = true ∧ transcript.diagnostics = []) ∧
        transcript.sessionId = artifact.assessmentSessionId ∧
        transcript.capabilityFingerprint = artifact.capabilityFingerprint ∧
        (∀ event ∈ transcript.events, ∃ binding, Belongs artifact binding event) ∧
        ∀ event ∈ transcript.events, ∀ other ∈ transcript.events,
          event.requestId = other.requestId → event.bindingKey = other.bindingKey := by
  simp only [validateObservationTranscript, bind_eq_ok, raiseIf_eq_ok, exists_unit, not_or,
    not_not, Bool.not_eq_false, pure_eq_ok, and_true, admitEvents_ok_iff, Agrees]
  refine and_congr_right fun _ => and_congr_right fun _ => and_congr_right fun _ =>
    and_congr_right fun _ => and_iff_right ?_
  intro event _ key recorded
  cases recorded

/-- What a transcript says of one request, at one assessed binding. -/
structure BoundRequest (artifact : RuntimeCapabilityArtifact)
    (events : List RuntimeObservationEvent) (requestId : RuntimeRequestId)
    (binding : IngressRuntimeBinding) : Prop where
  assessed : binding ∈ artifact.ingresses.map (·.binding)
  bound : ∀ event ∈ events, event.requestId = requestId → event.bindingKey = binding.key
  controls : ∀ event ∈ events, event.requestId = requestId →
    ∀ controlId ∈ event.normalControlId, ∃ target ∈ artifact.customerValues.map (·.target),
      target.normalControlId = controlId ∧ target.ingress = binding ∧
        event.customerValueNodeId = some target.customerValueNodeId ∧
        event.customerValueSymbolId = some target.customerValueSymbolId
  mutations : ∀ event ∈ events, event.requestId = requestId →
    ∀ nodeId ∈ event.mutationNodeId, ∃ target ∈ artifact.mutations.map (·.target),
      target.mutationNodeId = nodeId ∧ target.ingress = binding
  acknowledgements : ∀ event ∈ events, event.requestId = requestId →
    ∀ nodeId ∈ event.acknowledgementNodeId, ∃ target ∈ artifact.acknowledgements.map (·.target),
      target.acknowledgementNodeId = nodeId ∧ target.ingress = binding

/-- A record that is found by its key is one of the list, with that key. -/
theorem exists_of_find?_map {ρ τ ι : Type} [DecidableEq ι] {records : List ρ} {target : ρ → τ}
    {key : ρ → ι} {wanted : ι} {found : τ}
    (isFound : (records.find? (key · = wanted)).map target = some found) :
    ∃ record ∈ records, key record = wanted ∧ target record = found := by
  obtain ⟨record, isRecord, rfl⟩ := Option.map_eq_some_iff.mp isFound
  exact ⟨record, List.mem_of_find?_eq_some isRecord, by simpa using List.find?_some isRecord, rfl⟩

theorem Belongs.key {binding : IngressRuntimeBinding} {event : RuntimeObservationEvent}
    (belongs : Belongs artifact binding event) :
    binding ∈ artifact.ingresses.map (·.binding) ∧ event.bindingKey = binding.key := by
  obtain ⟨capability, isCapability, same, rfl⟩ := exists_of_find?_map belongs.assessed
  exact ⟨List.mem_map.mpr ⟨capability, isCapability, rfl⟩, same.symm⟩

/-- In an admitted transcript each request is bound to one assessed ingress, which is that of each
target that occurs in it, and the sequence numbers are contiguous from one. -/
theorem observationTranscript_bound (artifact : RuntimeCapabilityArtifact)
    (transcript : RuntimeObservationTranscript)
    (admitted : validateObservationTranscript artifact transcript = .ok ()) :
    (∀ requestId ∈ transcript.events.map (·.requestId),
      ∃! binding, BoundRequest artifact transcript.events requestId binding) ∧
    transcript.events.map (·.sequence) = List.range' 1 transcript.events.length := by
  obtain ⟨-, -, -, belong, shared⟩ := validateObservationTranscript_ok_iff.mp admitted
  refine ⟨?_, transcript.contiguous⟩
  intro requestId occurs
  obtain ⟨first, isFirst, rfl⟩ := List.mem_map.mp occurs
  obtain ⟨binding, belongs⟩ := belong first isFirst
  -- The other events of the request have the key of its first event, hence its binding.
  have all : ∀ event ∈ transcript.events, event.requestId = first.requestId →
      Belongs artifact binding event := by
    intro event isEvent same
    obtain ⟨other, otherBelongs⟩ := belong event isEvent
    have sameKey := shared event isEvent first isFirst same
    have assessed := otherBelongs.assessed
    rw [sameKey, belongs.assessed] at assessed
    cases assessed
    exact otherBelongs
  refine ⟨binding, ?_, ?_⟩
  · refine ⟨belongs.key.1, fun event isEvent same => (all event isEvent same).key.2, ?_, ?_, ?_⟩
    · intro event isEvent same controlId carried
      obtain ⟨target, found, ingress, node, symbol⟩ :=
        (all event isEvent same).controls controlId carried
      obtain ⟨record, isRecord, isControl, rfl⟩ := exists_of_find?_map found
      exact ⟨_, List.mem_map_of_mem isRecord, isControl, ingress, node, symbol⟩
    · intro event isEvent same nodeId carried
      obtain ⟨target, found, ingress⟩ := (all event isEvent same).mutations nodeId carried
      obtain ⟨record, isRecord, isNode, rfl⟩ := exists_of_find?_map found
      exact ⟨_, List.mem_map_of_mem isRecord, isNode, ingress⟩
    · intro event isEvent same nodeId carried
      obtain ⟨target, found, ingress⟩ := (all event isEvent same).acknowledgements nodeId carried
      obtain ⟨record, isRecord, isNode, rfl⟩ := exists_of_find?_map found
      exact ⟨_, List.mem_map_of_mem isRecord, isNode, ingress⟩
  · intro other bound
    obtain ⟨capability, isCapability, same⟩ := List.mem_map.mp bound.assessed
    obtain ⟨own, isOwn, sameOwn⟩ := List.mem_map.mp belongs.key.1
    have sameKey := (bound.bound first isFirst rfl).symm.trans belongs.key.2
    rw [← same, ← sameOwn] at sameKey
    rw [← same, ← sameOwn]
    exact congrArg (·.binding)
      (List.inj_on_of_nodup_map artifact.ingressesUnique isCapability isOwn sameKey)

/-! ## A request with a control and an acknowledgement -/

def paidBinding : IngressRuntimeBinding where
  ingressNodeId := "sgnode_paid"
  routeRegistrationId := "sgroute_paid"
  method := "POST"
  effectivePath := "/paid"
  checkoutRequestBinding := none

def paidArtifact : RuntimeCapabilityArtifact where
  runtimeConfigFingerprint := "sha256:config"
  assessmentSessionId := "sgrun_paid"
  mode := .managed
  lifecycle := .ready
  ingresses :=
    [{ binding := paidBinding, addressability := .complete, requestCorrelation := .complete }]
  customerValues :=
    [{ target :=
        { ingress := paidBinding
          normalControlId := "sgcontrol_grant"
          customerValueNodeId := "sgnode_grant"
          customerValueSymbolId := "sgsym_grant" }
       lifecycle := .complete
       strength := some .entryOnly
       strengthMatches := by decide }]
  mutations := []
  acknowledgements :=
    [{ target :=
        { ingress := paidBinding
          acknowledgementNodeId := "sgnode_ok"
          statusCode := some 200
          outcome := .success2xx }
       timeline := .complete }]
  isolation := { freshProcess := .complete, observationReset := .complete }
  diagnostics := []
  capabilityFingerprint := "sha256:capability"
  ingressesUnique := by decide
  exactBindings := by decide
  controlsUnique := by decide
  mutationsUnique := by decide
  acknowledgementsUnique := by decide

/-- An event of the paid request. -/
def paidEvent (sequence : Nat) (kind : RuntimeObservationKind) : RuntimeObservationEvent where
  sessionId := "sgrun_paid"
  requestId := "sgreq_paid"
  sequence
  kind
  ingressNodeId := "sgnode_paid"
  routeRegistrationId := "sgroute_paid"

def paidTranscript : RuntimeObservationTranscript where
  sessionId := "sgrun_paid"
  capabilityFingerprint := "sha256:capability"
  complete := true
  events :=
    [paidEvent 1 .requestReceived,
      { paidEvent 2 .customerValueEntered with
        normalControlId := some "sgcontrol_grant"
        customerValueNodeId := some "sgnode_grant"
        customerValueSymbolId := some "sgsym_grant" },
      { paidEvent 3 .responseStarted with
        acknowledgementNodeId := some "sgnode_ok"
        statusCode := some 200 }]
  diagnostics := []
  transcriptFingerprint := "sha256:transcript"
  eventsValid := by decide
  oneSession := by decide
  contiguous := by decide

theorem paidTranscript_bound :
    (∀ requestId ∈ paidTranscript.events.map (·.requestId),
      ∃! binding, BoundRequest paidArtifact paidTranscript.events requestId binding) ∧
    paidTranscript.events.map (·.sequence) = List.range' 1 paidTranscript.events.length :=
  observationTranscript_bound paidArtifact paidTranscript (by decide)

end StateGuard
