import StateGuard.Runtime.CorrelationHeaders
import StateGuard.Runtime.Instrumentation

/-!
# The response of an observed route

`ExactRouteASGIWrapper` reports a request that carries a correlation: when it is received, when the
route starts its response, when it completes it, and otherwise that it was aborted.  On request it
replaces the status of a successful acknowledgement.

* `observedSend_observes` says what a message of a well-formed sequence reports.
* `call_consistent_iff` says for which requests the reports are consistent: the collector takes
  all of them, and the two places that look up the acknowledgement agree (`Named`).
-/

namespace StateGuard

namespace Asgi

/-- A message that a route sends. -/
inductive Message where
  | start (status : Nat)
  | body (moreBody : Bool)
  | other
  deriving DecidableEq

structure ExactRoute where
  sessionId : RuntimeSessionId
  ingress : IngressRuntimeBinding
  normalControlId : Option NormalControlId
  acknowledgements : List AcknowledgementRuntimeTarget
  collector : CollectorConfig

/-- The acknowledgement failure that a request asks for. -/
abbrev RequestedFailure := Option (ManagedAcknowledgementFailureMode × GraphNodeId)

namespace ExactRoute

variable (route : ExactRoute)

/-- `_acknowledgement_for_status`. -/
def acknowledgementForStatus (status : Nat) (requestedNodeId : Option GraphNodeId) :
    Option GraphNodeId :=
  let exact := (route.acknowledgements.filter fun item =>
    item.statusCode = some status ∧
      (requestedNodeId = none ∨ requestedNodeId = some item.acknowledgementNodeId)).map
        (·.acknowledgementNodeId)
  match exact with
  | [nodeId] => some nodeId
  | _ => none

def context (requestId : RuntimeRequestId) : RuntimeRequestContext where
  sessionId := route.sessionId
  requestId
  ingress := route.ingress
  normalControlId := route.normalControlId

end ExactRoute

/-- What the wrapper keeps of a response, and the collector. -/
structure Response where
  collector : ObservationCollector
  status : Option Nat := none
  completed : Bool := false

section

variable (route : ExactRoute) (context : RuntimeRequestContext) (failure : RequestedFailure)

/-- The response after an `emit`, and the message that is sent unless it raises. -/
def Response.emit (response : Response) (kind : RuntimeObservationKind) (target : ObservedTarget)
    (message : Message) : Response × Except String Message :=
  match response.collector.emit route.collector kind context target with
  | .error raised => (response, .error raised)
  | .ok collector => ({ response with collector }, .ok message)

/-- `observed_send`: the response after a message, and the message that is sent to the server
unless something raises before. -/
def observedSend (response : Response) : Message → Response × Except String Message
  | .start merchantStatus =>
    let requestedNodeId := failure.map (·.2)
    let acknowledgementNodeId := route.acknowledgementForStatus merchantStatus requestedNodeId
    if (∃ requested ∈ failure, requested.1 = .forceNon2xxAfterSuccess) ∧
        Success2xx merchantStatus ∧ acknowledgementNodeId ≠ none then
      match response.collector.emit route.collector .acknowledgementFailureInjected context
          { acknowledgementNodeId, statusCode := some 503
            originalStatusCode := some merchantStatus } with
      | .error raised => ({ response with status := some 503 }, .error raised)
      | .ok collector =>
        ({ response with status := some 503, collector } : Response).emit route context
          .responseStarted { statusCode := some 503 } (.start 503)
    else
      ({ response with status := some merchantStatus } : Response).emit route context
        .responseStarted { acknowledgementNodeId, statusCode := some merchantStatus }
        (.start merchantStatus)
  | .body true => (response, .ok (.body true))
  | .body false =>
    let response := { response with completed := true }
    match response.status with
    | none => (response, .ok (.body false))
    | some status =>
      response.emit route context .responseCompleted
        { acknowledgementNodeId := route.acknowledgementForStatus status none
          statusCode := some status }
        (.body false)
  | .other => (response, .ok .other)

/-- The response after the messages that the route sends.  The route may go on after a message on
which something raised. -/
def sendAll (response : Response) (messages : List Message) : Response :=
  messages.foldl (fun response message => (observedSend route context failure response message).1)
    response

/-- `ExactRouteASGIWrapper.__call__`, for the messages that the route sends until it returns or
raises. -/
def call (isHttp : Bool) (driverRequest : Option RuntimeRequestId) (messages : List Message)
    (collector : ObservationCollector) : Except String ObservationCollector :=
  match driverRequest with
  | none => .ok collector
  | some requestId =>
    if isHttp = false then .ok collector
    else do
      let context := route.context requestId
      let collector ← collector.emit route.collector .requestReceived context {}
      let response := sendAll route context failure { collector } messages
      if response.completed then return response.collector
      else response.collector.emit route.collector .requestAborted context {}

end

/-! ## Sequences of messages -/

/-- How far a response has come. -/
inductive Phase where
  | waiting
  | streaming (status : Nat)
  | done (status : Nat)
  deriving DecidableEq

/-- A response is one start, bodies with more to come, and a body without. -/
def Phase.next : Phase → Message → Option Phase
  | phase, .other => some phase
  | .waiting, .start status => if StatusInRange status then some (.streaming status) else none
  | .streaming status, .body true => some (.streaming status)
  | .streaming status, .body false => some (.done status)
  | _, _ => none

/-- The phase after a sequence, if it is well formed. -/
def phaseAfter (messages : List Message) : Option Phase :=
  messages.foldlM Phase.next .waiting

/-- A part of a response, whole or cut short. -/
def WellFormed (messages : List Message) : Prop := (phaseAfter messages).isSome

instance (messages : List Message) : Decidable (WellFormed messages) :=
  inferInstanceAs (Decidable (_ = true))

/-! ## Reports -/

abbrev Report := RuntimeObservationKind × ObservedTarget

section

variable (route : ExactRoute) (failure : RequestedFailure)

/-- The acknowledgement whose failure is injected. -/
def injected (status : Nat) : Option GraphNodeId :=
  if failure ≠ none ∧ Success2xx status then
    route.acknowledgementForStatus status (failure.map (·.2))
  else none

/-- The status the response is observed with. -/
def observedStatus (status : Nat) : Nat :=
  if injected route failure status = none then status else 503

def startReports (status : Nat) : List Report :=
  match injected route failure status with
  | some nodeId =>
    [(.acknowledgementFailureInjected,
        { acknowledgementNodeId := some nodeId, statusCode := some 503
          originalStatusCode := some status }),
      (.responseStarted, { statusCode := some 503 })]
  | none =>
    [(.responseStarted,
      { acknowledgementNodeId :=
          route.acknowledgementForStatus status (failure.map (·.2))
        statusCode := some status })]

def completeReport (status : Nat) : Report :=
  (.responseCompleted,
    { acknowledgementNodeId :=
        route.acknowledgementForStatus (observedStatus route failure status) none
      statusCode := some (observedStatus route failure status) })

/-- The reports of a request before its end. -/
def reportsBefore : Phase → List Report
  | .waiting => [(.requestReceived, {})]
  | .streaming status => (.requestReceived, {}) :: startReports route failure status
  | .done status =>
    (.requestReceived, {}) ::
      (startReports route failure status ++ [completeReport route failure status])

/-- The reports of a request. -/
def reports : Phase → List Report
  | .done status => reportsBefore route failure (.done status)
  | phase => reportsBefore route failure phase ++ [(.requestAborted, {})]

/-- What is kept of a response in a phase. -/
def Response.Keeps (response : Response) : Phase → Prop
  | .waiting => response.status = none ∧ response.completed = false
  | .streaming status =>
    (response.status = some (observedStatus route failure status) ∧
      StatusInRange (observedStatus route failure status)) ∧ response.completed = false
  | .done _ => response.completed = true

end

/-- A collector after a report that its event's validator takes. -/
def record (config : CollectorConfig) (context : RuntimeRequestContext)
    (collector : ObservationCollector) (report : Report) : ObservationCollector :=
  (collector.emit config report.1 context report.2).toOption.getD collector

/-- A report whose event is valid. -/
def Reportable (report : Report) : Prop :=
  ∀ (collector : ObservationCollector) (context : RuntimeRequestContext),
    (collector.observation report.1 context report.2).validateTarget = .ok ()

variable {route : ExactRoute} {context : RuntimeRequestContext} {failure : RequestedFailure}
  {config : CollectorConfig} {collector : ObservationCollector}

open Checks

theorem emit_of_reportable (config : CollectorConfig) (context : RuntimeRequestContext)
    (collector : ObservationCollector) {report : Report} (reportable : Reportable report) :
    collector.emit config report.1 context report.2 =
      .ok (record config context collector report) := by
  unfold record ObservationCollector.emit
  split
  next full => rfl
  next space =>
    simp only [reportable collector context, ok_bind]
    split <;> rfl

theorem events_record (config : CollectorConfig) (context : RuntimeRequestContext)
    (collector : ObservationCollector) {report : Report} (reportable : Reportable report) :
    (record config context collector report).events =
      if config.maxEvents ≤ collector.events.length then collector.events
      else collector.events ++ [collector.observation report.1 context report.2] := by
  unfold record ObservationCollector.emit
  split
  next full => rfl
  next space =>
    simp only [reportable collector context, ok_bind]
    split <;> rfl

theorem reportable_received : Reportable (.requestReceived, {}) := by
  intro collector context
  simp [RuntimeObservationEvent.validateTarget, bind_eq_ok, raiseIf_eq_ok,
    ObservationCollector.observation, OptionalStatusInRange, RuntimeObservationKind.customer,
    RuntimeObservationKind.mutation, RuntimeObservationKind.response]

theorem reportable_aborted : Reportable (.requestAborted, {}) := by
  intro collector context
  simp [RuntimeObservationEvent.validateTarget, bind_eq_ok, raiseIf_eq_ok,
    ObservationCollector.observation, OptionalStatusInRange, RuntimeObservationKind.customer,
    RuntimeObservationKind.mutation, RuntimeObservationKind.response]

theorem reportable_response {kind : RuntimeObservationKind}
    (isResponse : kind = .responseStarted ∨ kind = .responseCompleted)
    (acknowledgementNodeId : Option GraphNodeId) {status : Nat} (inRange : StatusInRange status) :
    Reportable (kind, { acknowledgementNodeId, statusCode := some status }) := by
  intro collector context
  rcases isResponse with rfl | rfl <;>
    simp [RuntimeObservationEvent.validateTarget, bind_eq_ok, raiseIf_eq_ok,
      ObservationCollector.observation, OptionalStatusInRange, RuntimeObservationKind.customer,
      RuntimeObservationKind.mutation, RuntimeObservationKind.response,
      RuntimeObservationKind.managedResponse, inRange]

theorem statusInRange_503 : StatusInRange 503 := by decide

theorem reportable_injected (nodeId : GraphNodeId) {status : Nat} (success : Success2xx status) :
    Reportable (.acknowledgementFailureInjected,
      { acknowledgementNodeId := some nodeId, statusCode := some 503
        originalStatusCode := some status }) := by
  intro collector context
  have inRange : StatusInRange status := by
    unfold Success2xx at success
    unfold StatusInRange
    omega
  simp [RuntimeObservationEvent.validateTarget, bind_eq_ok, raiseIf_eq_ok,
    ObservationCollector.observation, OptionalStatusInRange, RuntimeObservationKind.customer,
    RuntimeObservationKind.mutation, RuntimeObservationKind.response,
    RuntimeObservationKind.managedResponse, RuntimeObservationEvent.InjectionExact, SuccessStatus,
    inRange, success, statusInRange_503]

theorem emit_reported {response : Response} {kind : RuntimeObservationKind}
    {target : ObservedTarget} {message : Message} (reportable : Reportable (kind, target)) :
    response.emit route context kind target message =
      ({ response with
          collector := record route.collector context response.collector (kind, target) },
        .ok message) := by
  rw [Response.emit, emit_of_reportable _ _ _ reportable]

/-! ## The reports of a sequence -/

/-- A collector after reports. -/
def recordAll (config : CollectorConfig) (context : RuntimeRequestContext)
    (collector : ObservationCollector) (reported : List Report) : ObservationCollector :=
  reported.foldl (record config context) collector

theorem observedSend_injected {response : Response} {status : Nat} {nodeId : GraphNodeId}
    (isInjected : injected route failure status = some nodeId) :
    observedSend route context failure response (.start status) =
      ({ response with
          status := some 503
          collector :=
            recordAll route.collector context response.collector
              (startReports route failure status) }, .ok (.start 503)) := by
  have chosen := isInjected
  rw [injected] at chosen
  split at chosen
  next asked =>
    obtain ⟨present, success⟩ := asked
    obtain ⟨⟨mode, requested⟩, rfl⟩ := Option.ne_none_iff_exists'.mp present
    cases mode
    rw [observedSend, if_pos ⟨⟨_, rfl, rfl⟩, success, by rw [chosen]; simp⟩]
    simp only [chosen, emit_of_reportable _ _ _ (reportable_injected nodeId success),
      emit_reported (reportable_response (.inl rfl) none statusInRange_503), startReports,
      isInjected]
    rfl
  next => cases chosen

theorem observedSend_uninjected {response : Response} {status : Nat}
    (uninjected : injected route failure status = none) (inRange : StatusInRange status) :
    observedSend route context failure response (.start status) =
      ({ response with
          status := some status
          collector :=
            recordAll route.collector context response.collector
              (startReports route failure status) }, .ok (.start status)) := by
  have unmet : ¬ ((∃ requested ∈ failure, requested.1 = .forceNon2xxAfterSuccess) ∧
      Success2xx status ∧
      route.acknowledgementForStatus status (failure.map (·.2)) ≠ none) := by
    rintro ⟨⟨requested, isRequested, -⟩, success, found⟩
    rw [injected, if_pos ⟨by rw [Option.mem_def.mp isRequested]; simp, success⟩] at uninjected
    exact found uninjected
  rw [observedSend, if_neg unmet, emit_reported (reportable_response (.inl rfl) _ inRange)]
  simp only [startReports, uninjected]
  rfl

/-- What a message of a well-formed sequence reports. -/
theorem observedSend_observes (context : RuntimeRequestContext) {response : Response}
    {phase after : Phase} {message : Message}
    (keeps : response.Keeps route failure phase) (next : phase.next message = some after) :
    (observedSend route context failure response message).1.Keeps route failure after ∧
      ∃ reported,
        reportsBefore route failure after = reportsBefore route failure phase ++ reported ∧
        (observedSend route context failure response message).1.collector =
          recordAll route.collector context response.collector reported := by
  cases message with
  | other =>
    have same : phase = after := by
      cases phase <;> exact Option.some.inj next
    subst same
    exact ⟨keeps, [], (List.append_nil _).symm, rfl⟩
  | start status =>
    cases phase with
    | waiting =>
      rw [Phase.next] at next
      split at next
      next inRange =>
        cases next
        refine ⟨?_, startReports route failure status, rfl, ?_⟩
        · cases isInjected : injected route failure status with
          | none =>
            rw [observedSend_uninjected isInjected inRange]
            simp [Response.Keeps, observedStatus, isInjected, inRange, keeps.2]
          | some nodeId =>
            rw [observedSend_injected isInjected]
            simp [Response.Keeps, observedStatus, isInjected, statusInRange_503, keeps.2]
        · cases isInjected : injected route failure status with
          | none => rw [observedSend_uninjected isInjected inRange]
          | some nodeId => rw [observedSend_injected isInjected]
      next => cases next
    | streaming earlier => cases next
    | done earlier => cases next
  | body moreBody =>
    cases phase with
    | waiting => cases moreBody <;> cases next
    | done earlier => cases moreBody <;> cases next
    | streaming status =>
      cases moreBody with
      | true =>
        cases next
        exact ⟨keeps, [], (List.append_nil _).symm, rfl⟩
      | false =>
        cases next
        obtain ⟨⟨isStatus, inRange⟩, -⟩ := keeps
        have sent : observedSend route context failure response (.body false) =
            ({ response with
                completed := true
                collector := record route.collector context response.collector
                  (completeReport route failure status) }, .ok (.body false)) := by
          simp only [observedSend, isStatus]
          exact emit_reported (reportable_response (.inr rfl) _ inRange)
        refine ⟨by rw [sent]; rfl, [completeReport route failure status], rfl, ?_⟩
        rw [sent]
        rfl

/-- What the messages of a well-formed sequence report. -/
theorem sendAll_observes (context : RuntimeRequestContext) {messages : List Message}
    {response : Response} {phase after : Phase}
    (keeps : response.Keeps route failure phase)
    (wellFormed : messages.foldlM Phase.next phase = some after) :
    (sendAll route context failure response messages).Keeps route failure after ∧
      ∃ reported,
        reportsBefore route failure after = reportsBefore route failure phase ++ reported ∧
        (sendAll route context failure response messages).collector =
          recordAll route.collector context response.collector reported := by
  induction messages generalizing response phase with
  | nil =>
    cases wellFormed
    exact ⟨keeps, [], (List.append_nil _).symm, rfl⟩
  | cons message rest ih =>
    rw [List.foldlM_cons] at wellFormed
    obtain ⟨between, next, later⟩ := Option.bind_eq_some_iff.mp wellFormed
    obtain ⟨keptNext, first, firstReports, firstCollector⟩ :=
      observedSend_observes context keeps next
    obtain ⟨keptAfter, others, otherReports, otherCollector⟩ := ih keptNext later
    refine ⟨keptAfter, first ++ others, ?_, ?_⟩
    · rw [otherReports, firstReports, List.append_assoc]
    · rw [sendAll, List.foldl_cons]
      refine otherCollector.trans ?_
      rw [firstCollector, recordAll, recordAll, recordAll, List.foldl_append]

/-- What a request with a well-formed sequence reports. -/
theorem call_reports {requestId : RuntimeRequestId} {messages : List Message} {phase : Phase}
    (wellFormed : phaseAfter messages = some phase) :
    call route failure true (some requestId) messages collector =
      .ok (recordAll route.collector (route.context requestId) collector
        (reports route failure phase)) := by
  have start := emit_of_reportable route.collector (route.context requestId) collector
    reportable_received
  have keeps : Response.Keeps route failure
      { collector := record route.collector (route.context requestId) collector
          (.requestReceived, {}) } .waiting := ⟨rfl, rfl⟩
  obtain ⟨kept, reported, isReported, sent⟩ :=
    sendAll_observes (route.context requestId) keeps wellFormed
  have whole : (sendAll route (route.context requestId) failure
      { collector := record route.collector (route.context requestId) collector
          (.requestReceived, {}) } messages).collector =
        recordAll route.collector (route.context requestId) collector
          (reportsBefore route failure phase) := by
    rw [sent, isReported]
    rfl
  simp only [call, Bool.true_eq_false, if_false, start, ok_bind]
  generalize sendAll route (route.context requestId) failure _ messages = response at kept whole ⊢
  cases phase with
  | done status =>
    have completed : response.completed = true := kept
    rw [if_pos completed, whole]
    rfl
  | waiting =>
    have unfinished : ¬ response.completed = true := by simp [kept.2]
    rw [if_neg unfinished, whole, emit_of_reportable _ _ _ reportable_aborted]
    simp only [reports, recordAll, List.foldl_append]
    rfl
  | streaming status =>
    have unfinished : ¬ response.completed = true := by simp [kept.2]
    rw [if_neg unfinished, whole, emit_of_reportable _ _ _ reportable_aborted]
    simp only [reports, recordAll, List.foldl_append]
    rfl

/-! ## What is recorded -/

/-- The kind of an event and the acknowledgement it names. -/
abbrev Attribution := RuntimeObservationKind × Option GraphNodeId

def attribution (event : RuntimeObservationEvent) : Attribution :=
  (event.kind, event.acknowledgementNodeId)

def Report.attribution (report : Report) : Attribution := (report.1, report.2.acknowledgementNodeId)

theorem reportable_startReports {status : Nat} (inRange : StatusInRange status) :
    ∀ report ∈ startReports route failure status, Reportable report := by
  intro report membership
  rw [startReports] at membership
  split at membership
  next nodeId isInjected =>
    have success : Success2xx status := by
      rw [injected] at isInjected
      split at isInjected
      next asked => exact asked.2
      next => cases isInjected
    simp only [List.mem_cons, List.not_mem_nil, or_false] at membership
    rcases membership with rfl | rfl
    · exact reportable_injected nodeId success
    · exact reportable_response (.inl rfl) none statusInRange_503
  next =>
    simp only [List.mem_cons, List.not_mem_nil, or_false] at membership
    subst membership
    exact reportable_response (.inl rfl) _ inRange

theorem observedStatus_inRange {status : Nat} (inRange : StatusInRange status) :
    StatusInRange (observedStatus route failure status) := by
  unfold observedStatus
  split
  · exact inRange
  · exact statusInRange_503

/-- The statuses of a phase are those that events take. -/
def Phase.InRange : Phase → Prop
  | .waiting => True
  | .streaming status => StatusInRange status
  | .done status => StatusInRange status

theorem Phase.InRange.next {phase after : Phase} {message : Message} (inRange : phase.InRange)
    (next : phase.next message = some after) : after.InRange := by
  unfold Phase.next at next
  split at next
  next => exact Option.some.inj next ▸ inRange
  next =>
    split at next
    next startInRange => exact Option.some.inj next ▸ startInRange
    next => cases next
  next => exact Option.some.inj next ▸ inRange
  next => exact Option.some.inj next ▸ inRange
  next => cases next

theorem Phase.InRange.foldlM {messages : List Message} {phase after : Phase}
    (inRange : phase.InRange) (wellFormed : messages.foldlM Phase.next phase = some after) :
    after.InRange := by
  induction messages generalizing phase with
  | nil => exact Option.some.inj wellFormed ▸ inRange
  | cons message rest ih =>
    rw [List.foldlM_cons] at wellFormed
    obtain ⟨between, next, later⟩ := Option.bind_eq_some_iff.mp wellFormed
    exact ih (inRange.next next) later

theorem reportable_reports (route : ExactRoute) (failure : RequestedFailure) {phase : Phase}
    (inRange : phase.InRange) :
    ∀ report ∈ reports route failure phase, Reportable report := by
  intro report membership
  cases phase with
  | waiting =>
    simp only [reports, reportsBefore, List.cons_append, List.nil_append, List.mem_cons,
      List.not_mem_nil, or_false] at membership
    rcases membership with rfl | rfl
    · exact reportable_received
    · exact reportable_aborted
  | streaming status =>
    simp only [reports, reportsBefore, List.cons_append, List.mem_cons, List.mem_append,
      List.not_mem_nil, or_false] at membership
    rcases membership with rfl | started | rfl
    · exact reportable_received
    · exact reportable_startReports inRange report started
    · exact reportable_aborted
  | done status =>
    simp only [reports, reportsBefore, List.mem_cons, List.mem_append, List.not_mem_nil,
      or_false] at membership
    rcases membership with rfl | started | rfl
    · exact reportable_received
    · exact reportable_startReports inRange report started
    · exact reportable_response (.inr rfl) _ (observedStatus_inRange inRange)

/-- The collector takes reports until it is full. -/
theorem events_recordAll (config : CollectorConfig) (context : RuntimeRequestContext)
    {reported : List Report} (reportable : ∀ report ∈ reported, Reportable report)
    (collector : ObservationCollector) :
    ∃ added, (recordAll config context collector reported).events = collector.events ++ added ∧
      added.map attribution =
        (reported.take (config.maxEvents - collector.events.length)).map Report.attribution := by
  induction reported generalizing collector with
  | nil => exact ⟨[], by simp [recordAll], by simp⟩
  | cons report rest ih =>
    obtain ⟨added, isAdded, attributed⟩ :=
      ih (fun other membership => reportable other (by simp [membership]))
        (record config context collector report)
    have events := events_record config context collector (reportable report (by simp))
    by_cases full : config.maxEvents ≤ collector.events.length
    · rw [if_pos full] at events
      refine ⟨added, ?_, ?_⟩
      · rw [recordAll, List.foldl_cons]
        exact isAdded.trans (by rw [events])
      · rw [attributed, events, Nat.sub_eq_zero_of_le full, List.take_zero, List.take_zero]
    · rw [if_neg full] at events
      refine ⟨collector.observation report.1 context report.2 :: added, ?_, ?_⟩
      · rw [recordAll, List.foldl_cons]
        refine isAdded.trans ?_
        rw [events, List.append_assoc, List.singleton_append]
      · have space : config.maxEvents - collector.events.length =
            (config.maxEvents - (record config context collector report).events.length) + 1 := by
          rw [events, List.length_append, List.length_singleton]
          omega
        rw [space, List.take_succ_cons, List.map_cons, List.map_cons, attributed]
        rfl

/-! ## Consistency -/

def isTerminal (kind : RuntimeObservationKind) : Bool :=
  kind = .responseCompleted ∨ kind = .requestAborted

/-- The events of a request agree: a request that was received ends once, its response starts and
completes with the same acknowledgement or none, and after an injected failure with none. -/
structure Consistent (events : List Attribution) : Prop where
  terminal : (∃ nodeId, (.requestReceived, nodeId) ∈ events) →
    (events.filter fun event => isTerminal event.1).length = 1
  agree : ∀ started completed, (.responseStarted, started) ∈ events →
    (.responseCompleted, completed) ∈ events → started = completed
  unattributed : (∃ nodeId, (.acknowledgementFailureInjected, nodeId) ∈ events) →
    ∀ kind nodeId, (kind, nodeId) ∈ events →
      kind = .responseStarted ∨ kind = .responseCompleted → nodeId = none

/-- The acknowledgements of a route with a status. -/
def ExactRoute.nodesOf (route : ExactRoute) (status : Nat) : List GraphNodeId :=
  (route.acknowledgements.filter fun item => item.statusCode = some status).map
    (·.acknowledgementNodeId)

/-- The acknowledgement of a status is the same with the failure that is requested and without: it
is the only one of its status, or it is no acknowledgement that is looked up.  When the failure is
injected, the replaced status has not one acknowledgement. -/
def Named (route : ExactRoute) (failure : RequestedFailure) (status : Nat) : Prop :=
  match failure with
  | none => True
  | some (_, nodeId) =>
    if Success2xx status ∧ (route.nodesOf status).count nodeId = 1 then
      (route.nodesOf 503).length ≠ 1
    else
      route.nodesOf status = [nodeId] ∨
        (route.nodesOf status).length ≠ 1 ∧ (route.nodesOf status).count nodeId ≠ 1

/-- The number of events of a request. -/
def eventCount (route : ExactRoute) (failure : RequestedFailure) : Phase → Nat
  | .waiting => 2
  | .streaming status | .done status =>
    if ∃ requested ∈ failure, Success2xx status ∧
        (route.nodesOf status).count requested.2 = 1 then 4
    else 3

theorem acknowledgementForStatus_none {status : Nat} {nodeId : GraphNodeId} :
    route.acknowledgementForStatus status none = some nodeId ↔ route.nodesOf status = [nodeId] := by
  have same : (route.acknowledgements.filter fun item => item.statusCode = some status ∧
      ((none : Option GraphNodeId) = none ∨ none = some item.acknowledgementNodeId)).map
        (·.acknowledgementNodeId) = route.nodesOf status := by
    simp [ExactRoute.nodesOf]
  rw [ExactRoute.acknowledgementForStatus, same]
  split
  next found => simp [found]
  next other =>
    refine iff_of_false (by simp) ?_
    exact other nodeId

theorem acknowledgementForStatus_some {status : Nat} {requested : GraphNodeId} :
    route.acknowledgementForStatus status (some requested) =
      if (route.nodesOf status).count requested = 1 then some requested else none := by
  have same : (route.acknowledgements.filter fun item => item.statusCode = some status ∧
      (some requested = none ∨ some requested = some item.acknowledgementNodeId)).map
        (·.acknowledgementNodeId) =
      List.replicate ((route.nodesOf status).count requested) requested := by
    rw [← List.filter_eq, ExactRoute.nodesOf, List.filter_map, List.filter_filter]
    congr 2
    funext item
    simp [and_comm, eq_comm]
  rw [ExactRoute.acknowledgementForStatus, same]
  by_cases once : (route.nodesOf status).count requested = 1
  · rw [if_pos once, once]
    rfl
  · rw [if_neg once]
    split
    next nodeId found =>
      have lengths := congrArg List.length found
      rw [List.length_replicate, List.length_singleton] at lengths
      exact absurd lengths once
    next => rfl

theorem injected_ne_none_iff (route : ExactRoute) (failure : RequestedFailure) (status : Nat) :
    injected route failure status ≠ none ↔
      ∃ requested ∈ failure, Success2xx status ∧
        (route.nodesOf status).count requested.2 = 1 := by
  rw [injected]
  cases failure with
  | none => simp
  | some requested =>
    by_cases success : Success2xx status
    · rw [if_pos ⟨by simp, success⟩, Option.map_some, acknowledgementForStatus_some]
      simp [success]
    · rw [if_neg (by simp [success])]
      simp [success]

theorem length_reports (phase : Phase) :
    (reports route failure phase).length = eventCount route failure phase := by
  have started : ∀ status, (startReports route failure status).length =
      if ∃ requested ∈ failure, Success2xx status ∧
        (route.nodesOf status).count requested.2 = 1 then 2 else 1 := by
    intro status
    rw [startReports]
    split
    next nodeId isInjected =>
      rw [if_pos ((injected_ne_none_iff _ _ _).mp (by rw [isInjected]; simp))]
      rfl
    next uninjected =>
      rw [if_neg fun chosen => (injected_ne_none_iff _ _ _).mpr chosen uninjected]
      rfl
  cases phase with
  | waiting => rfl
  | streaming status =>
    simp only [reports, reportsBefore, eventCount, List.length_append, List.length_cons,
      List.length_nil, started]
    split <;> rfl
  | done status =>
    simp only [reports, reportsBefore, eventCount, List.length_append, List.length_cons,
      List.length_nil, started]
    split <;> rfl

/-- The last report of a request is its only terminal one. -/
theorem reports_eq_opened (route : ExactRoute) (failure : RequestedFailure) (phase : Phase) :
    ∃ opened last, reports route failure phase = (.requestReceived, {}) :: (opened ++ [last]) ∧
      (∀ report ∈ opened, isTerminal report.1 = false) ∧ isTerminal last.1 = true := by
  have started : ∀ status, ∀ report ∈ startReports route failure status,
      isTerminal report.1 = false := by
    intro status report membership
    rw [startReports] at membership
    split at membership
    next =>
      simp only [List.mem_cons, List.not_mem_nil, or_false] at membership
      rcases membership with rfl | rfl <;> rfl
    next =>
      simp only [List.mem_cons, List.not_mem_nil, or_false] at membership
      subst membership
      rfl
  cases phase with
  | waiting => exact ⟨[], (.requestAborted, {}), rfl, by simp, rfl⟩
  | streaming status =>
    exact ⟨startReports route failure status, (.requestAborted, {}), rfl, started status, rfl⟩
  | done status =>
    exact ⟨startReports route failure status, completeReport route failure status, rfl,
      started status, rfl⟩

/-- Neither the reception of a request nor what is reported before its last report ends it. -/
theorem filter_terminal_eq_nil {opened : List Report}
    (isOpened : ∀ report ∈ opened, isTerminal report.1 = false) :
    ((((.requestReceived, {}) :: opened : List Report).map Report.attribution).filter
      fun event => isTerminal event.1) = [] := by
  rw [List.filter_eq_nil_iff]
  intro event membership
  obtain ⟨report, isReport, rfl⟩ := List.mem_map.mp membership
  rcases List.mem_cons.mp isReport with rfl | later
  · decide
  · have notTerminal : isTerminal report.attribution.1 = false := isOpened report later
    simp [notTerminal]

/-- A collector that takes some of the reports of a request but not the last loses its end. -/
theorem not_consistent_of_cut {phase : Phase} {room : Nat} (some : 0 < room)
    (cut : room < (reports route failure phase).length) :
    ¬ Consistent (((reports route failure phase).take room).map Report.attribution) := by
  obtain ⟨opened, last, isReports, isOpened, -⟩ := reports_eq_opened route failure phase
  obtain ⟨fewer, rfl⟩ := Nat.exists_eq_add_of_lt some
  rw [isReports] at cut ⊢
  rw [Nat.zero_add, List.take_succ_cons]
  simp only [List.length_cons, List.length_append, List.length_nil] at cut
  rw [List.take_append_of_le_length (by omega)]
  intro consistent
  have once := consistent.terminal ⟨none, by simp [Report.attribution]⟩
  rw [filter_terminal_eq_nil fun report taken => isOpened report (List.mem_of_mem_take taken)]
    at once
  simp at once

theorem acknowledgementForStatus_eq_none {status : Nat} :
    route.acknowledgementForStatus status none = none ↔ (route.nodesOf status).length ≠ 1 := by
  rw [Option.eq_none_iff_forall_ne_some, Ne, List.length_eq_one_iff, not_exists]
  exact forall_congr' fun nodeId => not_congr acknowledgementForStatus_none

/-- The two places that look up the acknowledgement agree exactly when it is named. -/
theorem named_iff {status : Nat} :
    Named route failure status ↔
      match injected route failure status with
      | some _ => route.acknowledgementForStatus 503 none = none
      | none =>
        route.acknowledgementForStatus status (failure.map (·.2)) =
          route.acknowledgementForStatus status none := by
  cases failure with
  | none => simp [Named, injected]
  | some requested =>
    obtain ⟨mode, nodeId⟩ := requested
    have isInjected := injected_ne_none_iff route (some (mode, nodeId)) status
    simp only [Option.mem_def, Option.some.injEq, exists_eq_left'] at isInjected
    rw [Named]
    split
    next chosen =>
      obtain ⟨_, found⟩ := Option.ne_none_iff_exists'.mp (isInjected.mpr chosen)
      rw [found]
      exact acknowledgementForStatus_eq_none.symm
    next unchosen =>
      rw [not_not.mp (mt isInjected.mp unchosen)]
      show _ ↔ route.acknowledgementForStatus status (some nodeId) =
        route.acknowledgementForStatus status none
      rw [acknowledgementForStatus_some]
      by_cases once : (route.nodesOf status).count nodeId = 1
      · rw [if_pos once, @eq_comm _ (some nodeId), acknowledgementForStatus_none]
        exact or_iff_left fun both => both.2 once
      · rw [if_neg once, @eq_comm _ none, acknowledgementForStatus_eq_none]
        constructor
        · rintro (only | ⟨several, -⟩)
          · exact absurd (by rw [only]; simp) once
          · exact several
        · exact fun several => .inr ⟨several, once⟩

/-- A request reports one end. -/
theorem terminal_once (route : ExactRoute) (failure : RequestedFailure) (phase : Phase) :
    (((reports route failure phase).map Report.attribution).filter
      fun event => isTerminal event.1).length = 1 := by
  obtain ⟨opened, last, isReports, isOpened, ends⟩ := reports_eq_opened route failure phase
  have isLast : isTerminal (Report.attribution last).1 = true := ends
  rw [isReports, ← List.cons_append, List.map_append, List.filter_append,
    filter_terminal_eq_nil isOpened, List.nil_append, List.map_singleton]
  simp [isLast]

/-- A request that is cut off completes no response. -/
theorem consistent_streaming (status : Nat) :
    Consistent ((reports route failure (.streaming status)).map Report.attribution) := by
  refine ⟨fun _ => terminal_once route failure _, ?_, ?_⟩
  · intro started completed _ isCompleted
    cases chosen : injected route failure status with
    | some nodeId =>
      simp [reports, reportsBefore, startReports, chosen, Report.attribution] at isCompleted
    | none =>
      simp [reports, reportsBefore, startReports, chosen, Report.attribution] at isCompleted
  · rintro ⟨injectedId, isInjected⟩ kind nodeId membership isResponse
    cases chosen : injected route failure status with
    | some chosenId =>
      simp only [reports, reportsBefore, startReports, chosen, Report.attribution,
        List.cons_append, List.nil_append, List.map_cons, List.map_nil, List.mem_cons,
        Prod.mk.injEq, List.not_mem_nil, or_false] at membership
      rcases isResponse with rfl | rfl <;> simp at membership
      exact membership
    | none =>
      simp [reports, reportsBefore, startReports, chosen, Report.attribution] at isInjected

/-- Where a failure is injected, the response is completed as status 503. -/
theorem consistent_done_injected {status : Nat} {chosenId : GraphNodeId}
    (chosen : injected route failure status = some chosenId) :
    Consistent ((reports route failure (.done status)).map Report.attribution) ↔
      route.acknowledgementForStatus 503 none = none := by
  have events : (reports route failure (.done status)).map Report.attribution =
      [(.requestReceived, none), (.acknowledgementFailureInjected, some chosenId),
        (.responseStarted, none),
        (.responseCompleted, route.acknowledgementForStatus 503 none)] := by
    simp [reports, reportsBefore, startReports, completeReport, observedStatus, chosen,
      Report.attribution]
  constructor
  · intro consistent
    exact (consistent.agree none _ (by simp [events]) (by simp [events])).symm
  · intro unnamed
    refine ⟨fun _ => terminal_once route failure _, ?_, ?_⟩
    · intro started completed isStarted isCompleted
      simp [events, unnamed] at isStarted isCompleted
      rw [isStarted, isCompleted]
    · rintro - kind nodeId membership isResponse
      rw [events, unnamed] at membership
      rcases isResponse with rfl | rfl <;> simpa using membership

/-- Where none is, it is completed with its own status. -/
theorem consistent_done_plain {status : Nat} (plain : injected route failure status = none) :
    Consistent ((reports route failure (.done status)).map Report.attribution) ↔
      route.acknowledgementForStatus status (failure.map (·.2)) =
        route.acknowledgementForStatus status none := by
  have events : (reports route failure (.done status)).map Report.attribution =
      [(.requestReceived, none),
        (.responseStarted, route.acknowledgementForStatus status (failure.map (·.2))),
        (.responseCompleted, route.acknowledgementForStatus status none)] := by
    simp [reports, reportsBefore, startReports, completeReport, observedStatus, plain,
      Report.attribution]
  constructor
  · intro consistent
    exact consistent.agree _ _ (by simp [events]) (by simp [events])
  · intro named
    refine ⟨fun _ => terminal_once route failure _, ?_, ?_⟩
    · intro started completed isStarted isCompleted
      simp [events] at isStarted isCompleted
      rw [isStarted, isCompleted, named]
    · rintro ⟨injectedId, isInjected⟩
      simp [events] at isInjected

/-- The reports of a request are consistent exactly when the acknowledgement of a response that is
completed is named. -/
theorem consistent_reports_iff {phase : Phase} :
    Consistent ((reports route failure phase).map Report.attribution) ↔
      ∀ status, phase = .done status → Named route failure status := by
  cases phase with
  | waiting =>
    refine iff_of_true ⟨fun _ => terminal_once route failure _, ?_, ?_⟩ (by simp)
    · intro started completed isStarted
      simp [reports, reportsBefore, Report.attribution] at isStarted
    · rintro ⟨nodeId, isInjected⟩
      simp [reports, reportsBefore, Report.attribution] at isInjected
  | streaming status => exact iff_of_true (consistent_streaming status) (by simp)
  | done status =>
    simp only [Phase.done.injEq, forall_eq', named_iff]
    cases chosen : injected route failure status with
    | some chosenId => exact consistent_done_injected chosen
    | none => exact consistent_done_plain chosen

/-! ## Requests -/

/-- What is appended to a collector. -/
def addedTo (before after : ObservationCollector) : List Attribution :=
  (after.events.drop before.events.length).map attribution

/-- The reports of a request are consistent exactly when it is not observed, or the collector takes
none of its events, or it takes all and the acknowledgement of a completed response is named. -/
theorem call_consistent_iff (route : ExactRoute) (failure : RequestedFailure) (isHttp : Bool)
    (driverRequest : Option RuntimeRequestId) (messages : List Message)
    (collector : ObservationCollector) (wellFormed : WellFormed messages) :
    ∃ after, call route failure isHttp driverRequest messages collector = .ok after ∧
      (Consistent (addedTo collector after) ↔
        isHttp = false ∨ driverRequest = none ∨
          route.collector.maxEvents ≤ collector.events.length ∨
          ∃ phase ∈ phaseAfter messages,
            collector.events.length + eventCount route failure phase ≤ route.collector.maxEvents ∧
              ∀ status, phase = .done status → Named route failure status) := by
  obtain ⟨phase, isPhase⟩ := Option.isSome_iff_exists.mp wellFormed
  have nothing : Consistent (addedTo collector collector) := by
    have empty : addedTo collector collector = [] := by simp [addedTo]
    rw [empty]
    exact ⟨by simp, by simp, by simp⟩
  cases driverRequest with
  | none => exact ⟨collector, rfl, iff_of_true nothing (.inr (.inl rfl))⟩
  | some requestId =>
    cases isHttp with
    | false => exact ⟨collector, rfl, iff_of_true nothing (.inl rfl)⟩
    | true =>
      refine ⟨_, call_reports isPhase, ?_⟩
      have started : Phase.waiting.InRange := trivial
      obtain ⟨added, isAdded, attributed⟩ := events_recordAll route.collector
        (route.context requestId) (reportable_reports route failure (started.foldlM isPhase))
        collector
      have observed : addedTo collector (recordAll route.collector (route.context requestId)
          collector (reports route failure phase)) =
          ((reports route failure phase).take
            (route.collector.maxEvents - collector.events.length)).map Report.attribution := by
        rw [addedTo, isAdded, List.drop_left, attributed]
      rw [observed]
      simp only [Bool.true_eq_false, reduceCtorEq, false_or, isPhase, Option.mem_def,
        Option.some.injEq, exists_eq_left']
      by_cases full : route.collector.maxEvents ≤ collector.events.length
      · rw [Nat.sub_eq_zero_of_le full, List.take_zero]
        exact iff_of_true ⟨by simp, by simp, by simp⟩ (.inl full)
      · rw [or_iff_right full]
        by_cases cut : route.collector.maxEvents - collector.events.length <
            (reports route failure phase).length
        · refine iff_of_false (not_consistent_of_cut (by omega) cut) ?_
          rintro ⟨fits, -⟩
          rw [length_reports] at cut
          omega
        · rw [List.take_of_length_le (by omega), consistent_reports_iff]
          rw [length_reports] at cut
          exact (and_iff_right (by omega)).symm

/-- A route with two acknowledgements, one of which has the status of an injected failure. -/
def busyRoute : ExactRoute where
  sessionId := "sgrun_busy"
  ingress :=
    { ingressNodeId := "sgnode_busy"
      routeRegistrationId := "sgroute_busy"
      method := "POST"
      effectivePath := "/webhook"
      checkoutRequestBinding := none }
  normalControlId := none
  acknowledgements := [("sgnode_ok", 200, .success2xx), ("sgnode_later", 503, .nonSuccess)].map
    fun (nodeId, status, outcome) =>
      { ingress :=
          { ingressNodeId := "sgnode_busy"
            routeRegistrationId := "sgroute_busy"
            method := "POST"
            effectivePath := "/webhook"
            checkoutRequestBinding := none }
        acknowledgementNodeId := nodeId
        statusCode := some status
        outcome }
  collector := ⟨10000, fun _ => false, one_le_defaultMaxEvents⟩

/-- The response whose acknowledgement was made to fail completes with the other one. -/
theorem busyRoute_inconsistent :
    WellFormed [.start 200, .body false] ∧
      ∃ after, call busyRoute (some (.forceNon2xxAfterSuccess, "sgnode_ok")) true
          (some "sgreq_1") [.start 200, .body false] {} = .ok after ∧
        addedTo {} after =
          [(.requestReceived, none), (.acknowledgementFailureInjected, some "sgnode_ok"),
            (.responseStarted, none), (.responseCompleted, some "sgnode_later")] ∧
        ¬ Consistent (addedTo {} after) := by
  refine ⟨by decide, _, rfl, by decide +kernel, ?_⟩
  intro consistent
  have absent := consistent.agree none (some "sgnode_later") (by decide +kernel)
    (by decide +kernel)
  cases absent

theorem busyRoute_consistent_iff :
    ∃ after, call busyRoute none true (some "sgreq_1") [.start 200, .body false] {} = .ok after ∧
      (Consistent (addedTo {} after) ↔
        true = false ∨ some "sgreq_1" = none ∨ busyRoute.collector.maxEvents ≤ 0 ∨
          ∃ phase ∈ phaseAfter [.start 200, .body false],
            0 + eventCount busyRoute none phase ≤ busyRoute.collector.maxEvents ∧
              ∀ status, phase = .done status → Named busyRoute none status) :=
  call_consistent_iff busyRoute none true (some "sgreq_1") [.start 200, .body false] {}
    (by decide)

end Asgi

end StateGuard
