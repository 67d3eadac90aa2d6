import StateGuard.Runtime.SessionInvariant

/-!
# Sessions that complete

While a session is open and its worker serves, it depends on three flags alone whether its
transcript can still be complete.  If none says that something was lost, the session can be closed
so that its transcript has every event that was observed (`Healthy.completes`).  What a flag says is
never taken back, so otherwise no transcript of the session is complete (`Lost`, `Doubted`).
-/

namespace StateGuard

namespace Managed

open RecordLog

variable {setting : Setting} {w after later : World}

/-! ## What can happen -/

/-- A session can go on so. -/
def Goes (setting : Setting) (w after : World) : Prop :=
  ∃ events, w.run setting events = some after

theorem Goes.refl : Goes setting w w := ⟨[], rfl⟩

theorem Goes.trans (first : Goes setting w after) (second : Goes setting after later) :
    Goes setting w later := by
  obtain ⟨events, runs⟩ := first
  obtain ⟨others, goesOn⟩ := second
  refine ⟨events ++ others, ?_⟩
  rw [World.run, List.foldlM_append]
  exact Option.bind_eq_some_iff.mpr ⟨after, runs, goesOn⟩

theorem Goes.single {e : Event} (steps : w.step setting e = some after) :
    Goes setting w after := by
  refine ⟨[e], ?_⟩
  rw [World.run, List.foldlM_cons, steps]
  rfl

/-- A thread of a worker that has not ended can go on. -/
theorem Goes.thread {writer : Writer} (alive : ¬ w.Gone)
    (leads : Channel.Leads setting.reader.format w.worker.writer writer) :
    Goes setting w (w.withWriter writer) := by
  obtain ⟨events, runs⟩ := leads
  induction events generalizing w with
  | nil =>
    cases runs
    exact .refl
  | cons event rest ih =>
    rw [List.foldlM_cons] at runs
    obtain ⟨next, steps, runs⟩ := Option.bind_eq_some_iff.mp runs
    have first : w.step setting (.thread event) = some (w.withWriter next) := by
      rw [World.step, if_neg alive, steps]
      rfl
    exact (Goes.single first).trans (ih (w := w.withWriter next) alive runs)

/-- The session is open, the worker serves, and nothing has failed. -/
structure Healthy (w : World) : Prop where
  session : ∃ readiness, w.session.phase = .serving readiness
  complete : w.session.complete = true
  kept : w.removed = false
  serving : w.worker.phase = .serving
  observed : w.worker.collector.complete = true
  unfailed : w.worker.writer.failed = false

/-! ## The worker closes -/

/-- The worker is asked to stop, its server exits, and the thread of its writer is asked to end. -/
theorem goes_joining (collects : Collects setting w.worker) (healthy : Healthy w) :
    ∃ writer, w.worker.writer.finish queueSize = some writer ∧
      Goes setting w { w with
        stop := true
        inputs := none
        worker := { w.worker with phase := .joining none, writer } } := by
  have early : w.worker.phase.rank ≤ 4 := by
    rw [healthy.serving]
    decide
  obtain ⟨writer, put⟩ := Option.isSome_iff_exists.mp (collects.room_finish early)
  refine ⟨writer, put, ?_⟩
  -- The steps compute once the phases are known.
  obtain ⟨⟨phase, collector, channel, reported⟩, ⟨sessionPhase, ordinal, complete, diagnostics⟩,
    status, stop, removed, inputs⟩ := w
  obtain ⟨readiness, rfl⟩ : ∃ readiness, sessionPhase = .serving readiness := healthy.session
  obtain rfl : phase = .serving := healthy.serving
  let during (phase : WorkerPhase) : World :=
    ⟨⟨phase, collector, channel, reported⟩, ⟨.serving readiness, ordinal, complete, diagnostics⟩,
      status, true, removed, none⟩
  have restores : Goes setting { during .serving with stop, inputs }
      { during .serving with stop } := .single (e := .inputsChange none) rfl
  have asks : Goes setting { during .serving with stop } (during .serving) :=
    .single (e := .session .asksStop) rfl
  have sees : Goes setting (during .serving) (during .stopping) :=
    .single (e := .worker .seesStop) rfl
  have exits : Goes setting (during .stopping) (during .revalidating) :=
    .single (e := .worker (.exits none)) rfl
  have validates : Goes setting (during .revalidating) (during (.closing none)) :=
    .single (e := .worker .validates) rfl
  have puts : World.step setting (during (.closing none)) (.worker .puts) = some
      { during (.joining none) with worker := ⟨.joining none, collector, writer, reported⟩ } := by
    show some (World.inPhase (World.withWriter _ ((channel.finish queueSize).getD _)) _) = _
    rw [show channel.finish queueSize = some writer from put]
    rfl
  exact restores.trans (asks.trans (sees.trans (exits.trans (validates.trans (.single puts)))))

/-- The thread writes what is in the queue, and the worker reports a snapshot of the collector. -/
theorem goes_gone (joining : w.worker.phase = .joining none)
    (ended : w.worker.writer.thread = .ended) (unfailed : w.worker.writer.failed = false) :
    Goes setting w { w with
      status := some (.ended (w.worker.report none))
      worker := { w.worker with phase := .gone, reported := some w.worker.collector.events } } := by
  obtain ⟨⟨phase, collector, ⟨items, thread, failed, file, taken⟩, reported⟩, session, status, stop,
    removed, inputs⟩ := w
  obtain rfl : phase = .joining none := joining
  obtain rfl : thread = .ended := ended
  obtain rfl : failed = false := unfailed
  exact ⟨[.worker (.joins true), .worker .records, .worker .snapshots, .worker (.publishes true),
    .worker .leaves], rfl⟩

/-- A queue without what ends the thread holds records only. -/
theorem eq_map_reduceOption {ρ : Type} [DecidableEq ρ] {items : List (Option ρ)}
    (unasked : items.count none = 0) : items = items.reduceOption.map some := by
  induction items with
  | nil => rfl
  | cons item rest ih =>
    cases item with
    | none => simp at unasked
    | some record =>
      rw [List.reduceOption_cons_of_some, List.map_cons]
      exact congrArg _ (ih (by simpa using unasked))

/-! ## The parent closes -/

theorem readEvents_log (session : Session) {reader : EventReader}
    {events : List RuntimeObservationEvent}
    (faithful : ∀ event ∈ events, reader.format.Faithful event) :
    session.readEvents reader (some (reader.format.log events)) = (events, session) := by
  rw [Session.readEvents, Format.readBack_log faithful]
  rfl

/-- The status of an orderly worker is no reason to doubt the transcript. -/
theorem complete_readReport {session : Session} {report : Report} {count : Nat}
    (closed : report.closed = true) (whole : report.complete = true)
    (counted : report.eventCount = count) :
    (session.readReport report count).complete = session.complete := by
  simp [Session.readReport, closed, whole, counted]

/-- The parent reads back what a worker that has ended has written. -/
theorem goes_returned (collects : Collects setting w.worker) {readiness : Readiness}
    (serving : w.session.phase = .serving readiness) (complete : w.session.complete = true)
    (kept : w.removed = false) (gone : w.Gone)
    (faithful : ∀ event ∈ w.worker.collector.events, setting.reader.format.Faithful event)
    (file : w.worker.writer.file =
      some (setting.reader.format.log w.worker.collector.events))
    {report : Report} (status : w.status = some (.ended report)) (closed : report.closed = true)
    (whole : report.complete = true)
    (count : report.eventCount = w.worker.collector.events.length) (fingerprint : Sha256Digest) :
    ∃ after transcript, Goes setting w after ∧ after.session.phase = .returned (.ok transcript) ∧
      transcript.complete = true ∧ transcript.events = w.worker.collector.events := by
  let events := w.worker.collector.events
  let collected : World := { w with session := { w.session with phase := .collected events } }
  have closes : w.step setting (.session (.closes true)) = some
      { w with session := { w.session with phase := .closed } } := by
    simp [World.step, World.sessionStep, serving, gone, World.touch]
  have observations : w.observations = some (setting.reader.format.log events) := by
    rw [World.observations, kept, file]
    rfl
  have reads : World.step setting { w with session := { w.session with phase := .closed } }
      (.session .collects) = some collected := by
    show some { w with session :=
      { (Session.readEvents { w.session with phase := .closed } setting.reader
          w.observations).2 with
        phase := .collected (Session.readEvents { w.session with phase := .closed }
          setting.reader w.observations).1 } } = _
    rw [observations, readEvents_log _ faithful]
  have returns : World.step setting collected (.session (.returns fingerprint false)) = some
      { w with session := collected.closing setting fingerprint events } := rfl
  have found : collected.found = some (.ended report) := by
    show (if w.removed then none else w.status) = _
    rw [kept, status]
    rfl
  have finished : (collected.session.readStatus collected.found events.length).complete = true := by
    rw [found]
    exact (complete_readReport closed whole count).trans complete
  obtain ⟨transcript, isSealed, isEvents, isComplete, -⟩ :=
    collects.sealed (show ((collected.session.readStatus collected.found events.length).payload
      setting.sessionId fingerprint events).sessionId = setting.sessionId from rfl) List.prefix_rfl
  exact ⟨_, transcript, (Goes.single closes).trans ((Goes.single reads).trans (.single returns)),
    congrArg _ isSealed, isComplete.trans finished, isEvents⟩

/-- A session that is open and in which nothing has failed can be closed, and its transcript is then
complete and has every event that was observed. -/
theorem Healthy.completes (healthy : Healthy w) (reads : setting.reader.Reads)
    {events : List Event} (runs : World.run setting {} events = some w)
    (fingerprint : Sha256Digest) :
    ∃ after transcript, Goes setting w after ∧ after.session.phase = .returned (.ok transcript) ∧
      transcript.complete = true ∧ transcript.events = w.worker.collector.events := by
  have reached : Goes setting {} w := ⟨events, runs⟩
  have collects := (invariant_run runs).collects
  obtain ⟨readiness, serving⟩ := healthy.session
  obtain ⟨writer, put, joins⟩ := goes_joining collects healthy
  have early : w.worker.phase.rank ≤ 4 := by
    rw [healthy.serving]
    decide
  -- The queue holds events, and then what ends the thread.
  have items : writer.items = w.worker.writer.items.reduceOption.map some ++ [none] := by
    have unasked := collects.asked
    rw [if_pos early, Nat.le_zero] at unasked
    rw [← eq_map_reduceOption unasked]
    rw [Channel.finish] at put
    split at put
    next => cases put
    next =>
      cases put
      rfl
  have writing : writer.thread ≠ .ended ∧ writer.failed = false := by
    rw [Channel.finish] at put
    split at put
    next => cases put
    next =>
      cases put
      refine ⟨fun ended => ?_, healthy.unfailed⟩
      rcases collects.ended ended with failed | late
      · rw [healthy.unfailed] at failed
        cases failed
      · exact absurd early (Nat.not_le.mpr late)
  obtain ⟨drained, leads, ended, empty, failed⟩ :=
    Channel.leads_ended (f := setting.reader.format) writing.1 items
  have drains := Goes.thread (w := { w with
    stop := true
    inputs := none
    worker := { w.worker with phase := .joining none, writer } }) (fun gone => by cases gone) leads
  have exits : Goes setting _ _ := goes_gone (w := { w with
    stop := true
    inputs := none
    worker := { w.worker with phase := .joining none, writer := drained } }) rfl ended
    (failed.trans writing.2)
  have goes := joins.trans (drains.trans exits)
  obtain ⟨others, goesOn⟩ := reached.trans goes
  have collects := (invariant_run goesOn).collects
  have faithful : ∀ event ∈ w.worker.collector.events, setting.reader.format.Faithful event :=
    fun event listed =>
      reads.faithful (collects.valid event listed).1 (collects.valid event listed).2.1
  -- The thread has ended without a failure, so the file is the log of what it took: of everything.
  have file : drained.file = some (setting.reader.format.log w.worker.collector.events) := by
    have sound := collects.sound
    have all := collects.submitted
    rw [Channel.submitted, empty, List.reduceOption_nil, List.append_nil] at all
    rw [Channel.Sound, ended] at sound
    rw [← all]
    exact sound.2 (failed.trans writing.2)
  obtain ⟨after, transcript, returns, isPhase, complete, isEvents⟩ := goes_returned collects serving
    healthy.complete healthy.kept rfl faithful file rfl rfl
    (by simp [Worker.report, healthy.observed]) rfl fingerprint
  exact ⟨after, transcript, goes.trans returns, isPhase, complete, isEvents⟩

/-! ## What is never taken back -/

/-- What was observed is not complete, and no report says that it is. -/
structure Lost (w : World) : Prop where
  early : w.worker.phase.rank ≤ 6 →
    w.worker.collector.complete = false ∨ w.worker.writer.failed = true
  recorded : w.worker.phase.rank = 7 → w.worker.collector.complete = false
  publishing : ∀ report, w.worker.phase = .publishing report → report.complete = false
  status : ∀ report, w.status = some (.ended report) → report.complete = false

/-- A worker that has not recorded the failures of its writer. -/
theorem lost_early {worker : Worker} {status : Option Status} (early : worker.phase.rank ≤ 6)
    (lacks : worker.collector.complete = false ∨ worker.writer.failed = true)
    (incomplete : ∀ report, status = some (.ended report) → report.complete = false) :
    Lost { w with worker, status } where
  early _ := lacks
  recorded late := absurd (late ▸ early) (by decide)
  publishing report isPhase := by
    have isPhase : worker.phase = .publishing report := isPhase
    rw [isPhase] at early
    simp [WorkerPhase.rank] at early
  status := incomplete

/-- A worker that has written its last status, or has been killed. -/
theorem lost_late {worker : Worker} {status : Option Status} (late : 9 ≤ worker.phase.rank)
    (incomplete : ∀ report, status = some (.ended report) → report.complete = false) :
    Lost { w with worker, status } where
  early early := absurd (late.trans early) (by decide)
  recorded isLate := absurd (isLate ▸ late) (by decide)
  publishing report isPhase := by
    have isPhase : worker.phase = .publishing report := isPhase
    rw [isPhase] at late
    simp [WorkerPhase.rank] at late
  status := incomplete

theorem Lost.advance (lost : Lost w) {event : WorkerEvent} {phase : WorkerPhase}
    (advances : Advances w event w.worker.phase phase) :
    Lost ((w.effect event).inPhase phase) := by
  generalize isPhase : w.worker.phase = before at advances
  have early : before.rank ≤ 6 →
      w.worker.collector.complete = false ∨ w.worker.writer.failed = true := isPhase ▸ lost.early
  cases advances with
  | starts stage next => exact lost_early (Nat.zero_le 6) (early (Nat.zero_le 6)) lost.status
  | fails failure early' still =>
    rw [still]
    exact lost_early (Nat.le_of_ble_eq_true rfl) (early (early'.trans (by decide))) lost.status
  | announces readiness =>
    exact lost_early (Nat.le_of_ble_eq_true rfl) (early (Nat.zero_le 6))
      fun report ended => by cases ended
  | seesStop stop => exact lost_early (Nat.le_of_ble_eq_true rfl) (early (by decide)) lost.status
  | exits => exact lost_early (Nat.le_of_ble_eq_true rfl) (early (by decide)) lost.status
  | validates valid => exact lost_early (Nat.le_of_ble_eq_true rfl) (early (by decide)) lost.status
  | puts failure =>
    refine lost_early (Nat.le_of_ble_eq_true rfl)
      ((early (Nat.le_of_ble_eq_true rfl)).imp_right fun failed => ?_) lost.status
    show ((w.worker.writer.finish queueSize).getD _).failed = true
    rw [Channel.finish]
    split
    next => rfl
    next => exact failed
  | joins ended failure =>
    have before := early (Nat.le_of_ble_eq_true rfl)
    cases ended with
    | false => exact lost_early le_rfl (before.imp_right fun _ => rfl) lost.status
    | true => exact lost_early le_rfl before lost.status
  | records failure =>
    have before := early le_rfl
    have recorded {worker : Worker} (reporting : worker.phase = .reporting failure)
        (lacks : worker.collector.complete = false) : Lost { w with worker } :=
      { early := fun early => absurd early (by simp [reporting, WorkerPhase.rank])
        recorded := fun _ => lacks
        publishing := fun report isPhase => by cases reporting.symm.trans isPhase
        status := lost.status }
    rw [World.effect]
    split
    next => exact recorded rfl rfl
    next unfailed => exact recorded rfl (before.resolve_right unfailed)
  | snapshots failure =>
    have unobserved : w.worker.collector.complete = false :=
      lost.recorded (congrArg WorkerPhase.rank isPhase)
    refine
      { early := fun early => absurd early (by simp [World.inPhase, WorkerPhase.rank])
        recorded := fun late => absurd late (by simp [World.inPhase, WorkerPhase.rank])
        publishing := fun report isReport => ?_
        status := lost.status }
    cases isReport
    exact Bool.and_eq_false_imp.mpr fun observed => absurd observed (by simp [unobserved])
  | publishes written report =>
    cases written with
    | false => exact lost_late le_rfl lost.status
    | true =>
      rw [effect_publishes isPhase]
      refine lost_late le_rfl fun other isOther => ?_
      cases isOther
      exact lost.publishing report isPhase
  | leaves => exact lost_late (Nat.le_of_ble_eq_true rfl) lost.status

theorem Lost.step (invariant : Invariant setting w) (lost : Lost w) {event : Event}
    (steps : w.step setting event = some after) : Lost after := by
  cases event with
  | worker event =>
    obtain ⟨phase, leads, rfl⟩ := Option.map_eq_some_iff.mp steps
    exact lost.advance (advances_of leads)
  | thread event =>
    rw [World.step] at steps
    split at steps
    next => cases steps
    next =>
      obtain ⟨writer, writes, rfl⟩ := Option.map_eq_some_iff.mp steps
      exact { lost with
        early := fun early => (lost.early early).imp_right (Channel.failed_step writes) }
  | emits kind context target =>
    rw [World.step] at steps
    split at steps
    next => cases steps
    next =>
      cases emitted : w.worker.emit kind context target with
      | error raised =>
        rw [emitted] at steps
        cases steps
        exact lost
      | ok worker =>
        rw [emitted] at steps
        cases steps
        rcases invariant.collects.emit_cases emitted with rfl | ⟨-, -, writer, put, rfl⟩
        · exact { lost with
            early := fun _ => .inl rfl
            recorded := fun _ => rfl }
        · refine { lost with early := fun early => (lost.early early).imp_right fun failed => ?_ }
          rw [Channel.submit] at put
          split at put
          next => cases put
          next =>
            cases put
            exact failed
  | fails reason =>
    rw [World.step] at steps
    split at steps
    next => cases steps
    next =>
      cases steps
      exact { lost with
        early := fun _ => .inl rfl
        recorded := fun _ => rfl }
  | killed =>
    cases steps
    exact lost_late (Nat.le_of_ble_eq_true rfl) lost.status
  | inputsChange inputs =>
    cases steps
    exact ⟨lost.early, lost.recorded, lost.publishing, lost.status⟩
  | session event =>
    obtain ⟨session, -, rfl⟩ := Option.map_eq_some_iff.mp steps
    obtain ⟨stop, removed, touched, -⟩ := touch_eq w session event
    rw [touched]
    exact ⟨lost.early, lost.recorded, lost.publishing, lost.status⟩

/-- The session is not complete, nor is what it has returned. -/
structure Doubted (session : Session) : Prop where
  incomplete : session.complete = false
  returned : ∀ transcript, session.phase = .returned (.ok transcript) → transcript.complete = false

theorem Doubted.fail {session : Session} (doubted : Doubted session)
    (reason : RuntimeCapabilityReasonCode) : Doubted (session.fail reason) :=
  ⟨rfl, doubted.returned⟩

theorem incomplete_readEvents {session : Session} (incomplete : session.complete = false)
    (reader : EventReader) (file : Option Python.Str) :
    (session.readEvents reader file).2.complete = false := by
  cases file with
  | none => rfl
  | some text =>
    rw [Session.readEvents]
    dsimp only
    split
    next => exact incomplete
    next => rfl

theorem complete_of_sealTranscript {fingerprint : TranscriptPayload → Sha256Digest}
    {payload : TranscriptPayload} {transcript : RuntimeObservationTranscript}
    (isSealed : sealTranscript fingerprint payload = .ok transcript) :
    transcript.complete = payload.complete := by
  rw [sealTranscript] at isSealed
  split at isSealed
  next =>
    split at isSealed
    next =>
      split at isSealed
      next =>
        cases isSealed
        rfl
      next => cases isSealed
    next => cases isSealed
  next => cases isSealed

/-- What a session does not know to be complete it never does. -/
theorem Doubted.step (doubted : Doubted w.session) {event : SessionEvent} {session : Session}
    (answered : Answered setting w event session) : Doubted session := by
  cases answered with
  | @polls status isFound =>
    refine ⟨doubted.incomplete, fun transcript returned => ?_⟩
    cases status <;> cases returned
  | givesUp reason => exact ⟨doubted.incomplete, nofun⟩
  | requests => exact ⟨doubted.incomplete, doubted.returned⟩
  | crashed => exact doubted.fail _
  | requestFails => exact ⟨rfl, doubted.returned⟩
  | asksStop => exact doubted
  | closes => exact ⟨doubted.incomplete, nofun⟩
  | leaves => exact ⟨rfl, nofun⟩
  | collects => exact ⟨incomplete_readEvents doubted.incomplete _ _, nofun⟩
  | @returns fingerprint removed events isPhase =>
    have incomplete : (w.session.readStatus w.found events.length).complete = false := by
      refine Bool.eq_false_iff.mpr fun complete => ?_
      have before := (complete_readStatus complete).1
      rw [doubted.incomplete] at before
      cases before
    refine ⟨incomplete, fun transcript returned => ?_⟩
    exact (complete_of_sealTranscript (SessionPhase.returned.inj returned)).trans incomplete

/-- Only the parent changes the session and the directory. -/
theorem step_worker {event : Event} (steps : w.step setting event = some after)
    (beside : ∀ event', event ≠ .session event') :
    after.session = w.session ∧ after.removed = w.removed := by
  cases event with
  | worker event =>
    obtain ⟨phase, leads, rfl⟩ := Option.map_eq_some_iff.mp steps
    rw [World.effect.eq_def]
    split
    next => exact ⟨rfl, rfl⟩
    next => exact ⟨rfl, rfl⟩
    next => exact ⟨rfl, rfl⟩
    next => split <;> exact ⟨rfl, rfl⟩
    next => exact ⟨rfl, rfl⟩
    next => exact ⟨rfl, rfl⟩
    next => exact ⟨rfl, rfl⟩
  | session event => exact absurd rfl (beside event)
  | thread event =>
    rw [World.step] at steps
    split at steps
    next => cases steps
    next =>
      obtain ⟨writer, -, rfl⟩ := Option.map_eq_some_iff.mp steps
      exact ⟨rfl, rfl⟩
  | emits kind context target =>
    rw [World.step] at steps
    split at steps
    next => cases steps
    next =>
      split at steps
      next =>
        cases steps
        exact ⟨rfl, rfl⟩
      next =>
        cases steps
        exact ⟨rfl, rfl⟩
  | fails reason =>
    rw [World.step] at steps
    split at steps
    next => cases steps
    next =>
      cases steps
      exact ⟨rfl, rfl⟩
  | killed =>
    cases steps
    exact ⟨rfl, rfl⟩
  | inputsChange inputs =>
    cases steps
    exact ⟨rfl, rfl⟩

theorem Doubted.world (doubted : Doubted w.session) {event : Event}
    (steps : w.step setting event = some after) : Doubted after.session := by
  cases event with
  | session event =>
    obtain ⟨session, answered, rfl⟩ := Option.map_eq_some_iff.mp steps
    obtain ⟨stop, removed, touched, -⟩ := touch_eq w session event
    rw [touched]
    exact doubted.step (answered_of answered)
  | _ =>
    rw [(step_worker steps fun _ isSession => by cases isSession).1]
    exact doubted

/-- The directory of a session that is open is there. -/
def Kept (w : World) : Prop :=
  w.session.phase = .starting ∨ (∃ readiness, w.session.phase = .serving readiness) →
    w.removed = false

theorem Kept.step (kept : Kept w) {event : Event} (steps : w.step setting event = some after) :
    Kept after := by
  cases event with
  | session event =>
    obtain ⟨session, answered, rfl⟩ := Option.map_eq_some_iff.mp steps
    cases answered_of answered with
    | polls isFound =>
      rw [World.found] at isFound
      split at isFound
      next => cases isFound
      next here => exact fun _ => Bool.eq_false_of_not_eq_true here
    | requests => exact kept
    | crashed => exact kept
    | requestFails => exact kept
    | asksStop => exact kept
    | _ =>
      rintro (starting | ⟨readiness, serving⟩)
      · obtain ⟨stop, removed, touched, -⟩ := touch_eq w _ _
        rw [touched] at starting
        cases starting
      · obtain ⟨stop, removed, touched, -⟩ := touch_eq w _ _
        rw [touched] at serving
        cases serving
  | _ =>
    obtain ⟨session, removed⟩ := step_worker steps fun _ isSession => by cases isSession
    intro phase
    rw [session] at phase
    exact removed.trans (kept phase)

theorem kept_run {events : List Event} (runs : World.run setting {} events = some w) : Kept w :=
  run_keeps Kept (fun before steps => before.step steps) (fun _ => rfl) runs

/-! ## A session with one request -/

def sampleContext : RuntimeRequestContext where
  sessionId := "sgrun_00000000000000000000000000000001"
  requestId := "sgreq_00000000000000000000000000000002"
  ingress :=
    { ingressNodeId := "sgnode_00000000000000000000000000000003"
      routeRegistrationId := "sgroute_00000000000000000000000000000004"
      method := "POST"
      effectivePath := "/webhook"
      checkoutRequestBinding := none }

noncomputable def sampleSetting : Setting where
  sessionId := sampleContext.sessionId
  reader := exactReader ⟨fun _ => "0.5", fun _ => none⟩
  fingerprint _ := "sha256:transcript"

/-- The worker starts, and its application receives a request. -/
def sampleEvents : List Event :=
  List.replicate 7 (.worker (.proceeds none)) ++
    [.worker (.announces ⟨8000, [], [], []⟩), .session .polls, .thread .opens, .session .requests,
      .emits .requestReceived sampleContext {}]

theorem sample_reads : sampleSetting.reader.Reads := exactReader_reads _

theorem sample_healthy : ∃ w, World.run sampleSetting {} sampleEvents = some w ∧ Healthy w ∧
    w.worker.collector.events.length = 1 := by
  refine ⟨_, rfl, ?_, rfl⟩
  exact
    { session := ⟨_, rfl⟩
      complete := rfl
      kept := rfl
      serving := rfl
      observed := rfl
      unfailed := rfl }

/-! ## When a session can complete -/

theorem Lost.run {events : List Event} (invariant : Invariant setting w) (lost : Lost w)
    (runs : w.run setting events = some after) : Lost after := by
  have both := run_keeps (fun w => Invariant setting w ∧ Lost w)
    (fun before steps => ⟨before.1.step steps, before.2.step before.1 steps⟩)
    ⟨invariant, lost⟩ runs
  exact both.2

theorem Doubted.run {events : List Event} (doubted : Doubted w.session)
    (runs : w.run setting events = some after) : Doubted after.session :=
  run_keeps (fun w => Doubted w.session) (fun before steps => before.world steps) doubted runs

/-- Nothing has been reported while the worker serves. -/
theorem lost_of_serving (invariant : Invariant setting w) (serving : w.worker.phase = .serving)
    (doubtful : w.worker.collector.complete = true → ¬ w.worker.writer.failed = false) :
    Lost w where
  early _ := by
    cases observed : w.worker.collector.complete with
    | false => exact .inl rfl
    | true => exact .inr (Bool.eq_true_of_not_eq_false (doubtful observed))
  recorded late := by
    rw [serving] at late
    cases late
  publishing report publishing := by
    rw [serving] at publishing
    cases publishing
  status report ended := by
    have early : w.worker.phase.rank ≤ 8 := by
      rw [serving]
      decide
    exact absurd ended (invariant.reports.unpublished early report)

/-- The parent doubts nothing, the collector has dropped nothing, and the writer has not failed. -/
def World.Undoubted (w : World) : Prop :=
  w.session.complete = true ∧ w.worker.collector.complete = true ∧
    w.worker.writer.failed = false

/-- A session that is open, and whose worker serves, can be closed with a complete transcript that
has every event observed so far if the parent doubts nothing, the collector has dropped nothing, and
the writer has not failed.  Otherwise no transcript that it returns is complete. -/
theorem session_completes_iff (reads : setting.reader.Reads) {events : List Event}
    (runs : World.run setting {} events = some w) {readiness : Readiness}
    (isOpen : w.session.phase = .serving readiness) (serving : w.worker.phase = .serving)
    (fingerprint : Sha256Digest) :
    (w.Undoubted → ∃ after transcript, Goes setting w after ∧
      after.session.phase = .returned (.ok transcript) ∧ transcript.complete = true ∧
      transcript.events = w.worker.collector.events) ∧
    (¬ w.Undoubted → ∀ after transcript, Goes setting w after →
      after.session.phase = .returned (.ok transcript) → transcript.complete = false) := by
  constructor
  · rintro ⟨complete, observed, unfailed⟩
    have healthy : Healthy w :=
      { session := ⟨readiness, isOpen⟩
        complete
        kept := kept_run runs (.inr ⟨readiness, isOpen⟩)
        serving
        observed
        unfailed }
    exact healthy.completes reads runs fingerprint
  · rintro doubtful after transcript ⟨others, goesOn⟩ returned
    by_cases session : w.session.complete = true
    · have lost := lost_of_serving (invariant_run runs) serving fun observed unfailed =>
        doubtful ⟨session, observed, unfailed⟩
      have whole : World.run setting {} (events ++ others) = some after := by
        rw [World.run, List.foldlM_append]
        exact Option.bind_eq_some_iff.mpr ⟨w, runs, goesOn⟩
      obtain ⟨other, isOther, agrees⟩ := (answers_run reads whole).returned _ returned
      cases isOther
      refine Bool.eq_false_iff.mpr fun complete => ?_
      obtain ⟨-, -, report, ended, -, reported⟩ := agrees.complete complete
      rw [(lost.run (invariant_run runs) goesOn).status report ended] at reported
      cases reported
    · have doubted : Doubted w.session :=
        ⟨Bool.eq_false_of_not_eq_true session, fun transcript returned => by
          rw [isOpen] at returned
          cases returned⟩
      exact (doubted.run goesOn).returned transcript returned

/-- A session whose worker has observed one request. -/
theorem session_completes_iff_sample : ∃ after transcript,
    Goes sampleSetting {} after ∧ after.session.phase = .returned (.ok transcript) ∧
      transcript.complete = true ∧ transcript.events.length = 1 := by
  obtain ⟨w, runs, healthy, one⟩ := sample_healthy
  obtain ⟨readiness, isOpen⟩ := healthy.session
  obtain ⟨after, transcript, goes, returned, complete, isEvents⟩ :=
    (session_completes_iff sample_reads runs isOpen healthy.serving "sha256:capability").1
      ⟨healthy.complete, healthy.observed, healthy.unfailed⟩
  exact ⟨after, transcript, Goes.trans ⟨sampleEvents, runs⟩ goes, returned, complete,
    isEvents ▸ one⟩

end Managed

end StateGuard
