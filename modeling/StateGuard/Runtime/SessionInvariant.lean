import StateGuard.Runtime.ManagedSession
import StateGuard.Runtime.TraceCounts

/-!
# What every session keeps

What holds in every state that a managed session can reach, in three parts.

* `Collects`: the writer is given exactly the events that the collector has, and there is always
  room in its queue.
* `Reports`: a report of the worker is of a snapshot of the collector.  One that says `CLOSED` comes
  from a worker that has found the stop file.
* `Answers`: what `close` has read are first events of the collector, and a transcript agrees with
  what the worker has reported.

`Advances` says once what the main thread of the worker can do; the three parts are kept by each of
its rows, and by the steps beside it.
-/

namespace StateGuard

namespace Managed

open Checks KeyOrder RecordLog

variable {setting : Setting}

/-! ## What the worker has collected -/

/-- How far the main thread has come. -/
def WorkerPhase.rank : WorkerPhase → Nat
  | .starting _ => 0
  | .serving => 1
  | .stopping => 2
  | .revalidating => 3
  | .closing _ => 4
  | .joining _ => 5
  | .closed _ => 6
  | .reporting _ => 7
  | .publishing _ => 8
  | .finished => 9
  | .gone => 10

/-- The writer is given exactly the events of the collector, and its thread is asked to end once,
after the server has exited. -/
structure Collects (setting : Setting) (worker : Worker) : Prop where
  sound : worker.writer.Sound setting.reader.format
  submitted : worker.writer.submitted = worker.collector.events
  bounded : worker.collector.events.length ≤ 10000
  contiguous : worker.collector.events.map (·.sequence) =
    List.range' 1 worker.collector.events.length
  valid : ∀ event ∈ worker.collector.events, event.validateTarget = .ok () ∧ event.Identified ∧
    event.sessionId = setting.sessionId
  consistent : worker.collector.complete = true → worker.collector.diagnostics = []
  asked : worker.writer.items.count none ≤ if worker.phase.rank ≤ 4 then 0 else 1
  ended : worker.writer.thread = .ended → worker.writer.failed = true ∨ 4 < worker.phase.rank

section Queue

variable {worker after : Worker}

/-- The queue holds events of the collector, and what ends the thread. -/
theorem Collects.length_items (collects : Collects setting worker) :
    worker.writer.items.length ≤
      worker.collector.events.length + if worker.phase.rank ≤ 4 then 0 else 1 := by
  have split := List.length_eq_reduceOption_length_add_filter_none (l := worker.writer.items)
  have nones : (worker.writer.items.filter Option.isNone).length =
      worker.writer.items.count none := by
    rw [List.count, List.countP_eq_length_filter]
    congr 1
    refine List.filter_congr fun item _ => ?_
    cases item <;> rfl
  have events := congrArg List.length collects.submitted
  rw [Channel.submitted, List.length_append] at events
  have asked := collects.asked
  omega

/-- There is room in the queue for every event that the collector takes. -/
theorem Collects.room (collects : Collects setting worker)
    (more : worker.collector.events.length < 10000) (event : RuntimeObservationEvent) :
    (worker.writer.submit queueSize event).isSome := by
  have length := collects.length_items
  rw [Channel.submit, if_neg]
  · rfl
  · rw [queueSize]
    split at length <;> omega

/-- There is room in the queue for what ends the thread. -/
theorem Collects.room_finish (collects : Collects setting worker)
    (early : worker.phase.rank ≤ 4) : (worker.writer.finish queueSize).isSome := by
  have length := collects.length_items
  have bounded := collects.bounded
  rw [if_pos early] at length
  rw [Channel.finish, if_neg]
  · rfl
  · rw [queueSize]
    omega

variable {kind : RuntimeObservationKind} {context : RuntimeRequestContext}
  {target : ObservedTarget}

/-- An observation is dropped, or it is appended and put in the queue. -/
theorem Collects.emit_cases (collects : Collects setting worker)
    (emitted : worker.emit kind context target = .ok after) :
    after = { worker with collector :=
        { worker.collector.fail .observationChannelFailed with dropped := true } } ∨
      worker.collector.events.length < 10000 ∧
        (worker.collector.observation kind context target).validateTarget = .ok () ∧
        ∃ writer, worker.writer.submit queueSize
            (worker.collector.observation kind context target) = some writer ∧
          after = { worker with
            collector := { worker.collector with events := worker.collector.events ++
              [worker.collector.observation kind context target] }
            writer } := by
  obtain ⟨collector, observed, rfl⟩ := (map_eq_ok _ _ _).mp emitted
  rw [ObservationCollector.emit] at observed
  split at observed
  next full =>
    cases observed
    left
    simp [ObservationCollector.fail]
  next more =>
    have more : worker.collector.events.length < 10000 := Nat.lt_of_not_le more
    obtain ⟨⟨⟩, valid, recorded⟩ := (bind_eq_ok _ _ _).mp observed
    obtain ⟨writer, put⟩ := Option.isSome_iff_exists.mp (collects.room more
      (worker.collector.observation kind context target))
    have unraised : (collectorConfig worker.writer).sinkRaises
        (worker.collector.observation kind context target) = false := by
      change (worker.writer.submit queueSize _).isNone = false
      rw [put]
      rfl
    rw [unraised] at recorded
    cases recorded
    refine .inr ⟨more, valid, writer, put, ?_⟩
    simp [put]

theorem Collects.emit (collects : Collects setting worker)
    (session : context.sessionId = setting.sessionId)
    (identified : (worker.collector.observation kind context target).Identified)
    (emitted : worker.emit kind context target = .ok after) : Collects setting after := by
  rcases collects.emit_cases emitted with rfl | ⟨more, valid, writer, put, rfl⟩
  · exact { collects with consistent := fun complete => by cases complete }
  · refine
      { collects with
        sound := collects.sound.submit put
        submitted := ?submitted
        bounded := ?bounded
        contiguous := ?contiguous
        valid := ?valid
        asked := ?asked
        ended := ?ended }
    case submitted => rw [Channel.submitted_submit put, collects.submitted]
    case bounded =>
      rw [List.length_append, List.length_singleton]
      exact more
    case contiguous =>
      simp [collects.contiguous, List.range'_concat, ObservationCollector.observation, Nat.add_comm]
    case valid =>
      rw [List.forall_mem_append, List.forall_mem_singleton]
      exact ⟨collects.valid, valid, identified, session⟩
    case asked =>
      rw [Channel.submit] at put
      split at put
      next => cases put
      next =>
        cases put
        rw [List.count_append, List.count_singleton]
        simpa using collects.asked
    case ended =>
      rw [Channel.submit] at put
      split at put
      next => cases put
      next =>
        cases put
        exact collects.ended

theorem Collects.fail (collects : Collects setting worker) (reason : RuntimeCapabilityReasonCode) :
    Collects setting { worker with collector := worker.collector.fail reason } :=
  { collects with consistent := fun complete => by cases complete }

/-- The thread does not put anything in the queue, and ends when it has failed or is asked to. -/
theorem Collects.thread (collects : Collects setting worker) {event : ThreadEvent}
    {writer : Writer} (steps : worker.writer.step setting.reader.format event = some writer) :
    Collects setting { worker with writer } := by
  refine
    { collects with
      sound := collects.sound.step steps
      submitted := (Channel.submitted_step steps).trans collects.submitted
      asked := ((Channel.items_step steps).sublist.count_le none).trans collects.asked
      ended := fun ended => ?ended }
  rcases Channel.ended_step steps ended with failed | asked
  · exact .inl failed
  · refine .inr (Nat.lt_of_not_le fun early => ?_)
    have unasked := collects.asked
    rw [if_pos early, Nat.le_zero, List.count_eq_zero] at unasked
    exact unasked asked

theorem Collects.phase (collects : Collects setting worker) {phase : WorkerPhase}
    (later : worker.phase.rank ≤ phase.rank) : Collects setting { worker with phase } := by
  refine
    { collects with
      asked := ?asked
      ended := fun ended => (collects.ended ended).imp_right fun late => late.trans_le later }
  refine collects.asked.trans ?_
  show (if worker.phase.rank ≤ 4 then 0 else 1) ≤ if phase.rank ≤ 4 then 0 else 1
  split_ifs <;> omega

/-- The thread is asked to end. -/
theorem Collects.finish (collects : Collects setting worker) (early : worker.phase.rank ≤ 4)
    {phase : WorkerPhase} (later : 4 < phase.rank) {writer : Writer}
    (put : worker.writer.finish queueSize = some writer) :
    Collects setting { worker with writer, phase } := by
  refine
    { collects with
      sound := collects.sound.finish put
      submitted := (Channel.submitted_finish put).trans collects.submitted
      asked := ?asked
      ended := fun _ => .inr later }
  rw [Channel.finish] at put
  split at put
  next => cases put
  next =>
    cases put
    have asked := collects.asked
    rw [if_pos early] at asked
    show List.count none (worker.writer.items ++ [none]) ≤ if phase.rank ≤ 4 then 0 else 1
    rw [List.count_append, List.count_singleton, if_neg (Nat.not_le.mpr later)]
    simpa using asked

end Queue

/-! ## The main thread goes on -/

/-- The steps of the main thread, by the phases that they lead between. -/
inductive Advances (w : World) : WorkerEvent → WorkerPhase → WorkerPhase → Prop
  | starts (stage next : Startup) :
    Advances w (.proceeds none) (.starting stage) (.starting next)
  | fails {event : WorkerEvent} {before : WorkerPhase} (failure : WorkerFailure)
    (early : before.rank ≤ 3) (still : w.effect event = w) :
    Advances w event before (.closing (some failure))
  | announces (readiness : Readiness) :
    Advances w (.announces readiness) (.starting .listening) .serving
  | seesStop (stop : w.stop = true) : Advances w .seesStop .serving .stopping
  | exits : Advances w (.exits none) .stopping .revalidating
  | validates (valid : w.inputs = none) : Advances w .validates .revalidating (.closing none)
  | puts (failure : Option WorkerFailure) : Advances w .puts (.closing failure) (.joining failure)
  | joins (ended : Bool) (failure : Option WorkerFailure) :
    Advances w (.joins ended) (.joining failure) (.closed failure)
  | records (failure : Option WorkerFailure) :
    Advances w .records (.closed failure) (.reporting failure)
  | snapshots (failure : Option WorkerFailure) :
    Advances w .snapshots (.reporting failure) (.publishing (w.worker.report failure))
  | publishes (written : Bool) (report : Report) :
    Advances w (.publishes written) (.publishing report) .finished
  | leaves : Advances w .leaves .finished .gone

section Advance

variable {w : World} {event : WorkerEvent} {phase : WorkerPhase}

theorem advances_of (advances : w.advance event = some phase) :
    Advances w event w.worker.phase phase := by
  rw [World.advance.eq_def] at advances
  split at advances
  next stage starting =>
    obtain ⟨next, -, rfl⟩ := Option.map_eq_some_iff.mp advances
    rw [starting]
    split
    next =>
      rw [World.validated]
      split
      next => exact .starts stage next
      next failure _ => exact .fails failure (Nat.zero_le 3) rfl
    next => exact .starts stage next
  next name stage starting =>
    rw [starting]
    split at advances
    next => cases advances
    next =>
      cases advances
      exact .fails (.other name) (Nat.zero_le 3) rfl
  next readiness starting =>
    cases advances
    rw [starting]
    exact .announces readiness
  next serving =>
    rw [serving]
    split at advances
    next stop =>
      cases advances
      exact .seesStop stop
    next => cases advances
  next raised serving =>
    rw [serving]
    split at advances
    next => cases advances
    next =>
      cases advances
      exact .fails _ (by decide) rfl
  next stopping =>
    cases advances
    rw [stopping]
    exact .exits
  next name stopping =>
    cases advances
    rw [stopping]
    exact .fails (.other name) (by decide) rfl
  next revalidating =>
    cases advances
    rw [revalidating, World.validated]
    split
    next valid => exact .validates valid
    next failure _ => exact .fails failure (by decide) rfl
  next failure closing =>
    cases advances
    rw [closing]
    exact .puts failure
  next ended failure joining =>
    rw [joining]
    split at advances
    next => cases advances
    next =>
      cases advances
      exact .joins ended failure
  next failure closed =>
    cases advances
    rw [closed]
    exact .records failure
  next failure reporting =>
    cases advances
    rw [reporting]
    exact .snapshots failure
  next written report publishing =>
    cases advances
    rw [publishing]
    exact .publishes written report
  next finished =>
    rw [finished]
    split at advances
    next =>
      cases advances
      exact .leaves
    next => cases advances
  next => cases advances

/-- The main thread does not go back. -/
theorem Advances.rank_le {before after : WorkerPhase} (advances : Advances w event before after) :
    before.rank ≤ after.rank := by
  cases advances with
  | starts => exact Nat.zero_le _
  | announces => exact Nat.zero_le _
  | fails failure early still => exact early.trans (Nat.le_succ 3)
  | _ => exact Nat.le_succ _

theorem effect_publishes {report : Report} (publishing : w.worker.phase = .publishing report) :
    w.effect (.publishes true) = { w with status := some (.ended report) } := by
  rw [World.effect.eq_def, publishing]

theorem Collects.fail_writer {worker : Worker} (collects : Collects setting worker) :
    Collects setting { worker with writer := { worker.writer with failed := true } } :=
  { collects with
    sound := collects.sound.fail
    ended := fun _ => .inl rfl }

theorem Collects.advance (collects : Collects setting w.worker)
    (advances : Advances w event w.worker.phase phase) :
    Collects setting ((w.effect event).inPhase phase).worker := by
  have later := advances.rank_le
  generalize isPhase : w.worker.phase = before at advances
  cases advances with
  | fails failure early still =>
    rw [still]
    exact collects.phase later
  | puts failure =>
    have early : w.worker.phase.rank ≤ 4 := by
      rw [isPhase]
      exact le_rfl
    obtain ⟨writer, put⟩ := Option.isSome_iff_exists.mp (collects.room_finish early)
    have effect : w.effect .puts = w.withWriter writer := by
      rw [World.effect, put]
      rfl
    have later : 4 < (WorkerPhase.joining failure).rank := Nat.lt_succ_self 4
    rw [effect]
    exact collects.finish early later put
  | joins ended failure =>
    cases ended with
    | false => exact collects.fail_writer.phase later
    | true => exact collects.phase later
  | records failure =>
    rw [World.effect]
    split
    next => exact (collects.fail .observationChannelFailed).phase later
    next => exact collects.phase later
  | snapshots failure => exact { collects.phase later with }
  | publishes written report =>
    cases written with
    | false => exact collects.phase later
    | true =>
      rw [effect_publishes isPhase]
      exact collects.phase later
  | _ => exact collects.phase later

end Advance

/-! ## What the worker reports -/

/-- The server has exited, the inputs have been valid since, and nothing has failed. -/
def WorkerPhase.Passed : WorkerPhase → Prop
  | .closing failure | .joining failure | .closed failure | .reporting failure => failure = none
  | .publishing report => report.closed = true
  | _ => False

theorem WorkerPhase.Passed.le_rank {phase : WorkerPhase} (passed : phase.Passed) :
    4 ≤ phase.rank := by
  cases phase with
  | closing | joining | closed | reporting | publishing => exact Nat.le_of_ble_eq_true rfl
  | _ => cases passed

/-- The worker has found the stop file, and nothing has failed. -/
def WorkerPhase.Stopping : WorkerPhase → Prop
  | .stopping | .revalidating => True
  | phase => phase.Passed

/-- A report is of a snapshot of the collector, and says that the worker was asked to stop. -/
structure Accounts (w : World) (report : Report) : Prop where
  snapshot : ∃ events, w.worker.reported = some events ∧ report.eventCount = events.length ∧
    events <+: w.worker.collector.events
  stop : report.closed = true → w.stop = true
  complete : report.complete = true → report.closed = true ∧ report.diagnostics = []

/-- What the worker has reported, and when. -/
structure Reports (w : World) : Prop where
  stopping : w.worker.phase.Stopping → w.stop = true
  unreported : w.worker.phase.rank ≤ 7 → w.worker.reported = none
  unpublished : w.worker.phase.rank ≤ 8 → ∀ report, w.status ≠ some (.ended report)
  publishing : ∀ report, w.worker.phase = .publishing report → Accounts w report
  published : ∀ report, w.status = some (.ended report) → Accounts w report

section Reporting

variable {w after : World} {event : WorkerEvent} {phase : WorkerPhase}

/-- A report goes on accounting for what was reported. -/
theorem Accounts.keeps {report : Report} (accounts : Accounts w report)
    (reported : after.worker.reported = w.worker.reported)
    (grows : w.worker.collector.events <+: after.worker.collector.events)
    (stop : w.stop = true → after.stop = true) : Accounts after report where
  snapshot := by
    obtain ⟨events, isReported, count, first⟩ := accounts.snapshot
    exact ⟨events, reported.trans isReported, count, first.trans grows⟩
  stop closed := stop (accounts.stop closed)
  complete := accounts.complete

/-- A step that reports nothing. -/
theorem Reports.keeps (reports : Reports w) (phase : after.worker.phase = w.worker.phase)
    (status : after.status = w.status) (reported : after.worker.reported = w.worker.reported)
    (grows : w.worker.collector.events <+: after.worker.collector.events)
    (stop : w.stop = true → after.stop = true) : Reports after where
  stopping isStopping := stop (reports.stopping (phase ▸ isStopping))
  unreported early := reported.trans (reports.unreported (phase ▸ early))
  unpublished early := status ▸ reports.unpublished (phase ▸ early)
  publishing report isPhase :=
    (reports.publishing report (phase ▸ isPhase)).keeps reported grows stop
  published report isStatus :=
    (reports.published report (status ▸ isStatus)).keeps reported grows stop

/-- A step to a later phase that reports nothing. -/
theorem Reports.moves (reports : Reports w) (later : w.worker.phase.rank ≤ phase.rank)
    (status : after.status = w.status) (reported : after.worker.reported = w.worker.reported)
    (events : after.worker.collector.events = w.worker.collector.events)
    (stop : after.stop = w.stop) (stopping : phase.Stopping → w.stop = true)
    (unpublishing : (phase.rank == 8) = false) : Reports (after.inPhase phase) where
  stopping isStopping := stop.trans (stopping isStopping)
  unreported early := reported.trans (reports.unreported (later.trans early))
  unpublished early := status ▸ reports.unpublished (later.trans early)
  publishing report isPhase := by
    have isPhase : phase = .publishing report := isPhase
    subst isPhase
    cases unpublishing
  published report isStatus := (reports.published report (status ▸ isStatus)).keeps reported
    (events ▸ List.prefix_rfl) fun stopped => stop.trans stopped

/-- A snapshot of the collector is accounted for. -/
theorem accounts_report (collects : Collects setting w.worker) {failure : Option WorkerFailure}
    (stop : failure = none → w.stop = true) :
    Accounts
      { w with worker := { w.worker with
        phase
        reported := some w.worker.collector.events } } (w.worker.report failure) where
  snapshot := ⟨_, rfl, rfl, List.prefix_rfl⟩
  stop closed := stop (Option.isNone_iff_eq_none.mp closed)
  complete complete := by
    obtain ⟨observed, unfailed⟩ := Bool.and_eq_true_iff.mp complete
    refine ⟨unfailed, ?_⟩
    rw [Worker.report, collects.consistent observed]
    rfl

theorem Reports.advance (collects : Collects setting w.worker) (reports : Reports w)
    (advances : Advances w event w.worker.phase phase) :
    Reports ((w.effect event).inPhase phase) := by
  have later := advances.rank_le
  generalize isPhase : w.worker.phase = before at advances
  have stopped : before.Stopping → w.stop = true := isPhase ▸ reports.stopping
  cases advances with
  | starts stage next => exact reports.moves later rfl rfl rfl rfl nofun rfl
  | fails failure early still =>
    rw [still]
    exact reports.moves later rfl rfl rfl rfl nofun rfl
  | announces readiness =>
    have early : w.worker.phase.rank ≤ 7 := by
      rw [isPhase]
      exact Nat.zero_le 7
    exact
      { stopping := fun stopping => by cases stopping
        unreported := fun _ => reports.unreported early
        unpublished := fun _ report published => by cases published
        publishing := fun report publishing => by cases publishing
        published := fun report published => by cases published }
  | seesStop stop => exact reports.moves later rfl rfl rfl rfl (fun _ => stop) rfl
  | exits => exact reports.moves later rfl rfl rfl rfl stopped rfl
  | validates valid => exact reports.moves later rfl rfl rfl rfl (fun _ => stopped trivial) rfl
  | puts failure => exact reports.moves later rfl rfl rfl rfl stopped rfl
  | joins ended failure =>
    cases ended with
    | false => exact reports.moves later rfl rfl rfl rfl stopped rfl
    | true => exact reports.moves later rfl rfl rfl rfl stopped rfl
  | records failure =>
    rw [World.effect]
    split
    next => exact reports.moves later rfl rfl rfl rfl stopped rfl
    next => exact reports.moves later rfl rfl rfl rfl stopped rfl
  | snapshots failure =>
    have early : w.worker.phase.rank ≤ 8 := by
      rw [isPhase]
      exact Nat.le_succ 7
    have accounts : Accounts ((w.effect .snapshots).inPhase (.publishing (w.worker.report failure)))
        (w.worker.report failure) := accounts_report collects stopped
    exact
      { stopping := accounts.stop
        unreported := fun early => absurd early (Nat.not_succ_le_self 7)
        unpublished := fun _ => reports.unpublished early
        publishing := fun report publishing => by
          cases publishing
          exact accounts
        published := fun report published =>
          absurd published (reports.unpublished early report) }
  | publishes written report =>
    cases written with
    | false => exact reports.moves later rfl rfl rfl rfl nofun rfl
    | true =>
      have accounts := reports.publishing report isPhase
      rw [effect_publishes isPhase]
      exact
        { stopping := fun stopping => by cases stopping
          unreported := fun early => absurd early (show ¬ 9 ≤ 7 by decide)
          unpublished := fun early => absurd early (Nat.not_succ_le_self 8)
          publishing := fun report publishing => by cases publishing
          published := fun report published => by
            cases published
            exact accounts.keeps rfl List.prefix_rfl id }
  | leaves => exact reports.moves later rfl rfl rfl rfl nofun rfl

end Reporting

/-! ## What the parent makes of it -/

/-- A transcript holds first events of the collector.  A complete one holds those of the snapshot
that an orderly worker has reported. -/
structure Agrees (w : World) (transcript : RuntimeObservationTranscript) : Prop where
  first : transcript.events <+: w.worker.collector.events
  complete : transcript.complete = true → transcript.diagnostics = [] ∧
    w.worker.reported = some transcript.events ∧
    ∃ report, w.status = some (.ended report) ∧ report.closed = true ∧ report.complete = true

/-- What `close` has read and returned. -/
structure Answers (w : World) : Prop where
  consistent : w.session.complete = true → w.session.diagnostics = []
  collected : ∀ events, w.session.phase = .collected events →
    events <+: w.worker.collector.events
  returned : ∀ result, w.session.phase = .returned result →
    ∃ transcript, result = .ok transcript ∧ Agrees w transcript

section Answering

variable {w after : World}

theorem Agrees.keeps {transcript : RuntimeObservationTranscript} (agrees : Agrees w transcript)
    (grows : w.worker.collector.events <+: after.worker.collector.events)
    (reported : ∀ events, w.worker.reported = some events → after.worker.reported = some events)
    (ended : ∀ report, w.status = some (.ended report) → after.status = some (.ended report)) :
    Agrees after transcript where
  first := agrees.first.trans grows
  complete complete := by
    obtain ⟨undiagnosed, isReported, report, isStatus, orderly⟩ := agrees.complete complete
    exact ⟨undiagnosed, reported _ isReported, report, ended report isStatus, orderly⟩

theorem Answers.keeps (answers : Answers w) (session : after.session = w.session)
    (grows : w.worker.collector.events <+: after.worker.collector.events)
    (reported : ∀ events, w.worker.reported = some events → after.worker.reported = some events)
    (ended : ∀ report, w.status = some (.ended report) → after.status = some (.ended report)) :
    Answers after where
  consistent := session ▸ answers.consistent
  collected events isPhase := (answers.collected events (session ▸ isPhase)).trans grows
  returned result isPhase := by
    obtain ⟨transcript, isResult, agrees⟩ := answers.returned result (session ▸ isPhase)
    exact ⟨transcript, isResult, agrees.keeps grows reported ended⟩

/-- A session that is complete after the last status was read was so before, and the status is that
of an orderly worker with as many events. -/
theorem complete_readStatus {session : Session} {status : Option Status} {count : Nat}
    (complete : (session.readStatus status count).complete = true) :
    session.complete = true ∧ ∃ report, status = some (.ended report) ∧ report.closed = true ∧
      report.complete = true ∧ report.eventCount = count ∧
      (session.readStatus status count).diagnostics = session.diagnostics ∪ report.diagnostics := by
  cases status with
  | none => cases complete
  | some status =>
    cases status with
    | ready readiness => cases complete
    | ended report =>
      rw [Session.readStatus, Session.readReport] at complete ⊢
      by_cases counted : report.eventCount = count
      · simp only [counted, ne_eq, not_true, if_false] at complete ⊢
        by_cases orderly : report.closed = false ∨ report.complete = false
        · rw [if_pos orderly] at complete
          cases complete
        · rw [if_neg orderly] at complete ⊢
          obtain ⟨closed, whole⟩ := not_or.mp orderly
          exact ⟨complete, report, rfl, Bool.eq_true_of_not_eq_false closed,
            Bool.eq_true_of_not_eq_false whole, counted, rfl⟩
      · simp only [counted, ne_eq, not_false_eq_true, if_true] at complete
        cases complete

/-- First events of the collector can be sealed. -/
theorem Collects.sealed {worker : Worker} (collects : Collects setting worker)
    {payload : TranscriptPayload} (session : payload.sessionId = setting.sessionId)
    (first : payload.events <+: worker.collector.events) :
    ∃ transcript, sealTranscript setting.fingerprint payload = .ok transcript ∧
      transcript.events = payload.events ∧ transcript.complete = payload.complete ∧
      transcript.diagnostics = payload.diagnostics := by
  have valid : ∀ event ∈ payload.events, event.validateTarget = .ok () :=
    fun event listed => (collects.valid event (first.subset listed)).1
  have oneSession : ∀ event ∈ payload.events, event.sessionId = payload.sessionId :=
    fun event listed => session ▸ (collects.valid event (first.subset listed)).2.2
  have contiguous : payload.events.map (·.sequence) = List.range' 1 payload.events.length := by
    have sequences := List.prefix_iff_eq_take.mp (first.map (·.sequence))
    rw [collects.contiguous, List.length_map, List.take_range'_of_length_ge first.length_le]
      at sequences
    exact sequences
  rw [sealTranscript, dif_pos valid, dif_pos oneSession, dif_pos contiguous]
  exact ⟨_, rfl, rfl, rfl, rfl⟩

/-- What is read of the observations at any moment are first events of the collector. -/
theorem Collects.first_readBack {worker : Worker} (collects : Collects setting worker)
    (reads : setting.reader.Reads) {text : Python.Str} (isFile : worker.writer.file = some text) :
    (setting.reader.format.readBack text).1 <+: worker.collector.events := by
  rw [← collects.submitted]
  refine collects.sound.readBack (fun event listed => ?_) isFile
  rw [collects.submitted] at listed
  exact reads.faithful (collects.valid event listed).1 (collects.valid event listed).2.1

theorem consistent_readEvents {session : Session} {reader : EventReader} {file : Option Python.Str}
    (consistent : session.complete = true → session.diagnostics = [])
    (complete : (session.readEvents reader file).2.complete = true) :
    (session.readEvents reader file).2.diagnostics = [] := by
  cases file with
  | none => cases complete
  | some text =>
    rw [Session.readEvents] at complete ⊢
    dsimp only at complete ⊢
    split at complete
    next whole =>
      rw [if_pos whole]
      exact consistent complete
    next => cases complete

theorem observations_eq_some {text : Python.Str} (isFound : w.observations = some text) :
    w.worker.writer.file = some text := by
  rw [World.observations] at isFound
  split at isFound
  next => cases isFound
  next => exact isFound

theorem found_eq_some {status : Status} (isFound : w.found = some status) :
    w.status = some status := by
  rw [World.found] at isFound
  split at isFound
  next => cases isFound
  next => exact isFound

/-- The transcript that `close` makes agrees with what the worker has reported. -/
theorem Answers.closing (collects : Collects setting w.worker) (reports : Reports w)
    (answers : Answers w) {events : List RuntimeObservationEvent}
    (isPhase : w.session.phase = .collected events) (capabilityFingerprint : Sha256Digest) :
    Answers { w with session := w.closing setting capabilityFingerprint events } := by
  have first := answers.collected events isPhase
  have complete : (w.session.readStatus w.found events.length).complete = true →
      (w.session.readStatus w.found events.length).diagnostics = [] ∧
        w.worker.reported = some events ∧
        ∃ report, w.status = some (.ended report) ∧ report.closed = true ∧
          report.complete = true := by
    intro isComplete
    obtain ⟨before, report, isFound, closed, whole, count, diagnostics⟩ :=
      complete_readStatus isComplete
    have accounts := reports.published report (found_eq_some isFound)
    obtain ⟨snapshot, isReported, snapshotCount, snapshotFirst⟩ := accounts.snapshot
    -- Both are first events of the collector, and as many.
    have same : events = snapshot := by
      have short := List.prefix_of_prefix_length_le first snapshotFirst
        (count.symm.trans snapshotCount).le
      exact short.eq_of_length (count.symm.trans snapshotCount)
    refine ⟨?_, same ▸ isReported, report, found_eq_some isFound, closed, whole⟩
    rw [diagnostics, answers.consistent before, (accounts.complete whole).2]
    rfl
  obtain ⟨transcript, isSealed, isEvents, isComplete, isDiagnostics⟩ :=
    collects.sealed (show ((w.session.readStatus w.found events.length).payload
      setting.sessionId capabilityFingerprint events).sessionId = setting.sessionId from rfl) first
  refine ⟨fun isComplete => (complete isComplete).1, nofun, fun result isResult => ?_⟩
  cases isResult
  refine ⟨transcript, isSealed, ?_, fun transcriptComplete => ?_⟩
  · rw [isEvents]
    exact first
  · obtain ⟨undiagnosed, isReported, orderly⟩ := complete (isComplete.symm.trans transcriptComplete)
    refine ⟨?_, isEvents ▸ isReported, orderly⟩
    rw [isDiagnostics, Session.payload, undiagnosed]
    rfl

theorem touch_eq (w : World) (session : Session) (event : SessionEvent) :
    ∃ stop removed, w.touch session event = { w with session, stop, removed } ∧
      (w.stop = true → stop = true) := by
  cases event with
  | asksStop => exact ⟨true, w.removed, rfl, fun _ => rfl⟩
  | returns fingerprint removed =>
    cases removed with
    | true => exact ⟨w.stop, true, rfl, id⟩
    | false => exact ⟨w.stop, w.removed, rfl, id⟩
  | _ => exact ⟨w.stop, w.removed, rfl, id⟩

/-- A step that does not change where `close` is. -/
theorem Answers.stays (answers : Answers w) {session : Session}
    (phase : session.phase = w.session.phase)
    (consistent : session.complete = true → session.diagnostics = []) :
    Answers { w with session } where
  consistent := consistent
  collected events isPhase := answers.collected events (phase.symm.trans isPhase)
  returned result isPhase := by
    obtain ⟨transcript, isResult, agrees⟩ := answers.returned result (phase.symm.trans isPhase)
    exact ⟨transcript, isResult, agrees.keeps List.prefix_rfl (fun _ => id) fun _ => id⟩

/-- A step to where `close` has not read the events. -/
theorem Answers.enters {session : Session}
    (consistent : session.complete = true → session.diagnostics = [])
    (uncollected : ∀ events, session.phase ≠ .collected events)
    (unreturned : ∀ result, session.phase ≠ .returned result) : Answers { w with session } where
  consistent := consistent
  collected events isPhase := absurd isPhase (uncollected events)
  returned result isPhase := absurd isPhase (unreturned result)

/-- `close` reads the events. -/
theorem Answers.collects (collects : Collects setting w.worker) (reads : setting.reader.Reads)
    (answers : Answers w) :
    Answers { w with session :=
      { (w.session.readEvents setting.reader w.observations).2 with
        phase := .collected (w.session.readEvents setting.reader w.observations).1 } } where
  consistent := consistent_readEvents answers.consistent
  collected events isPhase := by
    cases isPhase
    cases isFound : w.observations with
    | none => exact List.nil_prefix
    | some text => exact collects.first_readBack reads (observations_eq_some isFound)
  returned := nofun

/-- The steps of the parent, by what they make of the session. -/
inductive Answered (setting : Setting) (w : World) : SessionEvent → Session → Prop
  | polls {status : Status} (isFound : w.found = some status) :
    Answered setting w .polls { w.session with phase := World.started status }
  | givesUp (reason : RuntimeCapabilityReasonCode) :
    Answered setting w .givesUp { w.session with phase := .refused reason }
  | requests : Answered setting w .requests
      { w.session with requestOrdinal := w.session.requestOrdinal + 1 }
  | crashed : Answered setting w .requests (w.session.fail .processCrashed)
  | requestFails : Answered setting w .requestFails { w.session with complete := false }
  | asksStop : Answered setting w .asksStop w.session
  | closes : Answered setting w (.closes true) { w.session with phase := .closed }
  | leaves : Answered setting w (.closes false)
      { w.session.fail .cleanupFailed with phase := .closed }
  | collects : Answered setting w .collects
      { (w.session.readEvents setting.reader w.observations).2 with
        phase := .collected (w.session.readEvents setting.reader w.observations).1 }
  | returns (fingerprint : Sha256Digest) (removed : Bool) {events : List RuntimeObservationEvent}
    (isPhase : w.session.phase = .collected events) :
    Answered setting w (.returns fingerprint removed) (w.closing setting fingerprint events)

theorem answered_of {event : SessionEvent} {session : Session}
    (steps : w.sessionStep setting event = some session) : Answered setting w event session := by
  rw [World.sessionStep.eq_def] at steps
  dsimp only at steps
  split at steps
  next =>
    obtain ⟨status, isFound, rfl⟩ := Option.map_eq_some_iff.mp steps
    exact .polls isFound
  next =>
    cases steps
    exact .givesUp _
  next =>
    split at steps
    next =>
      cases steps
      exact .crashed
    next =>
      cases steps
      exact .requests
  next =>
    cases steps
    exact .crashed
  next =>
    cases steps
    exact .crashed
  next =>
    cases steps
    exact .crashed
  next =>
    cases steps
    exact .requestFails
  next =>
    cases steps
    exact .requestFails
  next =>
    cases steps
    exact .requestFails
  next =>
    cases steps
    exact .requestFails
  next =>
    split at steps
    next => cases steps
    next =>
      cases steps
      exact .asksStop
  next =>
    split at steps
    next =>
      cases steps
      exact .closes
    next => cases steps
  next =>
    cases steps
    exact .leaves
  next =>
    cases steps
    exact .collects
  next =>
    cases steps
    exact .collects
  next fingerprint removed events isPhase =>
    cases steps
    exact .returns fingerprint removed isPhase
  next => cases steps

theorem Answers.session (collects : Collects setting w.worker) (reads : setting.reader.Reads)
    (reports : Reports w) (answers : Answers w) {event : SessionEvent} {session : Session}
    (answered : Answered setting w event session) : Answers { w with session } := by
  cases answered with
  | @polls status isFound =>
    cases status with
    | ready readiness => exact .enters answers.consistent nofun nofun
    | ended report => exact .enters answers.consistent nofun nofun
  | givesUp reason => exact .enters answers.consistent nofun nofun
  | requests => exact answers.stays rfl answers.consistent
  | crashed => exact answers.stays rfl nofun
  | requestFails => exact answers.stays rfl nofun
  | asksStop => exact answers.stays rfl answers.consistent
  | closes => exact .enters answers.consistent nofun nofun
  | leaves => exact .enters nofun nofun nofun
  | collects => exact .collects collects reads answers
  | returns fingerprint removed isPhase =>
    exact .closing collects reports answers isPhase fingerprint

end Answering

/-! ## Runs -/

/-- What holds of the worker and of what it has reported. -/
structure Invariant (setting : Setting) (w : World) : Prop where
  collects : Collects setting w.worker
  reports : Reports w

section Runs

variable {w after : World} {events : List Event}

theorem invariant_initial : Invariant setting {} where
  collects :=
    { sound := Channel.sound_initial
      submitted := rfl
      bounded := Nat.zero_le _
      contiguous := rfl
      valid := fun event listed => by cases listed
      consistent := fun _ => rfl
      asked := Nat.zero_le _
      ended := fun ended => by cases ended }
  reports :=
    { stopping := fun stopping => by cases stopping
      unreported := fun _ => rfl
      unpublished := fun _ report published => by cases published
      publishing := fun report publishing => by cases publishing
      published := fun report published => by cases published }

theorem answers_initial : Answers {} where
  consistent _ := rfl
  collected events isPhase := by cases isPhase
  returned result isPhase := by cases isPhase

/-- What the worker has collected and reported stays. -/
theorem Answers.advance (reports : Reports w) (answers : Answers w) {event : WorkerEvent}
    {phase : WorkerPhase} (advances : Advances w event w.worker.phase phase) :
    Answers ((w.effect event).inPhase phase) := by
  generalize isPhase : w.worker.phase = before at advances
  cases advances with
  | fails failure early still =>
    rw [still]
    exact answers.keeps rfl List.prefix_rfl (fun _ => id) fun _ => id
  | announces readiness =>
    have early : w.worker.phase.rank ≤ 8 := by
      rw [isPhase]
      exact Nat.zero_le 8
    exact answers.keeps rfl List.prefix_rfl (fun _ => id)
      fun report ended => absurd ended (reports.unpublished early report)
  | joins ended failure =>
    cases ended with
    | false => exact answers.keeps rfl List.prefix_rfl (fun _ => id) fun _ => id
    | true => exact answers.keeps rfl List.prefix_rfl (fun _ => id) fun _ => id
  | records failure =>
    rw [World.effect]
    split
    next => exact answers.keeps rfl List.prefix_rfl (fun _ => id) fun _ => id
    next => exact answers.keeps rfl List.prefix_rfl (fun _ => id) fun _ => id
  | snapshots failure =>
    have early : w.worker.phase.rank ≤ 7 := by
      rw [isPhase]
      exact le_rfl
    refine answers.keeps rfl List.prefix_rfl (fun events reported => ?_) fun _ => id
    rw [reports.unreported early] at reported
    cases reported
  | publishes written report =>
    have early : w.worker.phase.rank ≤ 8 := by
      rw [isPhase]
      exact le_rfl
    cases written with
    | false => exact answers.keeps rfl List.prefix_rfl (fun _ => id) fun _ => id
    | true =>
      rw [effect_publishes isPhase]
      exact answers.keeps rfl List.prefix_rfl (fun _ => id)
        fun other ended => absurd ended (reports.unpublished early other)
  | _ => exact answers.keeps rfl List.prefix_rfl (fun _ => id) fun _ => id

/-- A step of a thread beside the main one. -/
theorem Invariant.worker (invariant : Invariant setting w) {worker : Worker}
    (collects : Collects setting worker) (phase : worker.phase = w.worker.phase)
    (reported : worker.reported = w.worker.reported)
    (grows : w.worker.collector.events <+: worker.collector.events) :
    Invariant setting { w with worker } where
  collects := collects
  reports := invariant.reports.keeps phase rfl reported grows id

theorem WorkerPhase.rank_le (phase : WorkerPhase) : phase.rank ≤ 10 := by
  cases phase <;> exact Nat.le_of_ble_eq_true rfl

/-- What a thread beside the main one, or what surrounds the worker, does to the world: the worker's
collector and its channel, or the inputs. -/
theorem step_beside (invariant : Invariant setting w) {event : Event}
    (steps : w.step setting event = some after)
    (beside : (∀ event', event ≠ .worker event') ∧ ∀ event', event ≠ .session event') :
    Invariant setting after ∧ after.session = w.session ∧ after.status = w.status ∧
      after.worker.reported = w.worker.reported ∧
      w.worker.collector.events <+: after.worker.collector.events := by
  cases event with
  | worker event => exact absurd rfl (beside.1 event)
  | session event => exact absurd rfl (beside.2 event)
  | thread event =>
    rw [World.step] at steps
    split at steps
    next => cases steps
    next =>
      obtain ⟨writer, writes, rfl⟩ := Option.map_eq_some_iff.mp steps
      exact ⟨invariant.worker (invariant.collects.thread writes) rfl rfl List.prefix_rfl, rfl, rfl,
        rfl, List.prefix_rfl⟩
  | emits kind context target =>
    rw [World.step] at steps
    split at steps
    next => cases steps
    next observable =>
      obtain ⟨session, identified⟩ := not_not.mp (not_or.mp observable).2
      cases emitted : w.worker.emit kind context target with
      | error raised =>
        rw [emitted] at steps
        cases steps
        exact ⟨invariant, rfl, rfl, rfl, List.prefix_rfl⟩
      | ok worker =>
        rw [emitted] at steps
        cases steps
        have collects := invariant.collects.emit session identified emitted
        rcases invariant.collects.emit_cases emitted with rfl | ⟨-, -, writer, -, rfl⟩
        · exact ⟨invariant.worker collects rfl rfl List.prefix_rfl, rfl, rfl, rfl,
            List.prefix_rfl⟩
        · exact ⟨invariant.worker collects rfl rfl (List.prefix_append _ _), rfl, rfl, rfl,
            List.prefix_append _ _⟩
  | fails reason =>
    rw [World.step] at steps
    split at steps
    next => cases steps
    next =>
      cases steps
      exact ⟨invariant.worker (invariant.collects.fail reason) rfl rfl List.prefix_rfl, rfl, rfl,
        rfl, List.prefix_rfl⟩
  | killed =>
    cases steps
    have later : w.worker.phase.rank ≤ WorkerPhase.gone.rank := w.worker.phase.rank_le
    have reports := invariant.reports.moves later rfl rfl rfl rfl nofun rfl
    exact ⟨⟨invariant.collects.phase later, reports⟩, rfl, rfl, rfl, List.prefix_rfl⟩
  | inputsChange inputs =>
    cases steps
    exact ⟨⟨invariant.collects, invariant.reports.keeps rfl rfl rfl List.prefix_rfl id⟩, rfl, rfl,
      rfl, List.prefix_rfl⟩

theorem Invariant.step (invariant : Invariant setting w) {event : Event}
    (steps : w.step setting event = some after) : Invariant setting after := by
  cases event with
  | worker event =>
    obtain ⟨phase, leads, rfl⟩ := Option.map_eq_some_iff.mp steps
    have advances := advances_of leads
    exact ⟨invariant.collects.advance advances,
      invariant.reports.advance invariant.collects advances⟩
  | session event =>
    obtain ⟨session, answered, rfl⟩ := Option.map_eq_some_iff.mp steps
    obtain ⟨stop, removed, touched, stops⟩ := touch_eq w session event
    rw [touched]
    exact ⟨invariant.collects, invariant.reports.keeps rfl rfl rfl List.prefix_rfl stops⟩
  | _ => exact (step_beside invariant steps ⟨nofun, nofun⟩).1

theorem Answers.step (reads : setting.reader.Reads) (invariant : Invariant setting w)
    (answers : Answers w) {event : Event} (steps : w.step setting event = some after) :
    Answers after := by
  cases event with
  | worker event =>
    obtain ⟨phase, leads, rfl⟩ := Option.map_eq_some_iff.mp steps
    exact answers.advance invariant.reports (advances_of leads)
  | session event =>
    obtain ⟨session, answered, rfl⟩ := Option.map_eq_some_iff.mp steps
    obtain ⟨stop, removed, touched, -⟩ := touch_eq w session event
    have answers :=
      answers.session invariant.collects reads invariant.reports (answered_of answered)
    rw [touched]
    exact answers.keeps rfl List.prefix_rfl (fun _ => id) fun _ => id
  | _ =>
    obtain ⟨-, session, status, reported, grows⟩ :=
      step_beside invariant steps ⟨nofun, nofun⟩
    exact answers.keeps session grows (fun _ => reported.trans) fun _ => status.trans

/-- What every step keeps holds after a run. -/
theorem run_keeps (holds : World → Prop)
    (step : ∀ {w after event}, holds w → World.step setting w event = some after → holds after)
    (before : holds w) (runs : w.run setting events = some after) : holds after := by
  induction events generalizing w with
  | nil =>
    cases runs
    exact before
  | cons event rest ih =>
    rw [World.run, List.foldlM_cons] at runs
    obtain ⟨next, steps, later⟩ := Option.bind_eq_some_iff.mp runs
    exact ih (step before steps) later

/-- The invariant holds in every state that a session can reach. -/
theorem invariant_run (runs : World.run setting {} events = some w) : Invariant setting w :=
  run_keeps (Invariant setting) (fun before steps => before.step steps) invariant_initial runs

theorem answers_run (reads : setting.reader.Reads) (runs : World.run setting {} events = some w) :
    Answers w := by
  have both := run_keeps (fun w => Invariant setting w ∧ Answers w)
    (fun before steps => ⟨before.1.step steps, before.2.step reads before.1 steps⟩)
    ⟨invariant_initial, answers_initial⟩ runs
  exact both.2

end Runs

end Managed

end StateGuard
