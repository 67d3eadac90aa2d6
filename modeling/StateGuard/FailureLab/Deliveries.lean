import StateGuard.FailureLab.Agreement

/-!
# What the delivery verdicts say about the transcript

The verdicts of the first two scenarios, read back to the transcript: the entries of the
control it records, and the request they belong to.  A summary counts the events of its own
request (`length_controlSequences`); in an exact sequence the events of the two requests are
all there are (`length_controlEvents_pair`).
-/

namespace StateGuard

/-- The events of a kind a transcript records for one control. -/
def controlEvents (transcript : RuntimeObservationTranscript) (controlId : NormalControlId)
    (kind : RuntimeObservationKind) : List RuntimeObservationEvent :=
  transcript.events.filter fun event => event.kind = kind ∧ event.normalControlId = some controlId

/-- The transcript records one entry of the control, and it returned normally. -/
def EnteredOnceAndReturned (transcript : RuntimeObservationTranscript)
    (controlId : NormalControlId) : Prop :=
  (controlEvents transcript controlId .customerValueEntered).length = 1 ∧
    (controlEvents transcript controlId .customerValueReturnedNormally).length = 1 ∧
    controlEvents transcript controlId .customerValueExceptionEscaped = []

/-- A summary's count of a kind is the number of the control's events in its request. -/
theorem length_controlSequences (transcript : RuntimeObservationTranscript)
    (requestId : RuntimeRequestId) (controlId : NormalControlId) (kind : RuntimeObservationKind) :
    (controlSequences transcript.events requestId controlId kind).length =
      ((controlEvents transcript controlId kind).filter (·.requestId = requestId)).length := by
  unfold controlSequences sequencesWhere controlEvents
  rw [List.length_map, List.filter_filter, List.filter_filter]
  congr 1
  refine List.filter_congr fun event _ => ?_
  rw [Bool.and_comm]

/-- The counts of a built summary, read off the transcript. -/
theorem summarizeObservations_counts {transcript : RuntimeObservationTranscript}
    {requestId : RuntimeRequestId} {controlId : NormalControlId} {httpStatusCode : Nat}
    {summary : CustomerTargetObservationSummary}
    (built : summarizeObservations transcript.events requestId controlId httpStatusCode =
      .ok summary) :
    summary.enteredCount = ((controlEvents transcript controlId .customerValueEntered).filter
        (·.requestId = requestId)).length ∧
      summary.returnedNormallyCount =
        ((controlEvents transcript controlId .customerValueReturnedNormally).filter
          (·.requestId = requestId)).length ∧
      summary.exceptionEscapedCount =
        ((controlEvents transcript controlId .customerValueExceptionEscaped).filter
          (·.requestId = requestId)).length := by
  obtain ⟨entered, returned, escaped, -⟩ := summarizeObservations_eq_ok built
  refine ⟨?_, ?_, ?_⟩
  · rw [CustomerTargetObservationSummary.enteredCount, entered, length_controlSequences]
  · rw [CustomerTargetObservationSummary.returnedNormallyCount, returned, length_controlSequences]
  · rw [CustomerTargetObservationSummary.exceptionEscapedCount, escaped, length_controlSequences]

/-- When the transcript knows one request only, its summary counts every event. -/
theorem filter_request_eq_self {transcript : RuntimeObservationTranscript}
    {request : RuntimeRequestResult} (single : SingleRequestAuthority transcript request)
    (controlId : NormalControlId) (kind : RuntimeObservationKind) :
    (controlEvents transcript controlId kind).filter (·.requestId = request.requestId) =
      controlEvents transcript controlId kind := by
  refine List.filter_eq_self.mpr fun event membership => ?_
  simpa using single.2 event (List.mem_of_mem_filter membership)

/-- The events of an exact pair of requests are those of the first and those of the
second. -/
theorem length_controlEvents_pair {transcript : RuntimeObservationTranscript}
    {first second : RuntimeRequestResult}
    (exact : SequenceAuthorityIsExact transcript [first, second])
    (controlId : NormalControlId) (kind : RuntimeObservationKind) :
    (controlEvents transcript controlId kind).length =
      ((controlEvents transcript controlId kind).filter
        (·.requestId = first.requestId)).length +
      ((controlEvents transcript controlId kind).filter
        (·.requestId = second.requestId)).length := by
  obtain ⟨distinct, -, -, within, -⟩ := exact
  have differ : first.requestId ≠ second.requestId := by simpa using distinct
  rw [List.length_eq_length_filter_add (·.requestId = first.requestId)]
  congr 2
  refine List.filter_congr fun event membership => ?_
  have known := within event (List.mem_of_mem_filter membership)
  simp only [List.map_cons, List.map_nil, List.mem_cons, List.not_mem_nil, or_false] at known
  rcases known with same | same
  · simp [same, differ]
  · simp [same, differ.symm]

/-- What the duplicate verdict says: a pass sees one entry, in the first request, and a
failure at least two. -/
theorem Sg02.evaluateSequence_sound {transcript : RuntimeObservationTranscript}
    {first second : RuntimeRequestResult} {controlId : NormalControlId}
    (exact : SequenceAuthorityIsExact transcript [first, second])
    {initial duplicate : ScenarioRequestObservation}
    (observesFirst : Observes .sg02 transcript controlId first initial)
    (observesSecond : Observes .sg02 transcript controlId second duplicate) :
    ((evaluateSequence initial.observations duplicate.observations).state = .verifiedPass →
      ∃ entry, controlEvents transcript controlId .customerValueEntered = [entry] ∧
        entry.requestId = first.requestId) ∧
    ((evaluateSequence initial.observations duplicate.observations).state = .verifiedFail →
      2 ≤ (controlEvents transcript controlId .customerValueEntered).length) := by
  obtain ⟨entersFirst, -⟩ := summarizeObservations_counts observesFirst.summarized
  obtain ⟨entersSecond, -⟩ := summarizeObservations_counts observesSecond.summarized
  have total := length_controlEvents_pair exact controlId .customerValueEntered
  rw [← entersFirst, ← entersSecond] at total
  unfold evaluateSequence
  rcases evaluateTwoDeliveries_spec initial.observations duplicate.observations
      .normalControlMultipleTargetEntries .duplicateDeliveryAddedTargetEntry
      .duplicateDeliveryAddedNoTargetEntry with
    ⟨normal, -, none, -, verdict⟩ | ⟨-, several, verdict⟩ | ⟨normal, -, entered, verdict⟩ |
      unverified
  · refine ⟨fun _ => ?_, fun failed => by simp [verdict, Verdict.pass] at failed⟩
    have once := normal.2.1
    obtain ⟨entry, only⟩ := List.length_eq_one_iff.mp (by omega :
      (controlEvents transcript controlId .customerValueEntered).length = 1)
    refine ⟨entry, only, ?_⟩
    by_contra elsewhere
    rw [entersFirst, only] at once
    simp [elsewhere] at once
  · refine ⟨fun passed => by simp [verdict, Verdict.fail] at passed, fun _ => by omega⟩
  · have once := normal.2.1
    exact ⟨fun passed => by simp [verdict, Verdict.fail] at passed, fun _ => by omega⟩
  · rw [unverified.state]
    constructor
    · intro passed
      cases passed
    · intro failed
      cases failed

/-- What the verdict of the single delivery says. -/
theorem Sg01.evaluateObservations_sound {transcript : RuntimeObservationTranscript}
    {request : RuntimeRequestResult} {controlId : NormalControlId}
    (single : SingleRequestAuthority transcript request)
    {observation : ScenarioRequestObservation}
    (observes : Observes .sg01 transcript controlId request observation) :
    ((evaluateObservations observation.observations).state = .verifiedPass →
      EnteredOnceAndReturned transcript controlId) ∧
    ((evaluateObservations observation.observations).state = .verifiedFail →
      ¬ EnteredOnceAndReturned transcript controlId) := by
  obtain ⟨enters, returns, escapes⟩ := summarizeObservations_counts observes.summarized
  rw [filter_request_eq_self single] at enters returns escapes
  rcases evaluateObservations_spec observation.observations with
    ⟨normal, verdict⟩ | ⟨-, several, verdict⟩ | ⟨-, unverified⟩
  · obtain ⟨-, once, returned, escaped, -⟩ := normal
    refine ⟨fun _ => ⟨by omega, by omega, ?_⟩, fun failed => by simp [verdict, Verdict.pass] at failed⟩
    exact List.length_eq_zero_iff.mp (by omega)
  · refine ⟨fun passed => by simp [verdict, Verdict.fail] at passed, fun _ entered => ?_⟩
    have once := entered.1
    omega
  · rw [unverified.state]
    constructor
    · intro passed
      cases passed
    · intro failed
      cases failed

/-- The delivery verdicts are sound over admitted transcripts.  The duplicate scenario passes
only on one entry of the control, in the first request, and fails only on two or more; the
normal control passes only on one entry that returned, and never fails on that. -/
theorem deliveryVerdicts_sound (artifact : RuntimeCapabilityArtifact)
    (transcript : RuntimeObservationTranscript) (controlId : NormalControlId)
    (acknowledgementNodeId : GraphNodeId) (lateAuthorisation : LateAuthorisationPolicy) :
    (∀ first second observations,
      Admitted .sg02 artifact transcript [first, second] controlId →
      observeCustomers .sg02 transcript controlId acknowledgementNodeId [first, second] =
        .ok observations →
      ∀ verdict ∈ customerVerdicts .sg02 lateAuthorisation observations,
        (verdict.state = .verifiedPass →
          ∃ entry, controlEvents transcript controlId .customerValueEntered = [entry] ∧
            entry.requestId = first.requestId) ∧
        (verdict.state = .verifiedFail →
          2 ≤ (controlEvents transcript controlId .customerValueEntered).length)) ∧
    ∀ requests observations,
      Admitted .sg01 artifact transcript requests controlId →
      observeCustomers .sg01 transcript controlId acknowledgementNodeId requests =
        .ok observations →
      ∀ verdict ∈ customerVerdicts .sg01 lateAuthorisation observations,
        (verdict.state = .verifiedPass → EnteredOnceAndReturned transcript controlId) ∧
        (verdict.state = .verifiedFail → ¬ EnteredOnceAndReturned transcript controlId) := by
  refine ⟨?_, ?_⟩
  · intro first second observations admitted built verdict given
    cases observeCustomers_eq_ok built with
    | cons observesFirst rest =>
      cases rest with
      | cons observesSecond rest =>
        cases rest
        simp only [customerVerdicts, List.mem_singleton] at given
        subst given
        exact Sg02.evaluateSequence_sound admitted.exact observesFirst observesSecond
  · intro requests observations admitted built verdict given
    obtain ⟨request, rfl, single⟩ := admitted.exact
    cases observeCustomers_eq_ok built with
    | cons observesFirst rest =>
      cases rest
      simp only [customerVerdicts, List.mem_singleton] at given
      subst given
      exact Sg01.evaluateObservations_sound single observesFirst

theorem deliveryVerdicts_sound_duplicate :
    ∃ entry, controlEvents sampleDuplicate "control" .customerValueEntered = [entry] ∧
      entry.requestId = "first" := by
  have sound := deliveryVerdicts_sound sampleArtifact sampleDuplicate "control" "acknowledgement"
    .fulfilLater
  refine (sound.1 _ _ sampleObservations sampleDuplicate_admitted rfl
    (.pass .duplicateDeliveryAddedNoTargetEntry) ?_).1 rfl
  decide

end StateGuard
