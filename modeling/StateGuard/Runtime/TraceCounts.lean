import StateGuard.Runtime.Instrumentation

/-!
# What a transcript counts

The interpreter is a `Machine`: it numbers the activations it begins, gives each a frame id that no
other live activation has, and calls the engine back for every event of an activation.  What the
engine cannot see is kept beside it: which activation an event was recorded for, and which
activations it took for a customer value.

A frame that an exception ends at a `yield` returns at the same instruction as one that is
suspended there.  The engine keeps its state, and the next activation that is given the frame id
inherits it (`closedGenerator_uncounted`).  Where no activation begins on a kept state, the
transcript counts what happened (`run_counted`), and none does where no activation ends at a
`yield` (`fresh_of_endsApart`).
-/

namespace StateGuard

open Checks ExactTraceEngine

/-! ## The interpreter -/

/-- Nothing has been dropped, and the engine is enabled. -/
def ExactTraceEngine.Intact (engine : ExactTraceEngine) : Prop :=
  engine.collector.dropped = false ∧ engine.disabled = false

instance (engine : ExactTraceEngine) : Decidable engine.Intact :=
  inferInstanceAs (Decidable (_ ∧ _))

/-- A frame that runs or is suspended. -/
structure Activation where
  number : Nat
  frame : Frame
  /-- Whether the local trace function has been installed. -/
  traced : Bool
  deriving DecidableEq, Repr

/-- What happens to a frame. -/
inductive FrameEvent where
  | begins (frame : Frame) (call : Call)
  | resumes (frameId : Nat) (call : Call)
  | line (frameId lasti : Nat)
  | opcode (frameId lasti : Nat)
  | exception (frameId lasti : Nat)
  /-- The frame yields, and stays. -/
  | suspends (frameId lasti : Nat)
  /-- The frame returns, or an exception leaves it. -/
  | ends (frameId lasti : Nat)

structure Machine where
  engine : ExactTraceEngine := {}
  live : List Activation := []
  /-- The number of activations that have begun. -/
  begun : Nat := 0
  /-- The events, each with the activation it was recorded for. -/
  log : List (Nat × RuntimeObservationEvent) := []
  /-- The activations that were followed as a customer value. -/
  customers : List Nat := []

namespace Machine

variable (config : TraceConfig)

def events (m : Machine) : List RuntimeObservationEvent := m.engine.collector.events

/-- The events recorded for an activation. -/
def of (m : Machine) (number : Nat) : List RuntimeObservationEvent :=
  (m.log.filter (·.1 = number)).map (·.2)

/-- A callback for an activation leaves the engine behind. -/
def record (m : Machine) (number : Nat) (engine : ExactTraceEngine) : Machine :=
  { m with
    engine
    log := m.log ++ (engine.collector.events.drop m.events.length).map (number, ·) }

/-- Install the local trace function of a frame. -/
def install (m : Machine) (frameId : Nat) : Machine :=
  { m with live := m.live.map fun other =>
      if other.frame.id = frameId then { other with traced := true } else other }

/-- The engine follows an activation, and as a customer value if the state of its frame holds
one. -/
def follow (m : Machine) (activation : Activation) : Machine :=
  { m.install activation.frame.id with
    customers :=
      if ((m.engine.states activation.frame.id).bind (·.customer)).isSome then
        m.customers.insert activation.number
      else m.customers }

/-- The engine is called back for a call. -/
def call (m : Machine) (activation : Activation) (call : Call) : Machine :=
  let result := m.engine.globalTrace config activation.frame call
  let recorded := m.record activation.number result.1
  if result.2 then recorded.follow activation else recorded

/-- The engine is called back for another event, once the local trace function is installed. -/
def trace (m : Machine) (activation : Activation) (event : TraceEvent) (lasti : Nat) : Machine :=
  if activation.traced then
    m.record activation.number (m.engine.localTrace config activation.frame event lasti).1
  else m

/-- The live activation with a frame id. -/
def activation? (m : Machine) (frameId : Nat) : Option Activation :=
  m.live.find? (·.frame.id = frameId)

def start (m : Machine) (frame : Frame) : Machine :=
  { m with live := m.live ++ [⟨m.begun, frame, false⟩], begun := m.begun + 1 }

def leave (m : Machine) (frameId : Nat) : Machine :=
  { m with live := m.live.filter (·.frame.id ≠ frameId) }

/-- One event, where it can happen. -/
def step (m : Machine) : FrameEvent → Option Machine
  | .begins frame call =>
    if frame.id ∈ m.live.map (·.frame.id) then none
    else some ((m.start frame).call config ⟨m.begun, frame, false⟩ call)
  | .resumes frameId call => (m.activation? frameId).map (m.call config · call)
  | .line frameId lasti => (m.activation? frameId).map (m.trace config · .line lasti)
  | .opcode frameId lasti => (m.activation? frameId).map (m.trace config · .opcode lasti)
  | .exception frameId lasti => (m.activation? frameId).map (m.trace config · .exception lasti)
  | .suspends frameId lasti => (m.activation? frameId).bind fun activation =>
    if activation.frame.code.opnameAt lasti = some "YIELD_VALUE" then
      some (m.trace config activation .returns lasti)
    else none
  | .ends frameId lasti => (m.activation? frameId).map fun activation =>
    (m.trace config activation .returns lasti).leave frameId

def run (m : Machine) (events : List FrameEvent) : Option Machine := events.foldlM (step config) m

/-- An activation does not begin where an intact engine has kept a state. -/
def Fresh (m : Machine) : FrameEvent → Prop
  | .begins frame _ => m.engine.Intact → (m.engine.states frame.id).isNone
  | _ => True

instance (m : Machine) : ∀ event, Decidable (m.Fresh event)
  | .begins _ _ => inferInstanceAs (Decidable (_ → _))
  | .resumes _ _ | .line _ _ | .opcode _ _ | .exception _ _ | .suspends _ _ | .ends _ _ =>
    .isTrue trivial

/-- A frame does not end at a yield. -/
def EndsApart (m : Machine) : FrameEvent → Prop
  | .ends frameId lasti => ∀ activation ∈ m.activation? frameId,
    activation.frame.code.opnameAt lasti ≠ some "YIELD_VALUE"
  | _ => True

/-- Every event of a run is allowed where it happens. -/
def Along (allowed : Machine → FrameEvent → Prop) (m : Machine) : List FrameEvent → Prop
  | [] => True
  | event :: rest => allowed m event ∧ ∀ next ∈ m.step config event, Along allowed next rest

instance (allowed : Machine → FrameEvent → Prop) [∀ m event, Decidable (allowed m event)] :
    ∀ m events, Decidable (Along config allowed m events)
  | _, [] => inferInstanceAs (Decidable True)
  | m, event :: rest =>
    have : ∀ next, Decidable (Along config allowed next rest) := fun next =>
      instDecidableAlong allowed next rest
    inferInstanceAs (Decidable (allowed m event ∧ ∀ next ∈ m.step config event, _))

end Machine

/-! ## The counts -/

section Counts

variable (node : GraphNodeId) (events : List RuntimeObservationEvent)

/-- How often an assignment of a node was in a state. -/
def countMutation (kind : RuntimeObservationKind) : Nat :=
  events.countP fun event => event.kind = kind ∧ event.mutationNodeId = some node

def reached : Nat := countMutation node events .merchantAssignmentInstructionReached

def completed : Nat := countMutation node events .merchantAssignmentInstructionCompletedNormally

def raised : Nat := countMutation node events .merchantAssignmentInstructionRaised

def entered : Nat := events.countP (·.kind = .customerValueEntered)

def terminal : Nat := events.countP
  (·.kind ∈ [RuntimeObservationKind.customerValueReturnedNormally, .customerValueExceptionEscaped])

end Counts

/-- Whether a frame state has an assignment of a node pending. -/
def pendsAt (node : GraphNodeId) (state : Option FrameState) : Bool :=
  (state.bind (·.pendingMutation)).map (·.mutationNodeId) = some node

/-- The live activations with an assignment of a node pending. -/
def Machine.pending (m : Machine) (node : GraphNodeId) : Nat :=
  m.live.countP fun activation => pendsAt node (m.engine.states activation.frame.id)

/-- The transcript is contiguous, bounded, and incomplete once something was dropped or the engine
disabled.  Before that, every customer value was entered once and left at most once, and an
assignment that was reached has completed, has raised or is pending. -/
structure Counted (config : TraceConfig) (m : Machine) : Prop where
  contiguous : m.events.map (·.sequence) = List.range' 1 m.events.length
  bounded : m.events.length ≤ config.maxEvents
  incomplete : ¬ m.engine.Intact → m.engine.collector.complete = false
  customers : m.engine.Intact → ∀ number ∈ m.customers,
    entered (m.of number) = 1 ∧ terminal (m.of number) ≤ 1
  mutations : m.engine.Intact → ∀ node,
    (reached node m.events : Int) - completed node m.events - raised node m.events =
      m.pending node

/-! ## Growing collectors -/

/-- What holds of a collector whatever it has observed. -/
structure Sealed (config : CollectorConfig) (collector : ObservationCollector) : Prop where
  contiguous : collector.events.map (·.sequence) = List.range' 1 collector.events.length
  bounded : collector.events.length ≤ config.maxEvents
  incomplete : collector.dropped = true → collector.complete = false

/-- What a collector keeps of an earlier one. -/
structure Grows (config : CollectorConfig) (before after : ObservationCollector) : Prop where
  appends : before.events <+: after.events
  isSealed : Sealed config before → Sealed config after
  complete : before.complete = false → after.complete = false
  dropped : after.dropped = false → before.dropped = false

section Growing

variable {config : CollectorConfig} {collector before after later : ObservationCollector}

theorem Grows.refl : Grows config collector collector :=
  ⟨List.prefix_refl _, id, id, id⟩

theorem Grows.trans (first : Grows config before after) (second : Grows config after later) :
    Grows config before later where
  appends := first.appends.trans second.appends
  isSealed := second.isSealed ∘ first.isSealed
  complete := second.complete ∘ first.complete
  dropped := first.dropped ∘ second.dropped

theorem grows_fail (reason : RuntimeCapabilityReasonCode) :
    Grows config collector (collector.fail reason) where
  appends := List.prefix_refl _
  isSealed known := ⟨known.contiguous, known.bounded, fun _ => rfl⟩
  complete _ := rfl
  dropped := id

variable {kind : RuntimeObservationKind} {context : RuntimeRequestContext}
  {target : ObservedTarget}

/-- An observation is dropped, or appended. -/
theorem emit_cases (emitted : collector.emit config kind context target = .ok after) :
    config.maxEvents ≤ collector.events.length ∧ after.events = collector.events ∧
        after.complete = false ∧ after.dropped = true ∨
      collector.events.length < config.maxEvents ∧
        after.events = collector.events ++ [collector.observation kind context target] ∧
        (collector.complete = false → after.complete = false) ∧
        after.dropped = collector.dropped := by
  unfold ObservationCollector.emit at emitted
  split at emitted
  next full =>
    cases emitted
    exact .inl ⟨full, rfl, rfl, rfl⟩
  next room =>
    obtain ⟨⟨⟩, -, recorded⟩ := (bind_eq_ok _ _ _).mp emitted
    split at recorded
    all_goals
      cases recorded
      refine .inr ⟨Nat.lt_of_not_le room, rfl, ?_, rfl⟩
    · intro incomplete
      rfl
    · intro incomplete
      exact incomplete

theorem grows_emit (emitted : collector.emit config kind context target = .ok after) :
    Grows config collector after := by
  rcases emit_cases emitted with ⟨-, same, incomplete, dropped⟩ |
    ⟨room, appended, complete, dropped⟩
  · refine ⟨same ▸ List.prefix_refl _, fun known => ?_, fun _ => incomplete,
      fun undropped => ?_⟩
    · exact ⟨by rw [same]; exact known.contiguous, by rw [same]; exact known.bounded,
        fun _ => incomplete⟩
    · rw [dropped] at undropped
      cases undropped
  · refine ⟨⟨_, appended.symm⟩, fun known => ?_, complete, fun undropped => dropped ▸ undropped⟩
    refine ⟨?_, ?_, fun isDropped => complete (known.incomplete (dropped ▸ isDropped))⟩
    · simp [appended, known.contiguous, List.range'_concat, ObservationCollector.observation,
        Nat.add_comm]
    · rw [appended, List.length_append, List.length_singleton]
      exact room

/-- What is emitted without a drop is appended. -/
theorem events_emit (emitted : collector.emit config kind context target = .ok after)
    (undropped : after.dropped = false) :
    after.events = collector.events ++ [collector.observation kind context target] := by
  rcases emit_cases emitted with ⟨-, -, -, dropped⟩ | ⟨-, appended, -⟩
  · rw [dropped] at undropped
    cases undropped
  · exact appended

end Growing

/-! ## Callbacks keep what was observed -/

/-- What a callback keeps of the engine. -/
structure Proceeds (config : TraceConfig) (before after : ExactTraceEngine) : Prop where
  grows : Grows config.toCollectorConfig before.collector after.collector
  disabled : after.disabled = true → before.disabled = true ∨ after.collector.complete = false
  enabled : after.disabled = false → before.disabled = false

section Callbacks

variable {config : TraceConfig} {engine before after later : ExactTraceEngine}

theorem Proceeds.refl : Proceeds config engine engine := ⟨.refl, .inl, id⟩

theorem Proceeds.trans (first : Proceeds config before after)
    (second : Proceeds config after later) : Proceeds config before later where
  grows := first.grows.trans second.grows
  disabled isDisabled := by
    rcases second.disabled isDisabled with earlier | incomplete
    · exact (first.disabled earlier).imp_right second.grows.complete
    · exact .inr incomplete
  enabled := first.enabled ∘ second.enabled

theorem Proceeds.intact (proceeds : Proceeds config before after) (intact : after.Intact) :
    before.Intact :=
  ⟨proceeds.grows.dropped intact.1, proceeds.enabled intact.2⟩

theorem not_intact_failClosed : ¬ engine.failClosed.Intact := fun intact => by cases intact.2

theorem proceeds_failClosed : Proceeds config engine engine.failClosed where
  grows := grows_fail _
  disabled _ := .inr rfl
  enabled isEnabled := by cases isEnabled

theorem proceeds_setState (frameId : Nat) (state : Option FrameState) :
    Proceeds config engine (engine.setState frameId state) := ⟨.refl, .inl, id⟩

theorem proceeds_collector {collector : ObservationCollector}
    (grows : Grows config.toCollectorConfig engine.collector collector) :
    Proceeds config engine { engine with collector } := ⟨grows, .inl, id⟩

theorem proceeds_reportUncorrelated (files : Files) (code : CodeType) :
    Proceeds config engine (engine.reportUncorrelated config files code) := by
  unfold reportUncorrelated matchesAnyTargetCode
  dsimp only
  split
  all_goals
    split
    · exact ⟨grows_fail _, .inl, id⟩
    · exact ⟨.refl, .inl, id⟩

theorem proceeds_follow (frameId : Nat) (state : FrameState) :
    Proceeds config engine (engine.follow config frameId state).1 := by
  unfold ExactTraceEngine.follow
  dsimp only
  split
  next => exact proceeds_setState frameId _
  next =>
    split
    next => exact (proceeds_setState frameId _).trans proceeds_failClosed
    next emitted =>
      exact (proceeds_setState frameId _).trans (proceeds_collector (grows_emit emitted))

theorem proceeds_globalTrace (frame : Frame) (call : Call) :
    Proceeds config engine (engine.globalTrace config frame call).1 := by
  unfold globalTrace
  split
  next => exact .refl
  next =>
    split
    next => exact proceeds_failClosed
    next =>
      split
      next => exact proceeds_reportUncorrelated _ _
      next =>
        split
        next => exact proceeds_failClosed
        next =>
          split
          next => exact proceeds_failClosed
          next =>
            split
            next => exact proceeds_reportUncorrelated _ _
            next =>
              split
              next => exact .refl
              next =>
                split
                next => exact proceeds_follow _ _
                next => exact .refl

theorem grows_settlePending {collector settled : ObservationCollector} {state after : FrameState}
    {event : TraceEvent}
    (isSettled : settlePending config collector state event = .ok (settled, after)) :
    Grows config.toCollectorConfig collector settled := by
  unfold settlePending at isSettled
  split at isSettled
  next =>
    cases isSettled
    exact .refl
  next =>
    split at isSettled
    next =>
      obtain ⟨emitted, isEmitted, equal⟩ := (bind_eq_ok _ _ _).mp isSettled
      cases equal
      exact grows_emit isEmitted
    next =>
      split at isSettled
      next =>
        obtain ⟨emitted, isEmitted, equal⟩ := (bind_eq_ok _ _ _).mp isSettled
        cases equal
        exact grows_emit isEmitted
      next =>
        cases isSettled
        exact .refl

theorem proceeds_traceOpcode (frame : Frame) (state : FrameState) (lasti : Nat) :
    Proceeds config engine (engine.traceOpcode config frame state lasti).1 := by
  unfold traceOpcode
  dsimp only
  split
  next => exact proceeds_setState frame.id _
  next =>
    split
    next => exact (proceeds_setState frame.id _).trans proceeds_failClosed
    next emitted =>
      exact ((proceeds_setState frame.id _).trans (proceeds_collector (grows_emit emitted))).trans
        (proceeds_setState frame.id _)

theorem proceeds_traceReturn (frame : Frame) (state : FrameState) (lasti : Nat) :
    Proceeds config engine (engine.traceReturn config frame state lasti).1 := by
  unfold traceReturn
  dsimp only
  split
  next => exact .refl
  next =>
    split
    next => exact proceeds_setState frame.id _
    next =>
      split
      next => exact proceeds_setState frame.id _
      next =>
        split
        next => exact proceeds_failClosed
        next emitted =>
          exact (proceeds_collector (grows_emit emitted)).trans (proceeds_setState frame.id _)

theorem proceeds_localTrace (frame : Frame) (event : TraceEvent) (lasti : Nat) :
    Proceeds config engine (engine.localTrace config frame event lasti).1 := by
  unfold localTrace
  split
  next => exact .refl
  next =>
    split
    next => exact .refl
    next =>
      split
      next => exact proceeds_failClosed
      next collector state settled =>
        have settles : Proceeds config engine
            ({ engine with collector }.setState frame.id (some state)) :=
          (proceeds_collector (grows_settlePending settled)).trans (proceeds_setState frame.id _)
        cases event with
        | opcode => exact settles.trans (proceeds_traceOpcode frame state lasti)
        | exception => exact settles.trans (proceeds_setState frame.id _)
        | line => exact settles.trans (proceeds_setState frame.id _)
        | call => exact settles
        | returns => exact settles.trans (proceeds_traceReturn frame state lasti)

end Callbacks

/-! ## What a callback does -/

section Appending

variable (node : GraphNodeId) (earlier later : List RuntimeObservationEvent)

theorem reached_append :
    reached node (earlier ++ later) = reached node earlier + reached node later :=
  List.countP_append

theorem completed_append :
    completed node (earlier ++ later) = completed node earlier + completed node later :=
  List.countP_append

theorem raised_append :
    raised node (earlier ++ later) = raised node earlier + raised node later :=
  List.countP_append

theorem entered_append : entered (earlier ++ later) = entered earlier + entered later :=
  List.countP_append

theorem terminal_append : terminal (earlier ++ later) = terminal earlier + terminal later :=
  List.countP_append

end Appending

/-- What an engine that starts to follow a frame observes: that a customer value was entered. -/
structure EntryEffect (observed : List RuntimeObservationEvent) (state : FrameState) : Prop where
  unpending : state.pendingMutation = none
  enters : entered observed = if state.customer.isSome then 1 else 0
  unleft : terminal observed = 0
  mutations : ∀ node, reached node observed = 0 ∧ completed node observed = 0 ∧
    raised node observed = 0

/-- What an engine observes between two states of a frame. -/
structure LocalEffect (observed : List RuntimeObservationEvent) (before after : Option FrameState) :
    Prop where
  unentered : entered observed = 0
  leavesOnce : terminal observed ≤ 1
  /-- A state that is kept has its customer value, which was not left. -/
  kept : ∀ state ∈ after, terminal observed = 0 ∧
    before.bind (·.customer) = state.customer
  mutations : ∀ node, reached node observed + (pendsAt node before).toNat =
    completed node observed + raised node observed + (pendsAt node after).toNat

theorem LocalEffect.refl (state : Option FrameState) : LocalEffect [] state state where
  unentered := rfl
  leavesOnce := Nat.zero_le 1
  kept kept isKept := by
    cases isKept
    exact ⟨rfl, rfl⟩
  mutations node := by simp [reached, completed, raised, countMutation]

/-- Whether an exception is pending is not observed. -/
theorem LocalEffect.withException {observed : List RuntimeObservationEvent}
    {before : Option FrameState} {state : FrameState}
    (effect : LocalEffect observed before (some state)) (pendingException : Bool) :
    LocalEffect observed before (some { state with pendingException }) where
  unentered := effect.unentered
  leavesOnce := effect.leavesOnce
  kept kept isKept := by
    cases isKept
    exact effect.kept state rfl
  mutations := effect.mutations

/-- The effects of the parts of a callback add up. -/
theorem LocalEffect.trans {first second : List RuntimeObservationEvent}
    {before after : Option FrameState} {state : FrameState}
    (earlier : LocalEffect first before (some state))
    (later : LocalEffect second (some state) after) :
    LocalEffect (first ++ second) before after where
  unentered := by rw [entered_append, earlier.unentered, later.unentered]
  leavesOnce := by
    rw [terminal_append, (earlier.kept state rfl).1, Nat.zero_add]
    exact later.leavesOnce
  kept kept isKept := by
    obtain ⟨unleft, same⟩ := earlier.kept state rfl
    obtain ⟨still, customer⟩ := later.kept kept isKept
    exact ⟨by rw [terminal_append, unleft, still], same.trans customer⟩
  mutations node := by
    have first := earlier.mutations node
    have second := later.mutations node
    rw [reached_append, completed_append, raised_append]
    omega

section Effects

variable {config : TraceConfig} {engine after : ExactTraceEngine} {frame : Frame}

theorem reportUncorrelated_states (files : Files) (code : CodeType) :
    (engine.reportUncorrelated config files code).states = engine.states ∧
      (engine.reportUncorrelated config files code).collector.events =
        engine.collector.events := by
  unfold reportUncorrelated matchesAnyTargetCode
  dsimp only
  split
  all_goals
    split
    all_goals exact ⟨rfl, rfl⟩

theorem follow_effect {frameId : Nat} {state : FrameState} {traced : Bool}
    (unpending : state.pendingMutation = none)
    (follows : engine.follow config frameId state = (after, traced)) (intact : after.Intact) :
    traced = true ∧ after.states = Function.update engine.states frameId (some state) ∧
      ∃ observed, after.collector.events = engine.collector.events ++ observed ∧
        EntryEffect observed state := by
  unfold ExactTraceEngine.follow at follows
  dsimp only at follows
  split at follows
  next absent =>
    cases follows
    refine ⟨rfl, rfl, [], (List.append_nil _).symm, unpending, ?_, rfl, fun node => ⟨rfl, rfl, rfl⟩⟩
    simp [absent, entered]
  next customer isCustomer =>
    split at follows
    next =>
      cases follows
      exact absurd intact not_intact_failClosed
    next collector emitted =>
      cases follows
      refine ⟨rfl, rfl, _, events_emit emitted intact.1, unpending, ?_, ?_, fun node => ?_⟩
      · simp [isCustomer, entered, ObservationCollector.observation]
      · simp [terminal, ObservationCollector.observation]
      · simp [reached, completed, raised, countMutation, ObservationCollector.observation]

/-- A call leaves the states as they are, or the engine starts to follow the frame. -/
theorem globalTrace_effect {call : Call} {traced : Bool}
    (traces : engine.globalTrace config frame call = (after, traced)) (intact : after.Intact) :
    after.states = engine.states ∧ after.collector.events = engine.collector.events ∧
        (traced = true → (engine.states frame.id).isSome) ∨
      engine.states frame.id = none ∧ traced = true ∧
        ∃ state observed, after.states = Function.update engine.states frame.id (some state) ∧
          after.collector.events = engine.collector.events ++ observed ∧
          EntryEffect observed state := by
  have unmatched : ∀ code,
      ((engine.reportUncorrelated config call.files code, false) = (after, traced)) →
      after.states = engine.states ∧ after.collector.events = engine.collector.events ∧
        (traced = true → (engine.states frame.id).isSome) := by
    rintro code ⟨⟩
    obtain ⟨states, events⟩ := @reportUncorrelated_states config engine call.files code
    exact ⟨states, events, fun impossible => by cases impossible⟩
  unfold globalTrace at traces
  split at traces
  next =>
    cases traces
    exact .inl ⟨rfl, rfl, fun impossible => by cases impossible⟩
  next =>
    split at traces
    next =>
      cases traces
      exact absurd intact not_intact_failClosed
    next =>
      split at traces
      next => exact .inl (unmatched _ traces)
      next =>
        split at traces
        next =>
          cases traces
          exact absurd intact not_intact_failClosed
        next =>
          split at traces
          next =>
            cases traces
            exact absurd intact not_intact_failClosed
          next =>
            split at traces
            next => exact .inl (unmatched _ traces)
            next =>
              split at traces
              next kept isKept =>
                cases traces
                exact .inl ⟨rfl, rfl, fun _ => by rw [isKept]; rfl⟩
              next absent =>
                split at traces
                next =>
                  obtain ⟨traced, states, observed, events, effect⟩ :=
                    follow_effect rfl traces intact
                  exact .inr ⟨absent, traced, _, observed, states, events, effect⟩
                next =>
                  cases traces
                  exact .inl ⟨rfl, rfl, fun impossible => by cases impossible⟩

theorem settlePending_effect {collector settled : ObservationCollector} {before state : FrameState}
    {event : TraceEvent}
    (settles : settlePending config collector before event = .ok (settled, state))
    (undropped : settled.dropped = false) :
    (event ≠ .call → state.pendingMutation = none) ∧
      ∃ observed, settled.events = collector.events ++ observed ∧
        LocalEffect observed (some before) (some state) := by
  unfold settlePending at settles
  split at settles
  next unpending =>
    cases settles
    exact ⟨fun _ => unpending, [], (List.append_nil _).symm, .refl _⟩
  next pending isPending =>
    split at settles
    next isException =>
      obtain ⟨emitted, isEmitted, equal⟩ := (bind_eq_ok _ _ _).mp settles
      cases equal
      refine ⟨fun _ => rfl, _, events_emit isEmitted undropped, ?_, ?_, ?_, fun node => ?_⟩
      · simp [entered, ObservationCollector.observation]
      · simp [terminal, ObservationCollector.observation]
      · rintro state ⟨⟩
        exact ⟨by simp [terminal, ObservationCollector.observation], rfl⟩
      · by_cases same : pending.mutationNodeId = node
        all_goals
          simp [reached, completed, raised, countMutation, ObservationCollector.observation,
            pendsAt, isPending, MutationTraceTarget.observed, same]
    next =>
      split at settles
      next =>
        obtain ⟨emitted, isEmitted, equal⟩ := (bind_eq_ok _ _ _).mp settles
        cases equal
        refine ⟨fun _ => rfl, _, events_emit isEmitted undropped, ?_, ?_, ?_, fun node => ?_⟩
        · simp [entered, ObservationCollector.observation]
        · simp [terminal, ObservationCollector.observation]
        · rintro state ⟨⟩
          exact ⟨by simp [terminal, ObservationCollector.observation], rfl⟩
        · by_cases same : pending.mutationNodeId = node
          all_goals
            simp [reached, completed, raised, countMutation, ObservationCollector.observation,
              pendsAt, isPending, MutationTraceTarget.observed, same]
      next unhandled elsewhere =>
        cases settles
        refine ⟨fun uncalled => ?_, [], (List.append_nil _).symm, .refl _⟩
        cases event <;> simp_all

theorem traceOpcode_effect {state : FrameState} {lasti : Nat} {traced : Bool}
    (unpending : state.pendingMutation = none)
    (traces : engine.traceOpcode config frame state lasti = (after, traced))
    (intact : after.Intact) :
    ∃ kept observed, after.states = Function.update engine.states frame.id (some kept) ∧
      after.collector.events = engine.collector.events ++ observed ∧
      LocalEffect observed (some state) (some kept) := by
  unfold traceOpcode at traces
  dsimp only at traces
  split at traces
  next =>
    cases traces
    refine ⟨_, [], rfl, (List.append_nil _).symm, rfl, Nat.zero_le 1, ?_, fun node => ?_⟩
    · rintro kept ⟨⟩
      exact ⟨rfl, rfl⟩
    · simp [reached, completed, raised, countMutation, pendsAt]
  next mutation _ =>
    split at traces
    next =>
      cases traces
      exact absurd intact not_intact_failClosed
    next collector emitted =>
      cases traces
      refine ⟨_, _, Function.update_idem _ _ _, events_emit emitted intact.1, ?_, ?_, ?_,
        fun node => ?_⟩
      · simp [entered, ObservationCollector.observation]
      · simp [terminal, ObservationCollector.observation]
      · rintro kept ⟨⟩
        exact ⟨by simp [terminal, ObservationCollector.observation], rfl⟩
      · by_cases same : mutation.mutationNodeId = node
        all_goals
          simp [reached, completed, raised, countMutation, ObservationCollector.observation,
            pendsAt, unpending, MutationTraceTarget.observed, same]

/-- A return that is not a yield ends the state of the frame. -/
theorem traceReturn_effect {state : FrameState} {lasti : Nat} {traced : Bool}
    (unpending : state.pendingMutation = none) (isState : engine.states frame.id = some state)
    (traces : engine.traceReturn config frame state lasti = (after, traced))
    (intact : after.Intact) :
    ∃ observed, after.collector.events = engine.collector.events ++ observed ∧
      after.states = Function.update engine.states frame.id
        (if frame.code.opnameAt lasti = some "YIELD_VALUE" then some state else none) ∧
      LocalEffect observed (some state)
        (if frame.code.opnameAt lasti = some "YIELD_VALUE" then some state else none) := by
  have dropped : LocalEffect [] (some state) none := by
    refine ⟨rfl, Nat.zero_le 1, ?_, fun node => ?_⟩
    · rintro kept ⟨⟩
    · simp [reached, completed, raised, countMutation, pendsAt, unpending]
  unfold traceReturn at traces
  dsimp only at traces
  split at traces
  next yields =>
    cases traces
    rw [if_pos yields, ← isState, Function.update_eq_self, isState]
    exact ⟨[], (List.append_nil _).symm, rfl, .refl _⟩
  next returns =>
    rw [if_neg returns]
    split at traces
    next =>
      cases traces
      exact ⟨[], (List.append_nil _).symm, rfl, dropped⟩
    next customer _ =>
      split at traces
      next =>
        cases traces
        exact ⟨[], (List.append_nil _).symm, rfl, dropped⟩
      next =>
        split at traces
        next =>
          cases traces
          exact absurd intact not_intact_failClosed
        next collector emitted =>
          cases traces
          refine ⟨_, events_emit emitted intact.1, rfl, ?_, ?_, ?_, fun node => ?_⟩
          · by_cases normal : frame.code.opnameAt lasti = some "RETURN_VALUE"
            all_goals simp [entered, ObservationCollector.observation, normal]
          · exact List.countP_le_length
          · rintro kept ⟨⟩
          · by_cases normal : frame.code.opnameAt lasti = some "RETURN_VALUE"
            all_goals
              simp [reached, completed, raised, countMutation, ObservationCollector.observation,
                pendsAt, unpending, normal]

/-- What a callback does for the state of a frame. -/
theorem localTrace_effect {event : TraceEvent} {lasti : Nat} {traced : Bool}
    (traces : engine.localTrace config frame event lasti = (after, traced))
    (intact : after.Intact) :
    ∃ kept observed, after.states = Function.update engine.states frame.id kept ∧
      after.collector.events = engine.collector.events ++ observed ∧
      LocalEffect observed (engine.states frame.id) kept ∧
      (event = .returns → ∀ node, pendsAt node kept = false) ∧
      kept.isSome = ((engine.states frame.id).isSome && !(decide (event = .returns) &&
        decide (frame.code.opnameAt lasti ≠ some "YIELD_VALUE"))) := by
  unfold localTrace at traces
  split at traces
  next disabled =>
    cases traces
    rw [intact.2] at disabled
    cases disabled
  next =>
    split at traces
    next absent =>
      cases traces
      refine ⟨none, [], ?_, (List.append_nil _).symm, ?_, fun _ _ => rfl, by simp [absent]⟩
      · rw [← absent, Function.update_eq_self]
      · rw [absent]
        exact .refl none
    next state isState =>
      rw [isState]
      split at traces
      next =>
        cases traces
        exact absurd intact not_intact_failClosed
      next collector settled settles =>
        cases event with
        | opcode =>
          have proceeds := @proceeds_traceOpcode config
            ({ engine with collector }.setState frame.id (some settled)) frame settled lasti
          rw [show traceOpcode config _ frame settled lasti = (after, traced) from traces]
            at proceeds
          obtain ⟨unpending, first, appended, effect⟩ :=
            settlePending_effect settles (proceeds.intact intact).1
          obtain ⟨kept, second, states, events, later⟩ :=
            traceOpcode_effect (unpending (by decide)) traces intact
          refine ⟨some kept, first ++ second, ?_, ?_, effect.trans later, by simp, by simp⟩
          · exact states.trans (Function.update_idem _ _ _)
          · rw [events, ← List.append_assoc, ← appended]
            rfl
        | exception =>
          cases traces
          obtain ⟨-, first, appended, effect⟩ := settlePending_effect settles intact.1
          exact ⟨_, first, Function.update_idem _ _ _, appended, effect.withException _,
            by simp, by simp⟩
        | line =>
          cases traces
          obtain ⟨-, first, appended, effect⟩ := settlePending_effect settles intact.1
          exact ⟨_, first, Function.update_idem _ _ _, appended, effect.withException _,
            by simp, by simp⟩
        | call =>
          cases traces
          obtain ⟨-, first, appended, effect⟩ := settlePending_effect settles intact.1
          exact ⟨_, first, rfl, appended, effect, by simp, by simp⟩
        | returns =>
          have proceeds := @proceeds_traceReturn config
            ({ engine with collector }.setState frame.id (some settled)) frame settled lasti
          rw [show traceReturn config _ frame settled lasti = (after, traced) from traces]
            at proceeds
          obtain ⟨unpending, first, appended, effect⟩ :=
            settlePending_effect settles (proceeds.intact intact).1
          obtain ⟨second, events, states, later⟩ := traceReturn_effect (unpending (by decide))
            (Function.update_self _ _ _) traces intact
          refine ⟨_, first ++ second, states.trans (Function.update_idem _ _ _), ?_,
            effect.trans later, fun _ node => ?_, ?_⟩
          · rw [events, ← List.append_assoc, ← appended]
            rfl
          · split
            · simp [pendsAt, unpending (by decide)]
            · rfl
          · split
            next yields => simp [yields]
            next returns => simp [returns]

end Effects

/-! ## One event -/

/-- Frame ids and numbers tell live activations apart, and nothing is kept of an activation that has
not begun. -/
structure Machine.Placed (m : Machine) : Prop where
  ids : (m.live.map (·.frame.id)).Nodup
  numbers : (m.live.map (·.number)).Nodup
  liveBegun : ∀ activation ∈ m.live, activation.number < m.begun
  logBegun : ∀ entry ∈ m.log, entry.1 < m.begun
  customersBegun : ∀ number ∈ m.customers, number < m.begun

/-- The counts of an intact engine. -/
structure Machine.Tallied (m : Machine) : Prop where
  entries : ∀ number, entered (m.of number) = if number ∈ m.customers then 1 else 0
  leaves : ∀ number, terminal (m.of number) ≤ 1
  mutations : ∀ node, reached node m.events =
    completed node m.events + raised node m.events + m.pending node

/-- What an intact engine knows of a live activation. -/
structure Machine.Attended (m : Machine) (activation : Activation) : Prop where
  unleft : terminal (m.of activation.number) = 0
  /-- The state of a customer value holds it. -/
  customer : activation.number ∈ m.customers ↔
    ((m.engine.states activation.frame.id).bind (·.customer)).isSome
  traced : (m.engine.states activation.frame.id).isSome → activation.traced = true

structure Machine.Balanced (m : Machine) : Prop where
  tallied : m.Tallied
  attended : ∀ activation ∈ m.live, m.Attended activation

/-- What changes at one live activation. -/
theorem countP_update {live : List Activation} (ids : (live.map (·.frame.id)).Nodup)
    {activation : Activation} (isLive : activation ∈ live) (states : Nat → Option FrameState)
    (kept : Option FrameState) (holds : Option FrameState → Bool) :
    live.countP (fun other =>
        holds (Function.update states activation.frame.id kept other.frame.id)) +
        (holds (states activation.frame.id)).toNat =
      live.countP (fun other => holds (states other.frame.id)) + (holds kept).toNat := by
  induction live with
  | nil => cases isLive
  | cons first rest induction =>
    obtain ⟨absent, distinct⟩ := List.nodup_cons.mp ids
    rw [List.countP_cons, List.countP_cons]
    cases isLive with
    | head =>
      have elsewhere : ∀ other ∈ rest, other.frame.id ≠ activation.frame.id := by
        intro other isOther same
        exact absent (List.mem_map.mpr ⟨other, isOther, same⟩)
      have same : rest.countP (fun other =>
          holds (Function.update states activation.frame.id kept other.frame.id)) =
          rest.countP (fun other => holds (states other.frame.id)) := by
        refine List.countP_congr fun other isOther => ?_
        rw [Function.update_of_ne (elsewhere other isOther)]
      rw [same, Function.update_self]
      cases holds kept <;> cases holds (states activation.frame.id) <;> simp
    | tail _ isLive =>
      have differs : first.frame.id ≠ activation.frame.id := by
        intro same
        exact absent (List.mem_map.mpr ⟨activation, isLive, same.symm⟩)
      rw [Function.update_of_ne differs]
      have later := induction distinct isLive
      omega

namespace Machine

variable {config : TraceConfig} {m : Machine} {activation other : Activation}
  {engine : ExactTraceEngine} {observed : List RuntimeObservationEvent}

theorem of_record (appended : engine.collector.events = m.events ++ observed)
    (number recorded : Nat) :
    (m.record recorded engine).of number =
      m.of number ++ if number = recorded then observed else [] := by
  have new : engine.collector.events.drop m.events.length = observed := by
    rw [appended, List.drop_left]
  simp only [of, record, new, List.filter_append, List.map_append, List.append_cancel_left_eq]
  split
  next same =>
    subst same
    simp [List.filter_map, Function.comp_def]
  next differs =>
    have elsewhere : ¬ recorded = number := fun same => differs same.symm
    simp [List.filter_map, Function.comp_def, elsewhere]

theorem Placed.eq_of_id (placed : m.Placed) (isLive : activation ∈ m.live)
    (isOther : other ∈ m.live) (same : other.frame.id = activation.frame.id) :
    other = activation :=
  List.inj_on_of_nodup_map placed.ids isOther isLive same

theorem Placed.eq_of_number (placed : m.Placed) (isLive : activation ∈ m.live)
    (isOther : other ∈ m.live) (same : other.number = activation.number) : other = activation :=
  List.inj_on_of_nodup_map placed.numbers isOther isLive same

theorem Placed.record (placed : m.Placed) (isLive : activation ∈ m.live) :
    (m.record activation.number engine).Placed where
  ids := placed.ids
  numbers := placed.numbers
  liveBegun := placed.liveBegun
  logBegun entry isEntry := by
    rcases List.mem_append.mp isEntry with earlier | later
    · exact placed.logBegun entry earlier
    · obtain ⟨event, -, rfl⟩ := List.mem_map.mp later
      exact placed.liveBegun activation isLive
  customersBegun := placed.customersBegun

theorem mem_install {frameId : Nat} :
    other ∈ (m.install frameId).live ↔
      ∃ before ∈ m.live, other.number = before.number ∧ other.frame = before.frame ∧
        other.traced = (before.traced || decide (before.frame.id = frameId)) := by
  rw [install, List.mem_map]
  constructor
  · rintro ⟨before, isLive, rfl⟩
    refine ⟨before, isLive, ?_⟩
    split
    next here => simp [here]
    next elsewhere => simp [elsewhere]
  · rintro ⟨before, isLive, number, frame, traced⟩
    refine ⟨before, isLive, ?_⟩
    cases other
    dsimp only at number frame traced
    subst number frame traced
    split
    next here => simp [here]
    next elsewhere => simp [elsewhere]

theorem map_install {β : Type} (m : Machine) (frameId : Nat) (key : Activation → β)
    (untraced : ∀ activation traced, key { activation with traced } = key activation) :
    (m.install frameId).live.map key = m.live.map key := by
  rw [install, List.map_map]
  refine List.map_congr_left fun other _ => ?_
  rw [Function.comp_apply]
  split
  · exact untraced other true
  · rfl

theorem pending_install (m : Machine) (frameId : Nat) (node : GraphNodeId) :
    (m.install frameId).pending node = m.pending node := by
  have frames := map_install m frameId (·.frame.id) fun _ _ => rfl
  have counts : ∀ live : List Activation, live.countP (fun activation =>
      pendsAt node (m.engine.states activation.frame.id)) =
      (live.map (·.frame.id)).countP fun id => pendsAt node (m.engine.states id) := by
    intro live
    rw [List.countP_map]
    rfl
  show (m.install frameId).live.countP _ = m.live.countP _
  exact (counts _).trans ((congrArg _ frames).trans (counts _).symm)

theorem Placed.follow (placed : m.Placed) (isLive : activation ∈ m.live) :
    (m.follow activation).Placed := by
  have ids := map_install m activation.frame.id (·.frame.id) fun _ _ => rfl
  have numbers := map_install m activation.frame.id (·.number) fun _ _ => rfl
  refine ⟨ids.symm ▸ placed.ids, numbers.symm ▸ placed.numbers, ?_, placed.logBegun, ?_⟩
  · intro other isOther
    obtain ⟨before, wasLive, number, -⟩ := mem_install.mp isOther
    rw [number]
    exact placed.liveBegun before wasLive
  · intro number isCustomer
    dsimp only [Machine.follow] at isCustomer
    split at isCustomer
    · rcases List.mem_insert_iff.mp isCustomer with rfl | earlier
      · exact placed.liveBegun activation isLive
      · exact placed.customersBegun number earlier
    · exact placed.customersBegun number isCustomer

theorem Placed.call (placed : m.Placed) (isLive : activation ∈ m.live) (call : Call) :
    (m.call config activation call).Placed := by
  unfold Machine.call
  dsimp only
  split
  · exact (placed.record isLive).follow isLive
  · exact placed.record isLive

theorem Placed.trace (placed : m.Placed) (isLive : activation ∈ m.live) (event : TraceEvent)
    (lasti : Nat) : (m.trace config activation event lasti).Placed := by
  unfold Machine.trace
  split
  · exact placed.record isLive
  · exact placed

theorem Placed.start (placed : m.Placed) {frame : Frame}
    (apart : frame.id ∉ m.live.map (·.frame.id)) : (m.start frame).Placed where
  ids := by
    rw [Machine.start, List.map_append, List.nodup_append]
    refine ⟨placed.ids, List.nodup_singleton _, ?_⟩
    rintro id isId other isOther rfl
    rw [List.map_singleton, List.mem_singleton] at isOther
    exact apart (isOther ▸ isId)
  numbers := by
    rw [Machine.start, List.map_append, List.nodup_append]
    refine ⟨placed.numbers, List.nodup_singleton _, ?_⟩
    rintro number isNumber other isOther rfl
    obtain ⟨before, wasLive, rfl⟩ := List.mem_map.mp isNumber
    rw [List.map_singleton, List.mem_singleton] at isOther
    exact absurd isOther (Nat.ne_of_lt (placed.liveBegun before wasLive))
  liveBegun other isOther := by
    rcases List.mem_append.mp isOther with earlier | new
    · exact Nat.lt_succ_of_lt (placed.liveBegun other earlier)
    · rw [List.mem_singleton] at new
      subst new
      exact Nat.lt_succ_self m.begun
  logBegun entry isEntry := Nat.lt_succ_of_lt (placed.logBegun entry isEntry)
  customersBegun number isCustomer := Nat.lt_succ_of_lt (placed.customersBegun number isCustomer)

theorem Placed.leave (placed : m.Placed) (frameId : Nat) : (m.leave frameId).Placed where
  ids := placed.ids.sublist (List.filter_sublist.map _)
  numbers := placed.numbers.sublist (List.filter_sublist.map _)
  liveBegun other isOther := placed.liveBegun other (List.mem_of_mem_filter isOther)
  logBegun := placed.logBegun
  customersBegun := placed.customersBegun

theorem Balanced.start (balanced : m.Balanced) (placed : m.Placed) {frame : Frame}
    (fresh : m.engine.states frame.id = none) : (m.start frame).Balanced where
  tallied := by
    refine ⟨balanced.tallied.entries, balanced.tallied.leaves, fun node => ?_⟩
    have unpending : (m.start frame).pending node = m.pending node := by
      simp [Machine.pending, Machine.start, pendsAt, fresh]
    rw [unpending]
    exact balanced.tallied.mutations node
  attended other isOther := by
    rcases List.mem_append.mp isOther with earlier | new
    · obtain ⟨unleft, customer, traced⟩ := balanced.attended other earlier
      exact ⟨unleft, customer, traced⟩
    · rw [List.mem_singleton] at new
      subst new
      refine ⟨?_, ?_, ?_⟩
      · have silent : m.of m.begun = [] := by
          rw [of, List.map_eq_nil_iff, List.filter_eq_nil_iff]
          intro entry isEntry
          simpa using Nat.ne_of_lt (placed.logBegun entry isEntry)
        show terminal (m.of m.begun) = 0
        rw [silent]
        rfl
      · have unknown : m.begun ∉ m.customers := fun isCustomer =>
          Nat.ne_of_lt (placed.customersBegun _ isCustomer) rfl
        simp [Machine.start, fresh, unknown]
      · simp [Machine.start, fresh]

/-- A frame leaves once nothing is pending for it. -/
theorem Tallied.leave (tallied : m.Tallied) {frameId : Nat}
    (unpending : ∀ node, pendsAt node (m.engine.states frameId) = false) :
    (m.leave frameId).Tallied where
  entries := tallied.entries
  leaves := tallied.leaves
  mutations node := by
    have same : (m.leave frameId).pending node = m.pending node := by
      unfold Machine.pending
      rw [Machine.leave, List.countP_filter]
      refine List.countP_congr fun other _ => ?_
      by_cases here : other.frame.id = frameId
      · simp [here, unpending]
      · simp [here]
    rw [same]
    exact tallied.mutations node

section Recorded

variable {kept : Option FrameState} (isLive : activation ∈ m.live)
  (changed : engine.states = Function.update m.engine.states activation.frame.id kept)
  (appended : engine.collector.events = m.events ++ observed)

include changed appended

theorem Balanced.record_tallied (balanced : m.Balanced) (placed : m.Placed)
    (isLive : activation ∈ m.live)
    (effect : LocalEffect observed (m.engine.states activation.frame.id) kept) :
    (m.record activation.number engine).Tallied where
  entries number := by
    have entries := balanced.tallied.entries number
    rw [of_record appended, entered_append]
    split
    · rw [effect.unentered]
      exact entries
    · exact entries
  leaves number := by
    rw [of_record appended, terminal_append]
    split
    next same =>
      rw [same, (balanced.attended activation isLive).unleft, Nat.zero_add]
      exact effect.leavesOnce
    next => exact balanced.tallied.leaves number
  mutations node := by
    have known := balanced.tallied.mutations node
    have local_ := effect.mutations node
    have pends := countP_update placed.ids isLive m.engine.states kept (pendsAt node)
    rw [← changed] at pends
    show reached node engine.collector.events = completed node engine.collector.events +
      raised node engine.collector.events + (m.record activation.number engine).pending node
    rw [appended, reached_append, completed_append, raised_append]
    change (m.record activation.number engine).pending node + _ = m.pending node + _ at pends
    omega

theorem Balanced.record_other (balanced : m.Balanced) (placed : m.Placed)
    (isLive : activation ∈ m.live) (isOther : other ∈ m.live) (differs : other ≠ activation) :
    (m.record activation.number engine).Attended other := by
  have number : other.number ≠ activation.number := fun same =>
    differs (placed.eq_of_number isLive isOther same)
  have frame : other.frame.id ≠ activation.frame.id := fun same =>
    differs (placed.eq_of_id isLive isOther same)
  obtain ⟨unleft, customer, traced⟩ := balanced.attended other isOther
  have state : (m.record activation.number engine).engine.states other.frame.id =
      m.engine.states other.frame.id := by
    show engine.states other.frame.id = _
    rw [changed, Function.update_of_ne frame]
  refine ⟨?_, ?_, ?_⟩
  · rw [of_record appended, if_neg number, List.append_nil]
    exact unleft
  · rw [state]
    exact customer
  · rw [state]
    exact traced

/-- An activation whose state is kept is attended. -/
theorem Balanced.record_self {state : FrameState} (balanced : m.Balanced)
    (isLive : activation ∈ m.live)
    (effect : LocalEffect observed (m.engine.states activation.frame.id) kept)
    (isKept : kept = some state) (followed : (m.engine.states activation.frame.id).isSome) :
    (m.record activation.number engine).Attended activation := by
  obtain ⟨unleft, customer, traced⟩ := balanced.attended activation isLive
  obtain ⟨still, same⟩ := effect.kept state isKept
  have after : (m.record activation.number engine).engine.states activation.frame.id =
      some state := by
    show engine.states activation.frame.id = _
    rw [changed, Function.update_self, isKept]
  refine ⟨?_, ?_, fun _ => traced followed⟩
  · rw [of_record appended, if_pos rfl, terminal_append, unleft, still]
  · rw [after, Option.bind_some, ← same]
    exact customer

end Recorded

theorem record_unchanged (m : Machine) (number : Nat) : m.record number m.engine = m := by
  simp [record, events]

theorem localTrace_absent {frame : Frame} (absent : m.engine.states frame.id = none)
    (event : TraceEvent) (lasti : Nat) :
    (m.engine.localTrace config frame event lasti).1 = m.engine := by
  unfold localTrace
  split
  · rfl
  · rw [absent]

theorem proceeds_trace (event : TraceEvent) (lasti : Nat) :
    Proceeds config m.engine (m.trace config activation event lasti).engine := by
  unfold Machine.trace
  split
  · exact proceeds_localTrace _ _ _
  · exact .refl

/-- An event that does not end the frame. -/
theorem Balanced.trace (balanced : m.Balanced) (placed : m.Placed) (isLive : activation ∈ m.live)
    {event : TraceEvent} {lasti : Nat}
    (stays : event = .returns → activation.frame.code.opnameAt lasti = some "YIELD_VALUE")
    (intact : (m.trace config activation event lasti).engine.Intact) :
    (m.trace config activation event lasti).Balanced := by
  unfold Machine.trace at intact ⊢
  by_cases traced : activation.traced = true
  · rw [if_pos traced] at intact ⊢
    cases isState : m.engine.states activation.frame.id with
    | none =>
      rw [localTrace_absent isState, record_unchanged]
      exact balanced
    | some state =>
      obtain ⟨kept, observed, changed, appended, effect, -, remains⟩ :=
        localTrace_effect rfl intact
      have isKept : kept.isSome := by
        rw [remains, isState]
        cases event with
        | returns => simp [stays rfl]
        | _ => simp
      obtain ⟨after, isAfter⟩ := Option.isSome_iff_exists.mp isKept
      refine ⟨balanced.record_tallied changed appended placed isLive effect, ?_⟩
      intro other isOther
      by_cases same : other = activation
      · subst same
        exact balanced.record_self changed appended isLive effect isAfter (by rw [isState]; rfl)
      · exact balanced.record_other changed appended placed isLive isOther same
  · rw [if_neg traced]
    exact balanced

/-- An event that ends the frame. -/
theorem Balanced.ends (balanced : m.Balanced) (placed : m.Placed) (isLive : activation ∈ m.live)
    {lasti : Nat} (intact : (m.trace config activation .returns lasti).engine.Intact) :
    ((m.trace config activation .returns lasti).leave activation.frame.id).Balanced := by
  have leaves : ∀ {after : Machine}, after.live = m.live → after.Tallied →
      (∀ other ∈ m.live, other ≠ activation → after.Attended other) →
      (∀ node, pendsAt node (after.engine.states activation.frame.id) = false) →
      (after.leave activation.frame.id).Balanced := by
    intro after same tallied others unpending
    refine ⟨tallied.leave unpending, fun other isOther => ?_⟩
    obtain ⟨wasLive, elsewhere⟩ := List.mem_filter.mp isOther
    have differs : other ≠ activation := by
      rintro rfl
      simp at elsewhere
    obtain ⟨unleft, customer, traced⟩ := others other (same ▸ wasLive) differs
    exact ⟨unleft, customer, traced⟩
  have unchanged : m.engine.states activation.frame.id = none →
      (m.leave activation.frame.id).Balanced := by
    intro absent
    refine leaves rfl balanced.tallied (fun other isOther _ => balanced.attended other isOther) ?_
    intro node
    rw [absent]
    rfl
  unfold Machine.trace at intact ⊢
  by_cases traced : activation.traced = true
  · rw [if_pos traced] at intact ⊢
    cases isState : m.engine.states activation.frame.id with
    | none =>
      rw [localTrace_absent isState, record_unchanged]
      exact unchanged isState
    | some state =>
      cases result : m.engine.localTrace config activation.frame .returns lasti with
      | mk after answers =>
      rw [result] at intact
      obtain ⟨kept, observed, changed, appended, effect, settled, -⟩ :=
        localTrace_effect result intact
      refine leaves rfl (balanced.record_tallied changed appended placed isLive effect) ?_ ?_
      · intro other isOther differs
        exact balanced.record_other changed appended placed isLive isOther differs
      · intro node
        show pendsAt node (after.states activation.frame.id) = false
        rw [changed, Function.update_self]
        exact settled rfl node
  · rw [if_neg traced]
    cases isState : m.engine.states activation.frame.id with
    | none => exact unchanged isState
    | some state =>
      exact absurd ((balanced.attended activation isLive).traced (by rw [isState]; rfl)) traced

theorem proceeds_call (call : Call) :
    Proceeds config m.engine (m.call config activation call).engine := by
  unfold Machine.call
  dsimp only
  split
  · exact proceeds_globalTrace _ _
  · exact proceeds_globalTrace _ _

/-- A callback that observes nothing and changes no state. -/
theorem Balanced.record_idle (balanced : m.Balanced) (number : Nat)
    (states : engine.states = m.engine.states) (events : engine.collector.events = m.events) :
    (m.record number engine).Balanced := by
  have same : ∀ other, (m.record number engine).of other = m.of other := by
    intro other
    have appended : engine.collector.events = m.events ++ [] := by rw [events, List.append_nil]
    rw [of_record appended]
    simp
  refine ⟨⟨fun other => ?_, fun other => ?_, fun node => ?_⟩, fun other isOther => ?_⟩
  · rw [same]
    exact balanced.tallied.entries other
  · rw [same]
    exact balanced.tallied.leaves other
  · have pending : (m.record number engine).pending node = m.pending node := by
      show List.countP _ _ = List.countP _ _
      rw [show (m.record number engine).engine.states = m.engine.states from states]
      rfl
    rw [pending, show (m.record number engine).events = m.events from events]
    exact balanced.tallied.mutations node
  · obtain ⟨unleft, customer, traced⟩ := balanced.attended other isOther
    refine ⟨by rw [same]; exact unleft, ?_, ?_⟩
    · rw [show (m.record number engine).engine.states = m.engine.states from states]
      exact customer
    · rw [show (m.record number engine).engine.states = m.engine.states from states]
      exact traced

/-- Following an activation again changes nothing. -/
theorem Balanced.follow (balanced : m.Balanced) (isLive : activation ∈ m.live) :
    (m.follow activation).Balanced := by
  have customers : (m.follow activation).customers = m.customers := by
    dsimp only [Machine.follow]
    split
    next holds =>
      exact List.insert_of_mem ((balanced.attended activation isLive).customer.mpr holds)
    next => rfl
  refine ⟨⟨fun number => ?_, balanced.tallied.leaves, fun node => ?_⟩, fun other isOther => ?_⟩
  · rw [customers]
    exact balanced.tallied.entries number
  · rw [show (m.follow activation).pending node = m.pending node from pending_install m _ node]
    exact balanced.tallied.mutations node
  · obtain ⟨before, wasLive, number, frame, installed⟩ := mem_install.mp isOther
    obtain ⟨unleft, customer, traced⟩ := balanced.attended before wasLive
    refine ⟨number ▸ unleft, ?_, fun isKept => ?_⟩
    · rw [customers, number, frame]
      exact customer
    · rw [frame] at isKept
      rw [installed, traced isKept]
      rfl

/-- The engine starts to follow a frame. -/
theorem Balanced.enter {state : FrameState} (balanced : m.Balanced) (placed : m.Placed)
    (isLive : activation ∈ m.live) (absent : m.engine.states activation.frame.id = none)
    (changed : engine.states = Function.update m.engine.states activation.frame.id (some state))
    (appended : engine.collector.events = m.events ++ observed)
    (effect : EntryEffect observed state) :
    ((m.record activation.number engine).follow activation).Balanced := by
  have unknown : activation.number ∉ m.customers := by
    intro isCustomer
    have holds := (balanced.attended activation isLive).customer.mp isCustomer
    rw [absent] at holds
    cases holds
  have states : (m.record activation.number engine).engine.states activation.frame.id =
      some state := by
    show engine.states activation.frame.id = _
    rw [changed, Function.update_self]
  have customers : ((m.record activation.number engine).follow activation).customers =
      if state.customer.isSome then m.customers.insert activation.number else m.customers := by
    dsimp only [Machine.follow]
    rw [states]
    rfl
  have mem_customers : ∀ number, number ∈
      ((m.record activation.number engine).follow activation).customers ↔
        number ∈ m.customers ∨ number = activation.number ∧ state.customer.isSome := by
    intro number
    rw [customers]
    split
    next holds => simp [holds, or_comm]
    next lacks => simp [lacks]
  have events : ∀ number, ((m.record activation.number engine).follow activation).of number =
      m.of number ++ if number = activation.number then observed else [] :=
    fun number => of_record appended number activation.number
  refine ⟨⟨fun number => ?_, fun number => ?_, fun node => ?_⟩, fun other isOther => ?_⟩
  · have entries := balanced.tallied.entries number
    rw [events, entered_append, entries]
    simp only [mem_customers]
    by_cases same : number = activation.number
    · subst same
      simp [unknown, effect.enters]
    · simp [same, entered]
  · rw [events, terminal_append]
    have leaves := balanced.tallied.leaves number
    split
    · rw [effect.unleft]
      exact leaves
    · exact leaves
  · have known := balanced.tallied.mutations node
    obtain ⟨unreached, uncompleted, unraised⟩ := effect.mutations node
    have pends := countP_update placed.ids isLive m.engine.states (some state) (pendsAt node)
    rw [← changed, absent] at pends
    have unpending : pendsAt node (some state) = false := by simp [pendsAt, effect.unpending]
    rw [unpending] at pends
    have same : ((m.record activation.number engine).follow activation).pending node =
        m.pending node := by
      show ((m.record activation.number engine).install activation.frame.id).pending node = _
      rw [pending_install]
      exact pends
    show reached node engine.collector.events = completed node engine.collector.events +
      raised node engine.collector.events + Machine.pending _ node
    rw [same, appended, reached_append, completed_append, raised_append, unreached, uncompleted,
      unraised]
    exact known
  · obtain ⟨before, wasLive, number, frame, installed⟩ := mem_install.mp isOther
    by_cases same : before = activation
    · subst same
      obtain ⟨unleft, -, -⟩ := balanced.attended before isLive
      refine ⟨?_, ?_, fun _ => by rw [installed]; simp⟩
      · rw [number, events, if_pos rfl, terminal_append, unleft, effect.unleft]
      · rw [number, frame, mem_customers]
        rw [show ((m.record before.number engine).follow before).engine.states before.frame.id =
          some state from states]
        simp [unknown]
    · have differs : before.number ≠ activation.number := fun equal =>
        same (placed.eq_of_number isLive wasLive equal)
      obtain ⟨unleft, customer, traced⟩ :=
        balanced.record_other changed appended placed isLive wasLive same
      refine ⟨number ▸ unleft, ?_, fun isKept => ?_⟩
      · rw [number, frame, mem_customers]
        simp only [differs, false_and, or_false]
        exact customer
      · rw [frame] at isKept
        rw [installed, traced isKept]
        rfl

theorem Balanced.call (balanced : m.Balanced) (placed : m.Placed) (isLive : activation ∈ m.live)
    {call : Call} (intact : (m.call config activation call).engine.Intact) :
    (m.call config activation call).Balanced := by
  unfold Machine.call at intact ⊢
  cases result : m.engine.globalTrace config activation.frame call with
  | mk after traced =>
    rw [result] at intact
    have isIntact : after.Intact := by
      dsimp only at intact
      split at intact
      · exact intact
      · exact intact
    dsimp only
    rcases globalTrace_effect result isIntact with ⟨states, events, -⟩ |
      ⟨absent, rfl, state, observed, changed, appended, effect⟩
    · have recorded := balanced.record_idle activation.number states events
      split
      · exact recorded.follow isLive
      · exact recorded
    · exact balanced.enter placed isLive absent changed appended effect

theorem mem_of_activation? {frameId : Nat} (found : m.activation? frameId = some activation) :
    activation ∈ m.live ∧ activation.frame.id = frameId :=
  ⟨List.mem_of_find?_eq_some found, by simpa using List.find?_some found⟩

/-- What one event can do. -/
theorem step_cases {event : FrameEvent} {next : Machine}
    (stepped : m.step config event = some next) :
    (∃ frame call, event = .begins frame call ∧ frame.id ∉ m.live.map (·.frame.id) ∧
        next = (m.start frame).call config ⟨m.begun, frame, false⟩ call) ∨
      ∃ activation ∈ m.live,
        (∃ call, next = m.call config activation call) ∨
        (∃ traceEvent lasti, next = m.trace config activation traceEvent lasti ∧
          (traceEvent = .returns →
            activation.frame.code.opnameAt lasti = some "YIELD_VALUE")) ∨
        ∃ lasti, event = .ends activation.frame.id lasti ∧
          next = (m.trace config activation .returns lasti).leave activation.frame.id := by
  have called : ∀ {frameId : Nat} {act : Activation → Machine},
      (m.activation? frameId).map act = some next →
        ∃ activation ∈ m.live, activation.frame.id = frameId ∧ next = act activation := by
    intro frameId act mapped
    obtain ⟨activation, found, rfl⟩ := Option.map_eq_some_iff.mp mapped
    obtain ⟨isLive, same⟩ := mem_of_activation? found
    exact ⟨activation, isLive, same, rfl⟩
  cases event with
  | begins frame call =>
    simp only [step] at stepped
    split at stepped
    next => cases stepped
    next apart =>
      cases stepped
      exact .inl ⟨frame, call, rfl, apart, rfl⟩
  | resumes frameId call =>
    obtain ⟨activation, isLive, -, rfl⟩ := called stepped
    exact .inr ⟨activation, isLive, .inl ⟨call, rfl⟩⟩
  | line frameId lasti =>
    obtain ⟨activation, isLive, -, rfl⟩ := called stepped
    exact .inr ⟨activation, isLive, .inr (.inl ⟨.line, lasti, rfl, by simp⟩)⟩
  | opcode frameId lasti =>
    obtain ⟨activation, isLive, -, rfl⟩ := called stepped
    exact .inr ⟨activation, isLive, .inr (.inl ⟨.opcode, lasti, rfl, by simp⟩)⟩
  | exception frameId lasti =>
    obtain ⟨activation, isLive, -, rfl⟩ := called stepped
    exact .inr ⟨activation, isLive, .inr (.inl ⟨.exception, lasti, rfl, by simp⟩)⟩
  | suspends frameId lasti =>
    obtain ⟨activation, found, suspended⟩ := Option.bind_eq_some_iff.mp stepped
    split at suspended
    next yields =>
      cases suspended
      exact .inr ⟨activation, (mem_of_activation? found).1,
        .inr (.inl ⟨.returns, lasti, rfl, fun _ => yields⟩)⟩
    next => cases suspended
  | ends frameId lasti =>
    obtain ⟨activation, isLive, rfl, rfl⟩ := called stepped
    exact .inr ⟨activation, isLive, .inr (.inr ⟨lasti, rfl, rfl⟩)⟩

/-- What holds of a machine after any number of events. -/
structure Sound (config : TraceConfig) (m : Machine) : Prop where
  placed : m.Placed
  isSealed : Sealed config.toCollectorConfig m.engine.collector
  disabled : m.engine.disabled = true → m.engine.collector.complete = false

theorem mem_start {frame : Frame} :
    (⟨m.begun, frame, false⟩ : Activation) ∈ (m.start frame).live :=
  List.mem_append_right _ (List.mem_singleton_self _)

theorem proceeds_step {event : FrameEvent} {next : Machine}
    (stepped : m.step config event = some next) : Proceeds config m.engine next.engine := by
  rcases step_cases stepped with ⟨frame, call, -, -, rfl⟩ |
    ⟨activation, isLive, ⟨call, rfl⟩ | ⟨traceEvent, lasti, rfl, -⟩ | ⟨lasti, -, rfl⟩⟩
  · exact @proceeds_call config (m.start frame) _ call
  · exact proceeds_call call
  · exact proceeds_trace traceEvent lasti
  · exact proceeds_trace .returns lasti

theorem Placed.step (placed : m.Placed) {event : FrameEvent} {next : Machine}
    (stepped : m.step config event = some next) : next.Placed := by
  rcases step_cases stepped with ⟨frame, call, -, apart, rfl⟩ |
    ⟨activation, isLive, ⟨call, rfl⟩ | ⟨traceEvent, lasti, rfl, -⟩ | ⟨lasti, -, rfl⟩⟩
  · exact (placed.start apart).call mem_start call
  · exact placed.call isLive call
  · exact placed.trace isLive traceEvent lasti
  · exact (placed.trace isLive .returns lasti).leave _

theorem Sound.step (sound : Sound config m) {event : FrameEvent} {next : Machine}
    (stepped : m.step config event = some next) : Sound config next := by
  have proceeds := proceeds_step stepped
  refine ⟨sound.placed.step stepped, proceeds.grows.isSealed sound.isSealed, fun disabled => ?_⟩
  rcases proceeds.disabled disabled with earlier | incomplete
  · exact proceeds.grows.complete (sound.disabled earlier)
  · exact incomplete

theorem Balanced.step (balanced : m.Balanced) (placed : m.Placed) {event : FrameEvent}
    {next : Machine} (fresh : m.Fresh event) (isIntact : m.engine.Intact)
    (stepped : m.step config event = some next)
    (intact : next.engine.Intact) : next.Balanced := by
  rcases step_cases stepped with ⟨frame, call, rfl, apart, rfl⟩ |
    ⟨activation, isLive, ⟨call, rfl⟩ | ⟨traceEvent, lasti, rfl, stays⟩ | ⟨lasti, -, rfl⟩⟩
  · exact (balanced.start placed (Option.isNone_iff_eq_none.mp (fresh isIntact))).call
      (placed.start apart) mem_start intact
  · exact balanced.call placed isLive intact
  · exact balanced.trace placed isLive stays intact
  · exact balanced.ends placed isLive intact

/-! ## Runs -/

theorem sound_start : Sound config {} where
  placed := ⟨List.nodup_nil, List.nodup_nil, by simp, by simp, by simp⟩
  isSealed := ⟨rfl, Nat.zero_le _, fun dropped => by cases dropped⟩
  disabled isDisabled := by cases isDisabled

theorem balanced_start : ({} : Machine).Balanced where
  tallied := ⟨fun _ => rfl, fun _ => Nat.zero_le 1, fun _ => rfl⟩
  attended := by simp

theorem Sound.run (sound : Sound config m) {events : List FrameEvent} {last : Machine}
    (ran : m.run config events = some last) : Sound config last := by
  induction events generalizing m with
  | nil =>
    cases ran
    exact sound
  | cons event rest induction =>
    obtain ⟨next, stepped, later⟩ := Option.bind_eq_some_iff.mp ran
    exact induction (sound.step stepped) later

theorem proceeds_run {events : List FrameEvent} {last : Machine}
    (ran : m.run config events = some last) : Proceeds config m.engine last.engine := by
  induction events generalizing m with
  | nil =>
    cases ran
    exact .refl
  | cons event rest induction =>
    obtain ⟨next, stepped, later⟩ := Option.bind_eq_some_iff.mp ran
    exact (proceeds_step stepped).trans (induction later)

theorem Balanced.run (balanced : m.Balanced) (sound : Sound config m) {events : List FrameEvent}
    {last : Machine} (fresh : Along config Fresh m events) (ran : m.run config events = some last)
    (intact : last.engine.Intact) : last.Balanced := by
  induction events generalizing m with
  | nil =>
    cases ran
    exact balanced
  | cons event rest induction =>
    obtain ⟨next, stepped, later⟩ := Option.bind_eq_some_iff.mp ran
    have between : next.engine.Intact := (proceeds_run later).intact intact
    have before := (proceeds_step stepped).intact between
    exact induction (balanced.step sound.placed fresh.1 before stepped between)
      (sound.step stepped) (fresh.2 next stepped) later

/-- Every state that is kept is the state of a live activation. -/
def Owned (m : Machine) : Prop :=
  ∀ frameId, (m.engine.states frameId).isSome → frameId ∈ m.live.map (·.frame.id)

/-- A callback for a live activation keeps the states owned. -/
theorem Owned.update {next : Machine} {kept : Option FrameState} (owned : m.Owned)
    (isLive : activation ∈ m.live)
    (ids : next.live.map (·.frame.id) = m.live.map (·.frame.id))
    (changed : next.engine.states =
      Function.update m.engine.states activation.frame.id kept) : next.Owned := by
  intro frameId isKept
  rw [ids]
  by_cases same : frameId = activation.frame.id
  · rw [same]
    exact List.mem_map_of_mem isLive
  · rw [changed, Function.update_of_ne same] at isKept
    exact owned frameId isKept

theorem Owned.call (owned : m.Owned) (isLive : activation ∈ m.live) {call : Call}
    (intact : (m.call config activation call).engine.Intact) :
    (m.call config activation call).Owned := by
  have ids : (m.call config activation call).live.map (·.frame.id) =
      m.live.map (·.frame.id) := by
    unfold Machine.call
    dsimp only
    split
    · exact map_install _ _ (·.frame.id) fun _ _ => rfl
    · rfl
  have engines : (m.call config activation call).engine =
      (m.engine.globalTrace config activation.frame call).1 := by
    unfold Machine.call
    dsimp only
    split
    · rfl
    · rfl
  cases result : m.engine.globalTrace config activation.frame call with
  | mk after traced =>
    rw [result] at engines
    rw [engines] at intact
    rcases globalTrace_effect result intact with ⟨states, -, -⟩ |
      ⟨-, -, state, observed, changed, -, -⟩
    · have changed : after.states = Function.update m.engine.states activation.frame.id
          (m.engine.states activation.frame.id) := by
        rw [states, Function.update_eq_self]
      exact owned.update isLive ids (by rw [engines]; exact changed)
    · exact owned.update isLive ids (by rw [engines]; exact changed)

theorem Owned.trace (owned : m.Owned) (isLive : activation ∈ m.live) {event : TraceEvent}
    {lasti : Nat} (intact : (m.trace config activation event lasti).engine.Intact) :
    (m.trace config activation event lasti).Owned := by
  unfold Machine.trace at intact ⊢
  by_cases traced : activation.traced = true
  · rw [if_pos traced] at intact ⊢
    obtain ⟨kept, observed, changed, -⟩ := localTrace_effect rfl intact
    exact owned.update isLive rfl changed
  · rw [if_neg traced]
    exact owned

/-- A frame that does not end at a yield leaves no state behind. -/
theorem Owned.ends (owned : m.Owned) (balanced : m.Balanced) (isLive : activation ∈ m.live)
    {lasti : Nat} (apart : activation.frame.code.opnameAt lasti ≠ some "YIELD_VALUE")
    (intact : (m.trace config activation .returns lasti).engine.Intact) :
    ((m.trace config activation .returns lasti).leave activation.frame.id).Owned := by
  have gone : (m.trace config activation .returns lasti).engine.states activation.frame.id =
      none := by
    unfold Machine.trace at intact ⊢
    by_cases traced : activation.traced = true
    · rw [if_pos traced] at intact ⊢
      cases result : m.engine.localTrace config activation.frame .returns lasti with
      | mk after answers =>
        rw [result] at intact
        obtain ⟨kept, observed, changed, -, -, -, remains⟩ := localTrace_effect result intact
        show after.states activation.frame.id = none
        rw [changed, Function.update_self]
        simpa [apart] using remains
    · rw [if_neg traced]
      by_contra followed
      have isKept := Option.isSome_iff_ne_none.mpr followed
      exact traced ((balanced.attended activation isLive).traced isKept)
  intro frameId isKept
  obtain ⟨other, isOther, same⟩ := List.mem_map.mp (owned.trace isLive intact frameId isKept)
  refine List.mem_map.mpr ⟨other, List.mem_filter.mpr ⟨isOther, ?_⟩, same⟩
  rw [decide_eq_true_iff]
  intro here
  change ((m.trace config activation .returns lasti).engine.states frameId).isSome at isKept
  rw [← same, here, gone] at isKept
  cases isKept

theorem Owned.step (owned : m.Owned) (placed : m.Placed) (balanced : m.Balanced)
    {event : FrameEvent} {next : Machine} (apart : m.EndsApart event)
    (stepped : m.step config event = some next) (intact : next.engine.Intact) : next.Owned := by
  rcases step_cases stepped with ⟨frame, call, rfl, -, rfl⟩ |
    ⟨activation, isLive, ⟨call, rfl⟩ | ⟨traceEvent, lasti, rfl, -⟩ | ⟨lasti, rfl, rfl⟩⟩
  · refine Owned.call (fun frameId isKept => ?_) mem_start intact
    rw [Machine.start, List.map_append]
    exact List.mem_append_left _ (owned frameId isKept)
  · exact owned.call isLive intact
  · exact owned.trace isLive intact
  · refine owned.ends balanced isLive (apart activation ?_) intact
    exact find?_of_distinct placed.ids isLive

/-- Owned states are not found by an activation that begins. -/
theorem Owned.fresh (owned : m.Owned) {event : FrameEvent} {next : Machine}
    (stepped : m.step config event = some next) : m.Fresh event := by
  rcases step_cases stepped with ⟨frame, call, rfl, apart, rfl⟩ | ⟨activation, isLive, steps⟩
  · intro intact
    rw [Option.isNone_iff_eq_none]
    by_contra followed
    exact apart (owned frame.id (Option.isSome_iff_ne_none.mpr followed))
  · cases event with
    | begins frame call =>
      intro intact
      rw [Option.isNone_iff_eq_none]
      by_contra followed
      simp only [Machine.step, if_pos (owned frame.id (Option.isSome_iff_ne_none.mpr followed))]
        at stepped
      cases stepped
    | _ => trivial

theorem along_fresh (owned : m.Owned) (sound : Sound config m) (balanced : m.Balanced)
    {events : List FrameEvent} {last : Machine} (ran : m.run config events = some last)
    (intact : last.engine.Intact) (apart : Along config EndsApart m events) :
    Along config Fresh m events := by
  induction events generalizing m with
  | nil => trivial
  | cons event rest induction =>
    obtain ⟨next, stepped, later⟩ := Option.bind_eq_some_iff.mp ran
    have between : next.engine.Intact := (proceeds_run later).intact intact
    have before := (proceeds_step stepped).intact between
    have fresh : m.Fresh event := owned.fresh stepped
    refine ⟨fresh, fun other isOther => ?_⟩
    rw [Option.mem_def, stepped, Option.some.injEq] at isOther
    subst isOther
    exact induction (owned.step sound.placed balanced apart.1 stepped between)
      (sound.step stepped) (balanced.step sound.placed fresh before stepped between) later
      (apart.2 next stepped)

end Machine

/-- Where no activation begins on a kept state, every state of a run is counted. -/
theorem run_counted {config : TraceConfig} {events : List FrameEvent} {last : Machine}
    (ran : Machine.run config {} events = some last)
    (fresh : Machine.Along config Machine.Fresh {} events) : Counted config last := by
  have sound := Machine.sound_start.run ran
  have balanced := fun intact => Machine.balanced_start.run Machine.sound_start fresh ran intact
  refine ⟨sound.isSealed.contiguous, sound.isSealed.bounded, ?_, ?_, ?_⟩
  · intro broken
    by_cases dropped : last.engine.collector.dropped = true
    · exact sound.isSealed.incomplete dropped
    · refine sound.disabled ?_
      by_contra enabled
      exact broken ⟨Bool.eq_false_iff.mpr dropped, Bool.eq_false_iff.mpr enabled⟩
  · intro intact number isCustomer
    have tallied := (balanced intact).tallied
    exact ⟨(tallied.entries number).trans (if_pos isCustomer), tallied.leaves number⟩
  · intro intact node
    have known := (balanced intact).tallied.mutations node
    omega


/-- Where no frame ends at a yield, no activation begins on a kept state. -/
theorem fresh_of_endsApart {config : TraceConfig} {events : List FrameEvent} {last : Machine}
    (ran : Machine.run config {} events = some last) (intact : last.engine.Intact)
    (apart : Machine.Along config Machine.EndsApart {} events) :
    Machine.Along config Machine.Fresh {} events := by
  have owned : ({} : Machine).Owned := fun frameId isKept => by cases isKept
  exact Machine.along_fresh owned Machine.sound_start Machine.balanced_start ran intact apart

/-! ## A generator that is closed -/

namespace ClosedGenerator

def code : CodeType where
  equality := 0
  coQualname := "deliveries"
  coFirstlineno := 1
  fingerprint := "sha256:1"
  coFilename := "shop.py"
  instructions := [⟨4, "RESUME"⟩, ⟨10, "YIELD_VALUE"⟩, ⟨12, "RESUME"⟩, ⟨20, "RETURN_VALUE"⟩]

def target : CustomerTraceTarget where
  descriptor := ⟨"shop.py", "deliveries", 1, "sha256:1", 4, .generator⟩
  normalControlId := "sgcontrol_1"
  customerValueNodeId := "sgnode_2"
  customerValueSymbolId := "sgsym_1"

def config : TraceConfig where
  maxEvents := 10000
  sinkRaises _ := false
  positive := one_le_defaultMaxEvents
  customers := [target]
  mutations := []

/-- A call of the webhook's request. -/
def call (lasti : Nat) : Call where
  context := some ⟨"sgsession_1", "sgrequest_1",
    ⟨"sgnode_1", "sgroute_1", "POST", "/webhook", none⟩, some "sgcontrol_1"⟩
  files := ⟨some, some⟩
  probeRaises := false
  lasti

/-- The generator yields once and is closed, and another one gets its frame id. -/
def closed : List FrameEvent :=
  [.begins ⟨1, code⟩ (call 4), .suspends 1 10, .resumes 1 (call 10), .exception 1 10, .ends 1 10,
    .begins ⟨1, code⟩ (call 4)]

/-- The generator yields once and returns, and another one gets its frame id. -/
def exhausted : List FrameEvent :=
  [.begins ⟨1, code⟩ (call 4), .suspends 1 10, .resumes 1 (call 12), .ends 1 20,
    .begins ⟨1, code⟩ (call 4)]

end ClosedGenerator

/-- The second generator is followed as a customer value, and it has not been entered. -/
theorem closedGenerator_uncounted : ∃ last,
    Machine.run ClosedGenerator.config {} ClosedGenerator.closed = some last ∧
      ¬ Counted ClosedGenerator.config last := by
  have ran : (Machine.run ClosedGenerator.config {} ClosedGenerator.closed).map (fun last =>
      (decide last.engine.Intact, last.customers, entered (last.of 1))) =
      some (true, [1, 0], 0) := by decide +kernel
  obtain ⟨last, isLast, observed⟩ := Option.map_eq_some_iff.mp ran
  rw [Prod.mk.injEq, Prod.mk.injEq, decide_eq_true_iff] at observed
  obtain ⟨intact, customers, unentered⟩ := observed
  refine ⟨last, isLast, fun counted => ?_⟩
  have once := (counted.customers intact 1 (by rw [customers]; simp)).1
  rw [unentered] at once
  cases once

/-- A generator that returns leaves no state behind. -/
theorem exhaustedGenerator_counted :
    Counted ClosedGenerator.config ((Machine.run ClosedGenerator.config {}
      ClosedGenerator.exhausted).getD {}) := by
  have ran : (Machine.run ClosedGenerator.config {} ClosedGenerator.exhausted).isSome := by
    decide +kernel
  obtain ⟨last, isLast⟩ := Option.isSome_iff_exists.mp ran
  rw [isLast]
  exact run_counted isLast (by decide +kernel)

end StateGuard
