import StateGuard.Runtime.EventJson
import StateGuard.Runtime.ResponseObservation
import StateGuard.Runtime.RouteAttachment

/-!
# Managed sessions

A managed session is two processes.  The worker (`_serve`) runs the merchant's application, collects
observations, and has a thread write each of them on a line of a file.  The parent
(`ManagedRuntimeSession`) waits for the worker to be ready, sends it requests, asks it to stop, and
reads the file back.  Each side knows of the other only what it finds in the session's directory:
the status that the worker replaces atomically, the stop file, and the observations.

`World.step` is one step of either process, of a thread of the worker, or of what surrounds them: an
application that emits, inputs that change, a process that is killed.  The steps come in any order.
-/

namespace StateGuard

namespace Managed

open KeyOrder
open Python (CodePoint Str)

/-! ## The worker -/

/-- What stops the worker. -/
inductive WorkerFailure where
  | staleSourceIndex
  | staleRuntimeConfig
  | unexpectedServerTermination
  | other (name : String)
  deriving DecidableEq, Repr

/-- `_failure_reason`. -/
def failureReason : WorkerFailure → RuntimeCapabilityReasonCode
  | .staleSourceIndex => .sourceStale
  | .staleRuntimeConfig => .configStale
  | .unexpectedServerTermination => .processCrashed
  | .other _ => .startupFailed

/-- `type(failure).__name__`. -/
def WorkerFailure.name : WorkerFailure → String
  | .staleSourceIndex => "StaleSourceIndexError"
  | .staleRuntimeConfig => "_StaleRuntimeConfigError"
  | .unexpectedServerTermination => "_UnexpectedServerTermination"
  | .other name => name

/-- What the worker does before it serves, in this order. -/
inductive Startup where
  | validating
  | preparing
  | importing
  | revalidating
  | reconciling
  | attaching
  | validatingAttached
  | listening
  deriving DecidableEq, Repr

def Startup.next : Startup → Option Startup
  | .validating => some .preparing
  | .preparing => some .importing
  | .importing => some .revalidating
  | .revalidating => some .reconciling
  | .reconciling => some .attaching
  | .attaching => some .validatingAttached
  | .validatingAttached => some .listening
  | .listening => none

/-- Whether a stage is `_validate_inputs`. -/
def Startup.validates (stage : Startup) : Bool :=
  stage ∈ [Startup.validating, .revalidating, .validatingAttached]

/-- The status of a worker that serves. -/
structure Readiness where
  port : Nat
  attachments : List Routes.RouteAttachment
  liveCustomerIds : List NormalControlId
  liveMutationIds : List GraphNodeId

/-- The last status of a worker. -/
structure Report where
  /-- Whether the state is `CLOSED`, and not `FAILED`. -/
  closed : Bool
  complete : Bool
  diagnostics : List RuntimeCapabilityReasonCode
  eventCount : Nat
  reason : Option RuntimeCapabilityReasonCode
  reference : Option String
  deriving DecidableEq

inductive Status where
  | ready (readiness : Readiness)
  | ended (report : Report)

/-- Where the main thread of the worker is. -/
inductive WorkerPhase where
  | starting (stage : Startup)
  | serving
  /-- The server has been told to exit. -/
  | stopping
  /-- The server has exited. -/
  | revalidating
  /-- In the `finally` block, before `writer.close`. -/
  | closing (failure : Option WorkerFailure)
  /-- The thread has been asked to end, or the queue was full. -/
  | joining (failure : Option WorkerFailure)
  /-- After `writer.close`. -/
  | closed (failure : Option WorkerFailure)
  /-- A failure of the writer has been recorded. -/
  | reporting (failure : Option WorkerFailure)
  | publishing (report : Report)
  | finished
  /-- The process has ended. -/
  | gone
  deriving DecidableEq

/-- `queue.Queue(maxsize=10_001)`. -/
def queueSize : Nat := 10001

/-- `_ObservationWriter`. -/
abbrev Writer := RecordLog.Channel CodePoint RuntimeObservationEvent

/-- `ObservationCollector(event_sink=writer.submit)`. -/
def collectorConfig (writer : Writer) : CollectorConfig where
  maxEvents := 10000
  sinkRaises event := (writer.submit queueSize event).isNone
  positive := one_le_defaultMaxEvents

structure Worker where
  phase : WorkerPhase := .starting .validating
  collector : ObservationCollector := {}
  writer : Writer := {}
  /-- The events of the snapshot that the worker reports. -/
  reported : Option (List RuntimeObservationEvent) := none

namespace Worker

variable (worker : Worker)

/-- `collector.emit`, with what its sink does to the queue. -/
def emit (kind : RuntimeObservationKind) (context : RuntimeRequestContext)
    (target : ObservedTarget) : Except String Worker := do
  let collector ← worker.collector.emit (collectorConfig worker.writer) kind context target
  let sunk := collector.events.drop worker.collector.events.length
  let writer := sunk.foldl (fun writer event => (writer.submit queueSize event).getD writer)
    worker.writer
  return { worker with collector, writer }

/-- The payload of the last status. -/
def report (failure : Option WorkerFailure) : Report where
  closed := failure.isNone
  complete := worker.collector.complete && failure.isNone
  diagnostics := sortedByKey (·.value) worker.collector.diagnostics
  eventCount := worker.collector.events.length
  reason := failure.map failureReason
  reference := failure.map (·.name)

end Worker

/-! ## The parent -/

inductive SessionPhase where
  /-- In `start`, while no status has been read. -/
  | starting
  /-- `start` has raised. -/
  | refused (reason : RuntimeCapabilityReasonCode)
  | serving (readiness : Readiness)
  /-- `_closed` has been set. -/
  | closed
  /-- In `close`, after `_read_events`. -/
  | collected (events : List RuntimeObservationEvent)
  /-- `close` has returned, or raised. -/
  | returned (result : Except String RuntimeObservationTranscript)

/-- `ManagedRuntimeSession`. -/
structure Session where
  phase : SessionPhase := .starting
  requestOrdinal : Nat := 0
  complete : Bool := true
  diagnostics : List RuntimeCapabilityReasonCode := []

namespace Session

variable (session : Session)

/-- What is not complete, for a reason. -/
def fail (reason : RuntimeCapabilityReasonCode) : Session :=
  { session with
    complete := false
    diagnostics := session.diagnostics.insert reason }

/-- `_read_events`. -/
def readEvents (reader : EventReader) (file : Option Str) :
    List RuntimeObservationEvent × Session :=
  match file with
  | none => ([], session.fail .observationChannelFailed)
  | some text =>
    let read := reader.format.readBack text
    (read.1, if read.2 then session else session.fail .observationChannelFailed)

/-- What `close` makes of the last status. -/
def readReport (report : Report) (count : Nat) : Session :=
  let session := { session with diagnostics := session.diagnostics ∪ report.diagnostics }
  let session :=
    if report.closed = false ∨ report.complete = false then
      session.fail (report.reason.getD .processCrashed)
    else session
  if report.eventCount ≠ count then session.fail .observationChannelFailed else session

/-- What `close` makes of the status.  A worker that still serves has no event count. -/
def readStatus (status : Option Status) (count : Nat) : Session :=
  match status with
  | none => session.fail .observationChannelFailed
  | some (.ready _) => (session.fail .processCrashed).fail .observationChannelFailed
  | some (.ended report) => session.readReport report count

def payload (sessionId : RuntimeSessionId) (capabilityFingerprint : Sha256Digest)
    (events : List RuntimeObservationEvent) : TranscriptPayload where
  sessionId
  capabilityFingerprint
  complete := session.complete
  events
  diagnostics := sortedByKey (·.value) session.diagnostics

end Session

/-! ## Both -/

/-- What a session is started with, and what the model takes as given of pydantic and of hashing. -/
structure Setting where
  sessionId : RuntimeSessionId
  reader : EventReader
  fingerprint : TranscriptPayload → Sha256Digest

structure World where
  worker : Worker := {}
  session : Session := {}
  /-- What is in `status.json`. -/
  status : Option Status := none
  /-- Whether the stop file exists. -/
  stop : Bool := false
  /-- Whether the session's directory has been removed. -/
  removed : Bool := false
  /-- What `_validate_inputs` raises now. -/
  inputs : Option WorkerFailure := none

/-- The steps of the worker's main thread. -/
inductive WorkerEvent where
  /-- A stage of the startup is passed, or raises an exception of some class. -/
  | proceeds (raised : Option String)
  /-- The server has started, and the status is written. -/
  | announces (readiness : Readiness)
  | seesStop
  /-- The server exits, and `await task` may raise. -/
  | exits (raised : Option String)
  | validates
  /-- `self.items.put(None, timeout=1)`. -/
  | puts
  /-- `self.thread.join(timeout=5)`, with whether the thread has ended. -/
  | joins (ended : Bool)
  | records
  | snapshots
  /-- The last status is written, or that raises. -/
  | publishes (written : Bool)
  /-- The process ends, once its threads have ended. -/
  | leaves

/-- The steps of the parent. -/
inductive SessionEvent where
  /-- `start` reads a status. -/
  | polls
  /-- `start` stops waiting. -/
  | givesUp
  | requests
  /-- `httpx.request` raises. -/
  | requestFails
  | asksStop
  /-- `_request_graceful_stop` returns. -/
  | closes (cleaned : Bool)
  | collects
  /-- `close` returns, and may remove the directory. -/
  | returns (capabilityFingerprint : Sha256Digest) (removed : Bool)

inductive Event where
  | worker (event : WorkerEvent)
  | thread (event : RecordLog.ThreadEvent)
  | emits (kind : RuntimeObservationKind) (context : RuntimeRequestContext)
      (target : ObservedTarget)
  /-- `collector.fail` is called. -/
  | fails (reason : RuntimeCapabilityReasonCode)
  | killed
  | inputsChange (inputs : Option WorkerFailure)
  | session (event : SessionEvent)

namespace World

variable (setting : Setting) (w : World)

/-! ### The worker's steps -/

def inPhase (phase : WorkerPhase) : World :=
  { w with worker := { w.worker with phase } }

def withWriter (writer : Writer) : World :=
  { w with worker := { w.worker with writer } }

/-- `_validate_inputs`, and then `phase`. -/
def validated (phase : WorkerPhase) : WorkerPhase :=
  match w.inputs with
  | none => phase
  | some failure => .closing (some failure)

/-- Whether the thread of the writer has ended. -/
def ThreadEnded : Prop := w.worker.writer.thread = .ended

instance : Decidable w.ThreadEnded :=
  inferInstanceAs (Decidable (w.worker.writer.thread = .ended))

/-- Where a step leads the main thread. -/
def advance (event : WorkerEvent) : Option WorkerPhase :=
  match event, w.worker.phase with
  | .proceeds none, .starting stage =>
    stage.next.map fun next =>
      if stage.validates then w.validated (.starting next) else .starting next
  | .proceeds (some name), .starting stage =>
    if stage.validates then none else some (.closing (some (.other name)))
  | .announces _, .starting .listening => some .serving
  | .seesStop, .serving => if w.stop then some .stopping else none
  | .exits raised, .serving =>
    if w.stop then none
    else some (.closing (some ((raised.map .other).getD .unexpectedServerTermination)))
  | .exits none, .stopping => some .revalidating
  | .exits (some name), .stopping => some (.closing (some (.other name)))
  | .validates, .revalidating => some (w.validated (.closing none))
  | .puts, .closing failure => some (.joining failure)
  | .joins ended, .joining failure =>
    if ended ∧ ¬ w.ThreadEnded then none else some (.closed failure)
  | .records, .closed failure => some (.reporting failure)
  | .snapshots, .reporting failure => some (.publishing (w.worker.report failure))
  | .publishes _, .publishing _ => some .finished
  | .leaves, .finished => if w.ThreadEnded then some .gone else none
  | _, _ => none

/-- What a step of the main thread does beside. -/
def effect (event : WorkerEvent) : World :=
  match event, w.worker.phase with
  | .announces readiness, _ => { w with status := some (.ready readiness) }
  | .puts, _ =>
    w.withWriter ((w.worker.writer.finish queueSize).getD { w.worker.writer with failed := true })
  | .joins false, _ => w.withWriter { w.worker.writer with failed := true }
  | .records, _ =>
    if w.worker.writer.failed then { w with worker := { w.worker with
      collector := w.worker.collector.fail .observationChannelFailed } }
    else w
  | .snapshots, _ => { w with worker := { w.worker with
      reported := some w.worker.collector.events } }
  | .publishes true, .publishing report => { w with status := some (.ended report) }
  | _, _ => w

/-! ### The parent's steps -/

/-- The process of the worker has ended. -/
def Gone : Prop := w.worker.phase = .gone

instance : Decidable w.Gone := inferInstanceAs (Decidable (w.worker.phase = .gone))

/-- The observations, as the parent finds them. -/
def observations : Option Str := if w.removed then none else w.worker.writer.file

/-- The status, as the parent finds it. -/
def found : Option Status := if w.removed then none else w.status

/-- What `start` makes of a status. -/
def started : Status → SessionPhase
  | .ready readiness => .serving readiness
  | .ended report => .refused (report.reason.getD .startupFailed)

/-- The transcript that `close` makes, and the session after it. -/
def closing (capabilityFingerprint : Sha256Digest) (events : List RuntimeObservationEvent) :
    Session :=
  let session := w.session.readStatus w.found events.length
  { session with
    phase := .returned (sealTranscript setting.fingerprint
      (session.payload setting.sessionId capabilityFingerprint events)) }

def sessionStep (event : SessionEvent) : Option Session :=
  let session := w.session
  match event, session.phase with
  | .polls, .starting => w.found.map fun status => { session with phase := started status }
  | .givesUp, .starting => some
      { session with phase := .refused (if w.Gone then .startupFailed else .startupTimeout) }
  | .requests, .serving _ =>
    if w.Gone then some (session.fail .processCrashed)
    else some { session with requestOrdinal := session.requestOrdinal + 1 }
  | .requests, .closed | .requests, .collected _ | .requests, .returned _ =>
    some (session.fail .processCrashed)
  | .requestFails, .serving _ | .requestFails, .closed | .requestFails, .collected _
  | .requestFails, .returned _ => some { session with complete := false }
  | .asksStop, .serving _ => if w.Gone then none else some session
  | .closes true, .serving _ => if w.Gone then some { session with phase := .closed } else none
  | .closes false, .serving _ => some { session.fail .cleanupFailed with phase := .closed }
  | .collects, .closed | .collects, .returned _ =>
    let read := session.readEvents setting.reader w.observations
    some { read.2 with phase := .collected read.1 }
  | .returns capabilityFingerprint _, .collected events =>
    some (w.closing setting capabilityFingerprint events)
  | _, _ => none

/-- What a step of the parent does to the directory. -/
def touch (session : Session) : SessionEvent → World
  | .asksStop => { w with session, stop := true }
  | .returns _ true => { w with session, removed := true }
  | _ => { w with session }

/-! ### Steps and runs -/

/-- The events that can be observed: of the session, with identifiers of their patterns. -/
def Observable (kind : RuntimeObservationKind) (context : RuntimeRequestContext)
    (target : ObservedTarget) : Prop :=
  context.sessionId = setting.sessionId ∧
    (w.worker.collector.observation kind context target).Identified

instance (kind : RuntimeObservationKind) (context : RuntimeRequestContext)
    (target : ObservedTarget) : Decidable (w.Observable setting kind context target) :=
  inferInstanceAs (Decidable (_ ∧ _))

/-- One step.  Nothing happens in a process that has ended. -/
def step : Event → Option World
  | .worker event => (w.advance event).map (w.effect event).inPhase
  | .thread event =>
    if w.Gone then none else (w.worker.writer.step setting.reader.format event).map w.withWriter
  | .emits kind context target =>
    if w.Gone ∨ ¬ w.Observable setting kind context target then none
    else match w.worker.emit kind context target with
    | .ok worker => some { w with worker }
    | .error _ => some w
  | .fails reason =>
    if w.Gone then none
    else some { w with worker := { w.worker with collector := w.worker.collector.fail reason } }
  | .killed => some (w.inPhase .gone)
  | .inputsChange inputs => some { w with inputs }
  | .session event => (w.sessionStep setting event).map fun session => w.touch session event

def run (events : List Event) : Option World := events.foldlM (step setting) w

end World

end Managed

end StateGuard
