import Mathlib.Logic.Function.Basic
import StateGuard.Runtime.Contracts

/-!
# The trace engine

`ExactTraceEngine` watches the bodies of customer values and of merchant mutations through the
trace callbacks of the interpreter.  It keeps one `FrameState` for each frame id it follows, from
the call that reaches the initial `RESUME` of a target to a `return` that is not a yield, and
reports what it sees to a bounded `ObservationCollector`.  Whatever raises in a callback disables
the engine.
-/

namespace StateGuard

open Checks

/-! ## Targets -/

inductive PythonCallableShape where
  | sync | coroutine | generator | asyncGenerator
  deriving DecidableEq, Repr

/-- The code of a target, as it was compiled. -/
structure TraceCodeDescriptor where
  sourcePath : String
  qualifiedName : String
  firstLine : Nat
  codeFingerprint : Sha256Digest
  initialResumeOffset : Nat
  shape : PythonCallableShape
  deriving DecidableEq, Repr

structure CustomerTraceTarget where
  descriptor : TraceCodeDescriptor
  normalControlId : NormalControlId
  customerValueNodeId : GraphNodeId
  customerValueSymbolId : SymbolId
  deriving DecidableEq, Repr

structure MutationTraceTarget where
  descriptor : TraceCodeDescriptor
  mutationNodeId : GraphNodeId
  ingressNodeId : GraphNodeId
  routeRegistrationId : RouteRegistrationId
  instructionOffset : Nat
  deriving DecidableEq, Repr

structure RuntimeRequestContext where
  sessionId : RuntimeSessionId
  requestId : RuntimeRequestId
  ingress : IngressRuntimeBinding
  normalControlId : Option NormalControlId := none
  deriving DecidableEq, Repr

/-! ## Code -/

structure Instruction where
  offset : Nat
  opname : String
  deriving DecidableEq, Repr

/-- A code object.  Two of them are equal, as keys of a dictionary, when `equality` is. -/
structure CodeType where
  equality : Nat
  coQualname : String
  coFirstlineno : Nat
  /-- The digest of `co_code`. -/
  fingerprint : Sha256Digest
  coFilename : String
  instructions : List Instruction
  deriving DecidableEq, Repr

/-- The name of the instruction at an offset. -/
def CodeType.opnameAt (code : CodeType) (lasti : Nat) : Option String :=
  (code.instructions.find? (·.offset = lasti)).map (·.opname)

structure Frame where
  id : Nat
  code : CodeType
  deriving DecidableEq, Repr

/-- What the file system says of a path when it is asked: where it leads, if it exists. -/
structure Files where
  /-- Of the file name of a code object. -/
  resolve : String → Option String
  /-- Of a source path below the repository. -/
  resolveSource : String → Option String

def descriptorMatchesCode (files : Files) (descriptor : TraceCodeDescriptor) (code : CodeType) :
    Bool :=
  if code.coQualname ≠ descriptor.qualifiedName ∨ code.coFirstlineno ≠ descriptor.firstLine ∨
      code.fingerprint ≠ descriptor.codeFingerprint then
    false
  else match files.resolve code.coFilename with
  | none => false
  | some runtimePath => match files.resolveSource descriptor.sourcePath with
    | none => false
    | some expectedPath => runtimePath = expectedPath

/-! ## The collector -/

/-- The target of an observation. -/
structure ObservedTarget where
  normalControlId : Option NormalControlId := none
  customerValueNodeId : Option GraphNodeId := none
  customerValueSymbolId : Option SymbolId := none
  mutationNodeId : Option GraphNodeId := none
  acknowledgementNodeId : Option GraphNodeId := none
  statusCode : Option Nat := none
  originalStatusCode : Option Nat := none
  deriving DecidableEq, Repr

def CustomerTraceTarget.observed (target : CustomerTraceTarget) : ObservedTarget where
  normalControlId := some target.normalControlId
  customerValueNodeId := some target.customerValueNodeId
  customerValueSymbolId := some target.customerValueSymbolId

def MutationTraceTarget.observed (target : MutationTraceTarget) : ObservedTarget where
  mutationNodeId := some target.mutationNodeId

/-- The default of `max_events` is positive. -/
theorem one_le_defaultMaxEvents : 1 ≤ 10000 := by decide

/-- What a collector is built with. -/
structure CollectorConfig where
  maxEvents : Nat
  /-- Whether the sink raises on an event.  Every event has its own sequence number. -/
  sinkRaises : RuntimeObservationEvent → Bool
  /-- The bound is positive. -/
  positive : 1 ≤ maxEvents

structure ObservationCollector where
  events : List RuntimeObservationEvent := []
  diagnostics : List RuntimeCapabilityReasonCode := []
  complete : Bool := true
  /-- Whether an event has been dropped.  The source does not keep it. -/
  dropped : Bool := false
  deriving DecidableEq, Repr

namespace ObservationCollector

def fail (collector : ObservationCollector) (reason : RuntimeCapabilityReasonCode) :
    ObservationCollector :=
  { collector with
    complete := false
    diagnostics := collector.diagnostics.insert reason }

/-- The event an observation becomes. -/
def observation (collector : ObservationCollector) (kind : RuntimeObservationKind)
    (context : RuntimeRequestContext) (target : ObservedTarget) : RuntimeObservationEvent where
  sessionId := context.sessionId
  requestId := context.requestId
  sequence := collector.events.length + 1
  kind
  ingressNodeId := context.ingress.ingressNodeId
  routeRegistrationId := context.ingress.routeRegistrationId
  normalControlId := target.normalControlId
  customerValueNodeId := target.customerValueNodeId
  customerValueSymbolId := target.customerValueSymbolId
  mutationNodeId := target.mutationNodeId
  acknowledgementNodeId := target.acknowledgementNodeId
  statusCode := target.statusCode
  originalStatusCode := target.originalStatusCode

def emit (config : CollectorConfig) (collector : ObservationCollector)
    (kind : RuntimeObservationKind) (context : RuntimeRequestContext) (target : ObservedTarget) :
    Except String ObservationCollector :=
  if config.maxEvents ≤ collector.events.length then
    .ok { collector.fail .observationChannelFailed with dropped := true }
  else do
    let observation := collector.observation kind context target
    observation.validateTarget
    let appended := { collector with events := collector.events ++ [observation] }
    if config.sinkRaises observation then
      return appended.fail .observationChannelFailed
    else
      return appended

end ObservationCollector

/-! ## The engine -/

structure FrameState where
  context : RuntimeRequestContext
  customer : Option CustomerTraceTarget
  mutations : Dict Nat MutationTraceTarget
  pendingException : Bool := false
  pendingMutation : Option MutationTraceTarget := none

/-- What an engine is built with. -/
structure TraceConfig extends CollectorConfig where
  customers : List CustomerTraceTarget
  mutations : List MutationTraceTarget

structure ExactTraceEngine where
  collector : ObservationCollector := {}
  states : Nat → Option FrameState := fun _ => none
  disabled : Bool := false
  targetCodeMatches : Dict Nat Bool := Dict.empty

/-- The events of a frame. -/
inductive TraceEvent where
  | call | line | opcode | exception | returns
  deriving DecidableEq, Repr

/-- The circumstances of a call: the bound request, the file system, and whether the failure probe
raises. -/
structure Call where
  context : Option RuntimeRequestContext
  files : Files
  probeRaises : Bool
  lasti : Nat

namespace ExactTraceEngine

variable (config : TraceConfig)

def failClosed (engine : ExactTraceEngine) : ExactTraceEngine :=
  { engine with
    disabled := true
    collector := engine.collector.fail .observationChannelFailed }

def setState (engine : ExactTraceEngine) (frameId : Nat) (state : Option FrameState) :
    ExactTraceEngine :=
  { engine with states := Function.update engine.states frameId state }

def matchingCustomer (files : Files) (code : CodeType) (context : RuntimeRequestContext) :
    Except String (Option CustomerTraceTarget) :=
  let found := config.customers.filter fun item =>
    some item.normalControlId = context.normalControlId ∧
      descriptorMatchesCode files item.descriptor code
  if 1 < found.length then .error "runtime code matched multiple customer-value controls"
  else .ok found.head?

def matchingMutations (files : Files) (code : CodeType) (context : RuntimeRequestContext) :
    Except String (Dict Nat MutationTraceTarget) :=
  let found := config.mutations.filter fun item =>
    item.ingressNodeId = context.ingress.ingressNodeId ∧
      item.routeRegistrationId = context.ingress.routeRegistrationId ∧
      descriptorMatchesCode files item.descriptor code
  let result := Dict.ofList (found.map fun item => (item.instructionOffset, item))
  if result.keys.length ≠ found.length then
    .error "runtime code matched duplicate mutation instructions"
  else .ok result

/-- Whether any target has the code, and the engine that remembers it. -/
def matchesAnyTargetCode (engine : ExactTraceEngine) (files : Files) (code : CodeType) :
    Bool × ExactTraceEngine :=
  match engine.targetCodeMatches.get? code.equality with
  | some cached => (cached, engine)
  | none =>
    let found :=
      config.customers.any (fun item => descriptorMatchesCode files item.descriptor code) ||
      config.mutations.any (fun item => descriptorMatchesCode files item.descriptor code)
    (found, { engine with
      targetCodeMatches := engine.targetCodeMatches.set code.equality found })

/-- Report the code of a target that runs where it is not followed. -/
def reportUncorrelated (engine : ExactTraceEngine) (files : Files) (code : CodeType) :
    ExactTraceEngine :=
  let (found, engine) := engine.matchesAnyTargetCode config files code
  if found then
    { engine with collector := engine.collector.fail .uncorrelatedTargetExecution }
  else engine

/-- The offset at which the first of the matched targets starts. -/
def initialResume (customer : Option CustomerTraceTarget)
    (mutations : Dict Nat MutationTraceTarget) : Option Nat :=
  match customer with
  | some customer => some customer.descriptor.initialResumeOffset
  | none => mutations.values.head?.map (·.descriptor.initialResumeOffset)

/-- Follow a frame from its initial `RESUME`. -/
def follow (engine : ExactTraceEngine) (frameId : Nat) (state : FrameState) :
    ExactTraceEngine × Bool :=
  let engine := engine.setState frameId (some state)
  match state.customer with
  | none => (engine, true)
  | some customer =>
    match engine.collector.emit config.toCollectorConfig .customerValueEntered state.context
        customer.observed with
    | .error _ => (engine.failClosed, false)
    | .ok collector => ({ engine with collector }, true)

/-- The callback of a call, with whether it returns the local trace function. -/
def globalTrace (engine : ExactTraceEngine) (frame : Frame) (call : Call) :
    ExactTraceEngine × Bool :=
  if engine.disabled then (engine, false)
  else if call.probeRaises then (engine.failClosed, false)
  else match call.context with
  | none => (engine.reportUncorrelated config call.files frame.code, false)
  | some context =>
    match matchingCustomer config call.files frame.code context with
    | .error _ => (engine.failClosed, false)
    | .ok customer =>
      match matchingMutations config call.files frame.code context with
      | .error _ => (engine.failClosed, false)
      | .ok mutations =>
        if customer = none ∧ mutations.keys = [] then
          (engine.reportUncorrelated config call.files frame.code, false)
        else match engine.states frame.id with
        | some _ => (engine, true)
        | none =>
          if initialResume customer mutations = some call.lasti then
            engine.follow config frame.id { context, customer, mutations }
          else (engine, false)

/-- Settle the assignment that was reached at the instruction before. -/
def settlePending (collector : ObservationCollector) (state : FrameState) (event : TraceEvent) :
    Except String (ObservationCollector × FrameState) :=
  match state.pendingMutation with
  | none => .ok (collector, state)
  | some pending =>
    if event = .exception then do
      let collector ← collector.emit config.toCollectorConfig
        .merchantAssignmentInstructionRaised state.context pending.observed
      return (collector, { state with pendingMutation := none })
    else if event ∈ [TraceEvent.opcode, .line, .returns] then do
      let collector ← collector.emit config.toCollectorConfig
        .merchantAssignmentInstructionCompletedNormally state.context pending.observed
      return (collector, { state with pendingMutation := none })
    else .ok (collector, state)

/-- An instruction is about to run. -/
def traceOpcode (engine : ExactTraceEngine) (frame : Frame) (state : FrameState) (lasti : Nat) :
    ExactTraceEngine × Bool :=
  let state := { state with pendingException := false }
  let engine := engine.setState frame.id (some state)
  match state.mutations.get? lasti with
  | none => (engine, true)
  | some mutation =>
    match engine.collector.emit config.toCollectorConfig .merchantAssignmentInstructionReached
        state.context mutation.observed with
    | .error _ => (engine.failClosed, false)
    | .ok collector =>
      ({ engine with collector }.setState frame.id
        (some { state with pendingMutation := some mutation }), true)

/-- The last instruction of a frame has run. -/
def traceReturn (engine : ExactTraceEngine) (frame : Frame) (state : FrameState) (lasti : Nat) :
    ExactTraceEngine × Bool :=
  let instruction := frame.code.opnameAt lasti
  if instruction = some "YIELD_VALUE" then (engine, true)
  else match state.customer with
  | none => (engine.setState frame.id none, false)
  | some customer =>
    if customer.descriptor.shape ∈ [PythonCallableShape.generator, .asyncGenerator] then
      (engine.setState frame.id none, false)
    else
      let kind : RuntimeObservationKind :=
        if instruction = some "RETURN_VALUE" then .customerValueReturnedNormally
        else .customerValueExceptionEscaped
      match engine.collector.emit config.toCollectorConfig kind state.context
          customer.observed with
      | .error _ => (engine.failClosed, false)
      | .ok collector => ({ engine with collector }.setState frame.id none, false)

/-- The callback of the other events of a frame. -/
def localTrace (engine : ExactTraceEngine) (frame : Frame) (event : TraceEvent) (lasti : Nat) :
    ExactTraceEngine × Bool :=
  if engine.disabled then (engine, false)
  else match engine.states frame.id with
  | none => (engine, false)
  | some state =>
    match settlePending config engine.collector state event with
    | .error _ => (engine.failClosed, false)
    | .ok (collector, state) =>
      let engine := { engine with collector }.setState frame.id (some state)
      match event with
      | .opcode => engine.traceOpcode config frame state lasti
      | .exception => (engine.setState frame.id (some { state with pendingException := true }), true)
      | .line => (engine.setState frame.id (some { state with pendingException := false }), true)
      | .call => (engine, true)
      | .returns => engine.traceReturn config frame state lasti

end ExactTraceEngine

end StateGuard
