import StateGuard.Library.Dict
import StateGuard.Graph.Contracts

/-!
# Runtime capabilities and observation transcripts

The capability artifact a runtime session is assessed to, the events a session observes,
and the transcript it seals.  An event's own validator is `validateTarget`; a transcript
carries as fields what its validator checks, so a transcript with a gap in its sequence or a
foreign session cannot be built.  `sealTranscript` is the checking constructor the session
uses when it closes.

`validateObservationTranscript` is the admission check of the failure lab: complete, of the
assessed session and capability, and every event against the assessed targets, with each
request bound to one ingress.
-/

namespace StateGuard

open Checks

/-! ## Capabilities -/

inductive RuntimeCapabilityState where
  | complete | partialCapability | unavailable
  deriving DecidableEq, Repr

inductive RuntimeLifecycleState where
  | ready | historical | unavailable
  deriving DecidableEq, Repr

inductive RuntimeMode where
  | managed | byo | static
  deriving DecidableEq, Repr

inductive RuntimeCapabilityReasonCode where
  | available
  | staticOnlyConfigured
  | appTargetUnresolved
  | runtimeDependencyMissing
  | runtimeVersionUntested
  | unsupportedPythonRuntime
  | runtimeRouteNotFound
  | runtimeRouteAmbiguous
  | runtimeRouteShadowed
  | targetCodeMismatch
  | mutationInstructionUnresolved
  | checkoutRequestBindingUnresolved
  | entryOnly
  | clientResponseOnly
  | inProcessInstrumentationUnavailable
  | externalStateResetUnavailable
  | externalRuntimeUnavailable
  | targetPolicyRejected
  | startupFailed
  | startupTimeout
  | processCrashed
  | observationChannelFailed
  | uncorrelatedTargetExecution
  | sourceStale
  | configStale
  | cleanupFailed
  deriving DecidableEq, Repr

/-- The persisted spelling of a runtime reason, which orders a result's diagnostics. -/
def RuntimeCapabilityReasonCode.value : RuntimeCapabilityReasonCode → String
  | .available => "AVAILABLE"
  | .staticOnlyConfigured => "STATIC_ONLY_CONFIGURED"
  | .appTargetUnresolved => "APP_TARGET_UNRESOLVED"
  | .runtimeDependencyMissing => "RUNTIME_DEPENDENCY_MISSING"
  | .runtimeVersionUntested => "RUNTIME_VERSION_UNTESTED"
  | .unsupportedPythonRuntime => "UNSUPPORTED_PYTHON_RUNTIME"
  | .runtimeRouteNotFound => "RUNTIME_ROUTE_NOT_FOUND"
  | .runtimeRouteAmbiguous => "RUNTIME_ROUTE_AMBIGUOUS"
  | .runtimeRouteShadowed => "RUNTIME_ROUTE_SHADOWED"
  | .targetCodeMismatch => "TARGET_CODE_MISMATCH"
  | .mutationInstructionUnresolved => "MUTATION_INSTRUCTION_UNRESOLVED"
  | .checkoutRequestBindingUnresolved => "CHECKOUT_REQUEST_BINDING_UNRESOLVED"
  | .entryOnly => "ENTRY_ONLY"
  | .clientResponseOnly => "CLIENT_RESPONSE_ONLY"
  | .inProcessInstrumentationUnavailable => "IN_PROCESS_INSTRUMENTATION_UNAVAILABLE"
  | .externalStateResetUnavailable => "EXTERNAL_STATE_RESET_UNAVAILABLE"
  | .externalRuntimeUnavailable => "EXTERNAL_RUNTIME_UNAVAILABLE"
  | .targetPolicyRejected => "TARGET_POLICY_REJECTED"
  | .startupFailed => "STARTUP_FAILED"
  | .startupTimeout => "STARTUP_TIMEOUT"
  | .processCrashed => "PROCESS_CRASHED"
  | .observationChannelFailed => "OBSERVATION_CHANNEL_FAILED"
  | .uncorrelatedTargetExecution => "UNCORRELATED_TARGET_EXECUTION"
  | .sourceStale => "SOURCE_STALE"
  | .configStale => "CONFIG_STALE"
  | .cleanupFailed => "CLEANUP_FAILED"

inductive CustomerValueLifecycleStrength where
  | entryOnly | entryAndTerminal
  deriving DecidableEq, Repr

inductive MutationObservationStrength where
  | pythonAssignmentInstructionCompletion
  deriving DecidableEq, Repr

/-- One ingress a session can address. -/
structure IngressRuntimeBinding where
  ingressNodeId : GraphNodeId
  routeRegistrationId : RouteRegistrationId
  method : String
  effectivePath : String
  checkoutRequestBinding : Option CheckoutRequestBinding
  deriving DecidableEq, Repr

/-- What identifies a binding in the artifact and in an event. -/
def IngressRuntimeBinding.key (binding : IngressRuntimeBinding) :
    GraphNodeId × RouteRegistrationId :=
  (binding.ingressNodeId, binding.routeRegistrationId)

structure CustomerValueRuntimeTarget where
  ingress : IngressRuntimeBinding
  normalControlId : NormalControlId
  customerValueNodeId : GraphNodeId
  customerValueSymbolId : SymbolId
  deriving DecidableEq, Repr

structure MutationRuntimeTarget where
  ingress : IngressRuntimeBinding
  mutationNodeId : GraphNodeId
  deriving DecidableEq, Repr

structure AcknowledgementRuntimeTarget where
  ingress : IngressRuntimeBinding
  acknowledgementNodeId : GraphNodeId
  statusCode : Option Nat
  outcome : AcknowledgementOutcome
  deriving DecidableEq, Repr

structure IngressRuntimeCapability where
  binding : IngressRuntimeBinding
  addressability : RuntimeCapabilityState
  requestCorrelation : RuntimeCapabilityState
  deriving DecidableEq, Repr

/-- The lifecycle of a customer-value target; its strength is known unless unavailable. -/
structure CustomerValueRuntimeCapability where
  target : CustomerValueRuntimeTarget
  lifecycle : RuntimeCapabilityState
  strength : Option CustomerValueLifecycleStrength
  /-- `validate_strength`. -/
  strengthMatches : lifecycle = .unavailable ↔ strength = none
  deriving DecidableEq

/-- The assignment capability of a mutation; its strength is known unless unavailable. -/
structure MutationRuntimeCapability where
  target : MutationRuntimeTarget
  assignment : RuntimeCapabilityState
  strength : Option MutationObservationStrength
  /-- `validate_strength`. -/
  strengthMatches : assignment = .unavailable ↔ strength = none
  deriving DecidableEq

structure AcknowledgementRuntimeCapability where
  target : AcknowledgementRuntimeTarget
  timeline : RuntimeCapabilityState
  deriving DecidableEq, Repr

structure RuntimeIsolationCapability where
  freshProcess : RuntimeCapabilityState
  observationReset : RuntimeCapabilityState
  deriving DecidableEq, Repr

/-- The assessed capability of one session, with the uniqueness rules of its validator. -/
structure RuntimeCapabilityArtifact where
  runtimeConfigFingerprint : Sha256Digest
  assessmentSessionId : RuntimeSessionId
  mode : RuntimeMode
  lifecycle : RuntimeLifecycleState
  ingresses : List IngressRuntimeCapability
  customerValues : List CustomerValueRuntimeCapability
  mutations : List MutationRuntimeCapability
  acknowledgements : List AcknowledgementRuntimeCapability
  isolation : RuntimeIsolationCapability
  diagnostics : List RuntimeCapabilityReasonCode
  capabilityFingerprint : Sha256Digest
  /-- Ingress bindings are unique. -/
  ingressesUnique : (ingresses.map (·.binding.key)).Nodup
  /-- Every target uses an assessed binding. -/
  exactBindings : ∀ binding ∈ customerValues.map (·.target.ingress) ++
      mutations.map (·.target.ingress) ++ acknowledgements.map (·.target.ingress),
    binding ∈ ingresses.map (·.binding)
  /-- Customer-value controls are unique. -/
  controlsUnique : (customerValues.map (·.target.normalControlId)).Nodup
  /-- Mutation targets are unique. -/
  mutationsUnique : (mutations.map (·.target.mutationNodeId)).Nodup
  /-- Acknowledgement targets are unique. -/
  acknowledgementsUnique : (acknowledgements.map (·.target.acknowledgementNodeId)).Nodup
  deriving DecidableEq

/-! ## Observations -/

inductive RuntimeObservationKind where
  | requestDispatched
  | requestReceived
  | customerValueEntered
  | customerValueReturnedNormally
  | customerValueExceptionEscaped
  | merchantAssignmentInstructionReached
  | merchantAssignmentInstructionCompletedNormally
  | merchantAssignmentInstructionRaised
  | responseStarted
  | acknowledgementFailureInjected
  | responseCompleted
  | responseReceived
  | requestAborted
  deriving DecidableEq, Repr

namespace RuntimeObservationKind

/-- The kinds of the customer-value lifecycle. -/
def customer : List RuntimeObservationKind :=
  [.customerValueEntered, .customerValueReturnedNormally, .customerValueExceptionEscaped]

/-- The kinds of the assignment instruction. -/
def mutation : List RuntimeObservationKind :=
  [.merchantAssignmentInstructionReached, .merchantAssignmentInstructionCompletedNormally,
    .merchantAssignmentInstructionRaised]

/-- The kinds that carry a response status. -/
def response : List RuntimeObservationKind :=
  [.responseStarted, .responseCompleted, .responseReceived, .acknowledgementFailureInjected]

/-- The kinds at the application's response boundary. -/
def managedResponse : List RuntimeObservationKind :=
  [.responseStarted, .responseCompleted, .acknowledgementFailureInjected]

end RuntimeObservationKind

/-- One observed event. -/
structure RuntimeObservationEvent where
  sessionId : RuntimeSessionId
  requestId : RuntimeRequestId
  sequence : Nat
  kind : RuntimeObservationKind
  ingressNodeId : GraphNodeId
  routeRegistrationId : RouteRegistrationId
  normalControlId : Option NormalControlId := none
  customerValueNodeId : Option GraphNodeId := none
  customerValueSymbolId : Option SymbolId := none
  mutationNodeId : Option GraphNodeId := none
  acknowledgementNodeId : Option GraphNodeId := none
  statusCode : Option Nat := none
  originalStatusCode : Option Nat := none
  deriving DecidableEq, Repr

/-- A status code the contracts accept. -/
def StatusInRange (code : Nat) : Prop := 100 ≤ code ∧ code ≤ 599

instance (code : Nat) : Decidable (StatusInRange code) := inferInstanceAs (Decidable (_ ∧ _))

/-- A successful status code. -/
def Success2xx (code : Nat) : Prop := 200 ≤ code ∧ code < 300

instance (code : Nat) : Decidable (Success2xx code) := inferInstanceAs (Decidable (_ ∧ _))

/-- A status field holds a successful status. -/
def SuccessStatus (status : Option Nat) : Prop := ∃ code ∈ status, Success2xx code

instance (status : Option Nat) : Decidable (SuccessStatus status) :=
  match status with
  | none => .isFalse (by simp [SuccessStatus])
  | some code => decidable_of_iff (Success2xx code) (by simp [SuccessStatus])

/-- A status field is empty or in range. -/
def OptionalStatusInRange (status : Option Nat) : Prop := ∀ code ∈ status, StatusInRange code

instance (status : Option Nat) : Decidable (OptionalStatusInRange status) :=
  match status with
  | none => .isTrue (fun _ impossible => absurd impossible (by simp))
  | some code => decidable_of_iff (StatusInRange code) (by simp [OptionalStatusInRange])

namespace RuntimeObservationEvent

/-- The ingress an event was observed at. -/
def bindingKey (event : RuntimeObservationEvent) : GraphNodeId × RouteRegistrationId :=
  (event.ingressNodeId, event.routeRegistrationId)

/-- Whether the event carries evidence of an injected acknowledgement failure. -/
def InjectionExact (event : RuntimeObservationEvent) : Prop :=
  event.acknowledgementNodeId.isSome ∧ SuccessStatus event.originalStatusCode ∧
    event.statusCode = some 503

instance (event : RuntimeObservationEvent) : Decidable event.InjectionExact :=
  inferInstanceAs (Decidable (_ ∧ _ ∧ _))

/-- `validate_target`, after the bounds on the sequence and the status codes. -/
def validateTarget (event : RuntimeObservationEvent) : Except String Unit := do
  raiseIf (event.sequence < 1) "event sequence must be at least 1"
  raiseIf (¬ OptionalStatusInRange event.statusCode) "status code must be within 100 and 599"
  raiseIf (¬ OptionalStatusInRange event.originalStatusCode)
    "original status code must be within 100 and 599"
  let identity := [event.normalControlId, event.customerValueNodeId, event.customerValueSymbolId]
  raiseIf (event.kind ∈ RuntimeObservationKind.customer ∧ ∃ part ∈ identity, part = none)
    "customer lifecycle events require only exact fulfilment identity"
  raiseIf (event.kind ∉ RuntimeObservationKind.customer ∧ ∃ part ∈ identity, part ≠ none)
    "non-customer events cannot carry fulfilment identity"
  raiseIf (¬ (event.kind ∈ RuntimeObservationKind.mutation ↔ event.mutationNodeId.isSome))
    "mutation events require only an exact mutation node"
  raiseIf (¬ (event.kind ∈ RuntimeObservationKind.response ↔ event.statusCode.isSome))
    "response events require a status code"
  raiseIf (event.acknowledgementNodeId.isSome ∧
      event.kind ∉ RuntimeObservationKind.managedResponse)
    "acknowledgement identity is valid only at the app response boundary"
  raiseIf (event.kind = .acknowledgementFailureInjected ∧ ¬ event.InjectionExact)
    "acknowledgement injection requires exact 2xx to 503 evidence"
  raiseIf (event.kind ≠ .acknowledgementFailureInjected ∧ event.originalStatusCode.isSome)
    "original status is valid only for acknowledgement injection"

end RuntimeObservationEvent

/-- A sealed transcript, with the rules of its validator. -/
structure RuntimeObservationTranscript where
  sessionId : RuntimeSessionId
  capabilityFingerprint : Sha256Digest
  complete : Bool
  events : List RuntimeObservationEvent
  diagnostics : List RuntimeCapabilityReasonCode
  transcriptFingerprint : Sha256Digest
  /-- Every event passed its own validator. -/
  eventsValid : ∀ event ∈ events, event.validateTarget = .ok ()
  /-- Every event belongs to the session. -/
  oneSession : ∀ event ∈ events, event.sessionId = sessionId
  /-- The sequence is contiguous and starts at one. -/
  contiguous : events.map (·.sequence) = List.range' 1 events.length
  deriving DecidableEq

/-- What a transcript's fingerprint is taken of. -/
structure TranscriptPayload where
  sessionId : RuntimeSessionId
  capabilityFingerprint : Sha256Digest
  complete : Bool
  events : List RuntimeObservationEvent
  diagnostics : List RuntimeCapabilityReasonCode

/-- Seal the events a closing session read back: the constructor of the transcript with its
validators.  The fingerprint is computed from the payload, so it always matches. -/
def sealTranscript (fingerprint : TranscriptPayload → Sha256Digest)
    (payload : TranscriptPayload) : Except String RuntimeObservationTranscript :=
  if eventsValid : ∀ event ∈ payload.events, event.validateTarget = .ok () then
    if oneSession : ∀ event ∈ payload.events, event.sessionId = payload.sessionId then
      if contiguous : payload.events.map (·.sequence) =
          List.range' 1 payload.events.length then
        .ok
          { sessionId := payload.sessionId
            capabilityFingerprint := payload.capabilityFingerprint
            complete := payload.complete
            events := payload.events
            diagnostics := payload.diagnostics
            transcriptFingerprint := fingerprint payload
            eventsValid := eventsValid
            oneSession := oneSession
            contiguous := contiguous }
      else .error "transcript event sequence must be contiguous and ordered"
    else .error "transcript events must belong to one runtime session"
  else .error "runtime observation event is invalid"

/-! ## Admission -/

/-- The ingress of one request is recorded at its first event and kept. -/
abbrev RequestBindings := Dict RuntimeRequestId (GraphNodeId × RouteRegistrationId)

namespace RuntimeCapabilityArtifact

variable (artifact : RuntimeCapabilityArtifact)

/-- `bindings.get`: the assessed binding of an event. -/
def binding? (key : GraphNodeId × RouteRegistrationId) : Option IngressRuntimeBinding :=
  (artifact.ingresses.find? (·.binding.key = key)).map (·.binding)

/-- `customers.get`: the assessed target of a control. -/
def customer? (controlId : NormalControlId) : Option CustomerValueRuntimeTarget :=
  (artifact.customerValues.find? (·.target.normalControlId = controlId)).map (·.target)

/-- `mutations.get`: the assessed target of a mutation node. -/
def mutation? (nodeId : GraphNodeId) : Option MutationRuntimeTarget :=
  (artifact.mutations.find? (·.target.mutationNodeId = nodeId)).map (·.target)

/-- `acknowledgements.get`: the assessed target of an acknowledgement node. -/
def acknowledgement? (nodeId : GraphNodeId) : Option AcknowledgementRuntimeTarget :=
  (artifact.acknowledgements.find? (·.target.acknowledgementNodeId = nodeId)).map (·.target)

end RuntimeCapabilityArtifact

/-- The checks of one event against the assessed targets, and the request's binding. -/
def admitEvent (artifact : RuntimeCapabilityArtifact) (requests : RequestBindings)
    (event : RuntimeObservationEvent) : Except String RequestBindings := do
  let key := event.bindingKey
  raiseIf (artifact.binding? key = none) "observation ingress binding is not assessed"
  let requests := if event.requestId ∈ requests.keys then requests
    else requests.set event.requestId key
  raiseIf (requests.get? event.requestId ≠ some key) "one request crossed exact ingress bindings"
  raiseIf (∃ controlId ∈ event.normalControlId.toList,
      ∀ target ∈ (artifact.customer? controlId).toList,
        artifact.binding? key ≠ some target.ingress ∨
          event.customerValueNodeId ≠ some target.customerValueNodeId ∨
          event.customerValueSymbolId ≠ some target.customerValueSymbolId)
    "customer observation target is not the assessed normal control"
  raiseIf (∃ nodeId ∈ event.mutationNodeId.toList,
      ∀ target ∈ (artifact.mutation? nodeId).toList,
        artifact.binding? key ≠ some target.ingress)
    "mutation observation target is not the assessed graph node"
  raiseIf (∃ nodeId ∈ event.acknowledgementNodeId.toList,
      ∀ target ∈ (artifact.acknowledgement? nodeId).toList,
        artifact.binding? key ≠ some target.ingress)
    "acknowledgement observation target is not the assessed graph node"
  pure requests

/-- `validate_observation_transcript`. -/
def validateObservationTranscript (artifact : RuntimeCapabilityArtifact)
    (transcript : RuntimeObservationTranscript) : Except String Unit := do
  raiseIf (transcript.complete = false ∨ transcript.diagnostics ≠ [])
    "runtime observation transcript is incomplete"
  raiseIf (transcript.sessionId ≠ artifact.assessmentSessionId)
    "runtime observation session identity is mismatched"
  raiseIf (transcript.capabilityFingerprint ≠ artifact.capabilityFingerprint)
    "runtime capability fingerprint is mismatched"
  let _ ← transcript.events.foldlM (admitEvent artifact) Dict.empty
  pure ()

end StateGuard
