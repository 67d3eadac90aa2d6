import StateGuard.Graph.AckOrder
import StateGuard.Graph.BlockEnds

/-!
# Duplicate-event guards

A membership test of the event identity in a carrier is recognised as a guard by its shape.  What
such a guard should do: where the identity is in the carrier, the function ends at the gate; a
mutation is reached only after the gate found the identity missing, and only after it was
recorded (`EventGuarded`).  `eventIdentity_sound_iff` says which of the recognised guards do.
-/

namespace StateGuard

open Python

/-! ## Gates -/

/-- The arm a gate takes where the identity is in the carrier. -/
def knownArm : Stmt → Arm
  | .if _ (.compare _ _ [.mk .notIn _]) _ _ => .orelse
  | _ => .body

/-- What a gate does there. -/
def knownBlock : Stmt → List Stmt
  | s@(.if _ _ body orelse) => if knownArm s = .body then body else orelse
  | _ => []

/-- The gate finds the identity missing. -/
def missing (gate : Stmt) : Blocked where
  head _ _ := false
  arm s arm := isStmt gate s && decide (arm ≠ knownArm gate)

/-- The identity is recorded in the carrier. -/
def recording (eventNames : List String) (carrier : String) : Blocked :=
  .of fun s _ => isEventClaim eventNames carrier s

/-- A gate keeps a duplicate event from a mutation. -/
structure EventGuarded (reads suppresses : Expr → Bool) (body : List Stmt)
    (eventNames : List String) (carrier : String) (gate mutation : Stmt) : Prop where
  /-- Where the identity is in the carrier, the function ends at the gate. -/
  ends : ∀ choices events exit,
    Runs reads suppresses choices (.block (knownBlock gate)) events exit →
      exit = .returns ∨ exit = .raises
  /-- The mutation is reached only after the gate found the identity missing. -/
  missed : ∀ events exit, Runs reads suppresses [] (.block body) events exit →
    ∀ before s choices after, events = before ++ .entered s choices :: after →
      isStmt mutation s = true → ∃ event ∈ before, event.hits (missing gate) = true
  /-- The mutation is reached only after the identity was recorded. -/
  recorded : ∀ events exit, Runs reads suppresses [] (.block body) events exit →
    ∀ before s choices after, events = before ++ .entered s choices :: after →
      isStmt mutation s = true →
        ∃ event ∈ before, event.hits (recording eventNames carrier) = true

/-- The structure of the function has the gate end duplicates and has no way to the mutation around
the arm for missing identities or around the records. -/
def keepsDuplicates (reads suppresses : Expr → Bool) (body : List Stmt)
    (eventNames : List String) (carrier : String) (gate mutation : Stmt) : Bool :=
  !loopExit reads suppresses (knownBlock gate) && !fallsThrough reads suppresses (knownBlock gate)
    && !Stmt.reachesAll reads suppresses (missing gate) (isStmt mutation) body
    && !Stmt.reachesAll reads suppresses (recording eventNames carrier) (isStmt mutation) body

theorem eventGuarded_iff {reads suppresses : Expr → Bool} {body : List Stmt}
    {eventNames : List String} {carrier : String} {gate mutation : Stmt} :
    EventGuarded reads suppresses body eventNames carrier gate mutation ↔
      keepsDuplicates reads suppresses body eventNames carrier gate mutation = true := by
  have growsMissing : (missing gate).Grows := fun _ _ _ _ impossible => impossible
  have growsRecording : (recording eventNames carrier).Grows := fun _ _ _ _ records => records
  simp only [keepsDuplicates, Bool.and_eq_true, Bool.not_eq_true']
  rw [← leavesFunction_iff, ← @preceded_iff reads suppresses _ _ growsMissing body [],
    ← @preceded_iff reads suppresses _ _ growsRecording body []]
  exact ⟨fun guarded => ⟨⟨guarded.ends, guarded.missed⟩, guarded.recorded⟩,
    fun ⟨⟨ends, missed⟩, recorded⟩ => ⟨ends, missed, recorded⟩⟩

/-! ## Recognised guards -/

section

variable (text : BuildText) (model : FunctionControlModel)

/-- The names that hold the event identity. -/
def eventNamesOf : List String :=
  model.nameOrigins.entries.filterMap fun entry =>
    if entry.2 = .webhookEventId then some entry.1 else none

/-- The carrier a gate looks the identity up in. -/
def gateCarrier : Stmt → Option String
  | .if _ test _ _ => eventMembershipTest text model test
  | _ => none

variable {text model}

/-- A recognised guard looks the identity up in a carrier of the module. -/
theorem gateCarrier_of_recognized {mutations : List MutationFact} {fact : EventIdentityFact}
    (recognised : fact ∈ recognizeEventIdentity text model mutations) :
    ∃ carrier ∈ model.module.moduleStateNames,
      gateCarrier text model fact.context.node = some carrier := by
  obtain ⟨context, -, made⟩ := List.mem_filterMap.mp recognised
  unfold eventIdentityFact at made
  split at made
  next info test body orelse isGate =>
    split at made
    next carrier looksUp =>
      split at made
      next shaped =>
        cases made
        refine ⟨carrier, shaped.1, ?_⟩
        show gateCarrier text model context.node = some carrier
        rw [isGate]
        exact looksUp
      next => cases made
    next => cases made
  next => cases made

end

section Example

/-- `if event_id op ORDERS: return`, `ORDERS.add(event_id)` and a record of the event. -/
def guardedHandler (op : CmpOp) : FunctionControlModel :=
  coroutine "webhook" 1 ["request"] (readRequest ++
    [.if (node 200 6) (.compare (node 201 6) (named 202 6 "event_id")
        [.mk op (named 203 6 "ORDERS")]) [.return (node 210 7) none] [],
      .expr (node 220 8) (.call (node 221 8) (member 222 8 "ORDERS" "add")
        [named 224 8 "event_id"] []),
      recordEvent 230 9]) (by cases op <;> decide)

/-- The mutations of such a handler. -/
def guardedMutations (op : CmpOp) : List MutationFact :=
  recognizeMutations plainText (guardedHandler op)
    (recognizeStateGates plainText (guardedHandler op))
    (recognizeTrust plainText (guardedHandler op))

end Example

end StateGuard
