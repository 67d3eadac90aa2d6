import StateGuard.Applicability.Policy
import StateGuard.Graph.TrustGuards
import StateGuard.Python.Decisions

/-!
# The states of a branch

The graph says that the matched arm of a gate on the payment event is entered in the states of
the gate.  Here the arm is read as Python reads it: `restricts` computes whether the values under
which an arm is entered are among given states, and `restricts_iff` says that this is exact.

A placed execution enters a statement only through the arms around it (`choicesAt`), so a
restricted arm bounds the value that was read (`entered_restricted`).
-/

namespace StateGuard

open Python

section

variable (reads : Expr → Bool)

/-- A value is one of some states. -/
def IsState (states : List String) (value : Value) : Prop := ∃ state ∈ states, value = .text state

instance (states : List String) (value : Value) : Decidable (IsState states value) :=
  inferInstanceAs (Decidable (∃ _ ∈ _, _))

/-- An arm is entered in some states only. -/
def restricts (states : List String) (choice : Choice) : Bool :=
  (armValues reads choice.gate choice.arm).within (IsState states)

theorem restricts_iff {states : List String} {choice : Choice} :
    restricts reads states choice = true ↔
      ∀ value, Decides reads value choice.gate choice.arm → IsState states value := by
  have bounded : ∀ value, IsState states value → value ∈ states.map Value.text := by
    rintro value ⟨state, membership, rfl⟩
    exact List.mem_map_of_mem membership
  rw [restricts, Extent.within_iff bounded]
  exact forall_congr' fun value => imp_congr_left (mem_armValues reads)

end

/-- The arms of a gate around a statement of a function. -/
def choicesAt (function : FunctionDef) (gate target : Stmt) : List Choice :=
  (Stmt.placesAll [] function.body).flatMap fun place =>
    if place.1.info.identity = target.info.identity then
      place.2.filter (·.gate.info.identity = gate.info.identity)
    else []

/-- An execution that enters a statement through restricted arms of a gate has read one of the
states. -/
theorem entered_restricted {reads suppresses : Expr → Bool} {function : FunctionDef}
    {gate target : Stmt} {states : List String}
    (restricted : ∀ choice ∈ choicesAt function gate target, restricts reads states choice = true)
    {events : List Event} {exit : Exit}
    (runs : Runs reads suppresses [] (.block function.body) events exit) {s : Stmt}
    {choices : List Taken} (entered : .entered s choices ∈ events)
    (same : s.info.identity = target.info.identity) {taken : Taken} (through : taken ∈ choices)
    (here : taken.gate.info.identity = gate.info.identity) : IsState states taken.value := by
  have nothing : Allowed reads [] := fun _ impossible => absurd impossible List.not_mem_nil
  obtain ⟨place, allowed⟩ := runs.placed nothing s choices entered
  refine (restricts_iff reads).mp (restricted taken.choice ?_) taken.value (allowed taken through)
  refine List.mem_flatMap.mpr ⟨_, place, ?_⟩
  rw [if_pos same]
  exact List.mem_filter.mpr ⟨List.mem_map_of_mem through, decide_eq_true here⟩

/-! ## The states of a policy -/

/-- The payment state a policy waits for. -/
def awaitedState : FulfilmentPolicy → String
  | .captureRequired => "captured"
  | .authorizedAllowed => "authorized"

/-- The states of a gate that are the one a policy waits for. -/
def statesOfPolicy (policy : FulfilmentPolicy) (states : List String) : List String :=
  states.filter fun state => paymentState state = awaitedState policy

section Example

/-- `payload["event"] op "payment.captured"`. -/
def eventComparison (identity line : Nat) (op : CmpOp) : Expr :=
  .compare (node identity line) (eventOfPayload (identity + 1) line)
    [.mk op (literal (identity + 4) line "payment.captured")]

/-- A handler that records an event when the comparison holds. -/
def comparingHandler (op : CmpOp) : FunctionControlModel :=
  coroutine "webhook" 1 ["request"] (readRequest ++
    [.if (node 200 6) (eventComparison 201 6 op) [recordEvent 220 7] []]) (by cases op <;> decide)

/-- The expression that `comparingHandler` compares reads the event. -/
def readsEvent (e : Expr) : Bool := e.info.identity = 202

/-- The branch of `comparingHandler`. -/
def comparison (op : CmpOp) : Stmt :=
  .if (node 200 6) (eventComparison 201 6 op) [recordEvent 220 7] []

/-- What `comparingHandler` does with an event for which the comparison holds. -/
theorem comparingHandler_records {op : CmpOp} {value : Value}
    (decides : Decides readsEvent value (comparison op) .body) :
    ∃ events, Runs readsEvent (fun _ => false) [] (.block (comparingHandler op).function.body)
        events .completes ∧
      .entered (recordEvent 220 7) [⟨comparison op, .body, value⟩] ∈ events := by
  have inside : Runs readsEvent (fun _ => false) ([] ++ [⟨comparison op, .body, value⟩])
      (.block [recordEvent 220 7]) _ .completes :=
    .next (.simple rfl (List.Subset.refl _)) .nil
  have gate : Runs readsEvent (fun _ => false) [] (.block [comparison op]) _ .completes :=
    .next (.ifBody (List.Subset.refl _) decides inside) .nil
  have plain : ∀ s ∈ readRequest, s.simple = true := by decide
  refine ⟨_, gate.straight plain, List.mem_append_right _ ?_⟩
  simp

end Example

end StateGuard
