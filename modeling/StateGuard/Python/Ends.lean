import StateGuard.Python.Execution

/-!
# How a statement may end

The ends of statements and blocks, computed from their structure: `Stmt.ends` says which exits
are possible without executing a blocked statement, with the arms that some value allows
(`armPossible`), loops that run any number of times and cleanups that override.
`avoiding_iff_ends` says that these are exactly the exits of such executions.

A statement is executed when its own expressions have been evaluated; one that raises before
that is not.  Arms of branches can be blocked too.
-/

namespace Python

/-- What an execution is to leave out: the execution of statements, with the calls evaluated in
them, and arms. -/
structure Blocked where
  head : Stmt → List Nat → Bool
  arm : Stmt → Arm → Bool

/-- No arm is blocked. -/
def Blocked.of (head : Stmt → List Nat → Bool) : Blocked := ⟨head, fun _ _ => false⟩

section

variable (reads suppresses : Expr → Bool) (blocked : Blocked)

/-- The statements that are executed as soon as they are entered. -/
def Stmt.headless : Stmt → Bool
  | .raise .. | .try .. | .plain _ .break _ | .plain _ .continue _ => true
  | _ => false

/-- The event executes a blocked statement or chooses a blocked arm. -/
def Event.hits : Event → Bool
  | .entered s _ => s.headless && blocked.head s s.strictCalls
  | .evaluated s calls => blocked.head s calls
  | .decided s arm => blocked.arm s arm

/-- Some value enters the arm. -/
def armPossible (gate : Stmt) (arm : Arm) : Bool := (armValues reads gate arm).inhabited

/-- Some value enters the arm, which is not blocked. -/
def armOpen (gate : Stmt) (arm : Arm) : Bool :=
  armPossible reads gate arm && !blocked.arm gate arm

/-- The values that pass every case over. -/
def passedValues (subject : Expr) (cases : List MatchCase) : Extent Value :=
  .inters (cases.map fun c => caseValues reads (reads subject) c false)

/-- Some exit is possible. -/
def someEnd (ends : Exit → Bool) : Bool :=
  ends .completes || ends .returns || ends .raises || ends .breaks || ends .continues

/-- The exits of a cleanup after what it cleans up. -/
def cleanedEnds (attempted cleaned : Exit → Bool) (exit : Exit) : Bool :=
  (decide (exit ≠ .completes) && cleaned exit && someEnd attempted) ||
    (cleaned .completes && attempted exit)

/-- The exits of a `try` statement's body, `else` block and handlers. -/
def attemptedEnds (body handled orelse : Exit → Bool) (exit : Exit) : Bool :=
  (decide (exit ≠ .completes) && body exit) || (body .completes && orelse exit) ||
    (body .raises && handled exit)

/-- The exits of a loop's iterations. -/
def iteratedEnds (body orelse : Exit → Bool) (exit : Exit) : Bool :=
  orelse exit || decide (exit = .raises) || (decide (exit = .completes) && body .breaks) ||
    (decide (exit = .returns) && body .returns)

mutual

/-- The exits of a statement. -/
def Stmt.ends : Stmt → Exit → Bool
  | s@(.return ..), exit =>
    decide (exit = .raises) || (!blocked.head s s.strictCalls && decide (exit = .returns))
  | s@(.raise ..), exit => !blocked.head s s.strictCalls && decide (exit = .raises)
  | s@(.plain _ .break _), exit =>
    !blocked.head s s.strictCalls && decide (exit = .breaks ∨ exit = .raises)
  | s@(.plain _ .continue _), exit =>
    !blocked.head s s.strictCalls && decide (exit = .continues ∨ exit = .raises)
  | s@(.if _ _ body orelse), exit =>
    decide (exit = .raises) || (!blocked.head s s.strictCalls &&
      ((armOpen reads blocked s .body && Stmt.endsAll body exit) ||
        (armOpen reads blocked s .orelse && Stmt.endsAll orelse exit)))
  | s@(.match _ subject cases), exit =>
    decide (exit = .raises) || (!blocked.head s s.strictCalls &&
      (MatchCase.endsAll s 0 cases exit ||
        (decide (exit = .completes) && (passedValues reads subject cases).inhabited)))
  | s@(.try _ star body handlers orelse finalbody), exit =>
    !blocked.head s s.strictCalls && (decide (exit = .raises) || cleanedEnds
      (attemptedEnds (Stmt.endsAll body)
        (fun exit => (star && decide (exit = .raises)) || Handler.endsAll handlers exit)
        (Stmt.endsAll orelse))
      (Stmt.endsAll finalbody) exit)
  | s@(.loop _ _ _ body orelse), exit =>
    decide (exit = .raises) ||
      (!blocked.head s s.strictCalls && iteratedEnds (Stmt.endsAll body) (Stmt.endsAll orelse) exit)
  | s@(.with _ _ items body), exit =>
    decide (exit = .raises) || (!blocked.head s s.strictCalls && (Stmt.endsAll body exit ||
      (decide (exit = .completes) && Stmt.endsAll body .raises && items.any suppresses)))
  | s@(.classDef _ _ body), exit =>
    decide (exit = .raises) || (!blocked.head s s.strictCalls && Stmt.endsAll body exit)
  | s, exit =>
    decide (exit = .raises) || (!blocked.head s s.strictCalls && decide (exit = .completes))

/-- The exits of a block. -/
def Stmt.endsAll : List Stmt → Exit → Bool
  | [], exit => decide (exit = .completes)
  | s :: rest, exit =>
    (decide (exit ≠ .completes) && s.ends exit) ||
      (s.ends .completes && Stmt.endsAll rest exit)

def MatchCase.endsAll (gate : Stmt) (index : Nat) : List MatchCase → Exit → Bool
  | [], _ => false
  | .mk _ _ body :: rest, exit =>
    (armOpen reads blocked gate (.case index) && Stmt.endsAll body exit) ||
      MatchCase.endsAll gate (index + 1) rest exit

def Handler.endsAll : List Handler → Exit → Bool
  | [], _ => false
  | .mk _ _ body :: rest, exit => Stmt.endsAll body exit || Handler.endsAll rest exit

end

/-- The exits of a task. -/
def Task.ends : Task → Exit → Bool
  | .stmt s, exit => s.ends reads suppresses blocked exit
  | .block body, exit => Stmt.endsAll reads suppresses blocked body exit
  | .iterate body orelse, exit =>
    iteratedEnds (Stmt.endsAll reads suppresses blocked body)
      (Stmt.endsAll reads suppresses blocked orelse) exit
  | .attempt star body hs orelse, exit =>
    attemptedEnds (Stmt.endsAll reads suppresses blocked body)
      (fun exit => (star && decide (exit = .raises)) ||
        Handler.endsAll reads suppresses blocked hs exit)
      (Stmt.endsAll reads suppresses blocked orelse) exit
  | .handlers hs, exit =>
    decide (exit = .raises) || Handler.endsAll reads suppresses blocked hs exit

end

/-! ## Executions end in these ways -/

section

variable {reads suppresses : Expr → Bool} {blocked : Blocked}

/-- Further calls do not unblock a statement. -/
def Blocked.Grows (blocked : Blocked) : Prop :=
  ∀ s calls calls', calls ⊆ calls' → blocked.head s calls = true → blocked.head s calls' = true

/-- No blocked statement is executed. -/
def Avoids (blocked : Blocked) (events : List Event) : Prop :=
  ∀ event ∈ events, event.hits blocked = false

theorem avoids_nil : Avoids blocked [] := fun _ impossible => absurd impossible List.not_mem_nil

theorem avoids_append {events later : List Event} :
    Avoids blocked (events ++ later) ↔ Avoids blocked events ∧ Avoids blocked later :=
  List.forall_mem_append

theorem avoids_cons {event : Event} {events : List Event} :
    Avoids blocked (event :: events) ↔ event.hits blocked = false ∧ Avoids blocked events :=
  List.forall_mem_cons

theorem avoids_decided {s : Stmt} {arm : Arm} {events : List Event} :
    Avoids blocked (.decided s arm :: events) ↔
      blocked.arm s arm = false ∧ Avoids blocked events := avoids_cons

/-- A statement that is executed when it is entered. -/
theorem avoids_headless {s : Stmt} {choices : List Taken} {events : List Event}
    (headless : s.headless = true) : Avoids blocked (.entered s choices :: events) ↔
      blocked.head s s.strictCalls = false ∧ Avoids blocked events := by
  rw [avoids_cons, Event.hits, headless, Bool.true_and]

/-- A statement that evaluated its own expressions. -/
theorem avoids_head (grows : blocked.Grows) {s : Stmt} {choices : List Taken} {calls : List Nat}
    {events : List Event} (strict : s.strictCalls ⊆ calls)
    (avoids : Avoids blocked (.entered s choices :: .evaluated s calls :: events)) :
    blocked.head s s.strictCalls = false ∧ Avoids blocked events := by
  obtain ⟨-, evaluated⟩ := avoids_cons.mp avoids
  obtain ⟨free, inside⟩ := avoids_cons.mp evaluated
  refine ⟨Bool.eq_false_iff.mpr fun stopped => ?_, inside⟩
  exact absurd (grows s _ _ strict stopped) (Bool.eq_false_iff.mp free)

theorem avoids_ran {s : Stmt} {choices : List Taken} {events : List Event}
    (free : blocked.head s s.strictCalls = false) (avoids : Avoids blocked events) :
    Avoids blocked (.entered s choices :: .evaluated s s.strictCalls :: events) := by
  refine avoids_cons.mpr ⟨?_, avoids_cons.mpr ⟨free, avoids⟩⟩
  rw [Event.hits, free, Bool.and_false]

theorem someEnd_iff {ends : Exit → Bool} : someEnd ends = true ↔ ∃ exit, ends exit = true := by
  constructor
  · intro some
    simp only [someEnd, Bool.or_eq_true] at some
    rcases some with (((h | h) | h) | h) | h
    all_goals exact ⟨_, h⟩
  · rintro ⟨exit, ends⟩
    cases exit <;> simp [someEnd, ends]

theorem armOpen_of_decides {gate : Stmt} {arm : Arm} {value : Value}
    (decides : Decides reads value gate arm) (free : blocked.arm gate arm = false) :
    armOpen reads blocked gate arm = true := by
  rw [armOpen, free, Bool.not_false, Bool.and_true]
  exact Extent.inhabited_iff.mpr ⟨value, (mem_armValues reads).mpr decides⟩

theorem exists_decides {gate : Stmt} {arm : Arm}
    (possible : armOpen reads blocked gate arm = true) :
    (∃ value, Decides reads value gate arm) ∧ blocked.arm gate arm = false := by
  obtain ⟨some, free⟩ := Bool.and_eq_true_iff.mp possible
  obtain ⟨value, member⟩ := Extent.inhabited_iff.mp some
  exact ⟨⟨value, (mem_armValues reads).mp member⟩, by simpa using free⟩

theorem mem_passedValues {value : Value} {subject : Expr} {cases : List MatchCase} :
    value ∈ passedValues reads subject cases ↔
      ∀ c ∈ cases, Takes reads (reads subject) value c false := by
  simp [passedValues, Extent.mem_inters, mem_caseValues]

theorem endsAll_of_case {gate : Stmt} {cases : List MatchCase} {index start : Nat}
    {c : MatchCase} {exit : Exit} (chosen : cases[index]? = some c)
    (possible : armOpen reads blocked gate (.case (start + index)) = true)
    (ends : Stmt.endsAll reads suppresses blocked c.body exit = true) :
    MatchCase.endsAll reads suppresses blocked gate start cases exit = true := by
  induction cases generalizing index start with
  | nil => simp at chosen
  | cons first rest ih =>
    obtain ⟨pattern, guard, body⟩ := first
    rw [MatchCase.endsAll, Bool.or_eq_true, Bool.and_eq_true]
    cases index with
    | zero =>
      rw [List.getElem?_cons_zero] at chosen
      cases chosen
      exact .inl ⟨possible, ends⟩
    | succ index =>
      rw [List.getElem?_cons_succ] at chosen
      refine .inr (ih chosen ?_)
      rw [Nat.add_assoc, Nat.add_comm 1]
      exact possible

theorem endsAll_of_handler {handlers : List Handler} {h : Handler} {exit : Exit}
    (handled : h ∈ handlers) (ends : Stmt.endsAll reads suppresses blocked h.body exit = true) :
    Handler.endsAll reads suppresses blocked handlers exit = true := by
  induction handlers with
  | nil => exact absurd handled List.not_mem_nil
  | cons first rest ih =>
    obtain ⟨info, type, body⟩ := first
    rw [Handler.endsAll, Bool.or_eq_true]
    rcases List.mem_cons.mp handled with rfl | later
    · exact .inl ends
    · exact .inr (ih later)

theorem raises_mem_ends {s : Stmt} {choices : List Taken}
    (avoids : Avoids blocked [.entered s choices]) :
    s.ends reads suppresses blocked .raises = true := by
  have free := (avoids_cons.mp avoids).1
  cases s with
  | plain info kind exprs => cases kind <;> simp_all [Stmt.ends, Event.hits, Stmt.headless]
  | raise | «try» => simp_all [Stmt.ends, Event.hits, Stmt.headless]
  | _ => simp [Stmt.ends]

/-- An execution that executes no blocked statement ends in a way that the structure allows. -/
theorem Runs.ends (grows : blocked.Grows) {choices : List Taken} {task : Task}
    {events : List Event} {exit : Exit}
    (runs : Runs reads suppresses choices task events exit) (avoids : Avoids blocked events) :
    task.ends reads suppresses blocked exit = true := by
  induction runs with
  | nil => rfl
  | next _ _ first later =>
    obtain ⟨early, late⟩ := avoids_append.mp avoids
    have first := first early
    have later := later late
    simp only [Task.ends] at first later ⊢
    simp [Stmt.endsAll, first, later]
  | stop _ abrupt first =>
    have first := first avoids
    simp only [Task.ends] at first ⊢
    simp [Stmt.endsAll, first, abrupt]
  | raises => exact raises_mem_ends avoids
  | @simple _ s _ plain strict =>
    have free := (avoids_head grows strict avoids).1
    cases s with
    | plain info kind exprs =>
      cases kind with
      | «break» | «continue» => simp [Stmt.simple] at plain
      | _ => simp [Task.ends, Stmt.ends, free]
    | assign | annAssign | augAssign | expr | functionDef => simp [Task.ends, Stmt.ends, free]
    | _ => cases plain
  | returns strict =>
    have free := (avoids_head grows strict avoids).1
    simp [Task.ends, Stmt.ends, free]
  | breaks | continues =>
    have free := ((avoids_headless rfl).mp avoids).1
    simp [Task.ends, Stmt.ends, free]
  | ifBody strict decides _ arm =>
    obtain ⟨free, inside⟩ := avoids_head grows strict avoids
    obtain ⟨isOpen, inside⟩ := avoids_decided.mp inside
    have arm := arm inside
    simp only [Task.ends] at arm ⊢
    simp [Stmt.ends, free, armOpen_of_decides decides isOpen, arm]
  | ifOrelse strict decides _ arm =>
    obtain ⟨free, inside⟩ := avoids_head grows strict avoids
    obtain ⟨isOpen, inside⟩ := avoids_decided.mp inside
    have arm := arm inside
    simp only [Task.ends] at arm ⊢
    simp [Stmt.ends, free, armOpen_of_decides decides isOpen, arm]
  | @matchCase _ _ _ _ index _ _ _ _ _ strict chosen decides _ arm =>
    obtain ⟨free, inside⟩ := avoids_head grows strict avoids
    obtain ⟨isOpen, inside⟩ := avoids_decided.mp inside
    have arm := arm inside
    simp only [Task.ends] at arm ⊢
    have possible := armOpen_of_decides decides isOpen
    rw [← Nat.zero_add index] at possible
    simp [Stmt.ends, free, endsAll_of_case chosen possible arm]
  | matchNone strict passed =>
    have free := (avoids_head grows strict avoids).1
    have possible := Extent.inhabited_iff.mpr ⟨_, mem_passedValues.mpr passed⟩
    simp [Task.ends, Stmt.ends, free, possible]
  | loop strict _ iterations =>
    obtain ⟨free, inside⟩ := avoids_head grows strict avoids
    have iterations := iterations inside
    simp only [Task.ends] at iterations ⊢
    simp [Stmt.ends, free, iterations]
  | withBody strict _ inner | classBody strict _ inner =>
    obtain ⟨free, inside⟩ := avoids_head grows strict avoids
    have inner := inner inside
    simp only [Task.ends] at inner ⊢
    simp [Stmt.ends, free, inner]
  | withSuppressed strict _ suppressed inner =>
    obtain ⟨free, inside⟩ := avoids_head grows strict avoids
    have inner := inner inside
    simp only [Task.ends] at inner ⊢
    have any := List.any_eq_true.mpr suppressed
    simp [Stmt.ends, free, inner, any]
  | @tryFinally _ _ _ _ _ _ _ _ _ exit cleanup _ _ attempted cleaned =>
    obtain ⟨free, inside⟩ := (avoids_headless rfl).mp avoids
    obtain ⟨early, late⟩ := avoids_append.mp inside
    have attempted := attempted early
    have cleaned := cleaned late
    simp only [Task.ends] at attempted cleaned ⊢
    have some := someEnd_iff.mpr ⟨exit, attempted⟩
    rw [Stmt.ends, free, Bool.not_false, Bool.true_and, Bool.or_eq_true, cleanedEnds, Exit.after]
    right
    split
    next completed =>
      rw [completed] at cleaned
      simp [cleaned, attempted]
    next abrupt => simp [abrupt, cleaned, some]
  | exhausted _ inner =>
    have inner := inner avoids
    simp only [Task.ends] at inner ⊢
    simp [iteratedEnds, inner]
  | headRaises => simp [Task.ends, iteratedEnds]
  | again _ _ _ _ later => exact later (avoids_append.mp avoids).2
  | broken _ inner =>
    have inner := inner avoids
    simp only [Task.ends] at inner ⊢
    simp [iteratedEnds, inner]
  | left _ leaves inner =>
    have inner := inner avoids
    simp only [Task.ends] at inner ⊢
    rcases leaves with rfl | rfl
    · simp [iteratedEnds, inner]
    · simp [iteratedEnds]
  | completed _ _ inner later =>
    obtain ⟨early, late⟩ := avoids_append.mp avoids
    have inner := inner early
    have later := later late
    simp only [Task.ends] at inner later ⊢
    simp [attemptedEnds, inner, later]
  | uncaught _ abrupt inner =>
    have inner := inner avoids
    simp only [Task.ends] at inner ⊢
    simp [attemptedEnds, inner, abrupt]
  | caught _ handled _ inner handler =>
    obtain ⟨early, late⟩ := avoids_append.mp avoids
    have inner := inner early
    have handler := handler late
    simp only [Task.ends] at inner handler ⊢
    simp [attemptedEnds, inner, endsAll_of_handler handled handler]
  | caughtGroup _ _ inner handled =>
    obtain ⟨early, late⟩ := avoids_append.mp avoids
    have inner := inner early
    have handled := handled late
    simp only [Task.ends] at inner handled ⊢
    simp only [attemptedEnds, inner, Bool.true_and, handled, Bool.or_true]
  | unhandled => rfl
  | @skipHandler _ h _ _ _ _ later =>
    obtain ⟨info, type, body⟩ := h
    have later := later avoids
    simp only [Task.ends, Handler.endsAll, Bool.or_eq_true] at later ⊢
    exact later.imp id .inr
  | @lastHandler _ h _ _ _ _ handler =>
    obtain ⟨info, type, body⟩ := h
    have handler : Stmt.endsAll reads suppresses blocked body _ = true := handler avoids
    simp [Task.ends, Handler.endsAll, handler]
  | @runHandler _ h _ _ _ exit exit' _ _ handler later =>
    obtain ⟨info, type, body⟩ := h
    obtain ⟨early, late⟩ := avoids_append.mp avoids
    have handler := handler early
    have later := later late
    simp only [Task.ends, Handler.endsAll, Bool.or_eq_true] at handler later ⊢
    rw [Exit.after]
    split
    next => exact later.imp id .inr
    next => exact .inr (.inl handler)

/-- A statement that does not raise is free. -/
theorem free_of_ends {s : Stmt} {exit : Exit} (ends : s.ends reads suppresses blocked exit = true)
    (done : s.headless = true ∨ exit ≠ .raises) : blocked.head s s.strictCalls = false := by
  cases s with
  | plain info kind exprs => cases kind <;> simp_all [Stmt.ends, Stmt.headless]
  | _ => simp_all [Stmt.ends, Stmt.headless]

/-- A statement that can raise may do so at once. -/
theorem canRaise {s : Stmt} {choices : List Taken}
    (ends : s.ends reads suppresses blocked .raises = true) :
    Avoids blocked [.entered s choices] := by
  refine avoids_cons.mpr ⟨?_, avoids_nil⟩
  rw [Event.hits, Bool.and_eq_false_imp]
  intro headless
  exact free_of_ends ends (.inl headless)

/-! ## Every such end is possible -/

/-- Executions that execute no blocked statement can end like this. -/
def CanEnd (reads suppresses : Expr → Bool) (blocked : Blocked) (task : Task)
    (exit : Exit) : Prop :=
  ∀ choices, ∃ events, Runs reads suppresses choices task events exit ∧ Avoids blocked events

theorem canEnd_iterate {body orelse : List Stmt} {exit : Exit}
    (inBody : ∀ exit, Stmt.endsAll reads suppresses blocked body exit = true →
      CanEnd reads suppresses blocked (.block body) exit)
    (inOrelse : ∀ exit, Stmt.endsAll reads suppresses blocked orelse exit = true →
      CanEnd reads suppresses blocked (.block orelse) exit)
    (ends : iteratedEnds (Stmt.endsAll reads suppresses blocked body)
      (Stmt.endsAll reads suppresses blocked orelse) exit = true) :
    CanEnd reads suppresses blocked (.iterate body orelse) exit := by
  intro choices
  simp only [iteratedEnds, Bool.or_eq_true, Bool.and_eq_true, decide_eq_true_eq] at ends
  rcases ends with ((later | rfl) | ⟨rfl, broken⟩) | ⟨rfl, returned⟩
  · obtain ⟨events, runs, avoids⟩ := inOrelse exit later choices
    exact ⟨events, .exhausted runs, avoids⟩
  · exact ⟨[], .headRaises, avoids_nil⟩
  · obtain ⟨events, runs, avoids⟩ := inBody .breaks broken choices
    exact ⟨events, .broken runs, avoids⟩
  · obtain ⟨events, runs, avoids⟩ := inBody .returns returned choices
    exact ⟨events, .left runs (.inl rfl), avoids⟩

theorem canEnd_handlers {handlers : List Handler} {h : Handler} {exit : Exit}
    (isHandler : h ∈ handlers) (canEnd : CanEnd reads suppresses blocked (.block h.body) exit) :
    CanEnd reads suppresses blocked (.handlers handlers) exit := by
  intro choices
  induction handlers with
  | nil => exact absurd isHandler List.not_mem_nil
  | cons first rest ih =>
    rcases List.mem_cons.mp isHandler with rfl | later
    · obtain ⟨events, runs, avoids⟩ := canEnd choices
      exact ⟨events, .lastHandler runs, avoids⟩
    · obtain ⟨events, runs, avoids⟩ := ih later
      exact ⟨events, .skipHandler runs, avoids⟩

theorem canEnd_attempt {star : Bool} {body orelse : List Stmt} {handlers : List Handler}
    {exit : Exit}
    (inBody : ∀ exit, Stmt.endsAll reads suppresses blocked body exit = true →
      CanEnd reads suppresses blocked (.block body) exit)
    (inHandlers : ∀ exit, Handler.endsAll reads suppresses blocked handlers exit = true →
      ∃ h ∈ handlers, CanEnd reads suppresses blocked (.block h.body) exit)
    (inOrelse : ∀ exit, Stmt.endsAll reads suppresses blocked orelse exit = true →
      CanEnd reads suppresses blocked (.block orelse) exit)
    (ends : attemptedEnds (Stmt.endsAll reads suppresses blocked body)
      (fun exit => (star && decide (exit = .raises)) ||
        Handler.endsAll reads suppresses blocked handlers exit)
      (Stmt.endsAll reads suppresses blocked orelse) exit = true) :
    CanEnd reads suppresses blocked (.attempt star body handlers orelse) exit := by
  intro choices
  simp only [attemptedEnds, Bool.or_eq_true, Bool.and_eq_true, decide_eq_true_eq] at ends
  rcases ends with (⟨abrupt, early⟩ | ⟨through, later⟩) |
    ⟨raised, ⟨isStar, rfl⟩ | handled⟩
  · obtain ⟨events, runs, avoids⟩ := inBody exit early choices
    exact ⟨events, .uncaught runs abrupt, avoids⟩
  · obtain ⟨events, runs, avoids⟩ := inBody .completes through choices
    obtain ⟨events', runs', avoids'⟩ := inOrelse exit later choices
    exact ⟨_, .completed runs runs', avoids_append.mpr ⟨avoids, avoids'⟩⟩
  · obtain ⟨events, runs, avoids⟩ := inBody .raises raised choices
    exact ⟨events, .uncaught runs Exit.noConfusion, avoids⟩
  · obtain ⟨events, runs, avoids⟩ := inBody .raises raised choices
    obtain ⟨h, isHandler, canEnd⟩ := inHandlers exit handled
    cases star with
    | false =>
      obtain ⟨events', runs', avoids'⟩ := canEnd choices
      exact ⟨_, .caught runs isHandler runs', avoids_append.mpr ⟨avoids, avoids'⟩⟩
    | true =>
      obtain ⟨events', runs', avoids'⟩ := canEnd_handlers isHandler canEnd choices
      exact ⟨_, .caughtGroup runs runs', avoids_append.mpr ⟨avoids, avoids'⟩⟩

mutual

/-- Every exit of a statement is that of an execution. -/
theorem Stmt.canEnd (s : Stmt) (exit : Exit)
    (ends : s.ends reads suppresses blocked exit = true) :
    CanEnd reads suppresses blocked (.stmt s) exit := by
  intro choices
  by_cases raised : exit = .raises
  · subst raised
    exact ⟨_, .raises, canRaise ends⟩
  have free := free_of_ends ends (.inr raised)
  match s with
  | .return info value =>
    simp [Stmt.ends, raised, free] at ends
    subst ends
    exact ⟨_, .returns (List.Subset.refl _), avoids_ran free avoids_nil⟩
  | .raise .. => simp [Stmt.ends, raised, free] at ends
  | .plain info .break exprs =>
    simp [Stmt.ends, raised, free] at ends
    subst ends
    exact ⟨_, .breaks, (avoids_headless rfl).mpr ⟨free, avoids_nil⟩⟩
  | .plain info .continue exprs =>
    simp [Stmt.ends, raised, free] at ends
    subst ends
    exact ⟨_, .continues, (avoids_headless rfl).mpr ⟨free, avoids_nil⟩⟩
  | .plain info (.import names) exprs | .plain info (.importFrom name names) exprs
  | .plain info (.other kind) exprs | .assign .. | .annAssign .. | .augAssign .. | .expr ..
  | .functionDef .. =>
    simp [Stmt.ends, raised, free] at ends
    subst ends
    exact ⟨_, .simple rfl (List.Subset.refl _), avoids_ran free avoids_nil⟩
  | .if info test body orelse =>
    simp only [Stmt.ends, free, Bool.not_false, Bool.true_and, Bool.or_eq_true, Bool.and_eq_true,
      decide_eq_true_eq, raised, false_or] at ends
    rcases ends with ⟨possible, inside⟩ | ⟨possible, inside⟩
    all_goals obtain ⟨⟨value, decides⟩, isOpen⟩ := exists_decides possible
    · obtain ⟨events, runs, avoids⟩ := Stmt.canEndAll body exit inside _
      exact ⟨_, .ifBody (List.Subset.refl _) decides runs,
        avoids_ran free (avoids_decided.mpr ⟨isOpen, avoids⟩)⟩
    · obtain ⟨events, runs, avoids⟩ := Stmt.canEndAll orelse exit inside _
      exact ⟨_, .ifOrelse (List.Subset.refl _) decides runs,
        avoids_ran free (avoids_decided.mpr ⟨isOpen, avoids⟩)⟩
  | .match info subject cases =>
    simp only [Stmt.ends, free, Bool.not_false, Bool.true_and, Bool.or_eq_true, Bool.and_eq_true,
      decide_eq_true_eq, raised, false_or] at ends
    rcases ends with inside | ⟨rfl, passed⟩
    · obtain ⟨index, c, chosen, possible, canEnd⟩ :=
        MatchCase.canEndAll (.match info subject cases) 0 cases exit inside
      rw [Nat.zero_add] at possible
      obtain ⟨⟨value, decides⟩, isOpen⟩ := exists_decides possible
      obtain ⟨events, runs, avoids⟩ := canEnd _
      exact ⟨_, .matchCase (List.Subset.refl _) chosen decides runs,
        avoids_ran free (avoids_decided.mpr ⟨isOpen, avoids⟩)⟩
    · obtain ⟨value, member⟩ := Extent.inhabited_iff.mp passed
      exact ⟨_, .matchNone (List.Subset.refl _) (mem_passedValues.mp member),
        avoids_ran free avoids_nil⟩
  | .try info star body handlers orelse finalbody =>
    simp only [Stmt.ends, free, Bool.not_false, Bool.true_and, Bool.or_eq_true,
      decide_eq_true_eq, raised, false_or, cleanedEnds, Bool.and_eq_true] at ends
    have inBody := fun exit ends => Stmt.canEndAll body exit ends
    have inOrelse := fun exit ends => Stmt.canEndAll orelse exit ends
    have inHandlers := fun exit ends => Handler.canEndAll handlers exit ends
    have attempt : ∀ exit, (Task.attempt star body handlers orelse).ends reads suppresses blocked
        exit = true → CanEnd reads suppresses blocked (.attempt star body handlers orelse) exit :=
      fun exit ends => canEnd_attempt inBody inHandlers inOrelse ends
    rcases ends with ⟨⟨abrupt, cleaned⟩, some⟩ | ⟨cleaned, attempted⟩
    · obtain ⟨first, isFirst⟩ := someEnd_iff.mp some
      obtain ⟨events, attempts, avoids⟩ := attempt first isFirst choices
      obtain ⟨events', cleans, avoids'⟩ := Stmt.canEndAll finalbody exit cleaned choices
      have runs : Runs reads suppresses choices
          (.stmt (.try info star body handlers orelse finalbody)) _ (exit.after first) :=
        .tryFinally attempts cleans
      rw [Exit.after, if_neg abrupt] at runs
      exact ⟨_, runs,
        (avoids_headless rfl).mpr ⟨free, avoids_append.mpr ⟨avoids, avoids'⟩⟩⟩
    · obtain ⟨events, attempts, avoids⟩ := attempt exit attempted choices
      obtain ⟨events', cleans, avoids'⟩ := Stmt.canEndAll finalbody .completes cleaned choices
      exact ⟨_, .tryFinally attempts cleans,
        (avoids_headless rfl).mpr ⟨free, avoids_append.mpr ⟨avoids, avoids'⟩⟩⟩
  | .loop info kind head body orelse =>
    simp only [Stmt.ends, free, Bool.not_false, Bool.true_and, Bool.or_eq_true,
      decide_eq_true_eq, raised, false_or] at ends
    obtain ⟨events, runs, avoids⟩ := canEnd_iterate
      (fun exit ends => Stmt.canEndAll body exit ends)
      (fun exit ends => Stmt.canEndAll orelse exit ends) ends choices
    exact ⟨_, .loop (List.Subset.refl _) runs, avoids_ran free avoids⟩
  | .with info async items body =>
    simp only [Stmt.ends, free, Bool.not_false, Bool.true_and, Bool.or_eq_true, Bool.and_eq_true,
      decide_eq_true_eq, raised, false_or] at ends
    rcases ends with inside | ⟨⟨rfl, raises⟩, suppressed⟩
    · obtain ⟨events, runs, avoids⟩ := Stmt.canEndAll body exit inside choices
      exact ⟨_, .withBody (List.Subset.refl _) runs, avoids_ran free avoids⟩
    · obtain ⟨events, runs, avoids⟩ := Stmt.canEndAll body .raises raises choices
      exact ⟨_, .withSuppressed (List.Subset.refl _) runs (List.any_eq_true.mp suppressed),
        avoids_ran free avoids⟩
  | .classDef info head body =>
    simp only [Stmt.ends, free, Bool.not_false, Bool.true_and, Bool.or_eq_true,
      decide_eq_true_eq, raised, false_or] at ends
    obtain ⟨events, runs, avoids⟩ := Stmt.canEndAll body exit ends choices
    exact ⟨_, .classBody (List.Subset.refl _) runs, avoids_ran free avoids⟩

theorem Stmt.canEndAll (body : List Stmt) (exit : Exit)
    (ends : Stmt.endsAll reads suppresses blocked body exit = true) :
    CanEnd reads suppresses blocked (.block body) exit := by
  intro choices
  match body with
  | [] =>
    simp [Stmt.endsAll] at ends
    subst ends
    exact ⟨_, .nil, avoids_nil⟩
  | s :: rest =>
    simp only [Stmt.endsAll, Bool.or_eq_true, Bool.and_eq_true, decide_eq_true_eq] at ends
    rcases ends with ⟨abrupt, first⟩ | ⟨first, later⟩
    · obtain ⟨events, runs, avoids⟩ := Stmt.canEnd s exit first choices
      exact ⟨_, .stop runs abrupt, avoids⟩
    · obtain ⟨events, runs, avoids⟩ := Stmt.canEnd s .completes first choices
      obtain ⟨events', runs', avoids'⟩ := Stmt.canEndAll rest exit later choices
      exact ⟨_, .next runs runs', avoids_append.mpr ⟨avoids, avoids'⟩⟩

theorem MatchCase.canEndAll (gate : Stmt) (start : Nat) (cases : List MatchCase) (exit : Exit)
    (ends : MatchCase.endsAll reads suppresses blocked gate start cases exit = true) :
    ∃ index c, cases[index]? = some c ∧
      armOpen reads blocked gate (.case (start + index)) = true ∧
      CanEnd reads suppresses blocked (.block c.body) exit := by
  match cases with
  | [] => cases ends
  | .mk pattern guard body :: rest =>
    rw [MatchCase.endsAll, Bool.or_eq_true, Bool.and_eq_true] at ends
    rcases ends with ⟨possible, inside⟩ | later
    · exact ⟨0, .mk pattern guard body, rfl, possible, Stmt.canEndAll body exit inside⟩
    · obtain ⟨index, c, chosen, possible, canEnd⟩ :=
        MatchCase.canEndAll gate (start + 1) rest exit later
      refine ⟨index + 1, c, chosen, ?_, canEnd⟩
      rw [Nat.add_comm index, ← Nat.add_assoc]
      exact possible

theorem Handler.canEndAll (handlers : List Handler) (exit : Exit)
    (ends : Handler.endsAll reads suppresses blocked handlers exit = true) :
    ∃ h ∈ handlers, CanEnd reads suppresses blocked (.block h.body) exit := by
  match handlers with
  | [] => cases ends
  | .mk info type body :: rest =>
    rw [Handler.endsAll, Bool.or_eq_true] at ends
    rcases ends with inside | later
    · exact ⟨_, List.mem_cons_self, Stmt.canEndAll body exit inside⟩
    · obtain ⟨h, isHandler, canEnd⟩ := Handler.canEndAll rest exit later
      exact ⟨h, List.mem_cons_of_mem _ isHandler, canEnd⟩

end

/-- The exits computed for a block are the exits of its executions that execute no blocked
statement. -/
theorem avoiding_iff_ends (grows : blocked.Grows) {body : List Stmt} {exit : Exit}
    {choices : List Taken} :
    (∃ events, Runs reads suppresses choices (.block body) events exit ∧
      Avoids blocked events) ↔ Stmt.endsAll reads suppresses blocked body exit = true :=
  ⟨fun ⟨_, runs, avoids⟩ => runs.ends grows avoids,
    fun ends => Stmt.canEndAll body exit ends choices⟩

/-- A block ends in a way only after a blocked statement was executed, exactly if it cannot end so
around them. -/
theorem through_iff (grows : blocked.Grows) {body : List Stmt} {exit : Exit}
    {choices : List Taken} :
    (∀ events, Runs reads suppresses choices (.block body) events exit →
      ∃ event ∈ events, event.hits blocked = true) ↔
      Stmt.endsAll reads suppresses blocked body exit = false := by
  rw [← Bool.not_eq_true, ← @avoiding_iff_ends reads suppresses blocked grows body exit choices]
  constructor
  · rintro through ⟨events, runs, avoids⟩
    obtain ⟨event, inside, hits⟩ := through events runs
    exact absurd hits (Bool.eq_false_iff.mp (avoids event inside))
  · intro around events runs
    by_contra absent
    refine around ⟨events, runs, fun event inside => ?_⟩
    exact Bool.eq_false_iff.mpr fun hits => absent ⟨event, inside, hits⟩

/-! ## Nothing blocked -/

/-- Everything may be executed. -/
def unblocked : Blocked := .of fun _ _ => false

@[simp]
theorem unblocked_head (s : Stmt) (calls : List Nat) : unblocked.head s calls = false := rfl

theorem grows_unblocked : unblocked.Grows := fun _ _ _ _ impossible => impossible

theorem avoids_unblocked (events : List Event) : Avoids unblocked events := by
  intro event _
  cases event <;> simp [Event.hits, unblocked, Blocked.of]

/-- The exits computed for a block are the exits of its executions. -/
theorem runs_iff_ends {body : List Stmt} {exit : Exit} {choices : List Taken} :
    (∃ events, Runs reads suppresses choices (.block body) events exit) ↔
      Stmt.endsAll reads suppresses unblocked body exit = true := by
  constructor
  · rintro ⟨events, runs⟩
    exact runs.ends grows_unblocked (avoids_unblocked events)
  · intro ends
    obtain ⟨events, runs, -⟩ := Stmt.canEndAll body exit ends choices
    exact ⟨events, runs⟩

/-- Every block has an execution. -/
theorem exists_endsAll (reads suppresses : Expr → Bool) (body : List Stmt) :
    ∃ exit, Stmt.endsAll reads suppresses unblocked body exit = true := by
  cases body with
  | nil => exact ⟨.completes, rfl⟩
  | cons s rest =>
    have raises : s.ends reads suppresses unblocked .raises = true :=
      @raises_mem_ends reads suppresses unblocked s [] (avoids_unblocked _)
    exact ⟨.raises, by simp [Stmt.endsAll, raises]⟩

end

end Python
