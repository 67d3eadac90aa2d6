import StateGuard.Python.Ends

/-!
# Which statements are reached

`Stmt.reaches` says, from the structure of a statement, whether an execution of it can enter a
goal statement with no blocked statement executed before.  `reached_iff` says that this is exact:
so a statement that is reached only through the blocked ones is certainly preceded by one of
them.  A statement that can be reached can also raise there (`CanReach`).
-/

namespace Python

section

variable (reads suppresses : Expr → Bool) (blocked : Blocked) (goal : Stmt → Bool)

mutual

/-- Whether a goal can be entered in a statement. -/
def Stmt.reaches : Stmt → Bool
  | s@(.if _ _ body orelse) =>
    goal s || (!blocked.head s s.strictCalls &&
      ((armOpen reads blocked s .body && Stmt.reachesAll body) ||
        (armOpen reads blocked s .orelse && Stmt.reachesAll orelse)))
  | s@(.match _ _ cases) =>
    goal s || (!blocked.head s s.strictCalls && MatchCase.reachesAll s 0 cases)
  | s@(.try _ star body handlers orelse finalbody) =>
    goal s || (!blocked.head s s.strictCalls && (Stmt.reachesAll body ||
      (Stmt.endsAll reads suppresses blocked body .raises && Handler.reachesAll handlers) ||
      (Stmt.endsAll reads suppresses blocked body .completes && Stmt.reachesAll orelse) ||
      (someEnd ((Task.attempt star body handlers orelse).ends reads suppresses blocked) &&
        Stmt.reachesAll finalbody)))
  | s@(.loop _ _ _ body orelse) =>
    goal s || (!blocked.head s s.strictCalls && (Stmt.reachesAll body || Stmt.reachesAll orelse))
  | s@(.with _ _ _ body) => goal s || (!blocked.head s s.strictCalls && Stmt.reachesAll body)
  | s@(.classDef _ _ body) => goal s || (!blocked.head s s.strictCalls && Stmt.reachesAll body)
  | s => goal s

def Stmt.reachesAll : List Stmt → Bool
  | [] => false
  | s :: rest =>
    s.reaches || (s.ends reads suppresses blocked .completes && Stmt.reachesAll rest)

def MatchCase.reachesAll (gate : Stmt) (index : Nat) : List MatchCase → Bool
  | [] => false
  | .mk _ _ body :: rest =>
    (armOpen reads blocked gate (.case index) && Stmt.reachesAll body) ||
      MatchCase.reachesAll gate (index + 1) rest

def Handler.reachesAll : List Handler → Bool
  | [] => false
  | .mk _ _ body :: rest => Stmt.reachesAll body || Handler.reachesAll rest

end

/-- Whether a goal can be entered in a task. -/
def Task.reaches : Task → Bool
  | .stmt s => s.reaches reads suppresses blocked goal
  | .block body => Stmt.reachesAll reads suppresses blocked goal body
  | .iterate body orelse =>
    Stmt.reachesAll reads suppresses blocked goal body ||
      Stmt.reachesAll reads suppresses blocked goal orelse
  | .attempt _ body hs orelse =>
    Stmt.reachesAll reads suppresses blocked goal body ||
      (Stmt.endsAll reads suppresses blocked body .raises &&
        Handler.reachesAll reads suppresses blocked goal hs) ||
      (Stmt.endsAll reads suppresses blocked body .completes &&
        Stmt.reachesAll reads suppresses blocked goal orelse)
  | .handlers hs => Handler.reachesAll reads suppresses blocked goal hs

end

section

variable {reads suppresses : Expr → Bool} {blocked : Blocked} {goal : Stmt → Bool}

/-- A goal is entered, and no blocked statement was executed before it. -/
def ReachedIn (blocked : Blocked) (goal : Stmt → Bool) (events : List Event) :
    Prop :=
  ∃ before s choices after, events = before ++ .entered s choices :: after ∧ goal s = true ∧
    Avoids blocked before

theorem not_reachedIn_nil : ¬ ReachedIn blocked goal [] := by
  rintro ⟨before, s, choices, after, split, -⟩
  simp at split

theorem reachedIn_append {events later : List Event}
    (reached : ReachedIn blocked goal (events ++ later)) :
    ReachedIn blocked goal events ∨ (Avoids blocked events ∧ ReachedIn blocked goal later) := by
  obtain ⟨before, s, choices, after, split, isGoal, avoids⟩ := reached
  rcases List.append_eq_append_iff.mp split with ⟨rest, rfl, inLater⟩ | ⟨rest, rfl, inFirst⟩
  · obtain ⟨early, late⟩ := avoids_append.mp avoids
    exact .inr ⟨early, rest, s, choices, after, inLater, isGoal, late⟩
  · cases rest with
    | nil =>
      rw [List.append_nil]
      exact .inr ⟨avoids, [], s, choices, after, inFirst.symm, isGoal, avoids_nil⟩
    | cons event rest =>
      cases inFirst
      exact .inl ⟨before, s, choices, rest, rfl, isGoal, avoids⟩

theorem reachedIn_entered {s : Stmt} {choices : List Taken} {events : List Event}
    (reached : ReachedIn blocked goal (.entered s choices :: events)) :
    goal s = true ∨
      (Event.hits blocked (.entered s choices) = false ∧ ReachedIn blocked goal events) := by
  obtain ⟨before, s', choices', after, split, isGoal, avoids⟩ := reached
  cases before with
  | nil =>
    cases split
    exact .inl isGoal
  | cons event before =>
    cases split
    obtain ⟨free, clear⟩ := avoids_cons.mp avoids
    exact .inr ⟨free, before, s', choices', after, rfl, isGoal, clear⟩

theorem reachedIn_later {event : Event} {events : List Event}
    (entry : ∀ s choices, event ≠ .entered s choices)
    (reached : ReachedIn blocked goal (event :: events)) :
    event.hits blocked = false ∧ ReachedIn blocked goal events := by
  obtain ⟨before, s', choices', after, split, isGoal, avoids⟩ := reached
  cases before with
  | nil =>
    cases split
    exact absurd rfl (entry s' choices')
  | cons event' before =>
    cases split
    obtain ⟨free, clear⟩ := avoids_cons.mp avoids
    exact ⟨free, before, s', choices', after, rfl, isGoal, clear⟩

theorem reachedIn_decided {s : Stmt} {arm : Arm} {events : List Event}
    (reached : ReachedIn blocked goal (.decided s arm :: events)) :
    blocked.arm s arm = false ∧ ReachedIn blocked goal events :=
  reachedIn_later (fun _ _ => Event.noConfusion) reached

theorem reachedIn_headless {s : Stmt} {choices : List Taken} {events : List Event}
    (headless : s.headless = true)
    (reached : ReachedIn blocked goal (.entered s choices :: events)) :
    goal s = true ∨ (blocked.head s s.strictCalls = false ∧ ReachedIn blocked goal events) := by
  refine (reachedIn_entered reached).imp_right fun ⟨free, inside⟩ => ⟨?_, inside⟩
  rw [Event.hits, headless, Bool.true_and] at free
  exact free

/-- A goal in a statement is the statement, or is reached once its expressions are evaluated. -/
theorem reachedIn_head (grows : blocked.Grows) {s : Stmt} {choices : List Taken}
    {calls : List Nat} {events : List Event} (strict : s.strictCalls ⊆ calls)
    (reached : ReachedIn blocked goal (.entered s choices :: .evaluated s calls :: events)) :
    goal s = true ∨ (blocked.head s s.strictCalls = false ∧ ReachedIn blocked goal events) := by
  refine (reachedIn_entered reached).imp_right fun ⟨_, inside⟩ => ?_
  obtain ⟨free, later⟩ := reachedIn_later (fun _ _ => Event.noConfusion) inside
  refine ⟨Bool.eq_false_iff.mpr fun stopped => ?_, later⟩
  exact absurd (grows s _ _ strict stopped) (Bool.eq_false_iff.mp free)

/-! ## What is reached can be reached -/

theorem reaches_of_goal {s : Stmt} (isGoal : goal s = true) :
    s.reaches reads suppresses blocked goal = true := by
  cases s <;> simp [Stmt.reaches, isGoal]

theorem reachesAll_of_case {gate : Stmt} {cases : List MatchCase} {index start : Nat}
    {c : MatchCase} (chosen : cases[index]? = some c)
    (possible : armOpen reads blocked gate (.case (start + index)) = true)
    (reaches : Stmt.reachesAll reads suppresses blocked goal c.body = true) :
    MatchCase.reachesAll reads suppresses blocked goal gate start cases = true := by
  induction cases generalizing index start with
  | nil => simp at chosen
  | cons first rest ih =>
    obtain ⟨pattern, guard, body⟩ := first
    rw [MatchCase.reachesAll, Bool.or_eq_true, Bool.and_eq_true]
    cases index with
    | zero =>
      rw [List.getElem?_cons_zero] at chosen
      cases chosen
      exact .inl ⟨possible, reaches⟩
    | succ index =>
      rw [List.getElem?_cons_succ] at chosen
      refine .inr (ih chosen ?_)
      rw [Nat.add_assoc, Nat.add_comm 1]
      exact possible

theorem reachesAll_of_handler {handlers : List Handler} {h : Handler} (handled : h ∈ handlers)
    (reaches : Stmt.reachesAll reads suppresses blocked goal h.body = true) :
    Handler.reachesAll reads suppresses blocked goal handlers = true := by
  induction handlers with
  | nil => exact absurd handled List.not_mem_nil
  | cons first rest ih =>
    obtain ⟨info, type, body⟩ := first
    rw [Handler.reachesAll, Bool.or_eq_true]
    rcases List.mem_cons.mp handled with rfl | later
    · exact .inl reaches
    · exact .inr (ih later)

/-- An execution reaches what the structure allows. -/
theorem Runs.reaches (grows : blocked.Grows) {choices : List Taken} {task : Task}
    {events : List Event} {exit : Exit}
    (runs : Runs reads suppresses choices task events exit)
    (reached : ReachedIn blocked goal events) :
    task.reaches reads suppresses blocked goal = true := by
  induction runs with
  | nil | headRaises | unhandled => exact absurd reached not_reachedIn_nil
  | next first _ inFirst inLater =>
    rw [Task.reaches, Stmt.reachesAll, Bool.or_eq_true, Bool.and_eq_true]
    rcases reachedIn_append reached with early | ⟨avoids, late⟩
    · exact .inl (inFirst early)
    · exact .inr ⟨first.ends grows avoids, inLater late⟩
  | stop _ _ inFirst =>
    rw [Task.reaches, Stmt.reachesAll, Bool.or_eq_true]
    exact .inl (inFirst reached)
  | raises | breaks | continues =>
    rcases reachedIn_entered reached with isGoal | ⟨-, inside⟩
    · exact reaches_of_goal isGoal
    · exact absurd inside not_reachedIn_nil
  | simple _ strict | returns strict | matchNone strict =>
    rcases reachedIn_head grows strict reached with isGoal | ⟨-, inside⟩
    · exact reaches_of_goal isGoal
    · exact absurd inside not_reachedIn_nil
  | ifBody strict decides _ arm =>
    rcases reachedIn_head grows strict reached with isGoal | ⟨free, inside⟩
    · exact reaches_of_goal isGoal
    · obtain ⟨isOpen, inside⟩ := reachedIn_decided inside
      have arm := arm inside
      simp only [Task.reaches] at arm ⊢
      simp [Stmt.reaches, free, armOpen_of_decides decides isOpen, arm]
  | ifOrelse strict decides _ arm =>
    rcases reachedIn_head grows strict reached with isGoal | ⟨free, inside⟩
    · exact reaches_of_goal isGoal
    · obtain ⟨isOpen, inside⟩ := reachedIn_decided inside
      have arm := arm inside
      simp only [Task.reaches] at arm ⊢
      simp [Stmt.reaches, free, armOpen_of_decides decides isOpen, arm]
  | @matchCase _ _ _ _ index _ _ _ _ _ strict chosen decides _ arm =>
    rcases reachedIn_head grows strict reached with isGoal | ⟨free, inside⟩
    · exact reaches_of_goal isGoal
    · obtain ⟨isOpen, inside⟩ := reachedIn_decided inside
      have arm := arm inside
      simp only [Task.reaches] at arm ⊢
      have possible := armOpen_of_decides decides isOpen
      rw [← Nat.zero_add index] at possible
      simp [Stmt.reaches, free, reachesAll_of_case chosen possible arm]
  | loop strict _ iterations =>
    rcases reachedIn_head grows strict reached with isGoal | ⟨free, inside⟩
    · exact reaches_of_goal isGoal
    · have iterations := iterations inside
      simp only [Task.reaches] at iterations ⊢
      simp only [Stmt.reaches, free, Bool.not_false, Bool.true_and, iterations, Bool.or_true]
  | withBody strict _ inner | withSuppressed strict _ _ inner | classBody strict _ inner =>
    rcases reachedIn_head grows strict reached with isGoal | ⟨free, inside⟩
    · exact reaches_of_goal isGoal
    · have inner := inner inside
      simp only [Task.reaches] at inner ⊢
      simp [Stmt.reaches, free, inner]
  | @tryFinally _ _ _ _ _ _ _ _ _ exit _ attempts _ attempted cleaned =>
    rcases reachedIn_headless rfl reached with isGoal | ⟨free, inside⟩
    · exact reaches_of_goal isGoal
    · rw [Task.reaches, Stmt.reaches, free, Bool.not_false, Bool.true_and]
      rcases reachedIn_append inside with early | ⟨avoids, late⟩
      · have attempted := attempted early
        simp only [Task.reaches] at attempted
        simp only [attempted, Bool.true_or, Bool.or_true]
      · have cleaned := cleaned late
        have some := someEnd_iff.mpr ⟨exit, attempts.ends grows avoids⟩
        simp only [Task.reaches] at cleaned
        simp only [cleaned, some, Bool.and_true, Bool.or_true]
  | exhausted _ inner =>
    rw [Task.reaches, Bool.or_eq_true]
    exact .inr (inner reached)
  | again _ _ _ inner later =>
    rcases reachedIn_append reached with early | ⟨-, late⟩
    · rw [Task.reaches, Bool.or_eq_true]
      exact .inl (inner early)
    · exact later late
  | broken _ inner | left _ _ inner =>
    rw [Task.reaches, Bool.or_eq_true]
    exact .inl (inner reached)
  | completed first _ inner later =>
    rw [Task.reaches]
    rcases reachedIn_append reached with early | ⟨avoids, late⟩
    · have inner := inner early
      simp only [Task.reaches] at inner
      simp [inner]
    · have through : Stmt.endsAll reads suppresses blocked _ .completes = true :=
        first.ends grows avoids
      have later := later late
      simp only [Task.reaches] at later
      simp [later, through]
  | uncaught _ _ inner =>
    have inner := inner reached
    simp only [Task.reaches] at inner ⊢
    simp [inner]
  | caught first handled _ inner handler =>
    rw [Task.reaches]
    rcases reachedIn_append reached with early | ⟨avoids, late⟩
    · have inner := inner early
      simp only [Task.reaches] at inner
      simp [inner]
    · have raised : Stmt.endsAll reads suppresses blocked _ .raises = true :=
        first.ends grows avoids
      have handler := reachesAll_of_handler handled (handler late)
      simp [handler, raised]
  | caughtGroup first _ inner handled =>
    rw [Task.reaches]
    rcases reachedIn_append reached with early | ⟨avoids, late⟩
    · have inner := inner early
      simp only [Task.reaches] at inner
      simp [inner]
    · have raised : Stmt.endsAll reads suppresses blocked _ .raises = true :=
        first.ends grows avoids
      have handled := handled late
      simp only [Task.reaches] at handled
      simp [handled, raised]
  | @skipHandler _ h _ _ _ _ later =>
    obtain ⟨info, type, body⟩ := h
    rw [Task.reaches, Handler.reachesAll, Bool.or_eq_true]
    exact .inr (later reached)
  | @lastHandler _ h _ _ _ _ handler =>
    obtain ⟨info, type, body⟩ := h
    rw [Task.reaches, Handler.reachesAll, Bool.or_eq_true]
    exact .inl (handler reached)
  | @runHandler _ h _ _ _ _ _ _ _ handler later =>
    obtain ⟨info, type, body⟩ := h
    rw [Task.reaches, Handler.reachesAll, Bool.or_eq_true]
    rcases reachedIn_append reached with early | ⟨-, late⟩
    · exact .inl (handler early)
    · exact .inr (later late)

/-! ## What can be reached is reached -/

/-- The events do not go on with an evaluation. -/
def Opens (events : List Event) : Prop :=
  ∀ s calls rest, events ≠ .evaluated s calls :: rest

theorem opens_nil : Opens [] := by
  rintro s calls rest ⟨⟩

theorem opens_entered (s : Stmt) (choices : List Taken) (events : List Event) :
    Opens (.entered s choices :: events) := by
  rintro s' calls rest ⟨⟩

theorem Opens.append {events later : List Event} (first : Opens events) (second : Opens later) :
    Opens (events ++ later) := by
  cases events with
  | nil => exact second
  | cons event events =>
    rintro s calls rest ⟨⟩
    exact first s calls events rfl

/-- An execution begins by entering a statement. -/
theorem Runs.opens {choices : List Taken} {task : Task} {events : List Event} {exit : Exit}
    (runs : Runs reads suppresses choices task events exit) : Opens events := by
  induction runs with
  | nil | headRaises | unhandled => exact opens_nil
  | next _ _ first later | again _ _ _ first later | completed _ _ first later
  | caught _ _ _ first later | caughtGroup _ _ first later | runHandler _ _ first later =>
    exact first.append later
  | stop _ _ inner | exhausted _ inner | broken _ inner | left _ _ inner | uncaught _ _ inner
  | skipHandler _ inner | lastHandler _ inner => exact inner
  | _ => exact opens_entered _ _ _

/-- A goal is entered and raises before anything is evaluated, and no blocked statement was
executed before it. -/
def HaltedIn (blocked : Blocked) (goal : Stmt → Bool) (events : List Event) :
    Prop :=
  ∃ before s choices after, events = before ++ .entered s choices :: after ∧ goal s = true ∧
    Avoids blocked before ∧ Opens after

theorem HaltedIn.reached {events : List Event} (halted : HaltedIn blocked goal events) :
    ReachedIn blocked goal events := by
  obtain ⟨before, s, choices, after, split, isGoal, avoids, -⟩ := halted
  exact ⟨before, s, choices, after, split, isGoal, avoids⟩

theorem HaltedIn.append_left {events later : List Event} (halted : HaltedIn blocked goal events)
    (opens : Opens later) : HaltedIn blocked goal (events ++ later) := by
  obtain ⟨before, s, choices, after, rfl, isGoal, avoids, ended⟩ := halted
  exact ⟨before, s, choices, after ++ later, by simp, isGoal, avoids, ended.append opens⟩

theorem HaltedIn.append_right {events later : List Event} (avoids : Avoids blocked events)
    (halted : HaltedIn blocked goal later) : HaltedIn blocked goal (events ++ later) := by
  obtain ⟨before, s, choices, after, rfl, isGoal, clear, ended⟩ := halted
  exact ⟨events ++ before, s, choices, after, by simp, isGoal,
    avoids_append.mpr ⟨avoids, clear⟩, ended⟩

theorem HaltedIn.decided {s : Stmt} {arm : Arm} {events : List Event}
    (free : blocked.arm s arm = false) (halted : HaltedIn blocked goal events) :
    HaltedIn blocked goal (.decided s arm :: events) :=
  halted.append_right (avoids_decided.mpr ⟨free, avoids_nil⟩)

theorem HaltedIn.headless {s : Stmt} {choices : List Taken} {events : List Event}
    (headless : s.headless = true) (free : blocked.head s s.strictCalls = false)
    (halted : HaltedIn blocked goal events) :
    HaltedIn blocked goal (.entered s choices :: events) :=
  halted.append_right ((avoids_headless headless).mpr ⟨free, avoids_nil⟩)

/-- Executions of the task reach a goal, and raise there. -/
def CanReach (reads suppresses : Expr → Bool) (blocked : Blocked)
    (goal : Stmt → Bool) (task : Task) : Prop :=
  ∀ choices, ∃ events exit, Runs reads suppresses choices task events exit ∧
    HaltedIn blocked goal events

theorem exists_run (reads suppresses : Expr → Bool) (choices : List Taken) (body : List Stmt) :
    ∃ events exit, Runs reads suppresses choices (.block body) events exit := by
  obtain ⟨exit, ends⟩ := exists_endsAll reads suppresses body
  obtain ⟨events, runs⟩ := runs_iff_ends.mpr ends
  exact ⟨events, exit, runs⟩

/-- However the body of a `try` statement ends, the attempt has an execution that goes on. -/
theorem exists_attempt {choices : List Taken} {star : Bool} {body : List Stmt}
    {handlers : List Handler} {orelse : List Stmt} {events : List Event} {exit : Exit}
    (runs : Runs reads suppresses choices (.block body) events exit) :
    ∃ later exit', Runs reads suppresses choices (.attempt star body handlers orelse)
      (events ++ later) exit' ∧ Opens later := by
  by_cases completed : exit = .completes
  · subst completed
    obtain ⟨later, exit', runs'⟩ := exists_run reads suppresses choices orelse
    exact ⟨later, exit', .completed runs runs', runs'.opens⟩
  · exact ⟨[], exit, by simpa using Runs.uncaught runs completed, opens_nil⟩

theorem canReach_handlers {handlers : List Handler} {h : Handler} (isHandler : h ∈ handlers)
    (canReach : CanReach reads suppresses blocked goal (.block h.body)) :
    CanReach reads suppresses blocked goal (.handlers handlers) := by
  intro choices
  induction handlers with
  | nil => exact absurd isHandler List.not_mem_nil
  | cons first rest ih =>
    rcases List.mem_cons.mp isHandler with rfl | later
    · obtain ⟨events, exit, runs, halted⟩ := canReach choices
      exact ⟨events, exit, .lastHandler runs, halted⟩
    · obtain ⟨events, exit, runs, halted⟩ := ih later
      exact ⟨events, exit, .skipHandler runs, halted⟩

theorem canReach_attempt {star : Bool} {body orelse : List Stmt} {handlers : List Handler}
    (reach : Stmt.reachesAll reads suppresses blocked goal body = true →
      CanReach reads suppresses blocked goal (.block body))
    (inHandlers : Handler.reachesAll reads suppresses blocked goal handlers = true →
      ∃ h ∈ handlers, CanReach reads suppresses blocked goal (.block h.body))
    (inOrelse : Stmt.reachesAll reads suppresses blocked goal orelse = true →
      CanReach reads suppresses blocked goal (.block orelse))
    (reaches : (Task.attempt star body handlers orelse).reaches reads suppresses blocked goal =
      true) : CanReach reads suppresses blocked goal (.attempt star body handlers orelse) := by
  intro choices
  simp only [Task.reaches, Bool.or_eq_true, Bool.and_eq_true] at reaches
  rcases reaches with (early | ⟨raised, handled⟩) | ⟨through, later⟩
  · obtain ⟨events, exit, runs, halted⟩ := reach early choices
    obtain ⟨later, exit', runs', opens⟩ := exists_attempt runs
    exact ⟨_, _, runs', halted.append_left opens⟩
  · obtain ⟨events, runs, avoids⟩ := Stmt.canEndAll body .raises raised choices
    obtain ⟨h, isHandler, canReach⟩ := inHandlers handled
    cases star with
    | false =>
      obtain ⟨events', exit, runs', halted⟩ := canReach choices
      exact ⟨_, _, .caught runs isHandler runs', halted.append_right avoids⟩
    | true =>
      obtain ⟨events', exit, runs', halted⟩ := canReach_handlers isHandler canReach choices
      exact ⟨_, _, .caughtGroup runs runs', halted.append_right avoids⟩
  · obtain ⟨events, runs, avoids⟩ := Stmt.canEndAll body .completes through choices
    obtain ⟨events', exit, runs', halted⟩ := inOrelse later choices
    exact ⟨_, _, .completed runs runs', halted.append_right avoids⟩

mutual

/-- What the structure allows is reached by an execution. -/
theorem Stmt.canReach (s : Stmt) (reaches : s.reaches reads suppresses blocked goal = true) :
    CanReach reads suppresses blocked goal (.stmt s) := by
  intro choices
  by_cases isGoal : goal s = true
  · exact ⟨_, _, .raises, [], s, choices, [], rfl, isGoal, avoids_nil, opens_nil⟩
  have step : ∀ {events : List Event}, blocked.head s s.strictCalls = false →
      HaltedIn blocked goal events →
        HaltedIn blocked goal (.entered s choices :: .evaluated s s.strictCalls :: events) :=
    fun free halted => halted.append_right (avoids_ran free avoids_nil)
  match s with
  | .if info test body orelse =>
    simp only [Stmt.reaches, isGoal, Bool.false_or, Bool.and_eq_true, Bool.or_eq_true,
      Bool.not_eq_true'] at reaches
    obtain ⟨free, ⟨possible, inside⟩ | ⟨possible, inside⟩⟩ := reaches
    all_goals obtain ⟨⟨value, decides⟩, isOpen⟩ := exists_decides possible
    · obtain ⟨events, exit, runs, halted⟩ := Stmt.canReachAll body inside _
      exact ⟨_, _, .ifBody (List.Subset.refl _) decides runs,
        step free (halted.decided isOpen)⟩
    · obtain ⟨events, exit, runs, halted⟩ := Stmt.canReachAll orelse inside _
      exact ⟨_, _, .ifOrelse (List.Subset.refl _) decides runs,
        step free (halted.decided isOpen)⟩
  | .match info subject cases =>
    simp only [Stmt.reaches, isGoal, Bool.false_or, Bool.and_eq_true, Bool.not_eq_true'] at reaches
    obtain ⟨free, inside⟩ := reaches
    obtain ⟨index, c, chosen, possible, canReach⟩ :=
      MatchCase.canReachAll (.match info subject cases) 0 cases inside
    rw [Nat.zero_add] at possible
    obtain ⟨⟨value, decides⟩, isOpen⟩ := exists_decides possible
    obtain ⟨events, exit, runs, halted⟩ := canReach _
    exact ⟨_, _, .matchCase (List.Subset.refl _) chosen decides runs,
      step free (halted.decided isOpen)⟩
  | .try info star body handlers orelse finalbody =>
    simp only [Stmt.reaches, isGoal, Bool.false_or, Bool.and_eq_true, Bool.not_eq_true',
      Bool.or_eq_true] at reaches
    obtain ⟨free, attempted | ⟨some, cleaned⟩⟩ := reaches
    · have attempt : (Task.attempt star body handlers orelse).reaches reads suppresses blocked
          goal = true := by
        simpa only [Task.reaches, Bool.or_eq_true, Bool.and_eq_true] using attempted
      obtain ⟨events, exit, runs, halted⟩ := canReach_attempt
        (fun inside => Stmt.canReachAll body inside)
        (fun inside => Handler.canReachAll handlers inside)
        (fun inside => Stmt.canReachAll orelse inside) attempt choices
      obtain ⟨later, cleanup, cleans⟩ := exists_run reads suppresses choices finalbody
      exact ⟨_, _, .tryFinally runs cleans,
        (halted.append_left cleans.opens).headless rfl free⟩
    · obtain ⟨exit, ends⟩ := someEnd_iff.mp some
      obtain ⟨events, runs, avoids⟩ := canEnd_attempt
        (fun exit ends => Stmt.canEndAll body exit ends)
        (fun exit ends => Handler.canEndAll handlers exit ends)
        (fun exit ends => Stmt.canEndAll orelse exit ends) ends choices
      obtain ⟨later, cleanup, cleans, halted⟩ := Stmt.canReachAll finalbody cleaned choices
      exact ⟨_, _, .tryFinally runs cleans, (halted.append_right avoids).headless rfl free⟩
  | .loop info kind head body orelse =>
    simp only [Stmt.reaches, isGoal, Bool.false_or, Bool.and_eq_true, Bool.not_eq_true',
      Bool.or_eq_true] at reaches
    obtain ⟨free, inBody | inOrelse⟩ := reaches
    · obtain ⟨events, exit, runs, halted⟩ := Stmt.canReachAll body inBody choices
      obtain ⟨exit', runs'⟩ : ∃ exit', Runs reads suppresses choices
          (.iterate body orelse) (events ++ []) exit' := by
        cases exit with
        | completes => exact ⟨_, .again runs (.inl rfl) .headRaises⟩
        | continues => exact ⟨_, .again runs (.inr rfl) .headRaises⟩
        | breaks => exact ⟨_, by simpa using Runs.broken runs⟩
        | returns => exact ⟨_, by simpa using Runs.left runs (.inl rfl)⟩
        | raises => exact ⟨_, by simpa using Runs.left runs (.inr rfl)⟩
      exact ⟨_, _, .loop (List.Subset.refl _) runs',
        step free (halted.append_left opens_nil)⟩
    · obtain ⟨events, exit, runs, halted⟩ := Stmt.canReachAll orelse inOrelse choices
      exact ⟨_, _, .loop (List.Subset.refl _) (.exhausted runs), step free halted⟩
  | .with info async items body =>
    simp only [Stmt.reaches, isGoal, Bool.false_or, Bool.and_eq_true, Bool.not_eq_true'] at reaches
    obtain ⟨free, inside⟩ := reaches
    obtain ⟨events, exit, runs, halted⟩ := Stmt.canReachAll body inside choices
    exact ⟨_, _, .withBody (List.Subset.refl _) runs, step free halted⟩
  | .classDef info head body =>
    simp only [Stmt.reaches, isGoal, Bool.false_or, Bool.and_eq_true, Bool.not_eq_true'] at reaches
    obtain ⟨free, inside⟩ := reaches
    obtain ⟨events, exit, runs, halted⟩ := Stmt.canReachAll body inside choices
    exact ⟨_, _, .classBody (List.Subset.refl _) runs, step free halted⟩
  | .return .. | .raise .. | .plain .. | .assign .. | .annAssign .. | .augAssign .. | .expr ..
  | .functionDef .. => exact absurd reaches isGoal

theorem Stmt.canReachAll (body : List Stmt)
    (reaches : Stmt.reachesAll reads suppresses blocked goal body = true) :
    CanReach reads suppresses blocked goal (.block body) := by
  intro choices
  match body with
  | [] => cases reaches
  | s :: rest =>
    rw [Stmt.reachesAll, Bool.or_eq_true, Bool.and_eq_true] at reaches
    rcases reaches with inFirst | ⟨through, inLater⟩
    · obtain ⟨events, exit, runs, halted⟩ := Stmt.canReach s inFirst choices
      by_cases completed : exit = .completes
      · subst completed
        obtain ⟨later, exit', runs'⟩ := exists_run reads suppresses choices rest
        exact ⟨_, _, .next runs runs', halted.append_left runs'.opens⟩
      · exact ⟨_, _, .stop runs completed, halted⟩
    · obtain ⟨events, runs, avoids⟩ := Stmt.canEnd s .completes through choices
      obtain ⟨later, exit, runs', halted⟩ := Stmt.canReachAll rest inLater choices
      exact ⟨_, _, .next runs runs', halted.append_right avoids⟩

theorem MatchCase.canReachAll (gate : Stmt) (start : Nat) (cases : List MatchCase)
    (reaches : MatchCase.reachesAll reads suppresses blocked goal gate start cases = true) :
    ∃ index c, cases[index]? = some c ∧
      armOpen reads blocked gate (.case (start + index)) = true ∧
      CanReach reads suppresses blocked goal (.block c.body) := by
  match cases with
  | [] => cases reaches
  | .mk pattern guard body :: rest =>
    rw [MatchCase.reachesAll, Bool.or_eq_true, Bool.and_eq_true] at reaches
    rcases reaches with ⟨possible, inside⟩ | later
    · exact ⟨0, .mk pattern guard body, rfl, possible, Stmt.canReachAll body inside⟩
    · obtain ⟨index, c, chosen, possible, canReach⟩ :=
        MatchCase.canReachAll gate (start + 1) rest later
      refine ⟨index + 1, c, chosen, ?_, canReach⟩
      rw [Nat.add_comm index, ← Nat.add_assoc]
      exact possible

theorem Handler.canReachAll (handlers : List Handler)
    (reaches : Handler.reachesAll reads suppresses blocked goal handlers = true) :
    ∃ h ∈ handlers, CanReach reads suppresses blocked goal (.block h.body) := by
  match handlers with
  | [] => cases reaches
  | .mk info type body :: rest =>
    rw [Handler.reachesAll, Bool.or_eq_true] at reaches
    rcases reaches with inside | later
    · exact ⟨_, List.mem_cons_self, Stmt.canReachAll body inside⟩
    · obtain ⟨h, isHandler, canReach⟩ := Handler.canReachAll rest later
      exact ⟨h, List.mem_cons_of_mem _ isHandler, canReach⟩

end

/-- The structure says exactly whether executions of a block reach a goal with no blocked
statement executed before. -/
theorem reached_iff (grows : blocked.Grows) {body : List Stmt} {choices : List Taken} :
    (∃ events exit, Runs reads suppresses choices (.block body) events exit ∧
      ReachedIn blocked goal events) ↔
        Stmt.reachesAll reads suppresses blocked goal body = true := by
  constructor
  · rintro ⟨events, exit, runs, reached⟩
    exact runs.reaches grows reached
  · intro reaches
    obtain ⟨events, exit, runs, halted⟩ := Stmt.canReachAll body reaches choices
    exact ⟨events, exit, runs, halted.reached⟩

/-- A goal is entered only after a blocked statement was executed, exactly if it cannot be reached
around them. -/
theorem preceded_iff (grows : blocked.Grows) {body : List Stmt} {choices : List Taken} :
    (∀ events exit, Runs reads suppresses choices (.block body) events exit →
      ∀ before s choices' after, events = before ++ .entered s choices' :: after →
        goal s = true → ∃ event ∈ before, event.hits blocked = true) ↔
      Stmt.reachesAll reads suppresses blocked goal body = false := by
  rw [← Bool.not_eq_true, ← @reached_iff reads suppresses blocked goal grows body choices]
  constructor
  · rintro preceded ⟨events, exit, runs, before, s, choices', after, split, isGoal, avoids⟩
    obtain ⟨event, earlier, hits⟩ :=
      preceded events exit runs before s choices' after split isGoal
    exact absurd hits (Bool.eq_false_iff.mp (avoids event earlier))
  · intro around events exit runs before s choices' after split isGoal
    by_contra absent
    refine around ⟨events, exit, runs, before, s, choices', after, split, isGoal, ?_⟩
    intro event earlier
    exact Bool.eq_false_iff.mpr fun hits => absent ⟨event, earlier, hits⟩

end

end Python
