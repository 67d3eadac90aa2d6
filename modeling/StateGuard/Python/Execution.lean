import StateGuard.Python.Decisions

/-!
# Executions of a function body

A big-step semantics of statements that records what happens: a statement is entered, the
calls in its own expressions are evaluated, an arm of an `if` or a `match` statement is chosen
(`Event`).  An entry carries the arms through which it was reached, each with the value the
followed expression had when the arm was chosen (`Taken`).

Whatever a statement evaluates may raise; loops run any number of times; a context manager
suppresses what its body raises only if `suppresses` says that it may.  Of the calls in an
expression the ones that are certainly evaluated are evaluated (`strictCalls`), the others may
be.  The bodies of nested functions are no part of the execution of the function around them.

`Stmt.places` lists where statements stand, by the arms around them, and `Runs.placed` says
that an execution enters a statement only where it stands, through arms that the values allow.
-/

namespace Python

/-- An arm of a statement. -/
structure Choice where
  gate : Stmt
  arm : Arm

/-- An arm entered in an execution, with the value that was read when it was chosen. -/
structure Taken where
  gate : Stmt
  arm : Arm
  value : Value

/-- The arm that was entered. -/
def Taken.choice (taken : Taken) : Choice := ⟨taken.gate, taken.arm⟩

/-- What an execution records. -/
inductive Event where
  | entered (stmt : Stmt) (choices : List Taken)
  /-- The expressions of a statement were evaluated, and in them these calls. -/
  | evaluated (stmt : Stmt) (calls : List Nat)
  | decided (stmt : Stmt) (arm : Arm)

/-- How a statement or a block ends. -/
inductive Exit where
  | completes | returns | raises | breaks | continues
  deriving DecidableEq, Repr

/-- What is executed: a statement, a block, the rest of a loop, the body of a `try` with its
handlers, or the handlers of an `except*`. -/
inductive Task where
  | stmt (s : Stmt)
  | block (body : List Stmt)
  | iterate (body orelse : List Stmt)
  | attempt (star : Bool) (body : List Stmt) (handlers : List Handler) (orelse : List Stmt)
  | handlers (handlers : List Handler)

/-- The exit of a statement after which another part ran: an abrupt end of that part replaces
it. -/
def Exit.after (last first : Exit) : Exit := if last = .completes then first else last

/-! ## Evaluation of expressions -/

/-- The node classes whose parts are evaluated later, if at all. -/
def deferredKinds : List String := ["Lambda", "GeneratorExp", "ListComp", "SetComp", "DictComp"]

mutual

/-- The calls that are evaluated whenever the expression is, by identity. -/
def strictCalls : Expr → List Nat
  | .constant .. | .name .. => []
  | .attribute _ value _ => strictCalls value
  | .subscript _ value slice => strictCalls value ++ strictCalls slice
  | .call info func args keywords =>
    info.identity :: (strictCalls func ++ strictCallsAll args ++ strictCallsOf keywords)
  | .await _ value => strictCalls value
  | .boolOp _ _ values => strictCallsFirst values
  | .unaryOp _ _ operand => strictCalls operand
  | .compare _ left comparisons => strictCalls left ++ strictCallsCompared comparisons
  | .ifExp _ test _ _ => strictCalls test
  | .namedExpr _ _ value => strictCalls value
  | .dict _ items => strictCallsItems items
  | .display _ _ elts => strictCallsAll elts
  | .other _ kind children => if kind ∈ deferredKinds then [] else strictCallsAll children

def strictCallsAll : List Expr → List Nat
  | [] => []
  | e :: rest => strictCalls e ++ strictCallsAll rest

/-- Only the first operand of `and` and `or` is certainly evaluated. -/
def strictCallsFirst : List Expr → List Nat
  | [] => []
  | e :: _ => strictCalls e

def strictCallsOf : List Keyword → List Nat
  | [] => []
  | .mk _ _ value :: rest => strictCalls value ++ strictCallsOf rest

/-- Only the first right operand of a chain of comparisons is certainly evaluated. -/
def strictCallsCompared : List Comparison → List Nat
  | [] => []
  | .mk _ comparator :: _ => strictCalls comparator

def strictCallsItems : List DictItem → List Nat
  | [] => []
  | .pair key value :: rest => strictCalls key ++ strictCalls value ++ strictCallsItems rest
  | .unpack value :: rest => strictCalls value ++ strictCallsItems rest

end

/-- The expressions a statement evaluates before anything in it is entered. -/
def Stmt.head : Stmt → List Expr
  | .assign _ targets value => value :: targets
  | .annAssign _ target _ value => target :: value.toList
  | .augAssign _ target value => [target, value]
  | .expr _ value => [value]
  | .return _ value => value.toList
  | .raise _ exc cause => exc.toList ++ cause.toList
  | .if _ test _ _ => [test]
  | .match _ subject _ => [subject]
  | .try .. => []
  | .loop _ kind head _ _ => if kind = .while then head else head.drop 1
  | .with _ _ items _ => items
  | .functionDef _ _ _ args _ decoratorList _ => decoratorList ++ args.defaults
  | .classDef _ head _ => head
  | .plain _ _ exprs => exprs.take 1

/-- The calls that are evaluated whenever a statement does not raise at once. -/
def Stmt.strictCalls (s : Stmt) : List Nat := strictCallsAll s.head

/-- The statements that only evaluate. -/
def Stmt.simple : Stmt → Bool
  | .assign .. | .annAssign .. | .augAssign .. | .expr .. | .functionDef .. => true
  | .plain _ kind _ => decide (kind ≠ .break ∧ kind ≠ .continue)
  | _ => false

/-! ## Executions -/

section

variable (reads suppresses : Expr → Bool)

/-- `Runs reads suppresses choices task events exit`: entered through `choices`, the task may
make the events and end with the exit. -/
inductive Runs : List Taken → Task → List Event → Exit → Prop where
  -- Blocks.
  | nil {choices} : Runs choices (.block []) [] .completes
  | next {choices s rest events events' exit}
      (first : Runs choices (.stmt s) events .completes)
      (later : Runs choices (.block rest) events' exit) :
      Runs choices (.block (s :: rest)) (events ++ events') exit
  | stop {choices s rest events exit} (first : Runs choices (.stmt s) events exit)
      (abrupt : exit ≠ .completes) : Runs choices (.block (s :: rest)) events exit
  -- Statements that only evaluate, and exits.
  | raises {choices s} : Runs choices (.stmt s) [.entered s choices] .raises
  | simple {choices s calls} (plain : s.simple = true) (strict : s.strictCalls ⊆ calls) :
      Runs choices (.stmt s) [.entered s choices, .evaluated s calls] .completes
  | returns {choices info value calls}
      (strict : (Stmt.return info value).strictCalls ⊆ calls) :
      Runs choices (.stmt (.return info value))
        [.entered (.return info value) choices, .evaluated (.return info value) calls] .returns
  | breaks {choices info exprs} :
      Runs choices (.stmt (.plain info .break exprs))
        [.entered (.plain info .break exprs) choices] .breaks
  | continues {choices info exprs} :
      Runs choices (.stmt (.plain info .continue exprs))
        [.entered (.plain info .continue exprs) choices] .continues
  -- Branches.
  | ifBody {choices info test body orelse value calls events exit}
      (strict : (Stmt.if info test body orelse).strictCalls ⊆ calls)
      (decides : Decides reads value (.if info test body orelse) .body)
      (arm : Runs (choices ++ [⟨.if info test body orelse, .body, value⟩]) (.block body)
        events exit) :
      Runs choices (.stmt (.if info test body orelse))
        (.entered (.if info test body orelse) choices ::
          .evaluated (.if info test body orelse) calls ::
          .decided (.if info test body orelse) .body :: events) exit
  | ifOrelse {choices info test body orelse value calls events exit}
      (strict : (Stmt.if info test body orelse).strictCalls ⊆ calls)
      (decides : Decides reads value (.if info test body orelse) .orelse)
      (arm : Runs (choices ++ [⟨.if info test body orelse, .orelse, value⟩]) (.block orelse)
        events exit) :
      Runs choices (.stmt (.if info test body orelse))
        (.entered (.if info test body orelse) choices ::
          .evaluated (.if info test body orelse) calls ::
          .decided (.if info test body orelse) .orelse :: events) exit
  | matchCase {choices info subject cases index c value calls events exit}
      (strict : (Stmt.match info subject cases).strictCalls ⊆ calls)
      (chosen : cases[index]? = some c)
      (decides : Decides reads value (.match info subject cases) (.case index))
      (arm : Runs (choices ++ [⟨.match info subject cases, .case index, value⟩]) (.block c.body)
        events exit) :
      Runs choices (.stmt (.match info subject cases))
        (.entered (.match info subject cases) choices ::
          .evaluated (.match info subject cases) calls ::
          .decided (.match info subject cases) (.case index) :: events) exit
  | matchNone {choices info subject cases value calls}
      (strict : (Stmt.match info subject cases).strictCalls ⊆ calls)
      (passed : ∀ c ∈ cases, Takes reads (reads subject) value c false) :
      Runs choices (.stmt (.match info subject cases))
        [.entered (.match info subject cases) choices,
          .evaluated (.match info subject cases) calls] .completes
  -- Compound statements.
  | loop {choices info kind head body orelse calls events exit}
      (strict : (Stmt.loop info kind head body orelse).strictCalls ⊆ calls)
      (iterations : Runs choices (.iterate body orelse) events exit) :
      Runs choices (.stmt (.loop info kind head body orelse))
        (.entered (.loop info kind head body orelse) choices ::
          .evaluated (.loop info kind head body orelse) calls :: events) exit
  | withBody {choices info async items body calls events exit}
      (strict : (Stmt.with info async items body).strictCalls ⊆ calls)
      (inner : Runs choices (.block body) events exit) :
      Runs choices (.stmt (.with info async items body))
        (.entered (.with info async items body) choices ::
          .evaluated (.with info async items body) calls :: events) exit
  | withSuppressed {choices info async items body calls events}
      (strict : (Stmt.with info async items body).strictCalls ⊆ calls)
      (inner : Runs choices (.block body) events .raises)
      (suppressed : ∃ item ∈ items, suppresses item = true) :
      Runs choices (.stmt (.with info async items body))
        (.entered (.with info async items body) choices ::
          .evaluated (.with info async items body) calls :: events) .completes
  | classBody {choices info head body calls events exit}
      (strict : (Stmt.classDef info head body).strictCalls ⊆ calls)
      (inner : Runs choices (.block body) events exit) :
      Runs choices (.stmt (.classDef info head body))
        (.entered (.classDef info head body) choices ::
          .evaluated (.classDef info head body) calls :: events) exit
  | tryFinally {choices info star body handlers orelse finalbody events events' exit cleanup}
      (attempted : Runs choices (.attempt star body handlers orelse) events exit)
      (cleaned : Runs choices (.block finalbody) events' cleanup) :
      Runs choices (.stmt (.try info star body handlers orelse finalbody))
        (.entered (.try info star body handlers orelse finalbody) choices :: (events ++ events'))
        (cleanup.after exit)
  -- Loops.
  | exhausted {choices body orelse events exit}
      (inner : Runs choices (.block orelse) events exit) :
      Runs choices (.iterate body orelse) events exit
  | headRaises {choices body orelse} : Runs choices (.iterate body orelse) [] .raises
  | again {choices body orelse events events' exit exit'}
      (inner : Runs choices (.block body) events exit)
      (continued : exit = .completes ∨ exit = .continues)
      (later : Runs choices (.iterate body orelse) events' exit') :
      Runs choices (.iterate body orelse) (events ++ events') exit'
  | broken {choices body orelse events} (inner : Runs choices (.block body) events .breaks) :
      Runs choices (.iterate body orelse) events .completes
  | left {choices body orelse events exit} (inner : Runs choices (.block body) events exit)
      (leaves : exit = .returns ∨ exit = .raises) :
      Runs choices (.iterate body orelse) events exit
  -- Exceptions.
  | completed {choices star body handlers orelse events events' exit}
      (inner : Runs choices (.block body) events .completes)
      (later : Runs choices (.block orelse) events' exit) :
      Runs choices (.attempt star body handlers orelse) (events ++ events') exit
  | uncaught {choices star body handlers orelse events exit}
      (inner : Runs choices (.block body) events exit) (abrupt : exit ≠ .completes) :
      Runs choices (.attempt star body handlers orelse) events exit
  | caught {choices body handlers orelse h events events' exit}
      (inner : Runs choices (.block body) events .raises) (handled : h ∈ handlers)
      (handler : Runs choices (.block h.body) events' exit) :
      Runs choices (.attempt false body handlers orelse) (events ++ events') exit
  | caughtGroup {choices body handlers orelse events events' exit}
      (inner : Runs choices (.block body) events .raises)
      (handled : Runs choices (.handlers handlers) events' exit) :
      Runs choices (.attempt true body handlers orelse) (events ++ events') exit
  | unhandled {choices} : Runs choices (.handlers []) [] .raises
  | skipHandler {choices h rest events exit}
      (later : Runs choices (.handlers rest) events exit) :
      Runs choices (.handlers (h :: rest)) events exit
  | lastHandler {choices h rest events exit}
      (handler : Runs choices (.block h.body) events exit) :
      Runs choices (.handlers (h :: rest)) events exit
  | runHandler {choices h rest events events' exit exit'}
      (handler : Runs choices (.block h.body) events exit)
      (later : Runs choices (.handlers rest) events' exit') :
      Runs choices (.handlers (h :: rest)) (events ++ events') (exit.after exit')

end

/-- The events of a statement that only evaluates what it must. -/
def ran (choices : List Taken) (s : Stmt) : List Event :=
  [.entered s choices, .evaluated s s.strictCalls]

/-- Statements that only evaluate may run through. -/
theorem Runs.straight {reads suppresses : Expr → Bool} {choices : List Taken} {body rest : List Stmt}
    {events : List Event} {exit : Exit} (plain : ∀ s ∈ body, s.simple = true)
    (later : Runs reads suppresses choices (.block rest) events exit) :
    Runs reads suppresses choices (.block (body ++ rest)) (body.flatMap (ran choices) ++ events)
      exit := by
  induction body with
  | nil => exact later
  | cons s body ih =>
    have here : Runs reads suppresses choices (.stmt s) (ran choices s) .completes :=
      .simple (plain s List.mem_cons_self) (List.Subset.refl _)
    have inside := ih fun other membership => plain other (List.mem_cons_of_mem _ membership)
    rw [List.flatMap_cons, List.append_assoc]
    exact .next here inside

/-! ## Places -/

mutual

/-- The statements in a statement, each with the arms around it. -/
def Stmt.places (around : List Choice) : Stmt → List (Stmt × List Choice)
  | s@(.if _ _ body orelse) =>
    (s, around) :: (Stmt.placesAll (around ++ [⟨s, .body⟩]) body ++
      Stmt.placesAll (around ++ [⟨s, .orelse⟩]) orelse)
  | s@(.match _ _ cases) => (s, around) :: MatchCase.placesAll around s 0 cases
  | s@(.try _ _ body handlers orelse finalbody) =>
    (s, around) :: (Stmt.placesAll around body ++ Handler.placesAll around handlers ++
      Stmt.placesAll around orelse ++ Stmt.placesAll around finalbody)
  | s@(.loop _ _ _ body orelse) =>
    (s, around) :: (Stmt.placesAll around body ++ Stmt.placesAll around orelse)
  | s@(.with _ _ _ body) => (s, around) :: Stmt.placesAll around body
  | s@(.classDef _ _ body) => (s, around) :: Stmt.placesAll around body
  | s => [(s, around)]

def Stmt.placesAll (around : List Choice) : List Stmt → List (Stmt × List Choice)
  | [] => []
  | s :: rest => s.places around ++ Stmt.placesAll around rest

def MatchCase.placesAll (around : List Choice) (gate : Stmt) (index : Nat) :
    List MatchCase → List (Stmt × List Choice)
  | [] => []
  | .mk _ _ body :: rest =>
    Stmt.placesAll (around ++ [⟨gate, .case index⟩]) body ++
      MatchCase.placesAll around gate (index + 1) rest

def Handler.placesAll (around : List Choice) : List Handler → List (Stmt × List Choice)
  | [] => []
  | .mk _ _ body :: rest => Stmt.placesAll around body ++ Handler.placesAll around rest

end

/-- The places of a task. -/
def Task.places (around : List Choice) : Task → List (Stmt × List Choice)
  | .stmt s => s.places around
  | .block body => Stmt.placesAll around body
  | .iterate body orelse => Stmt.placesAll around body ++ Stmt.placesAll around orelse
  | .attempt _ body hs orelse =>
    Stmt.placesAll around body ++ Handler.placesAll around hs ++ Stmt.placesAll around orelse
  | .handlers hs => Handler.placesAll around hs

theorem self_mem_places (around : List Choice) (s : Stmt) : (s, around) ∈ s.places around := by
  cases s <;> simp [Stmt.places]

theorem mem_placesAll_of_case {around : List Choice} {gate : Stmt} {place : Stmt × List Choice}
    {cases : List MatchCase} {index start : Nat} {c : MatchCase} (chosen : cases[index]? = some c)
    (inside : place ∈ Stmt.placesAll (around ++ [⟨gate, .case (start + index)⟩]) c.body) :
    place ∈ MatchCase.placesAll around gate start cases := by
  induction cases generalizing index start with
  | nil => simp at chosen
  | cons first rest ih =>
    cases first
    rw [MatchCase.placesAll, List.mem_append]
    cases index with
    | zero =>
      rw [List.getElem?_cons_zero] at chosen
      cases chosen
      exact .inl inside
    | succ index =>
      rw [List.getElem?_cons_succ] at chosen
      refine .inr (ih chosen ?_)
      rw [Nat.add_assoc, Nat.add_comm 1]
      exact inside

theorem mem_placesAll_of_handler {around : List Choice} {place : Stmt × List Choice}
    {handlers : List Handler} {h : Handler} (handled : h ∈ handlers)
    (inside : place ∈ Stmt.placesAll around h.body) :
    place ∈ Handler.placesAll around handlers := by
  induction handlers with
  | nil => exact absurd handled List.not_mem_nil
  | cons first rest ih =>
    cases first
    rw [Handler.placesAll, List.mem_append]
    rcases List.mem_cons.mp handled with rfl | later
    · exact .inl inside
    · exact .inr (ih later)

/-! ## Executions stay in place -/

section

variable {reads suppresses : Expr → Bool}

/-- The arms entered are arms the values allow. -/
def Allowed (reads : Expr → Bool) (choices : List Taken) : Prop :=
  ∀ taken ∈ choices, Decides reads taken.value taken.gate taken.arm

theorem Allowed.enter {choices : List Taken} (allowed : Allowed reads choices) {taken : Taken}
    (decides : Decides reads taken.value taken.gate taken.arm) :
    Allowed reads (choices ++ [taken]) := by
  intro other membership
  rcases List.mem_append.mp membership with earlier | last
  · exact allowed other earlier
  · cases List.mem_singleton.mp last
    exact decides

/-- Entries are into statements of some places, through arms that the values allow. -/
def Placed (reads : Expr → Bool) (places : List (Stmt × List Choice)) (events : List Event) :
    Prop :=
  ∀ s choices, .entered s choices ∈ events →
    (s, choices.map Taken.choice) ∈ places ∧ Allowed reads choices

theorem Placed.nil {places : List (Stmt × List Choice)} : Placed reads places [] :=
  fun _ _ impossible => absurd impossible List.not_mem_nil

theorem Placed.widen {places wider : List (Stmt × List Choice)} {events : List Event}
    (placed : Placed reads places events) (sub : places ⊆ wider) : Placed reads wider events :=
  fun s choices entered => ⟨sub (placed s choices entered).1, (placed s choices entered).2⟩

theorem Placed.append {places : List (Stmt × List Choice)} {events later : List Event}
    (first : Placed reads places events) (second : Placed reads places later) :
    Placed reads places (events ++ later) := by
  intro s choices entered
  rcases List.mem_append.mp entered with early | late
  · exact first s choices early
  · exact second s choices late

theorem Placed.evaluated {places : List (Stmt × List Choice)} {events : List Event}
    (placed : Placed reads places events) (s : Stmt) (calls : List Nat) :
    Placed reads places (.evaluated s calls :: events) := by
  intro s' choices entered
  cases entered with
  | tail _ later => exact placed s' choices later

theorem Placed.decided {places : List (Stmt × List Choice)} {events : List Event}
    (placed : Placed reads places events) (s : Stmt) (arm : Arm) :
    Placed reads places (.decided s arm :: events) := by
  intro s' choices entered
  cases entered with
  | tail _ later => exact placed s' choices later

/-- A statement is entered where it stands. -/
theorem Placed.entered {choices : List Taken} {s : Stmt} {events : List Event}
    (placed : Placed reads (s.places (choices.map Taken.choice)) events)
    (allowed : Allowed reads choices) :
    Placed reads (s.places (choices.map Taken.choice)) (.entered s choices :: events) := by
  intro s' choices' entered
  cases entered with
  | head => exact ⟨self_mem_places _ s, allowed⟩
  | tail _ later => exact placed s' choices' later

/-- The places of an arm, seen from outside the statement. -/
theorem places_arm (choices : List Taken) (taken : Taken) (body : List Stmt) :
    (Task.block body).places ((choices ++ [taken]).map Taken.choice) =
      Stmt.placesAll (choices.map Taken.choice ++ [taken.choice]) body := by
  rw [List.map_append, Task.places, List.map_singleton]

/-- An execution enters statements where they stand, through arms that the values allow. -/
theorem Runs.placed {choices : List Taken} {task : Task} {events : List Event} {exit : Exit}
    (runs : Runs reads suppresses choices task events exit) (allowed : Allowed reads choices) :
    Placed reads (task.places (choices.map Taken.choice)) events := by
  induction runs with
  | nil | headRaises | unhandled => exact Placed.nil
  | next _ _ first later =>
    exact ((first allowed).widen (List.subset_append_left _ _)).append
      ((later allowed).widen (List.subset_append_right _ _))
  | stop _ _ first => exact (first allowed).widen (List.subset_append_left _ _)
  | raises | breaks | continues => exact Placed.nil.entered allowed
  | simple | returns | matchNone => exact (Placed.nil.evaluated _ _).entered allowed
  | ifBody _ decides _ arm =>
    refine Placed.entered (((arm (allowed.enter decides)).widen ?_).decided _ _ |>.evaluated _ _)
      allowed
    rw [places_arm, Stmt.places]
    exact fun _ inside => List.mem_cons_of_mem _ (List.mem_append_left _ inside)
  | ifOrelse _ decides _ arm =>
    refine Placed.entered (((arm (allowed.enter decides)).widen ?_).decided _ _ |>.evaluated _ _)
      allowed
    rw [places_arm, Stmt.places]
    exact fun _ inside => List.mem_cons_of_mem _ (List.mem_append_right _ inside)
  | matchCase _ chosen decides _ arm =>
    refine Placed.entered (((arm (allowed.enter decides)).widen ?_).decided _ _ |>.evaluated _ _)
      allowed
    rw [places_arm, Stmt.places]
    intro place inside
    refine List.mem_cons_of_mem _ (mem_placesAll_of_case chosen ?_)
    rw [Nat.zero_add]
    exact inside
  | loop _ _ iterations =>
    refine Placed.entered (((iterations allowed).widen ?_).evaluated _ _) allowed
    exact List.subset_cons_self _ _
  | withBody _ _ inner | withSuppressed _ _ _ inner | classBody _ _ inner =>
    refine Placed.entered (((inner allowed).widen ?_).evaluated _ _) allowed
    exact List.subset_cons_self _ _
  | tryFinally _ _ attempted cleaned =>
    refine Placed.entered (((attempted allowed).widen ?_).append ((cleaned allowed).widen ?_))
      allowed
    · exact fun _ inside => List.mem_cons_of_mem _ (List.mem_append_left _ inside)
    · exact fun _ inside => List.mem_cons_of_mem _ (List.mem_append_right _ inside)
  | exhausted _ inner => exact (inner allowed).widen (List.subset_append_right _ _)
  | again _ _ _ inner later =>
    exact ((inner allowed).widen (List.subset_append_left _ _)).append (later allowed)
  | broken _ inner | left _ _ inner => exact (inner allowed).widen (List.subset_append_left _ _)
  | completed _ _ inner later =>
    refine ((inner allowed).widen ?_).append ((later allowed).widen ?_)
    · exact fun _ inside => List.mem_append_left _ (List.mem_append_left _ inside)
    · exact List.subset_append_right _ _
  | uncaught _ _ inner =>
    refine (inner allowed).widen ?_
    exact fun _ inside => List.mem_append_left _ (List.mem_append_left _ inside)
  | caught _ handled _ inner handler =>
    refine ((inner allowed).widen ?_).append ((handler allowed).widen ?_)
    · exact fun _ inside => List.mem_append_left _ (List.mem_append_left _ inside)
    · intro _ inside
      exact List.mem_append_left _ (List.mem_append_right _ (mem_placesAll_of_handler handled inside))
  | caughtGroup _ _ inner handled =>
    refine ((inner allowed).widen ?_).append ((handled allowed).widen ?_)
    · exact fun _ inside => List.mem_append_left _ (List.mem_append_left _ inside)
    · exact fun _ inside => List.mem_append_left _ (List.mem_append_right _ inside)
  | @skipHandler _ h _ _ _ _ later =>
    cases h
    exact (later allowed).widen (List.subset_append_right _ _)
  | @lastHandler _ h _ _ _ _ handler =>
    cases h
    exact (handler allowed).widen (List.subset_append_left _ _)
  | @runHandler _ h _ _ _ _ _ _ _ handler later =>
    cases h
    exact ((handler allowed).widen (List.subset_append_left _ _)).append
      ((later allowed).widen (List.subset_append_right _ _))

end

end Python
