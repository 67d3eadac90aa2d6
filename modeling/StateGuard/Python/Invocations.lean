import StateGuard.Python.Ancestry

/-!
# Calls and the bodies they run

A call of a function runs its body only if the function is none of a generator, a coroutine or an
asynchronous generator: those give an object, and the body of a coroutine runs when the object is
awaited.  A decorated function is what its decorators return, which runs the body or does not.

`EvaluatesTo` follows one evaluation of an expression that raises nothing, along the calls, awaits,
attributes and subscripts that an object is handed through.  It gives the calls whose bodies have
run, and the object.  What the arguments of calls and the other forms of expressions do is left
open.
-/

namespace Python

/-! ## Generators -/

mutual

/-- Whether an expression has a `yield` of the function it stands in. -/
def Expr.yields : Expr → Bool
  | .constant .. | .name .. => false
  | .attribute _ value _ => value.yields
  | .subscript _ value slice => value.yields || slice.yields
  | .call _ func args keywords => func.yields || yieldsAll args || yieldsOf keywords
  | .await _ value => value.yields
  | .boolOp _ _ values => yieldsAll values
  | .unaryOp _ _ operand => operand.yields
  | .compare _ left comparisons => left.yields || yieldsCompared comparisons
  | .ifExp _ test body orelse => test.yields || body.yields || orelse.yields
  | .namedExpr _ target value => target.yields || value.yields
  | .dict _ items => yieldsItems items
  | .display _ _ elts => yieldsAll elts
  -- the `yield` of a lambda is its own
  | .other _ kind children =>
    kind ∈ ["Yield", "YieldFrom"] || (kind ≠ "Lambda" && yieldsAll children)

def yieldsAll : List Expr → Bool
  | [] => false
  | e :: rest => e.yields || yieldsAll rest

def yieldsOf : List Keyword → Bool
  | [] => false
  | .mk _ _ value :: rest => value.yields || yieldsOf rest

def yieldsCompared : List Comparison → Bool
  | [] => false
  | .mk _ comparator :: rest => comparator.yields || yieldsCompared rest

def yieldsItems : List DictItem → Bool
  | [] => false
  | .pair key value :: rest => key.yields || value.yields || yieldsItems rest
  | .unpack value :: rest => value.yields || yieldsItems rest

end

/-- Whether an expression that may be missing has a `yield`. -/
def yieldsOpt (e : Option Expr) : Bool := yieldsAll e.toList

mutual

/-- Whether a statement has a `yield` of the function it stands in.  A nested function has its own;
its decorators and defaults stand outside it. -/
def Stmt.yields : Stmt → Bool
  | .assign _ targets value => yieldsAll targets || value.yields
  | .annAssign _ target _ value => target.yields || yieldsOpt value
  | .augAssign _ target value => target.yields || value.yields
  | .expr _ value => value.yields
  | .return _ value => yieldsOpt value
  | .raise _ exc cause => yieldsOpt exc || yieldsOpt cause
  | .if _ test body orelse => test.yields || Stmt.yieldsAll body || Stmt.yieldsAll orelse
  | .match _ subject cases => subject.yields || MatchCase.yieldsAll cases
  | .try _ _ body handlers orelse finalbody =>
    Stmt.yieldsAll body || Handler.yieldsAll handlers || Stmt.yieldsAll orelse ||
      Stmt.yieldsAll finalbody
  | .loop _ _ head body orelse =>
    Python.yieldsAll head || Stmt.yieldsAll body || Stmt.yieldsAll orelse
  | .with _ _ items body => Python.yieldsAll items || Stmt.yieldsAll body
  | .functionDef _ _ _ args _ decoratorList _ =>
    Python.yieldsAll decoratorList || Python.yieldsAll args.defaults ||
      Python.yieldsAll (args.kwDefaults.flatMap Option.toList)
  | .classDef _ head _ => Python.yieldsAll head
  | .plain _ _ exprs => Python.yieldsAll exprs

def Stmt.yieldsAll : List Stmt → Bool
  | [] => false
  | s :: rest => s.yields || Stmt.yieldsAll rest

def MatchCase.yieldsAll : List MatchCase → Bool
  | [] => false
  | .mk _ guard body :: rest =>
    yieldsOpt guard || Stmt.yieldsAll body || MatchCase.yieldsAll rest

def Handler.yieldsAll : List Handler → Bool
  | [] => false
  | .mk _ type body :: rest => yieldsOpt type || Stmt.yieldsAll body || Handler.yieldsAll rest

end

/-- Whether a function is a generator, or an asynchronous one. -/
def FunctionDef.yields (function : FunctionDef) : Bool := Stmt.yieldsAll function.body

/-! ## Evaluations -/

/-- The object an expression evaluates to, as far as it tells which body it may run.  The objects
that come of a call keep its identity. -/
inductive Object where
  | coroutine (call : Nat)
  | generator (call : Nat)
  | asyncGenerator (call : Nat)
  | other
  deriving DecidableEq, Repr

/-- What the names and the attributes of a program stand for. -/
structure Interpretation where
  /-- The function that a call calls, where it is known. -/
  callee : Nat → Option FunctionDef
  /-- The decorators that return what they decorate. -/
  transparent : Expr → Bool
  /-- The attributes of an object. -/
  attributes : Object → String → Prop
  /-- An object of no known call may have any attribute. -/
  other : ∀ attr, attributes .other attr

/-- The decorators of a function return what they decorate. -/
def Interpretation.plain (program : Interpretation) (function : FunctionDef) : Bool :=
  function.decoratorList.all program.transparent

section

variable (program : Interpretation)

/-- What a call of a function runs and gives. -/
inductive Invokes (call : Nat) : Option FunctionDef → List Nat → Object → Prop where
  | unknown {bodies object} : Invokes call none bodies object
  | wrapped {function bodies object} (decorated : program.plain function = false) :
      Invokes call (some function) bodies object
  | body {function bodies object} (plain : program.plain function = true)
      (sync : function.async = false) (returns : function.yields = false) :
      Invokes call (some function) (call :: bodies) object
  | generator {function} (plain : program.plain function = true) (sync : function.async = false)
      (yields : function.yields = true) :
      Invokes call (some function) [] (.generator call)
  | coroutine {function} (plain : program.plain function = true) (async : function.async = true)
      (returns : function.yields = false) :
      Invokes call (some function) [] (.coroutine call)
  | asyncGenerator {function} (plain : program.plain function = true)
      (async : function.async = true) (yields : function.yields = true) :
      Invokes call (some function) [] (.asyncGenerator call)

/-- What awaiting an object runs.  Generators cannot be awaited. -/
inductive Awaits : Object → List Nat → Prop where
  | coroutine {call bodies} : Awaits (.coroutine call) (call :: bodies)
  | other {bodies} : Awaits .other bodies

/-- The forms through which an object is handed on. -/
def Expr.handsOn : Expr → Bool
  | .attribute .. | .subscript .. | .call .. | .await .. => true
  | _ => false

/-- `EvaluatesTo program e bodies object`: the expression may evaluate to the object, and run the
bodies of these calls on the way. -/
inductive EvaluatesTo : Expr → List Nat → Object → Prop where
  | parts {e bodies object} (form : e.handsOn = false) : EvaluatesTo e bodies object
  | member {info value attr bodies bodies' object object'} (inner : EvaluatesTo value bodies object)
      (has : program.attributes object attr) :
      EvaluatesTo (.attribute info value attr) (bodies ++ bodies') object'
  | item {info value slice bodies bodies' object} (inner : EvaluatesTo value bodies .other) :
      EvaluatesTo (.subscript info value slice) (bodies ++ bodies') object
  | call {info func args keywords bodies arguments invoked object}
      (inner : EvaluatesTo func bodies .other)
      (invokes : Invokes program info.identity (program.callee info.identity) invoked object) :
      EvaluatesTo (.call info func args keywords) (bodies ++ arguments ++ invoked) object
  | await {info value bodies awaited object object'} (inner : EvaluatesTo value bodies object)
      (awaits : Awaits object awaited) :
      EvaluatesTo (.await info value) (bodies ++ awaited) object'

/-- The expression that a statement is there to evaluate. -/
def Stmt.value? : Stmt → Option Expr
  | .expr _ value | .assign _ _ value => some value
  | .annAssign _ _ _ value | .return _ value => value
  | _ => none

/-- A statement with a value may complete, having run the bodies of these calls.  What the targets
do is left open. -/
inductive CompletesWith (s : Stmt) : List Nat → Prop where
  | intro {value bodies targets object} (has : s.value? = some value)
      (inner : EvaluatesTo program value bodies object) : CompletesWith s (bodies ++ targets)

end

/-! ## Calls that start together -/

/-- An expression starts with another: it hands on what that is evaluated to. -/
inductive StartsWith : Expr → Expr → Prop where
  | refl {e} : StartsWith e e
  | member {info value attr inner} (h : StartsWith value inner) :
      StartsWith (.attribute info value attr) inner
  | item {info value slice inner} (h : StartsWith value inner) :
      StartsWith (.subscript info value slice) inner
  | call {info func args keywords inner} (h : StartsWith func inner) :
      StartsWith (.call info func args keywords) inner

theorem StartsWith.mem_walk {outer inner : Expr} (h : StartsWith outer inner) :
    Node.expr inner ∈ walk (.expr outer) := by
  induction h with
  | refl => exact mem_walk_self _
  | member _ ih => exact mem_walk_of_child List.mem_cons_self ih
  | item _ ih => exact mem_walk_of_child List.mem_cons_self ih
  | call _ ih => exact mem_walk_of_child List.mem_cons_self ih

/-- An expression that starts with another is that one, or has it below an expression that awaits
nothing. -/
theorem StartsWith.parent {outer inner : Expr} (h : StartsWith outer inner) :
    outer = inner ∨ ∃ parent, Node.expr parent ∈ walk (.expr outer) ∧
      .expr inner ∈ (Node.expr parent).children ∧ ∀ info value, parent ≠ .await info value := by
  have hstep : ∀ {around value : Expr}, .expr value ∈ (Node.expr around).children →
      (∀ info value, around ≠ .await info value) →
      (value = inner ∨ ∃ parent, Node.expr parent ∈ walk (.expr value) ∧
        .expr inner ∈ (Node.expr parent).children ∧ ∀ info value, parent ≠ .await info value) →
      ∃ parent, Node.expr parent ∈ walk (.expr around) ∧
        .expr inner ∈ (Node.expr parent).children ∧
          ∀ info value, parent ≠ .await info value := by
    intro around value hchild hform h
    rcases h with rfl | ⟨parent, hparent, hinner, hawait⟩
    · exact ⟨around, mem_walk_self _, hchild, hform⟩
    · exact ⟨parent, mem_walk_of_child hchild hparent, hinner, hawait⟩
  induction h with
  | refl => exact Or.inl rfl
  | member _ ih => exact Or.inr (hstep List.mem_cons_self (fun _ _ => by simp) (ih hstep))
  | item _ ih => exact Or.inr (hstep List.mem_cons_self (fun _ _ => by simp) (ih hstep))
  | call _ ih => exact Or.inr (hstep List.mem_cons_self (fun _ _ => by simp) (ih hstep))

/-- The calls through which an expression is handed on, by identity. -/
def handingCalls : Expr → List Nat
  | .attribute _ value _ | .subscript _ value _ | .await _ value => handingCalls value
  | .call info func _ _ => info.identity :: handingCalls func
  | _ => []

theorem exists_of_mem_handingCalls {e : Expr} {call : Nat} (h : call ∈ handingCalls e) :
    ∃ info func args keywords, info.identity = call ∧
      Node.expr (.call info func args keywords) ∈ walk (.expr e) := by
  fun_induction handingCalls e with
  | case1 info value attr ih =>
    obtain ⟨info', func, args, keywords, heq, hin⟩ := ih h
    exact ⟨info', func, args, keywords, heq, mem_walk_of_child List.mem_cons_self hin⟩
  | case2 info value slice ih =>
    obtain ⟨info', func, args, keywords, heq, hin⟩ := ih h
    exact ⟨info', func, args, keywords, heq, mem_walk_of_child List.mem_cons_self hin⟩
  | case3 info value ih =>
    obtain ⟨info', func, args, keywords, heq, hin⟩ := ih h
    exact ⟨info', func, args, keywords, heq, mem_walk_of_child List.mem_cons_self hin⟩
  | case4 info func args keywords ih =>
    rcases List.mem_cons.1 h with rfl | h
    · exact ⟨info, func, args, keywords, rfl, mem_walk_self _⟩
    · obtain ⟨info', func', args', keywords', heq, hin⟩ := ih h
      exact ⟨info', func', args', keywords', heq, mem_walk_of_child List.mem_cons_self hin⟩
  | case5 => cases h

/-- An object that does not come of a call. -/
def Object.without (call : Nat) (object : Object) : Object :=
  if object = .coroutine call then .other else object

section

variable {program : Interpretation} {call : Nat}

@[simp]
theorem Object.without_other : Object.other.without call = .other := by simp [Object.without]

theorem attributes_without {object : Object} {attr : String}
    (has : program.attributes object attr) :
    program.attributes (object.without call) attr := by
  unfold Object.without
  split
  next _ => exact program.other attr
  next _ => exact has

/-- A call of another function need not run the body of a call. -/
theorem Invokes.avoids {other : Nat} (hne : call ≠ other) {function : Option FunctionDef}
    {bodies : List Nat} {object : Object} (h : Invokes program other function bodies object) :
    ∃ bodies', call ∉ bodies' ∧ Invokes program other function bodies' (object.without call) := by
  cases h with
  | unknown => exact ⟨[], List.not_mem_nil, .unknown⟩
  | wrapped decorated => exact ⟨[], List.not_mem_nil, .wrapped decorated⟩
  | body plain sync returns => exact ⟨[other], by simpa using hne, .body plain sync returns⟩
  | generator plain sync yields =>
    exact ⟨[], List.not_mem_nil, .generator plain sync yields⟩
  | coroutine plain async returns =>
    have hkept : (Object.coroutine other).without call = .coroutine other := by
      simp [Object.without, hne.symm]
    exact ⟨[], List.not_mem_nil, by rw [hkept]; exact .coroutine plain async returns⟩
  | asyncGenerator plain async yields =>
    exact ⟨[], List.not_mem_nil, .asyncGenerator plain async yields⟩

/-- A call of a function that is no plain one need not run its body. -/
theorem Invokes.avoids_own {function : FunctionDef}
    (h : program.plain function = false ∨ function.async = true ∨ function.yields = true)
    {bodies : List Nat} {object : Object}
    (invokes : Invokes program call (some function) bodies object) :
    ∃ bodies', call ∉ bodies' ∧ Invokes program call (some function) bodies' object := by
  cases invokes with
  | wrapped decorated => exact ⟨[], List.not_mem_nil, .wrapped decorated⟩
  | body plain sync returns => simp [plain, sync, returns] at h
  | generator plain sync yields =>
    exact ⟨[], List.not_mem_nil, .generator plain sync yields⟩
  | coroutine plain async returns =>
    exact ⟨[], List.not_mem_nil, .coroutine plain async returns⟩
  | asyncGenerator plain async yields =>
    exact ⟨[], List.not_mem_nil, .asyncGenerator plain async yields⟩

/-- What can be awaited can be awaited without the body of a call, if it does not come of it. -/
theorem Awaits.avoids {object : Object} {awaited : List Nat} (h : Awaits object awaited) :
    ∃ awaited', call ∉ awaited' ∧ Awaits (object.without call) awaited' := by
  cases h with
  | @coroutine other bodies =>
    by_cases hsame : other = call
    · refine ⟨[], List.not_mem_nil, ?_⟩
      rw [hsame, Object.without, if_pos rfl]
      exact .other
    · refine ⟨[other], by simpa using Ne.symm hsame, ?_⟩
      rw [Object.without, if_neg (by simpa using hsame)]
      exact .coroutine
  | other => exact ⟨[], List.not_mem_nil, by simpa using Awaits.other⟩

/-- An expression that is not handed on through a call need not run its body. -/
theorem EvaluatesTo.avoids {e : Expr} {bodies : List Nat} {object : Object}
    (h : EvaluatesTo program e bodies object) (hcalls : call ∉ handingCalls e) :
    ∃ bodies', call ∉ bodies' ∧ EvaluatesTo program e bodies' (object.without call) := by
  induction h with
  | parts form => exact ⟨[], List.not_mem_nil, .parts form⟩
  | member inner has ih =>
    obtain ⟨inside, hinside, inner'⟩ := ih hcalls
    exact ⟨inside ++ [], by simpa using hinside, .member inner' (attributes_without has)⟩
  | item inner ih =>
    obtain ⟨inside, hinside, inner'⟩ := ih hcalls
    exact ⟨inside ++ [], by simpa using hinside, .item (Object.without_other ▸ inner')⟩
  | call inner invokes ih =>
    rw [handingCalls, List.mem_cons, not_or] at hcalls
    obtain ⟨inside, hinside, inner'⟩ := ih hcalls.2
    obtain ⟨invoked, hinvoked, invokes'⟩ := invokes.avoids hcalls.1
    exact ⟨inside ++ [] ++ invoked, by simp [hinside, hinvoked],
      .call (Object.without_other ▸ inner') invokes'⟩
  | await inner awaits ih =>
    obtain ⟨inside, hinside, inner'⟩ := ih hcalls
    obtain ⟨awaited, hawaited, awaits'⟩ := @Awaits.avoids call _ _ awaits
    exact ⟨inside ++ awaited, by simp [hinside, hawaited], .await inner' awaits'⟩

/-! ## A call and the expressions that start with it -/

variable {info : NodeInfo} {func : Expr} {args : List Expr} {keywords : List Keyword}
  {function : FunctionDef}

/-- A plain function runs its body whenever an expression that starts with its call is evaluated. -/
theorem StartsWith.runs {outer : Expr} (starts : StartsWith outer (.call info func args keywords))
    (callee : program.callee info.identity = some function) (plain : program.plain function = true)
    (sync : function.async = false) (returns : function.yields = false) {bodies : List Nat}
    {object : Object} (h : EvaluatesTo program outer bodies object) : info.identity ∈ bodies := by
  generalize hsite : Expr.call info func args keywords = site at starts
  induction starts generalizing bodies object with
  | refl =>
    subst hsite
    cases h with
    | parts form => cases form
    | call inner invokes =>
      rw [callee] at invokes
      cases invokes with
      | wrapped decorated => simp [plain] at decorated
      | body => simp
      | generator _ _ yields => simp [returns] at yields
      | coroutine _ async => simp [sync] at async
      | asyncGenerator _ async => simp [sync] at async
  | member _ ih =>
    cases h with
    | parts form => cases form
    | member inner has => exact List.mem_append_left _ (ih inner hsite)
  | item _ ih =>
    cases h with
    | parts form => cases form
    | item inner => exact List.mem_append_left _ (ih inner hsite)
  | call _ ih =>
    cases h with
    | parts form => cases form
    | call inner invokes =>
      exact List.mem_append_left _ (List.mem_append_left _ (ih inner hsite))

/-- A coroutine function runs its body whenever its call is awaited. -/
theorem await_runs {info' : NodeInfo} (callee : program.callee info.identity = some function)
    (plain : program.plain function = true) (async : function.async = true)
    (returns : function.yields = false) {bodies : List Nat} {object : Object}
    (h : EvaluatesTo program (.await info' (.call info func args keywords)) bodies object) :
    info.identity ∈ bodies := by
  cases h with
  | parts form => cases form
  | await inner awaits =>
    cases inner with
    | parts form => cases form
    | call inner invokes =>
      rw [callee] at invokes
      cases invokes with
      | wrapped decorated => simp [plain] at decorated
      | body _ sync => simp [async] at sync
      | generator _ sync => simp [async] at sync
      | coroutine =>
        cases awaits with
        | coroutine => simp
      | asyncGenerator _ _ yields => simp [returns] at yields

theorem StartsWith.mem_handingCalls {outer : Expr}
    (starts : StartsWith outer (.call info func args keywords)) :
    info.identity ∈ handingCalls outer := by
  generalize hsite : Expr.call info func args keywords = site at starts
  induction starts with
  | refl =>
    subst hsite
    exact List.mem_cons_self
  | member _ ih => exact ih hsite
  | item _ ih => exact ih hsite
  | call _ ih => exact List.mem_cons_of_mem _ (ih hsite)

/-- An expression that starts with the call of a function that is no plain one need not run its
body, and need not give its coroutine unless it is the call itself. -/
theorem StartsWith.avoids {outer : Expr}
    (starts : StartsWith outer (.call info func args keywords))
    (callee : program.callee info.identity = some function)
    (special : program.plain function = false ∨ function.async = true ∨ function.yields = true)
    (inside : info.identity ∉ handingCalls func)
    (distinct : ∀ info' func' args' keywords',
      StartsWith outer (.call info' func' args' keywords') → info'.identity = info.identity →
        Expr.call info' func' args' keywords' = .call info func args keywords)
    {bodies : List Nat} {object : Object} (h : EvaluatesTo program outer bodies object) :
    ∃ bodies' object', info.identity ∉ bodies' ∧ EvaluatesTo program outer bodies' object' ∧
      (object' = object.without info.identity ∨
        outer = .call info func args keywords ∧ program.plain function = true ∧
          object' = object) := by
  generalize hsite : Expr.call info func args keywords = site at starts
  induction starts generalizing bodies object with
  | refl =>
    subst hsite
    cases h with
    | parts form => cases form
    | call inner invokes =>
      obtain ⟨within, hwithin, inner'⟩ := inner.avoids inside
      rw [callee] at invokes
      rw [Object.without_other] at inner'
      cases hplain : program.plain function with
      | false =>
        have wrapped : Invokes program info.identity (program.callee info.identity) []
            (object.without info.identity) := callee ▸ .wrapped hplain
        exact ⟨within ++ [] ++ [], _, by simpa using hwithin, .call inner' wrapped, Or.inl rfl⟩
      | true =>
        obtain ⟨invoked, hinvoked, invokes'⟩ := invokes.avoids_own special
        exact ⟨within ++ [] ++ invoked, object, by simp [hwithin, hinvoked],
          .call inner' (callee ▸ invokes'), Or.inr ⟨rfl, rfl, rfl⟩⟩
  | @member info' value attr inner starts ih =>
    cases h with
    | parts form => cases form
    | member inner has =>
      obtain ⟨within, object', hwithin, inner', hobject⟩ :=
        ih (fun _ _ _ _ h => distinct _ _ _ _ (.member h)) inner hsite
      refine ⟨within ++ [], _, by simpa using hwithin, .member inner' ?_, Or.inl rfl⟩
      rcases hobject with rfl | ⟨-, -, rfl⟩
      · exact attributes_without has
      · exact has
  | @item info' value slice inner starts ih =>
    cases h with
    | parts form => cases form
    | item inner =>
      obtain ⟨within, object', hwithin, inner', hobject⟩ :=
        ih (fun _ _ _ _ h => distinct _ _ _ _ (.item h)) inner hsite
      have hother : object' = .other := by
        rcases hobject with rfl | ⟨-, -, rfl⟩
        · exact Object.without_other
        · rfl
      exact ⟨within ++ [], _, by simpa using hwithin, .item (hother ▸ inner'), Or.inl rfl⟩
  | @call info' func' args' keywords' inner starts ih =>
    cases h with
    | parts form => cases form
    | call inner invokes =>
      obtain ⟨within, object', hwithin, inner', hobject⟩ :=
        ih (fun _ _ _ _ h => distinct _ _ _ _ (.call h)) inner hsite
      have hother : object' = .other := by
        rcases hobject with rfl | ⟨-, -, rfl⟩
        · exact Object.without_other
        · rfl
      by_cases hsame : info'.identity = info.identity
      · -- the call program would be the call itself, inside its own function
        have heq := distinct _ _ _ _ .refl hsame
        cases heq
        cases hsite
        exact absurd starts.mem_handingCalls inside
      · obtain ⟨invoked, hinvoked, invokes'⟩ := invokes.avoids (Ne.symm hsame)
        exact ⟨within ++ [] ++ invoked, _, by simp [hwithin, hinvoked],
          .call (hother ▸ inner') invokes', Or.inl rfl⟩

/-- An awaited expression that starts with the call of a coroutine function need not run its body,
unless it is the call itself and nothing else comes of it than a coroutine. -/
theorem StartsWith.avoids_awaited {outer : Expr} {info' : NodeInfo}
    (starts : StartsWith outer (.call info func args keywords))
    (callee : program.callee info.identity = some function) (async : function.async = true)
    (inside : info.identity ∉ handingCalls func)
    (distinct : ∀ info' func' args' keywords',
      StartsWith outer (.call info' func' args' keywords') → info'.identity = info.identity →
        Expr.call info' func' args' keywords' = .call info func args keywords)
    (special : program.plain function = true → function.yields = false →
      outer ≠ .call info func args keywords)
    {bodies : List Nat} {object : Object}
    (h : EvaluatesTo program (.await info' outer) bodies object) :
    ∃ bodies', info.identity ∉ bodies' ∧
      EvaluatesTo program (.await info' outer) bodies' object := by
  cases h with
  | parts form => cases form
  | @await _ _ _ _ given _ inner awaits =>
    obtain ⟨within, object', hwithin, inner', hobject⟩ :=
      starts.avoids callee (Or.inr (Or.inl async)) inside distinct inner
    rcases hobject with rfl | ⟨rfl, plain, rfl⟩
    · obtain ⟨awaited, hawaited, awaits'⟩ := @Awaits.avoids info.identity _ _ awaits
      exact ⟨within ++ awaited, by simp [hwithin, hawaited], .await inner' awaits'⟩
    · cases yields : function.yields with
      | false => exact absurd rfl (special plain yields)
      | true =>
        -- an asynchronous generator cannot be awaited
        cases inner with
        | parts form => cases form
        | call inner invokes =>
          rw [callee] at invokes
          cases invokes with
          | wrapped decorated => simp [plain] at decorated
          | body _ sync => simp [async] at sync
          | generator _ sync => simp [async] at sync
          | coroutine _ _ returns => simp [yields] at returns
          | asyncGenerator => cases awaits

end

end Python
