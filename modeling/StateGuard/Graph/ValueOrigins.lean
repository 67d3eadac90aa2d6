import Mathlib.Data.List.Find
import StateGuard.Graph.TrustGuards

/-!
# Value origins

Whether the origins inferred for the names of a function (`inferOrigins`) are those of the values
the names hold when a call is reached.  An execution carries what names hold (`Carries`): an
assignment to a plain name gives it the origin that the rules of `_origin_for_expr` make of what is
held at that moment, and a name that is bound in another way may hold anything.

The inference records one origin for a name, whatever the order of its assignments.  It is right
where the last assignment that was executed gave the name that origin (`Recorded`).
-/

namespace StateGuard

open Python

namespace ValueOrigins

/-! ## Names -/

section

variable (text : BuildText)

/-- A key that gives a member its origin, whatever it is a member of. -/
def decides (key : Option String) : Bool :=
  key ∈ ["x-razorpay-signature", "x-razorpay-event-id", "razorpay_payment_id",
    "razorpay_signature", "event", "status"].map some

/-- The names the origin of an expression is read from. -/
def consulted : Expr → List String
  | .await _ value => consulted value
  | .name _ id _ => [id]
  | .call _ func _ _ =>
    if endsWith ".decode" (referenceOrEmpty func) then
      match func with
      | .attribute _ value _ => consulted value
      | _ => []
    else []
  | .subscript _ value slice =>
    if decides (stringKey text slice) then [] else consulted value ++ consulted slice
  | .attribute _ value attr =>
    if decides (some (text.casefold attr)) then [] else consulted value
  | _ => []

/-- The names that are read when an expression is assigned; of a display, those of its values. -/
def consultedBy : Expr → List String
  | .dict _ items => items.flatMap fun item => consulted text item.value
  | e => consulted text e

end

/-- The names an expression stores to. -/
def storedNames (e : Expr) : List String :=
  (Python.walk (.expr e)).filterMap fun
    | .expr (.name _ id false) => some id
    | _ => none

/-- The name an import binds. -/
def importedAs (name : Alias) : String := name.asname.getD (beforeFirst '.' name.name)

/-- The names a node binds other than by assigning to a plain name. -/
def otherBindings : Node → List String
  | .stmt (.assign _ targets _) => others targets
  | .stmt (.annAssign _ target _ _) => others [target]
  | .stmt (.augAssign _ target _) => storedNames target
  | .stmt (.loop _ _ parts _ _) | .stmt (.with _ _ parts _) => parts.flatMap storedNames
  | .stmt (.functionDef _ _ name ..) => [name]
  | .stmt (.classDef _ _ body) => body.flatMap fun s => (Python.walk (.stmt s)).flatMap fun
      | .expr e => storedNames e
      | _ => []
  | .stmt (.plain _ (.import names) _) | .stmt (.plain _ (.importFrom _ names) _) =>
    names.map importedAs
  | .stmt (.plain _ _ exprs) => exprs.flatMap storedNames
  | .expr (.namedExpr _ target _) => storedNames target
  | .expr (.other _ _ children) => children.flatMap storedNames
  | .pattern (.matchAny _ name) | .pattern (.matchAs _ _ name) => name.toList
  | _ => []
where
  -- A target that is no name may raise after the names beside it have been assigned.
  others (targets : List Expr) : List String :=
    if targets.all (· matches .name ..) then [] else targets.flatMap storedNames

/-- The parameters of a function, those that take what is left over included. -/
def allParameters (function : FunctionDef) : List String :=
  (parameters function ++ function.args.vararg.toList ++ function.args.kwarg.toList).map (·.arg)

/-- A statement assigns a value to a plain name. -/
def Assigns (s : Stmt) (name : String) (value : Expr) : Prop :=
  (nodeAssignment (.stmt s)).2 = some value ∧ name ∈ targetNames (nodeAssignment (.stmt s)).1

section

variable {text : BuildText}

theorem originForExpr_call {origins : Dict String ValueOrigin} {names : List String}
    {info : NodeInfo} {func : Expr} {args : List Expr} {keywords : List Keyword} :
    originForExpr text origins names (.call info func args keywords) =
      if endsWith ".body" (referenceOrEmpty func) then .rawWebhookBody
      else if endsWith ".json" (referenceOrEmpty func) then .parsedWebhookBody
      else if endsWith ".decode" (referenceOrEmpty func) then
        match func with
        | .attribute _ value _ => originForExpr text origins names value
        | _ => .unknown
      else .unknown := by
  cases func <;> rfl

theorem originForExpr_subscript {origins : Dict String ValueOrigin} {names : List String}
    {info : NodeInfo} {value slice : Expr} :
    originForExpr text origins names (.subscript info value slice) =
      memberOrigin (stringKey text slice) (rootName value) (originForExpr text origins names value)
        names (some (if (slice matches .constant ..) ∨
            originForExpr text origins names slice = .merchantStateCarrier ∨
            originForExpr text origins names slice = .serverConfirmedOrderId then
          .merchantStateCarrier else .unconfirmedMerchantState)) :=
  rfl

theorem memberOrigin_of_decides {key root : Option String} {base base' : ValueOrigin}
    {names : List String} {keyed keyed' : Option ValueOrigin} (decided : decides key = true) :
    memberOrigin key root base names keyed = memberOrigin key root base' names keyed' := by
  obtain ⟨literal, listed, rfl⟩ := List.mem_map.mp (of_decide_eq_true decided)
  simp only [List.mem_cons, List.not_mem_nil, or_false] at listed
  rcases listed with rfl | rfl | rfl | rfl | rfl | rfl <;> rfl

/-- The origins of names agree as far as an expression reads them. -/
theorem originForExpr_congr {a b : Dict String ValueOrigin} {names : List String} {e : Expr}
    (agree : ∀ x ∈ consulted text e, (a.get? x).getD .unknown = (b.get? x).getD .unknown) :
    originForExpr text a names e = originForExpr text b names e := by
  induction e using originForExpr.induct text a names with
  | case1 info value ih => exact ih agree
  | case2 info id load => exact agree id List.mem_cons_self
  | case3 info func args keywords body =>
    rw [originForExpr_call, originForExpr_call, if_pos body, if_pos body]
  | case4 info func args keywords body json =>
    rw [originForExpr_call, originForExpr_call, if_neg body, if_neg body, if_pos json, if_pos json]
  | case5 info args keywords info' value attr body json decode ih =>
    rw [consulted, if_pos decode] at agree
    rw [originForExpr_call, originForExpr_call, if_neg body, if_neg body, if_neg json, if_neg json,
      if_pos decode, if_pos decode]
    exact ih agree
  | case6 info func args keywords body json decode other =>
    rw [originForExpr_call, originForExpr_call, if_neg body, if_neg body, if_neg json, if_neg json,
      if_pos decode, if_pos decode]
    cases func with
    | «attribute» => exact (other _ _ _ rfl).elim
    | _ => rfl
  | case7 info func args keywords body json decode =>
    rw [originForExpr_call, originForExpr_call, if_neg body, if_neg body, if_neg json, if_neg json,
      if_neg decode, if_neg decode]
  | case8 info value slice ihSlice ihValue =>
    rw [originForExpr_subscript, originForExpr_subscript]
    rw [consulted] at agree
    split at agree
    next decided => exact memberOrigin_of_decides decided
    next =>
      have ofSlice := ihSlice fun x read => agree x (List.mem_append_right _ read)
      have ofValue := ihValue fun x read => agree x (List.mem_append_left _ read)
      rw [ofSlice, ofValue]
  | case9 info value attr ih =>
    rw [originForExpr, originForExpr]
    rw [consulted] at agree
    split at agree
    next decided => exact memberOrigin_of_decides decided
    next => rw [ih agree]
  | case10 e notAwait notName notCall notSubscript notAttribute =>
    cases e with
    | await => exact (notAwait _ _ rfl).elim
    | name => exact (notName _ _ _ rfl).elim
    | call => exact (notCall _ _ _ _ rfl).elim
    | subscript => exact (notSubscript _ _ _ rfl).elim
    | «attribute» => exact (notAttribute _ _ _ rfl).elim
    | _ => rfl

/-- A name is assigned somewhere in a function, its nested functions included. -/
def AssignedWithin (function : FunctionDef) (name : String) : Prop :=
  ∃ n ∈ Python.walk (.stmt function.stmt),
    (nodeAssignment n).2.isSome = true ∧ name ∈ targetNames (nodeAssignment n).1

/-- A name is a parameter of a function, or a statement of its own assigns it. -/
def Local (function : FunctionDef) (name : String) : Prop :=
  name ∈ allParameters function ∨
    ∃ place ∈ Stmt.placesAll [] function.body, ∃ value, Assigns place.1 name value

section

variable {names : List String} {holds : String → Prop}

theorem keys_assignOrigins {state : Dict String ValueOrigin × Bool} {n : Node}
    (before : ∀ x ∈ state.1.keys, holds x)
    (here : (nodeAssignment n).2.isSome = true → ∀ x ∈ targetNames (nodeAssignment n).1, holds x) :
    ∀ x ∈ (assignOrigins text names state n).1.keys, holds x := by
  obtain ⟨targets, value, same⟩ : ∃ targets value, nodeAssignment n = (targets, value) :=
    ⟨_, _, rfl⟩
  rw [same] at here
  simp only [assignOrigins, same]
  cases value with
  | none => exact before
  | some value =>
    dsimp only
    generalize originForExpr text state.1 names value = origin
    have targeted := here rfl
    generalize targetNames targets = assigned at targeted
    clear here same
    induction assigned generalizing state with
    | nil => exact before
    | cons first rest ih =>
      rw [List.foldl_cons]
      refine ih ?_ fun x later => targeted x (List.mem_cons_of_mem _ later)
      split
      next => exact before
      next =>
        intro x known
        rcases (Dict.mem_keys_set _ _ _ _).mp known with rfl | old
        · exact targeted _ List.mem_cons_self
        · exact before x old

theorem keys_foldl_assignOrigins {nodes : List Node} {state : Dict String ValueOrigin × Bool}
    (before : ∀ x ∈ state.1.keys, holds x)
    (here : ∀ n ∈ nodes, (nodeAssignment n).2.isSome = true →
      ∀ x ∈ targetNames (nodeAssignment n).1, holds x) :
    ∀ x ∈ (nodes.foldl (assignOrigins text names) state).1.keys, holds x := by
  induction nodes generalizing state with
  | nil => exact before
  | cons n rest ih =>
    rw [List.foldl_cons]
    exact ih (keys_assignOrigins before (here n List.mem_cons_self))
      fun other later => here other (List.mem_cons_of_mem _ later)

theorem keys_originRounds {nodes : List Node} {fuel : Nat} {origins : Dict String ValueOrigin}
    (before : ∀ x ∈ origins.keys, holds x)
    (here : ∀ n ∈ nodes, (nodeAssignment n).2.isSome = true →
      ∀ x ∈ targetNames (nodeAssignment n).1, holds x) :
    ∀ x ∈ (originRounds text names nodes fuel origins).keys, holds x := by
  induction fuel generalizing origins with
  | zero => exact before
  | succ fuel ih =>
    have round := @keys_foldl_assignOrigins text names holds nodes (origins, false) before here
    rw [originRounds]
    split
    next => exact ih round
    next => exact round

theorem keys_foldl_seed {seeds : List Arg} {origins : Dict String ValueOrigin}
    {seed : Dict String ValueOrigin → Arg → Dict String ValueOrigin}
    (before : ∀ x ∈ origins.keys, holds x)
    (step : ∀ parameter ∈ seeds, ∀ origins : Dict String ValueOrigin,
      (∀ x ∈ origins.keys, holds x) → ∀ x ∈ (seed origins parameter).keys, holds x) :
    ∀ x ∈ (seeds.foldl seed origins).keys, holds x := by
  induction seeds generalizing origins with
  | nil => exact before
  | cons parameter rest ih =>
    rw [List.foldl_cons]
    exact ih (step parameter List.mem_cons_self origins before)
      fun other later => step other (List.mem_cons_of_mem _ later)

/-- Only parameters and assigned names have an inferred origin. -/
theorem bound_of_mem_inferOrigins {function : FunctionDef} :
    ∀ x ∈ (inferOrigins text function names).keys,
      x ∈ allParameters function ∨ AssignedWithin function x := by
  refine keys_originRounds ?_ fun n listed assigned x target => .inr ⟨n, listed, assigned, target⟩
  refine keys_foldl_seed (by simp) fun seed listed origins before => ?_
  have isParameter : seed.arg ∈ allParameters function := by
    simp only [allParameters, List.map_append, List.mem_append]
    exact .inl (.inl (List.mem_map_of_mem listed))
  split
  next =>
    intro x known
    rcases (Dict.mem_keys_set _ _ _ _).mp known with rfl | old
    · exact .inl isParameter
    · exact before x old
  next => exact before

end

end

/-! ## What names hold -/

/-- What the names of a function hold at a moment: the origins of the values of the names that are
bound, and the origins of the entries of the dictionaries they are bound to. -/
structure Holdings where
  origins : Dict String ValueOrigin
  entries : String → String → Option ValueOrigin

/-- An item of a display may hold a key: a literal one holds its own, any other may hold any. -/
def mayHold (key : String) : DictItem → Bool
  | .pair (.constant _ value) _ => value = .text key
  | .pair .. => true
  | .unpack _ => true

/-- The last item that may hold a key, which is the one that decides what the key holds. -/
def lastHolding (key : String) (items : List DictItem) : Option DictItem :=
  items.reverse.find? (mayHold key)

section

variable (text : BuildText) (model : FunctionControlModel) (rebinds shares : String → Prop)

/-- The origin of an expression from what is held. -/
def Holdings.origin (held : Holdings) (e : Expr) : ValueOrigin :=
  originForExpr text held.origins model.module.moduleStateNames e

/-- What a display may hold under a key. -/
def EntryOf (held : Holdings) (key : String) (items : List DictItem)
    (entry : Option ValueOrigin) : Prop :=
  match lastHolding key items with
  | none => entry = none
  | some (.pair (.constant ..) value) => entry = some (held.origin text model value)
  | some _ => True

/-- A name may be bound to anything at any time: the function binds it other than by assignments
to the plain name, or what the syntax here does not show does, such as an `except` clause with a
name, a parameter of a `lambda`, a `nonlocal` of a nested function or code elsewhere (`rebinds`). -/
def Loose (name : String) : Prop :=
  (∃ n ∈ model.nodes, name ∈ otherBindings n) ∨ rebinds name

/-- The names read for some expression are bound, where the function binds them. -/
def Available (held : Holdings) (read : List String) : Prop :=
  ∀ x ∈ read, Local model.function x → (held.origins.get? x).isSome = true

/-- The assignments an event makes. -/
def Event.assigns : Event → String → Expr → Prop
  | .evaluated s _ => Assigns s
  | _ => fun _ _ => False

/-- What an event makes of what is held.  A name that is not loose changes by assignments only, and
what is in a dictionary that is not shared by the display that is assigned. -/
structure Holds (event : Event) (held held' : Holdings) : Prop where
  available : ∀ x value, Event.assigns event x value → Available model held (consultedBy text value)
  assigned : ∀ x value, ¬ Loose model rebinds x → Event.assigns event x value →
    held'.origins.get? x = some (held.origin text model value)
  kept : ∀ x, ¬ Loose model rebinds x → (∀ value, ¬ Event.assigns event x value) →
    held'.origins.get? x = held.origins.get? x
  displayed : ∀ x info items key, ¬ Loose model rebinds x → ¬ shares x →
    Event.assigns event x (.dict info items) →
    EntryOf text model held key items (held'.entries x key)
  keptEntries : ∀ x key, ¬ Loose model rebinds x → ¬ shares x →
    (∀ value, ¬ Event.assigns event x value) → held'.entries x key = held.entries x key

/-- The origin a parameter starts with. -/
def startOrigin (name : String) : ValueOrigin :=
  if name ∈ (parameters model.function).map (·.arg) then
    (parameterOrigin text name).getD .unknown
  else .unknown

/-- What may be held after the events of an execution. -/
inductive Carries : List Event → Holdings → Prop where
  | start {held : Holdings} (parameters : ∀ x, ¬ Loose model rebinds x →
      held.origins.get? x =
        if x ∈ allParameters model.function then some (startOrigin text model x) else none) :
      Carries [] held
  | after {before : List Event} {event : Event} {held held' : Holdings}
      (carried : Carries before held) (holds : Holds text model rebinds shares event held held') :
      Carries (before ++ [event]) held'

/-! ## The law -/

/-- The expressions a statement may evaluate once it is entered. -/
def evaluatedBy : Stmt → List Expr
  | .plain _ _ exprs => exprs
  | s => s.head

/-- The expressions of the head of a loop that are evaluated for each iteration. -/
def evaluatedAgain (kind : LoopKind) (head : List Expr) : List Expr :=
  if kind = .while then head else head.take 1

/-- The events of iterations of a loop that do not leave it. -/
inductive Iterated (reads suppresses : Expr → Bool) (choices : List Taken) (body : List Stmt) :
    List Event → Prop where
  | nil : Iterated reads suppresses choices body []
  | again {before events : List Event} {exit : Exit}
      (earlier : Iterated reads suppresses choices body before)
      (inner : Runs reads suppresses choices (.block body) events exit)
      (continued : exit = .completes ∨ exit = .continues) :
      Iterated reads suppresses choices body (before ++ events)

/-- An expression stands in one of some expressions. -/
def StandsIn (e : Expr) (exprs : List Expr) : Prop :=
  ∃ whole ∈ exprs, Node.expr e ∈ Python.walk (.expr whole)

/-- An execution makes some events and then may evaluate a call: one of a statement that is
entered, of the head of a loop after iterations, of the guard of a case, or of the class of a
handler when the body of its `try` has raised. -/
inductive Reached (call : Expr) : List Event → Prop where
  | entered {reads suppresses : Expr → Bool} {before after : List Event} {exit : Exit} {s : Stmt}
      {choices : List Taken}
      (runs : Runs reads suppresses [] (.block model.function.body)
        (before ++ .entered s choices :: after) exit)
      (part : StandsIn call (evaluatedBy s)) : Reached call (before ++ [.entered s choices])
  | repeated {reads suppresses : Expr → Bool} {before after iterations : List Event} {exit : Exit}
      {choices : List Taken} {calls : List Nat} {info : NodeInfo} {kind : LoopKind}
      {head : List Expr} {body orelse : List Stmt}
      (runs : Runs reads suppresses [] (.block model.function.body)
        (before ++ .entered (.loop info kind head body orelse) choices ::
          .evaluated (.loop info kind head body orelse) calls :: after) exit)
      (iterated : Iterated reads suppresses choices body iterations)
      (part : StandsIn call (evaluatedAgain kind head)) :
      Reached call (before ++ .entered (.loop info kind head body orelse) choices ::
        .evaluated (.loop info kind head body orelse) calls :: iterations)
  | guard {reads suppresses : Expr → Bool} {before after : List Event} {exit : Exit}
      {choices : List Taken} {calls : List Nat} {info : NodeInfo} {subject guard : Expr}
      {cases : List MatchCase} {pattern : Pattern} {body : List Stmt}
      (runs : Runs reads suppresses [] (.block model.function.body)
        (before ++ .entered (.match info subject cases) choices ::
          .evaluated (.match info subject cases) calls :: after) exit)
      (listed : .mk pattern (some guard) body ∈ cases) (part : StandsIn call [guard]) :
      Reached call (before ++ [.entered (.match info subject cases) choices,
        .evaluated (.match info subject cases) calls])
  | handler {reads suppresses : Expr → Bool} {before after raised handled : List Event}
      {exit last : Exit} {choices : List Taken} {info handlerInfo : NodeInfo} {star : Bool}
      {body orelse finalbody handlerBody : List Stmt} {earlier later : List Handler} {type : Expr}
      (runs : Runs reads suppresses [] (.block model.function.body)
        (before ++ .entered (.try info star body
          (earlier ++ .mk handlerInfo (some type) handlerBody :: later) orelse finalbody)
            choices :: after) exit)
      (raises : Runs reads suppresses choices (.block body) raised .raises)
      (others : if star then Runs reads suppresses choices (.handlers earlier) handled last
        else handled = [])
      (part : StandsIn call [type]) :
      Reached call (before ++ .entered (.try info star body
        (earlier ++ .mk handlerInfo (some type) handlerBody :: later) orelse finalbody)
          choices :: (raised ++ handled))

/-- A call of a verification: one of the SDK, or one of a comparison of HMACs. -/
def isVerifier (call : Expr) : Bool :=
  (sdkVerifier call model).isSome ||
    calleeReference call ∈ ["hmac.compare_digest", "compare_digest", "hmac.new"]

/-- The arguments of a call, by position and by name, with the expressions in them. -/
def passedTo : Expr → List Expr
  | .call _ _ args keywords => (args ++ keywords.map (·.value)).flatMap fun argument =>
      (Python.walk (.expr argument)).filterMap fun
        | .expr e => some e
        | _ => none
  | _ => []

/-- The origins a verification asks for. -/
def asked : List ValueOrigin := [.rawWebhookBody, .webhookSignature, .serverConfirmedOrderId]

/-- What the inference says of the arguments of a call holds of their values. -/
structure ArgumentsHold (call : Expr) (held : Holdings) : Prop where
  arguments : ∀ e ∈ passedTo call, model.origin text e ∈ asked →
    Available model held (consulted text e) → held.origin text model e = model.origin text e
  order : (checkoutOrigins text call model).2 = .serverStateConfirmed →
    match (argumentsOf call).head? with
    | some (.dict info items) => Available model held (consultedBy text (.dict info items)) →
        ∀ entry, EntryOf text model held "razorpay_order_id" items entry →
          entry = some .serverConfirmedOrderId
    | some (.name _ id _) => (held.origins.get? id).isSome = true →
        held.entries id "razorpay_order_id" = some .serverConfirmedOrderId
    | _ => True

/-- The inference is right at every verifier call an execution reaches. -/
def OriginsSound : Prop :=
  ∀ call ∈ model.calls, isVerifier model call = true →
    ∀ before, Reached model call before →
      ∀ held, Carries text model rebinds shares before held → ArgumentsHold text model call held

/-! ## Where the inference is right -/

/-- The origin the inference records for a name. -/
def recordedOrigin (name : String) : ValueOrigin := (model.nameOrigins.get? name).getD .unknown

/-- A name is bound by the own assignments of the function alone, if at all. -/
structure Plain (name : String) : Prop where
  tight : ¬ Loose model rebinds name
  own : AssignedWithin model.function name → Local model.function name

/-- What a name holds after some events is of the recorded origin, as far as the rules of the
inference tell: its last assignment was of a value with that origin, read from such names only. -/
inductive Recorded : List Event → String → Prop where
  | start {x : String} (plain : Plain model rebinds x)
      (parameter : x ∈ allParameters model.function →
        recordedOrigin model x = startOrigin text model x) :
      Recorded [] x
  | kept {before : List Event} {event : Event} {x : String}
      (unassigned : ∀ value, ¬ Event.assigns event x value) (recorded : Recorded before x) :
      Recorded (before ++ [event]) x
  | assigned {before : List Event} {event : Event} {x : String} {value : Expr}
      (plain : Plain model rebinds x) (assigns : Event.assigns event x value)
      (read : ∀ y ∈ consulted text value, Recorded before y)
      (same : model.origin text value = recordedOrigin model x) :
      Recorded (before ++ [event]) x

/-- The keys of a display are literals, and those that stand for a key are written like it. -/
def LiteralKeys (key : String) (items : List DictItem) : Prop :=
  ∀ item ∈ items, ∃ info literal value, item = .pair (.constant info literal) value ∧
    (stringKey text (.constant info literal) = some key ↔ literal = .text key)

/-- What the order of a display is read from is of the recorded origin. -/
def OrderRecorded (before : List Event) (items : List DictItem) : Prop :=
  ∀ item ∈ items, item.key?.bind (stringKey text) = some "razorpay_order_id" →
    ∀ x ∈ consulted text item.value, Recorded text model rebinds before x

/-- The dictionary a name is bound to after some events is that of a display: it was assigned last,
and nothing else changes it. -/
inductive Displayed (id : String) (items : List DictItem) : List Event → Prop where
  | kept {before : List Event} {event : Event}
      (unassigned : ∀ value, ¬ Event.assigns event id value)
      (displayed : Displayed id items before) : Displayed id items (before ++ [event])
  | assigned {before : List Event} {event : Event} {info : NodeInfo}
      (assigns : Event.assigns event id (.dict info items))
      (recorded : OrderRecorded text model rebinds before items) :
      Displayed id items (before ++ [event])

/-- The order of a call is read from a display with literal keys: one in the call, or the one that
was last assigned to the name in the call. -/
def OrderRead (before : List Event) (call : Expr) : Prop :=
  ∃ items, dictForCallArgument call model = some items ∧
    LiteralKeys text "razorpay_order_id" items ∧
    match (argumentsOf call).head? with
    | some (.name _ id _) => ¬ Loose model rebinds id ∧ ¬ shares id ∧
        Displayed text model rebinds id items before
    | _ => OrderRecorded text model rebinds before items

variable {text model rebinds shares}

theorem Recorded.plain {before : List Event} {x : String}
    (recorded : Recorded text model rebinds before x) : Plain model rebinds x := by
  induction recorded with
  | start plain _ => exact plain
  | kept _ _ ih => exact ih
  | assigned plain _ _ _ _ => exact plain

theorem consulted_subset {e : Expr} : consulted text e ⊆ consultedBy text e := by
  cases e with
  | dict => exact List.nil_subset _
  | _ => exact List.Subset.refl _

/-- What is carried after one more event comes from what was carried before it. -/
theorem Carries.last {before : List Event} {event : Event} {held : Holdings}
    (carried : Carries text model rebinds shares (before ++ [event]) held) :
    ∃ earlier, Carries text model rebinds shares before earlier ∧
      Holds text model rebinds shares event earlier held := by
  generalize whole : before ++ [event] = events at carried
  cases carried with
  | start => simp at whole
  | after carried holds =>
    obtain ⟨rfl, last⟩ := List.append_inj' whole rfl
    cases last
    exact ⟨_, carried, holds⟩

/-- Where the names an expression reads hold what is recorded, so does the expression. -/
theorem origin_eq_of_recorded
    (inferred : model.nameOrigins = inferOrigins text model.function model.module.moduleStateNames)
    {held : Holdings} {e : Expr} (available : Available model held (consulted text e))
    (plain : ∀ x ∈ consulted text e, Plain model rebinds x)
    (recorded : ∀ x ∈ consulted text e, ∀ origin, held.origins.get? x = some origin →
      origin = recordedOrigin model x) :
    held.origin text model e = model.origin text e := by
  refine originForExpr_congr fun x consulted => ?_
  cases bound : held.origins.get? x with
  | some origin => exact recorded x consulted origin bound
  | none =>
    have notLocal : ¬ Local model.function x := by
      intro isLocal
      have some := available x consulted isLocal
      rw [bound] at some
      cases some
    have absent : model.nameOrigins.get? x = none := by
      rw [Dict.get?_eq_none, inferred]
      intro known
      rcases bound_of_mem_inferOrigins x known with parameter | assigned
      · exact notLocal (.inl parameter)
      · exact notLocal ((plain x consulted).own assigned)
    rw [absent]

/-- A name that is bound holds what is recorded for it. -/
theorem Recorded.holds
    (inferred : model.nameOrigins = inferOrigins text model.function model.module.moduleStateNames)
    {before : List Event} {x : String} (recorded : Recorded text model rebinds before x) :
    ∀ {held : Holdings}, Carries text model rebinds shares before held →
      ∀ origin, held.origins.get? x = some origin → origin = recordedOrigin model x := by
  induction recorded with
  | @start x plain parameter =>
    intro held carried origin bound
    generalize none : [] = events at carried
    cases carried with
    | start parameters =>
      rw [parameters x plain.tight] at bound
      split at bound
      next isParameter =>
        cases bound
        exact (parameter isParameter).symm
      next => cases bound
    | after => simp at none
  | kept unassigned recorded ih =>
    intro held carried origin bound
    obtain ⟨earlier, carried, holds⟩ := carried.last
    rw [holds.kept _ recorded.plain.tight unassigned] at bound
    exact ih carried origin bound
  | @assigned before event x value plain assigns read same ih =>
    intro held carried origin bound
    obtain ⟨earlier, carried, holds⟩ := carried.last
    rw [holds.assigned x value plain.tight assigns] at bound
    cases bound
    have available : Available model earlier (consulted text value) :=
      fun y listed => holds.available x value assigns y (consulted_subset listed)
    rw [← same]
    exact origin_eq_of_recorded inferred available (fun y listed => (read y listed).plain)
      fun y listed => ih y listed carried

/-- The last item under the order key decides the order of a display. -/
theorem checkoutOrder_eq {items : List DictItem} {start : List ValueOrigin} :
    (items.foldl (fun state item =>
      match item.key?.bind (stringKey text) with
      | some key =>
        if key ∈ checkoutIdentifiers then
          let origin := model.origin text item.value
          (state.1 ++ [origin],
            if key = "razorpay_order_id" then
              match origin with
              | .clientReturnedOrderId => .clientReturned
              | .serverConfirmedOrderId => .serverStateConfirmed
              | _ => .unknown
            else state.2)
        else state
      | none => state) (start, OrderIdentityOrigin.unknown)).2 = .serverStateConfirmed ↔
      ∃ item, items.reverse.find? (fun item =>
        item.key?.bind (stringKey text) = some "razorpay_order_id") = some item ∧
          model.origin text item.value = .serverConfirmedOrderId := by
  induction items using List.reverseRecOn with
  | nil => simp
  | append_singleton earlier item ih =>
    rw [List.foldl_append, List.foldl_cons, List.foldl_nil, List.reverse_append,
      List.reverse_singleton, List.singleton_append, List.find?_cons]
    cases key : item.key?.bind (stringKey text) with
    | none => simpa [key] using ih
    | some name =>
      by_cases order : name = "razorpay_order_id"
      · subst order
        have isKey : "razorpay_order_id" ∈ checkoutIdentifiers := by decide
        simp only [isKey, if_true, decide_true, Option.some.injEq, exists_eq_left']
        cases model.origin text item.value <;> simp
      · by_cases isKey : name ∈ checkoutIdentifiers <;> simpa [isKey, order] using ih

theorem lastHolding_eq {key : String} {items : List DictItem}
    (literal : LiteralKeys text key items) :
    lastHolding key items =
      items.reverse.find? fun item => item.key?.bind (stringKey text) = some key := by
  rw [lastHolding]
  refine List.find?_congr fun item listed => ?_
  obtain ⟨info, value, v, rfl, same⟩ := literal item (List.mem_reverse.mp listed)
  simp only [mayHold, DictItem.key?, Option.bind_some]
  exact decide_eq_decide.mpr same.symm

/-- A display of a confirmed order holds one, where the names it reads hold what is recorded. -/
theorem entry_of_confirmed
    (inferred : model.nameOrigins = inferOrigins text model.function model.module.moduleStateNames)
    {before : List Event} {call : Expr} {held : Holdings} {items : List DictItem}
    {entry : Option ValueOrigin} {info : NodeInfo}
    (carried : Carries text model rebinds shares before held)
    (confirmed : (checkoutOrigins text call model).2 = .serverStateConfirmed)
    (display : dictForCallArgument call model = some items)
    (literal : LiteralKeys text "razorpay_order_id" items)
    (recorded : OrderRecorded text model rebinds before items)
    (available : Available model held (consultedBy text (.dict info items)))
    (holds : EntryOf text model held "razorpay_order_id" items entry) :
    entry = some .serverConfirmedOrderId := by
  rw [checkoutOrigins, display, Option.getD_some] at confirmed
  obtain ⟨item, last, origin⟩ := checkoutOrder_eq.mp confirmed
  have listed : item ∈ items := List.mem_reverse.mp (List.mem_of_find?_eq_some last)
  have isOrder : item.key?.bind (stringKey text) = some "razorpay_order_id" := by
    simpa using List.find?_some last
  obtain ⟨info', value, v, rfl, -⟩ := literal item listed
  rw [EntryOf, lastHolding_eq literal, last] at holds
  have same : held.origin text model v = model.origin text v :=
    origin_eq_of_recorded inferred
      (fun x consulted => available x (List.mem_flatMap.mpr ⟨_, listed, consulted⟩))
      (fun x consulted => (recorded _ listed isOrder x consulted).plain)
      fun x consulted => (recorded _ listed isOrder x consulted).holds inferred carried
  rw [holds, same]
  exact congrArg some origin

/-- A dictionary holds what the display that was last assigned holds. -/
theorem Displayed.holds
    (inferred : model.nameOrigins = inferOrigins text model.function model.module.moduleStateNames)
    {before : List Event} {id : String} {call : Expr} {items : List DictItem}
    (displayed : Displayed text model rebinds id items before)
    (confirmed : (checkoutOrigins text call model).2 = .serverStateConfirmed)
    (display : dictForCallArgument call model = some items)
    (literal : LiteralKeys text "razorpay_order_id" items)
    (plain : ¬ Loose model rebinds id) (unshared : ¬ shares id) :
    ∀ {held : Holdings}, Carries text model rebinds shares before held →
      held.entries id "razorpay_order_id" = some .serverConfirmedOrderId := by
  induction displayed with
  | kept unassigned _ ih =>
    intro held carried
    obtain ⟨earlier, carried, holds⟩ := carried.last
    rw [holds.keptEntries id _ plain unshared unassigned]
    exact ih carried
  | @assigned before event info assigns recorded =>
    intro held carried
    obtain ⟨earlier, carried, holds⟩ := carried.last
    exact entry_of_confirmed inferred carried confirmed display literal recorded
      (holds.available id _ assigns) (holds.displayed id info items _ plain unshared assigns)

end

section

variable {text : BuildText} {model : FunctionControlModel} {rebinds shares : String → Prop}

/-- An event that assigns nothing leaves what is held. -/
theorem holds_idle {event : Event} {held : Holdings}
    (idle : ∀ x value, ¬ Event.assigns event x value) :
    Holds text model rebinds shares event held held where
  available x value assigns := (idle x value assigns).elim
  assigned x value _ assigns := (idle x value assigns).elim
  kept _ _ _ := rfl
  displayed x _ _ _ _ _ assigns := (idle x _ assigns).elim
  keptEntries _ _ _ _ _ := rfl

/-- What is held after `id = value`. -/
def Holdings.assign (held : Holdings) (text : BuildText) (model : FunctionControlModel)
    (id : String) (value : Expr) : Holdings :=
  { held with origins := held.origins.set id (held.origin text model value) }

/-- `id = value`. -/
def plainAssignment (info nameInfo : NodeInfo) (id : String) (value : Expr) : Stmt :=
  .assign info [.name nameInfo id false] value

theorem holds_assign {held : Holdings} {info nameInfo : NodeInfo} {id : String} {value : Expr}
    {calls : List Nat} (plain : ∀ info items, value ≠ .dict info items)
    (available : Available model held (consultedBy text value)) :
    Holds text model rebinds shares (.evaluated (plainAssignment info nameInfo id value) calls) held
      (held.assign text model id value) := by
  have only : ∀ x other, Event.assigns (.evaluated (plainAssignment info nameInfo id value) calls) x
      other → x = id ∧ other = value := by
    rintro x other ⟨same, target⟩
    exact ⟨List.mem_singleton.mp target, (Option.some.inj same).symm⟩
  have made : Event.assigns (.evaluated (plainAssignment info nameInfo id value) calls) id value :=
    ⟨rfl, List.mem_singleton_self _⟩
  constructor
  · intro x other assigns
    obtain ⟨rfl, rfl⟩ := only x other assigns
    exact available
  · intro x other _ assigns
    obtain ⟨rfl, rfl⟩ := only x other assigns
    rw [Holdings.assign, Dict.get?_set, if_pos rfl]
  · intro x _ unassigned
    rw [Holdings.assign, Dict.get?_set, if_neg]
    rintro rfl
    exact unassigned value made
  · intro x info items _ _ _ assigns
    exact (plain info items (only x _ assigns).2.symm).elim
  · intro _ _ _ _ _
    rfl

/-- Running an assignment changes what is held by it alone. -/
theorem Carries.assign {before : List Event} {held : Holdings} {info nameInfo : NodeInfo}
    {id : String} {value : Expr} {choices : List Taken}
    (carried : Carries text model rebinds shares before held)
    (plain : ∀ info items, value ≠ .dict info items)
    (available : Available model held (consultedBy text value)) :
    Carries text model rebinds shares
      (before ++ ran choices (plainAssignment info nameInfo id value))
      (held.assign text model id value) := by
  have idle : ∀ x other, ¬ Event.assigns
      (.entered (plainAssignment info nameInfo id value) choices) x other := fun _ _ => not_false
  have assigned := (carried.after (holds_idle idle)).after
    (@holds_assign text model rebinds shares held info nameInfo id value
      (plainAssignment info nameInfo id value).strictCalls plain available)
  rw [List.append_assoc] at assigned
  exact assigned

/-- An assignment gives its name what is recorded, if its value has that origin. -/
theorem Recorded.assign {before : List Event} {info nameInfo : NodeInfo} {id : String}
    {value : Expr} {choices : List Taken} (plain : Plain model rebinds id)
    (read : ∀ y ∈ consulted text value, Recorded text model rebinds before y)
    (same : model.origin text value = recordedOrigin model id) :
    Recorded text model rebinds (before ++ ran choices (plainAssignment info nameInfo id value))
      id := by
  have entered : ∀ y ∈ consulted text value, Recorded text model rebinds
      (before ++ [.entered (plainAssignment info nameInfo id value) choices]) y :=
    fun y listed => .kept (fun _ => not_false) (read y listed)
  have made : Event.assigns (.evaluated (plainAssignment info nameInfo id value)
      (plainAssignment info nameInfo id value).strictCalls) id value :=
    ⟨rfl, List.mem_singleton_self _⟩
  have assigned := Recorded.assigned plain made entered same
  rw [List.append_assoc] at assigned
  exact assigned

/-- An assignment leaves what other names hold. -/
theorem Recorded.assign_of_ne {before : List Event} {info nameInfo : NodeInfo} {id x : String}
    {value : Expr} {choices : List Taken} (other : x ≠ id)
    (recorded : Recorded text model rebinds before x) :
    Recorded text model rebinds (before ++ ran choices (plainAssignment info nameInfo id value))
      x := by
  have unassigned : ∀ value', ¬ Event.assigns (.evaluated (plainAssignment info nameInfo id value)
      (plainAssignment info nameInfo id value).strictCalls) x value' :=
    fun _ assigns => other (List.mem_singleton.mp assigns.2)
  have entered : Recorded text model rebinds
      (before ++ [.entered (plainAssignment info nameInfo id value) choices]) x :=
    .kept (fun _ => not_false) recorded
  have kept := Recorded.kept unassigned entered
  rw [List.append_assoc] at kept
  exact kept

end

section Example

/-- `client.utility.verify_webhook_signature(raw, signature, SECRET)`. -/
def verifyWebhook : Expr :=
  .call (node 150 4) (.attribute (node 151 4) (.attribute (node 152 4) (named 153 4 "client")
    "utility") "verify_webhook_signature")
    [named 154 4 "raw", named 155 4 "signature", named 156 4 "SECRET"] []

/-- A handler of a module with a client. -/
def clientHandler (body : List Stmt)
    (distinctNodes : ((Stmt.placesAll [] body).map (·.1.info.identity)).Nodup) :
    FunctionControlModel :=
  { coroutine "webhook" 1 ["request"] body distinctNodes with
    module := ⟨"main.py", Dict.empty.set "client" .razorpayClient, ["ORDERS"]⟩ }

/-- `signature = request.headers["x-razorpay-signature"]`. -/
def readSignature : Stmt := assignTo 120 3 "signature" (header 122 3 "x-razorpay-signature")

/-- `raw = await request.body()`. -/
def readBody : Stmt := assignTo 100 5 "raw" (awaitRequest 102 5 "body")

/-- The verification. -/
def verifies : Stmt := .expr (node 140 4) verifyWebhook

/-- A handler that verifies what it reads. -/
def readingHandler : FunctionControlModel :=
  clientHandler [readBody, readSignature, verifies] (by decide)

/-- `raw = ""`. -/
def emptyBody : Stmt := assignTo 110 2 "raw" (literal 112 2 "")

/-- A handler that verifies before it reads the body. -/
def lateHandler : FunctionControlModel :=
  clientHandler [emptyBody, readSignature, verifies, readBody] (by decide)

/-- What a handler holds at its start. -/
def requestOnly : Holdings := ⟨Dict.empty.set "request" .unknown, fun _ _ => none⟩

theorem carries_start {model : FunctionControlModel}
    (parameters : allParameters model.function = ["request"])
    (start : startOrigin plainText model "request" = .unknown) :
    Carries plainText model (fun _ => False) (fun _ => False) [] requestOnly := by
  refine .start fun x _ => ?_
  rw [requestOnly, parameters]
  by_cases same : x = "request"
  · subst same
    rw [if_pos (List.mem_singleton_self _), start]
    rfl
  · rw [if_neg (by simpa using same), Dict.get?_set, if_neg same]
    rfl

/-- What a handler holds that gives `raw` a value and reads the signature. -/
def verifiedHoldings (model : FunctionControlModel) (value : Expr) : Holdings :=
  (requestOnly.assign plainText model "raw" value).assign plainText model "signature"
    (header 122 3 "x-razorpay-signature")

/-- The events before the verification of such a handler. -/
def beforeVerification (first : Stmt) : List Event :=
  ran [] first ++ ran [] readSignature ++ [.entered verifies []]

theorem carries_beforeVerification {model : FunctionControlModel} {info nameInfo : NodeInfo}
    {value : Expr} (parameters : allParameters model.function = ["request"])
    (start : startOrigin plainText model "request" = .unknown)
    (plain : ∀ info items, value ≠ .dict info items)
    (available : Available model requestOnly (consultedBy plainText value)) :
    Carries plainText model (fun _ => False) (fun _ => False)
      (beforeVerification (plainAssignment info nameInfo "raw" value))
      (verifiedHoldings model value) := by
  have first : Carries plainText model (fun _ => False) (fun _ => False)
      (ran [] (plainAssignment info nameInfo "raw" value))
      (requestOnly.assign plainText model "raw" value) :=
    (carries_start parameters start).assign plain available
  have request : Available model (requestOnly.assign plainText model "raw" value)
      (consultedBy plainText (header 122 3 "x-razorpay-signature")) :=
    fun _ listed => absurd listed List.not_mem_nil
  have second : Carries plainText model (fun _ => False) (fun _ => False)
      (ran [] (plainAssignment info nameInfo "raw" value) ++ ran [] readSignature)
      (verifiedHoldings model value) :=
    first.assign (fun _ _ => Expr.noConfusion) request
  exact second.after (holds_idle fun _ _ => not_false)

/-- A handler of plain statements reaches its verification. -/
theorem reached_verification {model : FunctionControlModel} {first : Stmt} {rest : List Stmt}
    (body : model.function.body = [first, readSignature, verifies] ++ rest)
    (plain : ∀ s ∈ model.function.body, s.simple = true) :
    Reached model verifyWebhook (beforeVerification first) := by
  have whole : Runs (fun _ => false) (fun _ => false) [] (.block (model.function.body ++ []))
      (model.function.body.flatMap (ran []) ++ []) .completes := Runs.straight plain .nil
  have events : model.function.body.flatMap (ran []) ++ [] =
      (ran [] first ++ ran [] readSignature) ++ .entered verifies [] ::
        .evaluated verifies verifies.strictCalls :: rest.flatMap (ran []) := by
    rw [body]
    simp [ran]
  rw [List.append_nil, events] at whole
  exact .entered whole ⟨verifyWebhook, List.mem_singleton_self _, List.mem_of_getElem? (i := 0) rfl⟩

theorem readingHandler_plain : ∀ x ∈ ["raw", "signature"],
    Plain readingHandler (fun _ => False) x := by
  have unbound : ∀ x ∈ ["raw", "signature"], x ∉ readingHandler.nodes.flatMap otherBindings := by
    decide +kernel
  intro x isName
  refine ⟨?_, fun _ => ?_⟩
  · rintro (⟨n, listed, binds⟩ | outside)
    · exact unbound x isName (List.mem_flatMap.mpr ⟨n, listed, binds⟩)
    · exact outside
  · rcases List.mem_cons.mp isName with rfl | isName
    · exact .inr ⟨(readBody, []), List.mem_cons_self, _, rfl, List.mem_singleton_self _⟩
    · rw [List.mem_singleton.mp isName]
      exact .inr ⟨(readSignature, []), List.mem_cons_of_mem _ List.mem_cons_self, _, rfl,
        List.mem_singleton_self _⟩

/-- What `readingHandler` has read when it verifies is what is recorded. -/
theorem readingHandler_recorded : ∀ x ∈ ["raw", "signature"],
    Recorded plainText readingHandler (fun _ => False) (beforeVerification readBody) x := by
  have raw : Recorded plainText readingHandler (fun _ => False) ([] ++ ran [] readBody) "raw" :=
    .assign (readingHandler_plain _ (by decide)) (fun _ listed => absurd listed List.not_mem_nil)
      (by decide +kernel)
  have signature : Recorded plainText readingHandler (fun _ => False)
      ([] ++ ran [] readBody ++ ran [] readSignature) "signature" :=
    .assign (readingHandler_plain _ (by decide)) (fun _ listed => absurd listed List.not_mem_nil)
      (by decide +kernel)
  have both : ∀ x ∈ ["raw", "signature"], Recorded plainText readingHandler (fun _ => False)
      (ran [] readBody ++ ran [] readSignature) x := by
    intro x listed
    rcases List.mem_cons.mp listed with rfl | listed
    · exact raw.assign_of_ne (by decide)
    · rw [List.mem_singleton.mp listed]
      exact signature
  exact fun x listed => .kept (fun _ => not_false) (both x listed)

end Example

end ValueOrigins

end StateGuard
