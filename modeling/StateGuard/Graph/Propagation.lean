import StateGuard.Python.Unwinding
import StateGuard.Graph.Dominance

/-!
# Exceptions that leave the function

`exception_propagates_from_function` looks at the `try` bodies around a call site.  An answer of
it is right exactly when no statement of the function swallows an exception of the site
(`exceptionPropagates_sound_iff`): it knows nothing of context managers, of `except*` and of what
becomes of an exception in a handler, an `else` block or under a `finally` with a `break`.
-/

namespace StateGuard

open Python

/-- The expressions of a statement itself: what it evaluates first, the guards of a `match`
statement, and the operands of the plain statements. -/
def ownExpressions : Stmt → List Expr
  | .match _ subject cases => subject :: cases.filterMap MatchCase.guard
  | .plain _ _ exprs => exprs
  | s => s.head

/-- The call is one of the statement itself. -/
def standsIn (call : NodeInfo) (s : Stmt) : Bool :=
  s.evaluates && (ownExpressions s).any fun e =>
    (Python.walk (.expr e)).any fun n => n.info?.any (·.identity = call.identity)

/-- An exception is raised at the statement. -/
def raisesAt (s : Stmt) (other : Stmt) : Bool := isStmt s other && other.evaluates

/-- In every execution an exception raised at the site leaves the body, and each statement around
the site on its way. -/
def PropagatesFrom (reads suppresses : Expr → Bool) (body : List Stmt) (site : Stmt) : Prop :=
  Leaves reads suppresses (raisesAt site) (.block body) ∧
    ∀ t ∈ Stmt.withinAll body, Leaves reads suppresses (raisesAt site) (.stmt t)

theorem propagatesFrom_iff {reads suppresses : Expr → Bool} {body : List Stmt} {site : Stmt} :
    PropagatesFrom reads suppresses body site ↔
      Unswallowed reads suppresses (raisesAt site) (Stmt.withinAll body) :=
  leaves_iff fun _ raises => (Bool.and_eq_true_iff.mp raises).2

section Example

/-- A function with a body. -/
def functionOf (body : List Stmt)
    (distinct : ((Stmt.placesAll [] body).map (·.1.info.identity)).Nodup) :
    FunctionControlModel where
  symbol := ⟨"ship", "file", "ship", .function, ⟨"main.py", 1, 0, 9, 0⟩⟩
  function := ⟨⟨0, 1, 0, 9, 0⟩, false, "ship", noArguments, body, [], none⟩
  module := ⟨"main.py", Dict.empty, []⟩
  nameOrigins := Dict.empty
  distinctNodes := distinct

/-- `with suppressed: pay()`. -/
def suppressedPayment : FunctionControlModel :=
  functionOf [.with ⟨1, 1, 0, 2, 9⟩ false [readName 41 "suppressed"] [callOf 2 "pay"]] (by decide)

/-- `try: pay()` with a handler that raises. -/
def raisedPayment : FunctionControlModel :=
  functionOf [.try ⟨1, 1, 0, 4, 9⟩ false [callOf 2 "pay"]
    [.mk ⟨3, 3, 0, 4, 9⟩ none [.raise ⟨4, 4, 0, 4, 9⟩ none none]] [] []] (by decide)

/-- The call `pay()`. -/
def paymentCall : NodeInfo := ⟨12, 2, 0, 2, 9⟩

end Example

end StateGuard
