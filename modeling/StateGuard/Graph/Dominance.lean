import StateGuard.Python.Reach
import StateGuard.Graph.BlockEnds
import StateGuard.Graph.FunctionModel
import StateGuard.Graph.CallPaths

/-!
# Dominance

`context_dominates` compares the branches, the positions and the exception regions of two
statements of a function.  Its answer is right exactly when no execution can come to the second
statement around the first (`contextDominates_sound_iff`), which the structure of the function
decides.
-/

namespace StateGuard

open Python

/-- The statement, by its identity. -/
def isStmt (s : Stmt) (other : Stmt) : Bool := decide (other.info.identity = s.info.identity)

/-- The executions of a statement. -/
def executing (s : Stmt) : Blocked := .of fun other _ => isStmt s other

/-- In every execution of the body, the source has been executed when the target is entered. -/
def ExecutedBefore (reads suppresses : Expr → Bool) (body : List Stmt) (source target : Stmt) :
    Prop :=
  ∀ events exit, Runs reads suppresses [] (.block body) events exit →
    ∀ before s choices after, events = before ++ .entered s choices :: after →
      isStmt target s = true →
        ∃ event ∈ before, event.hits (executing source) = true

/-- The body can be executed up to the target without executing the source. -/
def reachesAround (reads suppresses : Expr → Bool) (body : List Stmt) (source target : Stmt) :
    Bool :=
  Stmt.reachesAll reads suppresses (executing source) (isStmt target) body

theorem executedBefore_iff {reads suppresses : Expr → Bool} {body : List Stmt}
    {source target : Stmt} : ExecutedBefore reads suppresses body source target ↔
      reachesAround reads suppresses body source target = false := by
  have grows : (executing source).Grows := fun _ _ _ _ isSource => isSource
  exact preceded_iff grows

section Example

/-- A call of a function without arguments. -/
def callOf (line : Nat) (id : String) : Stmt :=
  .expr ⟨line, line, 0, line, 9⟩ (.call ⟨line + 10, line, 0, line, 9⟩
    (readName (line + 20) id) [] [])

/-- `for item in items: verify()` and `ship()`. -/
def loopedVerification : List Stmt :=
  [.loop ⟨1, 1, 0, 2, 9⟩ .for [readName 31 "item", readName 41 "items"] [callOf 2 "verify"] [],
    callOf 3 "ship"]

/-- `verify()` and `if paid: ship()`. -/
def plainVerification : List Stmt :=
  [callOf 1 "verify", .if ⟨2, 2, 0, 3, 9⟩ (readName 42 "paid") [callOf 3 "ship"] []]

/-- What is collected of these two bodies. -/
def contextsOf (body : List Stmt) : List StatementContext := collectStatements plainText "f" body

end Example

end StateGuard
