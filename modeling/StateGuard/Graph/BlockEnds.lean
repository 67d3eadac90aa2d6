import StateGuard.Python.Ends
import StateGuard.Graph.ControlFlow

/-!
# Blocks that end the function

`block_terminates` looks at the last statement of a list.  An execution of such a list may still
leave it through a `break` or a `continue` of a loop around it, or pass its end when a `match`
statement passes over all its cases; these are the only ways (`blockTerminates_sound_iff`).
-/

namespace StateGuard

open Python

variable (reads suppresses : Expr → Bool)

/-- A `break` or `continue` of a loop around the block can be reached in it. -/
def loopExit (body : List Stmt) : Bool :=
  Stmt.endsAll reads suppresses unblocked body .breaks ||
    Stmt.endsAll reads suppresses unblocked body .continues

/-- The end of the block can be reached. -/
def fallsThrough (body : List Stmt) : Bool :=
  Stmt.endsAll reads suppresses unblocked body .completes

mutual

/-- Some `match` statement in the last place of a block can pass over all its cases. -/
def stmtPassesMatch : Stmt → Bool
  | .if _ _ body orelse => blockPassesMatch body || blockPassesMatch orelse
  | .match _ subject cases =>
    (passedValues reads subject cases).inhabited || casesPassMatch cases
  | .try _ _ body handlers orelse finalbody =>
    blockPassesMatch body || handlersPassMatch handlers || blockPassesMatch orelse ||
      blockPassesMatch finalbody
  | _ => false

def blockPassesMatch : List Stmt → Bool
  | [] => false
  | s :: rest => if rest.isEmpty then stmtPassesMatch s else blockPassesMatch rest

def casesPassMatch : List MatchCase → Bool
  | [] => false
  | .mk _ _ body :: rest => blockPassesMatch body || casesPassMatch rest

def handlersPassMatch : List Handler → Bool
  | [] => false
  | .mk _ _ body :: rest => blockPassesMatch body || handlersPassMatch rest

end

variable {reads suppresses}

mutual

theorem stmtPassesMatch_of_completes (s : Stmt) (terminates : stmtTerminates s = true)
    (completes : s.ends reads suppresses unblocked .completes = true) :
    stmtPassesMatch reads s = true := by
  match s with
  | .return .. | .raise .. => simp [Stmt.ends] at completes
  | .if info test body orelse =>
    simp only [stmtTerminates, Bool.and_eq_true] at terminates
    simp only [Stmt.ends, unblocked_head, Bool.not_false, Bool.true_and, Bool.or_eq_true,
      Bool.and_eq_true, decide_eq_true_eq, reduceCtorEq,
      false_or] at completes
    rw [stmtPassesMatch, Bool.or_eq_true]
    exact completes.imp
      (fun inBody => blockPassesMatch_of_completes body terminates.1 inBody.2)
      (fun inOrelse => blockPassesMatch_of_completes orelse terminates.2 inOrelse.2)
  | .match info subject cases =>
    simp only [stmtTerminates, Bool.and_eq_true] at terminates
    simp only [Stmt.ends, unblocked_head, Bool.not_false, Bool.true_and, Bool.or_eq_true,
      Bool.and_eq_true, decide_eq_true_eq, reduceCtorEq,
      false_or, true_and] at completes
    rw [stmtPassesMatch, Bool.or_eq_true]
    rcases completes with inCase | passed
    · exact .inr (casesPassMatch_of_completes _ 0 cases terminates.2 inCase)
    · exact .inl passed
  | .try info star body handlers orelse finalbody =>
    simp only [stmtTerminates, Bool.or_eq_true, Bool.and_eq_true] at terminates
    simp only [Stmt.ends, cleanedEnds, attemptedEnds, unblocked_head, Bool.not_false, Bool.true_and,
      Bool.or_eq_true, Bool.and_eq_true, decide_eq_true_eq, reduceCtorEq, ne_eq,
      not_true_eq_false, false_and, false_or,
      and_false] at completes
    simp only [stmtPassesMatch, Bool.or_eq_true]
    obtain ⟨cleaned, attempted⟩ := completes
    rcases terminates with inFinally | ⟨normal, inHandlers⟩
    · exact .inr (blockPassesMatch_of_completes finalbody inFinally cleaned)
    · rcases attempted with ⟨through, later⟩ | ⟨-, handled⟩
      · split at normal
        next => exact .inl (.inl (.inl (blockPassesMatch_of_completes body normal through)))
        next => exact .inl (.inr (blockPassesMatch_of_completes orelse normal later))
      · exact .inl (.inl (.inr (handlersPassMatch_of_completes handlers inHandlers handled)))
  | .plain _ kind _ => simp [stmtTerminates] at terminates
  | .assign .. | .annAssign .. | .augAssign .. | .expr .. | .functionDef .. | .loop .. | .with ..
  | .classDef .. => simp [stmtTerminates] at terminates

theorem blockPassesMatch_of_completes (body : List Stmt) (terminates : blockTerminates body = true)
    (completes : Stmt.endsAll reads suppresses unblocked body .completes = true) :
    blockPassesMatch reads body = true := by
  match body with
  | [] => simp [blockTerminates] at terminates
  | s :: rest =>
    simp only [Stmt.endsAll, Bool.or_eq_true, Bool.and_eq_true, decide_eq_true_eq, ne_eq,
      not_true_eq_false, false_and, false_or] at completes
    rw [blockTerminates] at terminates
    rw [blockPassesMatch]
    split at terminates
    next last =>
      rw [if_pos last]
      exact stmtPassesMatch_of_completes s terminates completes.1
    next more =>
      rw [if_neg more]
      exact blockPassesMatch_of_completes rest terminates completes.2

theorem casesPassMatch_of_completes (gate : Stmt) (index : Nat) (cases : List MatchCase)
    (terminates : casesTerminate cases = true)
    (completes : MatchCase.endsAll reads suppresses unblocked gate index cases .completes = true) :
    casesPassMatch reads cases = true := by
  match cases with
  | [] => cases completes
  | .mk pattern guard body :: rest =>
    simp only [casesTerminate, Bool.and_eq_true] at terminates
    simp only [MatchCase.endsAll, Bool.or_eq_true, Bool.and_eq_true] at completes
    rw [casesPassMatch, Bool.or_eq_true]
    exact completes.imp
      (fun inCase => blockPassesMatch_of_completes body terminates.1 inCase.2)
      (fun later => casesPassMatch_of_completes gate (index + 1) rest terminates.2 later)

theorem handlersPassMatch_of_completes (handlers : List Handler)
    (terminates : handlersTerminate handlers = true)
    (completes : Handler.endsAll reads suppresses unblocked handlers .completes = true) :
    handlersPassMatch reads handlers = true := by
  match handlers with
  | [] => cases completes
  | .mk info type body :: rest =>
    simp only [handlersTerminate, Bool.and_eq_true] at terminates
    simp only [Handler.endsAll, Bool.or_eq_true] at completes
    rw [handlersPassMatch, Bool.or_eq_true]
    exact completes.imp (blockPassesMatch_of_completes body terminates.1)
      (handlersPassMatch_of_completes rest terminates.2)

end

/-- The executions of a block leave the function exactly if no loop around the block can be left or
continued in it and its end cannot be reached. -/
theorem leavesFunction_iff {body : List Stmt} :
    (∀ choices events exit, Runs reads suppresses choices (.block body) events exit →
      exit = .returns ∨ exit = .raises) ↔
        loopExit reads suppresses body = false ∧ fallsThrough reads suppresses body = false := by
  constructor
  · intro sound
    have impossible : ∀ exit, exit ≠ .returns → exit ≠ .raises →
        Stmt.endsAll reads suppresses unblocked body exit = false := by
      intro exit notReturn notRaise
      refine Bool.eq_false_iff.mpr fun ends => ?_
      obtain ⟨events, runs⟩ := @runs_iff_ends reads suppresses body exit [] |>.mpr ends
      exact (sound [] events exit runs).elim notReturn notRaise
    refine ⟨?_, impossible .completes Exit.noConfusion Exit.noConfusion⟩
    rw [loopExit, impossible .breaks Exit.noConfusion Exit.noConfusion,
      impossible .continues Exit.noConfusion Exit.noConfusion]
    rfl
  · rintro ⟨noLoopExit, noFall⟩ choices events exit runs
    obtain ⟨noBreak, noContinue⟩ := Bool.or_eq_false_iff.mp noLoopExit
    have ends : Stmt.endsAll reads suppresses unblocked body exit = true :=
      runs.ends grows_unblocked (avoids_unblocked events)
    cases exit with
    | returns => exact .inl rfl
    | raises => exact .inr rfl
    | completes => exact absurd (noFall.symm.trans ends) Bool.false_ne_true
    | breaks => exact absurd (noBreak.symm.trans ends) Bool.false_ne_true
    | continues => exact absurd (noContinue.symm.trans ends) Bool.false_ne_true

/-- `block_terminates` is right about a list exactly if no `break` or `continue` of a loop around
the list can be reached in it and its end cannot be; the end can only be reached where a
`match` statement in a last place passes over all its cases. -/
theorem blockTerminates_sound_iff (reads suppresses : Expr → Bool) (body : List Stmt)
    (terminates : blockTerminates body = true) :
    ((∀ choices events exit, Runs reads suppresses choices (.block body) events exit →
        exit = .returns ∨ exit = .raises) ↔
      loopExit reads suppresses body = false ∧ fallsThrough reads suppresses body = false) ∧
    (fallsThrough reads suppresses body = true → blockPassesMatch reads body = true) :=
  ⟨leavesFunction_iff, blockPassesMatch_of_completes body terminates⟩

section Example

/-- A read of a name on a line. -/
def readName (line : Nat) (id : String) : Expr := .name ⟨line, line, 0, line, 0⟩ id true

/-- `return` on a line. -/
def returnAt (line : Nat) : Stmt := .return ⟨line, line, 0, line, 0⟩ none

/-- The body of a loop: `if done: break` and `return`. -/
def breakingBody : List Stmt :=
  [.if ⟨1, 1, 0, 2, 0⟩ (readName 11 "done") [.plain ⟨2, 2, 0, 2, 0⟩ .break []] [], returnAt 3]

/-- `match state:` with `case _ if done: return`. -/
def guardedBody : List Stmt :=
  [.match ⟨1, 1, 0, 3, 0⟩ (readName 11 "state")
    [.mk (.matchAny ⟨2, 2, 0, 2, 0⟩ none) (some (readName 12 "done")) [returnAt 3]]]

/-- `if done: return` and `raise`. -/
def returningBody : List Stmt :=
  [.if ⟨1, 1, 0, 2, 0⟩ (readName 11 "done") [returnAt 2] [],
    .raise ⟨3, 3, 0, 3, 0⟩ (some (readName 13 "error")) none]

theorem blockTerminates_sound_returning :
    blockTerminates returningBody = true ∧
      ∀ choices events exit, Runs (fun _ => false) (fun _ => true) choices (.block returningBody)
        events exit → exit = .returns ∨ exit = .raises :=
  ⟨by decide, (blockTerminates_sound_iff (fun _ => false) (fun _ => true) returningBody
    (by decide)).1.mpr (by decide +kernel)⟩

/-- A list that is left by `break`, and one whose end is reached past a guarded default. -/
theorem terminatingBlocks_left :
    (blockTerminates breakingBody = true ∧
      ∃ events, Runs (fun _ => false) (fun _ => true) [] (.block breakingBody) events .breaks) ∧
    (blockTerminates guardedBody = true ∧
      ∃ events, Runs (fun _ => false) (fun _ => true) [] (.block guardedBody) events
        .completes) := by
  refine ⟨⟨by decide, ?_⟩, ⟨by decide, ?_⟩⟩
  · exact runs_iff_ends.mpr (by decide +kernel)
  · exact runs_iff_ends.mpr (by decide +kernel)

end Example

end StateGuard
