import StateGuard.Library.Checks

/-!
# Early returns and exceptions

A procedure that may return early or raise is modelled as a sequence of steps in
`Except (Exit ε ρ)`: a step goes on with a value, returns a result at once, or raises.
`settle` runs the sequence to its result or its exception.

`Raises` says that a sequence raises.  It distributes over a sequence (`raises_bind`), no
early return raises, and a call raises when its callee does (`raises_attempt`), so the
exceptions of a procedure are read off its steps.

`Ensures` is the postcondition of a sequence: one predicate for its early returns and one for
its last value, where a raised exception satisfies both.  Each kind of step has its rule.
-/

namespace EarlyReturn

open Checks

variable {ε ρ α β : Type}

/-- How a sequence of steps ends before its last one. -/
inductive Exit (ε ρ : Type) where
  | raises (exception : ε)
  | returns (result : ρ)

/-- A sequence of steps. -/
abbrev Steps (ε ρ α : Type) := Except (Exit ε ρ) α

/-- Return `result` when the condition holds. -/
def returnIf (condition : Prop) [Decidable condition] (result : ρ) : Steps ε ρ Unit :=
  if condition then .error (.returns result) else .ok ()

/-- Go on with a value that is there, or return `result`. -/
def orReturn (value : Option α) (result : ρ) : Steps ε ρ α :=
  match value with
  | some value => .ok value
  | none => .error (.returns result)

/-- Return a result that is there. -/
def returnSome (result : Option ρ) : Steps ε ρ Unit :=
  match result with
  | some result => .error (.returns result)
  | none => .ok ()

/-- Call a procedure that may raise. -/
def attempt (call : Except ε α) : Steps ε ρ α :=
  match call with
  | .ok value => .ok value
  | .error exception => .error (.raises exception)

/-- Run a sequence to its result. -/
def settle (steps : Steps ε ρ ρ) : Except ε ρ :=
  match steps with
  | .ok result => .ok result
  | .error (.returns result) => .ok result
  | .error (.raises exception) => .error exception

/-! ## Going on -/

@[simp]
theorem returnIf_eq_ok (condition : Prop) [Decidable condition] (result : ρ) (u : Unit) :
    (returnIf condition result : Steps ε ρ Unit) = .ok u ↔ ¬ condition := by
  unfold returnIf
  split
  next holds => simp [holds]
  next fails => simp [fails]

@[simp]
theorem orReturn_eq_ok (value : Option α) (result : ρ) (a : α) :
    (orReturn value result : Steps ε ρ α) = .ok a ↔ value = some a := by
  cases value with
  | none => simp [orReturn]
  | some b => simp [orReturn]

@[simp]
theorem returnSome_eq_ok (result : Option ρ) (u : Unit) :
    (returnSome result : Steps ε ρ Unit) = .ok u ↔ result = none := by
  cases result with
  | none => simp [returnSome]
  | some b => simp [returnSome]

@[simp]
theorem attempt_eq_ok (call : Except ε α) (a : α) :
    (attempt call : Steps ε ρ α) = .ok a ↔ call = .ok a := by
  cases call with
  | error exception => simp [attempt]
  | ok b => simp [attempt]

/-! ## Returning early -/

theorem returnIf_bind_of {condition : Prop} [Decidable condition] (holds : condition) (result : ρ)
    (rest : Unit → Steps ε ρ α) : (returnIf condition result >>= rest) = .error (.returns result) := by
  rw [returnIf, if_pos holds]
  rfl

theorem returnIf_bind {condition : Prop} [Decidable condition] (fails : ¬ condition) (result : ρ)
    (rest : Unit → Steps ε ρ α) : (returnIf condition result >>= rest) = rest () := by
  rw [returnIf, if_neg fails]
  rfl

theorem returnSome_bind (result : ρ) (rest : Unit → Steps ε ρ α) :
    (returnSome (some result) >>= rest) = .error (.returns result) := rfl

theorem orReturn_bind (value : α) (result : ρ) (rest : α → Steps ε ρ β) :
    (orReturn (some value) result >>= rest) = rest value := rfl

theorem orReturn_none_bind (result : ρ) (rest : α → Steps ε ρ β) :
    (orReturn none result >>= rest) = .error (.returns result) := rfl

theorem attempt_bind (value : α) (rest : α → Steps ε ρ β) :
    (attempt (.ok value) >>= rest) = rest value := rfl

/-- A sequence that returns early settles on its result, whatever was to follow. -/
theorem settle_of_returns {steps : Steps ε ρ α} {result : ρ}
    (returns : steps = .error (.returns result)) (rest : α → Steps ε ρ ρ) :
    settle (steps >>= rest) = .ok result := by
  rw [returns]
  rfl

/-! ## Raising -/

/-- The sequence ends with an exception. -/
def Raises (steps : Steps ε ρ α) : Prop := ∃ exception, steps = .error (.raises exception)

theorem raises_bind (first : Steps ε ρ α) (rest : α → Steps ε ρ β) :
    Raises (first >>= rest) ↔ Raises first ∨ ∃ a, first = .ok a ∧ Raises (rest a) := by
  cases first with
  | error exit => simp [Raises, bind, Except.bind]
  | ok a => simp [Raises, bind, Except.bind]

@[simp]
theorem raises_map (steps : Steps ε ρ α) (f : α → β) : Raises (f <$> steps) ↔ Raises steps := by
  cases steps with
  | error exit => simp [Raises, Functor.map, Except.map]
  | ok a => simp [Raises, Functor.map, Except.map]

@[simp]
theorem not_raises_ok (a : α) : ¬ Raises (.ok a : Steps ε ρ α) := by
  rintro ⟨exception, raised⟩
  cases raised

@[simp]
theorem not_raises_returns (result : ρ) :
    ¬ Raises (.error (.returns result) : Steps ε ρ α) := by
  rintro ⟨exception, raised⟩
  cases raised

@[simp]
theorem not_raises_pure (a : α) : ¬ Raises (pure a : Steps ε ρ α) := by
  rintro ⟨exception, raised⟩
  cases raised

@[simp]
theorem not_raises_returnIf (condition : Prop) [Decidable condition] (result : ρ) :
    ¬ Raises (returnIf condition result : Steps ε ρ Unit) := by
  rintro ⟨exception, raised⟩
  unfold returnIf at raised
  split at raised
  next => cases raised
  next => cases raised

@[simp]
theorem not_raises_orReturn (value : Option α) (result : ρ) :
    ¬ Raises (orReturn value result : Steps ε ρ α) := by
  rintro ⟨exception, raised⟩
  cases value with
  | none => cases raised
  | some a => cases raised

@[simp]
theorem not_raises_returnSome (result : Option ρ) :
    ¬ Raises (returnSome result : Steps ε ρ Unit) := by
  rintro ⟨exception, raised⟩
  cases result with
  | none => cases raised
  | some b => cases raised

@[simp]
theorem raises_attempt (call : Except ε α) :
    Raises (attempt call : Steps ε ρ α) ↔ ∃ exception, call = .error exception := by
  cases call with
  | error exception => simp [Raises, attempt]
  | ok a => simp [Raises, attempt]

/-! ## Postconditions -/

/-- Every early return satisfies `returned` and every last value satisfies `done`. -/
def Ensures (steps : Steps ε ρ α) (returned : ρ → Prop) (done : α → Prop) : Prop :=
  match steps with
  | .ok a => done a
  | .error (.returns result) => returned result
  | .error (.raises _) => True

namespace Ensures

variable {returned : ρ → Prop} {done : α → Prop}

theorem bind {first : Steps ε ρ α} {rest : α → Steps ε ρ β} {final : β → Prop}
    (ensures : Ensures first returned done)
    (continues : ∀ a, done a → Ensures (rest a) returned final) :
    Ensures (first >>= rest) returned final := by
  match first with
  | .ok a => exact continues a ensures
  | .error (.returns result) => exact ensures
  | .error (.raises exception) => trivial

theorem pure {a : α} (holds : done a) : Ensures (pure a : Steps ε ρ α) returned done := holds

theorem returnIf {condition : Prop} [Decidable condition] {result : ρ}
    (early : condition → returned result) :
    Ensures (returnIf condition result : Steps ε ρ Unit) returned fun _ => ¬ condition := by
  unfold EarlyReturn.returnIf
  split
  next holds => exact early holds
  next fails => exact fails

theorem orReturn {value : Option α} {result : ρ} (early : value = none → returned result) :
    Ensures (orReturn value result : Steps ε ρ α) returned fun a => value = some a := by
  cases value with
  | none => exact early rfl
  | some a => exact rfl

theorem returnSome {result : Option ρ} (early : ∀ r, result = some r → returned r) :
    Ensures (returnSome result : Steps ε ρ Unit) returned fun _ => result = none := by
  cases result with
  | none => exact rfl
  | some r => exact early r rfl

theorem attempt {call : Except ε α} :
    Ensures (attempt call : Steps ε ρ α) returned fun a => call = .ok a := by
  cases call with
  | error exception => trivial
  | ok a => exact rfl

theorem weaken {finished : α → Prop} {steps : Steps ε ρ α} (ensures : Ensures steps returned done)
    (weaker : ∀ a, done a → finished a) : Ensures steps returned finished := by
  match steps with
  | .ok a => exact weaker a ensures
  | .error (.returns result) => exact ensures
  | .error (.raises exception) => trivial

theorem relax {finished : ρ → Prop} {steps : Steps ε ρ α} (ensures : Ensures steps returned done)
    (weaker : ∀ result, returned result → finished result) : Ensures steps finished done := by
  match steps with
  | .ok a => exact ensures
  | .error (.returns result) => exact weaker result ensures
  | .error (.raises exception) => trivial

/-- A fact about the value of a sequence joins its postcondition. -/
theorem of_eq_ok {finished : α → Prop} {steps : Steps ε ρ α} (ensures : Ensures steps returned done)
    (holds : ∀ a, steps = .ok a → finished a) : Ensures steps returned finished := by
  match steps with
  | .ok a => exact holds a rfl
  | .error (.returns result) => exact ensures
  | .error (.raises exception) => trivial

/-- What a sequence settles on satisfies its postcondition. -/
theorem of_settle {steps : Steps ε ρ ρ} {result : ρ} (ensures : Ensures steps returned returned)
    (settled : settle steps = .ok result) : returned result := by
  match steps with
  | .ok a =>
    cases settled
    exact ensures
  | .error (.returns a) =>
    cases settled
    exact ensures
  | .error (.raises exception) => cases settled

/-- What a sequence that ended satisfies. -/
theorem of_ok {steps : Steps ε ρ α} {a : α} (ensures : Ensures steps returned done)
    (ended : steps = .ok a) : done a := by
  rw [ended] at ensures
  exact ensures

end Ensures

end EarlyReturn
