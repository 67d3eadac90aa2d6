import StateGuard.Contracts.Untrusted

/-!
# Records read out of untrusted values

The field rules that the schemas of a provider's output are made of.  A record takes the fields
it names and no others.  A text whose length is bounded must be Unicode text, and its length is
that of the text as it came: it is stripped only afterwards.
-/

namespace StateGuard

open Python Checks

namespace Record

/-- The entries of an object. -/
def entriesOf : Json → Except Exception (List (Str × Json))
  | .dict entries => .ok entries
  | _ => .error .validationError

/-- `extra="forbid"`. -/
def onlyFields (names : List String) (entries : List (Str × Json)) : Except Exception Unit :=
  raiseIf (∃ entry ∈ entries, entry.1 ∉ names.map Str.ofString) .validationError

/-- The value of a field. -/
def find? (name : String) (entries : List (Str × Json)) : Option Json :=
  (entries.find? fun entry => entry.1 = Str.ofString name).map Prod.snd

/-- A field that has no default. -/
def required {α : Type} (name : String) (read : Json → Except Exception α)
    (entries : List (Str × Json)) : Except Exception α :=
  match find? name entries with
  | some value => read value
  | none => .error .validationError

/-- A field with a default, which is not validated. -/
def orDefault {α : Type} (name : String) (read : Json → Except Exception α) (default : α)
    (entries : List (Str × Json)) : Except Exception α :=
  match find? name entries with
  | some value => read value
  | none => .ok default

/-- `str`. -/
def plainText : Json → Except Exception Str
  | .str value => .ok value
  | _ => .error .validationError

/-- The checks of `min_length` and `max_length`. -/
def checkText (least : Nat) (most : Option Nat) (value : Str) : Except Exception Unit :=
  raiseIf (value.isUnicode = false ∨ value.length < least ∨ ∃ bound ∈ most, bound < value.length)
    .validationError

/-- `str` with `min_length` and `max_length`. -/
def boundedText (least : Nat) (most : Option Nat) (value : Json) : Except Exception Str := do
  let text ← plainText value
  checkText least most text
  pure text

/-- A value that may be `None`. -/
def orNone {α : Type} (read : Json → Except Exception α) : Json → Except Exception (Option α)
  | .null => .ok none
  | value => some <$> read value

/-- `tuple[..., ...]` with `min_length` and `max_length`. -/
def tupleOf {α : Type} (least : Nat) (most : Option Nat) (read : Json → Except Exception α) :
    Json → Except Exception (List α)
  | .list items => do
    raiseIf (items.length < least ∨ ∃ bound ∈ most, bound < items.length) .validationError
    collect read items
  | _ => .error .validationError

/-- `float`, from what pydantic converts to one. -/
def floatOf (numerals : Numerals) : Json → Except Exception Double
  | .bool value => .ok (.finite (if value then 1 else 0))
  | .int value => .ok (.finite value)
  | .float value => .ok value
  | .str value => (numerals.parse value).elim (.error .validationError) .ok
  | _ => .error .validationError

/-- The checks of `ge=0.0` and `le=1.0`. -/
def checkUnit (value : Double) : Except Exception Unit :=
  raiseIf (value.negative = true ∨ value.aboveOne = true) .validationError

theorem checkText_eq_ok (least : Nat) (most : Option Nat) (value : Str) :
    checkText least most value = .ok () ↔
      value.isUnicode = true ∧ least ≤ value.length ∧ ∀ bound ∈ most, value.length ≤ bound := by
  simp [checkText]

/-- What a bounded text is when it is read. -/
theorem boundedText_eq_ok {least : Nat} {most : Option Nat} {value : Json} {text : Str}
    (read : boundedText least most value = .ok text) :
    text.isUnicode = true ∧ least ≤ text.length ∧ ∀ bound ∈ most, text.length ≤ bound := by
  simp only [boundedText, bind_eq_ok, pure_eq_ok, exists_unit] at read
  obtain ⟨plain, -, checked, rfl⟩ := read
  exact (checkText_eq_ok _ _ _).mp checked

theorem required_eq_ok {α : Type} {name : String} {read : Json → Except Exception α}
    {entries : List (Str × Json)} {result : α} (found : required name read entries = .ok result) :
    ∃ value, read value = .ok result := by
  unfold required at found
  split at found
  next value _ => exact ⟨value, found⟩
  next => cases found

theorem orDefault_eq_ok {α : Type} {name : String} {read : Json → Except Exception α} {default : α}
    {entries : List (Str × Json)} {result : α}
    (found : orDefault name read default entries = .ok result) :
    result = default ∨ ∃ value, read value = .ok result := by
  unfold orDefault at found
  split at found
  next value _ => exact .inr ⟨value, found⟩
  next =>
    cases found
    exact .inl rfl

theorem tupleOf_eq_ok {α : Type} {least : Nat} {most : Option Nat}
    {read : Json → Except Exception α} {value : Json} {items : List α}
    (found : tupleOf least most read value = .ok items) :
    least ≤ items.length ∧ (∀ bound ∈ most, items.length ≤ bound) ∧
      ∀ item ∈ items, ∃ entry, read entry = .ok item := by
  cases value with
  | list values =>
    simp only [tupleOf, bind_eq_ok, exists_unit, raiseIf_eq_ok, not_or, not_lt, not_exists,
      not_and] at found
    obtain ⟨⟨enough, few⟩, collected⟩ := found
    have length : items.length = values.length := (collect_eq_ok collected).length_eq.symm
    refine ⟨length ▸ enough, fun bound isBound => length ▸ few bound isBound, ?_⟩
    intro item membership
    obtain ⟨entry, -, isRead⟩ := exists_of_mem_collect collected membership
    exact ⟨entry, isRead⟩
  | _ => cases found

/-! ## Failures that are the provider's -/

/-- A computation that raises an allowed exception or returns a good value. -/
def Settles {α : Type} (allowed : Exception → Prop) (good : α → Prop) : Except Exception α → Prop
  | .error failure => allowed failure
  | .ok value => good value

def IsProviderError (failure : Exception) : Prop := ∃ code, failure = .modelProviderError code

/-- A computation that raises a `ModelProviderError` or returns a good value. -/
abbrev Contained {α : Type} (good : α → Prop) : Except Exception α → Prop :=
  Settles IsProviderError good

section Settles

variable {α β : Type} {allowed : Exception → Prop}

theorem settles_pure (good : α → Prop) (value : α) :
    Settles allowed good (pure value) ↔ good value := Iff.rfl

theorem settles_ok (good : α → Prop) (value : α) :
    Settles allowed good (.ok value) ↔ good value := Iff.rfl

theorem settles_error (good : α → Prop) (failure : Exception) :
    Settles allowed good (.error failure) ↔ allowed failure := Iff.rfl

theorem settles_bind (good : β → Prop) (first : Except Exception α)
    (next : α → Except Exception β) :
    Settles allowed good (first >>= next) ↔
      Settles allowed (fun value => Settles allowed good (next value)) first := by
  cases first with
  | error failure => exact Iff.rfl
  | ok value => exact Iff.rfl

theorem settles_raiseIf (good : Unit → Prop) (bad : Prop) [Decidable bad] (failure : Exception) :
    Settles allowed good (raiseIf bad failure) ↔ (bad → allowed failure) ∧ (¬ bad → good ()) := by
  unfold raiseIf
  split
  next fails => simp [fails, settles_error]
  next passes => simp [passes, Settles]

theorem settles_elim (good : α → Prop) (value : Option α) (failure : Exception) :
    Settles allowed good (value.elim (.error failure) .ok) ↔
      (value = none → allowed failure) ∧ ∀ result, value = some result → good result := by
  cases value with
  | none => simp [settles_error]
  | some result => simp [Settles]

/-- A computation with allowed failures is judged by what it returns. -/
theorem settles_of_raises {result : Except Exception α}
    (raises : ∀ failure, result = .error failure → allowed failure) (good : α → Prop) :
    Settles allowed good result ↔ ∀ value, result = .ok value → good value := by
  cases result with
  | error failure => simp [settles_error, raises failure rfl]
  | ok value => simp [settles_ok]

/-- Building a list raises what building an element raises. -/
theorem collect_raises {build : α → Except Exception β}
    (raises : ∀ item failure, build item = .error failure → allowed failure) (items : List α)
    (failure : Exception) (raised : collect build items = .error failure) : allowed failure := by
  induction items with
  | nil => cases raised
  | cons item rest ih =>
    rw [collect] at raised
    cases isFirst : build item with
    | error other =>
      rw [isFirst] at raised
      cases raised
      exact raises item _ isFirst
    | ok first =>
      rw [isFirst, ok_bind] at raised
      cases isRest : collect build rest with
      | error other =>
        rw [isRest] at raised
        cases raised
        exact ih isRest
      | ok later =>
        rw [isRest] at raised
        cases raised

theorem settles_congr {good other : α → Prop} (same : ∀ value, good value ↔ other value)
    (result : Except Exception α) : Settles allowed good result ↔ Settles allowed other result := by
  cases result with
  | error failure => exact Iff.rfl
  | ok value => exact same value

@[simp]
theorem isProviderError_modelProviderError (code : ProviderFailureCode) :
    IsProviderError (.modelProviderError code) :=
  ⟨code, rfl⟩

@[simp]
theorem not_isProviderError_valueError : ¬ IsProviderError .valueError := by
  rintro ⟨code, isCode⟩
  cases isCode

@[simp]
theorem not_isProviderError_unicodeEncodeError : ¬ IsProviderError .unicodeEncodeError := by
  rintro ⟨code, isCode⟩
  cases isCode

@[simp]
theorem not_isProviderError_validationError : ¬ IsProviderError .validationError := by
  rintro ⟨code, isCode⟩
  cases isCode

/-- The failure of a provider, as an exception. -/
def raiseProvider (result : Except ProviderFailureCode α) : Except Exception α :=
  result.mapError .modelProviderError

theorem contained_raiseProvider (good : α → Prop) (result : Except ProviderFailureCode α) :
    Contained good (raiseProvider result) ↔ ∀ value, result = .ok value → good value := by
  cases result with
  | error code => simp [raiseProvider, Except.mapError, Settles]
  | ok value => simp [raiseProvider, Except.mapError, Settles]

/-- `except ValidationError`: a schema that refuses the output is a failure of the provider. -/
def asProviderFailure : Except Exception α → Except Exception α
  | .error .validationError => .error (.modelProviderError .invalidStructuredOutput)
  | result => result

end Settles

/-! ## Readers raise nothing else -/

/-- Every failure of the computation is a `ValidationError`. -/
def Validates {α : Type} (result : Except Exception α) : Prop :=
  ∀ failure, result = .error failure → failure = .validationError

namespace Validates

variable {α β : Type}

theorem ok (value : α) : Validates (.ok value : Except Exception α) := by
  intro failure raised
  cases raised

theorem pure (value : α) : Validates (Pure.pure value : Except Exception α) := ok value

theorem raised : Validates (.error .validationError : Except Exception α) := by
  intro failure raised
  cases raised
  rfl

theorem bind {first : Except Exception α} {next : α → Except Exception β}
    (before : Validates first) (after : ∀ value, Validates (next value)) :
    Validates (first >>= next) := by
  cases first with
  | error failure =>
    intro other raised
    cases raised
    exact before failure rfl
  | ok value => exact after value

theorem map {result : Except Exception α} (validates : Validates result) (f : α → β) :
    Validates (f <$> result) := by
  cases result with
  | error failure =>
    intro other raised
    cases raised
    exact validates failure rfl
  | ok value => exact ok (f value)

theorem raiseIf (bad : Prop) [Decidable bad] :
    Validates (Checks.raiseIf bad Exception.validationError) := by
  unfold Checks.raiseIf
  split
  next => exact raised
  next => exact ok ()

theorem forEach {check : α → Except Exception Unit} (checks : ∀ item, Validates (check item)) :
    (items : List α) → Validates (Checks.forEach check items)
  | [] => ok ()
  | item :: rest => (checks item).bind fun _ => forEach checks rest

theorem collect {read : α → Except Exception β} (reads : ∀ item, Validates (read item))
    (items : List α) : Validates (Checks.collect read items) :=
  collect_raises reads items

theorem entriesOf (value : Json) : Validates (entriesOf value) := by
  cases value with
  | dict entries => exact ok entries
  | _ => exact raised

theorem onlyFields (names : List String) (entries : List (Str × Json)) :
    Validates (onlyFields names entries) :=
  raiseIf _

theorem required {read : Json → Except Exception α} (reads : ∀ value, Validates (read value))
    (name : String) (entries : List (Str × Json)) : Validates (required name read entries) := by
  unfold Record.required
  split
  next value _ => exact reads value
  next => exact raised

theorem orDefault {read : Json → Except Exception α} (reads : ∀ value, Validates (read value))
    (name : String) (default : α) (entries : List (Str × Json)) :
    Validates (orDefault name read default entries) := by
  unfold Record.orDefault
  split
  next value _ => exact reads value
  next => exact ok default

theorem plainText (value : Json) : Validates (plainText value) := by
  cases value with
  | str value => exact ok value
  | _ => exact raised

theorem boundedText (least : Nat) (most : Option Nat) (value : Json) :
    Validates (boundedText least most value) :=
  (plainText value).bind fun _ => (raiseIf _).bind fun _ => ok _

theorem orNone {read : Json → Except Exception α} (reads : ∀ value, Validates (read value))
    (value : Json) : Validates (orNone read value) := by
  unfold Record.orNone
  split
  next => exact ok none
  next => exact (reads _).map some

theorem tupleOf {read : Json → Except Exception α} (reads : ∀ value, Validates (read value))
    (least : Nat) (most : Option Nat) (value : Json) :
    Validates (tupleOf least most read value) := by
  cases value with
  | list items => exact (raiseIf _).bind fun _ => collect reads items
  | _ => exact raised

theorem floatOf (numerals : Numerals) (value : Json) : Validates (floatOf numerals value) := by
  unfold Record.floatOf
  split
  next => exact ok _
  next => exact ok _
  next => exact ok _
  next value =>
    cases numerals.parse value with
    | none => exact raised
    | some number => exact ok number
  next => exact raised

end Validates

theorem contained_asProviderFailure {α : Type} (good : α → Prop) {result : Except Exception α}
    (validates : Validates result) :
    Contained good (asProviderFailure result) ↔ ∀ value, result = .ok value → good value := by
  cases result with
  | error failure =>
    cases validates failure rfl
    simp [asProviderFailure, Settles]
  | ok value => simp [asProviderFailure, Settles]

/-- What only raises a `ValidationError` is contained exactly when it returns a good value. -/
theorem contained_of_validates {α : Type} (good : α → Prop) {result : Except Exception α}
    (validates : Validates result) :
    Contained good result ↔ ∃ value, result = .ok value ∧ good value := by
  cases result with
  | error failure =>
    cases validates failure rfl
    simp [Settles]
  | ok value => simp [Settles]

end Record

end StateGuard
