import StateGuard.Python.Syntax

/-!
# Call binding

What a call binds to the parameters of the function it calls.  The positional arguments fill the
positional-only and the positional parameters in order, after the receiver of a bound method; what
is left over goes to `*args`.  A keyword fills the parameter of its name unless that one is
positional-only; what no parameter takes goes to `**kwargs`.  How many items an unpacked iterable
has and which keys an unpacked mapping has is open, so that a call may bind in several ways
(`Bound`), and in none where every way is a `TypeError`.
-/

namespace Python

/-- What a call passes for a parameter: an argument it writes, or a value it does not write, such
as a receiver or an item of what it unpacks. -/
inductive Passed where
  | argument (value : Expr)
  | unwritten

/-- Whether an argument is an unpacked iterable. -/
def Expr.unpacks : Expr → Bool
  | .other _ kind _ => kind = "Starred"
  | _ => false

/-- What positional arguments pass. -/
inductive PassesByPosition : List Expr → List Passed → Prop where
  | nil : PassesByPosition [] []
  | written {value : Expr} {rest : List Expr} {passed : List Passed}
      (plain : value.unpacks = false) (later : PassesByPosition rest passed) :
      PassesByPosition (value :: rest) (.argument value :: passed)
  | unpacked {value : Expr} {rest : List Expr} {passed : List Passed}
      (starred : value.unpacks = true) (count : Nat) (later : PassesByPosition rest passed) :
      PassesByPosition (value :: rest) (List.replicate count .unwritten ++ passed)

/-- What keyword arguments pass. -/
inductive PassesByName : List Keyword → List (String × Passed) → Prop where
  | nil : PassesByName [] []
  | written {info : NodeInfo} {name : String} {value : Expr} {rest : List Keyword}
      {passed : List (String × Passed)} (later : PassesByName rest passed) :
      PassesByName (.mk info (some name) value :: rest) ((name, .argument value) :: passed)
  | unpacked {info : NodeInfo} {value : Expr} {rest : List Keyword}
      {passed : List (String × Passed)} (keys : List String) (later : PassesByName rest passed) :
      PassesByName (.mk info none value :: rest) (keys.map (·, .unwritten) ++ passed)

namespace Arguments

variable (signature : Arguments)

/-- The parameters that can be filled by position. -/
def positional : List String := (signature.posonlyargs ++ signature.args).map (·.arg)

/-- The parameters that can be filled by name. -/
def byName : List String := (signature.args ++ signature.kwonlyargs).map (·.arg)

/-- The parameters without a default. -/
def required : List String :=
  signature.positional.take (signature.positional.length - signature.defaults.length) ++
    (signature.kwonlyargs.zip signature.kwDefaults).filterMap fun parameter =>
      if parameter.2.isNone then some parameter.1.arg else none

/-- The parameters that take what is passed, with what they take. -/
def taken (passed : List Passed) (named : List (String × Passed)) : List (String × Passed) :=
  signature.positional.zip passed ++ named.filter fun entry => entry.1 ∈ signature.byName

/-- What is bound when these values are passed, or nothing for a `TypeError`: too many positional
arguments, a keyword no parameter takes, a parameter filled twice, or one that is missing. -/
def bind (passed : List Passed) (named : List (String × Passed)) :
    Option (List (String × Passed)) :=
  let bound := signature.taken passed named
  if (passed.length ≤ signature.positional.length ∨ signature.vararg.isSome) ∧
      (∀ entry ∈ named, entry.1 ∈ signature.byName ∨ signature.kwarg.isSome) ∧
      (named.map (·.1)).Nodup ∧ (bound.map (·.1)).Nodup ∧
      ∀ name ∈ signature.required, name ∈ bound.map (·.1) then
    some bound
  else none

end Arguments

/-- A way in which a call binds the parameters of a signature; `receiver` tells whether it passes
the receiver of a bound method first. -/
inductive Bound (receiver : Bool) (signature : Arguments) :
    Expr → List (String × Passed) → Prop where
  | call {info : NodeInfo} {func : Expr} {args : List Expr} {keywords : List Keyword}
      {passed : List Passed} {named bound : List (String × Passed)}
      (byPosition : PassesByPosition args passed) (byName : PassesByName keywords named)
      (binds : signature.bind (if receiver then .unwritten :: passed else passed) named =
        some bound) :
      Bound receiver signature (.call info func args keywords) bound

/-! ## Calls that unpack nothing -/

theorem taken_of_bind {signature : Arguments} {passed : List Passed}
    {named bound : List (String × Passed)} (binds : signature.bind passed named = some bound) :
    bound = signature.taken passed named ∧ (bound.map (·.1)).Nodup ∧
      (passed.length ≤ signature.positional.length ∨ signature.vararg.isSome) := by
  simp only [Arguments.bind] at binds
  split at binds
  next fits =>
    cases binds
    exact ⟨rfl, fits.2.2.2.1, fits.1⟩
  next => cases binds

/-- Arguments that unpack nothing pass themselves. -/
theorem passed_of_plain {args : List Expr} {passed : List Passed}
    (passes : PassesByPosition args passed) (plain : ∀ value ∈ args, value.unpacks = false) :
    passed = args.map .argument := by
  induction passes with
  | nil => rfl
  | written _ _ ih =>
    rw [ih fun value later => plain value (List.mem_cons_of_mem _ later)]
    rfl
  | unpacked starred _ _ _ =>
    rw [plain _ List.mem_cons_self] at starred
    cases starred

/-- The keywords with a name, with their values. -/
def namedKeywords (keywords : List Keyword) : List (String × Expr) :=
  keywords.filterMap fun keyword => keyword.arg.map fun name => (name, keyword.value)

theorem named_of_plain {keywords : List Keyword} {named : List (String × Passed)}
    (passes : PassesByName keywords named)
    (plain : ∀ keyword ∈ keywords, keyword.arg.isSome = true) :
    named = (namedKeywords keywords).map fun entry => (entry.1, .argument entry.2) := by
  induction passes with
  | nil => rfl
  | written _ ih =>
    rw [ih fun keyword later => plain keyword (List.mem_cons_of_mem _ later)]
    rfl
  | unpacked _ _ _ =>
    have some := plain _ List.mem_cons_self
    cases some

end Python
