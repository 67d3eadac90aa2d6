import StateGuard.Graph.Recognizers
import StateGuard.Python.Ancestry
import StateGuard.Python.Bindings

/-!
# SDK bindings

A signature check counts only on the Razorpay client.  `sdkBindingProven` takes a name for the
client's if the last assignment it sees at the top level of the module constructs one, and no
assignment it sees in the function binds the name.  Here the name is followed through the bindings
of the program (`SdkMeaning`): the name is sound if it denotes a client in every state in which the
call is evaluated.
-/

namespace StateGuard

open Python

/-! ## What a client is made of -/

/-- What a name is to stand for. -/
inductive SdkWant where
  | constructor | client
  /-- The name is to be unbound, so that its evaluation raises. -/
  | nothing
  deriving DecidableEq, Repr

/-- What the program does not say of itself: which names are builtins, and of which other bindings
it is known what a name or an attribute of it then stands for. -/
structure Surround where
  builtin : String → Bool
  given : Binding → List String → SdkWant → Bool

section

variable (modules : List (List String)) (surround : Surround)

def verdictOf (holds : Bool) : NameFlow.Verdict SdkWant := if holds then .yes else .no

/-- Whether a binding makes a name what is wanted.  A call of the constructor makes a client. -/
def checkBinding (want : SdkWant) (b : Binding) (v : Variable) : NameFlow.Verdict SdkWant :=
  if surround.given b v.2 want then .yes
  else
    match b.source, b.reference with
    | .value (.call ..), _ => .reads (if want = .client then .constructor else .nothing)
    | .value _, _ => .reads want
    | .imported .., .absolute path =>
      if (locate modules (path ++ v.2.tail)).isSome then .reads want
      else verdictOf (path ++ v.2.tail = ["razorpay", "Client"] ∧ want = .constructor)
    | .deleted, _ => verdictOf !(b.name.any surround.builtin)
    | _, _ => .no

/-- An unbound name raises, if it is no builtin. -/
def sdkDemand : NameFlow.Demand Binding Variable SdkWant where
  unbound _ v := surround.builtin (v.2.headD "") = false
  check := checkBinding modules surround

end

/-! ## Calls -/

/-- A call in a function of a module, with the analysis of both. -/
structure SdkCall where
  /-- The files of the program. -/
  files : List SourceFile
  file : SourceFile
  path : String
  levels : List Level
  call : Expr
  model : FunctionControlModel
  listed : file ∈ files
  runs : RunsIn file levels (.expr call)
  ofModule : model.module = moduleControlModel path file.body
  ofFunction : functionFrame model.function.info model.function.args model.function.body ∈
    levels.map (·.frame)

namespace SdkCall

variable (site : SdkCall) (surround : Surround)

/-- The name that the callee of the call starts with. -/
def root : String := beforeFirst '.' (calleeReference site.call)

/-- `_sdk_binding_proven` answers `True`. -/
def Proven : Prop := sdkBindingProven site.call site.model = true

/-- The demand on the names of the program. -/
def demand : NameFlow.Demand Binding Variable SdkWant :=
  sdkDemand (site.files.map (·.moduleName)) surround

/-- Whenever the call is evaluated, its root name denotes a client, or its evaluation raises. -/
def Sound : Prop :=
  ∀ bound, Denotes site.files site.file site.levels [site.root] bound →
    (site.demand surround).Met (namesOf site.files)
      (variableOf site.file site.levels [site.root]) bound .client

/-- A binding reaches the root name along the text that constructs no client: a definition, a loop
or another binding of no known client, an import or an assignment of something else.  Or it is the
call of a constructor whose own name is reached by another binding than its import. -/
def Rebound : Prop :=
  SpoiledAt site.files site.file (site.demand surround) site.levels [site.root] .client

end SdkCall

theorem get?_setAll {V : Type} (names : List String) (value : V) (d : Dict String V)
    (name : String) :
    (names.foldl (fun d name => d.set name value) d).get? name =
      if name ∈ names then some value else d.get? name := by
  induction names generalizing d with
  | nil => rfl
  | cons first rest ih =>
    rw [List.foldl_cons, ih, Dict.get?_set]
    by_cases hrest : name ∈ rest
    · rw [if_pos hrest, if_pos (List.mem_cons_of_mem _ hrest)]
    · by_cases hfirst : name = first
      · simp [hfirst]
      · simp [hrest, hfirst]

/-- A statement decides on the names that it assigns in a way the scan sees. -/
theorem get?_bindStatement {body : List Stmt} {d : Dict String SdkBindingState} {s : Stmt}
    {name : String} (h : (bindStatement body d s).get? name = some .razorpayClient) :
    (isBranching s = true → name ∉ (Python.walk (.stmt s)).flatMap assignedNames) ∧
      if name ∈ targetNames (assignment s).1 then
        sdkBindingOf body (assignment s).2 = .razorpayClient
      else d.get? name = some .razorpayClient := by
  unfold bindStatement at h
  split at h
  next hbranching =>
    rw [get?_setAll, get?_setAll] at h
    split at h
    · cases h
    next hunassigned =>
      refine ⟨fun _ => hunassigned, ?_⟩
      split at h
      next hassigned => rw [if_pos hassigned]; exact Option.some.inj h
      next hkept => rw [if_neg hkept]; exact h
  next hbranching =>
    rw [get?_setAll] at h
    refine ⟨fun branching => absurd branching hbranching, ?_⟩
    split at h
    next hassigned => rw [if_pos hassigned]; exact Option.some.inj h
    next hkept => rw [if_neg hkept]; exact h

/-- Only a plain name is bound to the value of an assignment. -/
theorem eq_name_of_mem_targetBinds {info : NodeInfo} {value e target : Expr} {name : String}
    (h : (some name, Source.value e) ∈ targetBinds info value target) :
    ∃ nameInfo, target = .name nameInfo name false := by
  unfold targetBinds at h
  split at h
  next nameInfo id =>
    simp only [List.mem_singleton, Prod.mk.injEq, Option.some.injEq] at h
    exact ⟨nameInfo, by rw [h.1]⟩
  next => simp [partBinds] at h

theorem mem_targetWalk {targets : List Expr} {info : NodeInfo} {name : String} {load : Bool}
    (h : Expr.name info name load ∈ targets) :
    name ∈ targets.flatMap fun target => (Python.walk (.expr target)).filterMap fun item =>
      match item with
      | .expr (.name _ id _) => some id
      | _ => none :=
  List.mem_flatMap.2 ⟨_, h, List.mem_filterMap.2 ⟨_, mem_walk_self _, rfl⟩⟩

/-- The names that a node binds to the values of expressions are among those it assigns. -/
theorem mem_assignedNames {table : NameTable} {n : Node} {name : String} {e : Expr}
    (h : (some name, Source.value e) ∈ n.bound table) : name ∈ assignedNames n := by
  unfold Node.bound at h
  split at h
  next info target value =>
    obtain ⟨nameInfo, rfl⟩ := eq_name_of_mem_targetBinds h
    exact mem_targetWalk (List.mem_singleton_self _)
  next info targets value =>
    obtain ⟨target, listed, hbinds⟩ := List.mem_flatMap.1 h
    obtain ⟨nameInfo, rfl⟩ := eq_name_of_mem_targetBinds hbinds
    exact mem_targetWalk listed
  next info target type value =>
    obtain ⟨nameInfo, rfl⟩ := eq_name_of_mem_targetBinds h
    exact mem_targetWalk (List.mem_singleton_self _)
  next => simp [partBinds] at h
  next => simp [partBinds] at h
  next => simp [partBinds] at h
  next => simp at h
  next => simp at h
  next info kind exprs =>
    unfold PlainKind.bound at h
    split at h
    · obtain ⟨imported, -, hbind⟩ := List.mem_map.1 h
      unfold importBind at hbind
      split at hbind <;> simp at hbind
    · obtain ⟨imported, -, hbind⟩ := List.mem_map.1 h
      simp [importFromBind] at hbind
    · split at h
      · simp at h
      · split at h <;> simp at h
    · cases h
    · cases h
  next => simp [partBinds] at h
  next => simp [partBinds] at h
  next => simp [partBinds] at h
  next => simp [partBinds] at h
  next => simp at h
  next => cases h

/-- No expression of the function is bound to the root name of a proven call: what the function
binds to it are parts, imports, definitions and deletions. -/
theorem unassigned_of_proven {site : SdkCall} (proven : site.Proven) {n : Node}
    (hn : n ∈ site.model.nodes) {source : Source}
    (hbound : (some site.root, source) ∈ n.bound site.file.table) : ∀ e, source ≠ .value e := by
  rintro e rfl
  unfold SdkCall.Proven sdkBindingProven at proven
  obtain ⟨-, unshadowed⟩ := Bool.and_eq_true_iff.1 proven
  have assigned := mem_assignedNames hbound
  have shadows : functionShadowsName site.model site.root = true := by
    rw [functionShadowsName, Bool.or_eq_true]
    exact .inr (List.any_eq_true.2 ⟨n, hn, List.any_eq_true.2 ⟨_, assigned, by simp⟩⟩)
  rw [SdkCall.root] at shadows
  simp [shadows] at unshadowed

/-! ## A fake client -/

-- `client = razorpay.Client()` and then `from fakes import client`, before a handler that checks a
-- signature
namespace FakeClient

def infoAt (identity line : Nat) : NodeInfo := ⟨identity, line, 0, line, 40⟩

def read (identity line : Nat) (id : String) : Expr := .name (infoAt identity line) id true

def call : Expr :=
  .call (infoAt 20 5)
    (.attribute (infoAt 21 5) (.attribute (infoAt 22 5) (read 23 5 "client") "utility")
      "verify_webhook_signature") [] []

def function : FunctionDef :=
  ⟨infoAt 10 4, false, "handler", ⟨[], [], none, [], [], none, []⟩,
    [.expr (infoAt 11 5) call], [], none⟩

def construction : Stmt :=
  .assign (infoAt 3 2) [.name (infoAt 4 2) "client" false]
    (.call (infoAt 5 2) (.attribute (infoAt 6 2) (read 7 2 "razorpay") "Client") [] [])

def fakeImport : Stmt := .plain (infoAt 8 3) (.importFrom (some "fakes") [⟨"client", none⟩]) []

def file : SourceFile where
  moduleName := ["main"]
  package := false
  table := NameTable.empty
  body := [.plain (infoAt 2 1) (.import [⟨"razorpay", none⟩]) [], construction, fakeImport,
    function.stmt]

def model : FunctionControlModel where
  symbol := ⟨"handler", "file", "main.handler", .function, ⟨"main.py", 4, 0, 5, 40⟩⟩
  function := function
  module := moduleControlModel "main.py" file.body
  nameOrigins := Dict.empty
  distinctNodes := List.nodup_singleton _

def outer : Level := ⟨moduleFrame file, 3⟩

def inner : Level := ⟨functionFrame function.info function.args function.body, 0⟩

def site : SdkCall where
  files := [file]
  file := file
  path := "main.py"
  levels := [inner, outer]
  call := call
  model := model
  listed := List.mem_singleton_self _
  runs := .child (.function (.module rfl) rfl) (List.mem_singleton_self _)
  ofModule := rfl
  ofFunction := List.mem_cons_self ..

def fakeBinding : Binding :=
  ⟨.module ["main"], some "client", .imported 0 "fakes" (some "client"), infoAt 8 3,
    .absolute ["fakes", "client"]⟩

/-- Nothing is known of what `fakes` holds. -/
def surround : Surround := ⟨fun _ => false, fun _ _ _ => false⟩

end FakeClient

end StateGuard
