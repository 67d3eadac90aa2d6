import StateGuard.Graph.CheckoutBinding

/-!
# Requests that reach a checkout handler

FastAPI decides from the annotation and the default of each parameter where its value is taken
from.  What annotations and defaults denote is given (`FastApi`); the rules that follow from it are
`FastApi.meaning`.  A request with the three bound fields reaches the body of the handler if it
meets every parameter, the dependencies that are declared beside the handler, and every read of a
payload that the handler makes on every run (`ReachesBody`).

`checkoutBinding_iff` says what this takes beyond the recognized spelling: only parameters and reads
that are not what they are spelled as have to be met on their own.
-/

namespace StateGuard

open Python Checks

/-! ## The rules of parameters -/

/-- Where FastAPI takes a value from. -/
inductive FieldLocation where
  | path | query | header | cookie | body | form
  deriving DecidableEq, Repr

/-- A value that is taken from a request. -/
structure RequestField where
  location : FieldLocation
  name : String
  required : Bool
  /-- Whether the text of a checkout field is accepted. -/
  accepts : Bool
  deriving DecidableEq, Repr

/-- What `Query`, `Form`, `Depends` and the like say of a parameter. -/
inductive Marker where
  | field (location : FieldLocation) (name : Option String) (required : Bool)
  | dependency (fields : List RequestField)
  deriving DecidableEq

/-- What a parameter is annotated with. -/
inductive AnnotationKind where
  /-- `Request` and the other classes that FastAPI fills in itself. -/
  | special
  | scalar (accepts : Bool)
  /-- A model, with its required fields. -/
  | model (fields : List String)
  deriving DecidableEq

/-- What a handler's annotations and defaults denote, and what is declared beside the handler. -/
structure FastApi where
  annotation : Option Expr → AnnotationKind
  /-- The marker in an `Annotated` annotation. -/
  annotated : Option Expr → Option Marker
  /-- The marker that a default evaluates to. -/
  marker : Expr → Option Marker
  pathNames : List String
  /-- What the dependencies of the route and of its routers take from the request. -/
  declared : List RequestField

/-- What FastAPI takes for a parameter. -/
inductive ParameterMeaning where
  | provided
  | dependency (fields : List RequestField)
  | field (field : RequestField)
  /-- The whole JSON body, as a model. -/
  | wholeBody (required : Bool) (fields : List String)
  deriving DecidableEq

/-- The parameters of a handler, with those that take what is left over. -/
def handlerParameters (function : FunctionDef) : List (Arg × Option Expr) :=
  parameterDefaults function ++
    (function.args.vararg.toList ++ function.args.kwarg.toList).map fun a => (a, none)

namespace FastApi

variable (api : FastApi)

/-- Whether a text is accepted for a parameter. -/
def accepts (argument : Arg) : Bool :=
  match api.annotation argument.annotation with
  | .scalar accepts => accepts
  | .special | .model _ => false

/-- The marker of a parameter: that of its annotation, or that of its default. -/
def markerOf (parameter : Arg × Option Expr) : Option Marker :=
  match api.annotated (Arg.annotation parameter.1) with
  | some marker => some marker
  | none => parameter.2.bind api.marker

/-- Whether a parameter takes its value from the body. -/
def fromBody (parameter : Arg × Option Expr) : Bool :=
  match api.markerOf parameter with
  | some (.field location _ _) => location = .body || location = .form
  | some (.dependency _) => false
  | none =>
    match api.annotation (Arg.annotation parameter.1) with
    | .model _ => parameter.1.arg ∉ api.pathNames
    | .special | .scalar _ => false

/-- What a parameter of a handler means.  A model that is the only parameter from the body is the
whole body; beside others it is one of its fields. -/
def meaning (parameters : List (Arg × Option Expr)) (parameter : Arg × Option Expr) :
    ParameterMeaning :=
  let name := parameter.1.arg
  let accepts := api.accepts parameter.1
  match api.markerOf parameter with
  | some (.dependency fields) => .dependency fields
  | some (.field location spelled required) =>
    .field ⟨location, spelled.getD name, required, accepts⟩
  | none =>
    match api.annotation (Arg.annotation parameter.1) with
    | .special => .provided
    | .scalar _ =>
      if name ∈ api.pathNames then .field ⟨.path, name, true, accepts⟩
      else .field ⟨.query, name, parameter.2.isNone, accepts⟩
    | .model fields =>
      if (parameters.filter api.fromBody).length = 1 then .wholeBody parameter.2.isNone fields
      else .field ⟨.body, name, parameter.2.isNone, accepts⟩

end FastApi

/-! ## Requests -/

/-- Where the fields of a transport are. -/
def CheckoutRequestTransport.location : CheckoutRequestTransport → FieldLocation
  | .json => .body
  | .formUrlencoded => .form
  | .query => .query

namespace CheckoutRequestBinding

variable (binding : CheckoutRequestBinding)

/-- The request with exactly the bound fields carries a name at a location. -/
def Carries (location : FieldLocation) (name : String) : Prop :=
  location = binding.transport.location ∧ name ∈ binding.fields.map (·.requestName)

/-- The request meets a field: what it carries is accepted, and nothing is missing.  The values in
the path come with the route. -/
def MeetsField (field : RequestField) : Prop :=
  field.location = .path ∨
    (binding.Carries field.location field.name ∧ field.accepts = true) ∨
    (¬ binding.Carries field.location field.name ∧ field.required = false)

/-- The request meets a parameter. -/
def Meets : ParameterMeaning → Prop
  | .provided => True
  | .dependency fields => ∀ field ∈ fields, binding.MeetsField field
  | .field field => binding.MeetsField field
  | .wholeBody required fields =>
    (binding.transport = .json ∧ ∀ name ∈ fields, name ∈ binding.fields.map (·.requestName)) ∨
      binding.transport ≠ .json ∧ required = false

end CheckoutRequestBinding

/-! ## Reads of payloads -/

/-- An expression denotes a payload that was parsed for a transport: a call that parses it, or a
name that is assigned one. -/
inductive DenotesPayload (model : FunctionControlModel) :
    Expr → CheckoutRequestTransport → Prop where
  | parsed {e transport} (parses : payloadTransport e = some transport) :
      DenotesPayload model e transport
  | name {info name s value transport} (assigned : .stmt s ∈ model.nodes)
      (has : (assignment s).2 = some value) (parses : payloadTransport value = some transport)
      (target : name ∈ targetNames (assignment s).1) :
      DenotesPayload model (.name info name true) transport

/-- A handler reads a key of a payload. -/
structure ReadsPayload (model : FunctionControlModel) (read base slice : Expr)
    (transport : CheckoutRequestTransport) : Prop where
  mem : .expr read ∈ model.nodes
  form : ∃ info, read = .subscript info base slice
  payload : DenotesPayload model base transport

/-- The request has the key that is read. -/
def HasKey (binding : CheckoutRequestBinding) (transport : CheckoutRequestTransport)
    (slice : Expr) : Prop :=
  ∃ info key, slice = .constant info (.text key) ∧ binding.Carries transport.location key

section

variable (text : BuildText) (api : FastApi) (always : Expr → Prop) (model : FunctionControlModel)
  (binding : CheckoutRequestBinding)

/-- A request with exactly the bound fields reaches the body of the handler, and every payload that
is read on every run has its key. -/
structure ReachesBody : Prop where
  parameters : ∀ parameter ∈ handlerParameters model.function,
    binding.Meets (api.meaning (handlerParameters model.function) parameter)
  declared : ∀ field ∈ api.declared, binding.MeetsField field
  reads : ∀ read base slice transport, ReadsPayload model read base slice transport →
    always read → HasKey binding transport slice

/-! ## What is spelled -/

/-- A parameter means what it is spelled as: a bound field is taken from its place, a parameter
annotated as a request is provided, one with a default that says nothing else is optional, and the
others are required.  Those that take what is left over are not read at all. -/
def MeansAsSpelled (parameter : Arg × Option Expr) : Prop :=
  let meaning := api.meaning (handlerParameters model.function) parameter
  parameter ∈ parameterDefaults model.function ∧
  if manualTransports text model = [] ∧ parameter.1.arg ∈ canonicalFields then
    ∃ spelled, checkoutField (parameterDefaults model.function) parameter.1.arg = some spelled ∧
      ∃ required, meaning =
        .field ⟨spelled.1.location, spelled.2.requestName, required, true⟩
  else if frameworkProvidedParameter parameter.1 then meaning = .provided
  else if unsupportedRequiredParameter parameter.2 then
    ∃ field, meaning = .field field ∧ field.required = true
  else ∃ field, meaning = .field field ∧ field.required = false ∧
    ¬ binding.Carries field.location field.name

/-- A read is what it is spelled as: it reads a payload that was recognized, for its transport, and
its key is written as it is compared. -/
def ReadsAsSpelled (base slice : Expr) (transport : CheckoutRequestTransport) : Prop :=
  ∃ info name n key info', base = .name info name true ∧ n ∈ model.nodes ∧
    parsedPayload n = some (name, transport) ∧ readsCanonical text model name = true ∧
      slice = .constant info' (.text key) ∧ text.fold key = key

end

/-! ## What a binding says -/

section

variable {text : BuildText} {model : FunctionControlModel} {binding : CheckoutRequestBinding}

/-- A result of each item, where all items have one. -/
theorem mem_of_mapM_eq_some {α β : Type} {f : α → Option β} {items : List α} {results : List β}
    (h : items.mapM f = some results) {item : α} (hitem : item ∈ items) :
    ∃ result ∈ results, f item = some result := by
  induction items generalizing results with
  | nil => cases hitem
  | cons first rest ih =>
    rw [List.mapM_cons] at h
    cases hfirst : f first with
    | none => simp [hfirst] at h
    | some result =>
      cases hrest : rest.mapM f with
      | none => simp [hfirst, hrest] at h
      | some others =>
        have hresults : result :: others = results := by simpa [hfirst, hrest] using h
        subst hresults
        rcases List.mem_cons.1 hitem with rfl | hitem
        · exact ⟨result, List.mem_cons_self, hfirst⟩
        · obtain ⟨other, hother, heq⟩ := ih hrest hitem
          exact ⟨other, List.mem_cons_of_mem _ hother, heq⟩

theorem validate_eq_ok {binding binding' : CheckoutRequestBinding}
    (h : binding.validate = .ok binding') : binding' = binding := by
  simp only [CheckoutRequestBinding.validate] at h
  split at h
  next => cases h
  next =>
    split at h
    next => cases h
    next => exact (Except.ok.inj h).symm

/-- A binding comes of one payload that is parsed by hand, or of the three parameters. -/
theorem checkoutRequestBinding_spec
    (h : checkoutRequestBinding text model = .ok (some binding)) :
    (∃ transport, manualTransports text model = [transport] ∧
      hasUnsupportedRequiredParameters (parameterDefaults model.function) [] = false ∧
        binding = ⟨transport, canonicalFields.map fun name => ⟨name, name⟩⟩) ∨
    (manualTransports text model = [] ∧
      hasUnsupportedRequiredParameters (parameterDefaults model.function) canonicalFields = false ∧
        ∀ name ∈ canonicalFields, ∀ spelled,
          checkoutField (parameterDefaults model.function) name = some spelled →
            spelled.1 = binding.transport ∧ spelled.2 ∈ binding.fields) := by
  simp only [checkoutRequestBinding] at h
  split at h
  next => cases h
  next transport hmanual =>
    split at h
    next => cases h
    next hsupported =>
      obtain ⟨checked, hchecked, hreturned⟩ := (bind_eq_ok _ _ _).1 h
      cases hreturned
      exact Or.inl ⟨transport, hmanual, by simpa using hsupported, validate_eq_ok hchecked⟩
  next hmanual =>
    split at h
    next => cases h
    next =>
      split at h
      next => cases h
      next hsupported =>
        split at h
        next transport first rest hfields =>
          split at h
          next hsame =>
            obtain ⟨checked, hchecked, hreturned⟩ := (bind_eq_ok _ _ _).1 h
            cases hreturned
            rw [validate_eq_ok hchecked]
            refine Or.inr ⟨hmanual, by simpa using hsupported, ?_⟩
            intro name hname spelled hspelled
            obtain ⟨result, hresult, heq⟩ := mem_of_mapM_eq_some hfields hname
            cases hspelled.symm.trans heq
            rcases List.mem_cons.1 hresult with rfl | hrest
            · exact ⟨rfl, List.mem_cons_self⟩
            · exact ⟨by simpa using List.all_eq_true.1 hsame _ hrest,
                List.mem_cons_of_mem _ (List.mem_map.2 ⟨_, hrest, rfl⟩)⟩
          next => cases h
        next => cases h

/-- A parameter that means what it is spelled as is met. -/
theorem meets_of_meansAsSpelled {api : FastApi}
    (h : checkoutRequestBinding text model = .ok (some binding)) {parameter : Arg × Option Expr}
    (spelled : MeansAsSpelled text api model binding parameter) :
    binding.Meets (api.meaning (handlerParameters model.function) parameter) := by
  obtain ⟨hparameter, spelled⟩ := spelled
  -- a parameter that is not supported is none of the others
  have hothers : ∀ names, hasUnsupportedRequiredParameters (parameterDefaults model.function)
      names = false → parameter.1.arg ∉ names →
        frameworkProvidedParameter parameter.1 = false →
          unsupportedRequiredParameter parameter.2 = false := by
    intro names hnone hname hprovided
    by_contra hunsupported
    rw [Bool.not_eq_false] at hunsupported
    have hany : hasUnsupportedRequiredParameters (parameterDefaults model.function) names =
        true := List.any_eq_true.2 ⟨parameter, hparameter, by simp [hname, hprovided, hunsupported]⟩
    rw [hnone] at hany
    cases hany
  split at spelled
  next hcanonical =>
    obtain ⟨field, hfield, required, hmeaning⟩ := spelled
    rcases checkoutRequestBinding_spec h with ⟨_, hmanual, -, -⟩ | ⟨-, -, hfields⟩
    · rw [hcanonical.1] at hmanual
      cases hmanual
    · obtain ⟨htransport, hmem⟩ := hfields _ hcanonical.2 field hfield
      rw [hmeaning]
      have hlocation := congrArg CheckoutRequestTransport.location htransport
      exact Or.inr (Or.inl ⟨⟨hlocation, List.mem_map.2 ⟨_, hmem, rfl⟩⟩, rfl⟩)
  next hcanonical =>
    split at spelled
    next =>
      rw [spelled]
      trivial
    next hprovided =>
      split at spelled
      next hrequired =>
        have hsupported : unsupportedRequiredParameter parameter.2 = false := by
          rcases checkoutRequestBinding_spec h with ⟨_, -, hnone, -⟩ | ⟨hmanual, hnone, -⟩
          · exact hothers [] hnone List.not_mem_nil (by simpa using hprovided)
          · exact hothers canonicalFields hnone (fun hin => hcanonical ⟨hmanual, hin⟩)
              (by simpa using hprovided)
        rw [hsupported] at hrequired
        cases hrequired
      next =>
        obtain ⟨field, hmeaning, hoptional, hcarried⟩ := spelled
        rw [hmeaning]
        exact Or.inr (Or.inr ⟨hcarried, hoptional⟩)

/-- The key of a subscript of a recognized payload, written as it is compared, is observed. -/
theorem mem_observed (tree : ParsedTree model) {info : NodeInfo} {name : String} {slice : Expr}
    {read : Expr} (hread : .expr read ∈ model.nodes)
    (hform : ∃ info', read = .subscript info' (.name info name true) slice) {observed : List String}
    (hkeys : manualPayloadKeys text model name = some observed) {info' : NodeInfo} {key : String}
    (hslice : slice = .constant info' (.text key)) (hfold : text.fold key = key) :
    key ∈ observed := by
  obtain ⟨outer, rfl⟩ := hform
  have hbase : Node.expr (.name info name true) ∈
      (Node.expr (.subscript outer (.name info name true) slice)).children := List.mem_cons_self
  have hin := mem_walk_child hread hbase
  have hparent : parentOf model info =
      some (.expr (.subscript outer (.name info name true) slice)) :=
    parentOf_eq tree hread hbase
  have huse : info ∈ usesOf model name :=
    List.mem_filterMap.2 ⟨_, hin, by simp⟩
  rw [manualPayloadKeys, Option.map_eq_some_iff] at hkeys
  obtain ⟨results, hresults, rfl⟩ := hkeys
  obtain ⟨result, hresult, heq⟩ := mem_of_mapM_eq_some hresults huse
  have hkey : payloadKey text model info = some (some key) := by
    simp [payloadKey, hparent, hslice, stringKey, Expr.info, hfold]
  rw [hkey] at heq
  cases heq
  exact List.mem_filterMap.2 ⟨_, hresult, rfl⟩

/-- A read that is what it is spelled as reads a bound field. -/
theorem hasKey_of_readsAsSpelled (tree : ParsedTree model)
    (h : checkoutRequestBinding text model = .ok (some binding)) {read base slice : Expr}
    {transport : CheckoutRequestTransport} (hread : ReadsPayload model read base slice transport)
    (spelled : ReadsAsSpelled text model base slice transport) :
    HasKey binding transport slice := by
  obtain ⟨info, name, n, key, info', rfl, hn, hparsed, hcanonical, hslice, hfold⟩ := spelled
  have hmanual : transport ∈ manualTransports text model :=
    List.mem_filterMap.2 ⟨(name, transport), List.mem_filterMap.2 ⟨n, hn, hparsed⟩,
      by simp [hcanonical]⟩
  rcases checkoutRequestBinding_spec h with ⟨only, honly, -, rfl⟩ | ⟨hnone, -, -⟩
  · rw [honly, List.mem_singleton] at hmanual
    subst hmanual
    unfold readsCanonical at hcanonical
    split at hcanonical
    next => cases hcanonical
    next observed hkeys =>
      have hobserved := mem_observed tree hread.mem hread.form hkeys hslice hfold
      rw [Bool.and_eq_true] at hcanonical
      have hkey : key ∈ canonicalFields := by
        simpa using List.all_eq_true.1 hcanonical.1 key hobserved
      refine ⟨info', key, hslice, rfl, ?_⟩
      simpa using hkey
  · rw [hnone] at hmanual
    cases hmanual

/-- A request with exactly the bound fields reaches the body of a handler with a binding exactly if
it meets what is not what it is spelled as: parameters that FastAPI takes otherwise, dependencies
that are declared beside the handler, and reads of payloads other than the recognized ones. -/
theorem checkoutBinding_iff (tree : ParsedTree model) (api : FastApi) (always : Expr → Prop)
    (h : checkoutRequestBinding text model = .ok (some binding)) :
    ReachesBody api always model binding ↔
      (∀ parameter ∈ handlerParameters model.function,
        ¬ MeansAsSpelled text api model binding parameter →
          binding.Meets (api.meaning (handlerParameters model.function) parameter)) ∧
      (∀ field ∈ api.declared, binding.MeetsField field) ∧
      ∀ read base slice transport, ReadsPayload model read base slice transport → always read →
        ¬ ReadsAsSpelled text model base slice transport → HasKey binding transport slice := by
  constructor
  · intro reaches
    exact ⟨fun parameter hparameter _ => reaches.parameters parameter hparameter, reaches.declared,
      fun read base slice transport hread halways _ =>
        reaches.reads read base slice transport hread halways⟩
  · rintro ⟨hparameters, hdeclared, hreads⟩
    refine ⟨fun parameter hparameter => ?_, hdeclared,
      fun read base slice transport hread halways => ?_⟩
    · by_cases hspelled : MeansAsSpelled text api model binding parameter
      · exact meets_of_meansAsSpelled h hspelled
      · exact hparameters parameter hparameter hspelled
    · by_cases hspelled : ReadsAsSpelled text model base slice transport
      · exact hasKey_of_readsAsSpelled tree h hread hspelled
      · exact hreads read base slice transport hread halways hspelled

end

/-! ## A handler with a model -/

namespace CallbackHandler

def parameter (identity : Nat) (name annotation : String) : Arg :=
  ⟨node identity 1, name, some (named (identity + 1) 1 annotation)⟩

/-- A handler with the three fields, after a parameter with the given annotation. -/
def handler ( annotation : String) : FunctionControlModel where
  symbol := ⟨"callback", "file", "callback", .asyncFunction, ⟨"main.py", 1, 0, 1, 0⟩⟩
  function := ⟨node 1 1, true, "callback",
    { noArguments with
      args := [parameter 10 "request" annotation, parameter 12 "razorpay_payment_id" "str",
        parameter 14 "razorpay_order_id" "str", parameter 16 "razorpay_signature" "str"] },
    [.plain (node 2 2) (.other "Pass") []], [], none⟩
  module := ⟨"main.py", Dict.empty, []⟩
  nameOrigins := Dict.empty
  distinctNodes := List.nodup_singleton _

def binding : CheckoutRequestBinding :=
  ⟨.query, canonicalFields.map fun name => ⟨name, name⟩⟩

/-- `Request` is FastAPI's, and `CheckoutRequest` is a model with the three fields. -/
def api : FastApi where
  annotation := fun e =>
    match e.bind referenceFor with
    | some "Request" => .special
    | some "CheckoutRequest" => .model canonicalFields
    | _ => .scalar true
  annotated := fun _ => none
  marker := fun _ => none
  pathNames := []
  declared := []

theorem tree : ParsedTree (handler "Request") := by
  have hcalls : (handler "Request").calls = [] := rfl
  exact .of_nodup (by decide) (by decide) (by rw [hcalls]; intro _ h; cases h)

/-- A subscript, such as a read of a payload. -/
def isSubscript : Node → Bool
  | .expr (.subscript ..) => true
  | _ => false

/-- The handlers read no payload. -/
theorem no_reads ( annotation : String) {read base slice : Expr}
    {transport : CheckoutRequestTransport} :
    ¬ ReadsPayload (handler annotation) read base slice transport := by
  rintro ⟨hmem, ⟨info, rfl⟩, -⟩
  have hnodes : (handler annotation).nodes.any isSubscript = false := rfl
  rw [List.any_eq_false] at hnodes
  exact hnodes _ hmem rfl

theorem meansAsSpelled : ∀ parameter ∈ handlerParameters (handler "Request").function,
    MeansAsSpelled plainText api (handler "Request") binding parameter := by
  have hmanual : manualTransports plainText (handler "Request") = [] := by decide
  intro parameter hparameter
  refine ⟨hparameter, ?_⟩
  rcases List.mem_cons.1 hparameter with rfl | hparameter
  · rw [if_neg (by decide), if_pos (by decide)]
    rfl
  · have hcanonical : parameter.1.arg ∈ canonicalFields ∧
        ∃ spelled, checkoutField (parameterDefaults (handler "Request").function)
            parameter.1.arg = some spelled ∧
          ∃ required, api.meaning (handlerParameters (handler "Request").function) parameter =
            .field ⟨spelled.1.location, spelled.2.requestName, required, true⟩ := by
      rcases List.mem_cons.1 hparameter with rfl | hparameter
      · exact ⟨by decide, _, rfl, true, rfl⟩
      · rcases List.mem_cons.1 hparameter with rfl | hparameter
        · exact ⟨by decide, _, rfl, true, rfl⟩
        · rw [List.mem_singleton.1 hparameter]
          exact ⟨by decide, _, rfl, true, rfl⟩
    rw [if_pos ⟨hmanual, hcanonical.1⟩]
    exact hcanonical.2

end CallbackHandler

open CallbackHandler in
/-- A request with the three fields reaches the handler that is given its request. -/
theorem requestHandler_reached :
    ReachesBody api (fun _ => True) (handler "Request") binding :=
  (checkoutBinding_iff tree api (fun _ => True) (by decide)).2
    ⟨fun parameter hparameter hnot => absurd (meansAsSpelled parameter hparameter) hnot,
      fun _ h => absurd h List.not_mem_nil, fun _ _ _ _ hread => absurd hread (no_reads "Request")⟩

open CallbackHandler in
/-- A model whose name ends as that of a request is not provided: the request has no body for it. -/
theorem modelHandler_unreached :
    checkoutRequestBinding plainText (handler "CheckoutRequest") = .ok (some binding) ∧
      ¬ ReachesBody api (fun _ => True) (handler "CheckoutRequest") binding := by
  refine ⟨by decide, fun reaches => ?_⟩
  have hmeets := reaches.parameters (parameter 10 "request" "CheckoutRequest", none)
    List.mem_cons_self
  have hmeaning : api.meaning (handlerParameters (handler "CheckoutRequest").function)
      (parameter 10 "request" "CheckoutRequest", none) = .wholeBody true canonicalFields := by
    decide
  rw [hmeaning] at hmeets
  rcases hmeets with ⟨hjson, -⟩ | ⟨-, hoptional⟩
  · cases hjson
  · cases hoptional

end StateGuard
