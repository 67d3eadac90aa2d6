import StateGuard.Graph.DirectExecution

/-!
# Checkout request bindings

A checkout handler receives its three fields as parameters, or reads them from a payload that it
parses itself.  `checkoutRequestBinding` recognises both from the spelling of the handler, and gives
the transport and the name of each field in the request.
-/

namespace StateGuard

open Python Checks

/-- The fields of a checkout callback. -/
def canonicalFields : List String :=
  ["razorpay_payment_id", "razorpay_order_id", "razorpay_signature"]

/-! ## Payloads -/

section

variable (text : BuildText) (model : FunctionControlModel)

/-- `_awaited_call`. -/
def awaitedCall : Expr → Option Expr
  | .await _ (.call info func args keywords) | .call info func args keywords =>
    some (.call info func args keywords)
  | _ => none

/-- The transport of a payload that a call parses. -/
def payloadTransport (value : Expr) : Option CheckoutRequestTransport :=
  ((awaitedCall value).bind fun call => (calleeOf call).bind referenceFor).bind fun reference =>
    if endsWith ".json" reference then some .json
    else if endsWith ".form" reference then some .formUrlencoded
    else none

/-- What one use of the payload tells: `none` if it cannot be told, and the key that it reads. -/
def payloadKey (info : NodeInfo) : Option (Option String) :=
  match parentOf model info with
  | some (.expr (.subscript _ value slice)) =>
    if value.info.identity = info.identity then (stringKey text slice).map some else none
  | some (.expr (.attribute parent value attr)) =>
    if value.info.identity = info.identity ∧ attr = "get" then
      match parentOf model parent with
      | some (.expr (.call _ func (.constant _ (.text _) :: _) _)) =>
        if func.info.identity = parent.identity then some none else none
      | _ => none
    else none
  | _ => none

/-- The uses of a name. -/
def usesOf (name : String) : List NodeInfo :=
  model.nodes.filterMap fun
    | .expr (.name info id true) => if id = name then some info else none
    | _ => none

/-- `_manual_payload_keys`. -/
def manualPayloadKeys (payloadName : String) : Option (List String) :=
  ((usesOf model payloadName).mapM (payloadKey text model)).map fun keys => keys.filterMap id

/-- The name and the transport of a payload that a statement parses. -/
def parsedPayload (n : Node) : Option (String × CheckoutRequestTransport) :=
  let assigned : List Expr × Option Expr :=
    match n with
    | .stmt s => assignment s
    | _ => ([], none)
  (assigned.2.bind payloadTransport).bind fun transport =>
    match targetNames assigned.1 with
    | [name] => some (name, transport)
    | _ => none

/-- A payload from which the three fields are read, and nothing else. -/
def readsCanonical (payloadName : String) : Bool :=
  match manualPayloadKeys text model payloadName with
  | none => false
  | some observed =>
    observed.all (· ∈ canonicalFields) && canonicalFields.all (· ∈ observed)

/-- `manual_transports`. -/
def manualTransports : List CheckoutRequestTransport :=
  (model.nodes.filterMap parsedPayload).filterMap fun payload =>
    if readsCanonical text model payload.1 then some payload.2 else none

/-! ## Parameters -/

/-- `_parameter_defaults`. -/
def parameterDefaults (function : FunctionDef) : List (Arg × Option Expr) :=
  let positional := function.args.posonlyargs ++ function.args.args
  let start := positional.length - function.args.defaults.length
  positional.zip (List.replicate start none ++ function.args.defaults.map some) ++
    function.args.kwonlyargs.zip function.args.kwDefaults

/-- `_framework_provided_parameter`. -/
def frameworkProvidedParameter (argument : Arg) : Bool :=
  ( argument.annotation.bind referenceFor).any (endsWith "Request")

/-- `_unsupported_required_parameter`. -/
def unsupportedRequiredParameter : Option Expr → Bool
  | none => true
  | some (.call _ func args _) =>
    let marker := afterLast '.' (referenceOrEmpty func)
    if marker ∈ ["Depends", "Security", "Path"] then true
    else if marker ∉ ["Body", "Cookie", "Form", "Header", "Query"] then false
    else
      match args with
      | [] => true
      | .constant _ .ellipsis :: _ => true
      | _ => false
  | some _ => false

/-- `_has_unsupported_required_parameters`. -/
def hasUnsupportedRequiredParameters (parameters : List (Arg × Option Expr))
    (supportedNames : List String) : Bool :=
  parameters.any fun parameter =>
    parameter.1.arg ∉ supportedNames && !frameworkProvidedParameter parameter.1 &&
      unsupportedRequiredParameter parameter.2

/-! ## The binding -/

/-- The transport of a field with a default, as the default is spelled. -/
def fieldTransport : Option Expr → Option CheckoutRequestTransport
  | none => some .query
  | some (.call _ func _ _) =>
    if (referenceFor func).any (endsWith "Form") then some .formUrlencoded
    else if (referenceFor func).any (endsWith "Body") then some .json
    else none
  | some _ => none

/-- The name of a field in the request. -/
def fieldAlias (name : String) (parameterDefault : Option Expr) : Option String :=
  match parameterDefault.bind (keywordOf · "alias") with
  | none => some name
  | some (.constant _ (.text spelled)) => some spelled
  | some _ => none

/-- The field of a canonical name among the parameters. -/
def checkoutField (parameters : List (Arg × Option Expr)) (name : String) :
    Option (CheckoutRequestTransport × CheckoutFieldBinding) :=
  (parameters.find? (·.1.arg = name)).bind fun parameter =>
    (fieldTransport parameter.2).bind fun transport =>
      (fieldAlias name parameter.2).map fun requestName => (transport, ⟨name, requestName⟩)

/-- The validators of a binding and its fields. -/
def CheckoutRequestBinding.validate (binding : CheckoutRequestBinding) :
    Except String CheckoutRequestBinding :=
  let names := binding.fields.map (·.requestName)
  if ¬ ∀ name ∈ names, 1 ≤ name.length ∧ name.length ≤ 128 then
    .error "request_name has a length between 1 and 128"
  else if ¬ names.Nodup then
    .error "Checkout request binding requires three unique exact fields"
  else .ok binding

/-- `_checkout_request_binding`. -/
def checkoutRequestBinding : Except String (Option CheckoutRequestBinding) :=
  let parameters := parameterDefaults model.function
  match manualTransports text model with
  | _ :: _ :: _ => .ok none
  | [transport] =>
    if hasUnsupportedRequiredParameters parameters [] then .ok none
    else do
      let binding ← CheckoutRequestBinding.validate
        ⟨transport, canonicalFields.map fun name => ⟨name, name⟩⟩
      return some binding
  | [] =>
    if ¬ canonicalFields.all fun name => parameters.any (·.1.arg = name) then .ok none
    else if hasUnsupportedRequiredParameters parameters canonicalFields then .ok none
    else
      match canonicalFields.mapM (checkoutField parameters) with
      | some ((transport, first) :: rest) =>
        if rest.all (·.1 = transport) then do
          let binding ← CheckoutRequestBinding.validate ⟨transport, first :: rest.map (·.2)⟩
          return some binding
        else .ok none
      | _ => .ok none

end

end StateGuard
