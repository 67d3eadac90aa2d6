import StateGuard.Graph.ControlFlow

/-!
# The model of one function

The origins of the values a function names (`inferOrigins`), the function with its collected
statements and its origins (`FunctionControlModel`), the parsed project, and the structural
relations between two statements: dominance and branch control.
-/

namespace StateGuard

open Python

/-! ## Origins -/

/-- `_root_name`. -/
def rootName : Expr → Option String
  | .attribute _ value _ => rootName value
  | .subscript _ value _ => rootName value
  | .name _ id _ => some id
  | _ => none

section

variable (text : BuildText)

/-- `string_key`. -/
def stringKey : Expr → Option String
  | .constant _ (.text value) => some (text.fold value)
  | _ => none

/-- The origin of a subscript or an attribute, from its key, its root and its base; `keyed` is
what a subscript adds when its root is a module-level container. -/
def memberOrigin (key root : Option String) (base : ValueOrigin) (moduleStateNames : List String)
    (keyed : Option ValueOrigin) : ValueOrigin :=
  let established := root.any (· ∈ moduleStateNames)
  if key = some "x-razorpay-signature" then .webhookSignature
  else if key = some "x-razorpay-event-id" then .webhookEventId
  else if key = some "razorpay_payment_id" then .checkoutPaymentId
  else if key = some "razorpay_signature" then .checkoutSignature
  else if key = some "razorpay_order_id" then
    if base = .merchantStateCarrier then .serverConfirmedOrderId
    else if base = .unconfirmedMerchantState then .unknown
    else if established then .unknown
    else .clientReturnedOrderId
  else if key = some "event" ∨ key = some "status" then .paymentEventSelector
  else if base ≠ .unknown then base
  else if established then keyed.getD .unknown
  else .unknown

/-- `_origin_for_expr`. -/
def originForExpr (origins : Dict String ValueOrigin) (moduleStateNames : List String) :
    Expr → ValueOrigin
  | .await _ value => originForExpr origins moduleStateNames value
  | .name _ id _ => (origins.get? id).getD .unknown
  | .call _ func _ _ =>
    if endsWith ".body" (referenceOrEmpty func) then .rawWebhookBody
    else if endsWith ".json" (referenceOrEmpty func) then .parsedWebhookBody
    else if endsWith ".decode" (referenceOrEmpty func) then
      match func with
      | .attribute _ value _ => originForExpr origins moduleStateNames value
      | _ => .unknown
    else .unknown
  | .subscript _ value slice =>
    let keyOrigin := originForExpr origins moduleStateNames slice
    memberOrigin (stringKey text slice) (rootName value)
      (originForExpr origins moduleStateNames value) moduleStateNames
      (some (if (slice matches .constant ..) ∨ keyOrigin = .merchantStateCarrier ∨
          keyOrigin = .serverConfirmedOrderId then .merchantStateCarrier
        else .unconfirmedMerchantState))
  | .attribute _ value attr =>
    memberOrigin (some (text.casefold attr)) (rootName value)
      (originForExpr origins moduleStateNames value) moduleStateNames none
  | _ => .unknown

/-- The parameters a call fills by position or by name. -/
def parameters (function : FunctionDef) : List Arg :=
  function.args.posonlyargs ++ function.args.args ++ function.args.kwonlyargs

/-- The origin a parameter name gives. -/
def parameterOrigin (name : String) : Option ValueOrigin :=
  let normalized := text.casefold name
  if normalized = "razorpay_payment_id" then some .checkoutPaymentId
  else if normalized = "razorpay_order_id" then some .clientReturnedOrderId
  else if normalized = "razorpay_signature" then some .checkoutSignature
  else none

/-- The assignment a node makes: its targets and its value. -/
def nodeAssignment : Node → List Expr × Option Expr
  | .stmt (.assign _ targets value) => (targets, some value)
  | .stmt (.annAssign _ target _ value) => ([target], value)
  | .expr (.namedExpr _ target value) => ([target], some value)
  | _ => ([], none)

/-- One node of a round: its plain targets get the origin of its value. -/
def assignOrigins (moduleStateNames : List String) (state : Dict String ValueOrigin × Bool)
    (n : Node) : Dict String ValueOrigin × Bool :=
  match nodeAssignment n with
  | (_, none) => state
  | (targets, some value) =>
    let origin := originForExpr text state.1 moduleStateNames value
    (targetNames targets).foldl (fun state name =>
      if state.1.get? name = some origin then state else (state.1.set name origin, true)) state

/-- At most `fuel` rounds, up to the first that changes nothing. -/
def originRounds (moduleStateNames : List String) (nodes : List Node) :
    Nat → Dict String ValueOrigin → Dict String ValueOrigin
  | 0, origins => origins
  | fuel + 1, origins =>
    let round := nodes.foldl (assignOrigins text moduleStateNames) (origins, false)
    if round.2 then originRounds moduleStateNames nodes fuel round.1 else round.1

/-- `_infer_origins`. -/
def inferOrigins (function : FunctionDef) (moduleStateNames : List String) :
    Dict String ValueOrigin :=
  let origins := (parameters function).foldl (fun origins parameter =>
    match parameterOrigin text parameter.arg with
    | some origin => origins.set parameter.arg origin
    | none => origins) Dict.empty
  originRounds text moduleStateNames (walk (.stmt function.stmt)) 4 origins

end

/-! ## Functions -/

/-- A parsed function.  The nodes of a tree are distinct objects. -/
structure FunctionControlModel where
  symbol : SymbolRecord
  function : FunctionDef
  module : ModuleControlModel
  nameOrigins : Dict String ValueOrigin
  distinctNodes : ((Stmt.placesAll [] function.body).map (·.1.info.identity)).Nodup

namespace FunctionControlModel

variable (text : BuildText) (model : FunctionControlModel)

/-- The collected statements. -/
def statements : List StatementContext :=
  collectStatements text model.symbol.symbolId model.function.body

/-- The nodes of the function. -/
def nodes : List Node := walk (.stmt model.function.stmt)

/-- The calls of the function, breadth first. -/
def calls : List Expr :=
  model.nodes.filterMap fun
    | .expr (.call info func args keywords) => some (.call info func args keywords)
    | _ => none

/-- `unsupported_exception_flow`. -/
def unsupportedExceptionFlow : Bool :=
  model.nodes.any fun
    | .stmt (.try _ star ..) => star
    | _ => false

/-- Whether a statement is a node, or has it in it. -/
def contains (s : Stmt) (info : NodeInfo) : Bool :=
  (walk (.stmt s)).any fun n => n.info?.any (·.identity = info.identity)

/-- `context_for`: the last collected statement that contains a node. -/
def contextFor (info : NodeInfo) : Option StatementContext :=
  ((model.statements text).filter fun context => contains context.node info).getLast?

/-- `expression_origin`. -/
def origin (e : Expr) : ValueOrigin :=
  originForExpr text model.nameOrigins model.module.moduleStateNames e

/-- The origin an expression a function may not have. -/
def originOf (e : Option Expr) : ValueOrigin := (e.map (model.origin text)).getD .unknown

end FunctionControlModel

/-- The parsed functions of the indexed files, under the symbols they belong to. -/
structure ParsedProject where
  function? : SymbolId → Option FunctionControlModel
  keyed : ∀ symbolId model, function? symbolId = some model → model.symbol.symbolId = symbolId

/-- `parse_indexed_functions`: the functions of the callable symbols asked for. -/
def ParsedProject.restrict (project : ParsedProject) (index : SourceIndexArtifact)
    (wanted : SymbolId → Bool) : ParsedProject where
  function? symbolId :=
    if wanted symbolId ∧ index.symbols.any (fun symbol => symbol.symbolId = symbolId ∧
        symbol.kind.callable) then project.function? symbolId else none
  keyed := by
    intro symbolId model found
    split at found
    next _ => exact project.keyed symbolId model found
    next _ => cases found

/-! ## Dominance -/

/-- The last region with a key, as a dictionary of regions holds it. -/
def regionFor (tryAnchor : String) (regions : List ExceptionRegion) : Option ExceptionRegion :=
  (regions.filter (·.tryAnchor = tryAnchor)).getLast?

/-- Whether an exception region around the source keeps it from dominating the target. -/
def regionAllows (target : StatementContext) (region : ExceptionRegion) : Bool :=
  match regionFor region.tryAnchor target.exceptionRegions with
  | some shared =>
    if region.kind = shared.kind then
      !(region.kind = .exceptHandler && region.handlerIndex != shared.handlerIndex)
    else region.kind = .tryBody && shared.kind = .tryElse
  | none =>
    match region.kind with
    | .tryBody | .tryElse => !(region.handlersAllowContinuation || region.finallyTerminates)
    | .exceptHandler => false
    | .finally => !region.finallyTerminates

/-- `context_dominates`. -/
def contextDominates (source target : StatementContext) : Bool :=
  source.symbolId = target.symbolId ∧ locationBefore source.locationTuple target.locationTuple ∧
    source.ancestors = target.ancestors.take source.ancestors.length ∧
    source.exceptionRegions.all (regionAllows target)

/-- `exception_propagates_from_function`. -/
def exceptionPropagatesFromFunction (context : StatementContext) : Bool :=
  context.exceptionRegions.all fun region =>
    region.kind ≠ .tryBody ||
      !(region.handlersAllowContinuation || region.handlersMayReturn || region.finallyMayReturn)

/-- `exception_failure_allows_continuation`. -/
def exceptionFailureAllowsContinuation (context : StatementContext) : Bool :=
  context.exceptionRegions.any fun region =>
    region.kind = .tryBody && region.handlersAllowContinuation && !region.finallyTerminates

/-- `branch_controls`: the arm of a statement another statement is in. -/
def branchControls (source target : StatementContext) : Option BranchContext :=
  if source.symbolId = target.symbolId then
    target.ancestors.find? (·.gateAnchor = source.anchor)
  else none

end StateGuard
