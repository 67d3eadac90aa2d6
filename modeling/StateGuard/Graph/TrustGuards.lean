import StateGuard.Graph.Service
import StateGuard.Python.Certainty

/-!
# What a trust gate guards

The graph lets a verification guard a statement when it dominates it structurally.  Here it is
compared with what executions do: `VerifiedBefore` says that every execution of a function that
enters a statement has had the verification report success before, and `PerformedIn` follows a
verification through a chain of calls into a helper.

The conditions are read off the code by the must-analysis: the verification is certain before
the statement (`certainBefore`), and along a chain every next call, and at its end the
verification, is certain whenever the function ends normally (`certainThrough`).
-/

namespace StateGuard

open Python

/-! ## Reports of a verification -/

namespace Verification

/-- The events in which a verification reports success: the arm of the comparison is chosen, or
the call is evaluated and nothing was raised. -/
def Reports : Verification → Event → Prop
  | .comparison gate arm, .decided s chosen => s.info.identity = gate ∧ chosen = arm
  | .call identity, .evaluated _ calls => identity ∈ calls
  | _, _ => False

/-- The statements whose expressions certainly evaluate the call. -/
def headMarks : Verification → Stmt → Bool
  | .call identity, s => identity ∈ s.strictCalls
  | .comparison .., _ => false

/-- The arm of the comparison. -/
def armMarks : Verification → Stmt → Arm → Bool
  | .comparison gate arm, s, chosen => s.info.identity = gate && chosen = arm
  | .call _, _, _ => false

theorem marksCertain (verification : Verification) :
    MarksCertain verification.Reports verification.headMarks verification.armMarks where
  head := by
    intro s calls marked strict
    cases verification with
    | comparison gate arm => cases marked
    | call call => exact strict (of_decide_eq_true marked)
  arm := by
    intro s arm marked
    cases verification with
    | comparison gate arm' =>
      obtain ⟨gate, same⟩ := Bool.and_eq_true_iff.mp marked
      exact ⟨of_decide_eq_true gate, of_decide_eq_true same⟩
    | call call => cases marked

end Verification

section

variable (suppresses : Expr → Bool)

/-- The must-analysis lists a statement only as one before which the verification is certain. -/
def certainBefore (function : FunctionDef) (target : Stmt) (verification : Verification) : Bool :=
  (Stmt.entriesAll suppresses verification.headMarks verification.armMarks false
    function.body).all fun entry => entry.1.info.identity ≠ target.info.identity || entry.2

/-- The verification is certain whenever the function ends normally. -/
def certainAfter (function : FunctionDef) (verification : Verification) : Bool :=
  let known := Stmt.knownAll suppresses verification.headMarks verification.armMarks false
    function.body
  known.completes && known.returns

/-- Every execution that enters a statement has had the verification report success before. -/
def VerifiedBefore (function : FunctionDef) (target : Stmt) (verification : Verification) : Prop :=
  ∀ reads events exit, Runs reads suppresses [] (.block function.body) events exit →
    ∀ before s choices after, events = before ++ .entered s choices :: after →
      s.info.identity = target.info.identity → Marked verification.Reports before

variable {suppresses}

theorem verifiedBefore_of_certain {function : FunctionDef} {target : Stmt}
    {verification : Verification}
    (certain : certainBefore suppresses function target verification = true) :
    VerifiedBefore suppresses function target verification := by
  intro reads events exit runs before s choices after split same
  have covered := runs.covered verification.marksCertain false
  obtain ⟨isCertain, listed, holds⟩ := covered.atEntry before s choices after split
  have known := List.all_eq_true.mp certain (s, isCertain) listed
  rw [Bool.or_eq_true_iff] at known
  rcases known with elsewhere | known
  · exact absurd same (of_decide_eq_true elsewhere)
  · exact (holds known).resolve_left Bool.false_ne_true

theorem marked_of_certainAfter {function : FunctionDef} {verification : Verification}
    (certain : certainAfter suppresses function verification = true) {reads : Expr → Bool}
    {events : List Event} {exit : Exit}
    (runs : Runs reads suppresses [] (.block function.body) events exit)
    (normal : exit = .completes ∨ exit = .returns) : Marked verification.Reports events := by
  have covered := runs.covered verification.marksCertain false
  obtain ⟨completes, returns⟩ := Bool.and_eq_true_iff.mp certain
  refine (covered.atExit ?_).resolve_left Bool.false_ne_true
  rcases normal with rfl | rfl
  · exact completes
  · exact returns

end

/-! ## Within a function -/

section Example

/-- A node on a line. -/
def node (identity line : Nat) : NodeInfo := ⟨identity, line, 0, line, 0⟩

/-- A name that is read. -/
def named (identity line : Nat) (id : String) : Expr := .name (node identity line) id true

/-- A string literal. -/
def literal (identity line : Nat) (value : String) : Expr :=
  .constant (node identity line) (.text value)

/-- A name with an attribute. -/
def member (identity line : Nat) (id attr : String) : Expr :=
  .attribute (node identity line) (named (identity + 1) line id) attr

/-- `name = value`. -/
def assignTo (identity line : Nat) (id : String) (value : Expr) : Stmt :=
  .assign (node identity line) [.name (node (identity + 1) line) id false] value

/-- `await request.method()`. -/
def awaitRequest (identity line : Nat) (method : String) : Expr :=
  .await (node identity line) (.call (node (identity + 1) line)
    (member (identity + 2) line "request" method) [] [])

/-- `request.headers[name]`. -/
def header (identity line : Nat) (name : String) : Expr :=
  .subscript (node identity line) (member (identity + 1) line "request" "headers")
    (literal (identity + 3) line name)

/-- `payload["event"]`. -/
def eventOfPayload (identity line : Nat) : Expr :=
  .subscript (node identity line) (named (identity + 1) line "payload")
    (literal (identity + 2) line "event")

/-- `ORDERS["last"] = payload["event"]`. -/
def recordEvent (identity line : Nat) : Stmt :=
  .assign (node identity line)
    [.subscript (node (identity + 1) line) (named (identity + 2) line "ORDERS")
      (literal (identity + 3) line "last")] (eventOfPayload (identity + 4) line)

/-- `hmac.compare_digest(hmac.new(SECRET, raw, hashlib.sha256).hexdigest(), signature)`. -/
def compareSignature (identity line : Nat) : Expr :=
  .call (node identity line) (member (identity + 1) line "hmac" "compare_digest")
    [.call (node (identity + 3) line)
      (.attribute (node (identity + 4) line)
        (.call (node (identity + 5) line) (member (identity + 6) line "hmac" "new")
          [named (identity + 8) line "SECRET", named (identity + 9) line "raw",
            member (identity + 10) line "hashlib" "sha256"] []) "hexdigest") [] [],
      named (identity + 12) line "signature"] []

/-- `raise HTTPException(400)`. -/
def reject (identity line : Nat) : Stmt :=
  .raise (node identity line) (some (.call (node (identity + 1) line)
    (named (identity + 2) line "HTTPException")
    [.constant (node (identity + 3) line) (.int 400)] [])) none

/-- The beginning of a webhook handler: what it reads of the request. -/
def readRequest : List Stmt :=
  [assignTo 100 2 "raw" (awaitRequest 102 2 "body"),
    assignTo 110 3 "payload" (awaitRequest 112 3 "json"),
    assignTo 120 4 "signature" (header 122 4 "x-razorpay-signature"),
    assignTo 130 5 "event_id" (header 132 5 "x-razorpay-event-id")]

/-- A coroutine of one file with a module-level `ORDERS`. -/
def coroutine (name : SymbolId) (line : Nat) (arguments : List String) (body : List Stmt)
    (distinctNodes : ((Stmt.placesAll [] body).map (·.1.info.identity)).Nodup) :
    FunctionControlModel where
  symbol := ⟨name, "file", name, .asyncFunction, ⟨"main.py", line, 0, line, 0⟩⟩
  function := ⟨node 0 line, true, name,
    { noArguments with args := arguments.map fun id => ⟨node 0 line, id, none⟩ }, body, [], none⟩
  module := ⟨"main.py", Dict.empty, ["ORDERS"]⟩
  nameOrigins := inferOrigins plainText ⟨node 0 line, true, name,
    { noArguments with args := arguments.map fun id => ⟨node 0 line, id, none⟩ }, body, [], none⟩
    ["ORDERS"]
  distinctNodes := distinctNodes

/-- A handler that records the event of a request it rejects, and of one it accepts. -/
def recordingHandler : FunctionControlModel :=
  coroutine "webhook" 1 ["request"] (readRequest ++
    [.if (node 200 6) (.unaryOp (node 201 6) .negation (compareSignature 202 6))
      [recordEvent 220 7, reject 230 8] [],
    recordEvent 240 9]) (by decide)

/-- A project of some functions. -/
def projectOf (models : List FunctionControlModel) : ParsedProject where
  function? symbolId := models.find? (·.symbol.symbolId = symbolId)
  keyed := fun _ _ found => by simpa using List.find?_some found

theorem mem_of_projectOf {models : List FunctionControlModel} {symbolId : SymbolId}
    {model : FunctionControlModel} (found : (projectOf models).function? symbolId = some model) :
    model ∈ models ∧ model.symbol.symbolId = symbolId :=
  ⟨List.mem_of_find?_eq_some found, (projectOf models).keyed symbolId model found⟩

/-- A coroutine of the index. -/
def coroutineSymbol (symbolId : SymbolId) : SymbolRecord :=
  ⟨symbolId, "file", symbolId, .asyncFunction, ⟨"main.py", 1, 0, 1, 0⟩⟩

theorem coroutineSymbols_ids (symbols : List SymbolId) :
    (symbols.map coroutineSymbol).map (·.symbolId) = symbols := by
  rw [List.map_map]
  exact List.map_id symbols

/-- An index with calls between coroutines of one file. -/
def indexOf (symbols : List SymbolId) (callSites : List CallSiteRecord)
    (distinct : symbols.Nodup) (known : ∀ call ∈ callSites, call.callerSymbolId ∈ symbols ∧
      ∀ callee ∈ call.calleeSymbolId, callee ∈ symbols) : SourceIndexArtifact where
  projectId := "project"
  sourceIndexFingerprint := "fingerprint"
  symbols := symbols.map coroutineSymbol
  callSites := callSites
  frameworkInstances := []
  appTargets := []
  routes := []
  routerIncludes := []
  completeness := .complete
  symbolsUnique := by rw [coroutineSymbols_ids]; exact distinct
  frameworksUnique := List.nodup_nil
  callSitesKnown := by rw [coroutineSymbols_ids]; exact known

/-- The route of a handler. -/
def webhookRoute (owner : SymbolId) : ReachableRoute where
  registration := ⟨"route", "app", "app", "POST", "/webhook", "/webhook"⟩
  ownerSymbolId := owner
  routeLocation := ⟨"main.py", 1, 0, 1, 0⟩
  includeLocations := []
  includeAnchors := []

/-- The index of one handler. -/
def singleIndex : SourceIndexArtifact := indexOf ["webhook"] [] (by decide) (by decide)

/-- The functions of the route of `recordingHandler`. -/
def recordingModels : List (List CallSiteRecord × FunctionControlModel) :=
  routeModels plainText (resolvedCallPaths singleIndex "webhook" (projectOf [recordingHandler]))
    (projectOf [recordingHandler])

/-- The analysis of the route of `recordingHandler`. -/
def recordingAnalysis : RouteConceptAnalysis :=
  analyzeRouteConcepts plainText (fun _ => none) (webhookRoute "webhook") singleIndex
    (projectOf [recordingHandler])

/-- The gate of `recordingHandler`. -/
def rejecting : Stmt :=
  .if (node 200 6) (.unaryOp (node 201 6) .negation (compareSignature 202 6))
    [recordEvent 220 7, reject 230 8] []

/-- A request with a wrong signature is recorded and rejected. -/
theorem recordingHandler_rejects :
    ∃ choices after, Runs (fun _ => false) (fun _ => false) []
      (.block recordingHandler.function.body)
      ((readRequest.flatMap (ran []) ++ [.entered rejecting [],
        .evaluated rejecting rejecting.strictCalls, .decided rejecting .body]) ++
        .entered (recordEvent 220 7) choices :: after) .raises := by
  have decides : Decides (fun _ => false) (.nonText true) rejecting .body := by
    simp [Decides, rejecting, Evaluates, compareSignature]
  have inside : Runs (fun _ => false) (fun _ => false) ([] ++ [⟨rejecting, .body, .nonText true⟩])
      (.block [recordEvent 220 7, reject 230 8]) _ .raises :=
    .next (.simple rfl (List.Subset.refl _)) (.stop .raises Exit.noConfusion)
  have gate : Runs (fun _ => false) (fun _ => false) [] (.block [rejecting, recordEvent 240 9]) _
      .raises := .stop (.ifBody (List.Subset.refl _) decides inside) Exit.noConfusion
  have plain : ∀ s ∈ readRequest, s.simple = true := by decide
  have whole := gate.straight plain
  refine ⟨[⟨rejecting, .body, .nonText true⟩],
    [.evaluated (recordEvent 220 7) (recordEvent 220 7).strictCalls,
      .entered (reject 230 8) [⟨rejecting, .body, .nonText true⟩]], ?_⟩
  rw [List.append_assoc]
  exact whole

end Example

/-! ## Across calls -/

section

variable (suppresses : Expr → Bool) (models : SymbolId → Option FunctionControlModel)

/-- A call runs the body of its callee: the callee is wrapped by no decorator, is no generator,
and is awaited if it is a coroutine. -/
def runsBody (caller : FunctionControlModel) (call : Expr) (callee : FunctionControlModel) : Bool :=
  callee.function.decoratorList.isEmpty &&
    (callee.nodes.all fun
      | .expr (.other _ kind _) => kind ≠ "Yield" && kind ≠ "YieldFrom"
      | _ => true) &&
    (!callee.function.async || caller.nodes.any fun
      | .expr (.await _ value) => value.info.identity = call.info.identity
      | _ => false)

/-- In the events of a function, the verification at the end of a chain of calls was performed:
the next call was evaluated, it runs the body of its callee, and however that ends normally, the
verification was performed in it. -/
def PerformedIn (verification : Verification) (caller : FunctionControlModel) :
    List CallSiteRecord → List Event → Prop
  | [], events => Marked verification.Reports events
  | callSite :: rest, events => ∃ call callee, callNode caller callSite = some call ∧
      models callSite.callee = some callee ∧ runsBody caller call callee = true ∧
      Marked (Verification.call call.info.identity).Reports events ∧
      ∀ reads events' exit, Runs reads suppresses [] (.block callee.function.body) events' exit →
        exit = .completes ∨ exit = .returns → PerformedIn verification callee rest events'

/-- Every link of a chain is certain: the first by the given check, the others whenever the
function they are in ends normally. -/
def certainThrough (verification : Verification) (caller : FunctionControlModel)
    (check : Verification → Bool) : List CallSiteRecord → Bool
  | [] => check verification
  | callSite :: rest =>
    match callNode caller callSite, models callSite.callee with
    | some call, some callee =>
      runsBody caller call callee && check (.call call.info.identity) &&
        certainThrough verification callee (certainAfter suppresses callee.function) rest
    | _, _ => false

variable {suppresses models}

/-- A chain whose links are certain is performed. -/
theorem performedIn_of_certain {verification : Verification} {path : List CallSiteRecord}
    {caller : FunctionControlModel} {check : Verification → Bool} {events : List Event}
    (checked : ∀ link, check link = true → Marked link.Reports events)
    (certain : certainThrough suppresses models verification caller check path = true) :
    PerformedIn suppresses models verification caller path events := by
  induction path generalizing caller check events with
  | nil => exact checked verification certain
  | cons callSite rest ih =>
    rw [certainThrough] at certain
    cases node : callNode caller callSite with
    | none => simp [node] at certain
    | some call =>
      cases called : models callSite.callee with
      | none => simp [node, called] at certain
      | some callee =>
        simp only [node, called, Bool.and_eq_true] at certain
        obtain ⟨⟨body, link⟩, later⟩ := certain
        refine ⟨call, callee, node, called, body, checked _ link, ?_⟩
        intro reads events' exit runs normal
        exact ih (fun link isCertain => marked_of_certainAfter isCertain runs normal) later

end

section Example

/-- A helper that compares the signature and does something about a wrong one. -/
def checkingHelper (onMismatch : Stmt)
    (distinctNodes : ((Stmt.placesAll [] [.if (node 300 20) (.unaryOp (node 301 20) .negation
      (compareSignature 302 20)) [onMismatch] []]).map (·.1.info.identity)).Nodup) :
    FunctionControlModel :=
  coroutine "check" 19 ["raw", "signature"] [.if (node 300 20) (.unaryOp (node 301 20) .negation
    (compareSignature 302 20)) [onMismatch] []] distinctNodes

/-- A helper that raises on a wrong signature. -/
def raisingHelper : FunctionControlModel := checkingHelper (reject 330 21) (by decide)

/-- `return False`. -/
def returnFalse : Stmt := .return (node 330 21) (some (.constant (node 331 21) (.bool false)))

/-- A helper that returns false on a wrong signature. -/
def returningHelper : FunctionControlModel := checkingHelper returnFalse (by decide)

/-- `await check(raw, signature)`. -/
def awaitCheck : Stmt :=
  .expr (node 140 6) (.await (node 141 6) (.call (node 142 6) (named 143 6 "check")
    [named 144 6 "raw", named 145 6 "signature"] []))

/-- A handler that lets a helper check the signature. -/
def delegatingHandler : FunctionControlModel :=
  coroutine "webhook" 1 ["request"] (readRequest ++ [awaitCheck, recordEvent 240 9]) (by decide)

/-- The call of the helper. -/
def checkCall : CallSiteRecord := ⟨"webhook", some "check", "check", ⟨"main.py", 6, 0, 6, 0⟩⟩

/-- The index of a handler and its helper. -/
def delegatingIndex : SourceIndexArtifact :=
  indexOf ["webhook", "check"] [checkCall] (by decide) (by decide)

/-- The call paths of `delegatingHandler`. -/
def delegatingPaths (project : ParsedProject) : Dict SymbolId (List CallSiteRecord) :=
  resolvedCallPaths delegatingIndex "webhook" project

/-- The analysis of the route of `delegatingHandler`. -/
def delegatingAnalysis (project : ParsedProject) : RouteConceptAnalysis :=
  analyzeRouteConcepts plainText (fun _ => none) (webhookRoute "webhook") delegatingIndex project

/-- `delegatingHandler` with a helper. -/
def delegating (helper : FunctionControlModel) : ParsedProject :=
  projectOf [delegatingHandler, helper]

/-- The models of the route of `delegatingHandler`. -/
def delegatingModels (helper : FunctionControlModel) : SymbolId → Option FunctionControlModel :=
  modelsWithForwardedOrigins plainText (delegatingPaths (delegating helper)) (delegating helper)

/-- What the helper verifies stands for the handler. -/
def helperGuards (entry : List CallSiteRecord × FunctionControlModel) (helper : FunctionControlModel)
    (fact : TrustFact) (target : RecognizedFact) : Bool :=
  guards plainText (webhookRoute "webhook") (.trust { fact with
    routeGuardContext := routeGuardContext plainText (delegatingModels helper) fact entry.1 }) target

/-- A mismatch ends `returningHelper` normally. -/
theorem returningHelper_returns :
    ∃ events, Runs (fun _ => false) (fun _ => false) [] (.block returningHelper.function.body)
      events .returns ∧ ¬ Marked (Verification.comparison 300 .orelse).Reports events := by
  have decides : Decides (fun _ => false) (.nonText true) (.if (node 300 20)
      (.unaryOp (node 301 20) .negation (compareSignature 302 20)) [returnFalse] []) .body := by
    simp [Decides, Evaluates, compareSignature]
  have returns : Runs (fun _ => false) (fun _ => false) ([] ++ [⟨.if (node 300 20)
      (.unaryOp (node 301 20) .negation (compareSignature 302 20)) [returnFalse] [], .body,
      .nonText true⟩]) (.block [returnFalse]) _ .returns :=
    .stop (.returns (List.Subset.refl _)) Exit.noConfusion
  have whole : Runs (fun _ => false) (fun _ => false) [] (.block returningHelper.function.body) _
      .returns := .stop (.ifBody (List.Subset.refl _) decides returns) Exit.noConfusion
  refine ⟨_, whole, ?_⟩
  rintro ⟨event, membership, reports⟩
  simp only [List.mem_cons, List.not_mem_nil, or_false] at membership
  rcases membership with rfl | rfl | rfl | rfl | rfl <;> simp [Verification.Reports] at reports

/-- The handler records the event whatever the helper returns. -/
theorem delegatingHandler_records :
    ∃ choices after, Runs (fun _ => false) (fun _ => false) []
      (.block delegatingHandler.function.body)
      ((readRequest ++ [awaitCheck]).flatMap (ran []) ++
        .entered (recordEvent 240 9) choices :: after) .completes := by
  have last : Runs (fun _ => false) (fun _ => false) [] (.block [recordEvent 240 9]) _ .completes :=
    .next (.simple rfl (List.Subset.refl _)) .nil
  have plain : ∀ s ∈ readRequest ++ [awaitCheck], s.simple = true := by decide
  have whole := last.straight plain
  exact ⟨[], [.evaluated (recordEvent 240 9) (recordEvent 240 9).strictCalls], whole⟩

end Example

end StateGuard
