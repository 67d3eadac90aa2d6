import StateGuard.Graph.Identity
import StateGuard.Library.Dict
import StateGuard.Python.Execution
import StateGuard.Python.Text

/-!
# Control flow of one function

The bounded analysis of one function body: every statement with the branches, exception
regions and loops around it (`collectStatements`), and the origin of the values it names
(`inferOrigins`).  A statement is identified by an anchor, the digest of its symbol, class,
shape and ordinal among the statements of one shape.

Statements of nested functions, of class bodies and of `try` statements with `except*` are not
collected.  `collectStatements_spec` says that a collected statement stands where its recorded
ancestors say, and `collected_eq_of_anchor` that an anchor names one statement, as long as the
digests do not collide.
-/

namespace StateGuard

open Python

/-! ## The facts of a function -/

inductive ValueOrigin where
  | rawWebhookBody | parsedWebhookBody | webhookSignature | webhookEventId
  | paymentEventSelector | checkoutPaymentId | clientReturnedOrderId | checkoutSignature
  | serverConfirmedOrderId | merchantStateCarrier | unconfirmedMerchantState | unknown
  deriving DecidableEq, Repr

inductive ExceptionRegionKind where
  | tryBody | exceptHandler | tryElse | finally
  deriving DecidableEq, Repr

inductive SdkBindingState where
  | razorpayClient | notRazorpayClient | ambiguous
  deriving DecidableEq, Repr

/-- A branch around a statement. -/
structure BranchContext where
  gateAnchor : String
  disposition : BranchDisposition
  deriving DecidableEq, Repr

/-- A part of a `try` statement around a statement. -/
structure ExceptionRegion where
  tryAnchor : String
  kind : ExceptionRegionKind
  handlerIndex : Option Nat
  handlersAllowContinuation : Bool
  handlersMayReturn : Bool
  finallyTerminates : Bool
  finallyMayReturn : Bool
  deriving DecidableEq, Repr

/-- A statement with what is around it. -/
structure StatementContext where
  symbolId : SymbolId
  node : Stmt
  anchor : String
  ordinal : Nat
  ancestors : List BranchContext
  exceptionRegions : List ExceptionRegion
  inLoop : Bool

/-- The position of a node; the first line is 1. -/
def NodeInfo.lineno (info : NodeInfo) : Nat := max info.line 1

/-- `location_tuple`. -/
def StatementContext.locationTuple (context : StatementContext) : Nat × Nat :=
  (NodeInfo.lineno context.node.info, context.node.info.column)

/-- The order of positions. -/
def locationBefore (a b : Nat × Nat) : Prop := a.1 < b.1 ∨ (a.1 = b.1 ∧ a.2 < b.2)

instance (a b : Nat × Nat) : Decidable (locationBefore a b) :=
  inferInstanceAs (Decidable (_ ∨ _))

/-- `source_location`. -/
def sourceLocation (path : String) (info : Option NodeInfo) : SourceLocation :=
  match info with
  | some info =>
    { path := path
      lineStart := NodeInfo.lineno info
      columnStart := info.column
      lineEnd := max info.endLine (NodeInfo.lineno info)
      columnEnd := max info.endColumn info.column }
  | none => { path := path, lineStart := 1, columnStart := 0, lineEnd := 1, columnEnd := 0 }

/-- `reference_for`: the dotted name an expression spells. -/
def referenceFor : Expr → Option String
  | .name _ id _ => some id
  | .attribute _ value attr => (referenceFor value).map fun parent => parent ++ "." ++ attr
  | _ => none

/-- The reference of an expression, or the empty text. -/
def referenceOrEmpty (e : Expr) : String := (referenceFor e).getD ""

/-- The names a node assigns. -/
def assignedNames (n : Node) : List String :=
  let targets : List Expr :=
    match n with
    | .stmt (.assign _ targets _) => targets
    | .stmt (.annAssign _ target _ _) => [target]
    | .stmt (.augAssign _ target _) => [target]
    | .expr (.namedExpr _ target _) => [target]
    | _ => []
  targets.flatMap fun target => (walk (.expr target)).filterMap fun item =>
    match item with
    | .expr (.name _ id _) => some id
    | _ => none

/-- What the top level of a module binds. -/
structure ModuleControlModel where
  path : String
  sdkBindings : Dict String SdkBindingState
  moduleStateNames : List String

/-- A call of one of the three container constructors, or a container display. -/
def isContainer : Expr → Bool
  | .dict .. | .display .. => true
  | .call _ (.name _ id _) _ _ => id = "dict" || id = "set" || id = "list"
  | _ => false

/-- The names `razorpay` is imported under. -/
def razorpayModules (body : List Stmt) : List String :=
  body.flatMap fun
    | .plain _ (.import names) _ =>
      (names.filter (·.name = "razorpay")).map fun imported => imported.asname.getD "razorpay"
    | _ => []

/-- The names `razorpay.Client` is imported under. -/
def clientConstructors (body : List Stmt) : List String :=
  body.flatMap fun
    | .plain _ (.importFrom (some "razorpay") names) _ =>
      (names.filter (·.name = "Client")).map fun imported => imported.asname.getD imported.name
    | _ => []

/-- The targets and the value of an assignment. -/
def assignment (s : Stmt) : List Expr × Option Expr :=
  match s with
  | .assign _ targets value => (targets, some value)
  | .annAssign _ target _ value => ([target], value)
  | _ => ([], none)

/-- The plain names among assignment targets. -/
def targetNames (targets : List Expr) : List String :=
  targets.filterMap fun
    | .name _ id _ => some id
    | _ => none

/-- The binding a module-level value makes. -/
def sdkBindingOf (body : List Stmt) (value : Option Expr) : SdkBindingState :=
  match value with
  | some (.call _ func _ _) =>
    let constructor := referenceFor func
    if constructor.any (· ∈ clientConstructors body) ∨
        (razorpayModules body).any (fun module => constructor = some (module ++ ".Client")) then
      .razorpayClient
    else .notRazorpayClient
  | _ => .notRazorpayClient

/-- The compound statements after which a binding is ambiguous. -/
def isBranching : Stmt → Bool
  | .if .. | .match .. | .try .. => true
  | .loop _ kind .. => kind = .for || kind = .while
  | _ => false

/-- The bindings after one module-level statement. -/
def bindStatement (body : List Stmt) (bindings : Dict String SdkBindingState) (s : Stmt) :
    Dict String SdkBindingState :=
  let assigned := assignment s
  let bound := (targetNames assigned.1).foldl
    (fun bindings name => bindings.set name (sdkBindingOf body assigned.2)) bindings
  if isBranching s then
    ((walk (.stmt s)).flatMap assignedNames).foldl (fun bindings name => bindings.set name .ambiguous)
      bound
  else bound

/-- `_module_properties`, for a parsed module. -/
def moduleControlModel (path : String) (body : List Stmt) : ModuleControlModel where
  path := path
  sdkBindings := body.foldl (bindStatement body) Dict.empty
  moduleStateNames := body.flatMap fun s =>
    let assigned := assignment s
    if assigned.2.any isContainer then targetNames assigned.1 else []

/-! ## Blocks -/

mutual

/-- Whether a statement as the last of a block ends the function. -/
def stmtTerminates : Stmt → Bool
  | .return .. | .raise .. => true
  | .if _ _ body orelse => blockTerminates body && blockTerminates orelse
  | .match _ _ cases => hasDefaultCase cases && casesTerminate cases
  | .try _ _ body handlers orelse finalbody =>
    blockTerminates finalbody ||
      ((if orelse.isEmpty then blockTerminates body else blockTerminates orelse) &&
        handlersTerminate handlers)
  | _ => false

/-- `block_terminates`. -/
def blockTerminates : List Stmt → Bool
  | [] => false
  | s :: rest => if rest.isEmpty then stmtTerminates s else blockTerminates rest

def hasDefaultCase : List MatchCase → Bool
  | [] => false
  | .mk pattern _ _ :: rest => (pattern matches .matchAny ..) || hasDefaultCase rest

def casesTerminate : List MatchCase → Bool
  | [] => true
  | .mk _ _ body :: rest => blockTerminates body && casesTerminate rest

def handlersTerminate : List Handler → Bool
  | [] => true
  | .mk _ _ body :: rest => blockTerminates body && handlersTerminate rest

end

/-- `_may_return`. -/
def mayReturn (body : List Stmt) : Bool :=
  body.any fun s => (walk (.stmt s)).any fun n => n matches .stmt (.return ..)

/-! ## Collecting the statements -/

/-- The class of a statement, as Python names it. -/
def statementClass : Stmt → String
  | .assign .. => "Assign"
  | .annAssign .. => "AnnAssign"
  | .augAssign .. => "AugAssign"
  | .expr .. => "Expr"
  | .return .. => "Return"
  | .raise .. => "Raise"
  | .if .. => "If"
  | .match .. => "Match"
  | .try _ star .. => if star then "TryStar" else "Try"
  | .loop _ .for .. => "For"
  | .loop _ .asyncFor .. => "AsyncFor"
  | .loop _ .while .. => "While"
  | .with _ async .. => if async then "AsyncWith" else "With"
  | .functionDef _ async .. => if async then "AsyncFunctionDef" else "FunctionDef"
  | .classDef .. => "ClassDef"
  | .plain _ .break _ => "Break"
  | .plain _ .continue _ => "Continue"
  | .plain _ (.import _) _ => "Import"
  | .plain _ (.importFrom ..) _ => "ImportFrom"
  | .plain _ (.other kind) _ => kind

/-- What is around the statements of a block. -/
structure Surroundings where
  ancestors : List BranchContext := []
  exceptionRegions : List ExceptionRegion := []
  inLoop : Bool := false

/-- The disposition of the arms of a statement. -/
def armDisposition : Stmt → Arm → BranchDisposition
  | .if .., .body => .matched
  | .match _ _ cases, .case index =>
    match cases[index]? with
    | some (.mk (.matchAny ..) _ _) => .defaultArm
    | _ => .matched
  | _, _ => .notMatched

section

variable (text : BuildText) (symbolId : SymbolId)

/-- How many statements of a shape were collected. -/
def shapeCount (shape : String) (collected : List StatementContext) : Nat :=
  collected.countP fun context => text.dump context.node = shape

/-- The components an anchor digests. -/
def anchorKey (s : Stmt) (ordinal : Nat) : List String :=
  [symbolId, statementClass s, text.dump s, toString ordinal]

/-- The context of the next statement to collect. -/
def contextOf (around : Surroundings) (collected : List StatementContext) (s : Stmt) :
    StatementContext :=
  let ordinal := shapeCount text (text.dump s) collected
  { symbolId := symbolId
    node := s
    anchor := text.structuralAnchor (anchorKey text symbolId s ordinal)
    ordinal := ordinal
    ancestors := around.ancestors
    exceptionRegions := around.exceptionRegions
    inLoop := around.inLoop }

/-- The surroundings of an arm. -/
def Surroundings.arm (around : Surroundings) (context : StatementContext) (arm : Arm) :
    Surroundings :=
  { around with
    ancestors := around.ancestors ++ [⟨context.anchor, armDisposition context.node arm⟩] }

/-- The surroundings of a part of a `try` statement. -/
def Surroundings.region (around : Surroundings) (context : StatementContext)
    (handlers : List Handler) (finalbody : List Stmt) (kind : ExceptionRegionKind)
    (handlerIndex : Option Nat) : Surroundings :=
  { around with
    exceptionRegions := around.exceptionRegions ++
      [{ tryAnchor := context.anchor
         kind := kind
         handlerIndex := handlerIndex
         handlersAllowContinuation := handlers.any fun h => !blockTerminates h.body
         handlersMayReturn := handlers.any fun h => mayReturn h.body
         finallyTerminates := blockTerminates finalbody
         finallyMayReturn := mayReturn finalbody }] }

mutual

/-- Collect a statement and the statements in it. -/
def visitStmt (around : Surroundings) (collected : List StatementContext) :
    Stmt → List StatementContext
  | s@(.if _ _ body orelse) =>
    let context := contextOf text symbolId around collected s
    let inBody := visitBlock (around.arm context .body) (collected ++ [context]) body
    visitBlock (around.arm context .orelse) inBody orelse
  | s@(.match _ _ cases) =>
    let context := contextOf text symbolId around collected s
    visitCases around context 0 (collected ++ [context]) cases
  | s@(.try _ false body handlers orelse finalbody) =>
    let context := contextOf text symbolId around collected s
    let region := around.region context handlers finalbody
    let inBody := visitBlock (region .tryBody none) (collected ++ [context]) body
    let inHandlers := visitHandlers (fun index => region .exceptHandler (some index)) 0 inBody handlers
    let inOrelse := visitBlock (region .tryElse none) inHandlers orelse
    visitBlock (region .finally none) inOrelse finalbody
  | s@(.loop _ _ _ body orelse) =>
    let context := contextOf text symbolId around collected s
    let inBody := visitBlock { around with inLoop := true } (collected ++ [context]) body
    visitBlock around inBody orelse
  | s@(.with _ _ _ body) =>
    let context := contextOf text symbolId around collected s
    visitBlock around (collected ++ [context]) body
  | s => collected ++ [contextOf text symbolId around collected s]

/-- Collect the statements of a block in order. -/
def visitBlock (around : Surroundings) (collected : List StatementContext) :
    List Stmt → List StatementContext
  | [] => collected
  | s :: rest => visitBlock around (visitStmt around collected s) rest

def visitCases (around : Surroundings) (context : StatementContext) (index : Nat)
    (collected : List StatementContext) : List MatchCase → List StatementContext
  | [] => collected
  | .mk _ _ body :: rest =>
    visitCases around context (index + 1)
      (visitBlock (around.arm context (.case index)) collected body) rest

def visitHandlers (region : Nat → Surroundings) (index : Nat)
    (collected : List StatementContext) : List Handler → List StatementContext
  | [] => collected
  | .mk _ _ body :: rest =>
    visitHandlers region (index + 1) (visitBlock (region index) collected body) rest

end

/-- `_collect_statements`. -/
def collectStatements (body : List Stmt) : List StatementContext :=
  visitBlock text symbolId {} [] body

/-! ## What is collected -/

/-- The recorded ancestors stand for the arms around a statement. -/
def AncestorsOf (contexts : List StatementContext) (ancestors : List BranchContext)
    (choices : List Choice) : Prop :=
  List.Forall₂ (fun ancestor choice => ∃ gate ∈ contexts, gate.node = choice.gate ∧
    ancestor = ⟨gate.anchor, armDisposition choice.gate choice.arm⟩) ancestors choices

theorem AncestorsOf.mono {contexts more : List StatementContext} {ancestors : List BranchContext}
    {choices : List Choice} (of : AncestorsOf contexts ancestors choices)
    (sub : contexts ⊆ more) : AncestorsOf more ancestors choices :=
  of.imp fun _ _ ⟨gate, membership, same⟩ => ⟨gate, sub membership, same⟩

/-- Anchors digest the symbol and the ordinal among the statements of one shape. -/
structure Numbered (contexts : List StatementContext) : Prop where
  anchored : ∀ context ∈ contexts, context.symbolId = symbolId ∧
    context.anchor = text.structuralAnchor (anchorKey text symbolId context.node context.ordinal)
  below : ∀ context ∈ contexts,
    context.ordinal < shapeCount text (text.dump context.node) contexts
  distinct : (contexts.map fun context =>
    anchorKey text symbolId context.node context.ordinal).Nodup

/-- The statements of some places were collected after others. -/
structure Collects (places : List (Stmt × List Choice)) (collected result : List StatementContext) :
    Prop where
  grows : collected ⊆ result
  placed : ∀ context ∈ result, context ∈ collected ∨
    ∃ inner, (context.node, inner) ∈ places ∧ AncestorsOf result context.ancestors inner
  numbered : Numbered text symbolId collected → Numbered text symbolId result

variable {text symbolId}

theorem shapeCount_append (shape : String) (contexts more : List StatementContext) :
    shapeCount text shape (contexts ++ more) =
      shapeCount text shape contexts + shapeCount text shape more :=
  List.countP_append

theorem shapeCount_contextOf (around : Surroundings) (collected : List StatementContext)
    (s : Stmt) :
    shapeCount text (text.dump s) [contextOf text symbolId around collected s] = 1 := by
  simp [shapeCount, contextOf]

theorem Numbered.push {collected : List StatementContext}
    (numbered : Numbered text symbolId collected) (around : Surroundings) (s : Stmt) :
    Numbered text symbolId (collected ++ [contextOf text symbolId around collected s]) where
  anchored := by
    intro context membership
    rcases List.mem_append.mp membership with earlier | last
    · exact numbered.anchored context earlier
    · cases List.mem_singleton.mp last
      exact ⟨rfl, rfl⟩
  below := by
    intro context membership
    rw [shapeCount_append]
    rcases List.mem_append.mp membership with earlier | last
    · exact Nat.lt_of_lt_of_le (numbered.below context earlier) (Nat.le_add_right _ _)
    · cases List.mem_singleton.mp last
      have one : shapeCount text (text.dump s) [StateGuard.contextOf text symbolId around collected s] =
        1 := shapeCount_contextOf around collected s
      show shapeCount text (text.dump s) collected < _ + _
      simp only [contextOf] at one ⊢
      omega
  distinct := by
    rw [List.map_append]
    refine numbered.distinct.append (List.nodup_singleton _) ?_
    rw [List.map_singleton, List.disjoint_singleton]
    intro same
    obtain ⟨context, membership, key⟩ := List.mem_map.mp same
    obtain ⟨-, shape, ordinal⟩ :
        _ ∧ text.dump context.node = text.dump s ∧
          toString context.ordinal = toString (shapeCount text (text.dump s) collected) := by
      simpa [anchorKey, contextOf] using key
    have below := numbered.below context membership
    rw [shape, toString_injective ordinal] at below
    exact absurd below (Nat.lt_irrefl _)

namespace Collects

variable {places places' : List (Stmt × List Choice)}
  {collected result result' : List StatementContext}

theorem nil : Collects text symbolId places collected collected where
  grows := List.Subset.refl _
  placed := fun _ => .inl
  numbered := id

theorem widen (collects : Collects text symbolId places collected result)
    (sub : places ⊆ places') : Collects text symbolId places' collected result where
  grows := collects.grows
  placed := fun context membership => (collects.placed context membership).imp id
    fun ⟨inner, place, of⟩ => ⟨inner, sub place, of⟩
  numbered := collects.numbered

/-- One collection after another. -/
theorem append (first : Collects text symbolId places collected result)
    (later : Collects text symbolId places' result result') :
    Collects text symbolId (places ++ places') collected result' where
  grows := List.Subset.trans first.grows later.grows
  placed := by
    intro context membership
    rcases later.placed context membership with earlier | ⟨inner, place, of⟩
    · refine (first.placed context earlier).imp id fun ⟨inner, place, of⟩ => ?_
      exact ⟨inner, List.mem_append_left _ place, of.mono later.grows⟩
    · exact .inr ⟨inner, List.mem_append_right _ place, of⟩
  numbered := fun numbered => later.numbered (first.numbered numbered)

/-- The statement itself is collected first. -/
theorem push {around : Surroundings} {choices : List Choice} (s : Stmt)
    (of : AncestorsOf collected around.ancestors choices) :
    Collects text symbolId [(s, choices)] collected
      (collected ++ [contextOf text symbolId around collected s]) where
  grows := List.subset_append_left _ _
  placed := by
    intro context membership
    rcases List.mem_append.mp membership with earlier | last
    · exact .inl earlier
    · cases List.mem_singleton.mp last
      exact .inr ⟨choices, List.mem_singleton_self _, of.mono (List.subset_append_left _ _)⟩
  numbered := fun numbered => numbered.push around s

end Collects

/-- The ancestors inside an arm. -/
theorem AncestorsOf.arm {contexts : List StatementContext} {around : Surroundings}
    {choices : List Choice} (of : AncestorsOf contexts around.ancestors choices)
    {context : StatementContext} (membership : context ∈ contexts) (arm : Arm) :
    AncestorsOf contexts (around.arm context arm).ancestors (choices ++ [⟨context.node, arm⟩]) :=
  List.rel_append of (.cons ⟨context, membership, rfl, rfl⟩ .nil)

mutual

theorem visitStmt_collects (around : Surroundings) (collected : List StatementContext)
    (choices : List Choice) (of : AncestorsOf collected around.ancestors choices) (s : Stmt) :
    Collects text symbolId (s.places choices) collected
      (visitStmt text symbolId around collected s) := by
  have self : Collects text symbolId [(s, choices)] collected
    (collected ++ [contextOf text symbolId around collected s]) := Collects.push s of
  have known : contextOf text symbolId around collected s ∈
      collected ++ [contextOf text symbolId around collected s] :=
    List.mem_append_right _ (List.mem_singleton_self _)
  have inside := of.mono self.grows
  match s with
  | .if _ _ body orelse =>
    have inBody := visitBlock_collects _ _ _ (inside.arm known .body) body
    have inOrelse := visitBlock_collects _ _ _ ((inside.arm known .orelse).mono inBody.grows) orelse
    rw [visitStmt, Stmt.places]
    exact self.append (inBody.append inOrelse)
  | .match _ _ cases =>
    rw [visitStmt, Stmt.places]
    exact self.append (visitCases_collects around _ 0 _ choices inside known cases)
  | .try info false body handlers orelse finalbody =>
    let region := around.region (contextOf text symbolId around collected
      (.try info false body handlers orelse finalbody)) handlers finalbody
    have inBody := visitBlock_collects (region .tryBody none) _ choices inside body
    have inHandlers := visitHandlers_collects (fun index => region .exceptHandler (some index)) 0 _
      choices (fun _ => inside.mono inBody.grows) handlers
    have afterHandlers := inBody.append inHandlers
    have inOrelse := visitBlock_collects (region .tryElse none) _ choices
      (inside.mono afterHandlers.grows) orelse
    have afterOrelse := afterHandlers.append inOrelse
    have inFinal := visitBlock_collects (region .finally none) _ choices
      (inside.mono afterOrelse.grows) finalbody
    rw [visitStmt, Stmt.places]
    exact self.append (afterOrelse.append inFinal)
  | .loop _ _ _ body orelse =>
    have inBody := visitBlock_collects { around with inLoop := true } _ choices inside body
    have inOrelse := visitBlock_collects around _ choices (inside.mono inBody.grows) orelse
    rw [visitStmt, Stmt.places]
    exact self.append (inBody.append inOrelse)
  | .with _ _ _ body =>
    rw [visitStmt, Stmt.places]
    exact self.append (visitBlock_collects _ _ choices inside body)
  | .try _ true .. | .classDef .. | .assign .. | .annAssign .. | .augAssign .. | .expr ..
  | .return .. | .raise .. | .functionDef .. | .plain .. =>
    simp only [visitStmt]
    refine self.widen ?_
    exact List.cons_subset.mpr ⟨self_mem_places _ _, List.nil_subset _⟩

theorem visitBlock_collects (around : Surroundings) (collected : List StatementContext)
    (choices : List Choice) (of : AncestorsOf collected around.ancestors choices)
    (body : List Stmt) :
    Collects text symbolId (Stmt.placesAll choices body) collected
      (visitBlock text symbolId around collected body) := by
  match body with
  | [] => exact Collects.nil
  | s :: rest =>
    have first := visitStmt_collects around collected choices of s
    exact first.append (visitBlock_collects around _ choices (of.mono first.grows) rest)

theorem visitCases_collects (around : Surroundings) (context : StatementContext) (index : Nat)
    (collected : List StatementContext) (choices : List Choice)
    (of : AncestorsOf collected around.ancestors choices) (known : context ∈ collected)
    (cases : List MatchCase) :
    Collects text symbolId (MatchCase.placesAll choices context.node index cases) collected
      (visitCases text symbolId around context index collected cases) := by
  match cases with
  | [] => exact Collects.nil
  | .mk _ _ body :: rest =>
    have first := visitBlock_collects _ collected _ (of.arm known (.case index)) body
    exact first.append (visitCases_collects around context (index + 1) _ choices
      (of.mono first.grows) (first.grows known) rest)

theorem visitHandlers_collects (region : Nat → Surroundings) (index : Nat)
    (collected : List StatementContext) (choices : List Choice)
    (of : ∀ index, AncestorsOf collected (region index).ancestors choices)
    (handlers : List Handler) :
    Collects text symbolId (Handler.placesAll choices handlers) collected
      (visitHandlers text symbolId region index collected handlers) := by
  match handlers with
  | [] => exact Collects.nil
  | .mk _ _ body :: rest =>
    have first := visitBlock_collects _ collected choices (of index) body
    exact first.append (visitHandlers_collects region (index + 1) _ choices
      (fun index => (of index).mono first.grows) rest)

end

/-- A collected statement stands where its ancestors say. -/
theorem collectStatements_placed {body : List Stmt} {context : StatementContext}
    (membership : context ∈ collectStatements text symbolId body) :
    ∃ inner, (context.node, inner) ∈ Stmt.placesAll [] body ∧
      AncestorsOf (collectStatements text symbolId body) context.ancestors inner := by
  have collects : Collects text symbolId (Stmt.placesAll [] body) []
    (collectStatements text symbolId body) := visitBlock_collects {} [] [] .nil body
  exact (collects.placed context membership).resolve_left List.not_mem_nil

theorem collectStatements_numbered (body : List Stmt) :
    Numbered text symbolId (collectStatements text symbolId body) := by
  refine (visitBlock_collects {} [] [] .nil body).numbered ⟨?_, ?_, List.nodup_nil⟩
  · exact fun _ impossible => absurd impossible List.not_mem_nil
  · exact fun _ impossible => absurd impossible List.not_mem_nil

/-- An anchor names one statement, unless digests collide. -/
theorem Numbered.eq_of_anchor {contexts : List StatementContext}
    (numbered : Numbered text symbolId contexts) {keys : List (List String)}
    (distinct : DistinctDigests text keys) (known : ∀ context ∈ contexts,
      anchorKey text symbolId context.node context.ordinal ∈ keys)
    {a b : StatementContext} (ma : a ∈ contexts) (mb : b ∈ contexts)
    (same : a.anchor = b.anchor) : a = b := by
  rw [(numbered.anchored a ma).2, (numbered.anchored b mb).2] at same
  have key := distinct.stableId (known a ma) (known b mb) same
  exact List.inj_on_of_nodup_map numbered.distinct ma mb key

end

end StateGuard
