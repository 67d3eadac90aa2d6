import StateGuard.Graph.SemanticProjection
import StateGuard.Graph.TrustGuards
import StateGuard.Python.Ancestry
import StateGuard.Python.Invocations

/-!
# Calls that run their callee

`directExecutionProven` takes the first call at the position of a call site, and looks at its
parent.  `directExecution_iff` says of which call sites this proves that the body of the callee has
run when the statement is complete.
-/

namespace StateGuard

open Python

/-! ## Parsed functions -/

/-- Where a node starts. -/
def startOf (info : NodeInfo) : Nat × Nat := (NodeInfo.lineno info, info.column)

/-- A call site starts at a position. -/
def startOfSite (callSite : CallSiteRecord) : Nat × Nat :=
  (callSite.sourceLocation.lineStart, callSite.sourceLocation.columnStart)

/-- What the parser makes of a function: its nodes are distinct objects with one parent each, and
of two calls that start together one starts with the other. -/
structure ParsedTree (model : FunctionControlModel) : Prop where
  identities : ∀ first ∈ model.nodes, ∀ second ∈ model.nodes, ∀ info info',
    first.info? = some info → second.info? = some info' → info.identity = info'.identity →
      first = second
  parents : OneParent (.stmt model.function.stmt)
  starts : ∀ first ∈ model.calls, ∀ second ∈ model.calls,
    startOf first.info = startOf second.info → StartsWith first second ∨ StartsWith second first

/-- The identity of a node that is an object. -/
def identityOf (n : Node) : Option Nat := n.info?.map (·.identity)

/-- What is in the parts of two items is in those of one item, where the parts are distinct. -/
theorem eq_of_nodup_flatMap {α β : Type} {parts : α → List β} {items : List α}
    (hnodup : (items.flatMap parts).Nodup) {a b : α} (ha : a ∈ items) (hb : b ∈ items) {x : β}
    (hxa : x ∈ parts a) (hxb : x ∈ parts b) : a = b := by
  induction items with
  | nil => cases ha
  | cons first rest ih =>
    rw [List.flatMap_cons, List.nodup_append] at hnodup
    obtain ⟨-, hrest, hapart⟩ := hnodup
    have hin : ∀ {c}, c ∈ rest → x ∈ parts c → x ∈ rest.flatMap parts :=
      fun hc hx => List.mem_flatMap.2 ⟨_, hc, hx⟩
    rcases List.mem_cons.1 ha with rfl | ha' <;> rcases List.mem_cons.1 hb with rfl | hb'
    · rfl
    · exact absurd rfl (hapart x hxa x (hin hb' hxb))
    · exact absurd rfl (hapart x hxb x (hin ha' hxa))
    · exact ih hrest ha' hb'

/-- A tree whose nodes, and whose nodes' children, have identities of their own is as the parser
makes it. -/
theorem ParsedTree.of_nodup {model : FunctionControlModel}
    (hnodes : (model.nodes.flatMap fun n => (identityOf n).toList).Nodup)
    (hchildren : (model.nodes.flatMap fun n => n.children.filterMap identityOf).Nodup)
    (starts : ∀ first ∈ model.calls, ∀ second ∈ model.calls,
      startOf first.info = startOf second.info →
        StartsWith first second ∨ StartsWith second first) : ParsedTree model where
  identities := by
    intro first hfirst second hsecond info info' hinfo hinfo' heq
    refine eq_of_nodup_flatMap hnodes hfirst hsecond (x := info.identity) ?_ ?_
    · simp [identityOf, hinfo]
    · simp [identityOf, hinfo', heq]
  parents := by
    refine ⟨fun first hfirst second hsecond child hinfo hchild hchild' => ?_⟩
    obtain ⟨info, hinfo⟩ := Option.isSome_iff_exists.1 hinfo
    have hidentity : identityOf child = some info.identity := by simp [identityOf, hinfo]
    exact eq_of_nodup_flatMap hchildren hfirst hsecond
      (List.mem_filterMap.2 ⟨child, hchild, hidentity⟩)
      (List.mem_filterMap.2 ⟨child, hchild', hidentity⟩)
  starts := starts

/-- A statement holds a node in one of its own expressions. -/
def holds (s : Stmt) (e : Expr) : Prop :=
  ∃ own, .expr own ∈ (Node.stmt s).children ∧ .expr e ∈ Python.walk (.expr own)

theorem mem_calls {model : FunctionControlModel} {call : Expr} :
    call ∈ model.calls ↔ .expr call ∈ model.nodes ∧
      ∃ info func args keywords, call = .call info func args keywords := by
  simp only [FunctionControlModel.calls, List.mem_filterMap]
  constructor
  · rintro ⟨n, hn, hcall⟩
    split at hcall
    next info func args keywords =>
      cases hcall
      exact ⟨hn, info, func, args, keywords, rfl⟩
    next => cases hcall
  · rintro ⟨hn, info, func, args, keywords, rfl⟩
    exact ⟨_, hn, rfl⟩

/-! ## The call that is found -/

section

variable {model : FunctionControlModel} {callSite : CallSiteRecord} {call : Expr}

theorem callNode_spec (found : callNode model callSite = some call) :
    call ∈ model.calls ∧ startOf call.info = startOfSite callSite := by
  refine ⟨List.mem_of_find?_eq_some found, ?_⟩
  have hposition := List.find?_some found
  simp only [decide_eq_true_eq] at hposition
  exact Prod.ext hposition.1 hposition.2

/-- A child of the identity of a node is that node. -/
theorem ParsedTree.eq_of_identity (tree : ParsedTree model) {e : Expr}
    (he : .expr e ∈ model.nodes) {child : Node} (hchild : child ∈ model.nodes)
    (h : child.info?.any (·.identity = e.info.identity) = true) : child = .expr e := by
  rw [Option.any_eq_true] at h
  obtain ⟨info, hinfo, hsame⟩ := h
  exact tree.identities child hchild (.expr e) he info e.info hinfo rfl (by simpa using hsame)

/-- The parent that is found has the node among its children. -/
theorem parentOf_spec (tree : ParsedTree model) {e : Expr} (he : .expr e ∈ model.nodes)
    {parent : Node} (found : parentOf model e.info = some parent) :
    parent ∈ model.nodes ∧ .expr e ∈ parent.children := by
  have hparent : parent ∈ model.nodes := List.mem_of_find?_eq_some found
  have hany := List.find?_some found
  rw [List.any_eq_true] at hany
  obtain ⟨child, hchild, hsame⟩ := hany
  exact ⟨hparent, tree.eq_of_identity he (mem_walk_child hparent hchild) hsame ▸ hchild⟩

/-- The parent of a node is found. -/
theorem parentOf_eq (tree : ParsedTree model) {e : Expr} {parent : Node}
    (hparent : parent ∈ model.nodes) (hchild : .expr e ∈ parent.children) :
    parentOf model e.info = some parent := by
  have he : Node.expr e ∈ model.nodes := mem_walk_child hparent hchild
  cases hfound : parentOf model e.info with
  | none =>
    have hnot := List.find?_eq_none.1 hfound parent hparent
    exact absurd (List.any_eq_true.2 ⟨_, hchild, by simp [Node.info?]⟩) hnot
  | some other =>
    obtain ⟨hother, hchild'⟩ := parentOf_spec tree he hfound
    rw [tree.parents.parent other hother parent hparent (.expr e) rfl hchild' hchild]

/-- A statement that owns an expression directly has it for its value. -/
theorem value?_of_directOwner (tree : ParsedTree model) {e : Expr} (he : .expr e ∈ model.nodes)
    {parent : Node} (hparent : parent ∈ model.nodes) (howner : directOwner e.info parent = true) :
    ∃ s, parent = .stmt s ∧ s.value? = some e ∧ .expr e ∈ (Node.stmt s).children := by
  have heq : ∀ {s : Stmt} {value : Expr}, parent = .stmt s → s.value? = some value →
      .expr value ∈ (Node.stmt s).children → value.info.identity = e.info.identity →
        ∃ s, parent = .stmt s ∧ s.value? = some e ∧ .expr e ∈ (Node.stmt s).children := by
    intro s value hs hvalue hchild hsame
    have hin : Node.expr value ∈ model.nodes :=
      mem_walk_child (hs ▸ hparent : Node.stmt s ∈ model.nodes) hchild
    have hexpr : Node.expr value = .expr e :=
      tree.identities _ hin _ he value.info e.info rfl rfl hsame
    cases hexpr
    exact ⟨s, hs, hvalue, hchild⟩
  unfold directOwner at howner
  split at howner
  next info value => exact heq rfl rfl (by simp [Node.children]) (by simpa using howner)
  next info targets value => exact heq rfl rfl (by simp [Node.children]) (by simpa using howner)
  next info target annotation value =>
    obtain ⟨value, rfl, hsame⟩ := (Option.any_eq_true _ _).1 howner
    exact heq rfl rfl (by simp [Node.children]) (by simpa using hsame)
  next info value =>
    obtain ⟨value, rfl, hsame⟩ := (Option.any_eq_true _ _).1 howner
    exact heq rfl rfl (by simp [Node.children]) (by simpa using hsame)
  next => cases howner

/-- Where the parent of a call is a statement or an `await`, no other call starts with it. -/
theorem eq_of_startsWith (tree : ParsedTree model) {parent : Node}
    (hparent : parent ∈ model.nodes) (hchild : .expr call ∈ parent.children)
    (hkind : (∃ s, parent = .stmt s) ∨ ∃ info value, parent = .expr (.await info value))
    {other : Expr} (hother : .expr other ∈ model.nodes) (h : Python.StartsWith other call) :
    other = call := by
  rcases h.parent with heq | ⟨around, haround, hbelow, hawait⟩
  · exact heq
  · have hin : Node.expr around ∈ model.nodes := mem_walk_trans hother haround
    have hsame : parent = .expr around :=
      tree.parents.parent parent hparent _ hin (.expr call) rfl hchild hbelow
    rcases hkind with ⟨s, rfl⟩ | ⟨info, value, rfl⟩
    · cases hsame
    · exact absurd (Node.expr.inj hsame).symm (hawait info value)

/-- A node whose parent takes its value directly is the value of a statement. -/
theorem value?_of_owned (tree : ParsedTree model) {e : Expr} (he : .expr e ∈ model.nodes)
    (owned : (parentOf model e.info).any (directOwner e.info) = true) :
    ∃ s, .stmt s ∈ model.nodes ∧ s.value? = some e ∧ .expr e ∈ (Node.stmt s).children := by
  obtain ⟨parent, hparent, howner⟩ := (Option.any_eq_true _ _).1 owned
  have hin := (parentOf_spec tree he hparent).1
  obtain ⟨s, rfl, hvalue, hchild⟩ := value?_of_directOwner tree he hin howner
  exact ⟨s, hin, hvalue, hchild⟩

/-- The statement that a proven call site stands in: a function is called by its value, and a
coroutine function by what its value awaits. -/
theorem directExecutionProven_spec {index : SourceIndexArtifact} {project : ParsedProject}
    {symbol : SymbolRecord} (hsymbol : callSite.calleeSymbolId.bind (symbol? index) = some symbol)
    (hmodel : project.function? callSite.callerSymbolId = some model) (tree : ParsedTree model)
    (proven : directExecutionProven index project callSite = true) :
    ∃ call, callNode model callSite = some call ∧
      ∃ s value, .stmt s ∈ model.nodes ∧ s.value? = some value ∧
        .expr value ∈ (Node.stmt s).children ∧
          (symbol.kind ∈ [SymbolKind.function, .method] ∧ value = call ∨
            symbol.kind ∈ [SymbolKind.asyncFunction, .asyncMethod] ∧
              ∃ info, value = .await info call) := by
  simp only [directExecutionProven, hsymbol, hmodel] at proven
  cases hfound : callNode model callSite with
  | none => simp [hfound] at proven
  | some call =>
    have hcall : Node.expr call ∈ model.nodes := (mem_calls.1 (callNode_spec hfound).1).1
    simp only [hfound] at proven
    refine ⟨call, rfl, ?_⟩
    cases hkind : symbol.kind with
    | function | method =>
      simp only [hkind] at proven
      obtain ⟨s, hs, hvalue, hchild⟩ := value?_of_owned tree hcall proven
      exact ⟨s, call, hs, hvalue, hchild, Or.inl ⟨by decide, rfl⟩⟩
    | asyncFunction | asyncMethod =>
      simp only [hkind] at proven
      split at proven
      next info value hparent =>
        rw [Bool.and_eq_true] at proven
        obtain ⟨hin, hchild⟩ := parentOf_spec tree hcall hparent
        have hvalue : value = call := by
          rw [Node.children, List.mem_singleton] at hchild
          exact (Node.expr.inj hchild).symm
        subst hvalue
        obtain ⟨s, hs, hvalue, hchild⟩ := value?_of_owned tree hin proven.2
        exact ⟨s, .await info value, hs, hvalue, hchild, Or.inr ⟨by decide, info, rfl⟩⟩
      next => cases proven
    | classDef | module => simp [hkind] at proven

end

/-! ## What is proven -/

section

variable {model : FunctionControlModel} {callSite : CallSiteRecord} {program : Interpretation}
  {info : NodeInfo} {func : Expr} {args : List Expr} {keywords : List Keyword}

/-- No call on the way to the function of a call has its identity. -/
theorem notMem_handingCalls (tree : ParsedTree model)
    (hsite : Node.expr (.call info func args keywords) ∈ model.nodes) :
    info.identity ∉ handingCalls func := by
  intro hcall
  obtain ⟨info', func', args', keywords', heq, hin⟩ := exists_of_mem_handingCalls hcall
  have hfunc : Node.expr func ∈ (Node.expr (.call info func args keywords)).children :=
    List.mem_cons_self
  have hsame := tree.identities _ (mem_walk_trans (mem_walk_child hsite hfunc) hin) _ hsite info'
    info rfl rfl heq
  exact notMem_walk_child hfunc (hsame ▸ hin)

/-- The call of a proven call site is the outermost that starts at its position. -/
theorem outermost (tree : ParsedTree model) {call : Expr}
    (found : callNode model callSite = some call) {s : Stmt} {value : Expr}
    (hs : .stmt s ∈ model.nodes) (hchild : .expr value ∈ (Node.stmt s).children)
    (hvalue : value = call ∨ ∃ info, value = .await info call) {other : Expr}
    (hother : other ∈ model.calls) (hstart : startOf other.info = startOfSite callSite) :
    Python.StartsWith call other ∧ (Python.StartsWith other call → other = call) := by
  obtain ⟨hcall, hposition⟩ := callNode_spec found
  have honly : Python.StartsWith other call → other = call := by
    rcases hvalue with rfl | ⟨info, rfl⟩
    · exact eq_of_startsWith tree hs hchild (Or.inl ⟨s, rfl⟩) (mem_calls.1 hother).1
    · exact eq_of_startsWith tree (mem_walk_child hs hchild) List.mem_cons_self
        (Or.inr ⟨info, call, rfl⟩) (mem_calls.1 hother).1
  refine ⟨?_, honly⟩
  rcases tree.starts call hcall other hother (hposition.trans hstart.symm) with h | h
  · exact h
  · exact honly h ▸ .refl

theorem notMem_async {kind : SymbolKind} (h : kind ∈ [SymbolKind.function, .method]) :
    kind ∉ [SymbolKind.asyncFunction, .asyncMethod] := by
  revert h
  cases kind <;> decide

/-- For a proven call site, the body of the callee has run whenever the statement with the call
completes, exactly if the statement cannot complete, or the callee has no decorator that returns
something else, is no generator, and, where it is awaited, its call is not the start of a longer
one. -/
theorem directExecution_iff {index : SourceIndexArtifact} {project : ParsedProject}
    {symbol : SymbolRecord} {callee : FunctionControlModel}
    (hsymbol : callSite.calleeSymbolId.bind (symbol? index) = some symbol)
    (hmodel : project.function? callSite.callerSymbolId = some model)
    (hcallee : project.function? symbol.symbolId = some callee)
    (hkind : callee.function.async = true ↔
      symbol.kind ∈ [SymbolKind.asyncFunction, .asyncMethod])
    (tree : ParsedTree model) (hsite : .call info func args keywords ∈ model.calls)
    (hstart : startOf info = startOfSite callSite)
    (hcalled : program.callee info.identity =
      (project.function? symbol.symbolId).map (·.function))
    {s : Stmt} (hs : .stmt s ∈ model.nodes) (hholds : holds s (.call info func args keywords))
    (proven : directExecutionProven index project callSite = true) :
    (∀ bodies, CompletesWith program s bodies → info.identity ∈ bodies) ↔
      (∀ bodies, ¬ CompletesWith program s bodies) ∨
        program.plain callee.function = true ∧ callee.function.yields = false ∧
          (callee.function.async = true → ∀ other ∈ model.calls,
            startOf other.info = startOfSite callSite →
              Python.StartsWith (.call info func args keywords) other) := by
  rw [hcallee, Option.map_some] at hcalled
  obtain ⟨call, found, s', value, hs', hvalue, hchild, hform⟩ :=
    directExecutionProven_spec hsymbol hmodel tree proven
  have hin : Node.expr (.call info func args keywords) ∈ model.nodes := (mem_calls.1 hsite).1
  have hcall : Node.expr call ∈ model.nodes := (mem_calls.1 (callNode_spec found).1).1
  have hvalues : value = call ∨ ∃ info, value = .await info call :=
    hform.imp (·.2) (·.2)
  have houter : ∀ other ∈ model.calls, startOf other.info = startOfSite callSite →
      Python.StartsWith call other ∧ (Python.StartsWith other call → other = call) :=
    fun other hother hstart => outermost tree found hs' hchild hvalues hother hstart
  have hstarts := (houter _ hsite hstart).1
  -- the statement that holds the call site is the one that was found
  have hsame : s = s' := by
    obtain ⟨own, hown, hbelow⟩ := hholds
    refine owner_unique tree.parents hs hs' hown hchild hbelow ?_
    rcases hvalues with rfl | ⟨_, rfl⟩
    · exact hstarts.mem_walk
    · exact mem_walk_of_child List.mem_cons_self hstarts.mem_walk
  subst hsame
  have hdistinct : ∀ info' func' args' keywords',
      Python.StartsWith call (.call info' func' args' keywords') →
        info'.identity = info.identity →
          Expr.call info' func' args' keywords' = .call info func args keywords :=
    fun info' _ _ _ h heq => Node.expr.inj
      (tree.identities _ (mem_walk_trans hcall h.mem_walk) _ hin info' info rfl rfl heq)
  have hinside := notMem_handingCalls tree hin
  constructor
  · intro hruns
    rw [or_iff_not_imp_left]
    intro hcompletes
    simp only [not_forall, not_not] at hcompletes
    obtain ⟨bodies, ⟨has, inner⟩⟩ := hcompletes
    cases hvalue.symm.trans has
    by_contra hcondition
    -- another run of the same expression leaves the body out
    have havoids : ∃ bodies' object', info.identity ∉ bodies' ∧
        EvaluatesTo program value bodies' object' := by
      rcases hform with ⟨hsync, rfl⟩ | ⟨hasync, info', rfl⟩
      · have hasync : callee.function.async = false := by
          rw [← Bool.not_eq_true, hkind]
          exact notMem_async hsync
        have hspecial : program.plain callee.function = false ∨ callee.function.async = true ∨
            callee.function.yields = true := by
          by_contra hnot
          simp only [not_or, Bool.not_eq_false, Bool.not_eq_true] at hnot
          exact hcondition ⟨hnot.1, hnot.2.2, fun h => by rw [hasync] at h; cases h⟩
        obtain ⟨bodies', object', hnot, inner', -⟩ :=
          hstarts.avoids hcalled hspecial hinside hdistinct inner
        exact ⟨bodies', object', hnot, inner'⟩
      · have hasync := hkind.2 hasync
        obtain ⟨bodies', hnot, inner'⟩ := hstarts.avoids_awaited hcalled hasync hinside hdistinct
          (fun hplain hreturns hwhole => hcondition ⟨hplain, hreturns, fun _ other hother hstart =>
            hwhole ▸ (houter other hother hstart).1⟩) inner
        exact ⟨bodies', _, hnot, inner'⟩
    obtain ⟨bodies', object', hnot, inner'⟩ := havoids
    have hmem := hruns (bodies' ++ []) (.intro has inner')
    rw [List.append_nil] at hmem
    exact hnot hmem
  · rintro (hnone | ⟨hplain, hreturns, houtermost⟩) bodies hcompletes
    · exact absurd hcompletes (hnone bodies)
    · obtain ⟨has, inner⟩ := hcompletes
      cases hvalue.symm.trans has
      refine List.mem_append_left _ ?_
      rcases hform with ⟨hsync, rfl⟩ | ⟨hasync, info', rfl⟩
      · have hasync : callee.function.async = false := by
          rw [← Bool.not_eq_true, hkind]
          exact notMem_async hsync
        exact hstarts.runs hcalled hplain hasync hreturns inner
      · have hasync := hkind.2 hasync
        have hwhole : .call info func args keywords = call :=
          (houter _ hsite hstart).2
            (houtermost hasync _ (callNode_spec found).1 (callNode_spec found).2)
        exact await_runs hcalled hplain hasync hreturns (hwhole ▸ inner)

end

/-! ## A call of a generator -/

namespace ReceiptCall

/-- `receipts()`. -/
def call : Expr := .call (node 2 2) (named 3 2 "receipts") [] []

def statement : Stmt := .expr (node 1 2) call

def functionSymbol (name : SymbolId) : SymbolRecord :=
  ⟨name, "file", name, .function, ⟨"main.py", 1, 0, 1, 0⟩⟩

def functionModel (name : SymbolId) (body : List Stmt)
    (distinctNodes : ((Stmt.placesAll [] body).map (·.1.info.identity)).Nodup) :
    FunctionControlModel where
  symbol := functionSymbol name
  function := ⟨node 4 1, false, name, noArguments, body, [], none⟩
  module := ⟨"main.py", Dict.empty, []⟩
  nameOrigins := Dict.empty
  distinctNodes := distinctNodes

/-- `def notify(): receipts()`. -/
def notify : FunctionControlModel := functionModel "notify" [statement] (by decide)

/-- `def receipts(): pass`. -/
def emptyReceipts : FunctionControlModel :=
  functionModel "receipts" [.plain (node 11 5) (.other "Pass") []] (by decide)

/-- `def receipts(): yield`. -/
def lazyReceipts : FunctionControlModel :=
  functionModel "receipts" [.expr (node 11 5) (.other (node 12 5) "Yield" [])] (by decide)

def callSite : CallSiteRecord :=
  ⟨"notify", some "receipts", "receipts", ⟨"main.py", 2, 0, 2, 0⟩⟩

def index : SourceIndexArtifact where
  projectId := "project"
  sourceIndexFingerprint := "fingerprint"
  symbols := ["notify", "receipts"].map functionSymbol
  callSites := [callSite]
  frameworkInstances := []
  appTargets := []
  routes := []
  routerIncludes := []
  completeness := .complete
  symbolsUnique := by decide
  frameworksUnique := List.nodup_nil
  callSitesKnown := by decide

/-- A program in which the call calls a function. -/
def programOf (callee : FunctionControlModel) : Interpretation where
  callee := fun call => if call = 2 then some callee.function else none
  transparent := fun _ => false
  attributes := fun _ _ => True
  other := fun _ => trivial

theorem nodes_notify : notify.nodes =
    [.stmt notify.function.stmt, .arguments noArguments, .stmt statement, .expr call,
      .expr (named 3 2 "receipts")] := rfl

theorem mem_notify {n : Node} : n ∈ notify.nodes ↔
    n = .stmt notify.function.stmt ∨ n = .arguments noArguments ∨ n = .stmt statement ∨
      n = .expr call ∨ n = .expr (named 3 2 "receipts") := by
  rw [nodes_notify]
  simp only [List.mem_cons, List.not_mem_nil, or_false]

theorem tree : ParsedTree notify := by
  refine .of_nodup (by decide) (by decide) fun first hfirst second hsecond _ => ?_
  have honly : ∀ e ∈ notify.calls, e = call := by
    intro e he
    obtain ⟨hin, info, func, args, keywords, rfl⟩ := mem_calls.1 he
    rcases mem_notify.1 hin with h | h | h | h | h <;> first | exact Node.expr.inj h | cases h
  rw [honly first hfirst, honly second hsecond]
  exact Or.inl .refl

end ReceiptCall

open ReceiptCall in
/-- A call of an empty function runs it. -/
theorem emptyReceipts_run :
    (∃ bodies, CompletesWith (programOf emptyReceipts) statement bodies) ∧
      ∀ bodies, CompletesWith (programOf emptyReceipts) statement bodies → 2 ∈ bodies :=
  ⟨⟨[] ++ [] ++ [2] ++ [], .intro rfl (@EvaluatesTo.call _ _ _ _ _ _ _ _ .other (.parts rfl)
      (.body rfl rfl rfl))⟩,
    (@directExecution_iff notify callSite (programOf emptyReceipts) (node 2 2)
      (named 3 2 "receipts") [] [] index (projectOf [notify, emptyReceipts]) _ _ rfl rfl rfl
      (by decide) tree (mem_calls.2 ⟨mem_notify.2 (by simp [call]), _, _, _, _, rfl⟩) rfl rfl
      statement (mem_notify.2 (by simp))
      ⟨call, by simp [statement, Node.children], mem_walk_self _⟩ (by decide)).2
      (Or.inr ⟨by decide, by decide, fun h => by cases h⟩)⟩

open ReceiptCall in
/-- A call of a generator is taken to run it, and gives an object that nothing runs. -/
theorem lazyReceipts_unrun :
    directExecutionProven index (projectOf [notify, lazyReceipts]) callSite = true ∧
      ∃ bodies, CompletesWith (programOf lazyReceipts) statement bodies ∧ 2 ∉ bodies := by
  refine ⟨by decide, [] ++ [] ++ [] ++ [], ?_, by decide⟩
  exact .intro rfl (.call (.parts rfl) (.generator rfl rfl rfl))

end StateGuard
