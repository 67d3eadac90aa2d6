import StateGuard.Python.CallBinding
import StateGuard.Graph.TrustGuards

/-!
# Argument forwarding

Whether the origins a call forwards (`modelsWithForwardedOrigins`) are those of the arguments
Python binds to the parameters (`Bound`), where the calls of the route agree on them.

The forwarder pairs parameters with arguments by its own rule (`pairedArguments`) and lets the last
pair of a known origin win (`get?_forwardArguments`).  Every function of a route is forwarded to
once, after the caller its call path goes through, so its model is the one at the end of that path
(`modelsWithForwardedOrigins_eq`).
-/

namespace StateGuard

open Python

/-! ## One call -/

section

variable (text : BuildText)

/-- The names of the parameters that take a forwarded origin. -/
def parameterNames (function : FunctionDef) : List String := (parameters function).map (·.arg)

/-- The keyword arguments of a call. -/
def keywordsOf : Expr → List Keyword
  | .call _ _ _ keywords => keywords
  | _ => []

/-- The pairs the forwarder makes of parameters and arguments. -/
def pairedArguments (function : FunctionDef) (call : Expr) : List (String × Expr) :=
  (parameterNames function).zip (argumentsOf call) ++
    (namedKeywords (keywordsOf call)).filter fun entry => entry.1 ∈ parameterNames function

/-- The known origins among the arguments paired with a parameter, in order. -/
def pairedOrigins (caller : FunctionControlModel) (pairs : List (String × Expr))
    (parameter : String) : List ValueOrigin :=
  ((pairs.filter (·.1 = parameter)).map fun pair => caller.origin text pair.2).filter (· ≠ .unknown)

variable {text}

/-- The last known origin wins. -/
theorem get?_foldl_forwardOrigin {caller : FunctionControlModel} {parameter : String}
    {pairs : List (String × Expr)} {origins : Dict String ValueOrigin} :
    (pairs.foldl (fun origins pair => forwardOrigin text caller origins pair.1 pair.2)
      origins).get? parameter =
        (pairedOrigins text caller pairs parameter).getLast?.or (origins.get? parameter) := by
  induction pairs using List.reverseRecOn with
  | nil => rfl
  | append_singleton earlier pair ih =>
    rw [List.foldl_append, List.foldl_cons, List.foldl_nil, forwardOrigin]
    simp only [pairedOrigins, List.filter_append, List.map_append] at ih ⊢
    by_cases unknown : caller.origin text pair.2 = .unknown
    · rw [if_pos unknown, ih]
      by_cases same : pair.1 = parameter <;> simp [same, unknown]
    · rw [if_neg unknown, Dict.get?_set]
      by_cases same : pair.1 = parameter
      · simp [same, unknown]
      · rw [if_neg (Ne.symm same), ih]
        simp [same]

theorem foldl_namedKeywords {caller : FunctionControlModel} {names : List String}
    {keywords : List Keyword} {origins : Dict String ValueOrigin} :
    keywords.foldl (fun origins keyword =>
      match keyword.arg with
      | some name =>
        if name ∈ names then forwardOrigin text caller origins name keyword.value else origins
      | none => origins) origins =
      ((namedKeywords keywords).filter fun entry => entry.1 ∈ names).foldl
        (fun origins pair => forwardOrigin text caller origins pair.1 pair.2) origins := by
  induction keywords generalizing origins with
  | nil => rfl
  | cons keyword rest ih =>
    rw [List.foldl_cons, ih]
    cases named : keyword.arg with
    | none => simp [namedKeywords, named]
    | some name =>
      by_cases known : name ∈ names <;> simp [namedKeywords, named, known]

/-- What a call forwards, parameter by parameter. -/
theorem get?_forwardArguments {caller callee : FunctionControlModel} {call : Expr}
    {parameter : String} :
    (forwardArguments text caller callee call).get? parameter =
      (pairedOrigins text caller (pairedArguments callee.function call) parameter).getLast?.or
        (callee.nameOrigins.get? parameter) := by
  rw [← get?_foldl_forwardOrigin, pairedArguments, List.foldl_append]
  cases call with
  | call info func args keywords =>
    have byName := @foldl_namedKeywords text caller (parameterNames callee.function) keywords
      ((((parameterNames callee.function).zip args).foldl
        (fun origins pair => forwardOrigin text caller origins pair.1 pair.2) callee.nameOrigins))
    exact congrArg (Dict.get? · parameter) byName
  | _ => rfl

end

/-! ## The models of a route -/

section

variable {index : SourceIndexArtifact} {project : ParsedProject} {root : SymbolId}

/-- A recorded call path is empty and leads to the root, or goes through a caller of its symbol. -/
theorem resolvedCallPaths_parent {symbolId : SymbolId} {path : List CallSiteRecord}
    (found : (resolvedCallPaths index root project).get? symbolId = some path) :
    (path = [] ∧ symbolId = root) ∨ ∃ earlier site, path = earlier ++ [site] ∧
      site.callee = symbolId ∧
      (resolvedCallPaths index root project).get? site.callerSymbolId = some earlier := by
  obtain ⟨finished, explored⟩ := BreadthFirst.explored_breadthFirst
    (chain_bounded (@callsInOrder_resolved index project) rfl) (@reachableBound_length index root)
  cases explored.chains symbolId path found with
  | nil => exact .inl ⟨rfl, rfl⟩
  | @snoc earlier _ site _ _ =>
    rcases explored.parents _ _ found with none | ⟨edge, -, parent, above, same⟩
    · simp at none
    · obtain ⟨rfl, last⟩ := List.append_inj' same rfl
      cases last
      exact .inr ⟨earlier, site, rfl, rfl, above⟩

variable (project) (text : BuildText)

/-- The model of the callee of a call, with the origins the call forwards. -/
def calledModel (caller : Option FunctionControlModel) (site : CallSiteRecord) :
    Option FunctionControlModel :=
  (project.function? site.callee).map fun callee =>
    match caller.bind fun model => (callNode model site).map fun call => (model, call) with
    | some (model, call) => { callee with nameOrigins := forwardArguments text model callee call }
    | none => callee

/-- The model at the end of a call path. -/
def modelAlong (root : SymbolId) (path : List CallSiteRecord) : Option FunctionControlModel :=
  path.foldl (calledModel project text) (project.function? root)

variable {project} {text}

/-- One step of the forwarder updates the callee with the model along its last call. -/
theorem forwardCall_eq {models : SymbolId → Option FunctionControlModel}
    {earlier : List CallSiteRecord} {site : CallSiteRecord}
    (own : models site.callee = project.function? site.callee) :
    forwardCall text models site.callee (earlier ++ [site]) =
      Function.update models site.callee
        (calledModel project text (models site.callerSymbolId) site) := by
  have kept : ∀ {model}, models site.callee = model →
      models = Function.update models site.callee model := by
    rintro _ rfl
    exact (Function.update_eq_self _ _).symm
  simp only [forwardCall, List.getLast?_concat]
  rw [calledModel, ← own]
  cases called : models site.callee with
  | none =>
    cases models site.callerSymbolId <;> exact kept called
  | some callee =>
    cases models site.callerSymbolId with
    | none => exact kept called
    | some caller =>
      cases node : callNode caller site with
      | none => simpa [node] using kept called
      | some call => simp [node]

/-- After some of the functions, the shortest paths first, each has the model along its path and
the others their own. -/
theorem foldl_forwardCall {entries todo : List (SymbolId × List CallSiteRecord)}
    (sorted : KeyOrder.sortedByKey (fun entry : SymbolId × List CallSiteRecord => entry.2.length)
      (resolvedCallPaths index root project).entries = entries ++ todo)
    {symbolId : SymbolId} {path : List CallSiteRecord}
    (found : (resolvedCallPaths index root project).get? symbolId = some path) :
    entries.foldl (fun models entry => forwardCall text models entry.1 entry.2)
        (fun symbolId => if symbolId ∈ (resolvedCallPaths index root project).keys then
          project.function? symbolId else none) symbolId =
      if symbolId ∈ entries.map Prod.fst then modelAlong project text root path
      else project.function? symbolId := by
  generalize paths_eq : resolvedCallPaths index root project = paths at *
  induction entries using List.reverseRecOn generalizing todo symbolId path with
  | nil => simp [Dict.mem_keys_of_get? found]
  | append_singleton earlier entry ih =>
    obtain ⟨callee, calleePath⟩ := entry
    rw [List.append_assoc] at sorted
    have before : ∀ {symbolId path}, paths.get? symbolId = some path → _ :=
      fun found => ih sorted found
    have ordered := KeyOrder.sortedByKey_pairwise
      (fun entry : SymbolId × List CallSiteRecord => entry.2.length) paths.entries
    have listed : ∀ entry, entry ∈ paths.entries ↔
        entry ∈ earlier ++ ((callee, calleePath) :: todo) := by
      intro entry
      rw [← KeyOrder.mem_sortedByKey (fun entry => entry.2.length), sorted]
      rfl
    have distinct : ((earlier ++ ((callee, calleePath) :: todo)).map Prod.fst).Nodup := by
      have permuted := (KeyOrder.sortedByKey_perm (fun entry => entry.2.length)
        paths.entries).map Prod.fst
      rw [sorted] at permuted
      exact permuted.nodup_iff.mpr paths.keys_nodup
    rw [sorted] at ordered
    have here : paths.get? callee = some calleePath :=
      Dict.get?_of_mem_entries ((listed _).mpr (by simp))
    have fresh : callee ∉ earlier.map Prod.fst := by
      rw [List.map_append, List.nodup_append] at distinct
      exact fun inside => distinct.2.2 callee inside callee (by simp) rfl
    rw [List.foldl_append, List.foldl_cons, List.foldl_nil, List.map_append, List.map_cons,
      List.map_nil]
    generalize models_eq : earlier.foldl
      (fun models entry => forwardCall text models entry.1 entry.2)
      (fun symbolId => if symbolId ∈ paths.keys then project.function? symbolId else none) = models
      at before ⊢
    have own : models callee = project.function? callee := by
      rw [before here, if_neg fresh]
    -- The step settles the callee and leaves the others alone.
    have step : forwardCall text models callee calleePath =
        Function.update models callee (modelAlong project text root calleePath) := by
      rcases resolvedCallPaths_parent (paths_eq ▸ here) with
        ⟨rfl, rfl⟩ | ⟨parent, site, rfl, rfl, above⟩
      · rw [modelAlong, List.foldl_nil, ← own, Function.update_eq_self]
        rfl
      · rw [paths_eq] at above
        have inside : site.callerSymbolId ∈ earlier.map Prod.fst := by
          have among := (listed _).mp (Dict.mem_entries_of_get? above)
          rcases List.mem_append.mp among with done | later
          · exact List.mem_map.mpr ⟨_, done, rfl⟩
          · rcases List.mem_cons.mp later with first | last
            · have same := congrArg (fun entry => entry.2.length) first
              simp at same
            · have least := (List.pairwise_cons.mp (List.pairwise_append.mp ordered).2.1).1 _ last
              simp at least
        rw [forwardCall_eq own, before above, if_pos inside, modelAlong, modelAlong,
          List.foldl_append, List.foldl_cons, List.foldl_nil]
    rw [step]
    by_cases same : symbolId = callee
    · subst same
      rw [here] at found
      cases found
      simp
    · rw [Function.update_of_ne same, before found]
      simp only [List.mem_append, List.mem_singleton, same, or_false]

/-- The model of a function of a route is the one at the end of its call path. -/
theorem modelsWithForwardedOrigins_eq {symbolId : SymbolId} {path : List CallSiteRecord}
    (found : (resolvedCallPaths index root project).get? symbolId = some path) :
    modelsWithForwardedOrigins text (resolvedCallPaths index root project) project symbolId =
      modelAlong project text root path := by
  have whole := @foldl_forwardCall index project root text _ _ (List.append_nil _).symm _ _ found
  rw [modelsWithForwardedOrigins, whole, if_pos]
  have listed := Dict.mem_entries_of_get? found
  exact List.mem_map.mpr ⟨_, (KeyOrder.mem_sortedByKey _ _ _).mpr listed, rfl⟩

end

/-! ## What the calls of a route bind -/

section

variable (text : BuildText) (receives : CallSiteRecord → Bool) (index : SourceIndexArtifact)
  (project : ParsedProject) (root : SymbolId)

/-- `_location`: whether a call site records a call, by its whole span. -/
def CallSiteRecord.records (site : CallSiteRecord) (call : Expr) : Prop :=
  site.sourceLocation.lineStart = NodeInfo.lineno call.info ∧
    site.sourceLocation.columnStart = call.info.column ∧
    site.sourceLocation.lineEnd = max call.info.endLine (NodeInfo.lineno call.info) ∧
    site.sourceLocation.columnEnd =
      if call.info.endColumn = 0 then call.info.column else call.info.endColumn

/-- The call sites of a route that call a function. -/
def routeSites (symbolId : SymbolId) : List CallSiteRecord :=
  index.callSites.filter fun site => site.calleeSymbolId = some symbolId ∧
    site.callerSymbolId ∈ (resolvedCallPaths index root project).keys

/-- The origin of the argument that is bound to a parameter, if one is. -/
def boundOrigin (caller : FunctionControlModel) (bound : List (String × Passed))
    (parameter : String) : Option ValueOrigin :=
  match bound.lookup parameter with
  | some (.argument value) => some (caller.origin text value)
  | _ => none

/-- A call site may bind a parameter to an argument of an origin, or to none. -/
def BindsAt (models : SymbolId → Option FunctionControlModel) (signature : Arguments)
    (site : CallSiteRecord) (parameter : String) (origin : Option ValueOrigin) : Prop :=
  ∃ caller, models site.callerSymbolId = some caller ∧
    ∃ call ∈ caller.calls, site.records call ∧
      ∃ bound, Bound (receives site) signature call bound ∧
        boundOrigin text caller bound parameter = origin

/-- Two call sites of a route bind a parameter differently. -/
def Differs (models : SymbolId → Option FunctionControlModel) (signature : Arguments)
    (symbolId : SymbolId) (parameter : String) : Prop :=
  ∃ site ∈ routeSites index project root symbolId,
    ∃ other ∈ routeSites index project root symbolId,
      ∃ origin otherOrigin, BindsAt text receives models signature site parameter origin ∧
        BindsAt text receives models signature other parameter otherOrigin ∧ origin ≠ otherOrigin

/-- The origins of the parameters are those of the arguments bound to them: none where two call
sites differ, that of the argument of the resolved call where they agree, and the callee's own
where no argument is bound. -/
def ForwardsAsBound : Prop :=
  let models := modelsWithForwardedOrigins text (resolvedCallPaths index root project) project
  ∀ symbolId path, (resolvedCallPaths index root project).get? symbolId = some path →
    ∀ callee own, models symbolId = some callee → project.function? symbolId = some own →
      ∀ parameter ∈ parameterNames own.function,
        (Differs text receives index project root models own.function.args symbolId parameter →
          (callee.nameOrigins.get? parameter).getD .unknown = .unknown) ∧
        (¬ Differs text receives index project root models own.function.args symbolId parameter →
          ∀ site ∈ path.getLast?, ∀ origin,
            BindsAt text receives models own.function.args site parameter origin →
              match origin with
              | some origin => (callee.nameOrigins.get? parameter).getD .unknown = origin
              | none => callee.nameOrigins.get? parameter = own.nameOrigins.get? parameter)

/-- The models of a route, each along its call path. -/
def modelsAlong (symbolId : SymbolId) : Option FunctionControlModel :=
  ((resolvedCallPaths index root project).get? symbolId).bind (modelAlong project text root)

/-- The known origins among the arguments that the last call of a path is paired with. -/
def forwardedOrigins (path : List CallSiteRecord) (own : FunctionControlModel)
    (parameter : String) : List ValueOrigin :=
  match path.getLast? with
  | none => []
  | some site =>
    match modelsAlong text index project root site.callerSymbolId with
    | none => []
    | some caller =>
      match callNode caller site with
      | none => []
      | some call => pairedOrigins text caller (pairedArguments own.function call) parameter

/-- The forwarder's pairs fit what is bound: where two call sites differ, nothing of a known origin
is paired with the parameter and the callee infers none; where they agree on an argument, the last
known origin paired is its origin, or none is paired and the callee infers it; where no argument
is bound, none is paired or the last is what the callee infers. -/
def PairsAsBound : Prop :=
  let models := modelsAlong text index project root
  ∀ symbolId path, (resolvedCallPaths index root project).get? symbolId = some path →
    ∀ own, project.function? symbolId = some own →
      ∀ parameter ∈ parameterNames own.function,
        let paired := forwardedOrigins text index project root path own parameter
        let inferred := own.nameOrigins.get? parameter
        (Differs text receives index project root models own.function.args symbolId parameter →
          paired = [] ∧ inferred.getD .unknown = .unknown) ∧
        (¬ Differs text receives index project root models own.function.args symbolId parameter →
          ∀ site ∈ path.getLast?, ∀ origin,
            BindsAt text receives models own.function.args site parameter origin →
              match origin with
              | some origin => paired.getLast? = some origin ∨
                  paired = [] ∧ inferred.getD .unknown = origin
              | none => paired = [] ∨ paired.getLast? = inferred)

variable {text receives index project root}

theorem modelsWithForwardedOrigins_along :
    modelsWithForwardedOrigins text (resolvedCallPaths index root project) project =
      modelsAlong text index project root := by
  funext symbolId
  rw [modelsAlong]
  cases recorded : (resolvedCallPaths index root project).get? symbolId with
  | some path => exact modelsWithForwardedOrigins_eq recorded
  | none =>
    cases found : modelsWithForwardedOrigins text (resolvedCallPaths index root project) project
      symbolId with
    | none => rfl
    | some model =>
      have known := (modelsWithForwardedOrigins_same found).1
      exact absurd known ((Dict.get?_eq_none _ _).mp recorded)

/-- The origin of a parameter is the last one forwarded to it, or else the callee's own. -/
theorem get?_modelsAlong {symbolId : SymbolId} {path : List CallSiteRecord}
    {callee own : FunctionControlModel} {parameter : String}
    (recorded : (resolvedCallPaths index root project).get? symbolId = some path)
    (found : modelsAlong text index project root symbolId = some callee)
    (parsed : project.function? symbolId = some own) :
    callee.nameOrigins.get? parameter =
      (forwardedOrigins text index project root path own parameter).getLast?.or
        (own.nameOrigins.get? parameter) := by
  rw [modelsAlong, recorded, Option.bind_some] at found
  rcases resolvedCallPaths_parent recorded with ⟨rfl, rfl⟩ | ⟨earlier, site, rfl, rfl, above⟩
  · rw [modelAlong, List.foldl_nil, parsed] at found
    cases found
    rfl
  · have caller_eq : modelsAlong text index project root site.callerSymbolId =
        modelAlong project text root earlier := by rw [modelsAlong, above, Option.bind_some]
    rw [modelAlong, List.foldl_append, List.foldl_cons, List.foldl_nil, ← modelAlong, ← caller_eq,
      calledModel, parsed, Option.map_some] at found
    simp only [forwardedOrigins, List.getLast?_concat]
    cases caller : modelsAlong text index project root site.callerSymbolId with
    | none =>
      rw [caller] at found
      cases found
      rfl
    | some model =>
      cases node : callNode model site with
      | none =>
        simp only [caller, node, Option.bind_some, Option.map_none] at found
        cases found
        simp only [node]
        rfl
      | some call =>
        simp only [caller, node, Option.bind_some, Option.map_some] at found
        cases found
        simp only [node]
        exact get?_forwardArguments

/-- Every parsed function with a call path has a model along it. -/
theorem exists_modelsAlong {symbolId : SymbolId} {path : List CallSiteRecord}
    {own : FunctionControlModel}
    (recorded : (resolvedCallPaths index root project).get? symbolId = some path)
    (parsed : project.function? symbolId = some own) :
    ∃ callee, modelsAlong text index project root symbolId = some callee := by
  rw [modelsAlong, recorded, Option.bind_some]
  rcases resolvedCallPaths_parent recorded with ⟨rfl, rfl⟩ | ⟨earlier, site, rfl, rfl, -⟩
  · exact ⟨own, parsed⟩
  · rw [modelAlong, List.foldl_append, List.foldl_cons, List.foldl_nil, calledModel, parsed]
    exact ⟨_, rfl⟩

theorem forwardedOrigins_known {path : List CallSiteRecord} {own : FunctionControlModel}
    {parameter : String} {origin : ValueOrigin}
    (forwarded : origin ∈ forwardedOrigins text index project root path own parameter) :
    origin ≠ .unknown := by
  simp only [forwardedOrigins] at forwarded
  repeat' split at forwarded
  all_goals simp_all [pairedOrigins]

/-- What the last of known origins, or else an inferred one, amounts to. -/
theorem or_getD_eq_iff {known : List ValueOrigin} {inferred : Option ValueOrigin}
    {origin : ValueOrigin} :
    (known.getLast?.or inferred).getD .unknown = origin ↔
      known.getLast? = some origin ∨ known = [] ∧ inferred.getD .unknown = origin := by
  cases last : known.getLast? with
  | none =>
    rw [List.getLast?_eq_none_iff] at last
    simp [last]
  | some value =>
    have some : known ≠ [] := by
      rintro rfl
      cases last
    simp [some]

/-- No origin results exactly where nothing is known and nothing is inferred. -/
theorem or_getD_unknown_iff {known : List ValueOrigin} {inferred : Option ValueOrigin}
    (allKnown : ∀ origin ∈ known, origin ≠ .unknown) :
    (known.getLast?.or inferred).getD .unknown = .unknown ↔
      known = [] ∧ inferred.getD .unknown = .unknown := by
  rw [or_getD_eq_iff]
  constructor
  · rintro (last | none)
    · exact absurd rfl (allKnown _ (List.mem_of_getLast? last))
    · exact none
  · exact .inr

theorem or_eq_iff {known : List ValueOrigin} {inferred : Option ValueOrigin} :
    known.getLast?.or inferred = inferred ↔ known = [] ∨ known.getLast? = inferred := by
  cases last : known.getLast? with
  | none =>
    rw [List.getLast?_eq_none_iff] at last
    simp [last]
  | some value =>
    have some : known ≠ [] := by
      rintro rfl
      cases last
    simp [some]

end

section

variable {text : BuildText}

/-- A call that unpacks nothing, passes no more arguments by position than parameters take, and
names no positional-only parameter. -/
structure PlainCall (signature : Arguments) (call : Expr) : Prop where
  written : ∀ value ∈ argumentsOf call, value.unpacks = false
  named : ∀ keyword ∈ keywordsOf call, keyword.arg.isSome = true
  few : (argumentsOf call).length ≤ signature.positional.length
  byName : ∀ entry ∈ namedKeywords (keywordsOf call),
    entry.1 ∉ signature.posonlyargs.map (·.arg)

theorem parameterNames_eq (function : FunctionDef) : parameterNames function =
    function.args.positional ++ function.args.kwonlyargs.map (·.arg) := by
  simp [parameterNames, parameters, Arguments.positional]

theorem zip_append_of_le {α β : Type} {front back : List α} {items : List β}
    (few : items.length ≤ front.length) : (front ++ back).zip items = front.zip items := by
  induction front generalizing items with
  | nil =>
    have none : items = [] := List.eq_nil_of_length_eq_zero (Nat.le_zero.mp few)
    rw [none, List.zip_nil_right, List.zip_nil_right]
  | cons first rest ih =>
    cases items with
    | nil => rfl
    | cons item others =>
      rw [List.cons_append, List.zip_cons_cons, List.zip_cons_cons,
        ih (Nat.le_of_succ_le_succ few)]

/-- A plain call without a receiver binds the pairs the forwarder makes. -/
theorem bound_of_plain {function : FunctionDef} {call : Expr} {bound : List (String × Passed)}
    (plain : PlainCall function.args call) (binding : Bound false function.args call bound) :
    bound = (pairedArguments function call).map (fun pair => (pair.1, .argument pair.2)) ∧
      (bound.map (·.1)).Nodup := by
  cases binding with
  | @call info func args keywords passed named _ byPosition byName binds =>
    obtain ⟨taken, distinct, -⟩ := taken_of_bind binds
    refine ⟨?_, distinct⟩
    have positions : passed = args.map .argument := passed_of_plain byPosition plain.written
    have names : named = (namedKeywords keywords).map fun entry => (entry.1, .argument entry.2) :=
      named_of_plain byName plain.named
    have zipped : (parameterNames function).zip args = function.args.positional.zip args := by
      rw [parameterNames_eq]
      exact zip_append_of_le plain.few
    have same : ∀ entry ∈ namedKeywords keywords,
        decide (entry.1 ∈ parameterNames function) = decide (entry.1 ∈ function.args.byName) := by
      intro entry listed
      have free := plain.byName entry listed
      rw [decide_eq_decide, parameterNames, parameters, Arguments.byName, List.append_assoc,
        List.map_append, List.mem_append]
      exact or_iff_right free
    have filtered := List.filter_congr same
    simp only [taken, Arguments.taken, pairedArguments, argumentsOf, keywordsOf, zipped, filtered,
      positions, names, Bool.false_eq_true, if_false, List.map_append, List.zip_map_right,
      List.filter_map]
    rfl

theorem lookup_map_snd {α β : Type} {f : α → β} {entries : List (String × α)} {key : String} :
    (entries.map fun entry => (entry.1, f entry.2)).lookup key = (entries.lookup key).map f := by
  induction entries with
  | nil => rfl
  | cons entry rest ih =>
    rw [List.map_cons, List.lookup_cons, List.lookup_cons]
    cases key == entry.1 with
    | true => rfl
    | false => exact ih

/-- Of pairs for different parameters at most one is known. -/
theorem getLast?_pairedOrigins {caller : FunctionControlModel} {parameter : String}
    {pairs : List (String × Expr)} (distinct : (pairs.map (·.1)).Nodup) :
    (pairedOrigins text caller pairs parameter).getLast? =
      ((pairs.lookup parameter).map (caller.origin text)).filter (· ≠ .unknown) := by
  induction pairs with
  | nil => rfl
  | cons pair rest ih =>
    obtain ⟨fresh, distinct⟩ := List.nodup_cons.mp distinct
    rw [List.lookup_cons]
    by_cases same : pair.1 = parameter
    · have others : rest.filter (·.1 = parameter) = [] := by
        refine List.filter_eq_nil_iff.mpr fun other later equal => fresh ?_
        exact List.mem_map.mpr ⟨other, later, (of_decide_eq_true equal).trans same.symm⟩
      by_cases unknown : caller.origin text pair.2 = .unknown <;>
        simp [pairedOrigins, same, others, unknown, Option.filter]
    · have skipped : (parameter == pair.1) = false := by simpa using Ne.symm same
      rw [skipped]
      simpa [pairedOrigins, same] using ih distinct

/-- A plain call without a receiver forwards the known origins of what it binds. -/
theorem get?_forwardArguments_of_plain {caller callee : FunctionControlModel} {call : Expr}
    {bound : List (String × Passed)} {parameter : String}
    (plain : PlainCall callee.function.args call)
    (binding : Bound false callee.function.args call bound) :
    (forwardArguments text caller callee call).get? parameter =
      ((boundOrigin text caller bound parameter).filter (· ≠ .unknown)).or
        (callee.nameOrigins.get? parameter) := by
  obtain ⟨pairs, distinct⟩ := bound_of_plain plain binding
  have parameters : ((pairedArguments callee.function call).map (·.1)).Nodup := by
    rw [pairs, List.map_map] at distinct
    exact distinct
  have looked : bound.lookup parameter =
      ((pairedArguments callee.function call).lookup parameter).map .argument := by
    rw [pairs]
    exact lookup_map_snd
  rw [get?_forwardArguments, getLast?_pairedOrigins parameters, boundOrigin, looked]
  cases (pairedArguments callee.function call).lookup parameter <;> rfl

end

section Example

/-- `record(await request.body())`. -/
def recordOfBody : Expr :=
  .call ⟨142, 2, 4, 2, 32⟩ (.name ⟨143, 2, 4, 2, 10⟩ "record" true)
    [.await ⟨144, 2, 11, 2, 31⟩ (.call ⟨145, 2, 17, 2, 31⟩
      (.attribute ⟨146, 2, 17, 2, 29⟩ (.name ⟨147, 2, 17, 2, 24⟩ "request" true) "body") [] [])] []

/-- A handler that records the body of its request. -/
def bodyHandler : FunctionControlModel :=
  coroutine "webhook" 1 ["request"] [.expr ⟨141, 2, 4, 2, 32⟩ recordOfBody] (by decide)

/-- `def record(*payloads, signature=None): return`. -/
def recordFunction : FunctionDef where
  info := ⟨300, 4, 0, 5, 10⟩
  async := false
  name := "record"
  args := { noArguments with
    vararg := some ⟨⟨301, 4, 12, 4, 20⟩, "payloads", none⟩
    kwonlyargs := [⟨⟨302, 4, 22, 4, 31⟩, "signature", none⟩]
    kwDefaults := [some (.constant ⟨303, 4, 32, 4, 36⟩ .none)] }
  body := [.return ⟨304, 5, 4, 5, 10⟩ none]
  decoratorList := []
  returns := none

/-- The helper. -/
def recordHelper : FunctionControlModel where
  symbol := ⟨"record", "file", "record", .function, ⟨"main.py", 4, 0, 5, 10⟩⟩
  function := recordFunction
  module := ⟨"main.py", Dict.empty, []⟩
  nameOrigins := inferOrigins plainText recordFunction []
  distinctNodes := by decide

/-- The call site of the helper. -/
def recordSite : CallSiteRecord := ⟨"webhook", some "record", "record", ⟨"main.py", 2, 4, 2, 32⟩⟩

/-- The index of the handler and the helper. -/
def recordIndex : SourceIndexArtifact :=
  indexOf ["webhook", "record"] [recordSite] (by decide) (by decide)

/-- The handler and the helper. -/
def recordProject : ParsedProject := projectOf [bodyHandler, recordHelper]

end Example

end StateGuard
