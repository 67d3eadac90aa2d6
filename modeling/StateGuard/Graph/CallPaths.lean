import StateGuard.Graph.Recognizers
import StateGuard.Library.BreadthFirst
import Mathlib.Logic.Relation

/-!
# Call paths

The resolved calls of the index, and the chain of calls by which every function is first met
from a handler (`resolvedCallPaths`).  The projection of the customer-value action searches the
same calls in another order (`resolvedPath`).

Both are breadth-first searches; `callsInOrder` and `callsByText` are their graphs.  A recorded path
connects the handler to its function by calls of which each is made by the callee of the one before
it (`Connects`).
-/

namespace StateGuard

open Python
open BreadthFirst (Links Chain First)

/-- The callee of a resolved call. -/
def CallSiteRecord.callee (call : CallSiteRecord) : SymbolId := call.calleeSymbolId.getD ""

/-- The resolved calls of a symbol, as the index lists them. -/
def resolvedCalls (index : SourceIndexArtifact) (symbolId : SymbolId) : List CallSiteRecord :=
  index.callSites.filter fun call => call.callerSymbolId = symbolId ∧ call.calleeSymbolId.isSome

/-- The position of a call, as calls are ordered. -/
def callPosition (call : CallSiteRecord) : String ×ₗ ℕ ×ₗ ℕ :=
  toLex (call.sourceLocation.path, toLex (call.sourceLocation.lineStart,
    call.sourceLocation.columnStart))

/-- `_resolved_call_graph`: the resolved calls of a symbol, by position. -/
def resolvedCallGraph (index : SourceIndexArtifact) (symbolId : SymbolId) : List CallSiteRecord :=
  KeyOrder.sortedByKey callPosition (resolvedCalls index symbolId)

theorem mem_resolvedCalls {index : SourceIndexArtifact} {symbolId : SymbolId}
    {call : CallSiteRecord} : call ∈ resolvedCalls index symbolId ↔
      call ∈ index.callSites ∧ call.callerSymbolId = symbolId ∧ call.calleeSymbolId.isSome := by
  simp [resolvedCalls]

/-- The calls of parsed functions, by position. -/
def callsInOrder (index : SourceIndexArtifact) (project : ParsedProject) :
    Links SymbolId CallSiteRecord where
  next symbolId := (resolvedCallGraph index symbolId).filter fun call =>
    (project.function? call.callee).isSome
  source := CallSiteRecord.callerSymbolId
  target := CallSiteRecord.callee
  sourced := by
    intro symbolId call leaves
    have resolved := (KeyOrder.mem_sortedByKey _ _ _).mp (List.mem_of_mem_filter leaves)
    exact (mem_resolvedCalls.mp resolved).2.1

/-- The symbols a search may meet. -/
def searchBound (index : SourceIndexArtifact) : Nat := index.symbols.length + 1

/-- `resolved_call_paths`. -/
def resolvedCallPaths (index : SourceIndexArtifact) (root : SymbolId) (project : ParsedProject) :
    Dict SymbolId (List CallSiteRecord) :=
  BreadthFirst.breadthFirst (callsInOrder index project) (searchBound index) root

section

variable (text : BuildText)

/-- The resolved calls, by their JSON text. -/
def callsByText (index : SourceIndexArtifact) : Links SymbolId CallSiteRecord where
  next symbolId := KeyOrder.sortedByKey text.callSiteJson (resolvedCalls index symbolId)
  source := CallSiteRecord.callerSymbolId
  target := CallSiteRecord.callee
  sourced := by
    intro symbolId call leaves
    exact (mem_resolvedCalls.mp ((KeyOrder.mem_sortedByKey _ _ _).mp leaves)).2.1

/-- `_resolved_path`. -/
def resolvedPath (index : SourceIndexArtifact) (root goal : SymbolId) :
    Option (List CallSiteRecord) :=
  BreadthFirst.findPath (callsByText text index) (searchBound index) root goal

end

/-! ## What the searches meet -/

section

variable {index : SourceIndexArtifact} {root : SymbolId}

/-- The symbols a chain of resolved calls may lead to. -/
def reachableBound (index : SourceIndexArtifact) (root : SymbolId) : List SymbolId :=
  root :: index.symbols.map (·.symbolId)

theorem reachableBound_length : (reachableBound index root).length ≤ searchBound index := by
  simp [reachableBound, searchBound]

/-- Chains of resolved calls stay among the indexed symbols. -/
theorem chain_bounded {links : Links SymbolId CallSiteRecord}
    (resolved : ∀ symbolId, ∀ call ∈ links.next symbolId, call ∈ resolvedCalls index symbolId)
    (target : links.target = CallSiteRecord.callee) {symbolId : SymbolId}
    {path : List CallSiteRecord} (chain : Chain links root path symbolId) :
    symbolId ∈ reachableBound index root := by
  cases chain with
  | nil => exact List.mem_cons_self
  | @snoc _ _ call _ leaves =>
    obtain ⟨listed, -, isSome⟩ := mem_resolvedCalls.mp (resolved _ call leaves)
    obtain ⟨callee, some⟩ := Option.isSome_iff_exists.mp isSome
    have known := (index.callSitesKnown call listed).2 callee some
    rw [target, CallSiteRecord.callee, some]
    exact List.mem_cons_of_mem _ known

theorem callsInOrder_resolved {project : ParsedProject} (symbolId : SymbolId) :
    ∀ call ∈ (callsInOrder index project).next symbolId, call ∈ resolvedCalls index symbolId :=
  fun _ leaves => (KeyOrder.mem_sortedByKey _ _ _).mp (List.mem_of_mem_filter leaves)

theorem callsByText_resolved {text : BuildText} (symbolId : SymbolId) :
    ∀ call ∈ (callsByText text index).next symbolId, call ∈ resolvedCalls index symbolId :=
  fun _ leaves => (KeyOrder.mem_sortedByKey _ _ _).mp leaves

/-- A recorded call path is the first of the shortest chains of parsed calls. -/
theorem resolvedCallPaths_eq_some_iff {project : ParsedProject} {symbolId : SymbolId}
    {path : List CallSiteRecord} :
    (resolvedCallPaths index root project).get? symbolId = some path ↔
      First (callsInOrder index project) root path symbolId :=
  BreadthFirst.breadthFirst_eq_some_iff (chain_bounded callsInOrder_resolved rfl)
    reachableBound_length

/-- The projected call path is the first of the shortest chains of resolved calls. -/
theorem resolvedPath_eq_some_iff {text : BuildText} {symbolId : SymbolId}
    {path : List CallSiteRecord} :
    resolvedPath text index root symbolId = some path ↔
      First (callsByText text index) root path symbolId := by
  rw [resolvedPath, BreadthFirst.findPath_eq (chain_bounded callsByText_resolved rfl)
    reachableBound_length]
  exact BreadthFirst.breadthFirst_eq_some_iff (chain_bounded callsByText_resolved rfl)
    reachableBound_length

/-- A chain of parsed calls is a chain of resolved calls. -/
theorem chain_callsByText {text : BuildText} {project : ParsedProject} {symbolId : SymbolId}
    {path : List CallSiteRecord} (chain : Chain (callsInOrder index project) root path symbolId) :
    Chain (callsByText text index) root path symbolId := by
  induction chain with
  | nil => exact .nil
  | snoc _ leaves ih =>
    have listed := (KeyOrder.mem_sortedByKey text.callSiteJson _ _).mpr
      (callsInOrder_resolved _ _ leaves)
    exact @Chain.snoc _ _ (callsByText text index) _ _ _ _ ih listed

/-- Every function a chain of parsed calls leads to has a recorded path. -/
theorem exists_resolvedCallPath {project : ParsedProject} {symbolId : SymbolId}
    {path : List CallSiteRecord} (chain : Chain (callsInOrder index project) root path symbolId) :
    ∃ known, (resolvedCallPaths index root project).get? symbolId = some known :=
  Dict.exists_get? (BreadthFirst.mem_keys_breadthFirst (chain_bounded callsInOrder_resolved rfl)
    reachableBound_length chain)

end

/-! ## Shortest chains -/

/-- A resolved call leads from a symbol to a parsed function. -/
def CallStep (index : SourceIndexArtifact) (project : ParsedProject)
    (caller callee : SymbolId) : Prop :=
  ∃ call ∈ index.callSites, call.callerSymbolId = caller ∧ call.calleeSymbolId = some callee ∧
    (project.function? callee).isSome

/-- Call sites connect an entry to a symbol: the entry makes the first call, the callee of each call
makes the next one, and the symbol is the callee of the last one. -/
def Connects (index : SourceIndexArtifact) (project : ParsedProject) :
    SymbolId → List CallSiteRecord → SymbolId → Prop
  | entry, [], symbolId => entry = symbolId
  | entry, call :: rest, symbolId =>
    call ∈ index.callSites ∧ call.callerSymbolId = entry ∧
      ∃ callee ∈ call.calleeSymbolId, (project.function? callee).isSome ∧
        Connects index project callee rest symbolId

section

variable {index : SourceIndexArtifact} {project : ParsedProject} {root symbolId : SymbolId}

theorem mem_callsInOrder {call : CallSiteRecord} :
    call ∈ (callsInOrder index project).next symbolId ↔
      call ∈ index.callSites ∧ call.callerSymbolId = symbolId ∧
        ∃ callee ∈ call.calleeSymbolId, (project.function? callee).isSome := by
  show call ∈ (resolvedCallGraph index symbolId).filter _ ↔ _
  rw [List.mem_filter, resolvedCallGraph, KeyOrder.mem_sortedByKey, mem_resolvedCalls]
  cases isCallee : call.calleeSymbolId with
  | none => simp
  | some callee => simp [CallSiteRecord.callee, isCallee, and_assoc]

theorem callee_of_mem {call : CallSiteRecord} {callee : SymbolId}
    (isCallee : callee ∈ call.calleeSymbolId) : call.callee = callee := by
  rw [CallSiteRecord.callee, Option.mem_def.mp isCallee, Option.getD_some]

/-- A chain goes on with what its end is connected to. -/
theorem Connects.chain {middle : SymbolId} {before path : List CallSiteRecord}
    (chain : Chain (callsInOrder index project) root before middle)
    (connects : Connects index project middle path symbolId) :
    Chain (callsInOrder index project) root (before ++ path) symbolId := by
  induction path generalizing before middle with
  | nil =>
    cases connects
    rwa [List.append_nil]
  | cons call rest ih =>
    obtain ⟨listed, isCaller, callee, isCallee, parsed, later⟩ := connects
    have next := mem_callsInOrder.mpr ⟨listed, isCaller, callee, isCallee, parsed⟩
    have longer := chain.snoc next
    rw [← callee_of_mem isCallee] at later
    rw [List.append_cons]
    exact ih longer later

theorem Connects.snoc {middle : SymbolId} {path : List CallSiteRecord} {call : CallSiteRecord}
    (connects : Connects index project root path middle)
    (next : call ∈ (callsInOrder index project).next middle) :
    Connects index project root (path ++ [call]) call.callee := by
  induction path generalizing root with
  | nil =>
    cases connects
    obtain ⟨listed, isCaller, callee, isCallee, parsed⟩ := mem_callsInOrder.mp next
    exact ⟨listed, isCaller, callee, isCallee, parsed, (callee_of_mem isCallee).symm⟩
  | cons first rest ih =>
    obtain ⟨listed, isCaller, callee, isCallee, parsed, later⟩ := connects
    exact ⟨listed, isCaller, callee, isCallee, parsed, ih later⟩

theorem connects_iff_chain {path : List CallSiteRecord} :
    Connects index project root path symbolId ↔
      Chain (callsInOrder index project) root path symbolId := by
  refine ⟨fun connects => connects.chain .nil, fun chain => ?_⟩
  induction chain with
  | nil => exact rfl
  | snoc _ next ih => exact ih.snoc next

/-- What is reached by steps is what a chain of calls connects to. -/
theorem reaches_iff_connects :
    Relation.ReflTransGen (CallStep index project) root symbolId ↔
      ∃ path, Connects index project root path symbolId := by
  constructor
  · intro reaches
    induction reaches with
    | refl => exact ⟨[], rfl⟩
    | tail _ step ih =>
      obtain ⟨path, connects⟩ := ih
      obtain ⟨call, listed, isCaller, isCallee, parsed⟩ := step
      have longer := connects.snoc
        (mem_callsInOrder.mpr ⟨listed, isCaller, _, isCallee, parsed⟩)
      exact ⟨path ++ [call], callee_of_mem isCallee ▸ longer⟩
  · rintro ⟨path, connects⟩
    induction path generalizing root with
    | nil =>
      cases connects
      exact .refl
    | cons call rest ih =>
      obtain ⟨listed, isCaller, callee, isCallee, parsed, later⟩ := connects
      exact .head ⟨call, listed, isCaller, isCallee, parsed⟩ (ih later)

end

/-- The search ends with an empty queue.  It records a path to the symbols that are reached by calls
of parsed functions and to no other; the path connects the root to its symbol, and none that does
is shorter. -/
theorem resolvedCallPaths_shortest (index : SourceIndexArtifact) (project : ParsedProject)
    (root : SymbolId) :
    (BreadthFirst.search (callsInOrder index project) (searchBound index)
        (BreadthFirst.start root)).pending = [] ∧
      ∀ symbolId,
        ((∃ path, (resolvedCallPaths index root project).get? symbolId = some path) ↔
          Relation.ReflTransGen (CallStep index project) root symbolId) ∧
        ∀ path, (resolvedCallPaths index root project).get? symbolId = some path →
          Connects index project root path symbolId ∧
            ∀ other, Connects index project root other symbolId →
              path.length ≤ other.length := by
  refine ⟨BreadthFirst.pending_breadthFirst (chain_bounded callsInOrder_resolved rfl)
    reachableBound_length, fun symbolId => ⟨?_, fun path recorded => ?_⟩⟩
  · rw [reaches_iff_connects]
    constructor
    · rintro ⟨path, recorded⟩
      exact ⟨path, connects_iff_chain.mpr (resolvedCallPaths_eq_some_iff.mp recorded).1⟩
    · rintro ⟨path, connects⟩
      exact exists_resolvedCallPath (connects_iff_chain.mp connects)
  · obtain ⟨chain, first⟩ := resolvedCallPaths_eq_some_iff.mp recorded
    refine ⟨connects_iff_chain.mpr chain, fun other connects => ?_⟩
    rcases first other (connects_iff_chain.mp connects) with rfl | before
    · exact le_rfl
    · exact before.length_le

/-! ## One chain -/

/-- The two searches find the same chain exactly when one chain is the first of the shortest
both by position and by JSON text, or when there is none. -/
theorem resolvedPath_eq_resolvedCallPaths_iff (text : BuildText) (index : SourceIndexArtifact)
    (project : ParsedProject) (root goal : SymbolId) :
    resolvedPath text index root goal = (resolvedCallPaths index root project).get? goal ↔
      (∀ path, ¬ Chain (callsByText text index) root path goal) ∨
        ∃ path, First (callsInOrder index project) root path goal ∧
          First (callsByText text index) root path goal := by
  constructor
  · intro same
    cases found : resolvedPath text index root goal with
    | none =>
      refine .inl fun path chain => ?_
      obtain ⟨known, recorded⟩ := Dict.exists_get? (BreadthFirst.mem_keys_breadthFirst
        (chain_bounded callsByText_resolved rfl) reachableBound_length chain)
      rw [resolvedPath, BreadthFirst.findPath_eq (chain_bounded callsByText_resolved rfl)
        reachableBound_length, recorded] at found
      cases found
    | some path =>
      refine .inr ⟨path, ?_, resolvedPath_eq_some_iff.mp found⟩
      exact resolvedCallPaths_eq_some_iff.mp (same ▸ found)
  · rintro (unreachable | ⟨path, byPosition, byText⟩)
    · cases found : resolvedPath text index root goal with
      | some path => exact absurd (resolvedPath_eq_some_iff.mp found).1 (unreachable path)
      | none =>
        cases recorded : (resolvedCallPaths index root project).get? goal with
        | none => rfl
        | some path =>
          have chain := (resolvedCallPaths_eq_some_iff.mp recorded).1
          exact absurd (chain_callsByText chain) (unreachable path)
    · rw [resolvedPath_eq_some_iff.mpr byText, resolvedCallPaths_eq_some_iff.mpr byPosition]

section Example

/-- The parameters of a function without parameters. -/
def noArguments : Arguments := ⟨[], [], none, [], [], none, []⟩

/-- A function of one file, with an empty body. -/
def emptyFunction (symbolId : SymbolId) : FunctionControlModel where
  symbol := ⟨symbolId, "file", symbolId, .function, ⟨"main.py", 1, 0, 1, 0⟩⟩
  function := ⟨⟨0, 1, 0, 1, 0⟩, false, symbolId, noArguments, [], [], none⟩
  module := ⟨"main.py", Dict.empty, []⟩
  nameOrigins := Dict.empty
  distinctNodes := List.nodup_nil

/-- A project of empty functions. -/
def emptyFunctions (symbols : List SymbolId) : ParsedProject where
  function? symbolId := if symbolId ∈ symbols then some (emptyFunction symbolId) else none
  keyed := by
    intro symbolId model found
    split at found
    next _ => cases found; rfl
    next _ => cases found

/-- Texts that are their own digests, and JSON strings without escapes. -/
def plainText : BuildText where
  digest := id
  strip := id
  casefold := id
  upper := id
  dump _ := ""
  quote s := "\"" ++ s ++ "\""
  nodeJson _ := ""
  edgeJson _ := ""
  diagnosticJson _ := ""
  provenanceJson _ := ""
  branchJson _ := ""

/-- A call in one file. -/
def callAt (caller callee : SymbolId) (line : Nat) : CallSiteRecord :=
  ⟨caller, some callee, callee, ⟨"main.py", line, 4, line, 12⟩⟩

/-- A handler that calls `notify` and then `fulfil`, which both call `deliver`. -/
def twoChains : SourceIndexArtifact where
  projectId := "project"
  sourceIndexFingerprint := "fingerprint"
  symbols := ["handler", "notify", "fulfil", "deliver"].map fun symbolId =>
    ⟨symbolId, "file", symbolId, .function, ⟨"main.py", 1, 0, 1, 0⟩⟩
  callSites := [callAt "handler" "notify" 5, callAt "handler" "fulfil" 6,
    callAt "notify" "deliver" 9, callAt "fulfil" "deliver" 12]
  frameworkInstances := []
  appTargets := []
  routes := []
  routerIncludes := []
  completeness := .complete
  symbolsUnique := by decide
  frameworksUnique := List.nodup_nil
  callSitesKnown := by decide

/-- The two searches of `twoChains` record different chains to `deliver`. -/
theorem twoChains_resolvedPath :
    resolvedPath plainText twoChains "handler" "deliver" =
        some [callAt "handler" "fulfil" 6, callAt "fulfil" "deliver" 12] ∧
      (resolvedCallPaths twoChains "handler"
          (emptyFunctions ["handler", "notify", "fulfil", "deliver"])).get? "deliver" =
        some [callAt "handler" "notify" 5, callAt "notify" "deliver" 9] := by
  decide +kernel

/-- The path that is recorded for `deliver` is a shortest one. -/
theorem twoChains_shortest :
    Connects twoChains (emptyFunctions ["handler", "notify", "fulfil", "deliver"]) "handler"
        [callAt "handler" "notify" 5, callAt "notify" "deliver" 9] "deliver" ∧
      ∀ other, Connects twoChains (emptyFunctions ["handler", "notify", "fulfil", "deliver"])
        "handler" other "deliver" → 2 ≤ other.length :=
  ((resolvedCallPaths_shortest twoChains _ "handler").2 "deliver").2 _ (by decide +kernel)

end Example

end StateGuard
