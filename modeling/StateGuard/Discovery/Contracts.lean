import StateGuard.Contracts.Vocabulary

/-!
# The source index

The records of the source index that the graph build reads: the indexed symbols, the call
sites between them, and what was found of the web framework.  A call site that was not resolved
has no callee; a prefix that is no literal is unknown.
-/

namespace StateGuard

inductive SymbolKind where
  | function | asyncFunction | method | asyncMethod | classDef | module
  deriving DecidableEq, Repr

/-- The kinds of symbols that can be called and analysed. -/
def SymbolKind.callable : SymbolKind → Bool
  | .function | .asyncFunction | .method | .asyncMethod => true
  | .classDef | .module => false

structure SymbolRecord where
  symbolId : SymbolId
  sourceFileId : SourceFileId
  qualifiedName : String
  kind : SymbolKind
  sourceLocation : SourceLocation
  deriving DecidableEq, Repr

structure CallSiteRecord where
  callerSymbolId : SymbolId
  calleeSymbolId : Option SymbolId
  calleeReference : String
  sourceLocation : SourceLocation
  deriving DecidableEq, Repr

inductive FrameworkKind where
  | fastapiApp | apiRouter
  deriving DecidableEq, Repr

inductive AppTargetSelection where
  | configured | autoSelected | autoCandidate
  deriving DecidableEq, Repr

/-- An application object that may be served. -/
structure AppTargetRecord where
  importTarget : String
  frameworkInstanceId : FrameworkInstanceId
  selection : AppTargetSelection
  sourceLocation : SourceLocation
  deriving DecidableEq, Repr

/-- An application or a router. -/
structure FrameworkInstanceRecord where
  frameworkInstanceId : FrameworkInstanceId
  sourceFileId : SourceFileId
  qualifiedBindingName : String
  kind : FrameworkKind
  pathPrefix : Option String
  sourceLocation : SourceLocation
  deriving DecidableEq, Repr

/-- A handler registered on an application or a router. -/
structure RouteRecord where
  ownerSymbolId : SymbolId
  registrarInstanceId : FrameworkInstanceId
  method : String
  routePath : String
  sourceLocation : SourceLocation
  deriving DecidableEq, Repr

/-- A router included in an application or a router. -/
structure RouterIncludeRecord where
  parentInstanceId : FrameworkInstanceId
  includedRouterInstanceId : FrameworkInstanceId
  pathPrefix : Option String
  sourceLocation : SourceLocation
  deriving DecidableEq, Repr

inductive ArtifactCompleteness where
  | complete | partialIndex
  deriving DecidableEq, Repr

/-- The source index. -/
structure SourceIndexArtifact where
  projectId : ProjectId
  sourceIndexFingerprint : Sha256Digest
  symbols : List SymbolRecord
  callSites : List CallSiteRecord
  frameworkInstances : List FrameworkInstanceRecord
  appTargets : List AppTargetRecord
  routes : List RouteRecord
  routerIncludes : List RouterIncludeRecord
  completeness : ArtifactCompleteness
  /-- No two symbols share an identity. -/
  symbolsUnique : (symbols.map (·.symbolId)).Nodup
  /-- No two framework instances share an identity. -/
  frameworksUnique : (frameworkInstances.map (·.frameworkInstanceId)).Nodup
  /-- Callers and resolved callees are indexed. -/
  callSitesKnown : ∀ call ∈ callSites, call.callerSymbolId ∈ symbols.map (·.symbolId) ∧
    ∀ callee ∈ call.calleeSymbolId, callee ∈ symbols.map (·.symbolId)

/-- An index of nothing has no unknown call sites. -/
theorem callSitesKnown_nil : ∀ call ∈ ([] : List CallSiteRecord),
    call.callerSymbolId ∈ ([] : List SymbolRecord).map (·.symbolId) ∧
      ∀ callee ∈ call.calleeSymbolId, callee ∈ ([] : List SymbolRecord).map (·.symbolId) := by
  simp

end StateGuard
