import StateGuard.Graph.Contracts
import StateGuard.Discovery.Contracts
import StateGuard.Python.Syntax

/-!
# Identities of the graph build

The identities of nodes, edges and statements are digests of their components.  The digest,
the texts of canonical JSON and the character tables behind `strip` and `casefold` are taken
as given (`BuildText`); a component list is joined by the unit separator before it is digested.

`DistinctDigests` says of finitely many component lists that their digests do not collide.
-/

namespace StateGuard

/-- What the graph build takes from hashing, serialisation and the Unicode tables. -/
structure BuildText where
  /-- The first 32 hexadecimal digits of the SHA-256 digest of a text. -/
  digest : String → String
  /-- `str.strip`. -/
  strip : String → String
  /-- `str.casefold`. -/
  casefold : String → String
  /-- `str.upper`. -/
  upper : String → String
  /-- `ast.dump` without attributes. -/
  dump : Python.Stmt → String
  /-- The JSON text of a string. -/
  quote : String → String
  /-- `canonical_json` of the records of a graph. -/
  nodeJson : GraphNode → String
  edgeJson : GraphEdge → String
  diagnosticJson : GraphDiagnosticRecord → String
  provenanceJson : ProvenanceRecord → String
  branchJson : GraphBranchDetails → String

namespace BuildText

variable (text : BuildText)

/-- `_stable_id`. -/
def stableId (tag : String) (components : List String) : String :=
  tag ++ "_" ++ text.digest (String.intercalate "\x1f" components)

/-- `structural_anchor`. -/
def structuralAnchor (components : List String) : String :=
  text.stableId "sganchor" components

/-- `merchant_state_carrier_id`. -/
def merchantStateCarrierId (sourceFileId bindingName : String) : MerchantStateCarrierId :=
  text.stableId "sgcarrier" [sourceFileId, text.strip bindingName]

/-- `graph_node_id`. -/
def graphNodeId (kind backingIdentity discriminator : String) : GraphNodeId :=
  text.stableId "sgnode"
    [text.strip kind, text.strip backingIdentity, text.strip discriminator]

/-- `graph_edge_id`. -/
def graphEdgeId (kind sourceNodeId targetNodeId discriminator : String) : GraphEdgeId :=
  text.stableId "sgedge"
    [text.strip kind, sourceNodeId, targetNodeId, "0", text.strip discriminator]

/-- `include_occurrence_anchor`. -/
def includeOccurrenceAnchor (parentInstanceId includedRouterInstanceId : FrameworkInstanceId)
    (pathPrefix : Option String) (sameShapeOrdinal : Nat) : String :=
  text.stableId "sginclude" [parentInstanceId, includedRouterInstanceId,
    (pathPrefix.map text.strip).getD "<UNKNOWN>", toString sameShapeOrdinal]

/-- `route_registration_id`. -/
def routeRegistrationId (selectedAppInstanceId : FrameworkInstanceId)
    (includeAnchors : List String) (registrarInstanceId : FrameworkInstanceId)
    (ownerSymbolId : SymbolId) (method routePath : String) (sameShapeOrdinal : Nat) :
    RouteRegistrationId :=
  text.stableId "sgroute" (selectedAppInstanceId :: includeAnchors ++
    [registrarInstanceId, ownerSymbolId, text.upper (text.strip method), text.strip routePath,
      toString sameShapeOrdinal])

/-- `strip` and `casefold`, as literals and keys are compared. -/
def fold (s : String) : String := text.casefold (text.strip s)

/-- `canonical_json` of a location. -/
def locationJson (location : SourceLocation) : String :=
  "\x7b\"column_end\":" ++ toString location.columnEnd ++
    ",\"column_start\":" ++ toString location.columnStart ++
    ",\"line_end\":" ++ toString location.lineEnd ++
    ",\"line_start\":" ++ toString location.lineStart ++
    ",\"path\":" ++ text.quote location.path ++ "\x7d"

/-- `canonical_json` of a text that may be absent. -/
def optionalJson (value : Option String) : String := (value.map text.quote).getD "null"

/-- `canonical_json` of an include. -/
def includeJson (record : RouterIncludeRecord) : String :=
  "\x7b\"included_router_instance_id\":" ++ text.quote record.includedRouterInstanceId ++
    ",\"parent_instance_id\":" ++ text.quote record.parentInstanceId ++
    ",\"prefix\":" ++ text.optionalJson record.pathPrefix ++
    ",\"source_location\":" ++ text.locationJson record.sourceLocation ++ "\x7d"

/-- `canonical_json` of a route. -/
def routeJson (route : RouteRecord) : String :=
  "\x7b\"method\":" ++ text.quote route.method ++
    ",\"owner_symbol_id\":" ++ text.quote route.ownerSymbolId ++
    ",\"registrar_instance_id\":" ++ text.quote route.registrarInstanceId ++
    ",\"route_path\":" ++ text.quote route.routePath ++
    ",\"source_location\":" ++ text.locationJson route.sourceLocation ++ "\x7d"

/-- `canonical_json` of an effective route. -/
def registrationJson (registration : EffectiveRouteRegistration) : String :=
  "\x7b\"app_instance_id\":" ++ text.quote registration.appInstanceId ++
    ",\"component_path\":" ++ text.quote registration.componentPath ++
    ",\"effective_path\":" ++ text.quote registration.effectivePath ++
    ",\"method\":" ++ text.quote registration.method ++
    ",\"registrar_instance_id\":" ++ text.quote registration.registrarInstanceId ++
    ",\"route_registration_id\":" ++ text.quote registration.routeRegistrationId ++ "\x7d"

/-- `canonical_json` of a call site. -/
def callSiteJson (call : CallSiteRecord) : String :=
  "\x7b\"callee_reference\":" ++ text.quote call.calleeReference ++
    ",\"callee_symbol_id\":" ++ (call.calleeSymbolId.map text.quote).getD "null" ++
    ",\"caller_symbol_id\":" ++ text.quote call.callerSymbolId ++
    ",\"source_location\":" ++ text.locationJson call.sourceLocation ++ "\x7d"

end BuildText

/-- Component lists whose digests do not collide. -/
def DistinctDigests (text : BuildText) (keys : List (List String)) : Prop :=
  ∀ a ∈ keys, ∀ b ∈ keys,
    text.digest (String.intercalate "\x1f" a) = text.digest (String.intercalate "\x1f" b) → a = b

instance (text : BuildText) (keys : List (List String)) : Decidable (DistinctDigests text keys) :=
  inferInstanceAs (Decidable (∀ a ∈ keys, ∀ b ∈ keys, _ → a = b))

theorem DistinctDigests.stableId {text : BuildText} {keys : List (List String)}
    (distinct : DistinctDigests text keys) {tag : String} {a b : List String} (ma : a ∈ keys)
    (mb : b ∈ keys) (same : text.stableId tag a = text.stableId tag b) : a = b := by
  refine distinct a ma b mb ?_
  exact String.append_right_inj _ |>.mp same

end StateGuard
