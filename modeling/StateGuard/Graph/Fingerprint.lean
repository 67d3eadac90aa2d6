import StateGuard.Contracts.CanonicalJson
import StateGuard.Graph.Words

/-!
# The fingerprint of a graph

`graph_fingerprint` digests the contents of a graph as canonical JSON.  The diagnostics, the nodes
and the edges are put in the order of their own canonical JSON before (`orderedRecords`).

A record is dumped with all its fields, so it is told by its dump (`Json.Dumps`).  The order is
therefore one of the records themselves, whatever order they come in (`orderedRecords_perm`), and
two graphs that have one text hold the same records equally often (`contents_of_graphPreimage`).
-/

namespace StateGuard

open Python Checks KeyOrder
open Json (Dumps Fields)

/-! ## Dumps -/

/-- `model_dump(mode="json")` of a location, and so on for each record. -/
def SourceLocation.json (location : SourceLocation) : Json :=
  .object
    [("path", .ofString location.path),
      ("line_start", .int location.lineStart),
      ("column_start", .int location.columnStart),
      ("line_end", .int location.lineEnd),
      ("column_end", .int location.columnEnd)]

def ProvenanceRecord.json (record : ProvenanceRecord) : Json :=
  .object
    [("kind", .ofString record.kind.value),
      ("reference", .ofString record.reference),
      ("source_location", record.sourceLocation.elim .null SourceLocation.json),
      ("supporting_fingerprint", record.supportingFingerprint.elim .null .ofString)]

def GraphDiagnosticRecord.json (diagnostic : GraphDiagnosticRecord) : Json :=
  .object
    [("code", .ofString diagnostic.code.value),
      ("impact", .ofString diagnostic.impact.value),
      ("candidate_kind", diagnostic.candidateKind.elim .null fun kind => .ofString kind.value),
      ("reason", diagnostic.reason.elim .null fun reason => .ofString reason.value),
      ("symbol_id", diagnostic.symbolId.elim .null .ofString),
      ("route_registration_id", diagnostic.routeRegistrationId.elim .null .ofString),
      ("source_location", diagnostic.sourceLocation.elim .null SourceLocation.json)]

def CheckoutFieldBinding.json (binding : CheckoutFieldBinding) : Json :=
  .object
    [("canonical_name", .ofString binding.canonicalName),
      ("request_name", .ofString binding.requestName)]

def CheckoutRequestBinding.json (binding : CheckoutRequestBinding) : Json :=
  .object
    [("transport", .ofString binding.transport.value),
      ("fields", .list (binding.fields.map CheckoutFieldBinding.json))]

def EffectiveRouteRegistration.json (registration : EffectiveRouteRegistration) : Json :=
  .object
    [("route_registration_id", .ofString registration.routeRegistrationId),
      ("app_instance_id", .ofString registration.appInstanceId),
      ("registrar_instance_id", .ofString registration.registrarInstanceId),
      ("method", .ofString registration.method),
      ("component_path", .ofString registration.componentPath),
      ("effective_path", .ofString registration.effectivePath)]

def PaymentIngressDetails.json (details : PaymentIngressDetails) : Json :=
  .object
    [("detail_kind", .ofString "PAYMENT_INGRESS"),
      ("ingress_kind", .ofString details.ingressKind.value),
      ("registration", details.registration.json),
      ("evidence_families", .list (details.evidenceFamilies.map .ofString)),
      ("checkout_request_binding",
        details.checkoutRequestBinding.elim .null CheckoutRequestBinding.json)]

def TrustGateDetails.json (details : TrustGateDetails) : Json :=
  .object
    [("detail_kind", .ofString "TRUST_GATE"),
      ("trust_kind", .ofString details.trustKind.value),
      ("route_registration_id", .ofString details.routeRegistrationId),
      ("structural_anchor", .ofString details.structuralAnchor),
      ("webhook_body_origin",
        details.webhookBodyOrigin.elim .null fun origin => .ofString origin.value),
      ("order_identity_origin",
        details.orderIdentityOrigin.elim .null fun origin => .ofString origin.value)]

def EventIdentityGuardDetails.json (details : EventIdentityGuardDetails) : Json :=
  .object
    [("detail_kind", .ofString "EVENT_IDENTITY_GUARD"),
      ("route_registration_id", .ofString details.routeRegistrationId),
      ("structural_anchor", .ofString details.structuralAnchor),
      ("strategy", .ofString details.strategy.value)]

def PaymentStateGateDetails.json (details : PaymentStateGateDetails) : Json :=
  .object
    [("detail_kind", .ofString "PAYMENT_STATE_GATE"),
      ("route_registration_id", .ofString details.routeRegistrationId),
      ("structural_anchor", .ofString details.structuralAnchor),
      ("operator", .ofString details.operator.value),
      ("states", .list (details.states.map .ofString))]

def MerchantStateMutationDetails.json (details : MerchantStateMutationDetails) : Json :=
  .object
    [("detail_kind", .ofString "MERCHANT_STATE_MUTATION"),
      ("route_registration_id", .ofString details.routeRegistrationId),
      ("structural_anchor", .ofString details.structuralAnchor),
      ("mutation_kind", .ofString details.mutationKind.value),
      ("carrier_reference", .ofString details.carrierReference),
      ("assigned_payment_state",
        details.assignedPaymentState.elim .null fun state => .ofString state.value)]

def AcknowledgementBoundaryDetails.json (details : AcknowledgementBoundaryDetails) : Json :=
  .object
    [("detail_kind", .ofString "ACKNOWLEDGEMENT_BOUNDARY"),
      ("route_registration_id", .ofString details.routeRegistrationId),
      ("structural_anchor", .ofString details.structuralAnchor),
      ("exit_kind", .ofString details.exitKind.value),
      ("status_code", details.statusCode.elim .null fun code => .int code),
      ("outcome", .ofString details.outcome.value)]

def GraphNodeDetails.json : GraphNodeDetails → Json
  | .paymentIngress details => details.json
  | .trustGate details => details.json
  | .eventIdentityGuard details => details.json
  | .paymentStateGate details => details.json
  | .merchantStateMutation details => details.json
  | .acknowledgementBoundary details => details.json
  | .customerValueAction => .null

def GraphNode.json (node : GraphNode) : Json :=
  .object
    [("node_id", .ofString node.nodeId),
      ("kind", .ofString node.details.kind.value),
      ("label", .ofString node.label),
      ("backing_symbol_id", .ofString node.backingSymbolId),
      ("details", node.details.json),
      ("provenance", .list (node.provenance.map ProvenanceRecord.json))]

def GraphBranchDetails.json (branch : GraphBranchDetails) : Json :=
  .object
    [("disposition", .ofString branch.disposition.value),
      ("states", .list (branch.states.map .ofString))]

def GraphEdge.json (edge : GraphEdge) : Json :=
  .object
    [("edge_id", .ofString edge.edgeId),
      ("source_node_id", .ofString edge.sourceNodeId),
      ("target_node_id", .ofString edge.targetNodeId),
      ("kind", .ofString edge.kind.value),
      ("branch", edge.branch.elim .null GraphBranchDetails.json),
      ("provenance", .list (edge.provenance.map ProvenanceRecord.json))]

/-! ## The fingerprint -/

section

variable (numerals : Numerals)

/-- `_ordered_records`: the dumps of the records, by their canonical JSON. -/
def orderedRecords {α : Type} (dump : α → Json) (records : List α) :
    Except Exception (List Json) := do
  let keyed ← collect (fun record => do
    let key ← canonicalJson numerals (dump record)
    pure (key, record)) records
  pure ((sortedByKey Prod.fst keyed).map fun item => dump item.2)

/-- What `graph_fingerprint` digests, before it is written. -/
def graphContents (projectId : ProjectId) (sourceIndexFingerprint : Sha256Digest)
    (completeness : GraphCompleteness) (diagnostics : List GraphDiagnosticRecord)
    (nodes : List GraphNode) (edges : List GraphEdge) : Except Exception Json := do
  let diagnostics ← orderedRecords numerals GraphDiagnosticRecord.json diagnostics
  let nodes ← orderedRecords numerals GraphNode.json nodes
  let edges ← orderedRecords numerals GraphEdge.json edges
  pure <| .object
    [("schema_version", .int 2),
      ("project_id", .ofString projectId),
      ("source_index_fingerprint", .ofString sourceIndexFingerprint),
      ("completeness", .ofString completeness.value),
      ("diagnostics", .list diagnostics),
      ("nodes", .list nodes),
      ("edges", .list edges)]

/-- The canonical JSON of the contents. -/
def graphPreimage (projectId : ProjectId) (sourceIndexFingerprint : Sha256Digest)
    (completeness : GraphCompleteness) (diagnostics : List GraphDiagnosticRecord)
    (nodes : List GraphNode) (edges : List GraphEdge) : Except Exception Str := do
  let contents ← graphContents numerals projectId sourceIndexFingerprint completeness diagnostics
    nodes edges
  canonicalJson numerals contents

/-- `graph_fingerprint`.  The digest is of the UTF-8 bytes of a text. -/
def graphFingerprint (sha256 : Str → Sha256Digest) (projectId : ProjectId)
    (sourceIndexFingerprint : Sha256Digest) (completeness : GraphCompleteness)
    (diagnostics : List GraphDiagnosticRecord) (nodes : List GraphNode) (edges : List GraphEdge) :
    Except Exception Sha256Digest := do
  let preimage ← graphPreimage numerals projectId sourceIndexFingerprint completeness diagnostics
    nodes edges
  raiseIf (preimage.isUnicode = false) .unicodeEncodeError
  pure (sha256 preimage)

end

/-! ## Records are told by their dumps -/

theorem SourceLocation.dumps : Dumps SourceLocation.json :=
  .object ["path", "line_start", "column_start", "line_end", "column_end"] (by decide)
    (fun _ => rfl)
    (Dumps.ofString.field path <|
      Dumps.ofNat.field lineStart <|
      Dumps.ofNat.field columnStart <|
      Dumps.ofNat.field lineEnd <|
      Dumps.ofNat.field columnEnd .nil)
    (by
      rintro ⟨⟩ ⟨⟩ alike
      simpa using alike)

theorem ProvenanceRecord.dumps : Dumps ProvenanceRecord.json :=
  .object ["kind", "reference", "source_location", "supporting_fingerprint"] (by decide)
    (fun _ => rfl)
    ((Dumps.ofValue ProvenanceKind.value_injective).field kind <|
      Dumps.ofString.field reference <|
      (SourceLocation.dumps.optional nofun).field sourceLocation <|
      (Dumps.ofString.optional nofun).field supportingFingerprint .nil)
    (by
      rintro ⟨⟩ ⟨⟩ alike
      simpa using alike)

theorem GraphDiagnosticRecord.dumps : Dumps GraphDiagnosticRecord.json :=
  .object
    ["code", "impact", "candidate_kind", "reason", "symbol_id", "route_registration_id",
      "source_location"]
    (by decide) (fun _ => rfl)
    ((Dumps.ofValue GraphDiagnosticCode.value_injective).field code <|
      (Dumps.ofValue GraphDiagnosticImpact.value_injective).field impact <|
      ((Dumps.ofValue GraphCandidateKind.value_injective).optional nofun).field candidateKind <|
      ((Dumps.ofValue GraphDiagnosticReason.value_injective).optional nofun).field reason <|
      (Dumps.ofString.optional nofun).field symbolId <|
      (Dumps.ofString.optional nofun).field routeRegistrationId <|
      (SourceLocation.dumps.optional nofun).field sourceLocation .nil)
    (by
      rintro ⟨⟩ ⟨⟩ alike
      simpa using alike)

theorem CheckoutFieldBinding.dumps : Dumps CheckoutFieldBinding.json :=
  .object ["canonical_name", "request_name"] (by decide)
    (fun _ => rfl)
    (Dumps.ofString.field canonicalName <|
      Dumps.ofString.field requestName .nil)
    (by
      rintro ⟨⟩ ⟨⟩ alike
      simpa using alike)

theorem CheckoutRequestBinding.dumps : Dumps CheckoutRequestBinding.json :=
  .object ["transport", "fields"] (by decide)
    (fun _ => rfl)
    ((Dumps.ofValue CheckoutRequestTransport.value_injective).field transport <|
      CheckoutFieldBinding.dumps.list.field fields .nil)
    (by
      rintro ⟨⟩ ⟨⟩ alike
      simpa using alike)

theorem EffectiveRouteRegistration.dumps : Dumps EffectiveRouteRegistration.json :=
  .object
    ["route_registration_id", "app_instance_id", "registrar_instance_id", "method",
      "component_path", "effective_path"]
    (by decide) (fun _ => rfl)
    (Dumps.ofString.field routeRegistrationId <|
      Dumps.ofString.field appInstanceId <|
      Dumps.ofString.field registrarInstanceId <|
      Dumps.ofString.field method <|
      Dumps.ofString.field componentPath <|
      Dumps.ofString.field effectivePath .nil)
    (by
      rintro ⟨⟩ ⟨⟩ alike
      simpa using alike)

theorem PaymentIngressDetails.dumps : Dumps PaymentIngressDetails.json :=
  .object
    ["detail_kind", "ingress_kind", "registration", "evidence_families",
      "checkout_request_binding"]
    (by decide) (fun _ => rfl)
    (Dumps.ofString.field (fun _ => "PAYMENT_INGRESS") <|
      (Dumps.ofValue PaymentIngressKind.value_injective).field ingressKind <|
      EffectiveRouteRegistration.dumps.field registration <|
      Dumps.ofString.list.field evidenceFamilies <|
      (CheckoutRequestBinding.dumps.optional nofun).field checkoutRequestBinding .nil)
    (by
      rintro ⟨⟩ ⟨⟩ alike
      simpa using alike)

theorem TrustGateDetails.dumps : Dumps TrustGateDetails.json :=
  .object
    ["detail_kind", "trust_kind", "route_registration_id", "structural_anchor",
      "webhook_body_origin", "order_identity_origin"]
    (by decide) (fun _ => rfl)
    (Dumps.ofString.field (fun _ => "TRUST_GATE") <|
      (Dumps.ofValue TrustGateKind.value_injective).field trustKind <|
      Dumps.ofString.field routeRegistrationId <|
      Dumps.ofString.field structuralAnchor <|
      ((Dumps.ofValue WebhookBodyOrigin.value_injective).optional nofun).field webhookBodyOrigin <|
      ((Dumps.ofValue OrderIdentityOrigin.value_injective).optional nofun).field
        orderIdentityOrigin .nil)
    (by
      rintro ⟨⟩ ⟨⟩ alike
      simpa using alike)

theorem EventIdentityGuardDetails.dumps : Dumps EventIdentityGuardDetails.json :=
  .object ["detail_kind", "route_registration_id", "structural_anchor", "strategy"] (by decide)
    (fun _ => rfl)
    (Dumps.ofString.field (fun _ => "EVENT_IDENTITY_GUARD") <|
      Dumps.ofString.field routeRegistrationId <|
      Dumps.ofString.field structuralAnchor <|
      (Dumps.ofValue EventIdentityStrategy.value_injective).field strategy .nil)
    (by
      rintro ⟨⟩ ⟨⟩ alike
      simpa using alike)

theorem PaymentStateGateDetails.dumps : Dumps PaymentStateGateDetails.json :=
  .object
    ["detail_kind", "route_registration_id", "structural_anchor", "operator", "states"]
    (by decide) (fun _ => rfl)
    (Dumps.ofString.field (fun _ => "PAYMENT_STATE_GATE") <|
      Dumps.ofString.field routeRegistrationId <|
      Dumps.ofString.field structuralAnchor <|
      (Dumps.ofValue PaymentStateOperator.value_injective).field operator <|
      Dumps.ofString.list.field states .nil)
    (by
      rintro ⟨⟩ ⟨⟩ alike
      simpa using alike)

theorem MerchantStateMutationDetails.dumps : Dumps MerchantStateMutationDetails.json :=
  .object
    ["detail_kind", "route_registration_id", "structural_anchor", "mutation_kind",
      "carrier_reference", "assigned_payment_state"]
    (by decide) (fun _ => rfl)
    (Dumps.ofString.field (fun _ => "MERCHANT_STATE_MUTATION") <|
      Dumps.ofString.field routeRegistrationId <|
      Dumps.ofString.field structuralAnchor <|
      (Dumps.ofValue MerchantMutationKind.value_injective).field mutationKind <|
      Dumps.ofString.field carrierReference <|
      ((Dumps.ofValue AssignedPaymentState.value_injective).optional nofun).field
        assignedPaymentState .nil)
    (by
      rintro ⟨⟩ ⟨⟩ alike
      simpa using alike)

theorem AcknowledgementBoundaryDetails.dumps : Dumps AcknowledgementBoundaryDetails.json :=
  .object
    ["detail_kind", "route_registration_id", "structural_anchor", "exit_kind", "status_code",
      "outcome"]
    (by decide) (fun _ => rfl)
    (Dumps.ofString.field (fun _ => "ACKNOWLEDGEMENT_BOUNDARY") <|
      Dumps.ofString.field routeRegistrationId <|
      Dumps.ofString.field structuralAnchor <|
      (Dumps.ofValue AcknowledgementExitKind.value_injective).field exitKind <|
      (Dumps.ofNat.optional nofun).field statusCode <|
      (Dumps.ofValue AcknowledgementOutcome.value_injective).field outcome .nil)
    (by
      rintro ⟨⟩ ⟨⟩ alike
      simpa using alike)

theorem GraphNodeDetails.floatless_json (details : GraphNodeDetails) :
    details.json.floatless = true := by
  cases details with
  | paymentIngress details => exact PaymentIngressDetails.dumps.floatless details
  | trustGate details => exact TrustGateDetails.dumps.floatless details
  | eventIdentityGuard details => exact EventIdentityGuardDetails.dumps.floatless details
  | paymentStateGate details => exact PaymentStateGateDetails.dumps.floatless details
  | merchantStateMutation details => exact MerchantStateMutationDetails.dumps.floatless details
  | acknowledgementBoundary details => exact AcknowledgementBoundaryDetails.dumps.floatless details
  | customerValueAction => rfl

theorem GraphNodeDetails.unicode_json (details : GraphNodeDetails) :
    details.json.isUnicode = true := by
  cases details with
  | paymentIngress details => exact PaymentIngressDetails.dumps.unicode details
  | trustGate details => exact TrustGateDetails.dumps.unicode details
  | eventIdentityGuard details => exact EventIdentityGuardDetails.dumps.unicode details
  | paymentStateGate details => exact PaymentStateGateDetails.dumps.unicode details
  | merchantStateMutation details => exact MerchantStateMutationDetails.dumps.unicode details
  | acknowledgementBoundary details => exact AcknowledgementBoundaryDetails.dumps.unicode details
  | customerValueAction => rfl

/-- Details of one kind are told by their dumps. -/
theorem GraphNodeDetails.eq_of_sorted {details others : GraphNodeDetails}
    (same : details.json.sorted = others.json.sorted) (kinds : details.kind = others.kind) :
    details = others := by
  cases details <;> cases others <;> cases kinds
  · exact congrArg paymentIngress (PaymentIngressDetails.dumps.injective same)
  · exact congrArg trustGate (TrustGateDetails.dumps.injective same)
  · exact congrArg eventIdentityGuard (EventIdentityGuardDetails.dumps.injective same)
  · exact congrArg paymentStateGate (PaymentStateGateDetails.dumps.injective same)
  · exact congrArg merchantStateMutation (MerchantStateMutationDetails.dumps.injective same)
  · exact congrArg acknowledgementBoundary (AcknowledgementBoundaryDetails.dumps.injective same)
  · rfl

/-- The kind of a node says which details its dump is of. -/
theorem GraphNode.dumps : Dumps GraphNode.json :=
  .object ["node_id", "kind", "label", "backing_symbol_id", "details", "provenance"] (by decide)
    (fun _ => rfl)
    (Dumps.ofString.field nodeId <|
      (Dumps.ofValue GraphNodeKind.value_injective).field
        (fun node : GraphNode => node.details.kind) <|
      Dumps.ofString.field label <|
      Dumps.ofString.field backingSymbolId <|
      .cons (fun node => node.details.floatless_json) (fun node => node.details.unicode_json)
        GraphNodeDetails.eq_of_sorted <|
      ProvenanceRecord.dumps.list.field provenance .nil)
    (by
      rintro ⟨⟩ ⟨⟩ ⟨sameId, kinds, sameLabel, sameSymbol, details, sameProvenance, -⟩
      simpa using ⟨sameId, sameLabel, sameSymbol, details kinds, sameProvenance⟩)

theorem GraphBranchDetails.dumps : Dumps GraphBranchDetails.json :=
  .object ["disposition", "states"] (by decide)
    (fun _ => rfl)
    ((Dumps.ofValue BranchDisposition.value_injective).field disposition <|
      Dumps.ofString.list.field states .nil)
    (by
      rintro ⟨⟩ ⟨⟩ alike
      simpa using alike)

theorem GraphEdge.dumps : Dumps GraphEdge.json :=
  .object
    ["edge_id", "source_node_id", "target_node_id", "kind", "branch", "provenance"]
    (by decide) (fun _ => rfl)
    (Dumps.ofString.field edgeId <|
      Dumps.ofString.field sourceNodeId <|
      Dumps.ofString.field targetNodeId <|
      (Dumps.ofValue GraphEdgeKind.value_injective).field kind <|
      (GraphBranchDetails.dumps.optional nofun).field branch <|
      ProvenanceRecord.dumps.list.field provenance .nil)
    (by
      rintro ⟨⟩ ⟨⟩ alike
      simpa using alike)

/-! ## The order of the records -/

/-- No integer in the dumps has more digits than Python writes. -/
def AllWritten {α : Type} (dump : α → Json) (records : List α) : Prop :=
  ∀ record ∈ records, (dump record).integersWritten = true

section

variable {numerals : Numerals} {α : Type} {dump : α → Json} {records others : List α}

/-- Records whose dumps are all written, with their texts. -/
theorem collect_keyed {items : List (Str × α)} :
    collect (fun record => do
      let key ← canonicalJson numerals (dump record)
      pure (key, record)) records = .ok items ↔
        AllWritten dump records ∧
          records.map (fun record => ((dump record).text numerals, record)) = items := by
  have keyed : AllWritten dump records → collect (fun record => do
      let key ← canonicalJson numerals (dump record)
      pure (key, record)) records =
        .ok (records.map fun record => ((dump record).text numerals, record)) := by
    intro written
    refine collect_eq_map fun record isRecord => ?_
    rw [canonicalJson_eq_ok.mpr ⟨written record isRecord, rfl⟩]
    rfl
  constructor
  · intro collected
    have written : AllWritten dump records := by
      intro record isRecord
      obtain ⟨item, isItem⟩ := collect_ok_iff.mp ⟨items, collected⟩ record isRecord
      simp only [bind_eq_ok, canonicalJson_eq_ok] at isItem
      obtain ⟨key, ⟨isWritten, -⟩, -⟩ := isItem
      exact isWritten
    rw [keyed written] at collected
    exact ⟨written, Except.ok.inj collected⟩
  · rintro ⟨written, rfl⟩
    exact keyed written

theorem orderedRecords_eq_ok {values : List Json} :
    orderedRecords numerals dump records = .ok values ↔
      AllWritten dump records ∧
        (sortedByKey (fun record => (dump record).text numerals) records).map dump = values := by
  have ordered : (sortedByKey Prod.fst
      (records.map fun record => ((dump record).text numerals, record))).map
        (fun item => dump item.2) =
      (sortedByKey (fun record => (dump record).text numerals) records).map dump := by
    rw [← map_sortedByKey (f := fun record => ((dump record).text numerals, record))
      fun _ _ _ _ => Iff.rfl, List.map_map]
    rfl
  simp only [orderedRecords, bind_eq_ok, collect_keyed, pure_eq_ok]
  constructor
  · rintro ⟨items, ⟨written, rfl⟩, rfl⟩
    exact ⟨written, ordered.symm⟩
  · rintro ⟨written, rfl⟩
    exact ⟨_, ⟨written, rfl⟩, ordered⟩

/-- All that an integer with too many digits raises is a `ValueError`. -/
theorem orderedRecords_unwritten (unwritten : ¬ AllWritten dump records) :
    orderedRecords numerals dump records = .error .valueError := by
  rw [orderedRecords]
  cases collected : collect (fun record => do
      let key ← canonicalJson numerals (dump record)
      pure (key, record)) records with
  | ok items => exact absurd (collect_keyed.mp collected).1 unwritten
  | error raised =>
    obtain ⟨record, -, isRaised⟩ := error_of_collect collected
    rw [canonicalJson, raiseIf] at isRaised
    split at isRaised
    next =>
      cases isRaised
      rfl
    next => cases isRaised

/-- The records are put in one order, whatever order they come in. -/
theorem orderedRecords_perm (dumps : Dumps dump) (perm : records.Perm others) :
    orderedRecords numerals dump records = orderedRecords numerals dump others := by
  by_cases written : AllWritten dump records
  · have otherWritten : AllWritten dump others :=
      fun record isOther => written record (perm.mem_iff.mpr isOther)
    rw [orderedRecords_eq_ok.mpr ⟨written, rfl⟩, orderedRecords_eq_ok.mpr ⟨otherWritten, rfl⟩,
      sortedByKey_eq_of_injective (dumps.text_injective numerals) perm]
  · have otherUnwritten : ¬ AllWritten dump others :=
      fun otherWritten => written fun record isRecord =>
        otherWritten record (perm.mem_iff.mp isRecord)
    rw [orderedRecords_unwritten written, orderedRecords_unwritten otherUnwritten]

/-- Records with the same dumps in order are the same, up to their order. -/
theorem perm_of_orderedRecords (dumps : Dumps dump) {values otherValues : List Json}
    (ordered : orderedRecords numerals dump records = .ok values)
    (otherOrdered : orderedRecords numerals dump others = .ok otherValues)
    (same : (Json.list values).sorted = (Json.list otherValues).sorted) : records.Perm others := by
  obtain ⟨-, rfl⟩ := orderedRecords_eq_ok.mp ordered
  obtain ⟨-, rfl⟩ := orderedRecords_eq_ok.mp otherOrdered
  have orders := dumps.list.injective same
  refine (sortedByKey_perm (fun record => (dump record).text numerals) records).symm.trans ?_
  rw [orders]
  exact sortedByKey_perm _ others

/-- The dumps of records in order have what each dump has. -/
theorem forall_of_orderedRecords {p : Json → Prop} (each : ∀ a, p (dump a)) {values : List Json}
    (ordered : orderedRecords numerals dump records = .ok values) : ∀ value ∈ values, p value := by
  obtain ⟨-, rfl⟩ := orderedRecords_eq_ok.mp ordered
  intro value isValue
  obtain ⟨record, -, rfl⟩ := List.mem_map.mp isValue
  exact each record

end

/-! ## The contents of a graph -/

section

variable {numerals : Numerals} {sha256 : Str → Sha256Digest} {projectId otherProjectId : ProjectId}
  {sourceIndexFingerprint otherFingerprint : Sha256Digest}
  {completeness otherCompleteness : GraphCompleteness}
  {diagnostics otherDiagnostics : List GraphDiagnosticRecord} {nodes otherNodes : List GraphNode}
  {edges otherEdges : List GraphEdge}

theorem graphContents_perm (sameDiagnostics : diagnostics.Perm otherDiagnostics)
    (sameNodes : nodes.Perm otherNodes) (sameEdges : edges.Perm otherEdges) :
    graphContents numerals projectId sourceIndexFingerprint completeness diagnostics nodes edges =
      graphContents numerals projectId sourceIndexFingerprint completeness otherDiagnostics
        otherNodes otherEdges := by
  rw [graphContents, graphContents,
    orderedRecords_perm GraphDiagnosticRecord.dumps sameDiagnostics,
    orderedRecords_perm GraphNode.dumps sameNodes, orderedRecords_perm GraphEdge.dumps sameEdges]

/-- The contents have no float and no surrogate. -/
theorem graphContents_plain {contents : Json}
    (built : graphContents numerals projectId sourceIndexFingerprint completeness diagnostics nodes
      edges = .ok contents) :
    contents.floatless = true ∧ contents.isUnicode = true := by
  simp only [graphContents, bind_eq_ok, pure_eq_ok] at built
  obtain ⟨ds, isDiagnostics, ns, isNodes, es, isEdges, rfl⟩ := built
  have floatless : ∀ {α : Type} {dump : α → Json} {records : List α} {values : List Json},
      Dumps dump → orderedRecords numerals dump records = .ok values →
        (Json.list values).floatless = true :=
    fun dumps ordered =>
      Json.itemsFloatless_iff.mpr (forall_of_orderedRecords dumps.floatless ordered)
  have unicode : ∀ {α : Type} {dump : α → Json} {records : List α} {values : List Json},
      Dumps dump → orderedRecords numerals dump records = .ok values →
        (Json.list values).isUnicode = true :=
    fun dumps ordered => Json.itemsUnicode_iff.mpr (forall_of_orderedRecords dumps.unicode ordered)
  constructor
  · rw [Json.floatless_object]
    simp only [List.all_cons, List.all_nil, Dumps.ofString.floatless, Bool.and_true,
      floatless GraphDiagnosticRecord.dumps isDiagnostics, floatless GraphNode.dumps isNodes,
      floatless GraphEdge.dumps isEdges]
    rfl
  · rw [Json.isUnicode_object]
    simp only [List.all_cons, List.all_nil, Dumps.ofString.unicode, Bool.and_true,
      unicode GraphDiagnosticRecord.dumps isDiagnostics, unicode GraphNode.dumps isNodes,
      unicode GraphEdge.dumps isEdges]
    rfl

/-- Graphs with one preimage have the same contents, up to the order of their records. -/
theorem contents_of_graphPreimage {preimage : Str}
    (isPreimage : graphPreimage numerals projectId sourceIndexFingerprint completeness diagnostics
      nodes edges = .ok preimage)
    (isOther : graphPreimage numerals otherProjectId otherFingerprint otherCompleteness
      otherDiagnostics otherNodes otherEdges = .ok preimage) :
    projectId = otherProjectId ∧ sourceIndexFingerprint = otherFingerprint ∧
      completeness = otherCompleteness ∧ diagnostics.Perm otherDiagnostics ∧
      nodes.Perm otherNodes ∧ edges.Perm otherEdges := by
  simp only [graphPreimage, bind_eq_ok, canonicalJson_eq_ok] at isPreimage isOther
  obtain ⟨contents, built, -, isText⟩ := isPreimage
  obtain ⟨others, otherBuilt, -, rfl⟩ := isOther
  have same := Json.sorted_of_text (graphContents_plain built).1 (graphContents_plain otherBuilt).1
    isText
  simp only [graphContents, bind_eq_ok, pure_eq_ok] at built otherBuilt
  obtain ⟨ds, isDiagnostics, ns, isNodes, es, isEdges, rfl⟩ := built
  obtain ⟨ds', isDiagnostics', ns', isNodes', es', isEdges', rfl⟩ := otherBuilt
  have values := Json.values_of_sorted same rfl (by simp)
  simp only [List.map_cons, List.map_nil, List.cons.injEq] at values
  obtain ⟨-, sameProject, sameIndex, sameCompleteness, sameDs, sameNs, sameEs, -⟩ := values
  exact ⟨Dumps.ofString.injective sameProject, Dumps.ofString.injective sameIndex,
    (Dumps.ofValue GraphCompleteness.value_injective).injective sameCompleteness,
    perm_of_orderedRecords GraphDiagnosticRecord.dumps isDiagnostics isDiagnostics' sameDs,
    perm_of_orderedRecords GraphNode.dumps isNodes isNodes' sameNs,
    perm_of_orderedRecords GraphEdge.dumps isEdges isEdges' sameEs⟩

/-- A graph has a preimage unless one of its integers has too many digits. -/
theorem exists_graphPreimage_iff :
    (∃ preimage, graphPreimage numerals projectId sourceIndexFingerprint completeness diagnostics
      nodes edges = .ok preimage) ↔
      AllWritten GraphDiagnosticRecord.json diagnostics ∧ AllWritten GraphNode.json nodes ∧
        AllWritten GraphEdge.json edges := by
  simp only [graphPreimage, graphContents, bind_eq_ok, pure_eq_ok, canonicalJson_eq_ok,
    orderedRecords_eq_ok]
  constructor
  · rintro ⟨_, _, ⟨_, ⟨writtenDs, -⟩, _, ⟨writtenNs, -⟩, _, ⟨writtenEs, -⟩, -⟩, -⟩
    exact ⟨writtenDs, writtenNs, writtenEs⟩
  · rintro ⟨writtenDs, writtenNs, writtenEs⟩
    have written : ∀ {α : Type} {dump : α → Json} {records : List α}, AllWritten dump records →
        (Json.list ((sortedByKey (fun record => (dump record).text numerals) records).map
          dump)).integersWritten = true := by
      intro α dump records each
      refine Json.itemsWritten_iff.mpr fun value isValue => ?_
      obtain ⟨record, isRecord, rfl⟩ := List.mem_map.mp isValue
      exact each record ((mem_sortedByKey _ _ _).mp isRecord)
    refine ⟨_, _, ⟨_, ⟨writtenDs, rfl⟩, _, ⟨writtenNs, rfl⟩, _, ⟨writtenEs, rfl⟩, rfl⟩, ?_, rfl⟩
    have version : (Json.int 2).integersWritten = true := by decide +kernel
    have texts : ∀ s, (Json.ofString s).integersWritten = true := fun _ => rfl
    rw [Json.integersWritten_object]
    simp only [List.all_cons, List.all_nil, version, texts, written writtenDs, written writtenNs,
      written writtenEs, Bool.and_true]

end

/-- The fingerprint of a graph is the same for each order of its diagnostics, nodes and edges.  It
is the digest of the preimage of the graph, and graphs with different records, or with a record not
equally often, have different preimages. -/
theorem graphFingerprint_unordered (numerals : Numerals) (sha256 : Str → Sha256Digest)
    (projectId : ProjectId) (sourceIndexFingerprint : Sha256Digest)
    (completeness : GraphCompleteness) (diagnostics : List GraphDiagnosticRecord)
    (nodes : List GraphNode) (edges : List GraphEdge) :
    (∀ {diagnostics' nodes' edges'}, diagnostics.Perm diagnostics' → nodes.Perm nodes' →
      edges.Perm edges' →
        graphFingerprint numerals sha256 projectId sourceIndexFingerprint completeness diagnostics
            nodes edges =
          graphFingerprint numerals sha256 projectId sourceIndexFingerprint completeness
            diagnostics' nodes' edges') ∧
      ∀ {preimage}, graphPreimage numerals projectId sourceIndexFingerprint completeness
          diagnostics nodes edges = .ok preimage →
        graphFingerprint numerals sha256 projectId sourceIndexFingerprint completeness diagnostics
            nodes edges = .ok (sha256 preimage) ∧
          ∀ {projectId' sourceIndexFingerprint' completeness' diagnostics' nodes' edges' preimage'},
            graphPreimage numerals projectId' sourceIndexFingerprint' completeness' diagnostics'
                nodes' edges' = .ok preimage' →
              ¬ (diagnostics.Perm diagnostics' ∧ nodes.Perm nodes' ∧ edges.Perm edges') →
                preimage ≠ preimage' := by
  refine ⟨fun sameDiagnostics sameNodes sameEdges => ?_, fun {preimage} isPreimage => ⟨?_, ?_⟩⟩
  · rw [graphFingerprint, graphFingerprint, graphPreimage, graphPreimage,
      graphContents_perm sameDiagnostics sameNodes sameEdges]
  · have unicode : preimage.isUnicode = true := by
      have written := isPreimage
      simp only [graphPreimage, bind_eq_ok, canonicalJson_eq_ok] at written
      obtain ⟨contents, built, -, rfl⟩ := written
      rw [Json.isUnicode_text]
      exact (graphContents_plain built).2
    rw [graphFingerprint, isPreimage, ok_bind, raiseIf_of_not (by simp [unicode])]
    rfl
  · rintro projectId' sourceIndexFingerprint' completeness' diagnostics' nodes' edges' preimage'
      isOther different rfl
    obtain ⟨-, -, -, sameDiagnostics, sameNodes, sameEdges⟩ :=
      contents_of_graphPreimage isPreimage isOther
    exact different ⟨sameDiagnostics, sameNodes, sameEdges⟩

section Sample

/-- A handler that reads a parsed body. -/
def parsedBody : GraphDiagnosticRecord where
  code := .unresolvedStructuralCandidate
  impact := .coverageReduced
  candidateKind := some .webhookSignature
  reason := some .parsedBodyUsed
  sourceLocation := some ⟨"main.py", 12, 4, 12, 30⟩

/-- A call that is not resolved. -/
def unresolvedPath : GraphDiagnosticRecord where
  code := .callPathUnresolved
  impact := .notice

/-- Numbers as integers are written; the graph has no float. -/
def integerNumerals : Numerals := ⟨fun value => toString value, fun _ => none⟩

/-- The two diagnostics in both orders, and one of them twice. -/
theorem parsedBody_unordered :
    graphFingerprint integerNumerals (fun _ => "sha256:0") "sgproj" "sha256:index" .partialGraph
        [parsedBody, unresolvedPath] [] [] =
      graphFingerprint integerNumerals (fun _ => "sha256:0") "sgproj" "sha256:index" .partialGraph
        [unresolvedPath, parsedBody] [] [] ∧
    ∃ preimage preimage',
      graphPreimage integerNumerals "sgproj" "sha256:index" .partialGraph
          [parsedBody, unresolvedPath] [] [] = .ok preimage ∧
        graphPreimage integerNumerals "sgproj" "sha256:index" .partialGraph
          [parsedBody, unresolvedPath, parsedBody] [] [] = .ok preimage' ∧
        preimage ≠ preimage' := by
  have unordered := graphFingerprint_unordered integerNumerals (fun _ => "sha256:0") "sgproj"
    "sha256:index" .partialGraph [parsedBody, unresolvedPath] [] []
  have written : AllWritten GraphDiagnosticRecord.json
      [parsedBody, unresolvedPath, parsedBody] := by
    rw [AllWritten]
    decide +kernel
  have preimageOf : ∀ diagnostics : List GraphDiagnosticRecord,
      (∀ diagnostic ∈ diagnostics, diagnostic ∈ [parsedBody, unresolvedPath, parsedBody]) →
        ∃ preimage, graphPreimage integerNumerals "sgproj" "sha256:index" .partialGraph diagnostics
          [] [] = .ok preimage :=
    fun diagnostics known => exists_graphPreimage_iff.mpr
      ⟨fun diagnostic isDiagnostic => written diagnostic (known diagnostic isDiagnostic), nofun,
        nofun⟩
  obtain ⟨preimage, isPreimage⟩ := preimageOf [parsedBody, unresolvedPath] (by simp)
  obtain ⟨preimage', isOther⟩ := preimageOf [parsedBody, unresolvedPath, parsedBody] (by simp)
  refine ⟨unordered.1 (.swap _ _ _) .rfl .rfl, preimage, preimage', isPreimage, isOther, ?_⟩
  exact (unordered.2 isPreimage).2 isOther fun same => absurd same.1.length_eq (by decide)

end Sample

end StateGuard
