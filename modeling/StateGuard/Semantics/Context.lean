import StateGuard.Semantics.Contracts
import StateGuard.Library.KeyOrder
import StateGuard.Graph.SemanticProjection

/-!
# Semantic context

What a customer-value decision rests on: the symbols that are relevant, the omissions that are
known, and the evidence of source, calls and graph.  The fingerprint of a context covers the
relevant evidence and leaves out what was presented, so it does not depend on the bounds of a
provider.

The digests of JSON payloads are taken as given (`ContextHashing`): one function for each kind of
payload.
-/

namespace StateGuard

namespace Semantics

open KeyOrder

inductive SemanticDiagnosticCode where
  | candidateLimitReached | excerptByteLimitReached | relevantSourceDiagnostic
  | relevantGraphDiagnostic | relevantCallUnresolved | paymentIngressUndetermined
  | relevantSourceUnavailable | unsupportedInlineAction
  deriving DecidableEq, Repr

def SemanticDiagnosticCode.value : SemanticDiagnosticCode → String
  | .candidateLimitReached => "CANDIDATE_LIMIT_REACHED"
  | .excerptByteLimitReached => "EXCERPT_BYTE_LIMIT_REACHED"
  | .relevantSourceDiagnostic => "RELEVANT_SOURCE_DIAGNOSTIC"
  | .relevantGraphDiagnostic => "RELEVANT_GRAPH_DIAGNOSTIC"
  | .relevantCallUnresolved => "RELEVANT_CALL_UNRESOLVED"
  | .paymentIngressUndetermined => "PAYMENT_INGRESS_UNDETERMINED"
  | .relevantSourceUnavailable => "RELEVANT_SOURCE_UNAVAILABLE"
  | .unsupportedInlineAction => "UNSUPPORTED_INLINE_ACTION"

/-- The omissions of a bounded view, which are no part of the context. -/
def SemanticDiagnosticCode.presentation : SemanticDiagnosticCode → Bool
  | .candidateLimitReached | .excerptByteLimitReached => true
  | _ => false

structure SemanticContextDiagnostic where
  code : SemanticDiagnosticCode
  reference : String
  affectedSymbolId : Option SymbolId
  affectedPath : Option String
  fingerprint : Sha256Digest
  deriving DecidableEq

/-- A record of evidence.  Its kind is that of the collection it is in. -/
structure SemanticContextEvidence where
  reference : String
  fingerprint : Sha256Digest
  deriving DecidableEq

structure SemanticContextDescriptor where
  paymentIngressSymbolIds : List SymbolId
  relevantSymbolIds : List SymbolId
  presentedSymbolIds : List SymbolId
  bundleCompleteness : BundleCompleteness
  diagnostics : List SemanticContextDiagnostic
  sourceExcerpts : List SemanticContextEvidence
  paymentCalls : List SemanticContextEvidence
  graphNeighborhood : List SemanticContextEvidence
  deriving DecidableEq

/-- What the fingerprint of a context covers. -/
structure ContextPayload where
  paymentIngressSymbolIds : List SymbolId
  relevantSymbolIds : List SymbolId
  diagnostics : List SemanticContextDiagnostic
  sourceExcerpts : List SemanticContextEvidence
  paymentCalls : List SemanticContextEvidence
  graphNeighborhood : List SemanticContextEvidence
  deriving DecidableEq

/-- A resolution of the customer-value action. -/
structure ResolutionRecord where
  state : ResolutionState
  basis : ResolutionBasis
  selectedSymbolId : Option SymbolId
  deriving DecidableEq

/-- What contexts and resolutions take from hashing. -/
structure ContextHashing where
  /-- The text by which diagnostics are ordered. -/
  diagnosticText : SemanticContextDiagnostic → String
  context : ContextPayload → Sha256Digest
  resolution : ResolutionRecord → Sha256Digest → Sha256Digest

/-- `_canonical_evidence`. -/
def canonicalEvidence (records : List SemanticContextEvidence) : List SemanticContextEvidence :=
  sortedByKey (fun record => toLex (record.reference, record.fingerprint)) records

/-- The payload of `semantic_context_fingerprint`. -/
def SemanticContextDescriptor.payload (hashing : ContextHashing)
    (descriptor : SemanticContextDescriptor) : ContextPayload where
  paymentIngressSymbolIds := sortedByKey id descriptor.paymentIngressSymbolIds
  relevantSymbolIds := sortedByKey id descriptor.relevantSymbolIds
  diagnostics := sortedByKey hashing.diagnosticText
    (descriptor.diagnostics.filter fun item => item.code.presentation = false)
  sourceExcerpts := canonicalEvidence descriptor.sourceExcerpts
  paymentCalls := canonicalEvidence descriptor.paymentCalls
  graphNeighborhood := canonicalEvidence descriptor.graphNeighborhood

/-- `semantic_context_fingerprint`. -/
def semanticContextFingerprint (hashing : ContextHashing)
    (descriptor : SemanticContextDescriptor) : Sha256Digest :=
  hashing.context (descriptor.payload hashing)

/-- `resolution_fingerprint`. -/
def resolutionFingerprint (hashing : ContextHashing) (resolution : ResolutionRecord)
    (semanticFingerprint : Sha256Digest) : Sha256Digest :=
  hashing.resolution resolution semanticFingerprint

end Semantics

end StateGuard
