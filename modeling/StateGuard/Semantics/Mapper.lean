import Mathlib.Data.List.Perm.Basic
import StateGuard.Semantics.Contracts
import StateGuard.Graph.SemanticProjection

/-!
# The customer-value mapper

`classifyCandidates` walks the candidates of a model: one that is a duplicate, that names no entry
of the catalog or that cites an excerpt of another entry is rejected, and the others are
accepted by a second schema.

* A classification is *sound* when each candidate is in it once, the accepted ones have distinct
  symbols of the catalog, and each cites excerpts of its own entry (`Classifies`).
* `classifyFrom_spec` says when the walk returns: when the second schema takes every candidate that
  has no reason for its rejection.
* `mapCustomerValue_contained_iff` says when the mapper keeps to its two outcomes, a
  `ModelProviderError` or a sound classification.
-/

namespace StateGuard

namespace Semantics

open Python Checks Record

/-! ## Classification -/

/-- The reasons to reject a candidate, after those with the references `seen`. -/
def rejectionReasons (catalog : List SemanticCatalogEntry) (seen : List Str)
    (raw : RawCustomerValueCandidate) : List CandidateRejectionReason :=
  (if raw.symbolReference ∈ seen then [.duplicateCandidate] else []) ++
    match catalog.find? (·.catalogReference = raw.symbolReference) with
    | none => [.unknownSymbolReference]
    | some entry =>
      if raw.excerptReferences ⊆ entry.excerptReferences then [] else [.unknownExcerptReference]

/-- The loop of `classify_candidates`. -/
def classifyFrom (catalog : List SemanticCatalogEntry) :
    List Str → List RawCustomerValueCandidate → Except Exception CandidateClassification
  | _, [] => .ok ⟨[], []⟩
  | seen, raw :: rest => do
    let reasons := rejectionReasons catalog seen raw
    match catalog.find? (·.catalogReference = raw.symbolReference), reasons with
    | some entry, [] =>
      let candidate ← semanticCandidate entry.catalogReference entry.symbolId raw.rationale
        raw.excerptReferences raw.providerConfidence
      let later ← classifyFrom catalog (raw.symbolReference :: seen) rest
      pure { later with validCandidates := candidate :: later.validCandidates }
    | _, reasons =>
      let later ← classifyFrom catalog (raw.symbolReference :: seen) rest
      pure { later with rejectedCandidates := ⟨raw, reasons⟩ :: later.rejectedCandidates }

/-- `classify_candidates`. -/
def classifyCandidates (candidates : List RawCustomerValueCandidate)
    (catalog : List SemanticCatalogEntry) : Except Exception CandidateClassification :=
  classifyFrom catalog [] candidates

/-- `resolve_model_candidates`: the state, the basis and the selected symbol. -/
def resolveModelCandidates (classification : CandidateClassification) :
    BundleCompleteness → Option (ResolutionState × ResolutionBasis × Option SymbolId)
  | .bundlePartial => none
  | .bundleComplete =>
    match classification.validCandidates with
    | [] => some (.unmapped, .unresolved, none)
    | [candidate] => some (.unique, .modelUnique, some candidate.symbolId)
    | _ => some (.ambiguous, .unresolved, none)

/-- A classification in which each candidate is once, and whose accepted candidates have distinct
symbols of the catalog and cite excerpts of their own entries. -/
structure Classifies (catalog : List SemanticCatalogEntry)
    (candidates : List RawCustomerValueCandidate) (classification : CandidateClassification) :
    Prop where
  partition : (classification.validCandidates.map SemanticCandidate.raw ++
    classification.rejectedCandidates.map (·.rawCandidate)).Perm candidates
  distinct : (classification.validCandidates.map (·.symbolId)).Nodup
  cites : ∀ candidate ∈ classification.validCandidates, ∃ entry ∈ catalog,
    entry.symbolId = candidate.symbolId ∧
      candidate.excerptReferences ⊆ entry.excerptReferences

variable {catalog : List SemanticCatalogEntry}

theorem rejectionReasons_eq_nil {seen : List Str} {raw : RawCustomerValueCandidate} :
    rejectionReasons catalog seen raw = [] ↔ raw.symbolReference ∉ seen ∧
      ∃ entry, catalog.find? (·.catalogReference = raw.symbolReference) = some entry ∧
        raw.excerptReferences ⊆ entry.excerptReferences := by
  unfold rejectionReasons
  rw [List.append_eq_nil_iff]
  refine and_congr ?_ ?_
  · split
    next duplicate => simp [duplicate]
    next first => simp [first]
  · split
    next absent => simp [absent]
    next entry found => simp [found]

/-- What one candidate does to a classification. -/
theorem classifyFrom_cons {seen : List Str} {raw : RawCustomerValueCandidate}
    {rest : List RawCustomerValueCandidate} (read : raw.Read)
    {classification : CandidateClassification} :
    classifyFrom catalog seen (raw :: rest) = .ok classification ↔
      ∃ later, classifyFrom catalog (raw.symbolReference :: seen) rest = .ok later ∧
        ((∃ entry ∈ catalog.find? (·.catalogReference = raw.symbolReference),
            rejectionReasons catalog seen raw = [] ∧ raw.Acceptable ∧ classification =
              { later with validCandidates := {
                  catalogReference := raw.symbolReference
                  symbolId := entry.symbolId
                  rationale := raw.rationale
                  excerptReferences := raw.excerptReferences
                  providerConfidence := raw.providerConfidence } :: later.validCandidates }) ∨
          rejectionReasons catalog seen raw ≠ [] ∧ classification =
            { later with rejectedCandidates :=
                ⟨raw, rejectionReasons catalog seen raw⟩ :: later.rejectedCandidates }) := by
  rw [classifyFrom]
  split
  next _ entry found accepted =>
    have same : entry.catalogReference = raw.symbolReference := by
      simpa using List.find?_some found
    simp only [bind_eq_ok, pure_eq_ok, semanticCandidate_eq_ok read same]
    constructor
    · rintro ⟨candidate, ⟨acceptable, rfl⟩, later, isLater, rfl⟩
      exact ⟨later, isLater, .inl ⟨entry, found, accepted, acceptable, rfl⟩⟩
    · rintro ⟨later, isLater, ⟨other, isOther, -, acceptable, rfl⟩ | ⟨rejected, -⟩⟩
      · rw [found] at isOther
        cases isOther
        exact ⟨_, ⟨acceptable, rfl⟩, later, isLater, rfl⟩
      · exact absurd accepted rejected
  next other =>
    have rejected : rejectionReasons catalog seen raw ≠ [] := by
      intro accepted
      obtain ⟨-, entry, found, -⟩ := rejectionReasons_eq_nil.mp accepted
      exact other entry found accepted
    simp only [bind_eq_ok, pure_eq_ok]
    constructor
    · rintro ⟨later, isLater, rfl⟩
      exact ⟨later, isLater, .inr ⟨rejected, rfl⟩⟩
    · rintro ⟨later, isLater, ⟨-, -, accepted, -⟩ | ⟨-, rfl⟩⟩
      · exact absurd accepted rejected
      · exact ⟨later, isLater, rfl⟩

/-- The candidates that have no reason for their rejection are acceptable. -/
def AcceptsRest (catalog : List SemanticCatalogEntry) (seen : List Str)
    (candidates : List RawCustomerValueCandidate) : Prop :=
  ∀ before raw after, candidates = before ++ raw :: after →
    rejectionReasons catalog (before.map (·.symbolReference) ++ seen) raw = [] → raw.Acceptable

theorem rejectionReasons_congr {seen other : List Str} {raw : RawCustomerValueCandidate}
    (same : ∀ reference, reference ∈ seen ↔ reference ∈ other) :
    rejectionReasons catalog seen raw = rejectionReasons catalog other raw := by
  simp only [rejectionReasons, same]

theorem acceptsRest_cons {seen : List Str} {raw : RawCustomerValueCandidate}
    {rest : List RawCustomerValueCandidate} :
    AcceptsRest catalog seen (raw :: rest) ↔
      (rejectionReasons catalog seen raw = [] → raw.Acceptable) ∧
        AcceptsRest catalog (raw.symbolReference :: seen) rest := by
  constructor
  · intro accepts
    refine ⟨accepts [] raw rest rfl, ?_⟩
    intro before other after split accepted
    refine accepts (raw :: before) other after (by rw [split]; rfl) ?_
    rw [← accepted]
    exact rejectionReasons_congr fun reference => by simp [or_left_comm]
  · rintro ⟨first, later⟩ before other after split accepted
    cases before with
    | nil =>
      cases split
      exact first accepted
    | cons head before =>
      cases split
      refine later before other after rfl ?_
      rw [← accepted]
      exact rejectionReasons_congr fun reference => by simp [or_left_comm]

/-- The walk returns exactly when the second schema takes what has no reason for its rejection. -/
theorem classifyFrom_ok_iff {candidates : List RawCustomerValueCandidate}
    (read : ∀ raw ∈ candidates, raw.Read) (seen : List Str) :
    (∃ classification, classifyFrom catalog seen candidates = .ok classification) ↔
      AcceptsRest catalog seen candidates := by
  induction candidates generalizing seen with
  | nil =>
    refine iff_of_true ⟨_, rfl⟩ ?_
    intro before raw after split
    simp at split
  | cons raw rest ih =>
    have later := ih (fun other membership => read other (by simp [membership]))
      (raw.symbolReference :: seen)
    simp only [classifyFrom_cons (read raw (by simp)), acceptsRest_cons, ← later]
    constructor
    · rintro ⟨classification, later, isLater, outcome⟩
      refine ⟨fun accepted => ?_, later, isLater⟩
      rcases outcome with ⟨-, -, -, acceptable, -⟩ | ⟨rejected, -⟩
      · exact acceptable
      · exact absurd accepted rejected
    · rintro ⟨first, later, isLater⟩
      by_cases accepted : rejectionReasons catalog seen raw = []
      · obtain ⟨-, entry, found, -⟩ := rejectionReasons_eq_nil.mp accepted
        exact ⟨_, later, isLater, .inl ⟨entry, found, accepted, first accepted, rfl⟩⟩
      · exact ⟨_, later, isLater, .inr ⟨accepted, rfl⟩⟩

/-- The classification of a walk: where its accepted candidates come from. -/
structure Walked (catalog : List SemanticCatalogEntry) (seen : List Str)
    (candidates : List RawCustomerValueCandidate) (classification : CandidateClassification) :
    Prop where
  partition : (classification.validCandidates.map SemanticCandidate.raw ++
    classification.rejectedCandidates.map (·.rawCandidate)).Perm candidates
  distinct : (classification.validCandidates.map (·.catalogReference)).Nodup
  unseen : ∀ candidate ∈ classification.validCandidates, candidate.catalogReference ∉ seen
  cites : ∀ candidate ∈ classification.validCandidates, ∃ entry ∈ catalog,
    entry.symbolId = candidate.symbolId ∧ entry.catalogReference = candidate.catalogReference ∧
      candidate.excerptReferences ⊆ entry.excerptReferences

theorem classifyFrom_walked {candidates : List RawCustomerValueCandidate}
    (read : ∀ raw ∈ candidates, raw.Read) {seen : List Str}
    {classification : CandidateClassification}
    (classified : classifyFrom catalog seen candidates = .ok classification) :
    Walked catalog seen candidates classification := by
  induction candidates generalizing seen classification with
  | nil =>
    cases classified
    exact ⟨.nil, List.nodup_nil, by simp, by simp⟩
  | cons raw rest ih =>
    obtain ⟨later, isLater, outcome⟩ := (classifyFrom_cons (read raw (by simp))).mp classified
    have walked := ih (fun other membership => read other (by simp [membership])) isLater
    rcases outcome with ⟨entry, found, accepted, -, rfl⟩ | ⟨-, rfl⟩
    · obtain ⟨first, other, isOther, citations⟩ := rejectionReasons_eq_nil.mp accepted
      rw [found] at isOther
      cases isOther
      have same : entry.catalogReference = raw.symbolReference := by
        simpa using List.find?_some found
      refine ⟨walked.partition.cons raw, ?_, ?_, ?_⟩
      · refine List.nodup_cons.mpr ⟨?_, walked.distinct⟩
        intro membership
        obtain ⟨candidate, isCandidate, isReference⟩ := List.mem_map.mp membership
        exact walked.unseen candidate isCandidate (by simp [isReference])
      · intro candidate membership
        rcases List.mem_cons.mp membership with rfl | membership
        · exact first
        · exact fun seen => walked.unseen candidate membership (List.mem_cons_of_mem _ seen)
      · intro candidate membership
        rcases List.mem_cons.mp membership with rfl | membership
        · exact ⟨entry, List.mem_of_find?_eq_some found, rfl, same, citations⟩
        · exact walked.cites candidate membership
    · refine ⟨?_, walked.distinct, ?_, walked.cites⟩
      · exact List.perm_middle.trans (walked.partition.cons raw)
      · intro candidate membership seen
        exact walked.unseen candidate membership (List.mem_cons_of_mem _ seen)

/-- In a catalog whose entries have references and symbols of their own, a walk classifies. -/
theorem Walked.classifies (mapping : CustomerValueMappingInput)
    {candidates : List RawCustomerValueCandidate} {classification : CandidateClassification}
    (walked : Walked mapping.catalog [] candidates classification) :
    Classifies mapping.catalog candidates classification where
  partition := walked.partition
  distinct := by
    have apart := List.pairwise_map.mp walked.distinct
    refine List.pairwise_map.mpr (apart.imp_of_mem ?_)
    intro first second isFirst isSecond differ sameSymbol
    obtain ⟨entry, isEntry, symbol, reference, -⟩ := walked.cites first isFirst
    obtain ⟨other, isOther, otherSymbol, otherReference, -⟩ := walked.cites second isSecond
    have same := List.inj_on_of_nodup_map mapping.symbolsUnique isEntry isOther
      (by rw [symbol, otherSymbol, sameSymbol])
    exact differ (by rw [← reference, same, otherReference])
  cites := by
    intro candidate membership
    obtain ⟨entry, isEntry, symbol, -, citations⟩ := walked.cites candidate membership
    exact ⟨entry, isEntry, symbol, citations⟩

theorem classifyFrom_validates (seen : List Str) (candidates : List RawCustomerValueCandidate) :
    Validates (classifyFrom catalog seen candidates) := by
  induction candidates generalizing seen with
  | nil => exact Validates.ok _
  | cons raw rest ih =>
    rw [classifyFrom]
    split
    next =>
      exact (semanticCandidate_validates _ _ _ _ _).bind fun _ => (ih _).bind fun _ =>
        Validates.pure _
    next => exact (ih _).bind fun _ => Validates.pure _

/-! ## The mapper -/

/-- A model name of the configuration, which is not of blanks. -/
@[ext]
structure ModelName where
  name : Str
  stripped : name.strip = name
  nonblank : name ≠ []

instance : DecidableEq ModelName := fun _ _ => decidable_of_iff _ ModelName.ext_iff.symm

/-- `SemanticBundlePolicy`. -/
structure SemanticBundlePolicy where
  version : String := "semantic-bundle-policy-v1"
  maxPresentedCandidates : Nat := 64
  generation : StructuredGenerationBoundsPolicy := bounds
  deriving DecidableEq

structure StructuredGenerationRequest where
  requestId : String
  model : ModelName
  inputText : String
  maxOutputTokens : Nat
  deriving DecidableEq

structure TokenUsage where
  inputTokens : Option Nat
  outputTokens : Option Nat
  deriving DecidableEq

structure StructuredGenerationResult where
  requestId : Str
  providerId : Str
  model : Str
  output : List (Str × Json)
  latencyMs : Nat
  tokenUsage : Option TokenUsage

/-- A provider: it raises a `ModelProviderError` or returns a result. -/
abbrev ModelProvider :=
  StructuredGenerationRequest → Except ProviderFailureCode StructuredGenerationResult

/-- What a request takes from serialisation and hashing. -/
structure RequestText where
  numerals : Numerals
  /-- The canonical JSON of the provider input. -/
  mappingJson : CustomerValueMappingInput → SemanticBundlePolicy → String
  /-- `provider_bundle_fingerprint`. -/
  bundleFingerprint : CustomerValueMappingInput → String → Sha256Digest
  /-- The fingerprint of a request. -/
  requestFingerprint : StructuredGenerationRequest → Sha256Digest

structure PreparedSemanticRequest where
  request : StructuredGenerationRequest
  requestFingerprint : Sha256Digest
  providerBundleFingerprint : Sha256Digest
  serializedInput : String
  deriving DecidableEq

/-- `prepare_semantic_request`. -/
def prepareSemanticRequest (text : RequestText) (mapping : CustomerValueMappingInput)
    (model : ModelName) (policy : SemanticBundlePolicy) : PreparedSemanticRequest :=
  let serialized := text.mappingJson mapping policy
  let bundleFingerprint := text.bundleFingerprint mapping serialized
  let request : StructuredGenerationRequest := {
    requestId := "sgsem_" ++ String.ofList ((removePrefix "sha256:" bundleFingerprint).toList.take 32)
    model
    inputText := serialized
    maxOutputTokens := policy.generation.maxOutputTokens }
  { request
    requestFingerprint := text.requestFingerprint request
    providerBundleFingerprint := bundleFingerprint
    serializedInput := serialized }

structure SemanticMappingResult where
  prepared : PreparedSemanticRequest
  providerResult : StructuredGenerationResult
  classification : CandidateClassification
  decision : Option (ResolutionState × ResolutionBasis × Option SymbolId)

/-- What `map_customer_value` does with an output. -/
def classifyOutput (text : RequestText) (mapping : CustomerValueMappingInput)
    (policy : SemanticBundlePolicy) (output : Json) : Except Exception CandidateClassification := do
  let serialized ← canonicalJson text.numerals output
  let size ← encodedLength serialized
  raiseIf (policy.generation.maxSerializedResponseBytes < size) (.modelProviderError .outputLimit)
  let raw ← asProviderFailure (readRawOutput text.numerals output)
  classifyCandidates raw mapping.catalog

/-- `map_customer_value`. -/
def mapCustomerValue (text : RequestText) (provider : ModelProvider)
    (mapping : CustomerValueMappingInput) (model : ModelName) (policy : SemanticBundlePolicy) :
    Except Exception SemanticMappingResult := do
  let prepared := prepareSemanticRequest text mapping model policy
  let result ← raiseProvider (provider prepared.request)
  let classification ← classifyOutput text mapping policy (.dict result.output)
  pure {
    prepared
    providerResult := result
    classification
    decision := resolveModelCandidates classification mapping.bundleCompleteness }

/-- A mapping whose classification is one of the candidates that the schema read of the output. -/
def SemanticMappingResult.Sound (text : RequestText) (mapping : CustomerValueMappingInput)
    (mapped : SemanticMappingResult) : Prop :=
  ∃ candidates,
    readRawOutput text.numerals (.dict mapped.providerResult.output) = .ok candidates ∧
      Classifies mapping.catalog candidates mapped.classification

/-- An output that the second schema does not refuse: it can be written as UTF-8, and when it is
small enough and read, each candidate that is the first with its reference, names an entry of the
catalog and cites excerpts of that entry is acceptable. -/
def Mappable (text : RequestText) (mapping : CustomerValueMappingInput)
    (policy : SemanticBundlePolicy) (output : Json) : Prop :=
  output.integersWritten = true ∧ output.isUnicode = true ∧
    ((output.text text.numerals).utf8Length ≤ policy.generation.maxSerializedResponseBytes →
      ∀ candidates, readRawOutput text.numerals output = .ok candidates →
        ∀ before raw after, candidates = before ++ raw :: after →
          raw.symbolReference ∉ before.map (·.symbolReference) →
          (∃ entry ∈ mapping.catalog, entry.catalogReference = raw.symbolReference ∧
            raw.excerptReferences ⊆ entry.excerptReferences) →
          raw.Acceptable)

theorem find?_reference_iff (mapping : CustomerValueMappingInput) {raw : RawCustomerValueCandidate} :
    (∃ entry, mapping.catalog.find? (·.catalogReference = raw.symbolReference) = some entry ∧
        raw.excerptReferences ⊆ entry.excerptReferences) ↔
      ∃ entry ∈ mapping.catalog, entry.catalogReference = raw.symbolReference ∧
        raw.excerptReferences ⊆ entry.excerptReferences := by
  constructor
  · rintro ⟨entry, found, citations⟩
    exact ⟨entry, List.mem_of_find?_eq_some found, by simpa using List.find?_some found, citations⟩
  · rintro ⟨entry, isEntry, same, citations⟩
    have isFound : (mapping.catalog.find? (·.catalogReference = raw.symbolReference)).isSome := by
      rw [List.find?_isSome]
      exact ⟨entry, isEntry, decide_eq_true same⟩
    obtain ⟨other, found⟩ := Option.isSome_iff_exists.mp isFound
    have otherSame : other.catalogReference = raw.symbolReference := by
      simpa using List.find?_some found
    have isSame := List.inj_on_of_nodup_map mapping.referencesUnique
      (List.mem_of_find?_eq_some found) isEntry (otherSame.trans same.symm)
    exact ⟨other, found, isSame ▸ citations⟩

theorem acceptsRest_iff (mapping : CustomerValueMappingInput)
    (candidates : List RawCustomerValueCandidate) :
    AcceptsRest mapping.catalog [] candidates ↔
      ∀ before raw after, candidates = before ++ raw :: after →
        raw.symbolReference ∉ before.map (·.symbolReference) →
        (∃ entry ∈ mapping.catalog, entry.catalogReference = raw.symbolReference ∧
          raw.excerptReferences ⊆ entry.excerptReferences) →
        raw.Acceptable := by
  simp only [AcceptsRest, List.append_nil, rejectionReasons_eq_nil, find?_reference_iff, and_imp]

/-- What was read is classified exactly when the second schema refuses nothing of it. -/
theorem contained_classifyCandidates {numerals : Numerals} {output : Json}
    (mapping : CustomerValueMappingInput) {candidates : List RawCustomerValueCandidate}
    (read : readRawOutput numerals output = .ok candidates) :
    Contained (Classifies mapping.catalog candidates)
        (classifyCandidates candidates mapping.catalog) ↔
      AcceptsRest mapping.catalog [] candidates := by
  have each := readRawOutput_read read
  rw [classifyCandidates, contained_of_validates _ (classifyFrom_validates [] candidates),
    ← classifyFrom_ok_iff each []]
  constructor
  · rintro ⟨classification, classified, -⟩
    exact ⟨classification, classified⟩
  · rintro ⟨classification, classified⟩
    exact ⟨classification, classified, (classifyFrom_walked each classified).classifies⟩

theorem contained_classifyOutput (text : RequestText) (mapping : CustomerValueMappingInput)
    (policy : SemanticBundlePolicy) (output : Json) :
    Contained (fun classification => ∃ candidates,
        readRawOutput text.numerals output = .ok candidates ∧
          Classifies mapping.catalog candidates classification)
        (classifyOutput text mapping policy output) ↔
      Mappable text mapping policy output := by
  have validates := readRawOutput_validates text.numerals output
  have classified : ∀ candidates, readRawOutput text.numerals output = .ok candidates →
      (Contained (fun classification => ∃ candidates,
          readRawOutput text.numerals output = .ok candidates ∧
            Classifies mapping.catalog candidates classification)
          (classifyCandidates candidates mapping.catalog) ↔
        AcceptsRest mapping.catalog [] candidates) := by
    intro candidates read
    rw [← contained_classifyCandidates mapping read]
    simp only [read, Except.ok.injEq, exists_eq_left']
  simp only [classifyOutput, canonicalJson, encodedLength, settles_bind, settles_raiseIf,
    contained_asProviderFailure _ validates, settles_pure, Json.isUnicode_text, Bool.not_eq_false,
    not_lt, not_isProviderError_valueError, not_isProviderError_unicodeEncodeError,
    isProviderError_modelProviderError, imp_false, imp_true_iff, true_and]
  rw [Mappable]
  refine and_congr_right fun written => ?_
  rw [imp_iff_right written]
  refine and_congr_right fun unicode => ?_
  rw [imp_iff_right unicode]
  refine forall_congr' fun small => forall_congr' fun candidates => forall_congr' fun read => ?_
  exact (classified candidates read).trans (acceptsRest_iff mapping candidates)

/-- The mapper raises a `ModelProviderError` or returns a sound classification exactly when the
provider raises, or returns an output that the second schema does not refuse. -/
theorem mapCustomerValue_contained_iff (text : RequestText) (provider : ModelProvider)
    (mapping : CustomerValueMappingInput) (model : ModelName) (policy : SemanticBundlePolicy) :
    Contained (SemanticMappingResult.Sound text mapping)
        (mapCustomerValue text provider mapping model policy) ↔
      ∀ result, provider (prepareSemanticRequest text mapping model policy).request = .ok result →
        Mappable text mapping policy (.dict result.output) := by
  simp only [mapCustomerValue, settles_bind, contained_raiseProvider, settles_pure,
    SemanticMappingResult.Sound, contained_classifyOutput]

/-- What a mapping is that is returned. -/
theorem mapCustomerValue_eq_ok {text : RequestText} {provider : ModelProvider}
    {mapping : CustomerValueMappingInput} {model : ModelName} {policy : SemanticBundlePolicy}
    {mapped : SemanticMappingResult}
    (returned : mapCustomerValue text provider mapping model policy = .ok mapped) :
    mapped.prepared = prepareSemanticRequest text mapping model policy ∧
      (∃ candidates, Classifies mapping.catalog candidates mapped.classification) ∧
      mapped.decision =
        resolveModelCandidates mapped.classification mapping.bundleCompleteness := by
  simp only [mapCustomerValue, bind_eq_ok, pure_eq_ok] at returned
  obtain ⟨result, -, classification, classified, rfl⟩ := returned
  simp only [classifyOutput, bind_eq_ok, exists_unit] at classified
  obtain ⟨serialized, -, size, -, -, raw, read, classified⟩ := classified
  refine ⟨rfl, ⟨raw, ?_⟩, rfl⟩
  have isRead : readRawOutput text.numerals (.dict result.output) = .ok raw := by
    cases isRead : readRawOutput text.numerals (.dict result.output) with
    | error failure =>
      cases readRawOutput_validates _ _ failure isRead
      rw [isRead] at read
      cases read
    | ok candidates =>
      rw [isRead] at read
      exact read
  exact (classifyFrom_walked (readRawOutput_read isRead) classified).classifies

/-- What the classification of an answer raises, the mapper raises. -/
theorem mapCustomerValue_raises {text : RequestText} {provider : ModelProvider}
    {mapping : CustomerValueMappingInput} {model : ModelName} {policy : SemanticBundlePolicy}
    {result : StructuredGenerationResult} {failure : Exception}
    (answered : provider (prepareSemanticRequest text mapping model policy).request = .ok result)
    (raised : classifyOutput text mapping policy (.dict result.output) = .error failure) :
    mapCustomerValue text provider mapping model policy = .error failure := by
  unfold mapCustomerValue
  simp only [answered, raiseProvider, Except.mapError, ok_bind, raised]
  rfl

/-- What an answer is classified to, the mapper returns. -/
theorem mapCustomerValue_returns {text : RequestText} {provider : ModelProvider}
    {mapping : CustomerValueMappingInput} {model : ModelName} {policy : SemanticBundlePolicy}
    {result : StructuredGenerationResult} {classification : CandidateClassification}
    (answered : provider (prepareSemanticRequest text mapping model policy).request = .ok result)
    (classified : classifyOutput text mapping policy (.dict result.output) = .ok classification) :
    mapCustomerValue text provider mapping model policy = .ok {
      prepared := prepareSemanticRequest text mapping model policy
      providerResult := result
      classification
      decision := resolveModelCandidates classification mapping.bundleCompleteness } := by
  unfold mapCustomerValue
  simp only [answered, raiseProvider, Except.mapError, ok_bind, classified]
  rfl

/-- A catalog with one callable and its one excerpt. -/
def grantAccessMapping : CustomerValueMappingInput where
  bundleCompleteness := .bundleComplete
  catalog := [{
    catalogReference := Str.ofString "candidate_001"
    symbolId := "sgsym_1"
    qualifiedName := Str.ofString "shop.grant_access"
    symbolKind := .function
    excerptReferences := [Str.ofString "src_1"]
    referenceStripped := by decide +kernel
    referenceUnicode := by decide +kernel
    referenceBounded := by decide +kernel
    eligible := rfl
    excerptsUnique := by decide +kernel
    excerptsBounded := by decide }]
  referencesUnique := by decide +kernel
  symbolsUnique := by decide +kernel

/-- A candidate that cites the excerpt twice. -/
def citesTwice : List (Str × Json) :=
  [(Str.ofString "candidates", .list [.dict [
    (Str.ofString "symbol_reference", .str (Str.ofString "candidate_001")),
    (Str.ofString "rationale", .str (Str.ofString "grants access")),
    (Str.ofString "excerpt_references",
      .list [.str (Str.ofString "src_1"), .str (Str.ofString "src_1")]),
    (Str.ofString "provider_confidence", .null)]])]

def sampleText : RequestText where
  numerals := ⟨fun value => toString value, fun _ => none⟩
  mappingJson := fun _ _ => "{}"
  bundleFingerprint := fun _ _ => "sha256:0"
  requestFingerprint := fun _ => "sha256:1"

def sampleModel : ModelName := ⟨Str.ofString "model", by decide +kernel, by decide +kernel⟩

/-- The answer that consists of the entries of an object. -/
def answer (output : List (Str × Json)) (request : StructuredGenerationRequest) :
    StructuredGenerationResult where
  requestId := Str.ofString request.requestId
  providerId := Str.ofString "openai-compatible"
  model := request.model.name
  output
  latencyMs := 0
  tokenUsage := none

/-- The provider that returns the entries of an object. -/
def answering (output : List (Str × Json)) : ModelProvider :=
  fun request => .ok (answer output request)

theorem answering_eq_ok (output : List (Str × Json)) (request : StructuredGenerationRequest) :
    answering output request = .ok (answer output request) := rfl

/-- A citation that is made twice passes the first schema and is refused by the second. -/
theorem citesTwice_escapes :
    readRawOutput sampleText.numerals (.dict citesTwice) ≠ .error .validationError ∧
      ¬ Contained (SemanticMappingResult.Sound sampleText grantAccessMapping)
        (mapCustomerValue sampleText (answering citesTwice) grantAccessMapping sampleModel {}) := by
  have raised : classifyOutput sampleText grantAccessMapping {} (.dict citesTwice) =
      .error .validationError := by decide +kernel
  refine ⟨by decide +kernel, ?_⟩
  rw [mapCustomerValue_raises (answering_eq_ok citesTwice _) raised]
  exact not_isProviderError_validationError

end Semantics

end StateGuard
