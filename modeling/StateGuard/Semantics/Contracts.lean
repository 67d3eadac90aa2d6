import StateGuard.Contracts.Records
import StateGuard.Discovery.Contracts

/-!
# Customer-value candidates

The catalog that a model chooses from, the candidates it returns, and the candidates that are
accepted.  A candidate is read by one schema (`readRawCandidate`) and is accepted by another
(`semanticCandidate`).  The two differ: the first takes a citation twice and a rationale of
blanks, the second takes neither.
-/

namespace StateGuard

namespace Semantics

open Python Checks Record

/-- The bounds of one structured generation. -/
structure StructuredGenerationBoundsPolicy where
  version : String := "structured-generation-bounds-v1"
  maxExcerptMaterialBytes : Nat := 256 * 1024
  maxOutputTokens : Nat := 2048
  maxSerializedResponseBytes : Nat := 16 * 1024
  maxStructuredItems : Nat := 8
  maxReferencesPerItem : Nat := 4
  maxExplanationCharacters : Nat := 512
  maxReferenceCharacters : Nat := 128
  deriving DecidableEq

/-- `DEFAULT_STRUCTURED_GENERATION_BOUNDS`. -/
def bounds : StructuredGenerationBoundsPolicy := {}

inductive BundleCompleteness where
  | bundleComplete | bundlePartial
  deriving DecidableEq, Repr

/-- An entry of the catalog, with the rules of its validators. -/
structure SemanticCatalogEntry where
  catalogReference : Str
  symbolId : SymbolId
  qualifiedName : Str
  symbolKind : SymbolKind
  excerptReferences : List Str
  referenceStripped : catalogReference.strip = catalogReference
  referenceUnicode : catalogReference.isUnicode = true
  referenceBounded : catalogReference.length ≤ bounds.maxReferenceCharacters
  eligible : symbolKind.callable = true
  excerptsUnique : excerptReferences.Nodup
  excerptsBounded : excerptReferences.length ≤ bounds.maxReferencesPerItem
  deriving DecidableEq

/-- What the mapper reads of `CustomerValueMappingInput`, with the rules of its validator. -/
structure CustomerValueMappingInput where
  bundleCompleteness : BundleCompleteness
  catalog : List SemanticCatalogEntry
  referencesUnique : (catalog.map (·.catalogReference)).Nodup
  symbolsUnique : (catalog.map (·.symbolId)).Nodup
  deriving DecidableEq

/-! ## Candidates as they come -/

structure RawCustomerValueCandidate where
  symbolReference : Str
  rationale : Str
  excerptReferences : List Str
  providerConfidence : Option Double
  deriving DecidableEq

/-- The check of references that both schemas make: bounded, and not of blanks. -/
def checkReferences (references : List Str) : Except Exception Unit :=
  raiseIf (∃ item ∈ references, item.strip = [] ∨ bounds.maxReferenceCharacters < item.length)
    .validationError

/-- `RawCustomerValueCandidate.model_validate`. -/
def readRawCandidate (numerals : Numerals) (value : Json) :
    Except Exception RawCustomerValueCandidate := do
  let entries ← entriesOf value
  onlyFields ["symbol_reference", "rationale", "excerpt_references", "provider_confidence"] entries
  let symbolReference ← required "symbol_reference"
    (boundedText 1 (some bounds.maxReferenceCharacters)) entries
  let rationale ← required "rationale"
    (boundedText 1 (some bounds.maxExplanationCharacters)) entries
  let excerptReferences ← required "excerpt_references"
    (tupleOf 0 (some bounds.maxReferencesPerItem) Record.plainText) entries
  checkReferences excerptReferences
  let providerConfidence ← required "provider_confidence" (orNone (floatOf numerals)) entries
  forEach checkUnit providerConfidence.toList
  pure {
    symbolReference := symbolReference.strip
    rationale := rationale.strip
    excerptReferences
    providerConfidence }

/-- `RawCustomerValueOutput.model_validate`: its candidates. -/
def readRawOutput (numerals : Numerals) (value : Json) :
    Except Exception (List RawCustomerValueCandidate) := do
  let entries ← entriesOf value
  onlyFields ["candidates"] entries
  required "candidates" (tupleOf 0 (some bounds.maxStructuredItems) (readRawCandidate numerals))
    entries

/-! ## Candidates that are accepted -/

structure SemanticCandidate where
  catalogReference : Str
  symbolId : SymbolId
  rationale : Str
  excerptReferences : List Str
  providerConfidence : Option Double
  deriving DecidableEq

/-- `SemanticCandidate(...)`. -/
def semanticCandidate (catalogReference : Str) (symbolId : SymbolId) (rationale : Str)
    (excerptReferences : List Str) (providerConfidence : Option Double) :
    Except Exception SemanticCandidate := do
  checkText 1 (some bounds.maxReferenceCharacters) catalogReference
  checkText 1 (some bounds.maxExplanationCharacters) rationale
  raiseIf (bounds.maxReferencesPerItem < excerptReferences.length) .validationError
  forEach checkUnit providerConfidence.toList
  raiseIf (¬ excerptReferences.Nodup) .validationError
  checkReferences excerptReferences
  pure {
    catalogReference := catalogReference.strip
    symbolId
    rationale := rationale.strip
    excerptReferences
    providerConfidence }

/-- The candidate that was accepted, as it came. -/
def SemanticCandidate.raw (candidate : SemanticCandidate) : RawCustomerValueCandidate where
  symbolReference := candidate.catalogReference
  rationale := candidate.rationale
  excerptReferences := candidate.excerptReferences
  providerConfidence := candidate.providerConfidence

inductive CandidateRejectionReason where
  | unknownSymbolReference | unknownExcerptReference | duplicateCandidate
  deriving DecidableEq, Repr

structure RejectedSemanticCandidate where
  rawCandidate : RawCustomerValueCandidate
  reasons : List CandidateRejectionReason
  deriving DecidableEq

structure CandidateClassification where
  validCandidates : List SemanticCandidate
  rejectedCandidates : List RejectedSemanticCandidate
  deriving DecidableEq

/-! ## What the first schema leaves to the second -/

/-- What a candidate satisfies that was read. -/
structure RawCustomerValueCandidate.Read (raw : RawCustomerValueCandidate) : Prop where
  reference : raw.symbolReference.strip = raw.symbolReference
  stripped : raw.rationale.strip = raw.rationale
  unicode : raw.rationale.isUnicode = true
  bounded : raw.rationale.length ≤ bounds.maxExplanationCharacters
  citations : raw.excerptReferences.length ≤ bounds.maxReferencesPerItem
  cited : checkReferences raw.excerptReferences = .ok ()
  confidence : forEach checkUnit raw.providerConfidence.toList = .ok ()

theorem readRawCandidate_read {numerals : Numerals} {value : Json}
    {raw : RawCustomerValueCandidate} (read : readRawCandidate numerals value = .ok raw) :
    raw.Read := by
  simp only [readRawCandidate, bind_eq_ok, pure_eq_ok, exists_unit] at read
  obtain ⟨entries, -, -, reference, -, rationale, readRationale, citations, readCitations, cited,
    confidence, -, within, rfl⟩ := read
  obtain ⟨field, isText⟩ := required_eq_ok readRationale
  obtain ⟨unicode, -, short⟩ := boundedText_eq_ok isText
  obtain ⟨other, isTuple⟩ := required_eq_ok readCitations
  obtain ⟨-, few, -⟩ := tupleOf_eq_ok isTuple
  exact {
    reference := Str.strip_strip reference
    stripped := Str.strip_strip rationale
    unicode := Str.isUnicode_of_sublist (Str.strip_sublist rationale) unicode
    bounded := (Str.length_strip_le rationale).trans (short _ rfl)
    citations := few _ rfl
    cited
    confidence := within }

theorem readRawCandidate_validates (numerals : Numerals) (value : Json) :
    Validates (readRawCandidate numerals value) := by
  refine (Validates.entriesOf value).bind fun entries => ?_
  refine (Validates.onlyFields _ entries).bind fun _ => ?_
  refine (Validates.required (Validates.boundedText _ _) _ entries).bind fun reference => ?_
  refine (Validates.required (Validates.boundedText _ _) _ entries).bind fun rationale => ?_
  refine (Validates.required (Validates.tupleOf Validates.plainText _ _) _ entries).bind
    fun citations => ?_
  refine (Validates.raiseIf _).bind fun _ => ?_
  refine (Validates.required (Validates.orNone (Validates.floatOf numerals)) _ entries).bind
    fun confidence => ?_
  exact (Validates.forEach (fun _ => Validates.raiseIf _) _).bind fun _ => Validates.pure _

theorem readRawOutput_validates (numerals : Numerals) (value : Json) :
    Validates (readRawOutput numerals value) := by
  refine (Validates.entriesOf value).bind fun entries => ?_
  refine (Validates.onlyFields _ entries).bind fun _ => ?_
  exact Validates.required (Validates.tupleOf (readRawCandidate_validates numerals) _ _) _ entries

theorem readRawOutput_read {numerals : Numerals} {value : Json}
    {candidates : List RawCustomerValueCandidate}
    (read : readRawOutput numerals value = .ok candidates) :
    ∀ raw ∈ candidates, raw.Read := by
  simp only [readRawOutput, bind_eq_ok, exists_unit] at read
  obtain ⟨entries, -, -, isRead⟩ := read
  obtain ⟨field, isTuple⟩ := required_eq_ok isRead
  obtain ⟨-, -, each⟩ := tupleOf_eq_ok isTuple
  intro raw membership
  obtain ⟨entry, isCandidate⟩ := each raw membership
  exact readRawCandidate_read isCandidate

/-- What the second schema refuses of a candidate that the first has read. -/
structure RawCustomerValueCandidate.Acceptable (raw : RawCustomerValueCandidate) : Prop where
  referenced : raw.symbolReference ≠ []
  explained : raw.rationale ≠ []
  citesOnce : raw.excerptReferences.Nodup

instance (raw : RawCustomerValueCandidate) : Decidable raw.Acceptable :=
  decidable_of_iff (raw.symbolReference ≠ [] ∧ raw.rationale ≠ [] ∧ raw.excerptReferences.Nodup)
    ⟨fun ⟨referenced, explained, citesOnce⟩ => ⟨referenced, explained, citesOnce⟩,
      fun holds => ⟨holds.referenced, holds.explained, holds.citesOnce⟩⟩

/-- A candidate that was read, for an entry of the catalog, is accepted exactly when its reference
and its rationale are not blank and it cites nothing twice. -/
theorem semanticCandidate_eq_ok {raw : RawCustomerValueCandidate} (read : raw.Read)
    {entry : SemanticCatalogEntry} (same : entry.catalogReference = raw.symbolReference)
    {candidate : SemanticCandidate} :
    semanticCandidate entry.catalogReference entry.symbolId raw.rationale raw.excerptReferences
        raw.providerConfidence = .ok candidate ↔
      raw.Acceptable ∧ candidate = {
        catalogReference := raw.symbolReference
        symbolId := entry.symbolId
        rationale := raw.rationale
        excerptReferences := raw.excerptReferences
        providerConfidence := raw.providerConfidence } := by
  have unicode := same ▸ entry.referenceUnicode
  have bounded := same ▸ entry.referenceBounded
  simp only [semanticCandidate, bind_eq_ok, pure_eq_ok, exists_unit, checkText_eq_ok, same,
    raiseIf_eq_ok, read.cited, read.confidence, read.reference, read.stripped, unicode,
    read.unicode, not_lt, read.citations, not_not, true_and, Option.mem_def, Option.some.injEq,
    forall_eq', bounded, read.bounded, and_true, Nat.one_le_iff_ne_zero, ne_eq,
    List.length_eq_zero_iff]
  constructor
  · rintro ⟨referenced, explained, citesOnce, rfl⟩
    exact ⟨⟨referenced, explained, citesOnce⟩, rfl⟩
  · rintro ⟨⟨referenced, explained, citesOnce⟩, rfl⟩
    exact ⟨referenced, explained, citesOnce, rfl⟩

theorem semanticCandidate_validates (catalogReference : Str) (symbolId : SymbolId)
    (rationale : Str) (excerptReferences : List Str) (providerConfidence : Option Double) :
    Validates (semanticCandidate catalogReference symbolId rationale excerptReferences
      providerConfidence) := by
  refine (Validates.raiseIf _).bind fun _ => ?_
  refine (Validates.raiseIf _).bind fun _ => ?_
  refine (Validates.raiseIf _).bind fun _ => ?_
  refine (Validates.forEach (fun _ => Validates.raiseIf _) _).bind fun _ => ?_
  refine (Validates.raiseIf _).bind fun _ => ?_
  exact (Validates.raiseIf _).bind fun _ => Validates.pure _

end Semantics

end StateGuard
