import StateGuard.Remediation.PatchValidation
import StateGuard.Semantics.Mapper

/-!
# Remediation assistance

`generateAssistance` asks a provider about a finding and makes assistance of what it returns.  The
output passes four stages in order: the schema, the references of its claims, the mode of the
request, and the patch.  A failure of the first three is a `ModelProviderError`; a patch that is
refused makes the proposal a `noSafeProposal`.

`generateAssistance_contained_iff` says when these are the only outcomes.
-/

namespace StateGuard

namespace Remediation

open Python Checks Record KeyOrder Semantics

/-- What the generator reads of a context, as the context is built: the provider input is the JSON
text of an object, and the mode label is short. -/
structure RemediationContext where
  runId : VerificationRunId
  occurrenceId : Evidence.FindingOccurrenceId
  checkId : Evidence.VerificationCheckId
  checkKey : VerificationCheckKey
  invariantId : String
  invariantVersion : Nat
  mode : AssistanceMode
  modeLabel : Str
  providerInput : Str
  allowedReferenceIds : List Str
  editableRegions : List EditableRegion
  historicalRelevantFingerprint : Option Sha256Digest
  currentRelevantFingerprint : Option Sha256Digest
  drift : List DriftDiagnostic
  inputUnicode : providerInput.isUnicode = true
  inputNonblank : providerInput.strip ≠ []
  labelBounded : checkText 1 (some 512) modeLabel = .ok ()

structure RemediationAssistance where
  runId : VerificationRunId
  occurrenceId : Evidence.FindingOccurrenceId
  checkId : Evidence.VerificationCheckId
  checkKey : VerificationCheckKey
  invariantId : String
  invariantVersion : Nat
  mode : AssistanceMode
  modeLabel : Str
  historicalRelevantAuthorityFingerprint : Option Sha256Digest
  currentRelevantAuthorityFingerprint : Option Sha256Digest
  drift : List DriftDiagnostic
  causalSummary : Str
  groundedClaims : List GroundedClaim
  proposalState : ProposalState
  remediationRationale : Option Str
  patch : Option PatchPreview
  limitations : List Str
  providerId : Str
  model : Str
  deriving DecidableEq

/-- `validate_mode`, and the bounds of the label. -/
def RemediationAssistance.validate (assistance : RemediationAssistance) :
    Except Exception RemediationAssistance := do
  checkText 1 (some 512) assistance.modeLabel
  raiseIf (assistance.mode = .historicalExplanationOnly ∧ assistance.patch ≠ none)
    .validationError
  raiseIf (¬ (assistance.proposalState = .proposed ↔ assistance.patch ≠ none)) .validationError
  pure assistance

/-- What the generator asks of a provider: its model and its answer to a request. -/
structure RemediationProvider where
  model : ModelName
  generateStructured : Str → Except ProviderFailureCode StructuredGenerationResult

/-- The claims of an output cite allowed references, each once, and are distinct. -/
def Grounded (context : RemediationContext) (raw : RawRemediationOutput) : Prop :=
  raw.groundedClaims.Nodup ∧ ∀ claim ∈ raw.groundedClaims,
    claim.references.Nodup ∧ claim.references ⊆ context.allowedReferenceIds

instance (context : RemediationContext) (raw : RawRemediationOutput) :
    Decidable (Grounded context raw) :=
  inferInstanceAs (Decidable (_ ∧ ∀ claim ∈ raw.groundedClaims, _))

/-- An output that is of the mode that was asked for. -/
def OfMode (context : RemediationContext) (raw : RawRemediationOutput) : Prop :=
  match context.mode with
  | .historicalExplanationOnly =>
    raw.proposalState = .blockedCurrentSourceAuthority ∧ raw.edits = [] ∧
      raw.remediationRationale = none
  | .currentSourceRemediation => raw.proposalState ≠ .blockedCurrentSourceAuthority

instance (context : RemediationContext) (raw : RawRemediationOutput) :
    Decidable (OfMode context raw) := by
  unfold OfMode
  split <;> infer_instance

/-- `_validated_output`. -/
def validatedOutput (context : RemediationContext) (output : Json) :
    Except Exception RawRemediationOutput := do
  let raw ← asProviderFailure (readRemediationOutput output)
  raiseIf (¬ Grounded context raw) (.modelProviderError .invalidStructuredOutput)
  raiseIf (¬ OfMode context raw) (.modelProviderError .invalidStructuredOutput)
  pure raw

section Generation

variable (workspace : Workspace) (tools : PatchTools)

/-- The state, the rationale, the limitations and the patch that come of a proposal. -/
structure Proposal where
  state : ProposalState
  rationale : Option Str
  limitations : List Str
  patch : Option PatchPreview

/-- The proposal of an output; a patch that is refused is not proposed. -/
def proposalOf (regions : List EditableRegion) (raw : RawRemediationOutput) :
    Except Exception Proposal :=
  if raw.proposalState = .proposed then
    match validateAndRenderPatch workspace tools regions raw.edits with
    | .ok patch => .ok ⟨raw.proposalState, raw.remediationRationale, raw.limitations, some patch⟩
    | .error (.unsafePatchError _) => .ok ⟨.noSafeProposal, none,
        raw.limitations ++ [Str.ofString "Proposed replacement failed deterministic validation."],
        none⟩
    | .error failure => .error failure
  else .ok ⟨raw.proposalState, raw.remediationRationale, raw.limitations, none⟩

/-- The assistance of a proposal. -/
def assistanceOf (context : RemediationContext) (result : StructuredGenerationResult)
    (raw : RawRemediationOutput) (proposal : Proposal) : RemediationAssistance where
  runId := context.runId
  occurrenceId := context.occurrenceId
  checkId := context.checkId
  checkKey := context.checkKey
  invariantId := context.invariantId
  invariantVersion := context.invariantVersion
  mode := context.mode
  modeLabel := context.modeLabel
  historicalRelevantAuthorityFingerprint := context.historicalRelevantFingerprint
  currentRelevantAuthorityFingerprint := context.currentRelevantFingerprint
  drift := context.drift
  causalSummary := raw.causalSummary
  groundedClaims := raw.groundedClaims
  proposalState := proposal.state
  remediationRationale := proposal.rationale
  patch := proposal.patch
  limitations := proposal.limitations
  providerId := result.providerId
  model := result.model

/-- What `generate_assistance` does with an answer. -/
def assist (numerals : Numerals) (context : RemediationContext)
    (result : StructuredGenerationResult) : Except Exception RemediationAssistance := do
  let serialized ← canonicalJson numerals (.dict result.output)
  let size ← encodedLength serialized
  raiseIf (bounds.maxSerializedResponseBytes < size) (.modelProviderError .outputLimit)
  let raw ← validatedOutput context (.dict result.output)
  let proposal ← proposalOf workspace tools context.editableRegions raw
  (assistanceOf context result raw proposal).validate

/-- `generate_assistance`. -/
def generateAssistance (numerals : Numerals) (context : RemediationContext)
    (provider : RemediationProvider) : Except Exception RemediationAssistance := do
  let size ← encodedLength context.providerInput
  raiseIf (bounds.maxExcerptMaterialBytes < size) (.modelProviderError .contextLimit)
  raiseIf (context.providerInput.strip = []) .validationError
  let result ← raiseProvider (provider.generateStructured context.providerInput)
  assist workspace tools numerals context result

/-! ## Outcomes -/

/-- Assistance that keeps to what was asked: its claims cite allowed references, it carries a patch
exactly when it proposes one and none in historical mode, and a patch that is refused is not
proposed. -/
structure RemediationAssistance.Sound (context : RemediationContext) (raw : RawRemediationOutput)
    (assistance : RemediationAssistance) : Prop where
  cites : ∀ claim ∈ assistance.groundedClaims, claim.references ⊆ context.allowedReferenceIds
  patched : assistance.proposalState = .proposed ↔ assistance.patch ≠ none
  historical : context.mode = .historicalExplanationOnly → assistance.patch = none
  downgraded : raw.proposalState = .proposed →
    (∃ message, validateAndRenderPatch workspace tools context.editableRegions raw.edits =
      .error (.unsafePatchError message)) → assistance.proposalState = .noSafeProposal

/-- An output whose stages raise nothing that is not mapped: it can be written as UTF-8, and when it
is small enough, valid and a proposal, no file of its patch reaches an exception that nothing
catches. -/
def Assistable (numerals : Numerals) (context : RemediationContext) (output : Json) : Prop :=
  output.integersWritten = true ∧ output.isUnicode = true ∧
    ((output.text numerals).utf8Length ≤ bounds.maxSerializedResponseBytes →
      ∀ raw, readRemediationOutput output = .ok raw → Grounded context raw → OfMode context raw →
        raw.proposalState = .proposed →
        (context.editableRegions.map (·.regionReference)).Nodup →
        ∀ selected, collect (selectRegion context.editableRegions) raw.edits = .ok selected →
          FilesHold workspace tools (·.diff.isUnicode = true) ⟨[], [], 0⟩
            (editsByPath selected))

variable {workspace tools} {context : RemediationContext}

theorem contained_validatedOutput (good : RawRemediationOutput → Prop) (output : Json) :
    Contained good (validatedOutput context output) ↔
      ∀ raw, readRemediationOutput output = .ok raw → Grounded context raw → OfMode context raw →
        good raw := by
  simp only [validatedOutput, settles_bind, settles_raiseIf, settles_pure,
    contained_asProviderFailure _ (readRemediationOutput_validates output), not_not,
    isProviderError_modelProviderError, imp_true_iff, true_and]

/-- Assistance with a patch exactly when it proposes one, and none in historical mode, is valid. -/
theorem validate_eq_ok {result : StructuredGenerationResult} {raw : RawRemediationOutput}
    {proposal : Proposal}
    (historical : context.mode = .historicalExplanationOnly → proposal.patch = none)
    (patched : proposal.state = .proposed ↔ proposal.patch ≠ none) :
    (assistanceOf context result raw proposal).validate =
      .ok (assistanceOf context result raw proposal) := by
  simp only [RemediationAssistance.validate, bind_eq_ok, pure_eq_ok, exists_unit, raiseIf_eq_ok,
    and_true]
  refine ⟨context.labelBounded, ?_, not_not.mpr patched⟩
  rintro ⟨isHistorical, some⟩
  exact some (historical isHistorical)

/-- The mode of an output that proposes a patch. -/
theorem OfMode.current {raw : RawRemediationOutput} (ofMode : OfMode context raw)
    (proposed : raw.proposalState = .proposed) :
    context.mode ≠ .historicalExplanationOnly := by
  intro historical
  rw [OfMode, historical, proposed] at ofMode
  cases ofMode.1

/-- The proposal of a valid output becomes sound assistance exactly when its patch, if it proposes
one, is rendered or refused. -/
theorem contained_proposalOf {result : StructuredGenerationResult} {raw : RawRemediationOutput}
    (grounded : Grounded context raw) (ofMode : OfMode context raw) :
    Contained (fun proposal => Contained
        (RemediationAssistance.Sound workspace tools context raw)
        (assistanceOf context result raw proposal).validate)
        (proposalOf workspace tools context.editableRegions raw) ↔
      (raw.proposalState = .proposed → Settles IsHandled (fun _ => True)
        (validateAndRenderPatch workspace tools context.editableRegions raw.edits)) := by
  have cites := fun claim membership => (grounded.2 claim membership).2
  unfold proposalOf
  split
  next proposed =>
    have current := ofMode.current proposed
    rw [imp_iff_right proposed]
    cases rendered : validateAndRenderPatch workspace tools context.editableRegions raw.edits with
    | ok patch =>
      have patched : raw.proposalState = .proposed ↔ some patch ≠ none := by simp [proposed]
      refine iff_of_true ?_ trivial
      change Contained _ (assistanceOf context result raw _).validate
      rw [validate_eq_ok (fun historical => absurd historical current) patched]
      change RemediationAssistance.Sound workspace tools context raw _
      refine ⟨cites, patched, fun historical => absurd historical current, ?_⟩
      rintro - ⟨message, refused⟩
      rw [rendered] at refused
      cases refused
    | error failure =>
      cases failure with
      | unsafePatchError message =>
        have patched : ProposalState.noSafeProposal = .proposed ↔
            (none : Option PatchPreview) ≠ none := by simp
        refine iff_of_true ?_ (isHandled_unsafePatchError message)
        change Contained _ (assistanceOf context result raw _).validate
        rw [validate_eq_ok (fun _ => rfl) patched]
        change RemediationAssistance.Sound workspace tools context raw _
        exact ⟨cites, patched, fun _ => rfl, fun _ _ => rfl⟩
      | _ => simp [settles_error, IsHandled]
  next unproposed =>
    have patched : raw.proposalState = .proposed ↔ (none : Option PatchPreview) ≠ none := by
      simp [unproposed]
    refine iff_of_true ?_ (fun proposed => absurd proposed unproposed)
    change Contained _ (assistanceOf context result raw _).validate
    rw [validate_eq_ok (fun _ => rfl) patched]
    change RemediationAssistance.Sound workspace tools context raw _
    exact ⟨cites, patched, fun _ => rfl, fun proposed => absurd proposed unproposed⟩

theorem contained_assist (numerals : Numerals) (result : StructuredGenerationResult) :
    Contained (fun assistance => ∃ raw,
        validatedOutput context (.dict result.output) = .ok raw ∧
          RemediationAssistance.Sound workspace tools context raw assistance)
        (assist workspace tools numerals context result) ↔
      Assistable workspace tools numerals context (.dict result.output) := by
  have again : ∀ {p q : Prop}, (p ∧ (p → q)) ↔ p ∧ q := by tauto
  simp only [assist, canonicalJson, encodedLength, settles_bind, settles_raiseIf,
    contained_validatedOutput, settles_pure, Json.isUnicode_text, Bool.not_eq_false, not_lt,
    not_isProviderError_valueError, not_isProviderError_unicodeEncodeError,
    isProviderError_modelProviderError, imp_false, imp_true_iff, true_and, again, Assistable]
  refine and_congr_right fun _ => and_congr_right fun _ => forall_congr' fun _ => ?_
  refine forall_congr' fun raw => forall_congr' fun read => forall_congr' fun grounded => ?_
  refine forall_congr' fun ofMode => ?_
  have validated : validatedOutput context (.dict result.output) = .ok raw := by
    simp [validatedOutput, read, asProviderFailure, ok_bind, raiseIf_of_not, grounded, ofMode]
  obtain ⟨few, unicode, edited⟩ := edits_of_readRemediationOutput read
  simp only [validated, Except.ok.injEq, exists_eq_left']
  refine (contained_proposalOf grounded ofMode).trans ?_
  refine forall_congr' fun proposed => ?_
  rw [settles_validateAndRenderPatch context.editableRegions unicode]
  refine forall_congr' fun _ => ?_
  rw [imp_iff_right (edited proposed), imp_iff_right few]

/-- What is raised on an answer, the generator raises. -/
theorem generateAssistance_raises {numerals : Numerals} {provider : RemediationProvider}
    {result : StructuredGenerationResult} {failure : Exception}
    (small : context.providerInput.utf8Length ≤ bounds.maxExcerptMaterialBytes)
    (answered : provider.generateStructured context.providerInput = .ok result)
    (raised : assist workspace tools numerals context result = .error failure) :
    generateAssistance workspace tools numerals context provider = .error failure := by
  simp [generateAssistance, encodedLength, context.inputUnicode, context.inputNonblank, raiseIf,
    not_lt.mpr small, bind, Except.bind, pure, Except.pure, raiseProvider, Except.mapError,
    answered, raised]

end Generation

/-! ## A lone surrogate -/

/-- A request to remedy one function. -/
def deliverContext : RemediationContext where
  runId := "sgvrun_1"
  occurrenceId := "sgfinding_1"
  checkId := "sgcheck_1"
  checkKey := "sgcheckkey_1"
  invariantId := "DELIVER_ONCE"
  invariantVersion := 1
  mode := .currentSourceRemediation
  modeLabel := Str.ofString "CURRENT SOURCE REMEDIATION"
  providerInput := Str.ofString "{}"
  allowedReferenceIds := [Str.ofString "region-1"]
  editableRegions := [{
    regionReference := Str.ofString "region-1"
    kind := .fullSymbol
    path := "merchant.py"
    startOffset := 0
    endOffset := 4
    fileFingerprint := "sha256:0"
    regionFingerprint := "pass"
    ordered := by decide }]
  historicalRelevantFingerprint := none
  currentRelevantFingerprint := none
  drift := []
  inputUnicode := by decide +kernel
  inputNonblank := by decide +kernel
  labelBounded := by decide +kernel

/-- A proposal whose replacement is a lone surrogate. -/
def surrogateProposal : List (Str × Json) :=
  [(Str.ofString "causal_summary", .str (Str.ofString "delivers twice")),
    (Str.ofString "grounded_claims", .list [.dict [
      (Str.ofString "text", .str (Str.ofString "delivers")),
      (Str.ofString "references", .list [.str (Str.ofString "region-1")])]]),
    (Str.ofString "remediation_rationale", .str (Str.ofString "deliver once")),
    (Str.ofString "proposal_state", .str (Str.ofString "PROPOSED")),
    (Str.ofString "edits", .list [.dict [
      (Str.ofString "region_reference", .str (Str.ofString "region-1")),
      (Str.ofString "replacement_content", .str [0xD800])]])]

/-- A repository with one file of one statement. -/
def deliverWorkspace : Workspace where
  rootResolves := true
  probe := fun _ => some false
  read := fun path =>
    if path = "merchant.py" then some ⟨"sha256:0", Str.ofString "pass", "utf-8"⟩ else none

/-- Codecs that encode what UTF-8 encodes, and a parser that takes `pass`. -/
def deliverTools : PatchTools where
  casefold := id
  digest := fun text => if text = Str.ofString "pass" then "pass" else "sha256:1"
  encodes := fun _ text => text.isUnicode
  parse := fun text => if text = Str.ofString "pass" then .accepted else .syntaxError
  unifiedDiff := fun _ before after => if before = after then [] else before ++ after

/-- The provider that returns the proposal. -/
def surrogateProvider : RemediationProvider where
  model := sampleModel
  generateStructured := fun _ => .ok (answer surrogateProposal ⟨"", sampleModel, "", 0⟩)

end Remediation

end StateGuard
