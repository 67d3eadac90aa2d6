import StateGuard.Semantics.Contracts
import StateGuard.Evidence.Contracts

/-!
# Remediation records

What a provider returns for a finding, the regions of source that its edits may replace, and the
assistance that is made of both.
-/

namespace StateGuard

namespace Remediation

open Python Checks Record Semantics

inductive AssistanceMode where
  | currentSourceRemediation | historicalExplanationOnly
  deriving DecidableEq, Repr

inductive ProposalState where
  | proposed | noSafeProposal | blockedCurrentSourceAuthority
  deriving DecidableEq, Repr

def ProposalState.value : ProposalState → String
  | .proposed => "PROPOSED"
  | .noSafeProposal => "NO_SAFE_PROPOSAL"
  | .blockedCurrentSourceAuthority => "BLOCKED_CURRENT_SOURCE_AUTHORITY"

inductive EditableRegionKind where
  | fullSymbol | importRegion | insertionAnchor
  deriving DecidableEq, Repr

structure GroundedClaim where
  text : Str
  references : List Str
  deriving DecidableEq

structure RawStructuredEdit where
  regionReference : Str
  replacementContent : Str
  deriving DecidableEq

structure RawRemediationOutput where
  causalSummary : Str
  groundedClaims : List GroundedClaim
  remediationRationale : Option Str
  proposalState : ProposalState
  edits : List RawStructuredEdit
  limitations : List Str
  deriving DecidableEq

/-- A region of a source file, by its offsets. -/
structure EditableRegion where
  regionReference : Str
  kind : EditableRegionKind
  path : String
  startOffset : Nat
  endOffset : Nat
  fileFingerprint : Sha256Digest
  regionFingerprint : Sha256Digest
  ordered : startOffset ≤ endOffset
  deriving DecidableEq

structure StructuredEditPreview where
  regionReference : Str
  path : String
  kind : EditableRegionKind
  originalRegionFingerprint : Sha256Digest
  replacementFingerprint : Sha256Digest
  deriving DecidableEq

structure PatchPreview where
  diff : Str
  edits : List StructuredEditPreview
  deriving DecidableEq

structure DriftDiagnostic where
  dimension : String
  historicalFingerprint : Option Sha256Digest
  currentFingerprint : Option Sha256Digest
  blocking : Bool
  deriving DecidableEq

/-! ## What a provider returns -/

/-- `GroundedClaim.model_validate`. -/
def readGroundedClaim (value : Json) : Except Exception GroundedClaim := do
  let entries ← entriesOf value
  onlyFields ["text", "references"] entries
  let text ← required "text" (boundedText 1 (some bounds.maxExplanationCharacters)) entries
  let references ← required "references"
    (tupleOf 1 (some bounds.maxReferencesPerItem) Record.plainText) entries
  pure { text := text.strip, references }

/-- `RawStructuredEdit.model_validate`. -/
def readStructuredEdit (value : Json) : Except Exception RawStructuredEdit := do
  let entries ← entriesOf value
  onlyFields ["region_reference", "replacement_content"] entries
  let regionReference ← required "region_reference"
    (boundedText 1 (some bounds.maxReferenceCharacters)) entries
  let replacementContent ← required "replacement_content" (boundedText 1 none) entries
  pure { regionReference, replacementContent }

/-- A member of `ProposalState`, by its value. -/
def readProposalState (value : Json) : Except Exception ProposalState := do
  let text ← Record.plainText value
  match [ProposalState.proposed, .noSafeProposal, .blockedCurrentSourceAuthority].find?
      fun state => text = Str.ofString state.value with
  | some state => pure state
  | none => .error .validationError

/-- `validate_proposal_shape`. -/
def RawRemediationOutput.validateProposalShape (raw : RawRemediationOutput) :
    Except Exception Unit := do
  raiseIf (raw.proposalState = .proposed ∧ (raw.edits = [] ∨ raw.remediationRationale = none))
    .validationError
  raiseIf (raw.proposalState ≠ .proposed ∧ raw.edits ≠ []) .validationError
  raiseIf (¬ (raw.edits.map (·.regionReference)).Nodup) .validationError
  raiseIf (∃ item ∈ raw.limitations,
    item.strip = [] ∨ bounds.maxExplanationCharacters < item.length) .validationError

/-- `RawRemediationOutput.model_validate`. -/
def readRemediationOutput (value : Json) : Except Exception RawRemediationOutput := do
  let entries ← entriesOf value
  onlyFields ["causal_summary", "grounded_claims", "remediation_rationale", "proposal_state",
    "edits", "limitations"] entries
  let causalSummary ← required "causal_summary"
    (boundedText 1 (some bounds.maxExplanationCharacters)) entries
  let groundedClaims ← required "grounded_claims"
    (tupleOf 1 (some bounds.maxStructuredItems) readGroundedClaim) entries
  let remediationRationale ← orDefault "remediation_rationale"
    (orNone (boundedText 0 (some bounds.maxExplanationCharacters))) none entries
  let proposalState ← required "proposal_state" readProposalState entries
  let edits ← orDefault "edits" (tupleOf 0 (some bounds.maxStructuredItems) readStructuredEdit) []
    entries
  let limitations ← orDefault "limitations"
    (tupleOf 0 (some bounds.maxStructuredItems) Record.plainText) [] entries
  let raw : RawRemediationOutput := {
    causalSummary, groundedClaims, remediationRationale, proposalState, edits, limitations }
  raw.validateProposalShape
  pure raw

theorem readGroundedClaim_validates (value : Json) : Validates (readGroundedClaim value) := by
  refine (Validates.entriesOf value).bind fun entries => ?_
  refine (Validates.onlyFields _ entries).bind fun _ => ?_
  refine (Validates.required (Validates.boundedText _ _) _ entries).bind fun text => ?_
  exact (Validates.required (Validates.tupleOf Validates.plainText _ _) _ entries).bind
    fun references => Validates.pure _

theorem readStructuredEdit_validates (value : Json) : Validates (readStructuredEdit value) := by
  refine (Validates.entriesOf value).bind fun entries => ?_
  refine (Validates.onlyFields _ entries).bind fun _ => ?_
  refine (Validates.required (Validates.boundedText _ _) _ entries).bind fun reference => ?_
  exact (Validates.required (Validates.boundedText _ _) _ entries).bind
    fun content => Validates.pure _

theorem readProposalState_validates (value : Json) : Validates (readProposalState value) := by
  refine (Validates.plainText value).bind fun text => ?_
  split
  next => exact Validates.pure _
  next => exact Validates.raised

theorem validateProposalShape_validates (raw : RawRemediationOutput) :
    Validates raw.validateProposalShape := by
  refine (Validates.raiseIf _).bind fun _ => ?_
  refine (Validates.raiseIf _).bind fun _ => ?_
  exact (Validates.raiseIf _).bind fun _ => Validates.raiseIf _

theorem readRemediationOutput_validates (value : Json) :
    Validates (readRemediationOutput value) := by
  refine (Validates.entriesOf value).bind fun entries => ?_
  refine (Validates.onlyFields _ entries).bind fun _ => ?_
  refine (Validates.required (Validates.boundedText _ _) _ entries).bind fun summary => ?_
  refine (Validates.required (Validates.tupleOf readGroundedClaim_validates _ _) _ entries).bind
    fun claims => ?_
  refine (Validates.orDefault (Validates.orNone (Validates.boundedText _ _)) _ _ entries).bind
    fun rationale => ?_
  refine (Validates.required readProposalState_validates _ entries).bind fun state => ?_
  refine (Validates.orDefault (Validates.tupleOf readStructuredEdit_validates _ _) _ _ entries).bind
    fun edits => ?_
  refine (Validates.orDefault (Validates.tupleOf Validates.plainText _ _) _ _ entries).bind
    fun limitations => ?_
  exact (validateProposalShape_validates _).bind fun _ => Validates.pure _

/-- The edits that were read: at most as many as a patch may have, with Unicode text. -/
theorem edits_of_readRemediationOutput {value : Json} {raw : RawRemediationOutput}
    (read : readRemediationOutput value = .ok raw) :
    raw.edits.length ≤ bounds.maxStructuredItems ∧
      (∀ edit ∈ raw.edits, edit.replacementContent.isUnicode = true) ∧
      (raw.proposalState = .proposed → raw.edits ≠ []) := by
  simp only [readRemediationOutput, bind_eq_ok, pure_eq_ok, exists_unit] at read
  obtain ⟨entries, -, -, summary, -, claims, -, rationale, -, state, -, edits, readEdits,
    limitations, -, shaped, rfl⟩ := read
  simp only [RawRemediationOutput.validateProposalShape, bind_eq_ok, exists_unit, raiseIf_eq_ok,
    not_and, not_or] at shaped
  obtain ⟨proposed, -⟩ := shaped
  refine ⟨?_, ?_, fun isProposed => (proposed isProposed).1⟩
  · rcases orDefault_eq_ok readEdits with rfl | ⟨value, isTuple⟩
    · exact Nat.zero_le _
    · exact (tupleOf_eq_ok isTuple).2.1 _ rfl
  · intro edit membership
    rcases orDefault_eq_ok readEdits with rfl | ⟨value, isTuple⟩
    · cases membership
    · obtain ⟨entry, isEdit⟩ := (tupleOf_eq_ok isTuple).2.2 edit membership
      simp only [readStructuredEdit, bind_eq_ok, pure_eq_ok, exists_unit] at isEdit
      obtain ⟨fields, -, -, reference, -, content, readContent, rfl⟩ := isEdit
      obtain ⟨field, isText⟩ := required_eq_ok readContent
      exact (boundedText_eq_ok isText).1

end Remediation

end StateGuard
