import StateGuard.Semantics.Context
import StateGuard.Semantics.Mapper

/-!
# Customer-value decisions

`resolveCustomerValue` asks a model for candidates unless a human decision is current, and
`confirmCustomerValue` records a human decision.  Both persist one artifact, and what a model
proposed is only in it.  A confirmation says that the model had proposed the symbol
(`humanConfirmed`) or that it had not (`manualSelection`), and it reads that off the artifact.

A `Dialogue` is what is left of this when the artifact is forgotten: the candidates that a
confirmation finds, and whether a human has decided.  The store follows the dialogue
(`Follows.step`, `Follows.run`), and `confirmation_basis_iff` reads off it when the basis of a
confirmation is the one that the model's answer calls for.

The project and the configuration do not change: what is built of them is given (`SemanticProject`).
-/

namespace StateGuard

namespace Semantics

open Python Checks Record

structure AIConfig where
  provider : Str
  model : ModelName
  deriving DecidableEq

structure ModelAttemptAudit where
  providerId : Str
  model : Str
  requestFingerprint : Sha256Digest
  latencyMs : Option Nat
  tokenUsage : Option TokenUsage
  deriving DecidableEq

structure HumanResolutionAudit where
  selectedSymbolId : SymbolId
  basis : ResolutionBasis
  actedAt : Int
  deriving DecidableEq

/-- The persisted decision and the evidence that it rests on. -/
structure CustomerValueSemanticArtifact where
  generatedAt : Int
  context : SemanticContextDescriptor
  semanticContextFingerprint : Sha256Digest
  providerBundleFingerprint : Option Sha256Digest := none
  modelAttempt : Option ModelAttemptAudit := none
  providerFailure : Option ProviderFailureCode := none
  validCandidates : List SemanticCandidate := []
  rejectedCandidates : List RejectedSemanticCandidate := []
  partialBundleSuggestions : List SemanticCandidate := []
  resolution : Option ResolutionRecord := none
  resolutionFingerprint : Option Sha256Digest := none
  humanAudit : Option HumanResolutionAudit := none
  deriving DecidableEq

/-- A basis that a human has given. -/
def isHuman : ResolutionBasis → Bool
  | .humanConfirmed | .manualSelection => true
  | .modelUnique | .unresolved => false

/-- `validate_artifact`. -/
def CustomerValueSemanticArtifact.validate (artifact : CustomerValueSemanticArtifact) :
    Except Exception CustomerValueSemanticArtifact := do
  raiseIf (¬ (artifact.validCandidates.map (·.symbolId)).Nodup ∨
    ¬ (artifact.partialBundleSuggestions.map (·.symbolId)).Nodup) .validationError
  raiseIf (artifact.context.bundleCompleteness = .bundlePartial ∧
    (artifact.validCandidates ≠ [] ∨
      ∃ resolution ∈ artifact.resolution, isHuman resolution.basis = false)) .validationError
  raiseIf (artifact.providerFailure ≠ none ∧ artifact.modelAttempt = none) .validationError
  match artifact.resolution with
  | none =>
    raiseIf (artifact.resolutionFingerprint ≠ none ∨ artifact.humanAudit ≠ none) .validationError
  | some resolution =>
    raiseIf (artifact.resolutionFingerprint = none) .validationError
    raiseIf (isHuman resolution.basis ≠ artifact.humanAudit.isSome) .validationError
    raiseIf (∃ audit ∈ artifact.humanAudit,
      some audit.selectedSymbolId ≠ resolution.selectedSymbolId ∨
        audit.basis ≠ resolution.basis) .validationError
  pure artifact

/-- What `validate_artifact` demands. -/
structure CustomerValueSemanticArtifact.Valid (artifact : CustomerValueSemanticArtifact) :
    Prop where
  valid : (artifact.validCandidates.map (·.symbolId)).Nodup
  suggested : (artifact.partialBundleSuggestions.map (·.symbolId)).Nodup
  authority : artifact.context.bundleCompleteness = .bundlePartial →
    artifact.validCandidates = [] ∧
      ∀ resolution ∈ artifact.resolution, isHuman resolution.basis = true
  attempted : artifact.providerFailure ≠ none → artifact.modelAttempt ≠ none
  unresolved : artifact.resolution = none →
    artifact.resolutionFingerprint = none ∧ artifact.humanAudit = none
  resolved : ∀ resolution ∈ artifact.resolution, artifact.resolutionFingerprint ≠ none ∧
    isHuman resolution.basis = artifact.humanAudit.isSome ∧
      ∀ audit ∈ artifact.humanAudit,
        some audit.selectedSymbolId = resolution.selectedSymbolId ∧ audit.basis = resolution.basis

theorem CustomerValueSemanticArtifact.validate_eq_ok (artifact : CustomerValueSemanticArtifact) :
    artifact.validate = .ok artifact ↔ artifact.Valid := by
  unfold CustomerValueSemanticArtifact.validate
  cases isResolution : artifact.resolution with
  | none =>
    simp only [bind_eq_ok, pure_eq_ok, exists_unit, raiseIf_eq_ok, and_true, not_or, not_not,
      not_and, ne_eq]
    constructor
    · rintro ⟨⟨valid, suggested⟩, authority, attempted, unresolved⟩
      exact ⟨valid, suggested, fun isPartial => ⟨(authority isPartial).1, by simp [isResolution]⟩,
        attempted, fun _ => unresolved, by simp [isResolution]⟩
    · intro holds
      exact ⟨⟨holds.valid, holds.suggested⟩,
        fun isPartial => ⟨(holds.authority isPartial).1, by simp⟩,
        holds.attempted, holds.unresolved isResolution⟩
  | some resolution =>
    simp only [bind_eq_ok, pure_eq_ok, exists_unit, raiseIf_eq_ok, and_true, not_or, not_not,
      not_and, ne_eq, Option.mem_def, Option.some.injEq, exists_eq_left', not_exists,
      Bool.not_eq_false]
    constructor
    · rintro ⟨⟨valid, suggested⟩, authority, attempted, fingerprinted, human, audited⟩
      refine ⟨valid, suggested, fun isPartial => ⟨(authority isPartial).1, ?_⟩, attempted,
        by simp [isResolution], ?_⟩
      · intro other isOther
        rw [isResolution] at isOther
        cases isOther
        exact (authority isPartial).2
      · intro other isOther
        rw [isResolution] at isOther
        cases isOther
        exact ⟨fingerprinted, human, audited⟩
    · intro holds
      obtain ⟨fingerprinted, human, audited⟩ := holds.resolved resolution isResolution
      exact ⟨⟨holds.valid, holds.suggested⟩,
        fun isPartial =>
          ⟨(holds.authority isPartial).1, (holds.authority isPartial).2 _ isResolution⟩,
        holds.attempted, fingerprinted, human, audited⟩

inductive HumanResolutionBasis where
  | humanConfirmed | manualSelection
  deriving DecidableEq, Repr

/-- The basis of a resolution that a human has given. -/
def HumanResolutionBasis.resolution : HumanResolutionBasis → ResolutionBasis
  | .humanConfirmed => .humanConfirmed
  | .manualSelection => .manualSelection

/-- The confirmation of the configuration. -/
structure ConfirmedCustomerValue where
  symbolId : SymbolId
  semanticContextFingerprint : Sha256Digest
  basis : HumanResolutionBasis
  deriving DecidableEq

/-- What is persisted: the confirmation of the configuration, and the artifact. -/
structure SemanticStore where
  confirmation : Option ConfirmedCustomerValue
  artifact : Option CustomerValueSemanticArtifact
  deriving DecidableEq

/-- A project and its configuration, with what is built of them. -/
structure SemanticProject where
  index : SourceIndexArtifact
  descriptor : SemanticContextDescriptor
  mapping : Option CustomerValueMappingInput
  /-- `build_manual_semantic_context`. -/
  manual : SymbolId → Except Exception SemanticContextDescriptor
  ai : Option AIConfig
  policy : SemanticBundlePolicy
  /-- The provider's view is of the context that was built. -/
  completenessMatches : ∀ input ∈ mapping,
    input.bundleCompleteness = descriptor.bundleCompleteness
  /-- What is presented is relevant. -/
  catalogRelevant : ∀ input ∈ mapping, ∀ entry ∈ input.catalog,
    entry.symbolId ∈ descriptor.relevantSymbolIds
  /-- The context around a symbol has the symbol in it. -/
  manualRelevant : ∀ symbolId built, manual symbolId = .ok built →
    symbolId ∈ built.relevantSymbolIds

section Decisions

variable (hashing : ContextHashing) (text : RequestText) (project : SemanticProject)

/-- The context of a decision for a symbol. -/
def descriptorFor (symbolId : SymbolId) : Except Exception SemanticContextDescriptor :=
  if symbolId ∈ project.descriptor.relevantSymbolIds then .ok project.descriptor
  else project.manual symbolId

/-- `_eligible_symbol`. -/
def eligibleSymbol? (symbolId : SymbolId) : Option SymbolRecord :=
  project.index.symbols.find? fun item =>
    item.symbolId = symbolId ∧ item.kind.callable ∧
      item.symbolId ∉ project.index.routes.map (·.ownerSymbolId)

structure ReusableAIEvidence where
  candidates : List SemanticCandidate
  providerBundleFingerprint : Sha256Digest
  modelAttempt : ModelAttemptAudit
  deriving DecidableEq

/-- `_reusable_ai_evidence`. -/
def reusableAiEvidence (descriptor : SemanticContextDescriptor)
    (semanticFingerprint : Sha256Digest) (prior : Option CustomerValueSemanticArtifact) :
    Option ReusableAIEvidence := do
  let artifact ← prior
  let ai ← project.ai
  let mapping ← project.mapping
  let bundleFingerprint ← artifact.providerBundleFingerprint
  let attempt ← artifact.modelAttempt
  let prepared := prepareSemanticRequest text mapping ai.model project.policy
  let candidates := artifact.validCandidates ++ artifact.partialBundleSuggestions
  if artifact.semanticContextFingerprint = semanticFingerprint ∧ descriptor = project.descriptor ∧
      attempt.providerId = ai.provider ∧ attempt.model = ai.model.name ∧
      attempt.requestFingerprint = prepared.requestFingerprint ∧
      bundleFingerprint = prepared.providerBundleFingerprint ∧ candidates ≠ [] then
    some ⟨candidates, bundleFingerprint, attempt⟩
  else none

/-- A human decision that is current: its resolution, its context and its audit. -/
structure HumanDecision where
  resolution : ResolutionRecord
  descriptor : SemanticContextDescriptor
  resolutionFingerprint : Sha256Digest
  audit : HumanResolutionAudit
  deriving DecidableEq

/-- The audit of a decision: that of the same decision, when it was persisted before. -/
def auditOf (resolution : ResolutionRecord) (symbolId : SymbolId) (fingerprint : Sha256Digest)
    (timestamp : Int) (prior : Option CustomerValueSemanticArtifact) : HumanResolutionAudit :=
  let audit := ⟨symbolId, resolution.basis, timestamp⟩
  match prior with
  | some artifact =>
    if artifact.semanticContextFingerprint = fingerprint ∧ artifact.resolution = some resolution then
      artifact.humanAudit.getD audit
    else audit
  | none => audit

/-- `_current_human_resolution`. -/
def currentHumanResolution (store : SemanticStore) (timestamp : Int) :
    Except Exception (Option HumanDecision) :=
  match store.confirmation with
  | none => .ok none
  | some confirmation =>
    match eligibleSymbol? project confirmation.symbolId with
    | none => .ok none
    | some symbol => do
      let descriptor ← descriptorFor project symbol.symbolId
      let fingerprint := semanticContextFingerprint hashing descriptor
      if fingerprint = confirmation.semanticContextFingerprint then
        let resolution := ⟨.unique, confirmation.basis.resolution, some symbol.symbolId⟩
        pure (some {
          resolution
          descriptor
          resolutionFingerprint := resolutionFingerprint hashing resolution fingerprint
          audit := auditOf resolution symbol.symbolId fingerprint timestamp store.artifact })
      else pure none

/-- The artifact of a current human decision. -/
def humanArtifact (decision : HumanDecision) (timestamp : Int) : CustomerValueSemanticArtifact where
  generatedAt := timestamp
  context := decision.descriptor
  semanticContextFingerprint := semanticContextFingerprint hashing decision.descriptor
  resolution := some decision.resolution
  resolutionFingerprint := some decision.resolutionFingerprint
  humanAudit := some decision.audit

/-- What a model was asked and what it answered. -/
inductive ModelAnswer where
  | unasked
  | failed (bundleFingerprint : Sha256Digest) (attempt : ModelAttemptAudit)
    (code : ProviderFailureCode)
  | mapped (bundleFingerprint : Sha256Digest) (attempt : ModelAttemptAudit)
    (result : SemanticMappingResult)

/-- The request to the model of the configuration. -/
def askModel (provider : ModelProvider) : Except Exception ModelAnswer :=
  match project.ai, project.mapping with
  | some ai, some mapping =>
    let prepared := prepareSemanticRequest text mapping ai.model project.policy
    match mapCustomerValue text provider mapping ai.model project.policy with
    | .error (.modelProviderError code) => .ok (.failed prepared.providerBundleFingerprint {
        providerId := ai.provider
        model := ai.model.name
        requestFingerprint := prepared.requestFingerprint
        latencyMs := none
        tokenUsage := none } code)
    | .error failure => .error failure
    | .ok result => .ok (.mapped prepared.providerBundleFingerprint {
        providerId := result.providerResult.providerId
        model := result.providerResult.model
        requestFingerprint := result.prepared.requestFingerprint
        latencyMs := some result.providerResult.latencyMs
        tokenUsage := result.providerResult.tokenUsage } result)
  | _, _ => .ok .unasked

/-- The artifact of an answer. -/
def answerArtifact (answer : ModelAnswer) (timestamp : Int) : CustomerValueSemanticArtifact :=
  let fingerprint := semanticContextFingerprint hashing project.descriptor
  let base : CustomerValueSemanticArtifact := {
    generatedAt := timestamp
    context := project.descriptor
    semanticContextFingerprint := fingerprint }
  match answer with
  | .unasked => base
  | .failed bundleFingerprint attempt code => { base with
      providerBundleFingerprint := some bundleFingerprint
      modelAttempt := some attempt
      providerFailure := some code }
  | .mapped bundleFingerprint attempt result =>
    let answered : CustomerValueSemanticArtifact := { base with
      providerBundleFingerprint := some bundleFingerprint
      modelAttempt := some attempt
      rejectedCandidates := result.classification.rejectedCandidates }
    match project.descriptor.bundleCompleteness with
    | .bundlePartial =>
      { answered with partialBundleSuggestions := result.classification.validCandidates }
    | .bundleComplete =>
      let resolution := result.decision.map fun (state, basis, symbolId) => ⟨state, basis, symbolId⟩
      { answered with
        validCandidates := result.classification.validCandidates
        resolution
        resolutionFingerprint := resolution.map (resolutionFingerprint hashing · fingerprint) }

/-- `resolve_customer_value`: the store that it leaves. -/
def resolveCustomerValue (store : SemanticStore) (provider : ModelProvider) (timestamp : Int) :
    Except Exception SemanticStore := do
  match ← currentHumanResolution hashing project store timestamp with
  | some decision =>
    let artifact ← (humanArtifact hashing decision timestamp).validate
    pure { store with artifact := some artifact }
  | none =>
    let answer ← askModel text project provider
    let artifact ← (answerArtifact hashing project answer timestamp).validate
    pure { store with artifact := some artifact }

/-- The symbol that a reference identifies, when it may be selected. -/
def selectSymbol (reference : String) : Except Exception SymbolRecord := do
  let exactId := project.index.symbols.filter (·.symbolId = reference)
  let exactName := project.index.symbols.filter (·.qualifiedName = reference)
  match if exactId ≠ [] then exactId else exactName with
  | [symbol] =>
    raiseIf (symbol.symbolId ∈ project.index.routes.map (·.ownerSymbolId)) .valueError
    raiseIf (symbol.kind.callable = false) .valueError
    pure symbol
  | _ => .error .valueError

/-- The candidates that a confirmation finds. -/
def priorCandidates (descriptor : SemanticContextDescriptor)
    (prior : Option CustomerValueSemanticArtifact) : List SemanticCandidate :=
  ((reusableAiEvidence text project descriptor (semanticContextFingerprint hashing descriptor)
    prior).map (·.candidates)).getD []

/-- The basis of a confirmation. -/
def confirmedBasis (symbolId : SymbolId) (descriptor : SemanticContextDescriptor)
    (prior : Option CustomerValueSemanticArtifact) : HumanResolutionBasis :=
  if symbolId ∈ (priorCandidates hashing text project descriptor prior).map (·.symbolId) then
    .humanConfirmed
  else .manualSelection

/-- The artifact of a confirmation. -/
def confirmedArtifact (symbolId : SymbolId) (descriptor : SemanticContextDescriptor)
    (prior : Option CustomerValueSemanticArtifact) (timestamp : Int) :
    CustomerValueSemanticArtifact :=
  let fingerprint := semanticContextFingerprint hashing descriptor
  let reusable := reusableAiEvidence text project descriptor fingerprint prior
  let candidates := priorCandidates hashing text project descriptor prior
  let basis := confirmedBasis hashing text project symbolId descriptor prior
  let resolution : ResolutionRecord := ⟨.unique, basis.resolution, some symbolId⟩
  { generatedAt := timestamp
    context := descriptor
    semanticContextFingerprint := fingerprint
    providerBundleFingerprint := reusable.map (·.providerBundleFingerprint)
    modelAttempt := reusable.map (·.modelAttempt)
    validCandidates :=
      if basis = .humanConfirmed ∧ descriptor.bundleCompleteness = .bundleComplete then candidates
      else []
    partialBundleSuggestions :=
      if basis = .humanConfirmed ∧ descriptor.bundleCompleteness = .bundlePartial then candidates
      else []
    resolution := some resolution
    resolutionFingerprint := some (resolutionFingerprint hashing resolution fingerprint)
    humanAudit := some ⟨symbolId, basis.resolution, timestamp⟩ }

/-- `confirm_customer_value`: the store that it leaves. -/
def confirmCustomerValue (store : SemanticStore) (reference : String) (timestamp : Int) :
    Except Exception SemanticStore := do
  let symbol ← selectSymbol project reference
  let descriptor ← descriptorFor project symbol.symbolId
  let artifact ← (confirmedArtifact hashing text project symbol.symbolId descriptor store.artifact
    timestamp).validate
  pure {
    confirmation := some {
      symbolId := symbol.symbolId
      semanticContextFingerprint := semanticContextFingerprint hashing descriptor
      basis := confirmedBasis hashing text project symbol.symbolId descriptor store.artifact }
    artifact := some artifact }

/-! ## Runs -/

/-- An operation of a user. -/
inductive Operation where
  | resolve (provider : ModelProvider) (timestamp : Int)
  | confirm (reference : String) (timestamp : Int)

/-- One operation; one that raises leaves the store as it was. -/
def step (store : SemanticStore) : Operation → SemanticStore
  | .resolve provider timestamp =>
    (resolveCustomerValue hashing text project store provider timestamp).toOption.getD store
  | .confirm reference timestamp =>
    (confirmCustomerValue hashing text project store reference timestamp).toOption.getD store

/-- A sequence of operations. -/
def run (store : SemanticStore) (operations : List Operation) : SemanticStore :=
  operations.foldl (step hashing text project) store

/-! ## Dialogues -/

/-- What a confirmation finds: the symbols that a model proposed, and whether a human has
decided. -/
structure Dialogue where
  proposed : List SymbolId
  decided : Bool
  deriving DecidableEq

/-- What an answer leaves to a confirmation: the symbols of its candidates, when it came from the
provider and the model of the configuration. -/
def ModelAnswer.proposes : ModelAnswer → List SymbolId
  | .mapped _ attempt result =>
    if ∃ ai ∈ project.ai, attempt.providerId = ai.provider ∧ attempt.model = ai.model.name then
      result.classification.validCandidates.map (·.symbolId)
    else []
  | _ => []

/-- A confirmation keeps what was proposed only when it selects a part of it; a resolution after a
decision keeps nothing, and before one it keeps the new answer. -/
def Dialogue.step (dialogue : Dialogue) : Operation → Dialogue
  | .resolve provider _ =>
    if dialogue.decided then { dialogue with proposed := [] }
    else match askModel text project provider with
      | .ok answer => { dialogue with proposed := answer.proposes project }
      | .error _ => dialogue
  | .confirm reference _ =>
    match selectSymbol project reference with
    | .ok symbol =>
      match descriptorFor project symbol.symbolId with
      | .ok _ =>
        { proposed := if symbol.symbolId ∈ dialogue.proposed then dialogue.proposed else []
          decided := true }
      | .error _ => dialogue
    | .error _ => dialogue

def Dialogue.run (dialogue : Dialogue) (operations : List Operation) : Dialogue :=
  operations.foldl (Dialogue.step text project) dialogue

variable {hashing text project}

/-! ## What the operations leave -/

theorem reusableAiEvidence_eq_some {descriptor : SemanticContextDescriptor}
    {fingerprint : Sha256Digest} {prior : Option CustomerValueSemanticArtifact}
    {evidence : ReusableAIEvidence} :
    reusableAiEvidence text project descriptor fingerprint prior = some evidence ↔
      ∃ artifact ∈ prior, ∃ ai ∈ project.ai, ∃ mapping ∈ project.mapping,
        artifact.providerBundleFingerprint = some evidence.providerBundleFingerprint ∧
        artifact.modelAttempt = some evidence.modelAttempt ∧
        artifact.validCandidates ++ artifact.partialBundleSuggestions = evidence.candidates ∧
        artifact.semanticContextFingerprint = fingerprint ∧ descriptor = project.descriptor ∧
        evidence.modelAttempt.providerId = ai.provider ∧
        evidence.modelAttempt.model = ai.model.name ∧
        evidence.modelAttempt.requestFingerprint =
          (prepareSemanticRequest text mapping ai.model project.policy).requestFingerprint ∧
        evidence.providerBundleFingerprint =
          (prepareSemanticRequest text mapping ai.model project.policy).providerBundleFingerprint ∧
        evidence.candidates ≠ [] := by
  unfold reusableAiEvidence
  simp only [Option.bind_eq_bind, Option.bind_eq_some_iff, Option.ite_none_right_eq_some,
    Option.mem_def, Option.some.injEq]
  constructor
  · rintro ⟨artifact, isArtifact, ai, isAi, mapping, isMapping, bundle, isBundle, attempt,
      isAttempt,
      ⟨same, current, provider, model, request, bundleSame, some⟩, rfl⟩
    exact ⟨artifact, isArtifact, ai, isAi, mapping, isMapping, isBundle, isAttempt, rfl, same,
      current, provider, model, request, bundleSame, some⟩
  · rintro ⟨artifact, isArtifact, ai, isAi, mapping, isMapping, isBundle, isAttempt, isCandidates,
      same, current, provider, model, request, bundleSame, some⟩
    refine ⟨artifact, isArtifact, ai, isAi, mapping, isMapping, _, isBundle, _, isAttempt,
      ⟨same, current, provider, model, request, bundleSame, isCandidates ▸ some⟩, ?_⟩
    rw [isCandidates]

/-- A decision for a symbol outside the context finds no candidates. -/
theorem priorCandidates_of_manual {descriptor : SemanticContextDescriptor}
    (differs : descriptor ≠ project.descriptor) (prior : Option CustomerValueSemanticArtifact) :
    priorCandidates hashing text project descriptor prior = [] := by
  unfold priorCandidates
  cases found : reusableAiEvidence text project descriptor
    (semanticContextFingerprint hashing descriptor) prior with
  | none => rfl
  | some evidence =>
    obtain ⟨-, -, -, -, -, -, -, -, -, -, same, -⟩ := reusableAiEvidence_eq_some.mp found
    exact absurd same differs

/-- Without candidates in the artifact, a confirmation finds none. -/
theorem priorCandidates_of_empty {descriptor : SemanticContextDescriptor}
    {artifact : CustomerValueSemanticArtifact} (noValid : artifact.validCandidates = [])
    (noSuggestions : artifact.partialBundleSuggestions = []) :
    priorCandidates hashing text project descriptor (some artifact) = [] := by
  unfold priorCandidates
  cases found : reusableAiEvidence text project descriptor
    (semanticContextFingerprint hashing descriptor) (some artifact) with
  | none => rfl
  | some evidence =>
    obtain ⟨prior, isPrior, -, -, -, -, -, -, isCandidates, -, -, -, -, -, -, some⟩ :=
      reusableAiEvidence_eq_some.mp found
    cases isPrior
    rw [noValid, noSuggestions] at isCandidates
    exact absurd isCandidates.symm some

/-- A store that a dialogue describes. -/
structure Follows (hashing : ContextHashing) (text : RequestText) (project : SemanticProject)
    (dialogue : Dialogue) (store : SemanticStore) : Prop where
  found : (priorCandidates hashing text project project.descriptor store.artifact).map
    (·.symbolId) = dialogue.proposed
  distinct : dialogue.proposed.Nodup
  relevant : ∀ symbolId ∈ dialogue.proposed, symbolId ∈ project.descriptor.relevantSymbolIds
  valid : ∀ artifact ∈ store.artifact, artifact.Valid
  decided : dialogue.decided = true → ∃ confirmation ∈ store.confirmation,
    ∃ symbol ∈ eligibleSymbol? project confirmation.symbolId, ∃ descriptor,
      descriptorFor project symbol.symbolId = .ok descriptor ∧
        semanticContextFingerprint hashing descriptor = confirmation.semanticContextFingerprint
  undecided : dialogue.decided = false →
    ∀ timestamp, currentHumanResolution hashing project store timestamp = .ok none

variable {dialogue : Dialogue} {store : SemanticStore}

/-- A confirmation finds the proposed candidates for a relevant symbol, and none for another. -/
theorem Follows.mem_priorCandidates (follows : Follows hashing text project dialogue store)
    {symbolId : SymbolId} {descriptor : SemanticContextDescriptor}
    (built : descriptorFor project symbolId = .ok descriptor) :
    symbolId ∈ (priorCandidates hashing text project descriptor store.artifact).map (·.symbolId) ↔
      symbolId ∈ dialogue.proposed := by
  unfold descriptorFor at built
  split at built
  next relevant =>
    cases built
    rw [follows.found]
  next irrelevant =>
    have differs : descriptor ≠ project.descriptor := by
      rintro rfl
      exact irrelevant (project.manualRelevant _ _ built)
    rw [priorCandidates_of_manual differs]
    exact iff_of_false (by simp) fun proposed => irrelevant (follows.relevant _ proposed)

theorem Follows.confirmedBasis_eq (follows : Follows hashing text project dialogue store)
    {symbolId : SymbolId} {descriptor : SemanticContextDescriptor}
    (built : descriptorFor project symbolId = .ok descriptor) :
    confirmedBasis hashing text project symbolId descriptor store.artifact =
      if symbolId ∈ dialogue.proposed then .humanConfirmed else .manualSelection := by
  unfold confirmedBasis
  simp only [follows.mem_priorCandidates built]

/-- A symbol that was proposed is decided on in the context that was built. -/
theorem Follows.descriptor_eq (follows : Follows hashing text project dialogue store)
    {symbolId : SymbolId} {descriptor : SemanticContextDescriptor}
    (built : descriptorFor project symbolId = .ok descriptor)
    (proposed : symbolId ∈ dialogue.proposed) : descriptor = project.descriptor := by
  rw [descriptorFor, if_pos (follows.relevant symbolId proposed)] at built
  cases built
  rfl

theorem Follows.confirmedArtifact_validate (follows : Follows hashing text project dialogue store)
    {symbolId : SymbolId} {descriptor : SemanticContextDescriptor}
    (built : descriptorFor project symbolId = .ok descriptor) (timestamp : Int) :
    (confirmedArtifact hashing text project symbolId descriptor store.artifact timestamp).validate =
      .ok (confirmedArtifact hashing text project symbolId descriptor store.artifact timestamp) := by
  have distinct : confirmedBasis hashing text project symbolId descriptor store.artifact =
      .humanConfirmed →
      ((priorCandidates hashing text project descriptor store.artifact).map (·.symbolId)).Nodup := by
    intro human
    rw [follows.confirmedBasis_eq built] at human
    split at human
    next proposed =>
      rw [follows.descriptor_eq built proposed, follows.found]
      exact follows.distinct
    next => cases human
  have isHumanBasis : ∀ basis : HumanResolutionBasis, isHuman basis.resolution = true := by
    intro basis
    cases basis <;> rfl
  rw [CustomerValueSemanticArtifact.validate_eq_ok]
  refine ⟨?_, ?_, ?_, by simp [confirmedArtifact], by simp [confirmedArtifact], ?_⟩
  · simp only [confirmedArtifact]
    split
    next human => exact distinct human.1
    next => exact List.nodup_nil
  · simp only [confirmedArtifact]
    split
    next human => exact distinct human.1
    next => exact List.nodup_nil
  · intro isPartial
    change descriptor.bundleCompleteness = _ at isPartial
    simp [confirmedArtifact, isPartial, isHumanBasis]
  · intro resolution isResolution
    cases isResolution
    simp [confirmedArtifact, isHumanBasis]

/-- What a confirmation does, of a store that a dialogue describes. -/
theorem Follows.confirm_eq (follows : Follows hashing text project dialogue store)
    {reference : String} {symbol : SymbolRecord} {descriptor : SemanticContextDescriptor}
    (selected : selectSymbol project reference = .ok symbol)
    (built : descriptorFor project symbol.symbolId = .ok descriptor) (timestamp : Int) :
    confirmCustomerValue hashing text project store reference timestamp = .ok {
      confirmation := some {
        symbolId := symbol.symbolId
        semanticContextFingerprint := semanticContextFingerprint hashing descriptor
        basis := if symbol.symbolId ∈ dialogue.proposed then .humanConfirmed else .manualSelection }
      artifact := some (confirmedArtifact hashing text project symbol.symbolId descriptor
        store.artifact timestamp) } := by
  rw [confirmCustomerValue, selected, ok_bind, built, ok_bind,
    follows.confirmedArtifact_validate built, ok_bind, follows.confirmedBasis_eq built]
  rfl

theorem confirm_eq_ok {reference : String} {timestamp : Int} {confirmed : SemanticStore}
    (confirms : confirmCustomerValue hashing text project store reference timestamp =
      .ok confirmed) :
    ∃ symbol descriptor, selectSymbol project reference = .ok symbol ∧
      descriptorFor project symbol.symbolId = .ok descriptor := by
  simp only [confirmCustomerValue, bind_eq_ok] at confirms
  obtain ⟨symbol, selected, descriptor, built, -⟩ := confirms
  exact ⟨symbol, descriptor, selected, built⟩

/-- A selected symbol is eligible. -/
theorem eligible_of_selectSymbol {reference : String} {symbol : SymbolRecord}
    (selected : selectSymbol project reference = .ok symbol) :
    ∃ eligible ∈ eligibleSymbol? project symbol.symbolId, eligible.symbolId = symbol.symbolId := by
  unfold selectSymbol at selected
  simp only at selected
  split at selected
  next only isOnly =>
    simp only [bind_eq_ok, exists_unit, raiseIf_eq_ok, pure_eq_ok, Bool.not_eq_false] at selected
    obtain ⟨unowned, callable, rfl⟩ := selected
    have member : only ∈ project.index.symbols := by
      split at isOnly
      next => exact List.mem_of_mem_filter (isOnly ▸ List.mem_singleton_self only)
      next => exact List.mem_of_mem_filter (isOnly ▸ List.mem_singleton_self only)
    have isFound : (eligibleSymbol? project only.symbolId).isSome := by
      rw [eligibleSymbol?, List.find?_isSome]
      exact ⟨only, member, by simp [callable, unowned]⟩
    obtain ⟨eligible, found⟩ := Option.isSome_iff_exists.mp isFound
    refine ⟨eligible, found, ?_⟩
    have holds := List.find?_some found
    simp only [decide_eq_true_eq] at holds
    exact holds.1
  next => cases selected

/-- A confirmation of what was proposed keeps the candidates. -/
theorem Follows.found_confirmed (follows : Follows hashing text project dialogue store)
    {symbolId : SymbolId} {descriptor : SemanticContextDescriptor}
    (built : descriptorFor project symbolId = .ok descriptor) (timestamp : Int) :
    (priorCandidates hashing text project project.descriptor
        (some (confirmedArtifact hashing text project symbolId descriptor store.artifact
          timestamp))).map (·.symbolId) =
      if symbolId ∈ dialogue.proposed then dialogue.proposed else [] := by
  have basis := follows.confirmedBasis_eq built
  split
  next proposed =>
    rw [if_pos proposed] at basis
    have current := follows.descriptor_eq built proposed
    subst current
    have some : priorCandidates hashing text project project.descriptor store.artifact ≠ [] := by
      intro none
      have found := follows.found
      rw [none] at found
      rw [← found] at proposed
      cases proposed
    obtain ⟨evidence, found⟩ : ∃ evidence, reusableAiEvidence text project project.descriptor
        (semanticContextFingerprint hashing project.descriptor) store.artifact =
        Option.some evidence := by
      unfold priorCandidates at some
      cases found : reusableAiEvidence text project project.descriptor
        (semanticContextFingerprint hashing project.descriptor) store.artifact with
      | none => simp [found] at some
      | some evidence => exact ⟨evidence, rfl⟩
    have candidates : priorCandidates hashing text project project.descriptor store.artifact =
        evidence.candidates := by
      rw [priorCandidates, found]
      rfl
    have again : reusableAiEvidence text project project.descriptor
        (semanticContextFingerprint hashing project.descriptor)
        (Option.some (confirmedArtifact hashing text project symbolId project.descriptor
          store.artifact timestamp)) = Option.some evidence := by
      obtain ⟨artifact, -, ai, isAi, mapping, isMapping, -, -, -, -, -, later⟩ :=
        reusableAiEvidence_eq_some.mp found
      refine reusableAiEvidence_eq_some.mpr ⟨_, rfl, ai, isAi, mapping, isMapping, ?_, ?_, ?_, rfl,
        rfl, later⟩
      · simp [confirmedArtifact, found]
      · simp [confirmedArtifact, found]
      · cases complete : project.descriptor.bundleCompleteness with
        | bundleComplete => simp [confirmedArtifact, basis, complete, candidates]
        | bundlePartial => simp [confirmedArtifact, basis, complete, candidates]
    rw [← follows.found, priorCandidates, priorCandidates, again, found]
  next unproposed =>
    rw [if_neg unproposed] at basis
    rw [priorCandidates_of_empty]
    · rfl
    · simp [confirmedArtifact, basis]
    · simp [confirmedArtifact, basis]

theorem Follows.confirm (follows : Follows hashing text project dialogue store)
    (reference : String) (timestamp : Int) :
    Follows hashing text project (dialogue.step text project (.confirm reference timestamp))
      (step hashing text project store (.confirm reference timestamp)) := by
  rw [Dialogue.step, step]
  cases selected : selectSymbol project reference with
  | error failure =>
    have raised : confirmCustomerValue hashing text project store reference timestamp =
        .error failure := by
      rw [confirmCustomerValue, selected]
      rfl
    rw [raised]
    exact follows
  | ok symbol =>
    cases built : descriptorFor project symbol.symbolId with
    | error failure =>
      have raised : confirmCustomerValue hashing text project store reference timestamp =
          .error failure := by
        rw [confirmCustomerValue, selected, ok_bind, built]
        rfl
      rw [raised]
      simp only [built]
      exact follows
    | ok descriptor =>
      rw [follows.confirm_eq selected built timestamp]
      simp only [built, Except.toOption, Option.getD_some]
      refine ⟨follows.found_confirmed built timestamp, ?_, ?_, ?_, ?_, by simp⟩
      · dsimp only
        split
        next => exact follows.distinct
        next => exact List.nodup_nil
      · dsimp only
        split
        next => exact follows.relevant
        next => simp
      · intro artifact isArtifact
        cases isArtifact
        exact (CustomerValueSemanticArtifact.validate_eq_ok _).mp
          (follows.confirmedArtifact_validate built timestamp)
      · intro _
        obtain ⟨eligible, isEligible, same⟩ := eligible_of_selectSymbol selected
        exact ⟨_, rfl, eligible, isEligible, descriptor, same ▸ built, rfl⟩

/-- A store without a current decision has none with another artifact or at another time. -/
theorem currentHumanResolution_none {timestamp : Int}
    (undecided : currentHumanResolution hashing project store timestamp = .ok none)
    (artifact : Option CustomerValueSemanticArtifact) (other : Int) :
    currentHumanResolution hashing project { store with artifact } other = .ok none := by
  unfold currentHumanResolution at undecided ⊢
  cases isConfirmation : store.confirmation with
  | none => rfl
  | some confirmation =>
    simp only [isConfirmation] at undecided ⊢
    cases found : eligibleSymbol? project confirmation.symbolId with
    | none => rfl
    | some symbol =>
      simp only [found, bind_eq_ok] at undecided
      obtain ⟨descriptor, built, decides⟩ := undecided
      simp only [built, ok_bind]
      split at decides
      next => cases decides
      next differs =>
        rw [if_neg differs]
        rfl

/-- A decided store has a current decision, and its artifact is valid. -/
theorem Follows.current (follows : Follows hashing text project dialogue store)
    (decided : dialogue.decided = true) (timestamp : Int) :
    ∃ decision, currentHumanResolution hashing project store timestamp = .ok (some decision) ∧
      (humanArtifact hashing decision timestamp).Valid := by
  obtain ⟨confirmation, isConfirmation, symbol, found, descriptor, built, same⟩ :=
    follows.decided decided
  rw [Option.mem_def] at isConfirmation found
  have isHumanBasis : isHuman confirmation.basis.resolution = true := by
    cases confirmation.basis <;> rfl
  have current : currentHumanResolution hashing project store timestamp = .ok (some {
      resolution := ⟨.unique, confirmation.basis.resolution, some symbol.symbolId⟩
      descriptor
      resolutionFingerprint := resolutionFingerprint hashing
        ⟨.unique, confirmation.basis.resolution, some symbol.symbolId⟩
        (semanticContextFingerprint hashing descriptor)
      audit := auditOf ⟨.unique, confirmation.basis.resolution, some symbol.symbolId⟩
        symbol.symbolId (semanticContextFingerprint hashing descriptor) timestamp
        store.artifact }) := by
    unfold currentHumanResolution
    simp only [isConfirmation, found, built, ok_bind, if_pos same]
    rfl
  refine ⟨_, current, ?_⟩
  refine ⟨List.nodup_nil, List.nodup_nil, fun _ => ⟨rfl, ?_⟩, by simp [humanArtifact],
    by simp [humanArtifact], ?_⟩
  · intro resolution isResolution
    cases isResolution
    exact isHumanBasis
  · intro resolution isResolution
    cases isResolution
    refine ⟨by simp [humanArtifact], isHumanBasis, ?_⟩
    intro audit isAudit
    cases isAudit
    -- the audit is new, or that of a valid artifact with the same resolution
    unfold auditOf
    dsimp only
    split
    next prior isPrior =>
      split
      next same =>
        cases audited : prior.humanAudit with
        | none => exact ⟨rfl, rfl⟩
        | some audit =>
          exact ((follows.valid prior isPrior).resolved _ same.2).2.2 audit audited
      next => exact ⟨rfl, rfl⟩
    next => exact ⟨rfl, rfl⟩

/-- The answer of a model: its candidates are distinct symbols of the context. -/
theorem askModel_mapped {provider : ModelProvider} {bundleFingerprint : Sha256Digest}
    {attempt : ModelAttemptAudit} {result : SemanticMappingResult}
    (asked : askModel text project provider = .ok (.mapped bundleFingerprint attempt result)) :
    ∃ ai ∈ project.ai, ∃ mapping ∈ project.mapping,
      mapCustomerValue text provider mapping ai.model project.policy = .ok result ∧
      bundleFingerprint =
        (prepareSemanticRequest text mapping ai.model project.policy).providerBundleFingerprint ∧
      attempt.requestFingerprint =
        (prepareSemanticRequest text mapping ai.model project.policy).requestFingerprint ∧
      attempt.providerId = result.providerResult.providerId ∧
      attempt.model = result.providerResult.model := by
  unfold askModel at asked
  split at asked
  next ai mapping isAi isMapping =>
    dsimp only at asked
    split at asked
    next => cases asked
    next => cases asked
    next mapped returned =>
      cases asked
      refine ⟨ai, isAi, mapping, isMapping, returned, rfl, ?_, rfl, rfl⟩
      rw [(mapCustomerValue_eq_ok returned).1]
  next => cases asked

/-- The artifact of an answer is valid. -/
theorem answerArtifact_valid {provider : ModelProvider} {answer : ModelAnswer}
    (asked : askModel text project provider = .ok answer) (timestamp : Int) :
    (answerArtifact hashing project answer timestamp).Valid := by
  cases answer with
  | unasked =>
    exact ⟨List.nodup_nil, List.nodup_nil, fun _ => ⟨rfl, by simp [answerArtifact]⟩,
      by simp [answerArtifact], by simp [answerArtifact], by simp [answerArtifact]⟩
  | failed bundleFingerprint attempt code =>
    exact ⟨List.nodup_nil, List.nodup_nil, fun _ => ⟨rfl, by simp [answerArtifact]⟩,
      by simp [answerArtifact], by simp [answerArtifact], by simp [answerArtifact]⟩
  | mapped bundleFingerprint attempt result =>
    obtain ⟨ai, -, mapping, isMapping, returned, -⟩ := askModel_mapped asked
    obtain ⟨-, ⟨candidates, classifies⟩, decision⟩ := mapCustomerValue_eq_ok returned
    have same := project.completenessMatches mapping isMapping
    cases complete : project.descriptor.bundleCompleteness with
    | bundlePartial =>
      refine ⟨?_, ?_, fun _ => ⟨?_, ?_⟩, ?_, fun _ => ⟨?_, ?_⟩, ?_⟩
      all_goals simp [answerArtifact, complete, classifies.distinct]
    | bundleComplete =>
      have automatic : ∀ record ∈ result.decision, isHuman record.2.1 = false := by
        intro record isRecord
        rw [decision, same, complete, resolveModelCandidates] at isRecord
        split at isRecord <;> cases isRecord <;> rfl
      refine ⟨by simp [answerArtifact, complete, classifies.distinct],
        by simp [answerArtifact, complete], ?_, by simp [answerArtifact, complete], ?_, ?_⟩
      · intro isPartial
        simp [answerArtifact, complete] at isPartial
      · intro unresolved
        simpa [answerArtifact, complete] using unresolved
      · intro resolution isResolution
        have mapped : result.decision.map
            (fun record => (⟨record.1, record.2.1, record.2.2⟩ : ResolutionRecord)) =
            some resolution := by
          simpa [answerArtifact, complete] using isResolution
        obtain ⟨record, isRecord, rfl⟩ := Option.map_eq_some_iff.mp mapped
        refine ⟨?_, ?_, ?_⟩
        · simp [answerArtifact, complete, isRecord]
        · simpa [answerArtifact, complete] using automatic record isRecord
        · simp [answerArtifact, complete]

/-- What a confirmation finds after an answer. -/
theorem priorCandidates_answer {provider : ModelProvider} {answer : ModelAnswer}
    (asked : askModel text project provider = .ok answer) (timestamp : Int) :
    (priorCandidates hashing text project project.descriptor
      (some (answerArtifact hashing project answer timestamp))).map (·.symbolId) =
      answer.proposes project := by
  cases answer with
  | unasked => rw [priorCandidates_of_empty rfl rfl]; rfl
  | failed bundleFingerprint attempt code => rw [priorCandidates_of_empty rfl rfl]; rfl
  | mapped bundleFingerprint attempt result =>
    obtain ⟨ai, isAi, mapping, isMapping, returned, bundle, request, -⟩ := askModel_mapped asked
    have candidates : (answerArtifact hashing project (.mapped bundleFingerprint attempt result)
          timestamp).validCandidates ++
        (answerArtifact hashing project (.mapped bundleFingerprint attempt result)
          timestamp).partialBundleSuggestions = result.classification.validCandidates := by
      cases complete : project.descriptor.bundleCompleteness with
      | bundlePartial => simp [answerArtifact, complete]
      | bundleComplete => simp [answerArtifact, complete]
    have kept : (answerArtifact hashing project (.mapped bundleFingerprint attempt result)
          timestamp).providerBundleFingerprint = some bundleFingerprint ∧
        (answerArtifact hashing project (.mapped bundleFingerprint attempt result)
          timestamp).modelAttempt = some attempt ∧
        (answerArtifact hashing project (.mapped bundleFingerprint attempt result)
          timestamp).semanticContextFingerprint =
            semanticContextFingerprint hashing project.descriptor := by
      cases complete : project.descriptor.bundleCompleteness with
      | bundlePartial => simp [answerArtifact, complete]
      | bundleComplete => simp [answerArtifact, complete]
    rw [ModelAnswer.proposes]
    split
    next identity =>
      obtain ⟨other, isOther, sameProvider, sameModel⟩ := identity
      by_cases none : result.classification.validCandidates = []
      · rw [none, List.append_eq_nil_iff] at candidates
        rw [priorCandidates_of_empty candidates.1 candidates.2, none]
      · have found : reusableAiEvidence text project project.descriptor
            (semanticContextFingerprint hashing project.descriptor)
            (some (answerArtifact hashing project (.mapped bundleFingerprint attempt result)
              timestamp)) =
            some ⟨result.classification.validCandidates, bundleFingerprint, attempt⟩ := by
          rw [Option.mem_def] at isAi isOther
          have sameAi : ai = other := Option.some.inj (isAi.symm.trans isOther)
          subst sameAi
          exact reusableAiEvidence_eq_some.mpr ⟨_, rfl, ai, isAi, mapping, isMapping, kept.1,
            kept.2.1, candidates, kept.2.2, rfl, sameProvider, sameModel, request, bundle, none⟩
        rw [priorCandidates, found]
        rfl
    next stranger =>
      unfold priorCandidates
      cases found : reusableAiEvidence text project project.descriptor
        (semanticContextFingerprint hashing project.descriptor)
        (some (answerArtifact hashing project (.mapped bundleFingerprint attempt result)
          timestamp)) with
      | none => rfl
      | some evidence =>
        obtain ⟨artifact, isArtifact, other, isOther, -, -, -, isAttempt, -, -, -, sameProvider,
          sameModel, -⟩ := reusableAiEvidence_eq_some.mp found
        cases isArtifact
        rw [kept.2.1] at isAttempt
        cases isAttempt
        exact absurd ⟨other, isOther, sameProvider, sameModel⟩ stranger

/-- What an answer proposes are distinct symbols of the context. -/
theorem proposes_relevant {provider : ModelProvider} {answer : ModelAnswer}
    (asked : askModel text project provider = .ok answer) :
    (answer.proposes project).Nodup ∧
      ∀ symbolId ∈ answer.proposes project, symbolId ∈ project.descriptor.relevantSymbolIds := by
  cases answer with
  | unasked => exact ⟨List.nodup_nil, by simp [ModelAnswer.proposes]⟩
  | failed bundleFingerprint attempt code => exact ⟨List.nodup_nil, by simp [ModelAnswer.proposes]⟩
  | mapped bundleFingerprint attempt result =>
    obtain ⟨ai, -, mapping, isMapping, returned, -⟩ := askModel_mapped asked
    obtain ⟨-, ⟨candidates, classifies⟩, -⟩ := mapCustomerValue_eq_ok returned
    rw [ModelAnswer.proposes]
    split
    next =>
      refine ⟨classifies.distinct, ?_⟩
      intro symbolId membership
      obtain ⟨candidate, isCandidate, rfl⟩ := List.mem_map.mp membership
      obtain ⟨entry, isEntry, same, -⟩ := classifies.cites candidate isCandidate
      exact same ▸ project.catalogRelevant mapping isMapping entry isEntry
    next => exact ⟨List.nodup_nil, by simp⟩

theorem Follows.resolve (follows : Follows hashing text project dialogue store)
    (provider : ModelProvider) (timestamp : Int) :
    Follows hashing text project (dialogue.step text project (.resolve provider timestamp))
      (step hashing text project store (.resolve provider timestamp)) := by
  rw [Dialogue.step, step, resolveCustomerValue]
  cases decided : dialogue.decided with
  | true =>
    obtain ⟨decision, current, valid⟩ := follows.current decided timestamp
    rw [current, ok_bind]
    dsimp only
    rw [(CustomerValueSemanticArtifact.validate_eq_ok _).mpr valid]
    refine ⟨?_, List.nodup_nil, by simp, ?_, fun _ => follows.decided decided, ?_⟩
    · exact congrArg (List.map _) (priorCandidates_of_empty rfl rfl)
    · intro artifact isArtifact
      cases isArtifact
      exact valid
    · intro undecided
      simp at undecided
  | false =>
    rw [follows.undecided decided timestamp, ok_bind]
    dsimp only
    cases asked : askModel text project provider with
    | error failure => exact follows
    | ok answer =>
      have valid := @answerArtifact_valid hashing text project _ _ asked timestamp
      obtain ⟨distinct, relevant⟩ := proposes_relevant asked
      rw [ok_bind, (CustomerValueSemanticArtifact.validate_eq_ok _).mpr valid]
      refine ⟨priorCandidates_answer asked timestamp, distinct, relevant, ?_, ?_, ?_⟩
      · intro artifact isArtifact
        cases isArtifact
        exact valid
      · intro isDecided
        simp at isDecided
      · intro _ other
        exact currentHumanResolution_none (follows.undecided decided timestamp) _ other

/-- One operation keeps a dialogue. -/
theorem Follows.step (follows : Follows hashing text project dialogue store)
    (operation : Operation) :
    Follows hashing text project (dialogue.step text project operation)
      (step hashing text project store operation) := by
  cases operation with
  | resolve provider timestamp => exact follows.resolve provider timestamp
  | confirm reference timestamp => exact follows.confirm reference timestamp

/-- A sequence of operations keeps a dialogue. -/
theorem Follows.run (follows : Follows hashing text project dialogue store)
    (operations : List Operation) :
    Follows hashing text project (dialogue.run text project operations)
      (run hashing text project store operations) := by
  induction operations generalizing dialogue store with
  | nil => exact follows
  | cons operation rest ih => exact ih (follows.step operation)

/-! ## The basis of a confirmation -/

/-- A store after a model answered the request of the configuration with candidates for
`proposed`. -/
structure Answered (hashing : ContextHashing) (text : RequestText) (project : SemanticProject)
    (proposed : List SymbolId) (store : SemanticStore) : Prop where
  answered : ∃ before provider timestamp bundleFingerprint attempt result,
    currentHumanResolution hashing project before timestamp = .ok none ∧
      askModel text project provider = .ok (.mapped bundleFingerprint attempt result) ∧
      (∃ ai ∈ project.ai, attempt.providerId = ai.provider ∧ attempt.model = ai.model.name) ∧
      resolveCustomerValue hashing text project before provider timestamp = .ok store ∧
      result.classification.validCandidates.map (·.symbolId) = proposed

theorem Answered.follows {proposed : List SymbolId}
    (answered : Answered hashing text project proposed store) :
    Follows hashing text project ⟨proposed, false⟩ store := by
  obtain ⟨before, provider, timestamp, bundleFingerprint, attempt, result, undecided, asked,
    identity, resolved, rfl⟩ := answered.answered
  have valid := @answerArtifact_valid hashing text project _ _ asked timestamp
  obtain ⟨distinct, relevant⟩ := proposes_relevant asked
  have proposes : (ModelAnswer.mapped bundleFingerprint attempt result).proposes project =
      result.classification.validCandidates.map (·.symbolId) := if_pos identity
  rw [proposes] at distinct relevant
  rw [resolveCustomerValue, undecided, ok_bind] at resolved
  dsimp only at resolved
  rw [asked, ok_bind, (CustomerValueSemanticArtifact.validate_eq_ok _).mpr valid] at resolved
  cases resolved
  refine ⟨(priorCandidates_answer asked timestamp).trans proposes, distinct, relevant, ?_, ?_, ?_⟩
  · intro artifact isArtifact
    cases isArtifact
    exact valid
  · intro isDecided
    cases isDecided
  · intro _ other
    exact currentHumanResolution_none undecided _ other

/-- The confirmed store has the basis and the fingerprint that the proposal `proposed` calls for. -/
def BasisOf (hashing : ContextHashing) (text : RequestText) (project : SemanticProject)
    (proposed : List SymbolId) (first later : SemanticStore) : Prop :=
  ∀ reference timestamp confirmed,
    confirmCustomerValue hashing text project later reference timestamp = .ok confirmed →
    ∃ artifact ∈ confirmed.artifact, ∃ resolution ∈ artifact.resolution,
      (resolution.basis = .humanConfirmed ↔
        ∃ symbolId ∈ resolution.selectedSymbolId, symbolId ∈ proposed) ∧
      ∀ direct, confirmCustomerValue hashing text project first reference timestamp = .ok direct →
        ∃ other ∈ direct.artifact, other.resolutionFingerprint = artifact.resolutionFingerprint

/-- The symbols that can be confirmed. -/
def Confirmable (project : SemanticProject) (symbolId : SymbolId) : Prop :=
  ∃ reference symbol descriptor, selectSymbol project reference = .ok symbol ∧
    symbol.symbolId = symbolId ∧ descriptorFor project symbolId = .ok descriptor

theorem resolution_humanConfirmed_iff (basis : HumanResolutionBasis) :
    basis.resolution = .humanConfirmed ↔ basis = .humanConfirmed := by
  cases basis <;> simp [HumanResolutionBasis.resolution]

/-- After a model's answer, a confirmation has the basis that the answer calls for exactly when the
operations in between have kept the proposal, for every symbol that can be confirmed. -/
theorem confirmation_basis_iff {proposed : List SymbolId} {first : SemanticStore}
    (answered : Answered hashing text project proposed first) (operations : List Operation) :
    BasisOf hashing text project proposed first (run hashing text project first operations) ↔
      ∀ symbolId, Confirmable project symbolId →
        (symbolId ∈ (Dialogue.run text project ⟨proposed, false⟩ operations).proposed ↔
          symbolId ∈ proposed) := by
  have follows := answered.follows
  have later := follows.run operations
  constructor
  · rintro basisOf symbolId ⟨reference, symbol, descriptor, selected, rfl, built⟩
    obtain ⟨artifact, isArtifact, resolution, isResolution, basis, -⟩ :=
      basisOf reference 0 _ (later.confirm_eq selected built 0)
    cases isArtifact
    cases isResolution
    simpa [confirmedArtifact, resolution_humanConfirmed_iff, later.confirmedBasis_eq built]
      using basis
  · intro kept reference timestamp confirmed confirms
    obtain ⟨symbol, descriptor, selected, built⟩ := confirm_eq_ok confirms
    have same := kept symbol.symbolId ⟨reference, symbol, descriptor, selected, rfl, built⟩
    rw [later.confirm_eq selected built timestamp] at confirms
    cases confirms
    refine ⟨_, rfl, _, rfl, ?_, ?_⟩
    · simpa [resolution_humanConfirmed_iff, later.confirmedBasis_eq built] using same
    · intro direct confirmsFirst
      rw [follows.confirm_eq selected built timestamp] at confirmsFirst
      cases confirmsFirst
      refine ⟨_, rfl, ?_⟩
      simp only [confirmedArtifact, later.confirmedBasis_eq built, follows.confirmedBasis_eq built,
        same]

end Decisions

/-! ## A decision in between -/

def shopLocation (line : Nat) : SourceLocation := ⟨"shop.py", line, 0, line + 1, 0⟩

/-- A shop that grants access, and that can refund. -/
def shopIndex : SourceIndexArtifact where
  projectId := "sgproj_1"
  sourceIndexFingerprint := "sha256:2"
  symbols := [⟨"sgsym_1", "sgfile_1", "grant_access", .function, shopLocation 1⟩,
    ⟨"sgsym_2", "sgfile_1", "refund", .function, shopLocation 4⟩]
  callSites := []
  frameworkInstances := []
  appTargets := []
  routes := []
  routerIncludes := []
  completeness := .complete
  symbolsUnique := by decide +kernel
  frameworksUnique := List.nodup_nil
  callSitesKnown := by simp

def contextOf (symbolId : SymbolId) : SemanticContextDescriptor where
  paymentIngressSymbolIds := []
  relevantSymbolIds := [symbolId]
  presentedSymbolIds := []
  bundleCompleteness := .bundleComplete
  diagnostics := []
  sourceExcerpts := []
  paymentCalls := []
  graphNeighborhood := []

/-- The project of the shop: access is granted on the way from a payment, a refund is not. -/
def shopProject : SemanticProject where
  index := shopIndex
  descriptor := contextOf "sgsym_1"
  mapping := some grantAccessMapping
  manual := fun symbolId => .ok (contextOf symbolId)
  ai := some ⟨Str.ofString "openai-compatible", sampleModel⟩
  policy := {}
  completenessMatches := by
    rintro input ⟨⟩
    rfl
  catalogRelevant := by
    rintro input ⟨⟩
    decide +kernel
  manualRelevant := by
    rintro symbolId built ⟨⟩
    exact List.mem_singleton_self symbolId

def shopHashing : ContextHashing where
  diagnosticText := (·.reference)
  context := fun payload => String.intercalate "," payload.relevantSymbolIds
  resolution := fun resolution fingerprint => resolution.basis.value ++ ":" ++ fingerprint

/-- The candidate that grants access. -/
def grantsAccess : List (Str × Json) :=
  [(Str.ofString "candidates", .list [.dict [
    (Str.ofString "symbol_reference", .str (Str.ofString "candidate_001")),
    (Str.ofString "rationale", .str (Str.ofString "grants access")),
    (Str.ofString "excerpt_references", .list [.str (Str.ofString "src_1")]),
    (Str.ofString "provider_confidence", .null)]])]

def grantsAccessClassification : CandidateClassification where
  validCandidates := [{
    catalogReference := Str.ofString "candidate_001"
    symbolId := "sgsym_1"
    rationale := Str.ofString "grants access"
    excerptReferences := [Str.ofString "src_1"]
    providerConfidence := none }]
  rejectedCandidates := []

def shopAnswer : ModelAnswer :=
  let prepared := prepareSemanticRequest sampleText grantAccessMapping sampleModel {}
  let result := answer grantsAccess prepared.request
  .mapped prepared.providerBundleFingerprint {
    providerId := result.providerId
    model := result.model
    requestFingerprint := prepared.requestFingerprint
    latencyMs := some result.latencyMs
    tokenUsage := result.tokenUsage } {
    prepared
    providerResult := result
    classification := grantsAccessClassification
    decision := resolveModelCandidates grantsAccessClassification
      grantAccessMapping.bundleCompleteness }

/-- The store after the model answered. -/
def shopAnswered : SemanticStore :=
  (resolveCustomerValue shopHashing sampleText shopProject ⟨none, none⟩ (answering grantsAccess)
    0).toOption.getD ⟨none, none⟩

theorem shop_answered : Answered shopHashing sampleText shopProject ["sgsym_1"] shopAnswered where
  answered := by
    have classified : classifyOutput sampleText grantAccessMapping {} (.dict grantsAccess) =
        .ok grantsAccessClassification := by decide +kernel
    have asked : askModel sampleText shopProject (answering grantsAccess) = .ok shopAnswer := by
      have mapped := @mapCustomerValue_returns sampleText (answering grantsAccess)
        grantAccessMapping sampleModel {} _ _ (answering_eq_ok grantsAccess _) classified
      unfold askModel
      simp only [shopProject, mapped]
      rfl
    refine ⟨⟨none, none⟩, answering grantsAccess, 0, _, _, _, rfl, asked, ⟨_, rfl, ?_⟩, ?_, rfl⟩
    · exact ⟨rfl, rfl⟩
    · decide +kernel

/-- The model proposed to grant access.  After a refund has been selected by hand, a confirmation of
the proposal says that it was not proposed. -/
theorem confirmedAfterRefund_manual :
    Answered shopHashing sampleText shopProject ["sgsym_1"] shopAnswered ∧
      ¬ BasisOf shopHashing sampleText shopProject ["sgsym_1"] shopAnswered
        (run shopHashing sampleText shopProject shopAnswered [.confirm "refund" 1]) := by
  refine ⟨shop_answered, ?_⟩
  intro basisOf
  have confirms : ∃ confirmed, confirmCustomerValue shopHashing sampleText shopProject
      (run shopHashing sampleText shopProject shopAnswered [.confirm "refund" 1])
      "grant_access" 2 = .ok confirmed ∧
      confirmed.artifact.bind (·.resolution) =
        some ⟨.unique, .manualSelection, some "sgsym_1"⟩ :=
    ⟨(confirmCustomerValue shopHashing sampleText shopProject
      (run shopHashing sampleText shopProject shopAnswered [.confirm "refund" 1])
      "grant_access" 2).toOption.getD ⟨none, none⟩, by decide +kernel, by decide +kernel⟩
  obtain ⟨confirmed, isConfirmed, manual⟩ := confirms
  obtain ⟨artifact, isArtifact, resolution, isResolution, basis, -⟩ :=
    basisOf "grant_access" 2 confirmed isConfirmed
  rw [Option.mem_def] at isArtifact isResolution
  rw [isArtifact, Option.bind_some, isResolution, Option.some.injEq] at manual
  rw [manual] at basis
  have human := basis.mpr ⟨"sgsym_1", rfl, List.mem_singleton_self _⟩
  cases human

/-- The equivalence at a sequence that keeps the proposal. -/
theorem confirmedTwice_human :
    BasisOf shopHashing sampleText shopProject ["sgsym_1"] shopAnswered
        (run shopHashing sampleText shopProject shopAnswered [.confirm "grant_access" 1]) ↔
      ∀ symbolId, Confirmable shopProject symbolId →
        (symbolId ∈ (Dialogue.run sampleText shopProject ⟨["sgsym_1"], false⟩
            [.confirm "grant_access" 1]).proposed ↔
          symbolId ∈ ["sgsym_1"]) :=
  confirmation_basis_iff shop_answered [.confirm "grant_access" 1]

end Semantics

end StateGuard
