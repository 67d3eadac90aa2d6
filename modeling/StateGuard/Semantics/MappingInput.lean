import StateGuard.Semantics.ContextBuilder

/-!
# The input of a mapping

`semanticContextBuild` builds a context and, where there is a payment ingress, the bundle that a
provider is sent.  The supporting excerpts are chosen twice: a first loop counts their bytes before
the candidates are counted, and a second loop emits them.

* `emits_counted` runs the two loops side by side.
* `boundedView_within` bounds what the loops count; `omitted_or_shown` says of every relevant
  symbol where it went.
* `semanticContextFingerprint_policy` compares the contexts of two policies.

`semanticContextBuild_accounted` puts them together.
-/

namespace StateGuard

namespace Semantics

open KeyOrder Python Checks

inductive SourceExcerptPurpose where
  | candidate | supporting
  deriving DecidableEq, Repr

structure SourceExcerpt where
  excerptReference : Str
  purpose : SourceExcerptPurpose
  symbolId : SymbolId
  sourceLocation : SourceLocation
  contentFingerprint : Sha256Digest
  content : String
  deriving DecidableEq

/-- `CustomerValueMappingInput`, with what the mapper does not read of it. -/
structure MappingInput extends CustomerValueMappingInput where
  projectId : ProjectId
  sourceIndexFingerprint : Sha256Digest
  graphFingerprint : Sha256Digest
  semanticContext : SemanticContextDescriptor
  excerpts : List SourceExcerpt
  deriving DecidableEq

/-- `SemanticContextBuild`. -/
structure SemanticContextBuild where
  descriptor : SemanticContextDescriptor
  mappingInput : Option MappingInput
  callPaths : Dict SymbolId (List CallSiteRecord)
  policy : SemanticBundlePolicy

/-! ## Excerpts and entries of the catalog -/

/-- `f"src_{symbol_id[6:]}"`. -/
def excerptReference (symbolId : SymbolId) : Str :=
  Str.ofString ("src_" ++ String.ofList (symbolId.toList.drop 6))

/-- `f"candidate_{ordinal:03d}"`. -/
def catalogReference (ordinal : Nat) : Str :=
  let digits := toString ordinal
  Str.ofString ("candidate_" ++ "".pushn '0' (3 - digits.length) ++ digits)

section

variable (digest : String → Sha256Digest) (hash : EvidenceHashing) (snapshot : SourceSnapshot)
  (graph : PaymentSafetyGraphArtifact)

/-- A symbol whose source is at hand, with the source. -/
def indexedSource (symbolId : SymbolId) : Option (SymbolRecord × String) :=
  (symbol? snapshot symbolId).bind fun symbol =>
    (symbolSource snapshot symbol).map fun content => (symbol, content)

/-- `SourceExcerpt(...)`. -/
def sourceExcerpt (purpose : SourceExcerptPurpose) (symbolId : SymbolId) (symbol : SymbolRecord)
    (content : String) : Except ContextError SourceExcerpt := do
  let reference := excerptReference symbolId
  raiseIf (reference = [] ∨ bounds.maxReferenceCharacters < reference.length) .validationError
  raiseIf (content = "" ∨ isBlank content = true) .validationError
  pure {
    excerptReference := reference.strip
    purpose
    symbolId
    sourceLocation := symbol.sourceLocation
    contentFingerprint := digest content
    content }

/-- `SemanticCatalogEntry(...)`. -/
def semanticCatalogEntry (ordinal : Nat) (symbolId : SymbolId) (symbol : SymbolRecord) :
    Except ContextError SemanticCatalogEntry :=
  let reference := catalogReference ordinal
  let qualifiedName := Str.ofString symbol.qualifiedName
  let excerpt := excerptReference symbolId
  if valid : reference ≠ [] ∧ reference.length ≤ bounds.maxReferenceCharacters ∧
      qualifiedName ≠ [] ∧ qualifiedName.length ≤ 512 ∧ symbol.kind.callable = true ∧
      excerpt.strip ≠ [] ∧ excerpt.length ≤ bounds.maxReferenceCharacters then
    .ok {
      catalogReference := reference.strip
      symbolId
      qualifiedName := qualifiedName.strip
      symbolKind := symbol.kind
      excerptReferences := [excerpt]
      referenceStripped := Str.strip_strip _
      referenceUnicode :=
        Str.isUnicode_of_sublist (Str.strip_sublist _) (Str.isUnicode_ofString _)
      referenceBounded := (Str.length_strip_le _).trans valid.2.1
      eligible := valid.2.2.2.2.1
      excerptsUnique := List.nodup_singleton _
      excerptsBounded := Nat.succ_le_of_lt (by decide) }
  else .error .validationError

/-! ## The mapping input -/

/-- What the second loop over the route owners has emitted. -/
structure Emission where
  consumed : Nat
  includedSupporting : List SymbolId
  excerpts : List SourceExcerpt

/-- Emit the excerpt of a route owner. -/
def emit (policy : SemanticBundlePolicy) (emission : Emission) (symbolId : SymbolId) :
    Except ContextError Emission :=
  match indexedSource snapshot symbolId with
  | none => pure emission
  | some (symbol, content) =>
    if policy.generation.maxExcerptMaterialBytes < emission.consumed + content.utf8ByteSize then
      pure emission
    else do
      let excerpt ← sourceExcerpt digest .supporting symbolId symbol content
      pure {
        consumed := emission.consumed + content.utf8ByteSize
        includedSupporting := emission.includedSupporting ++ [symbolId]
        excerpts := emission.excerpts ++ [excerpt] }

/-- The presented symbols with their ordinals and sources.  All of them have a source. -/
def presentedSources (presented : List SymbolId) : List (Nat × SymbolId × SymbolRecord × String) :=
  (presented.zipIdx 1).filterMap fun (symbolId, ordinal) =>
    (indexedSource snapshot symbolId).map fun (symbol, content) =>
      (ordinal, symbolId, symbol, content)

/-- The excerpt of a candidate, and its entry. -/
def offer : Nat × SymbolId × SymbolRecord × String →
    Except ContextError (SourceExcerpt × SemanticCatalogEntry)
  | (ordinal, symbolId, symbol, content) => do
    let excerpt ← sourceExcerpt digest .candidate symbolId symbol content
    let entry ← semanticCatalogEntry ordinal symbolId symbol
    pure (excerpt, entry)

/-- `known_excerpts.get`. -/
def known? (excerpts : List SourceExcerpt) (reference : Str) : Option SourceExcerpt :=
  excerpts.find? (·.excerptReference = reference)

/-- An entry cites excerpts that are there and that are those of its candidate. -/
def checkEntry (excerpts : List SourceExcerpt) (entry : SemanticCatalogEntry) :
    Except ContextError Unit := do
  raiseIf (∃ reference ∈ entry.excerptReferences,
    reference ∉ excerpts.map (·.excerptReference)) .validationError
  raiseIf (∃ reference ∈ entry.excerptReferences,
    ∃ excerpt ∈ known? excerpts reference,
      excerpt.purpose ≠ .candidate ∨ excerpt.symbolId ≠ entry.symbolId) .validationError

/-- An excerpt is that of an entry, or of a symbol that is relevant. -/
def checkExcerpt (symbolIds relevant : List SymbolId) (excerpt : SourceExcerpt) :
    Except ContextError Unit :=
  match excerpt.purpose with
  | .candidate => raiseIf (excerpt.symbolId ∉ symbolIds) .validationError
  | .supporting => raiseIf (excerpt.symbolId ∉ relevant) .validationError

/-- `CustomerValueMappingInput(...)`. -/
def customerValueMappingInput (descriptor : SemanticContextDescriptor)
    (catalog : List SemanticCatalogEntry) (excerpts : List SourceExcerpt) :
    Except ContextError MappingInput :=
  let symbolIds := catalog.map (·.symbolId)
  if unique : (catalog.map (·.catalogReference)).Nodup ∧ symbolIds.Nodup then do
    raiseIf (¬ (excerpts.map (·.excerptReference)).Nodup) .validationError
    raiseIf (¬ (symbolIds ⊆ descriptor.presentedSymbolIds ∧
      descriptor.presentedSymbolIds ⊆ symbolIds)) .validationError
    raiseIf (∃ symbolId ∈ symbolIds, symbolId ∈ descriptor.paymentIngressSymbolIds)
      .validationError
    forEach (checkEntry excerpts) catalog
    forEach (checkExcerpt symbolIds descriptor.relevantSymbolIds) excerpts
    pure {
      bundleCompleteness := descriptor.bundleCompleteness
      catalog
      referencesUnique := unique.1
      symbolsUnique := unique.2
      projectId := snapshot.index.projectId
      sourceIndexFingerprint := snapshot.index.sourceIndexFingerprint
      graphFingerprint := graph.graphFingerprint
      semanticContext := descriptor
      excerpts }
  else .error .validationError

/-- The bundle of a context. -/
def mappingInputOf (policy : SemanticBundlePolicy) (descriptor : SemanticContextDescriptor) :
    Except ContextError MappingInput := do
  let emission ← (supportingIds snapshot graph).foldlM (emit digest snapshot policy) ⟨0, [], []⟩
  let offers ← collect (offer digest) (presentedSources snapshot descriptor.presentedSymbolIds)
  customerValueMappingInput snapshot graph descriptor (offers.map (·.2))
    (emission.excerpts ++ offers.map (·.1))

/-- `build_semantic_context`. -/
def semanticContextBuild (policy : SemanticBundlePolicy) :
    Except ContextError SemanticContextBuild := do
  let descriptor ← buildSemanticContext hash policy snapshot graph
  if seedIds graph = [] then pure ⟨descriptor, none, relevantPaths snapshot graph, policy⟩
  else do
    let mappingInput ← mappingInputOf digest snapshot graph policy descriptor
    pure ⟨descriptor, some mappingInput, relevantPaths snapshot graph, policy⟩

/-! ## What the first loop counts -/

/-- The route owners whose bytes the first loop counts. -/
def counted (policy : SemanticBundlePolicy) : View → List SymbolId → List SymbolId
  | _, [] => []
  | view, symbolId :: rest =>
    let next := supply hash snapshot policy view symbolId
    if view.excerptBytes < next.excerptBytes then symbolId :: counted policy next rest
    else counted policy next rest

/-- The route owners that the first loop counts for a context. -/
def countedSupporting (policy : SemanticBundlePolicy) : List SymbolId :=
  counted hash snapshot policy ⟨0, [], []⟩ (supportingIds snapshot graph)

end

/-! ## Sources -/

section

variable {digest : String → Sha256Digest} {hash : EvidenceHashing} {snapshot : SourceSnapshot}
  {graph : PaymentSafetyGraphArtifact} {policy : SemanticBundlePolicy}

theorem sourceText_eq_map (symbolId : SymbolId) :
    sourceText snapshot symbolId = (indexedSource snapshot symbolId).map (·.2) := by
  rw [sourceText, indexedSource, Option.map_bind]
  congr
  funext symbol
  simp [Function.comp_def]

theorem indexedSource_eq_none {symbolId : SymbolId} :
    indexedSource snapshot symbolId = none ↔ sourceText snapshot symbolId = none := by
  rw [sourceText_eq_map, Option.map_eq_none_iff]

theorem indexedSource_of_sourceText {symbolId : SymbolId}
    (available : sourceText snapshot symbolId ≠ none) :
    ∃ symbol content, indexedSource snapshot symbolId = some (symbol, content) := by
  obtain ⟨⟨symbol, content⟩, found⟩ :=
    Option.ne_none_iff_exists'.mp (mt indexedSource_eq_none.mp available)
  exact ⟨symbol, content, found⟩

theorem sourceText_of_indexedSource {symbolId : SymbolId} {symbol : SymbolRecord}
    {content : String} (found : indexedSource snapshot symbolId = some (symbol, content)) :
    sourceText snapshot symbolId = some content := by
  rw [sourceText_eq_map, found, Option.map_some]

/-- A source is not empty. -/
theorem utf8ByteSize_pos {symbolId : SymbolId} {content : String}
    (found : sourceText snapshot symbolId = some content) : 0 < content.utf8ByteSize := by
  rcases Nat.eq_zero_or_pos content.utf8ByteSize with empty | positive
  · rw [String.utf8ByteSize_eq_zero_iff] at empty
    subst empty
    obtain ⟨symbol, -, isSource⟩ := Option.bind_eq_some_iff.mp found
    rw [symbolSource] at isSource
    split at isSource
    next => cases isSource
    next text _ =>
      simp only at isSource
      split at isSource
      next => cases isSource
      next visible =>
        rw [Option.some.inj isSource] at visible
        exact absurd (by decide) visible
  · exact positive

/-- The bytes of the source of a symbol. -/
def sourceBytes (snapshot : SourceSnapshot) (symbolId : SymbolId) : Nat :=
  (sourceText snapshot symbolId).elim 0 String.utf8ByteSize

theorem sourceBytes_eq {symbolId : SymbolId} {content : String}
    (found : sourceText snapshot symbolId = some content) :
    sourceBytes snapshot symbolId = content.utf8ByteSize := by
  rw [sourceBytes, found]
  rfl

/-! ## One step of a loop -/

/-- What the first loop does with a route owner. -/
theorem supply_outcome (hash : EvidenceHashing) (policy : SemanticBundlePolicy)
    (snapshot : SourceSnapshot) (view : View) (symbolId : SymbolId) :
    (sourceText snapshot symbolId = none ∧ supply hash snapshot policy view symbolId = view) ∨
      (policy.generation.maxExcerptMaterialBytes <
          view.excerptBytes + sourceBytes snapshot symbolId ∧
        supply hash snapshot policy view symbolId =
          { view with omissions := view.omissions ++ [diagnostic hash .excerptByteLimitReached
              ("supporting-excerpt-omitted:" ++ symbolId) (some symbolId) none] }) ∨
      (view.excerptBytes + sourceBytes snapshot symbolId ≤
          policy.generation.maxExcerptMaterialBytes ∧
        supply hash snapshot policy view symbolId =
          { view with excerptBytes := view.excerptBytes + sourceBytes snapshot symbolId }) := by
  rw [supply]
  split
  next unavailable => exact .inl ⟨unavailable, rfl⟩
  next content found =>
    rw [sourceBytes_eq found]
    split
    next large => exact .inr (.inl ⟨large, rfl⟩)
    next small => exact .inr (.inr ⟨Nat.le_of_not_lt small, rfl⟩)

/-- What the loop over the candidates does with one of them. -/
theorem present_outcome (hash : EvidenceHashing) (policy : SemanticBundlePolicy)
    (snapshot : SourceSnapshot) (view : View) (symbolId : SymbolId) :
    (sourceText snapshot symbolId = none ∧ present hash snapshot policy view symbolId = view) ∨
      (∃ code reference, SemanticDiagnosticCode.presentation code = true ∧
        present hash snapshot policy view symbolId =
          { view with omissions := view.omissions ++
              [diagnostic hash code reference (some symbolId) none] }) ∨
      (sourceText snapshot symbolId ≠ none ∧
        view.presented.length < policy.maxPresentedCandidates ∧
        view.excerptBytes + sourceBytes snapshot symbolId ≤
          policy.generation.maxExcerptMaterialBytes ∧
        present hash snapshot policy view symbolId =
          { view with
            excerptBytes := view.excerptBytes + sourceBytes snapshot symbolId
            presented := view.presented ++ [symbolId] }) := by
  rw [present]
  split
  next unavailable => exact .inl ⟨unavailable, rfl⟩
  next content found =>
    rw [sourceBytes_eq found]
    split
    next => exact .inr (.inl ⟨_, _, rfl, rfl⟩)
    next fewer =>
      split
      next => exact .inr (.inl ⟨_, _, rfl, rfl⟩)
      next small =>
        exact .inr (.inr ⟨by simp [found], Nat.lt_of_not_le fewer, Nat.le_of_not_lt small, rfl⟩)

/-! ## What the loops keep -/

/-- A view within the bounds of a policy, whose bytes are those of some symbols and of what it
presents. -/
structure View.Within (policy : SemanticBundlePolicy) (snapshot : SourceSnapshot)
    (supplied : List SymbolId) (view : View) : Prop where
  counts : view.excerptBytes = (supplied.map (sourceBytes snapshot)).sum +
    (view.presented.map (sourceBytes snapshot)).sum
  bytes : view.excerptBytes ≤ policy.generation.maxExcerptMaterialBytes
  candidates : view.presented.length ≤ policy.maxPresentedCandidates
  sourced : ∀ symbolId ∈ view.presented, sourceText snapshot symbolId ≠ none

/-- A symbol that an omission names. -/
def View.Omits (view : View) (symbolId : SymbolId) : Prop :=
  ∃ item ∈ view.omissions, item.affectedSymbolId = some symbolId ∧ item.code.presentation = true

/-- A view that keeps what another presents and omits. -/
structure View.Extends (view next : View) : Prop where
  presented : view.presented ⊆ next.presented
  omissions : view.omissions ⊆ next.omissions

theorem View.Extends.refl (view : View) : view.Extends view :=
  ⟨List.Subset.refl _, List.Subset.refl _⟩

theorem View.Extends.trans {view next last : View} (first : view.Extends next)
    (second : next.Extends last) : view.Extends last :=
  ⟨List.Subset.trans first.presented second.presented,
    List.Subset.trans first.omissions second.omissions⟩

theorem View.Omits.extend {view next : View} {symbolId : SymbolId} (omits : view.Omits symbolId)
    (extension : view.Extends next) : next.Omits symbolId :=
  let ⟨item, listed, names⟩ := omits
  ⟨item, extension.omissions listed, names⟩

theorem supply_extends (hash : EvidenceHashing) (policy : SemanticBundlePolicy)
    (snapshot : SourceSnapshot) (view : View) (symbolId : SymbolId) :
    view.Extends (supply hash snapshot policy view symbolId) := by
  rcases supply_outcome hash policy snapshot view symbolId with
    ⟨-, same⟩ | ⟨-, same⟩ | ⟨-, same⟩
  · rw [same]
    exact .refl view
  · rw [same]
    exact ⟨List.Subset.refl _, List.subset_append_left _ _⟩
  · rw [same]
    exact ⟨List.Subset.refl _, List.Subset.refl _⟩

theorem present_extends (hash : EvidenceHashing) (policy : SemanticBundlePolicy)
    (snapshot : SourceSnapshot) (view : View) (symbolId : SymbolId) :
    view.Extends (present hash snapshot policy view symbolId) := by
  rcases present_outcome hash policy snapshot view symbolId with
    ⟨-, same⟩ | ⟨code, reference, -, same⟩ | ⟨-, -, -, same⟩
  · rw [same]
    exact .refl view
  · rw [same]
    exact ⟨List.Subset.refl _, List.subset_append_left _ _⟩
  · rw [same]
    exact ⟨List.subset_append_left _ _, List.Subset.refl _⟩

/-- A loop whose steps extend the view extends it. -/
theorem foldl_extends {step : View → SymbolId → View}
    (each : ∀ (view : View) symbolId, view.Extends (step view symbolId)) (symbolIds : List SymbolId)
    (view : View) : view.Extends (symbolIds.foldl step view) :=
  List.foldlRecOn symbolIds step (.refl view) fun next extension symbolId _ =>
    extension.trans (each next symbolId)

/-! ## The loops -/

/-- The bytes that the first loop counts, of the route owners that it counts. -/
theorem supplies_bytes (hash : EvidenceHashing) (view : View) (symbolIds : List SymbolId)
    (within : view.excerptBytes ≤ policy.generation.maxExcerptMaterialBytes) :
    (symbolIds.foldl (supply hash snapshot policy) view).presented = view.presented ∧
      (symbolIds.foldl (supply hash snapshot policy) view).excerptBytes = view.excerptBytes +
        ((counted hash snapshot policy view symbolIds).map (sourceBytes snapshot)).sum ∧
      (symbolIds.foldl (supply hash snapshot policy) view).excerptBytes ≤
        policy.generation.maxExcerptMaterialBytes := by
  induction symbolIds generalizing view with
  | nil => exact ⟨rfl, rfl, within⟩
  | cons symbolId rest ih =>
    rw [List.foldl_cons, counted]
    rcases supply_outcome hash policy snapshot view symbolId with
      ⟨-, same⟩ | ⟨-, same⟩ | ⟨small, same⟩
    · rw [same, if_neg (lt_irrefl _)]
      exact ih view within
    · rw [same, if_neg (lt_irrefl _)]
      exact ih _ within
    · obtain ⟨shown, bytes, bounded⟩ :=
        ih { view with excerptBytes := view.excerptBytes + sourceBytes snapshot symbolId } small
      rw [same]
      refine ⟨shown, bytes.trans ?_, bounded⟩
      split
      next => rw [List.map_cons, List.sum_cons, Nat.add_assoc]
      next none_more =>
        -- A source without bytes would not be counted, and would not be missed in the sum.
        have nothing : sourceBytes snapshot symbolId = 0 := by
          simp only at none_more
          omega
        rw [nothing, Nat.add_zero]

/-- A route owner whose source is at hand is counted or omitted by the first loop. -/
theorem counted_or_omitted {symbolId : SymbolId} (available : sourceText snapshot symbolId ≠ none)
    (view : View) (symbolIds : List SymbolId) (listed : symbolId ∈ symbolIds) :
    symbolId ∈ counted hash snapshot policy view symbolIds ∨
      (symbolIds.foldl (supply hash snapshot policy) view).Omits symbolId := by
  induction symbolIds generalizing view with
  | nil => cases listed
  | cons first rest ih =>
    rw [List.foldl_cons, counted]
    rcases List.mem_cons.mp listed with rfl | later
    · rcases supply_outcome hash policy snapshot view symbolId with
        ⟨unavailable, -⟩ | ⟨-, same⟩ | ⟨-, same⟩
      · exact absurd unavailable available
      · have omits : (supply hash snapshot policy view symbolId).Omits symbolId := by
          rw [same]
          exact ⟨_, List.mem_append_right _ (List.mem_singleton_self _), rfl, rfl⟩
        exact .inr (omits.extend (foldl_extends (supply_extends hash policy snapshot) rest _))
      · obtain ⟨content, found⟩ := Option.ne_none_iff_exists'.mp available
        have positive := utf8ByteSize_pos found
        rw [← sourceBytes_eq found] at positive
        rw [if_pos (by rw [same]; simpa using positive)]
        exact .inl List.mem_cons_self
    · rcases ih (supply hash snapshot policy view first) later with isCounted | omits
      · split
        next => exact .inl (List.mem_cons_of_mem _ isCounted)
        next => exact .inl isCounted
      · exact .inr omits

/-- A candidate that is taken in keeps the view within its bounds. -/
theorem present_within {supplied : List SymbolId} {view : View}
    (within : view.Within policy snapshot supplied) (symbolId : SymbolId) :
    (present hash snapshot policy view symbolId).Within policy snapshot supplied := by
  rcases present_outcome hash policy snapshot view symbolId with
    ⟨-, same⟩ | ⟨code, reference, -, same⟩ | ⟨available, fewer, small, same⟩
  · rwa [same]
  · rw [same]
    exact ⟨within.counts, within.bytes, within.candidates, within.sourced⟩
  · rw [same]
    refine ⟨?_, small, ?_, ?_⟩
    · simp only [List.map_append, List.map_cons, List.map_nil, List.sum_append, List.sum_cons,
        List.sum_nil, within.counts]
      omega
    · rw [List.length_append, List.length_singleton]
      exact fewer
    · intro other isShown
      rcases List.mem_append.mp isShown with before | added
      · exact within.sourced other before
      · rwa [List.mem_singleton.mp added]

/-- A candidate whose source is at hand is presented or omitted. -/
theorem presented_or_omitted {symbolId : SymbolId}
    (available : sourceText snapshot symbolId ≠ none) (view : View) (symbolIds : List SymbolId)
    (listed : symbolId ∈ symbolIds) :
    symbolId ∈ (symbolIds.foldl (present hash snapshot policy) view).presented ∨
      (symbolIds.foldl (present hash snapshot policy) view).Omits symbolId := by
  obtain ⟨before, after, rfl⟩ := List.append_of_mem listed
  rw [List.foldl_append, List.foldl_cons]
  generalize before.foldl (present hash snapshot policy) view = reached
  have later := foldl_extends (present_extends hash policy snapshot) after
    (present hash snapshot policy reached symbolId)
  rcases present_outcome hash policy snapshot reached symbolId with
    ⟨unavailable, -⟩ | ⟨code, reference, isPresentation, same⟩ | ⟨-, -, -, same⟩
  · exact absurd unavailable available
  · refine .inr (View.Omits.extend ?_ later)
    rw [same]
    exact ⟨_, List.mem_append_right _ (List.mem_singleton_self _), rfl, isPresentation⟩
  · refine .inl (later.presented ?_)
    rw [same]
    exact List.mem_append_right _ (List.mem_singleton_self _)

/-- The loops stay within the bounds. -/
theorem boundedView_within (hash : EvidenceHashing) (snapshot : SourceSnapshot)
    (graph : PaymentSafetyGraphArtifact) (policy : SemanticBundlePolicy) :
    (boundedView hash snapshot graph policy).Within policy snapshot
      (countedSupporting hash snapshot graph policy) := by
  obtain ⟨shown, bytes, bounded⟩ := supplies_bytes hash (⟨0, [], []⟩ : View)
    (supportingIds snapshot graph) (Nat.zero_le policy.generation.maxExcerptMaterialBytes)
  refine List.foldlRecOn _ _ ⟨?_, bounded, ?_, ?_⟩ fun view within symbolId _ =>
    present_within within symbolId
  · rw [shown, bytes, countedSupporting]
    simp
  · rw [shown]
    exact Nat.zero_le _
  · rw [shown]
    simp

/-! ## The excerpts -/

/-- The excerpt of a symbol, with its source. -/
structure SourceExcerpt.Shows (snapshot : SourceSnapshot) (purpose : SourceExcerptPurpose)
    (excerpt : SourceExcerpt) : Prop where
  purpose : excerpt.purpose = purpose
  source : sourceText snapshot excerpt.symbolId = some excerpt.content

theorem sourceExcerpt_shows {purpose : SourceExcerptPurpose} {symbolId : SymbolId}
    {symbol : SymbolRecord} {content : String} {excerpt : SourceExcerpt}
    (found : indexedSource snapshot symbolId = some (symbol, content))
    (built : sourceExcerpt digest purpose symbolId symbol content = .ok excerpt) :
    excerpt.symbolId = symbolId ∧ excerpt.Shows snapshot purpose := by
  simp only [sourceExcerpt, bind_eq_ok, exists_unit, pure_eq_ok] at built
  obtain ⟨-, -, rfl⟩ := built
  exact ⟨rfl, rfl, sourceText_of_indexedSource found⟩

/-- The second loop emits the excerpts of the route owners that the first loop counts. -/
theorem emits_counted (hash : EvidenceHashing) (view : View) {emission final : Emission}
    {symbolIds : List SymbolId} (consumed : emission.consumed = view.excerptBytes)
    (emitted : symbolIds.foldlM (emit digest snapshot policy) emission = .ok final) :
    final.consumed = (symbolIds.foldl (supply hash snapshot policy) view).excerptBytes ∧
      final.includedSupporting =
        emission.includedSupporting ++ counted hash snapshot policy view symbolIds ∧
      ∃ excerpts, final.excerpts = emission.excerpts ++ excerpts ∧
        excerpts.map (·.symbolId) = counted hash snapshot policy view symbolIds ∧
        ∀ excerpt ∈ excerpts, excerpt.Shows snapshot .supporting := by
  induction symbolIds generalizing emission view with
  | nil =>
    cases (pure_eq_ok _ _).mp emitted
    exact ⟨consumed, (List.append_nil _).symm, [], (List.append_nil _).symm, rfl, by simp⟩
  | cons symbolId rest ih =>
    rw [List.foldlM_cons, bind_eq_ok] at emitted
    obtain ⟨next, isNext, emitted⟩ := emitted
    rw [List.foldl_cons, counted]
    rw [emit] at isNext
    split at isNext
    next missing =>
      cases (pure_eq_ok _ _).mp isNext
      rw [supply, indexedSource_eq_none.mp missing]
      simp only [lt_irrefl, if_false]
      exact ih view consumed emitted
    next symbol content found =>
      have text := sourceText_of_indexedSource found
      simp only [supply, text, ← consumed]
      split at isNext
      next large =>
        cases (pure_eq_ok _ _).mp isNext
        rw [if_pos large]
        simp only [lt_irrefl, consumed, if_false]
        exact ih _ consumed emitted
      next small =>
        simp only [bind_eq_ok, pure_eq_ok] at isNext
        obtain ⟨excerpt, built, rfl⟩ := isNext
        obtain ⟨isSymbol, shows⟩ := sourceExcerpt_shows found built
        rw [if_neg small, if_pos (Nat.lt_add_of_pos_right (utf8ByteSize_pos text))]
        obtain ⟨same, included, excerpts, whole, named, each⟩ := ih
          { view with excerptBytes := emission.consumed + content.utf8ByteSize } rfl emitted
        refine ⟨same, ?_, excerpt :: excerpts, ?_, ?_, ?_⟩
        · rw [included, List.append_assoc, List.singleton_append]
        · rw [whole, List.append_assoc, List.singleton_append]
        · rw [List.map_cons, isSymbol, named]
        · exact List.forall_mem_cons.mpr ⟨shows, each⟩

/-- The sources of symbols that all have one. -/
theorem presentedSources_map {presented : List SymbolId}
    (sourced : ∀ symbolId ∈ presented, sourceText snapshot symbolId ≠ none) :
    (presentedSources snapshot presented).map (·.2.1) = presented := by
  have from_ordinal : ∀ (symbolIds : List SymbolId) (ordinal : Nat),
      (∀ symbolId ∈ symbolIds, sourceText snapshot symbolId ≠ none) →
        (((symbolIds.zipIdx ordinal).filterMap fun (symbolId, ordinal) =>
          (indexedSource snapshot symbolId).map fun (symbol, content) =>
            (ordinal, symbolId, symbol, content)).map (·.2.1)) = symbolIds := by
    intro symbolIds
    induction symbolIds with
    | nil => exact fun _ _ => rfl
    | cons symbolId rest ih =>
      intro ordinal available
      obtain ⟨symbol, content, found⟩ :=
        indexedSource_of_sourceText (available symbolId List.mem_cons_self)
      rw [List.zipIdx_cons, List.filterMap_cons]
      simp only [found, Option.map_some, List.map_cons]
      rw [ih _ fun other later => available other (List.mem_cons_of_mem _ later)]
  exact from_ordinal presented 1 sourced

theorem mem_presentedSources {presented : List SymbolId} {ordinal : Nat} {symbolId : SymbolId}
    {symbol : SymbolRecord} {content : String}
    (listed : (ordinal, symbolId, symbol, content) ∈ presentedSources snapshot presented) :
    indexedSource snapshot symbolId = some (symbol, content) := by
  rw [presentedSources, List.mem_filterMap] at listed
  obtain ⟨⟨other, index⟩, -, isSource⟩ := listed
  simp only [Option.map_eq_some_iff, Prod.exists, Prod.mk.injEq] at isSource
  obtain ⟨symbol', content', found, -, rfl, rfl, rfl⟩ := isSource
  exact found

theorem semanticCatalogEntry_symbolId {ordinal : Nat} {symbolId : SymbolId}
    {symbol : SymbolRecord} {entry : SemanticCatalogEntry}
    (built : semanticCatalogEntry ordinal symbolId symbol = .ok entry) :
    entry.symbolId = symbolId := by
  rw [semanticCatalogEntry] at built
  split at built
  next => rw [← Except.ok.inj built]
  next => cases built

theorem offer_shows {presented : List SymbolId} {source : Nat × SymbolId × SymbolRecord × String}
    {offered : SourceExcerpt × SemanticCatalogEntry}
    (listed : source ∈ presentedSources snapshot presented)
    (isOffered : offer digest source = .ok offered) :
    offered.1.symbolId = source.2.1 ∧ offered.1.Shows snapshot .candidate ∧
      offered.2.symbolId = source.2.1 := by
  obtain ⟨ordinal, symbolId, symbol, content⟩ := source
  simp only [offer, bind_eq_ok, pure_eq_ok] at isOffered
  obtain ⟨excerpt, built, entry, isEntry, rfl⟩ := isOffered
  obtain ⟨isSymbol, shows⟩ := sourceExcerpt_shows (mem_presentedSources listed) built
  exact ⟨isSymbol, shows, semanticCatalogEntry_symbolId isEntry⟩

/-- The excerpts and the entries of the candidates. -/
theorem offers_presented {presented : List SymbolId}
    {offers : List (SourceExcerpt × SemanticCatalogEntry)}
    (sourced : ∀ symbolId ∈ presented, sourceText snapshot symbolId ≠ none)
    (offered : collect (offer digest) (presentedSources snapshot presented) = .ok offers) :
    offers.map (·.1.symbolId) = presented ∧ offers.map (·.2.symbolId) = presented ∧
      ∀ offered ∈ offers, offered.1.Shows snapshot .candidate := by
  have related := (collect_related offered).imp fun source built ⟨listed, isOffered⟩ =>
    offer_shows listed isOffered
  rw [← presentedSources_map sourced]
  clear offered
  generalize presentedSources snapshot presented = sources at related
  induction related with
  | nil => exact ⟨rfl, rfl, by simp⟩
  | cons first _ ih =>
    obtain ⟨excerpts, entries, each⟩ := ih
    refine ⟨?_, ?_, List.forall_mem_cons.mpr ⟨first.2.1, each⟩⟩
    · rw [List.map_cons, List.map_cons, first.1, excerpts]
    · rw [List.map_cons, List.map_cons, first.2.2, entries]

/-- The excerpts and the entries of a mapping input. -/
structure MappingInput.Bundles (snapshot : SourceSnapshot) (descriptor : SemanticContextDescriptor)
    (supplied : List SymbolId) (input : MappingInput) : Prop where
  context : input.semanticContext = descriptor
  catalog : input.catalog.map (·.symbolId) = descriptor.presentedSymbolIds
  supporting : (input.excerpts.filter (·.purpose = .supporting)).map (·.symbolId) = supplied
  excerpts : input.excerpts.map (·.symbolId) = supplied ++ descriptor.presentedSymbolIds
  sources : ∀ excerpt ∈ input.excerpts,
    sourceText snapshot excerpt.symbolId = some excerpt.content

theorem mappingInputOf_bundles (hash : EvidenceHashing) {descriptor : SemanticContextDescriptor}
    {input : MappingInput}
    (sourced : ∀ symbolId ∈ descriptor.presentedSymbolIds, sourceText snapshot symbolId ≠ none)
    (built : mappingInputOf digest snapshot graph policy descriptor = .ok input) :
    input.Bundles snapshot descriptor (countedSupporting hash snapshot graph policy) := by
  simp only [mappingInputOf, bind_eq_ok] at built
  obtain ⟨emission, emitted, offers, offered, built⟩ := built
  obtain ⟨-, -, excerpts, whole, named, each⟩ :=
    emits_counted hash ⟨0, [], []⟩ rfl emitted
  obtain ⟨shown, entries, candidates⟩ := offers_presented sourced offered
  simp only [customerValueMappingInput] at built
  split at built
  next unique =>
    simp only [bind_eq_ok, exists_unit, pure_eq_ok] at built
    obtain ⟨-, -, -, -, -, rfl⟩ := built
    refine ⟨rfl, ?_, ?_, ?_, ?_⟩
    · rw [List.map_map]
      exact entries
    · simp only [whole, List.nil_append, List.filter_append]
      rw [List.filter_eq_self.mpr fun excerpt listed =>
          decide_eq_true (each excerpt listed).purpose,
        List.filter_eq_nil_iff.mpr ?_, List.append_nil]
      · exact named
      · intro excerpt listed
        obtain ⟨offered, isOffered, rfl⟩ := List.mem_map.mp listed
        simp [(candidates offered isOffered).purpose]
    · simp only [whole, List.nil_append, List.map_append, List.map_map]
      exact congrArg₂ _ named shown
    · simp only [whole, List.nil_append]
      intro excerpt listed
      rcases List.mem_append.mp listed with isSupporting | isCandidate
      · exact (each excerpt isSupporting).source
      · obtain ⟨offered, isOffered, rfl⟩ := List.mem_map.mp isCandidate
        exact (candidates offered isOffered).source
  next => cases built

/-! ## The contexts of two policies -/

/-- The diagnostics of a context that no bound has a part in. -/
def lasting (hash : EvidenceHashing) (snapshot : SourceSnapshot)
    (graph : PaymentSafetyGraphArtifact) : List SemanticContextDiagnostic :=
  sourceDiagnostics hash snapshot graph ++ graphDiagnostics hash snapshot graph ++
    callDiagnostics hash snapshot graph ++ unavailableDiagnostics hash snapshot graph

/-- A view that leaves out only what its bounds leave out. -/
def View.LeavesOut (view : View) : Prop :=
  ∀ item ∈ view.omissions, item.code.presentation = true

theorem supply_leavesOut {view : View} (leaves : view.LeavesOut) (symbolId : SymbolId) :
    (supply hash snapshot policy view symbolId).LeavesOut := by
  rcases supply_outcome hash policy snapshot view symbolId with
    ⟨-, same⟩ | ⟨-, same⟩ | ⟨-, same⟩
  · rwa [same]
  · rw [same]
    exact List.forall_mem_append.mpr ⟨leaves, List.forall_mem_singleton.mpr rfl⟩
  · rw [same]
    exact leaves

theorem present_leavesOut {view : View} (leaves : view.LeavesOut) (symbolId : SymbolId) :
    (present hash snapshot policy view symbolId).LeavesOut := by
  rcases present_outcome hash policy snapshot view symbolId with
    ⟨-, same⟩ | ⟨code, reference, isPresentation, same⟩ | ⟨-, -, -, same⟩
  · rwa [same]
  · rw [same]
    exact List.forall_mem_append.mpr ⟨leaves, List.forall_mem_singleton.mpr isPresentation⟩
  · rw [same]
    exact leaves

theorem boundedView_leavesOut : (boundedView hash snapshot graph policy).LeavesOut := by
  refine List.foldlRecOn _ _ (List.foldlRecOn _ _ ?_ fun view leaves symbolId _ => ?_)
    fun view leaves symbolId _ => ?_
  · exact fun item nothing => absurd nothing List.not_mem_nil
  · exact supply_leavesOut leaves symbolId
  · exact present_leavesOut leaves symbolId

theorem filter_dedup {α : Type} [DecidableEq α] (keep : α → Bool) (items : List α) :
    items.dedup.filter keep = (items.filter keep).dedup := by
  induction items with
  | nil => rfl
  | cons first rest ih =>
    by_cases again : first ∈ rest
    · rw [List.dedup_cons_of_mem again, ih]
      by_cases kept : keep first = true
      · rw [List.filter_cons_of_pos kept,
          List.dedup_cons_of_mem (List.mem_filter.mpr ⟨again, kept⟩)]
      · rw [List.filter_cons_of_neg kept]
    · rw [List.dedup_cons_of_notMem again]
      by_cases kept : keep first = true
      · rw [List.filter_cons_of_pos kept, List.filter_cons_of_pos kept, ih,
          List.dedup_cons_of_notMem fun listed => again (List.mem_of_mem_filter listed)]
      · rw [List.filter_cons_of_neg kept, List.filter_cons_of_neg kept, ih]

/-- What a fingerprint covers of the diagnostics does not depend on the policy. -/
theorem descriptorOf_lasting (hash : EvidenceHashing) (snapshot : SourceSnapshot)
    (graph : PaymentSafetyGraphArtifact) (policy : SemanticBundlePolicy) :
    (descriptorOf hash snapshot graph policy).diagnostics.filter
        (fun item => item.code.presentation = false) =
      diagnosticTuple ((lasting hash snapshot graph).filter
        fun item => item.code.presentation = false) := by
  have passing : (boundedView hash snapshot graph policy).omissions.filter
      (fun item => item.code.presentation = false) = [] := by
    refine List.filter_eq_nil_iff.mpr fun item omitted => ?_
    rw [boundedView_leavesOut item omitted]
    decide
  rw [descriptorOf, diagnosticTuple, sortedByKey_filter, filter_dedup, List.filter_append, passing,
    List.append_nil]
  rfl

/-- The context of another policy has the same fingerprint, in whatever order the set of its
diagnostics is walked. -/
theorem semanticContextFingerprint_policy {context : ContextHashing}
    {other : SemanticBundlePolicy} {diagnostics : List SemanticContextDiagnostic}
    (distinct : Function.Injective context.diagnosticText)
    (walked : diagnostics.Perm (descriptorOf hash snapshot graph other).diagnostics) :
    semanticContextFingerprint context
        { descriptorOf hash snapshot graph other with diagnostics } =
      semanticContextFingerprint context (descriptorOf hash snapshot graph policy) := by
  have same : ((descriptorOf hash snapshot graph policy).diagnostics.filter
      fun item => item.code.presentation = false).Perm
        (diagnostics.filter fun item => item.code.presentation = false) := by
    rw [descriptorOf_lasting, ← descriptorOf_lasting hash snapshot graph other]
    exact (walked.filter _).symm
  have unique : ((descriptorOf hash snapshot graph policy).diagnostics.filter
      fun item => item.code.presentation = false).Nodup :=
    ((sortedByKey_perm _ _).nodup_iff.mpr (List.nodup_dedup _)).filter _
  have sorted := sortedByKey_eq_of_perm (unique.map distinct) same
  rw [semanticContextFingerprint, semanticContextFingerprint, SemanticContextDescriptor.payload,
    SemanticContextDescriptor.payload, sorted]
  rfl

/-! ## What a build accounts for -/

/-- A diagnostic of a context that names a symbol: it was omitted, or its source is unavailable. -/
def Named (descriptor : SemanticContextDescriptor) (symbolId : SymbolId) : Prop :=
  ∃ item ∈ descriptor.diagnostics, item.affectedSymbolId = some symbolId ∧
    (item.code.presentation = true ∨ item.code = .relevantSourceUnavailable)

/-- The bundle is within the bounds, and says what it leaves out. -/
structure MappingInput.Accounted (hash : EvidenceHashing) (snapshot : SourceSnapshot)
    (graph : PaymentSafetyGraphArtifact) (policy : SemanticBundlePolicy) (input : MappingInput) :
    Prop where
  candidates : input.catalog.length ≤ policy.maxPresentedCandidates
  bytes : (input.excerpts.map (·.content.utf8ByteSize)).sum ≤
    policy.generation.maxExcerptMaterialBytes
  covered : ∀ symbolId, Reached snapshot graph symbolId →
    (∃ excerpt ∈ input.excerpts, excerpt.symbolId = symbolId) ∨
      Named input.semanticContext symbolId
  supporting : (input.excerpts.filter (·.purpose = .supporting)).map (·.symbolId) =
    countedSupporting hash snapshot graph policy

theorem mem_descriptorOf_diagnostics {item : SemanticContextDiagnostic} :
    item ∈ (descriptorOf hash snapshot graph policy).diagnostics ↔
      item ∈ lasting hash snapshot graph ∨
        item ∈ (boundedView hash snapshot graph policy).omissions := by
  rw [descriptorOf, diagnosticTuple, mem_sortedByKey, List.mem_dedup, List.mem_append, lasting]

/-- A relevant symbol is counted, presented or named by a diagnostic. -/
theorem omitted_or_shown {symbolId : SymbolId} (reached : Reached snapshot graph symbolId) :
    symbolId ∈ countedSupporting hash snapshot graph policy ++
        (descriptorOf hash snapshot graph policy).presentedSymbolIds ∨
      Named (descriptorOf hash snapshot graph policy) symbolId := by
  have named_of_omits (omits : (boundedView hash snapshot graph policy).Omits symbolId) :
      Named (descriptorOf hash snapshot graph policy) symbolId :=
    let ⟨item, omitted, names, presentation⟩ := omits
    ⟨item, mem_descriptorOf_diagnostics.mpr (.inr omitted), names, .inl presentation⟩
  have relevant := mem_relevantIds.mpr reached
  by_cases unavailable : sourceText snapshot symbolId = none
  · refine .inr ⟨_, mem_descriptorOf_diagnostics.mpr (.inl (List.mem_append_right _
      (List.mem_map_of_mem (List.mem_filter.mpr ⟨relevant, decide_eq_true unavailable⟩)))),
      rfl, .inr rfl⟩
  · by_cases isOwner : symbolId ∈ routeOwnerIds snapshot
    · have isSupporting : symbolId ∈ supportingIds snapshot graph :=
        (mem_sortedByKey _ _ _).mpr (List.mem_filter.mpr ⟨relevant, decide_eq_true isOwner⟩)
      have outcome : symbolId ∈ counted hash snapshot policy ⟨0, [], []⟩ _ ∨ _ :=
        counted_or_omitted unavailable ⟨0, [], []⟩ _ isSupporting
      rcases outcome with isCounted | omits
      · exact .inl (List.mem_append_left _ isCounted)
      · exact .inr (named_of_omits (omits.extend
          (foldl_extends (present_extends hash policy snapshot) _ _)))
    · rcases presented_or_omitted unavailable _ _ (mem_candidateIds.mpr ⟨reached, isOwner⟩) with
        isPresented | omits
      · exact .inl (List.mem_append_right _ isPresented)
      · exact .inr (named_of_omits omits)

theorem MappingInput.Bundles.accounted {input : MappingInput}
    (bundles : input.Bundles snapshot (descriptorOf hash snapshot graph policy)
      (countedSupporting hash snapshot graph policy)) :
    input.Accounted hash snapshot graph policy := by
  have within := boundedView_within hash snapshot graph policy
  refine ⟨?_, ?_, fun symbolId reached => ?_, bundles.supporting⟩
  · have same := congrArg List.length bundles.catalog
    rw [List.length_map] at same
    exact same.le.trans within.candidates
  · have sizes : input.excerpts.map (·.content.utf8ByteSize) =
        (input.excerpts.map (·.symbolId)).map (sourceBytes snapshot) := by
      rw [List.map_map]
      exact List.map_congr_left fun excerpt listed =>
        (sourceBytes_eq (bundles.sources excerpt listed)).symm
    rw [sizes, bundles.excerpts, List.map_append, List.sum_append]
    exact within.counts.symm.le.trans within.bytes
  · rw [bundles.context]
    rcases omitted_or_shown reached with isShown | isNamed
    · rw [← bundles.excerpts] at isShown
      exact .inl (List.mem_map.mp isShown)
    · exact .inr isNamed

/-- How a build was made: of the descriptor, with a bundle where there is an ingress. -/
theorem semanticContextBuild_eq_ok {build : SemanticContextBuild}
    (built : semanticContextBuild digest hash snapshot graph policy = .ok build) :
    build.descriptor = descriptorOf hash snapshot graph policy ∧
      (build.mappingInput = none → seedIds graph = []) ∧
      ∀ input ∈ build.mappingInput,
        mappingInputOf digest snapshot graph policy build.descriptor = .ok input := by
  rw [semanticContextBuild, bind_eq_ok] at built
  obtain ⟨descriptor, isDescriptor, built⟩ := built
  have same := buildSemanticContext_eq isDescriptor
  split at built
  next unseeded =>
    cases (pure_eq_ok _ _).mp built
    exact ⟨same, fun _ => unseeded, fun input nothing => absurd nothing (Option.not_mem_none input)⟩
  next =>
    simp only [bind_eq_ok, pure_eq_ok] at built
    obtain ⟨input, isInput, rfl⟩ := built
    refine ⟨same, ?_, fun other isOther => ?_⟩
    · exact fun nothing => absurd nothing (Option.some_ne_none input)
    · cases isOther
      exact isInput

/-- Without an ingress nothing is reached. -/
theorem unreached_of_unseeded (unseeded : seedIds graph = []) (symbolId : SymbolId) :
    ¬ Reached snapshot graph symbolId := by
  intro reached
  induction reached with
  | @ingress node inGraph isIngress isNamed _ =>
    have seed : node.backingSymbolId ∈ seedIds graph := by
      rw [seedIds, mem_sortedByKey, List.mem_dedup, List.mem_filter]
      exact ⟨List.mem_map_of_mem (List.mem_filter.mpr ⟨inGraph, isIngress⟩),
        decide_eq_true isNamed⟩
    rw [unseeded] at seed
    exact List.not_mem_nil seed
  | call _ _ _ _ ih => exact ih

/-- The bundle that is built is within its bounds and accounts for every relevant callable, and no
policy changes the fingerprint of the context. -/
theorem semanticContextBuild_accounted {build : SemanticContextBuild}
    (built : semanticContextBuild digest hash snapshot graph policy = .ok build) :
    (∀ input ∈ build.mappingInput, input.Accounted hash snapshot graph policy) ∧
      (build.mappingInput = none → ∀ symbolId, ¬ Reached snapshot graph symbolId) ∧
      ∀ (context : ContextHashing) (other : SemanticBundlePolicy) (rebuild : SemanticContextBuild),
        semanticContextBuild digest hash snapshot graph other = .ok rebuild →
          semanticContextFingerprint context rebuild.descriptor =
              semanticContextFingerprint context build.descriptor ∧
            (Function.Injective context.diagnosticText →
              ∀ diagnostics, diagnostics.Perm rebuild.descriptor.diagnostics →
                semanticContextFingerprint context { rebuild.descriptor with diagnostics } =
                  semanticContextFingerprint context build.descriptor) := by
  obtain ⟨same, unseeded, bundled⟩ := semanticContextBuild_eq_ok built
  refine ⟨fun input isInput => ?_, fun nothing => unreached_of_unseeded (unseeded nothing),
    fun context other rebuild rebuilt => ?_⟩
  · have isBundle := bundled input isInput
    rw [same] at isBundle
    exact (mappingInputOf_bundles hash (boundedView_within hash snapshot graph policy).sourced
      isBundle).accounted
  · rw [same, (semanticContextBuild_eq_ok rebuilt).1]
    refine ⟨?_, fun distinct diagnostics walked =>
      semanticContextFingerprint_policy distinct walked⟩
    simp only [semanticContextFingerprint, SemanticContextDescriptor.payload,
      descriptorOf_lasting hash snapshot graph]
    rfl

end

/-- The build of the handler and the function it calls. -/
def shippedBuild (policy : SemanticBundlePolicy) : Except ContextError SemanticContextBuild :=
  semanticContextBuild (fun content => "sha256:" ++ content) plainHashing
    (shipSnapshot "sha256:index" shipSource) shippedGraph policy

/-- Where no candidate may be presented, the handler is the only excerpt. -/
theorem shippedBuild_accounted : ∃ build input,
    shippedBuild { maxPresentedCandidates := 0 } = .ok build ∧ build.mappingInput = some input ∧
      input.excerpts.map (·.symbolId) = ["sgsym_webhook"] ∧
      input.Accounted plainHashing (shipSnapshot "sha256:index" shipSource) shippedGraph
        { maxPresentedCandidates := 0 } := by
  have bundled : ((shippedBuild { maxPresentedCandidates := 0 }).toOption.bind
      (·.mappingInput)).map (·.excerpts.map (·.symbolId)) = some ["sgsym_webhook"] := by
    decide +kernel
  obtain ⟨input, isInput, isHandler⟩ := Option.map_eq_some_iff.mp bundled
  obtain ⟨build, isBuild, isBundle⟩ := Option.bind_eq_some_iff.mp isInput
  have built := eq_ok_of_mem_toOption isBuild
  exact ⟨build, input, built, isBundle, isHandler,
    (semanticContextBuild_accounted built).1 input isBundle⟩

end Semantics

end StateGuard
