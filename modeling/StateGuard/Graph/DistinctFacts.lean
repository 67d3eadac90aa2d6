import StateGuard.Graph.DistinctNodes

/-!
# Distinct facts of a function

Which facts of one function are told apart by their statement and by what stands beside it.
A statement is at most one gate, one event-identity guard and one acknowledgement.  It may write
several targets, and these are told apart by their carriers.  A verification is recorded under a
key of its own (`Recorded`), and only the binding of an order is recorded under none.
-/

namespace StateGuard

open Python

section

variable {text : BuildText} {model : FunctionControlModel}

/-- Two facts of one kind that have different nodes. -/
def Apart (a b : RecognizedFact) : Prop :=
  factAnchor a ≠ factAnchor b ∨ factExtra a ≠ factExtra b

/-! ## Anchors -/

/-- Every key of the anchors of a function begins with its symbol. -/
theorem head?_of_mem_anchorKeys {key : List String} (membership : key ∈ anchorKeys text model) :
    key.head? = some model.symbol.symbolId := by
  rcases List.mem_cons.mp membership with rfl | statement
  · rfl
  · obtain ⟨context, -, rfl⟩ := List.mem_map.mp statement
    rfl

theorem numbered_statements (text : BuildText) (model : FunctionControlModel) :
    Numbered text model.symbol.symbolId (model.statements text) :=
  collectStatements_numbered model.function.body

/-- What is at a statement of a function, or at its end, has an anchor with the symbol of the
function. -/
theorem anchored_of_mem {fact : RecognizedFact} (symbol : fact.symbolId = model.symbol.symbolId)
    (located : (∃ context ∈ model.statements text, factAnchor fact = context.anchor) ∨
      factAnchor fact = text.structuralAnchor [model.symbol.symbolId, "IMPLICIT_RETURN"]) :
    ∃ key ∈ anchorKeys text model, key.head? = some fact.symbolId ∧
      factAnchor fact = text.structuralAnchor key := by
  rw [symbol]
  rcases located with ⟨context, collected, same⟩ | implicit
  · refine ⟨_, List.mem_cons_of_mem _ (List.mem_map_of_mem collected), rfl, ?_⟩
    rw [same]
    exact ((numbered_statements text model).anchored context collected).2
  · exact ⟨_, List.mem_cons_self, rfl, implicit⟩

variable {keys : List (List String)} (distinct : DistinctDigests text keys)
  (known : anchorKeys text model ⊆ keys)

include distinct known

/-- The statements of a function have different anchors. -/
theorem statements_pairwise :
    (model.statements text).Pairwise fun a b => a.anchor ≠ b.anchor := by
  have numbered := numbered_statements text model
  have listed : ∀ context ∈ model.statements text,
      anchorKey text model.symbol.symbolId context.node context.ordinal ∈ keys :=
    fun context collected => known (List.mem_cons_of_mem _ (List.mem_map_of_mem collected))
  refine (List.pairwise_map.mp numbered.distinct).imp_of_mem fun {a b} ma mb differ same => ?_
  have one := numbered.eq_of_anchor distinct listed ma mb same
  rw [one] at differ
  exact differ rfl

/-- No statement has the anchor of the end of its function. -/
theorem anchor_ne_implicit {context : StatementContext}
    (membership : context ∈ model.statements text) :
    context.anchor ≠ text.structuralAnchor [model.symbol.symbolId, "IMPLICIT_RETURN"] := by
  intro same
  rw [((numbered_statements text model).anchored context membership).2] at same
  have keysSame := distinct.stableId
    (known (List.mem_cons_of_mem _ (List.mem_map_of_mem membership)))
    (known List.mem_cons_self) same
  have lengths := congrArg List.length keysSame
  simp [anchorKey] at lengths

omit distinct known

/-! ## Gates and guards -/

theorem stateGateFact_eq_some {context : StatementContext} {fact : StateGateFact}
    (made : stateGateFact text model context = some fact) :
    fact.context = context ∧ fact.symbolId = model.symbol.symbolId := by
  rw [stateGateFact] at made
  split at made
  next =>
    obtain ⟨_, -, rfl⟩ := Option.map_eq_some_iff.mp made
    exact ⟨rfl, rfl⟩
  next =>
    dsimp only at made
    split at made
    next => cases made; exact ⟨rfl, rfl⟩
    next => cases made
  next => cases made

theorem stateGate_formed {fact : StateGateFact}
    (membership : fact ∈ recognizeStateGates text model) :
    Formed text (anchorKeys text model) (.stateGate fact) where
  anchored := by
    obtain ⟨context, collected, made⟩ := List.mem_filterMap.mp membership
    obtain ⟨here, symbol⟩ := stateGateFact_eq_some made
    exact anchored_of_mem symbol (.inl ⟨context, collected, congrArg StatementContext.anchor here⟩)
  carried := fun _ impossible => by cases impossible

theorem stateGates_pairwise (distinct : DistinctDigests text keys)
    (known : anchorKeys text model ⊆ keys) :
    (recognizeStateGates text model).Pairwise fun a b => a.context.anchor ≠ b.context.anchor := by
  refine List.pairwise_filterMap.mpr ((statements_pairwise distinct known).imp ?_)
  intro a b apart gate made other otherMade
  rw [(stateGateFact_eq_some made).1, (stateGateFact_eq_some otherMade).1]
  exact apart

theorem eventIdentityFact_eq_some {eventNames : List String} {before : Nat}
    {context : StatementContext} {fact : EventIdentityFact}
    (made : eventIdentityFact text model eventNames before context = some fact) :
    fact.context = context ∧ fact.symbolId = model.symbol.symbolId := by
  rw [eventIdentityFact] at made
  split at made
  next =>
    split at made
    next =>
      split at made
      next => cases made; exact ⟨rfl, rfl⟩
      next => cases made
    next => cases made
  next => cases made

theorem eventIdentity_formed {mutations : List MutationFact} {fact : EventIdentityFact}
    (membership : fact ∈ recognizeEventIdentity text model mutations) :
    Formed text (anchorKeys text model) (.eventIdentity fact) where
  anchored := by
    obtain ⟨context, collected, made⟩ := List.mem_filterMap.mp membership
    obtain ⟨here, symbol⟩ := eventIdentityFact_eq_some made
    exact anchored_of_mem symbol (.inl ⟨context, collected, congrArg StatementContext.anchor here⟩)
  carried := fun _ impossible => by cases impossible

theorem eventIdentity_pairwise (distinct : DistinctDigests text keys)
    (known : anchorKeys text model ⊆ keys) (mutations : List MutationFact) :
    (recognizeEventIdentity text model mutations).Pairwise fun a b =>
      a.context.anchor ≠ b.context.anchor := by
  refine List.pairwise_filterMap.mpr ((statements_pairwise distinct known).imp ?_)
  intro a b apart guard made other otherMade
  rw [(eventIdentityFact_eq_some made).1, (eventIdentityFact_eq_some otherMade).1]
  exact apart

/-! ## Acknowledgements -/

theorem acknowledgementFact_anchor {context : StatementContext} {fact : AcknowledgementFact}
    (made : acknowledgementFact model context = some fact) :
    fact.anchor = context.anchor ∧ fact.symbolId = model.symbol.symbolId := by
  rw [acknowledgementFact] at made
  dsimp only at made
  split at made
  next =>
    split at made
    next =>
      split at made
      next => cases made; exact ⟨rfl, rfl⟩
      next => cases made; exact ⟨rfl, rfl⟩
    next => cases made; exact ⟨rfl, rfl⟩
  next =>
    split at made
    next => cases made; exact ⟨rfl, rfl⟩
    next => cases made
  next => cases made

/-- An acknowledgement is at a statement or at the end of its function. -/
theorem acknowledgement_formed {fact : AcknowledgementFact}
    (membership : fact ∈ recognizeAcknowledgements text model) :
    fact.symbolId = model.symbol.symbolId ∧
      Formed text (anchorKeys text model) (.acknowledgement fact) := by
  rcases List.mem_append.mp membership with statement | implicit
  · obtain ⟨context, collected, made⟩ := List.mem_filterMap.mp statement
    obtain ⟨anchor, symbol⟩ := acknowledgementFact_anchor made
    exact ⟨symbol, anchored_of_mem symbol (.inl ⟨context, collected, anchor⟩),
      fun _ impossible => by cases impossible⟩
  · split at implicit
    next => cases implicit
    next =>
      cases List.mem_singleton.mp implicit
      exact ⟨rfl, anchored_of_mem rfl (.inr rfl), fun _ impossible => by cases impossible⟩

theorem acknowledgements_pairwise (distinct : DistinctDigests text keys)
    (known : anchorKeys text model ⊆ keys) :
    (recognizeAcknowledgements text model).Pairwise fun a b => a.anchor ≠ b.anchor := by
  rw [recognizeAcknowledgements, List.pairwise_append]
  refine ⟨?_, ?_, ?_⟩
  · refine List.pairwise_filterMap.mpr ((statements_pairwise distinct known).imp ?_)
    intro a b apart ack made other otherMade
    rw [(acknowledgementFact_anchor made).1, (acknowledgementFact_anchor otherMade).1]
    exact apart
  · split
    next => exact List.Pairwise.nil
    next => exact List.pairwise_singleton _ _
  · intro ack statement other implicit
    obtain ⟨context, collected, made⟩ := List.mem_filterMap.mp statement
    rw [(acknowledgementFact_anchor made).1]
    split at implicit
    next => cases implicit
    next =>
      cases List.mem_singleton.mp implicit
      exact anchor_ne_implicit distinct known collected

/-! ## Mutations -/

/-- The recognised targets of an assignment are of different carriers. -/
def DistinctCarriers (text : BuildText) (model : FunctionControlModel) (controlled : Bool)
    (context : StatementContext) : Prop :=
  ∀ value ∈ (assignedTargets context.node).2,
    (assignedTargets context.node).1.Pairwise fun a b =>
      (mutationFact text model context controlled value a).isSome = true →
      (mutationFact text model context controlled value b).isSome = true →
      (rootName a).map text.strip ≠ (rootName b).map text.strip

instance (text : BuildText) (model : FunctionControlModel) (controlled : Bool)
    (context : StatementContext) : Decidable (DistinctCarriers text model controlled context) :=
  inferInstanceAs (Decidable (∀ value ∈ (assignedTargets context.node).2, _))

theorem mutationFact_eq_some {context : StatementContext} {controlled : Bool} {value target : Expr}
    {fact : MutationFact} (made : mutationFact text model context controlled value target = some fact) :
    fact.context = context ∧ fact.symbolId = model.symbol.symbolId ∧
      ∃ root ∈ model.module.moduleStateNames, rootName target = some root ∧
        fact.carrierReference = text.merchantStateCarrierId model.symbol.sourceFileId root := by
  rw [mutationFact] at made
  split at made
  next kind root _ isRoot =>
    dsimp only at made
    split at made
    next relevant =>
      cases made
      exact ⟨rfl, rfl, root, relevant.1, isRoot, rfl⟩
    next => cases made
  next => cases made

/-- The mutations of one statement. -/
def statementMutations (text : BuildText) (model : FunctionControlModel)
    (stateGates : List StateGateFact) (trust : List TrustFact) (context : StatementContext) :
    List MutationFact :=
  match assignedTargets context.node with
  | (targets, some value) =>
    targets.filterMap (mutationFact text model context
      (mutationControlled model stateGates trust context) value)
  | (_, none) => []

theorem recognizeMutations_eq (stateGates : List StateGateFact) (trust : List TrustFact) :
    recognizeMutations text model stateGates trust =
      (model.statements text).flatMap (statementMutations text model stateGates trust) := rfl

theorem exists_of_mem_statementMutations {stateGates : List StateGateFact}
    {trust : List TrustFact} {context : StatementContext} {fact : MutationFact}
    (membership : fact ∈ statementMutations text model stateGates trust context) :
    ∃ controlled value target,
      mutationFact text model context controlled value target = some fact := by
  rw [statementMutations] at membership
  split at membership
  next =>
    obtain ⟨target, -, made⟩ := List.mem_filterMap.mp membership
    exact ⟨_, _, target, made⟩
  next => cases membership

theorem mutation_formed {stateGates : List StateGateFact} {trust : List TrustFact}
    {fact : MutationFact} (membership : fact ∈ recognizeMutations text model stateGates trust) :
    Formed text (anchorKeys text model) (.mutation fact) := by
  rw [recognizeMutations_eq] at membership
  obtain ⟨context, collected, found⟩ := List.mem_flatMap.mp membership
  obtain ⟨_, _, target, made⟩ := exists_of_mem_statementMutations found
  obtain ⟨here, symbol, root, -, -, carrier⟩ := mutationFact_eq_some made
  refine ⟨anchored_of_mem symbol
    (.inl ⟨context, collected, congrArg StatementContext.anchor here⟩), ?_⟩
  rintro mutation ⟨⟩
  exact ⟨_, carrier⟩

/-- Two recognised targets are of one carrier when their roots are one name. -/
theorem carrier_eq_iff {carriers : List (List String)} (distinct : DistinctDigests text carriers)
    (known : carrierKeys text model ⊆ carriers) {context : StatementContext} {controlled : Bool}
    {value a b : Expr} {first second : MutationFact}
    (made : mutationFact text model context controlled value a = some first)
    (otherMade : mutationFact text model context controlled value b = some second) :
    first.carrierReference = second.carrierReference ↔
      (rootName a).map text.strip = (rootName b).map text.strip := by
  obtain ⟨-, -, root, isState, isRoot, carrier⟩ := mutationFact_eq_some made
  obtain ⟨-, -, other, otherState, otherRoot, otherCarrier⟩ := mutationFact_eq_some otherMade
  rw [carrier, otherCarrier, isRoot, otherRoot]
  constructor
  · intro same
    have keysSame := distinct.stableId (known (List.mem_map_of_mem isState))
      (known (List.mem_map_of_mem otherState)) same
    simp only [List.cons.injEq] at keysSame
    rw [Option.map_some, Option.map_some, keysSame.2.1]
  · intro same
    rw [BuildText.merchantStateCarrierId, BuildText.merchantStateCarrierId,
      Option.some.inj same]

/-- The mutations of a function are told apart when no assignment writes one carrier twice. -/
theorem mutations_pairwise_iff {carriers : List (List String)}
    (distinct : DistinctDigests text keys) (known : anchorKeys text model ⊆ keys)
    (distinctCarriers : DistinctDigests text carriers)
    (knownCarriers : carrierKeys text model ⊆ carriers) (stateGates : List StateGateFact)
    (trust : List TrustFact) :
    ((recognizeMutations text model stateGates trust).Pairwise fun a b =>
        Apart (.mutation a) (.mutation b)) ↔
      ∀ context ∈ model.statements text,
        DistinctCarriers text model (mutationControlled model stateGates trust context) context := by
  rw [recognizeMutations_eq, List.pairwise_flatMap]
  have across : (model.statements text).Pairwise fun a b =>
      ∀ x ∈ statementMutations text model stateGates trust a,
        ∀ y ∈ statementMutations text model stateGates trust b,
          Apart (.mutation x) (.mutation y) := by
    refine (statements_pairwise distinct known).imp ?_
    intro a b apart x inFirst y inSecond
    obtain ⟨_, _, _, made⟩ := exists_of_mem_statementMutations inFirst
    obtain ⟨_, _, _, otherMade⟩ := exists_of_mem_statementMutations inSecond
    refine .inl ?_
    rw [factAnchor, factAnchor, (mutationFact_eq_some made).1, (mutationFact_eq_some otherMade).1]
    exact apart
  rw [and_iff_left across]
  refine forall₂_congr fun context _ => ?_
  rw [DistinctCarriers, statementMutations]
  rcases assignedTargets context.node with ⟨targets, _ | value⟩
  · simp
  · simp only [Option.mem_def, Option.some.injEq, forall_eq']
    rw [List.pairwise_filterMap]
    refine List.Pairwise.iff fun a b => ?_
    constructor
    · intro apart first second same
      obtain ⟨fact, made⟩ := Option.isSome_iff_exists.mp first
      obtain ⟨other, otherMade⟩ := Option.isSome_iff_exists.mp second
      rcases apart fact made other otherMade with anchors | extras
      · rw [factAnchor, factAnchor, (mutationFact_eq_some made).1,
          (mutationFact_eq_some otherMade).1] at anchors
        exact anchors rfl
      · refine extras (congrArg (":" ++ ·) ?_)
        exact (carrier_eq_iff distinctCarriers knownCarriers made otherMade).mpr same
    · intro roots fact made other otherMade
      have differ := roots (by rw [made]; rfl) (by rw [otherMade]; rfl)
      refine .inr fun extras => differ ?_
      refine (carrier_eq_iff distinctCarriers knownCarriers made otherMade).mp ?_
      exact (append_inj_of_length extras rfl).2

/-! ## Verifications -/

/-- The binding of a confirmed order. -/
def isBinding (fact : TrustFact) : Bool := fact.trustKind = .serverOrderIdentityBinding

/-- The key a verification is recorded under. -/
def trustKey (fact : TrustFact) : String × TrustGateKind := (fact.context.anchor, fact.trustKind)

/-- What a pass over the statements keeps: facts are at statements of the function, and those that
are no bindings are recorded under keys of their own. -/
structure Recorded (text : BuildText) (model : FunctionControlModel) (state : TrustState) :
    Prop where
  located : ∀ entry ∈ state.facts,
    entry.1.context ∈ model.statements text ∧ entry.1.symbolId = model.symbol.symbolId
  seen : ∀ entry ∈ state.facts, isBinding entry.1 = false → trustKey entry.1 ∈ state.seen
  apart : (state.facts.filter fun entry => !isBinding entry.1).Pairwise fun a b =>
    trustKey a.1 ≠ trustKey b.1

/-- One more fact at a statement of the function. -/
theorem Recorded.append {state : TrustState} (recorded : Recorded text model state)
    {fact : TrustFact} (located : fact.context ∈ model.statements text ∧
      fact.symbolId = model.symbol.symbolId) (verification : Verification)
    {seen : List (String × TrustGateKind)} (grows : state.seen ⊆ seen) (fresh : isBinding fact = false →
      trustKey fact ∈ seen ∧ trustKey fact ∉ state.seen) :
    Recorded text model ⟨state.facts ++ [(fact, verification)], seen⟩ where
  located := by
    intro entry membership
    rcases List.mem_append.mp membership with earlier | here
    · exact recorded.located entry earlier
    · cases List.mem_singleton.mp here
      exact located
  seen := by
    intro entry membership isVerification
    rcases List.mem_append.mp membership with earlier | here
    · exact grows (recorded.seen entry earlier isVerification)
    · cases List.mem_singleton.mp here
      exact (fresh isVerification).1
  apart := by
    rw [List.filter_append, List.pairwise_append]
    refine ⟨recorded.apart, ?_, ?_⟩
    · exact List.Pairwise.filter _ (List.pairwise_singleton _ _)
    · intro entry earlier other here
      obtain ⟨isFact, isVerification⟩ := List.mem_filter.mp earlier
      obtain ⟨isLast, lastVerification⟩ := List.mem_filter.mp here
      cases List.mem_singleton.mp isLast
      intro same
      refine (fresh (by simpa using lastVerification)).2 ?_
      rw [← same]
      exact recorded.seen entry isFact (by simpa using isVerification)

theorem Recorded.record {state : TrustState} (recorded : Recorded text model state)
    {fact : TrustFact} (located : fact.context ∈ model.statements text ∧
      fact.symbolId = model.symbol.symbolId) (verification : Verification) :
    Recorded text model (state.record fact verification) := by
  rw [TrustState.record]
  split
  next => exact recorded
  next fresh =>
    exact recorded.append located verification (List.subset_cons_self _ _)
      fun _ => ⟨List.mem_cons_self, fresh⟩

theorem directHmacFact_eq_some {context : StatementContext} {fact : TrustFact}
    (made : directHmacFact text context model = some fact) :
    fact.context = context ∧ fact.symbolId = model.symbol.symbolId := by
  rw [directHmacFact] at made
  split at made
  next info test body orelse _ =>
    dsimp only at made
    generalize (if (comparedCall test).2 = true then body else orelse) = failing at made
    split at made
    next => cases made
    next =>
      split at made
      next =>
        split at made
        next =>
          split at made
          next => cases made; exact ⟨rfl, rfl⟩
          next => cases made
        next =>
          split at made
          next => cases made; exact ⟨rfl, rfl⟩
          next => cases made
      next => cases made
  next => cases made

theorem Recorded.direct {state : TrustState} (recorded : Recorded text model state)
    {context : StatementContext} (collected : context ∈ model.statements text) :
    Recorded text model (recordDirect text model state context) := by
  rw [recordDirect]
  split
  next direct made =>
    obtain ⟨here, symbol⟩ := directHmacFact_eq_some made
    have located : direct.context ∈ model.statements text ∧
        direct.symbolId = model.symbol.symbolId := ⟨here ▸ collected, symbol⟩
    dsimp only
    split
    next =>
      refine (recorded.record located _).record ?_ _
      exact located
    next => exact recorded.record located _
  next => exact recorded

theorem callFact_eq_some {context : StatementContext} {kind : TrustGateKind} {call : Expr}
    {fact : TrustFact} (made : callFact text model context kind call = some fact) :
    fact.context = context ∧ fact.trustKind = kind ∧ fact.symbolId = model.symbol.symbolId := by
  cases kind with
  | webhookSignatureVerification =>
    rw [callFact] at made
    split at made
    next => cases made; exact ⟨rfl, rfl, rfl⟩
    next => cases made
  | checkoutSignatureVerification =>
    simp only [callFact] at made
    split at made
    next => cases made; exact ⟨rfl, rfl, rfl⟩
    next => cases made
  | serverOrderIdentityBinding =>
    simp only [callFact] at made
    split at made
    next => cases made; exact ⟨rfl, rfl, rfl⟩
    next => cases made

/-- The statement a call is in is a statement of the function. -/
theorem contextFor_mem {context : StatementContext} (collected : context ∈ model.statements text)
    (info : NodeInfo) : (model.contextFor text info).getD context ∈ model.statements text := by
  cases found : model.contextFor text info with
  | none => exact collected
  | some here => exact List.mem_of_mem_filter (List.mem_of_getLast? found)

theorem Recorded.call {state : TrustState} (recorded : Recorded text model state)
    {context : StatementContext} (collected : context ∈ model.statements text) (call : Expr) :
    Recorded text model (recordCall text model context state call) := by
  rw [recordCall]
  split
  next kind _ =>
    split
    next => exact recorded
    next =>
      dsimp only
      split
      next => exact recorded
      next fresh =>
        split
        next fact made =>
          obtain ⟨here, isKind, symbol⟩ := callFact_eq_some made
          have located : fact.context ∈ model.statements text ∧
              fact.symbolId = model.symbol.symbolId :=
            ⟨here ▸ contextFor_mem collected call.info, symbol⟩
          have key : trustKey fact =
              (((model.contextFor text call.info).getD context).anchor, kind) := by
            rw [trustKey, here, isKind]
          have verified := recorded.append located (.call call.info.identity)
            (List.subset_cons_self (trustKey fact) state.seen)
            fun _ => ⟨List.mem_cons_self, key ▸ fresh⟩
          rw [← key]
          split
          next =>
            rw [← List.singleton_append, ← List.append_assoc]
            refine verified.append ?_ _ (List.Subset.refl _) fun isVerification => ?_
            · exact located
            · cases isVerification
          next => exact verified
        next => exact recorded
  next => exact recorded

/-- What a pass keeps over a whole function. -/
theorem recorded_statements {contexts : List StatementContext}
    (collected : contexts ⊆ model.statements text) {state : TrustState}
    (recorded : Recorded text model state) :
    Recorded text model (contexts.foldl (fun state context =>
      (callsIn (.stmt context.node)).foldl (recordCall text model context)
        (recordDirect text model state context)) state) := by
  induction contexts generalizing state with
  | nil => exact recorded
  | cons context rest ih =>
    have here : context ∈ model.statements text := collected List.mem_cons_self
    refine ih (fun _ later => collected (List.mem_cons_of_mem _ later)) ?_
    have direct := recorded.direct here
    dsimp only
    generalize callsIn (.stmt context.node) = calls
    generalize recordDirect text model state context = begun at direct ⊢
    induction calls generalizing begun with
    | nil => exact direct
    | cons call more ih => exact ih _ (direct.call here call)

theorem recorded_function : Recorded text model
    ((model.statements text).foldl (fun state context =>
      (callsIn (.stmt context.node)).foldl (recordCall text model context)
        (recordDirect text model state context)) {}) := by
  refine recorded_statements (List.Subset.refl _) ⟨?_, ?_, List.Pairwise.nil⟩
  · exact fun _ impossible => absurd impossible List.not_mem_nil
  · exact fun _ impossible => absurd impossible List.not_mem_nil

theorem trust_formed {fact : TrustFact} (membership : fact ∈ recognizeTrust text model) :
    Formed text (anchorKeys text model) (.trust fact) where
  anchored := by
    obtain ⟨entry, recognised, rfl⟩ := List.mem_map.mp membership
    obtain ⟨collected, symbol⟩ := recorded_function.located entry recognised
    exact anchored_of_mem symbol (.inl ⟨_, collected, rfl⟩)
  carried := fun _ impossible => by cases impossible

/-- The verifications of a function are told apart when the bindings of orders are. -/
theorem trust_pairwise_iff :
    ((recognizeTrust text model).Pairwise fun a b => trustKey a ≠ trustKey b) ↔
      ((recognizeTrust text model).filter isBinding).Pairwise fun a b =>
        a.context.anchor ≠ b.context.anchor := by
  have verifications : ((recognizeTrust text model).filter fun fact => !isBinding fact).Pairwise
      fun a b => trustKey a ≠ trustKey b := by
    rw [recognizeTrust, List.filter_map]
    exact List.pairwise_map.mpr recorded_function.apart
  have split := List.filter_append_perm isBinding (recognizeTrust text model)
  rw [← split.pairwise_iff (fun differ same => differ same.symm), List.pairwise_append]
  constructor
  · rintro ⟨bindings, -, -⟩
    refine bindings.imp_of_mem fun {a b} first second differ same => differ ?_
    have kind := of_decide_eq_true (List.mem_filter.mp first).2
    have other := of_decide_eq_true (List.mem_filter.mp second).2
    rw [trustKey, trustKey, same, kind, other]
  · intro bindings
    refine ⟨bindings.imp fun differ same => differ (congrArg Prod.fst same), verifications, ?_⟩
    intro a binding b verification same
    have isKind := of_decide_eq_true (List.mem_filter.mp binding).2
    have notKind := (List.mem_filter.mp verification).2
    have kinds : a.trustKind = b.trustKind := congrArg Prod.snd same
    rw [isBinding, ← kinds, isKind] at notKind
    cases notKind

end

end StateGuard
