import StateGuard.Evidence.RunValidity

/-!
# What a check key identifies

A check key is the digest of components that are joined by the unit separator: twelve of fixed
place, then the mutations, the acknowledgements and the policies without anything between them.
Where the digest does not collide, the key determines the twelve, the policies and the sequence of
nodes that the two lists form together (`checkKey_identifies`).  It does not determine where that
sequence is cut: only the kinds of the nodes tell a mutation from an acknowledgement
(`movedTarget_sameKey`).
-/

namespace StateGuard

open Checks

namespace Evidence

/-! ## Joined components -/

/-- A text without the unit separator. -/
def Separable (component : String) : Prop := '\x1f' ∉ component.toList

instance (component : String) : Decidable (Separable component) :=
  inferInstanceAs (Decidable (_ ∉ _))

/-- Joined components can be taken apart again. -/
theorem intercalate_injective {left right : List String}
    (separable : ∀ component ∈ left ++ right, Separable component)
    (leftSome : left ≠ []) (rightSome : right ≠ [])
    (same : String.intercalate "\x1f" left = String.intercalate "\x1f" right) : left = right := by
  have parts : ∀ components : List String, components ≠ [] →
      (∀ component ∈ components, Separable component) →
        (String.intercalate "\x1f" components).toList.splitOn '\x1f' =
          components.map String.toList := by
    intro components some plain
    rw [String.toList_intercalate]
    refine List.splitOn_intercalate '\x1f' ?_ (by simpa using some)
    intro characters isComponent
    obtain ⟨component, membership, rfl⟩ := List.mem_map.mp isComponent
    exact plain component membership
  have texts : left.map String.toList = right.map String.toList := by
    rw [← parts left leftSome fun component isLeft =>
        separable component (List.mem_append_left _ isLeft),
      ← parts right rightSome fun component isRight =>
        separable component (List.mem_append_right _ isRight), same]
  exact List.map_injective_iff.mpr (fun _ _ => String.toList_inj.mp) texts

/-- Two lists whose elements satisfy a predicate and then do not are cut at the same place. -/
theorem append_inj_of_pred {α : Type} (holds : α → Prop) {firstA firstB restA restB : List α}
    (inA : ∀ item ∈ firstA, holds item) (inB : ∀ item ∈ firstB, holds item)
    (outA : ∀ item ∈ restA, ¬ holds item) (outB : ∀ item ∈ restB, ¬ holds item)
    (same : firstA ++ restA = firstB ++ restB) : firstA = firstB ∧ restA = restB := by
  rcases List.append_eq_append_iff.mp same with ⟨between, isB, isA⟩ | ⟨between, isA, isB⟩
  · cases between with
    | nil => exact ⟨by simpa using isB.symm, by simpa using isA⟩
    | cons item later =>
      subst isA isB
      exact absurd (inB item (by simp)) (outA item (by simp))
  · cases between with
    | nil => exact ⟨by simpa using isA, by simpa using isB.symm⟩
    | cons item later =>
      subst isA isB
      exact absurd (inA item (by simp)) (outB item (by simp))

/-! ## Identities -/

/-- The pattern of an identity: its tag and 32 hexadecimal digits. -/
def IsId (tag id : String) : Prop :=
  id.toList.take (tag.length + 1) = (tag ++ "_").toList ∧
    (id.toList.drop (tag.length + 1)).length = 32 ∧
      ∀ digit ∈ id.toList.drop (tag.length + 1), digit ∈ "0123456789abcdef".toList

instance (tag id : String) : Decidable (IsId tag id) :=
  -- Over the digits of the text: characters are a finite type, and are not to be run through.
  have : Decidable (∀ digit ∈ id.toList.drop (tag.length + 1),
      digit ∈ "0123456789abcdef".toList) := List.decidableBAll _ _
  inferInstanceAs (Decidable (_ ∧ _ ∧ _))

theorem IsId.separable {tag id : String} (isId : IsId tag id) (plain : Separable tag) :
    Separable id := by
  obtain ⟨isTag, -, digits⟩ := isId
  intro separator
  rw [← List.take_append_drop (tag.length + 1) id.toList, List.mem_append] at separator
  rcases separator with inTag | inDigits
  · rw [isTag, String.toList_append, List.mem_append] at inTag
    rcases inTag with inTag | inTag
    · exact plain inTag
    · revert inTag
      decide
  · have hexadecimal := digits _ inDigits
    revert hexadecimal
    decide

/-- An identity is not the text that stands for its absence. -/
theorem getD_injective {tag absent : String} {left right : Option String}
    (isLeft : ∀ id ∈ left, IsId tag id) (isRight : ∀ id ∈ right, IsId tag id)
    (apart : ¬ IsId tag absent) (same : left.getD absent = right.getD absent) : left = right := by
  cases left with
  | none =>
    cases right with
    | none => rfl
    | some id =>
      have isAbsent : absent = id := same
      exact absurd (isAbsent ▸ isRight id rfl) apart
  | some id =>
    cases right with
    | none =>
      have isAbsent : id = absent := same
      exact absurd (isAbsent ▸ isLeft id rfl) apart
    | some other => exact congrArg some same

/-! ## Policies -/

theorem fulfilmentComponent_injective {left right : Option FulfilmentPolicy}
    (same : policyComponent .fulfilment (left.map fulfilmentValue) =
      policyComponent .fulfilment (right.map fulfilmentValue)) : left = right := by
  revert same
  rcases left with - | left <;> rcases right with - | right <;> try cases left
  all_goals try cases right
  all_goals decide

theorem lateComponent_injective {left right : Option LateAuthorisationPolicy}
    (same : policyComponent .lateAuthorisation (left.map lateAuthorisationValue) =
      policyComponent .lateAuthorisation (right.map lateAuthorisationValue)) : left = right := by
  revert same
  rcases left with - | left <;> rcases right with - | right <;> try cases left
  all_goals try cases right
  all_goals decide

/-- Every policy component is in parentheses. -/
theorem head_policyComponent (dimension : PolicyDimension) (value : Option String) :
    (policyComponent dimension value).toList.head? = some '(' := by
  simp [policyComponent]

/-! ## The key of a check -/

/-- What `build_verification_check_key` is called with. -/
structure CheckKeyInput where
  projectId : ProjectId
  scenario : ScenarioId
  key : AssertionKey
  invariantId : String
  invariantVersion : Nat
  targets : CheckTargetReference
  dimensions : List PolicyDimension
  policy : PolicyAuthoritySnapshot

namespace CheckKeyInput

variable (input : CheckKeyInput)

def components : List String :=
  checkKeyComponents input.projectId input.scenario input.key input.invariantId
    input.invariantVersion input.targets input.dimensions input.policy

/-- The text that is digested. -/
def preimage : String := String.intercalate "\x1f" input.components

def checkKey (hashing : RunHashing) : VerificationCheckKey :=
  buildVerificationCheckKey hashing input.projectId input.scenario input.key input.invariantId
    input.invariantVersion input.targets input.dimensions input.policy

/-- The fulfilment policy, where it is keyed. -/
def keyedFulfilment : Option (Option FulfilmentPolicy) :=
  if .fulfilment ∈ input.dimensions then some input.policy.fulfilment else none

/-- The policy of late authorisations, where it is keyed. -/
def keyedLateAuthorisation : Option (Option LateAuthorisationPolicy) :=
  if .lateAuthorisation ∈ input.dimensions then some input.policy.lateAuthorisation else none

/-- The nodes of the two lists. -/
def nodeIds : List GraphNodeId :=
  input.targets.mutationNodeIds ++ input.targets.acknowledgementNodeIds

/-- Identities have their patterns, and the invariant is named without the unit separator. -/
structure WellFormed : Prop where
  project : IsId "sgproj" input.projectId
  invariant : Separable input.invariantId
  ingress : ∀ id ∈ input.targets.ingressNodeId, IsId "sgnode" id
  route : ∀ id ∈ input.targets.routeRegistrationId, IsId "sgroute" id
  ingressSymbol : ∀ id ∈ input.targets.ingressSymbolId, IsId "sgsym" id
  customerNode : ∀ id ∈ input.targets.customerValueNodeId, IsId "sgnode" id
  customerSymbol : ∀ id ∈ input.targets.customerValueSymbolId, IsId "sgsym" id
  connectivity : ∀ id ∈ input.targets.connectivityEdgeId, IsId "sgedge" id
  nodes : ∀ id ∈ input.nodeIds, IsId "sgnode" id

end CheckKeyInput

/-- The same project, scenario, assertion, invariant, ingress, route, customer value and keyed
policies. -/
structure SameInvariant (left right : CheckKeyInput) : Prop where
  project : left.projectId = right.projectId
  scenario : left.scenario = right.scenario
  key : left.key = right.key
  invariant : left.invariantId = right.invariantId
  version : left.invariantVersion = right.invariantVersion
  ingress : left.targets.ingressNodeId = right.targets.ingressNodeId
  route : left.targets.routeRegistrationId = right.targets.routeRegistrationId
  ingressSymbol : left.targets.ingressSymbolId = right.targets.ingressSymbolId
  customerNode : left.targets.customerValueNodeId = right.targets.customerValueNodeId
  customerSymbol : left.targets.customerValueSymbolId = right.targets.customerValueSymbolId
  connectivity : left.targets.connectivityEdgeId = right.targets.connectivityEdgeId
  fulfilment : left.keyedFulfilment = right.keyedFulfilment
  lateAuthorisation : left.keyedLateAuthorisation = right.keyedLateAuthorisation

/-- The same sets of mutations and of acknowledgements. -/
def SameTargets (left right : CheckKeyInput) : Prop :=
  (∀ id, id ∈ left.targets.mutationNodeIds ↔ id ∈ right.targets.mutationNodeIds) ∧
    ∀ id, id ∈ left.targets.acknowledgementNodeIds ↔ id ∈ right.targets.acknowledgementNodeIds

/-- No node is a mutation of one check and an acknowledgement of the other. -/
def KindsAgree (left right : CheckKeyInput) : Prop :=
  (∀ id ∈ left.targets.mutationNodeIds, id ∉ right.targets.acknowledgementNodeIds) ∧
    ∀ id ∈ right.targets.mutationNodeIds, id ∉ left.targets.acknowledgementNodeIds

instance (left right : CheckKeyInput) : Decidable (KindsAgree left right) :=
  inferInstanceAs (Decidable (_ ∧ _))

theorem separable_nat (version : Nat) : Separable (toString version) := by
  intro separator
  rw [Nat.toString_eq_repr, Nat.repr_eq_ofList_toDigits, String.toList_ofList] at separator
  have digit := Nat.isDigit_of_mem_toDigits (by decide) (by decide) separator
  revert digit
  decide

theorem ScenarioId.separable_value (scenario : ScenarioId) : Separable scenario.value := by
  cases scenario <;> decide +kernel

theorem AssertionKey.separable_value (key : AssertionKey) : Separable key.value := by
  cases key <;> decide +kernel

/-- The catalog names its invariants without the unit separator. -/
theorem separable_definitionOf (key : AssertionKey) :
    Separable (definitionOf key).invariantId := by
  cases key <;> decide +kernel

theorem separable_policyComponents (input : CheckKeyInput) :
    ∀ component ∈ policyComponents input.dimensions input.policy, Separable component := by
  intro component isComponent
  unfold policyComponents at isComponent
  rcases List.mem_append.mp isComponent with isFulfilment | isLate
  · split at isFulfilment
    next =>
      rw [List.mem_singleton] at isFulfilment
      subst isFulfilment
      rcases input.policy.fulfilment with - | policy
      · decide +kernel
      · cases policy <;> decide +kernel
    next => cases isFulfilment
  · split at isLate
    next =>
      rw [List.mem_singleton] at isLate
      subst isLate
      rcases input.policy.lateAuthorisation with - | policy
      · decide +kernel
      · cases policy <;> decide +kernel
    next => cases isLate

/-- The policy components determine the keyed policies. -/
theorem policyComponents_injective {left right : CheckKeyInput}
    (same : policyComponents left.dimensions left.policy =
      policyComponents right.dimensions right.policy) :
    left.keyedFulfilment = right.keyedFulfilment ∧
      left.keyedLateAuthorisation = right.keyedLateAuthorisation := by
  have apart : ∀ (fulfilment : Option FulfilmentPolicy) (late : Option LateAuthorisationPolicy),
      policyComponent .fulfilment (fulfilment.map fulfilmentValue) ≠
        policyComponent .lateAuthorisation (late.map lateAuthorisationValue) := by
    intro fulfilment late equal
    have second := congrArg (fun text : String => text.toList.drop 2 |>.head?) equal
    simp [policyComponent, PolicyDimension.value] at second
  have isFulfilment : ∀ {input : CheckKeyInput}, ∀ component ∈
      (if .fulfilment ∈ input.dimensions then
        [policyComponent .fulfilment (input.policy.fulfilment.map fulfilmentValue)] else []),
      ∃ policy : Option FulfilmentPolicy,
        component = policyComponent .fulfilment (policy.map fulfilmentValue) := by
    intro input component isComponent
    obtain ⟨-, isComponent⟩ := List.mem_ite_nil_right.mp isComponent
    exact ⟨_, List.mem_singleton.mp isComponent⟩
  have isLate : ∀ {input : CheckKeyInput}, ∀ component ∈
      (if .lateAuthorisation ∈ input.dimensions then
        [policyComponent .lateAuthorisation
          (input.policy.lateAuthorisation.map lateAuthorisationValue)] else []),
      ¬ ∃ policy : Option FulfilmentPolicy,
        component = policyComponent .fulfilment (policy.map fulfilmentValue) := by
    rintro input component isComponent ⟨policy, isFulfilment⟩
    obtain ⟨-, isComponent⟩ := List.mem_ite_nil_right.mp isComponent
    exact apart policy _ (isFulfilment.symm.trans (List.mem_singleton.mp isComponent))
  unfold policyComponents at same
  obtain ⟨fulfilments, lates⟩ := append_inj_of_pred
    (fun component => ∃ policy : Option FulfilmentPolicy,
      component = policyComponent .fulfilment (policy.map fulfilmentValue))
    isFulfilment isFulfilment isLate isLate same
  constructor
  · unfold CheckKeyInput.keyedFulfilment
    split at fulfilments
    next keyedLeft =>
      split at fulfilments
      next keyedRight =>
        rw [if_pos keyedLeft, if_pos keyedRight,
          fulfilmentComponent_injective (List.singleton_inj.mp fulfilments)]
      next => cases fulfilments
    next unkeyedLeft =>
      split at fulfilments
      next => cases fulfilments
      next unkeyedRight => rw [if_neg unkeyedLeft, if_neg unkeyedRight]
  · unfold CheckKeyInput.keyedLateAuthorisation
    split at lates
    next keyedLeft =>
      split at lates
      next keyedRight =>
        rw [if_pos keyedLeft, if_pos keyedRight,
          lateComponent_injective (List.singleton_inj.mp lates)]
      next => cases lates
    next unkeyedLeft =>
      split at lates
      next => cases lates
      next unkeyedRight => rw [if_neg unkeyedLeft, if_neg unkeyedRight]

theorem CheckKeyInput.WellFormed.separable {input : CheckKeyInput} (wellFormed : input.WellFormed) :
    ∀ component ∈ input.components, Separable component := by
  have optional : ∀ {tag absent : String} {id : Option String}, Separable tag →
      Separable absent → (∀ present ∈ id, IsId tag present) → Separable (id.getD absent) := by
    intro tag absent id plainTag plainAbsent isId
    cases id with
    | none => exact plainAbsent
    | some present => exact (isId present rfl).separable plainTag
  intro component isComponent
  rw [components, checkKeyComponents, List.mem_append] at isComponent
  rcases isComponent with isFixed | isListed
  · simp only [List.mem_cons, List.not_mem_nil, or_false] at isFixed
    rcases isFixed with rfl | rfl | rfl | rfl | rfl | rfl | rfl | rfl | rfl | rfl | rfl | rfl
    · decide +kernel
    · exact wellFormed.project.separable (by decide)
    · exact ScenarioId.separable_value _
    · exact AssertionKey.separable_value _
    · exact wellFormed.invariant
    · exact separable_nat _
    · exact optional (by decide) (by decide +kernel) wellFormed.ingress
    · exact optional (by decide) (by decide +kernel) wellFormed.route
    · exact optional (by decide) (by decide +kernel) wellFormed.ingressSymbol
    · exact optional (by decide) (by decide +kernel) wellFormed.customerNode
    · exact optional (by decide) (by decide +kernel) wellFormed.customerSymbol
    · exact optional (by decide) (by decide +kernel) wellFormed.connectivity
  · rcases List.mem_append.mp isListed with isNode | isPolicy
    · exact (wellFormed.nodes component isNode).separable (by decide)
    · exact separable_policyComponents input component isPolicy

/-- Equal components mean the same invariant at the same sequence of nodes. -/
theorem sameInvariant_of_components {left right : CheckKeyInput} (isLeft : left.WellFormed)
    (isRight : right.WellFormed) (same : left.components = right.components) :
    SameInvariant left right ∧ left.nodeIds = right.nodeIds := by
  unfold CheckKeyInput.components checkKeyComponents at same
  obtain ⟨fixed, listed⟩ := List.append_inj same rfl
  have unparenthesised : ∀ {input : CheckKeyInput}, input.WellFormed →
      ∀ id ∈ input.nodeIds, id.toList.head? ≠ some '(' := by
    intro input wellFormed id isNode parenthesised
    obtain ⟨isTag, -, -⟩ := wellFormed.nodes id isNode
    cases characters : id.toList with
    | nil => simp [characters] at parenthesised
    | cons first rest =>
      rw [characters] at isTag parenthesised
      have tagged := congrArg List.head? isTag
      simp_all
  have isPolicy : ∀ {input : CheckKeyInput},
      ∀ component ∈ policyComponents input.dimensions input.policy,
        ¬ component.toList.head? ≠ some '(' := by
    intro input component isComponent
    unfold policyComponents at isComponent
    rw [not_not]
    rcases List.mem_append.mp isComponent with isFulfilment | isLate
    · split at isFulfilment
      next =>
        rw [List.mem_singleton.mp isFulfilment]
        exact head_policyComponent _ _
      next => cases isFulfilment
    · split at isLate
      next =>
        rw [List.mem_singleton.mp isLate]
        exact head_policyComponent _ _
      next => cases isLate
  obtain ⟨nodes, policies⟩ := append_inj_of_pred
    (fun component => component.toList.head? ≠ some '(')
    (unparenthesised isLeft) (unparenthesised isRight) isPolicy isPolicy listed
  obtain ⟨fulfilment, lateAuthorisation⟩ := policyComponents_injective policies
  simp only [List.cons.injEq, and_true, true_and] at fixed
  obtain ⟨project, scenario, key, invariant, version, ingress, route, ingressSymbol, customerNode,
    customerSymbol, connectivity⟩ := fixed
  refine ⟨?_, nodes⟩
  exact {
    project
    scenario := ScenarioId.value_injective scenario
    key := AssertionKey.value_injective key
    invariant
    version := Python.toString_injective version
    ingress := getD_injective isLeft.ingress isRight.ingress (by decide +kernel) ingress
    route := getD_injective isLeft.route isRight.route (by decide +kernel) route
    ingressSymbol := getD_injective isLeft.ingressSymbol isRight.ingressSymbol
      (by decide +kernel) ingressSymbol
    customerNode := getD_injective isLeft.customerNode isRight.customerNode (by decide +kernel)
      customerNode
    customerSymbol := getD_injective isLeft.customerSymbol isRight.customerSymbol
      (by decide +kernel) customerSymbol
    connectivity := getD_injective isLeft.connectivity isRight.connectivity (by decide +kernel)
      connectivity
    fulfilment
    lateAuthorisation }

/-- Where the kinds of the nodes agree, the sequence of nodes is cut at the same place. -/
theorem KindsAgree.cut {left right : CheckKeyInput} (agree : KindsAgree left right)
    (same : left.nodeIds = right.nodeIds) : SameTargets left right := by
  have lists : left.targets.mutationNodeIds = right.targets.mutationNodeIds ∧
      left.targets.acknowledgementNodeIds = right.targets.acknowledgementNodeIds := by
    rcases List.append_eq_append_iff.mp same with ⟨between, isRight, isLeft⟩ |
      ⟨between, isLeft, isRight⟩
    · cases between with
      | nil => exact ⟨by simpa using isRight.symm, by simpa using isLeft⟩
      | cons id later =>
        exact absurd (isLeft ▸ List.mem_append_left _ List.mem_cons_self)
          (agree.2 id (isRight ▸ List.mem_append_right _ List.mem_cons_self))
    · cases between with
      | nil => exact ⟨by simpa using isLeft, by simpa using isRight.symm⟩
      | cons id later =>
        exact absurd (isRight ▸ List.mem_append_left _ List.mem_cons_self)
          (agree.1 id (isLeft ▸ List.mem_append_right _ List.mem_cons_self))
  rw [SameTargets, lists.1, lists.2]
  exact ⟨fun _ => .rfl, fun _ => .rfl⟩

/-- Where the digest does not collide, checks with one key are about the same invariant and the same
sequence of nodes, and about the same targets if the kinds of the nodes agree. -/
theorem checkKey_identifies (hashing : RunHashing) {left right : CheckKeyInput}
    (isLeft : left.WellFormed) (isRight : right.WellFormed)
    (distinct : hashing.digest left.preimage = hashing.digest right.preimage →
      left.preimage = right.preimage)
    (same : left.checkKey hashing = right.checkKey hashing) :
    SameInvariant left right ∧ left.nodeIds = right.nodeIds ∧
      (KindsAgree left right → SameTargets left right) := by
  have digests : hashing.digest left.preimage = hashing.digest right.preimage :=
    (String.append_right_inj _).mp same
  have some : ∀ input : CheckKeyInput, input.components ≠ [] := fun input empty => by cases empty
  have components : left.components = right.components := by
    refine intercalate_injective ?_ (some left) (some right) (distinct digests)
    intro component isComponent
    rcases List.mem_append.mp isComponent with inLeft | inRight
    · exact isLeft.separable component inLeft
    · exact isRight.separable component inRight
  obtain ⟨invariant, nodes⟩ := sameInvariant_of_components isLeft isRight components
  exact ⟨invariant, nodes, fun agree => agree.cut nodes⟩

/-! ## A target that changes its kind -/

def sampleNodeId (digit : Char) : GraphNodeId :=
  "sgnode_" ++ String.ofList (List.replicate 32 digit)

/-- A check at two nodes, of which the first ones are mutations. -/
def sampleCheck (fulfilment : Option FulfilmentPolicy)
    (mutations acknowledgements : List GraphNodeId)
    (ordered : mutations.Pairwise (· < ·) ∧ acknowledgements.Pairwise (· < ·)) :
    CheckKeyInput where
  projectId := "sgproj_" ++ String.ofList (List.replicate 32 '0')
  scenario := .sg04
  key := .sg04StateRegression
  invariantId := (definitionOf .sg04StateRegression).invariantId
  invariantVersion := 1
  targets := {
    ingressNodeId := some (sampleNodeId 'a')
    routeRegistrationId := none
    ingressSymbolId := none
    normalControlId := none
    customerValueNodeId := none
    customerValueSymbolId := none
    connectivityEdgeId := none
    mutationNodeIds := mutations
    acknowledgementNodeIds := acknowledgements
    mutationsUnique := ordered.1.imp fun less => ne_of_lt less
    mutationsOrdered := ordered.1.imp fun less => le_of_lt less
    acknowledgementsUnique := ordered.2.imp fun less => ne_of_lt less
    acknowledgementsOrdered := ordered.2.imp fun less => le_of_lt less }
  dimensions := []
  policy := ⟨fulfilment, "sha256:1", none, none, "sha256:2", none⟩

/-- A mutation and an acknowledgement, and two mutations. -/
def oneMutation : CheckKeyInput :=
  sampleCheck none [sampleNodeId '1'] [sampleNodeId '2'] (by decide +kernel)

def twoMutations : CheckKeyInput :=
  sampleCheck none [sampleNodeId '1', sampleNodeId '2'] [] (by decide +kernel)

/-- The first check, once a policy that it does not rest on has been confirmed. -/
def reverifiedMutation : CheckKeyInput :=
  sampleCheck (some .captureRequired) [sampleNodeId '1'] [sampleNodeId '2'] (by decide +kernel)

theorem sampleCheck_wellFormed {fulfilment : Option FulfilmentPolicy}
    {mutations acknowledgements : List GraphNodeId}
    {ordered : mutations.Pairwise (· < ·) ∧ acknowledgements.Pairwise (· < ·)}
    (nodes : ∀ id ∈ mutations ++ acknowledgements, IsId "sgnode" id) :
    (sampleCheck fulfilment mutations acknowledgements ordered).WellFormed where
  project := by
    show IsId "sgproj" ("sgproj_" ++ String.ofList (List.replicate 32 '0'))
    decide +kernel
  invariant := separable_definitionOf _
  ingress id isId := by
    cases isId
    decide +kernel
  route id isId := by cases isId
  ingressSymbol id isId := by cases isId
  customerNode id isId := by cases isId
  customerSymbol id isId := by cases isId
  connectivity id isId := by cases isId
  nodes := nodes

/-- The key does not tell whether the second node is a mutation or an acknowledgement. -/
theorem movedTarget_sameKey :
    oneMutation.WellFormed ∧ twoMutations.WellFormed ∧
      (∀ hashing, oneMutation.checkKey hashing = twoMutations.checkKey hashing) ∧
        ¬ SameTargets oneMutation twoMutations := by
  refine ⟨sampleCheck_wellFormed (by decide +kernel), sampleCheck_wellFormed (by decide +kernel),
    fun hashing => rfl, fun same => ?_⟩
  have moved := (same.1 (sampleNodeId '2')).mpr (by simp [twoMutations, sampleCheck])
  revert moved
  decide +kernel

/-- The law at a check of one run and the same check of another. -/
theorem checkKey_identifies_reverified :
    SameInvariant oneMutation reverifiedMutation ∧
      oneMutation.nodeIds = reverifiedMutation.nodeIds ∧
        (KindsAgree oneMutation reverifiedMutation →
          SameTargets oneMutation reverifiedMutation) :=
  checkKey_identifies sampleRunHashing (sampleCheck_wellFormed (by decide +kernel))
    (sampleCheck_wellFormed (by decide +kernel)) (fun _ => rfl) rfl

end Evidence

end StateGuard
