import StateGuard.Library.FirstOccurrence
import StateGuard.Semantics.Mapper

/-!
# The order of an answer

`classify_candidates` looks at the first candidate of each reference: the later ones are
duplicates, also of a candidate that was rejected.  So the order of an answer decides which of two
candidates with one reference is looked at.

`modelResolution_perm_iff` says for which answers the order does not matter (`Settled`).
-/

namespace StateGuard

namespace Semantics

open Python Checks Record FirstOccurrence

variable {catalog : List SemanticCatalogEntry} {completeness : BundleCompleteness}

/-- `catalogue.get`: of two entries with one reference the dict keeps the last. -/
def entryOf (catalog : List SemanticCatalogEntry) (reference : Str) :
    Option SemanticCatalogEntry :=
  catalog.reverse.find? (·.catalogReference = reference)

/-- `resolve_model_candidates(classify_candidates(...))`. -/
def modelResolution (candidates : List RawCustomerValueCandidate)
    (catalog : List SemanticCatalogEntry) (completeness : BundleCompleteness) :
    Except Exception (Option (ResolutionState × ResolutionBasis × Option SymbolId)) := do
  let classification ← classifyCandidates candidates catalog.reverse
  pure (resolveModelCandidates classification completeness)

/-- A candidate that names an entry of the catalog and cites excerpts of that entry only. -/
def WellCited (catalog : List SemanticCatalogEntry) (raw : RawCustomerValueCandidate) : Prop :=
  ∃ entry ∈ entryOf catalog raw.symbolReference, raw.excerptReferences ⊆ entry.excerptReferences

instance (catalog : List SemanticCatalogEntry) (raw : RawCustomerValueCandidate) :
    Decidable (WellCited catalog raw) :=
  inferInstanceAs (Decidable (∃ entry ∈ entryOf catalog raw.symbolReference,
    raw.excerptReferences ⊆ entry.excerptReferences))

/-! ## What the walk looks at -/

/-- The candidates that the walk looks at, after the references `seen`. -/
abbrev lookedAt (seen : List Str) (candidates : List RawCustomerValueCandidate) :
    List RawCustomerValueCandidate :=
  firsts RawCustomerValueCandidate.symbolReference seen candidates

/-- Those of them that are accepted. -/
def accepted (catalog : List SemanticCatalogEntry) (seen : List Str)
    (candidates : List RawCustomerValueCandidate) : List RawCustomerValueCandidate :=
  (lookedAt seen candidates).filter fun raw => WellCited catalog raw

/-- The symbol of the entry that a candidate names. -/
def symbolOf (catalog : List SemanticCatalogEntry) (reference : Str) : Option SymbolId :=
  (entryOf catalog reference).map (·.symbolId)

theorem rejectionReasons_reverse {seen : List Str} {raw : RawCustomerValueCandidate} :
    rejectionReasons catalog.reverse seen raw = [] ↔
      raw.symbolReference ∉ seen ∧ WellCited catalog raw :=
  rejectionReasons_eq_nil

theorem acceptsRest_lookedAt_iff {seen : List Str} {candidates : List RawCustomerValueCandidate} :
    AcceptsRest catalog.reverse seen candidates ↔
      ∀ raw ∈ lookedAt seen candidates, WellCited catalog raw → raw.Acceptable := by
  constructor
  · intro accepts raw membership cited
    obtain ⟨before, after, split, unmet⟩ := mem_firsts_iff.mp membership
    exact accepts before raw after split (rejectionReasons_reverse.mpr ⟨unmet, cited⟩)
  · intro accepts before raw after split unrejected
    obtain ⟨unmet, cited⟩ := rejectionReasons_reverse.mp unrejected
    exact accepts raw (mem_firsts_iff.mpr ⟨before, after, split, unmet⟩) cited

theorem accepted_cons_seen {seen : List Str} {raw : RawCustomerValueCandidate}
    {rest : List RawCustomerValueCandidate} (met : raw.symbolReference ∈ seen) :
    accepted catalog seen (raw :: rest) = accepted catalog seen rest := by
  rw [accepted, lookedAt, firsts, if_pos met, accepted]

theorem accepted_cons_first {seen : List Str} {raw : RawCustomerValueCandidate}
    {rest : List RawCustomerValueCandidate} (first : raw.symbolReference ∉ seen) :
    accepted catalog seen (raw :: rest) =
      if WellCited catalog raw then
        raw :: accepted catalog (raw.symbolReference :: seen) rest
      else accepted catalog (raw.symbolReference :: seen) rest := by
  rw [accepted, lookedAt, firsts, if_neg first, List.filter_cons]
  simp only [decide_eq_true_eq]
  rfl

/-- The symbols of a classification are those of the entries that the accepted candidates name. -/
theorem symbols_of_classified {candidates : List RawCustomerValueCandidate}
    (read : ∀ raw ∈ candidates, raw.Read) {seen : List Str}
    {classification : CandidateClassification}
    (classified : classifyFrom catalog.reverse seen candidates = .ok classification) :
    classification.validCandidates.map (fun candidate => some candidate.symbolId) =
      (accepted catalog seen candidates).map (symbolOf catalog ·.symbolReference) := by
  induction candidates generalizing seen classification with
  | nil =>
    cases classified
    rfl
  | cons raw rest ih =>
    obtain ⟨later, isLater, outcome⟩ := (classifyFrom_cons (read raw (by simp))).mp classified
    have symbols := ih (fun other membership => read other (by simp [membership])) isLater
    rcases outcome with ⟨entry, found, unrejected, -, rfl⟩ | ⟨rejected, rfl⟩
    · obtain ⟨first, cited⟩ := rejectionReasons_reverse.mp unrejected
      have named : symbolOf catalog raw.symbolReference = some entry.symbolId := by
        rw [symbolOf, entryOf, Option.mem_def.mp found]
        rfl
      rw [accepted_cons_first first, if_pos cited, List.map_cons, List.map_cons, symbols, named]
    · rw [Ne, rejectionReasons_reverse, not_and] at rejected
      by_cases met : raw.symbolReference ∈ seen
      · rw [accepted_cons_seen met]
        refine symbols.trans (congrArg (List.map _ <| List.filter _ ·) ?_)
        refine firsts_congr fun reference => ?_
        simp only [List.mem_cons, or_iff_right_iff_imp]
        rintro rfl
        exact met
      · rw [accepted_cons_first met, if_neg (rejected met)]
        exact symbols

/-- What `resolve_model_candidates` does with the symbols of the accepted candidates. -/
def decisionOf : BundleCompleteness → List (Option SymbolId) →
    Option (ResolutionState × ResolutionBasis × Option SymbolId)
  | .bundlePartial, _ => none
  | .bundleComplete, [] => some (.unmapped, .unresolved, none)
  | .bundleComplete, [symbol] => some (.unique, .modelUnique, symbol)
  | .bundleComplete, _ => some (.ambiguous, .unresolved, none)

theorem resolveModelCandidates_eq (classification : CandidateClassification) :
    resolveModelCandidates classification completeness =
      decisionOf completeness
        (classification.validCandidates.map fun candidate => some candidate.symbolId) := by
  cases completeness with
  | bundlePartial => rfl
  | bundleComplete =>
    rcases classification with ⟨_ | ⟨first, _ | ⟨second, rest⟩⟩, rejected⟩ <;> rfl

theorem decisionOf_ambiguous {first second : Option SymbolId} {rest : List (Option SymbolId)} :
    decisionOf .bundleComplete (first :: second :: rest) = some (.ambiguous, .unresolved, none) :=
  rfl

/-- The second schema takes what the walk accepts. -/
def Schemed (catalog : List SemanticCatalogEntry) (candidates : List RawCustomerValueCandidate) :
    Prop :=
  ∀ raw ∈ lookedAt [] candidates, WellCited catalog raw → raw.Acceptable

theorem modelResolution_schemed {candidates : List RawCustomerValueCandidate}
    (read : ∀ raw ∈ candidates, raw.Read) (schemed : Schemed catalog candidates) :
    modelResolution candidates catalog completeness =
      .ok (decisionOf completeness
        ((accepted catalog [] candidates).map (symbolOf catalog ·.symbolReference))) := by
  obtain ⟨classification, classified⟩ :=
    (classifyFrom_ok_iff read []).mpr (acceptsRest_lookedAt_iff.mpr schemed)
  have isClassified : classifyCandidates candidates catalog.reverse = .ok classification :=
    classified
  rw [modelResolution, isClassified, ok_bind, resolveModelCandidates_eq,
    symbols_of_classified read classified]
  rfl

theorem modelResolution_unschemed {candidates : List RawCustomerValueCandidate}
    (read : ∀ raw ∈ candidates, raw.Read) (unschemed : ¬ Schemed catalog candidates) :
    modelResolution candidates catalog completeness = .error .validationError := by
  rw [modelResolution]
  cases classified : classifyCandidates candidates catalog.reverse with
  | ok classification =>
    have accepts := (classifyFrom_ok_iff read []).mp ⟨_, classified⟩
    exact absurd (acceptsRest_lookedAt_iff.mp accepts) unschemed
  | error failure =>
    rw [classifyFrom_validates [] candidates failure classified]
    rfl

/-! ## Answers whose order does not matter -/

/-- Each candidate with the reference is well cited. -/
def Definite (catalog : List SemanticCatalogEntry) (candidates : List RawCustomerValueCandidate)
    (reference : Str) : Prop :=
  ∀ raw ∈ candidates, raw.symbolReference = reference → WellCited catalog raw

/-- One candidate with the reference is well cited and another is not. -/
def Mixed (catalog : List SemanticCatalogEntry) (candidates : List RawCustomerValueCandidate)
    (reference : Str) : Prop :=
  (∃ raw ∈ candidates, raw.symbolReference = reference ∧ WellCited catalog raw) ∧
    ¬ Definite catalog candidates reference

/-- An answer whose order does not matter.  Either there is a reference each candidate of which the
second schema refuses.  Or it refuses no candidate that is well cited, and the bundle is partial, no
reference is mixed, or two references are definite. -/
def Settled (catalog : List SemanticCatalogEntry) (candidates : List RawCustomerValueCandidate)
    (completeness : BundleCompleteness) : Prop :=
  (∃ raw ∈ candidates, ∀ other ∈ candidates, other.symbolReference = raw.symbolReference →
      WellCited catalog other ∧ ¬ other.Acceptable) ∨
    (∀ raw ∈ candidates, WellCited catalog raw → raw.Acceptable) ∧
      (completeness = .bundlePartial ∨
        (∀ reference, ¬ Mixed catalog candidates reference) ∨
        ∃ first ∈ candidates, ∃ second ∈ candidates,
          first.symbolReference ≠ second.symbolReference ∧
            Definite catalog candidates first.symbolReference ∧
            Definite catalog candidates second.symbolReference)

variable {candidates others : List RawCustomerValueCandidate}

theorem mem_accepted {raw : RawCustomerValueCandidate} {seen : List Str} :
    raw ∈ accepted catalog seen candidates ↔
      raw ∈ lookedAt seen candidates ∧ WellCited catalog raw := by
  simp [accepted]

theorem accepted_nodup (catalog : List SemanticCatalogEntry)
    (candidates : List RawCustomerValueCandidate) :
    ((accepted catalog [] candidates).map (·.symbolReference)).Nodup :=
  firsts_nodup.sublist (List.filter_sublist.map _)

/-- The candidate with a definite reference that the walk looks at is accepted. -/
theorem Definite.accepted {raw : RawCustomerValueCandidate} (membership : raw ∈ candidates)
    (definite : Definite catalog candidates raw.symbolReference) :
    ∃ first ∈ accepted catalog [] candidates, first.symbolReference = raw.symbolReference := by
  obtain ⟨first, isFirst, same⟩ :=
    exists_mem_firsts RawCustomerValueCandidate.symbolReference membership
      (List.not_mem_nil)
  have cited := definite first (mem_of_mem_firsts isFirst).1 same
  exact ⟨first, mem_accepted.mpr ⟨isFirst, cited⟩, same⟩

theorem Definite.perm (perm : others.Perm candidates) {reference : Str}
    (definite : Definite catalog candidates reference) : Definite catalog others reference :=
  fun raw membership => definite raw (perm.mem_iff.mp membership)

/-- Where every candidate with a reference is refused, so is the answer. -/
theorem not_schemed_of_refused {raw : RawCustomerValueCandidate} (membership : raw ∈ candidates)
    (refused : ∀ other ∈ candidates, other.symbolReference = raw.symbolReference →
      WellCited catalog other ∧ ¬ other.Acceptable) : ¬ Schemed catalog candidates := by
  intro schemed
  obtain ⟨first, isFirst, same⟩ :=
    exists_mem_firsts RawCustomerValueCandidate.symbolReference membership
      (List.not_mem_nil)
  obtain ⟨cited, unacceptable⟩ := refused first (mem_of_mem_firsts isFirst).1 same
  exact unacceptable (schemed first isFirst cited)

theorem schemed_of_acceptable
    (acceptable : ∀ raw ∈ candidates, WellCited catalog raw → raw.Acceptable) :
    Schemed catalog candidates :=
  fun raw isFirst => acceptable raw (mem_of_mem_firsts isFirst).1

theorem decisionOf_of_two_le {symbols : List (Option SymbolId)} (two : 2 ≤ symbols.length) :
    decisionOf .bundleComplete symbols = some (.ambiguous, .unresolved, none) := by
  match symbols, two with
  | _ :: _ :: _, _ => rfl

theorem decisionOf_perm {symbols permuted : List (Option SymbolId)}
    (perm : permuted.Perm symbols) : decisionOf completeness permuted =
      decisionOf completeness symbols := by
  cases completeness with
  | bundlePartial => rfl
  | bundleComplete =>
    match symbols with
    | [] => rw [perm.eq_nil]
    | [symbol] => rw [perm.eq_singleton]
    | first :: second :: rest =>
      rw [decisionOf_of_two_le (by rw [perm.length_eq]; simp), decisionOf_ambiguous]

/-- Two decisions that agree although one has more candidates are both ambiguous. -/
theorem two_le_of_decisionOf_eq {symbols more : List (Option SymbolId)}
    (fewer : symbols.length < more.length)
    (same : decisionOf .bundleComplete symbols = decisionOf .bundleComplete more) :
    2 ≤ symbols.length := by
  match symbols, more with
  | [], [_] => cases same
  | [], _ :: _ :: _ => cases same
  | [_], [_] => simp at fewer
  | [_], _ :: _ :: _ => cases same
  | _ :: _ :: _, _ => simp

/-- Without a mixed reference, the references accepted are those of the well cited candidates. -/
theorem mem_references_iff (unmixed : ∀ reference, ¬ Mixed catalog candidates reference)
    {reference : Str} :
    reference ∈ (accepted catalog [] candidates).map (·.symbolReference) ↔
      ∃ raw ∈ candidates, raw.symbolReference = reference ∧ WellCited catalog raw := by
  constructor
  · intro membership
    obtain ⟨raw, isAccepted, same⟩ := List.mem_map.mp membership
    obtain ⟨isFirst, cited⟩ := mem_accepted.mp isAccepted
    exact ⟨raw, (mem_of_mem_firsts isFirst).1, same, cited⟩
  · rintro ⟨raw, membership, rfl, cited⟩
    have definite : Definite catalog candidates raw.symbolReference := by
      by_contra indefinite
      exact unmixed _ ⟨⟨raw, membership, rfl, cited⟩, indefinite⟩
    obtain ⟨first, isAccepted, same⟩ := definite.accepted membership
    exact List.mem_map.mpr ⟨first, isAccepted, same⟩

theorem Mixed.perm (perm : others.Perm candidates) {reference : Str}
    (mixed : Mixed catalog others reference) : Mixed catalog candidates reference := by
  obtain ⟨⟨raw, membership, same, cited⟩, indefinite⟩ := mixed
  exact ⟨⟨raw, perm.mem_iff.mp membership, same, cited⟩,
    fun definite => indefinite (definite.perm perm)⟩

/-- Two definite references make an answer ambiguous. -/
theorem two_le_of_definite {first second : RawCustomerValueCandidate} (isFirst : first ∈ candidates)
    (isSecond : second ∈ candidates) (differ : first.symbolReference ≠ second.symbolReference)
    (firstDefinite : Definite catalog candidates first.symbolReference)
    (secondDefinite : Definite catalog candidates second.symbolReference) :
    2 ≤ (accepted catalog [] candidates).length := by
  obtain ⟨one, isOne, oneSame⟩ := firstDefinite.accepted isFirst
  obtain ⟨two, isTwo, twoSame⟩ := secondDefinite.accepted isSecond
  have distinct : one ≠ two := by
    rintro rfl
    exact differ (oneSame.symm.trans twoSame)
  have pair : [one, two].Subperm (accepted catalog [] candidates) := by
    refine List.subperm_of_subset (by simpa using distinct) ?_
    intro raw membership
    simp only [List.mem_cons, List.not_mem_nil, or_false] at membership
    rcases membership with rfl | rfl
    · exact isOne
    · exact isTwo
  exact pair.length_le

theorem Settled.resolution_eq (settled : Settled catalog candidates completeness)
    (read : ∀ raw ∈ candidates, raw.Read) (perm : others.Perm candidates) :
    modelResolution others catalog completeness =
      modelResolution candidates catalog completeness := by
  have otherRead : ∀ raw ∈ others, raw.Read := fun raw membership =>
    read raw (perm.mem_iff.mp membership)
  rcases settled with ⟨raw, membership, refused⟩ | ⟨acceptable, cases⟩
  · rw [modelResolution_unschemed read (not_schemed_of_refused membership refused),
      modelResolution_unschemed otherRead (not_schemed_of_refused (perm.mem_iff.mpr membership)
        fun other isOther => refused other (perm.mem_iff.mp isOther))]
  · rw [modelResolution_schemed read (schemed_of_acceptable acceptable),
      modelResolution_schemed otherRead (schemed_of_acceptable
        fun other isOther => acceptable other (perm.mem_iff.mp isOther))]
    congr 1
    rcases cases with rfl | unmixed | ⟨first, isFirst, second, isSecond, differ, one, two⟩
    · rfl
    · have sameReferences : ((accepted catalog [] others).map (·.symbolReference)).Perm
          ((accepted catalog [] candidates).map (·.symbolReference)) := by
        refine (List.perm_ext_iff_of_nodup (accepted_nodup _ _) (accepted_nodup _ _)).mpr ?_
        intro reference
        rw [mem_references_iff unmixed, mem_references_iff fun other mixed =>
          unmixed other (mixed.perm perm)]
        simp only [perm.mem_iff]
      have sameSymbols := sameReferences.map (symbolOf catalog)
      rw [List.map_map, List.map_map] at sameSymbols
      exact decisionOf_perm sameSymbols
    · cases completeness with
      | bundlePartial => rfl
      | bundleComplete =>
        rw [decisionOf_of_two_le, decisionOf_of_two_le]
        · rw [List.length_map]
          exact two_le_of_definite isFirst isSecond differ one two
        · rw [List.length_map]
          exact two_le_of_definite (perm.mem_iff.mpr isFirst) (perm.mem_iff.mpr isSecond) differ
            (one.perm perm) (two.perm perm)

/-! ## Answers whose order matters -/

/-- The candidates with a property, after the others. -/
def lastOf (property : RawCustomerValueCandidate → Bool)
    (candidates : List RawCustomerValueCandidate) : List RawCustomerValueCandidate :=
  candidates.filter (fun raw => !property raw) ++ candidates.filter property

theorem lastOf_perm (candidates : List RawCustomerValueCandidate)
    (property : RawCustomerValueCandidate → Bool) :
    (lastOf property candidates).Perm candidates :=
  List.perm_append_comm.trans (List.filter_append_perm property candidates)

/-- A candidate with the property that is looked at after the others shares its reference with
none of them. -/
theorem property_of_lookedAt_lastOf {property : RawCustomerValueCandidate → Bool}
    {raw other : RawCustomerValueCandidate} (holds : property raw = true)
    (isFirst : raw ∈ lookedAt [] (lastOf property candidates)) (isOther : other ∈ candidates)
    (same : other.symbolReference = raw.symbolReference) : property other = true := by
  rcases mem_firsts_append.mp isFirst with early | late
  · have absent := (List.mem_filter.mp (mem_of_mem_firsts early).1).2
    simp [holds] at absent
  · by_contra lacks
    refine (mem_of_mem_firsts late).2 (List.mem_map.mpr ⟨other, ?_, same⟩)
    exact List.mem_filter.mpr ⟨isOther, by simpa using lacks⟩

/-- A well cited candidate with a mixed reference is accepted when the well cited come first, and
none with its reference is when they come last. -/
theorem accepted_length_lt {reference : Str} (mixed : Mixed catalog candidates reference) :
    (accepted catalog [] (lastOf (fun raw => WellCited catalog raw) candidates)).length <
      (accepted catalog [] (lastOf (fun raw => ¬ WellCited catalog raw) candidates)).length := by
  obtain ⟨⟨raw, membership, rfl, cited⟩, indefinite⟩ := mixed
  have later : ∀ other ∈ candidates, WellCited catalog other → other.symbolReference ∈
      (accepted catalog [] (lastOf (fun raw => ¬ WellCited catalog raw) candidates)).map
        (·.symbolReference) := by
    intro other isOther otherCited
    have isCited : other ∈ candidates.filter fun raw => !decide (¬ WellCited catalog raw) :=
      List.mem_filter.mpr ⟨isOther, by simpa using otherCited⟩
    obtain ⟨first, isFirst, same⟩ :=
      exists_mem_firsts RawCustomerValueCandidate.symbolReference isCited
        (List.not_mem_nil)
    have firstCited := (List.mem_filter.mp (mem_of_mem_firsts isFirst).1).2
    exact List.mem_map.mpr ⟨first,
      mem_accepted.mpr ⟨mem_firsts_append.mpr (.inl isFirst), by simpa using firstCited⟩, same⟩
  have absent : raw.symbolReference ∉
      (accepted catalog [] (lastOf (fun raw => WellCited catalog raw) candidates)).map
        (·.symbolReference) := by
    intro isAccepted
    obtain ⟨first, isFirst, same⟩ := List.mem_map.mp isAccepted
    obtain ⟨looked, firstCited⟩ := mem_accepted.mp isFirst
    refine indefinite fun other isOther otherSame => ?_
    simpa using property_of_lookedAt_lastOf (by simpa using firstCited) looked isOther
      (otherSame.trans same.symm)
  have distinct := List.nodup_cons.mpr ⟨absent, accepted_nodup _ _⟩
  have fewer := (List.subperm_of_subset distinct (by
    intro other isOther
    rcases List.mem_cons.mp isOther with rfl | isAccepted
    · exact later raw membership cited
    · obtain ⟨first, isFirst, rfl⟩ := List.mem_map.mp isAccepted
      obtain ⟨looked, firstCited⟩ := mem_accepted.mp isFirst
      exact later first ((lastOf_perm _ _).mem_iff.mp (mem_of_mem_firsts looked).1)
        firstCited)).length_le
  rw [List.length_cons, List.length_map, List.length_map] at fewer
  exact fewer

theorem settled_of_resolution_eq (read : ∀ raw ∈ candidates, raw.Read)
    (same : ∀ others : List RawCustomerValueCandidate, others.Perm candidates →
      modelResolution others catalog completeness =
        modelResolution candidates catalog completeness) :
    Settled catalog candidates completeness := by
  have permRead : ∀ others : List RawCustomerValueCandidate, others.Perm candidates →
      ∀ raw ∈ others, raw.Read := fun others perm raw membership =>
    read raw (perm.mem_iff.mp membership)
  by_cases acceptable : ∀ raw ∈ candidates, WellCited catalog raw → raw.Acceptable
  · refine .inr ⟨acceptable, ?_⟩
    cases completeness with
    | bundlePartial => exact .inl rfl
    | bundleComplete =>
      refine .inr ?_
      by_contra unsettled
      simp only [not_or, not_forall, not_not] at unsettled
      obtain ⟨⟨reference, mixed⟩, apart⟩ := unsettled
      have resolved : ∀ property, modelResolution (lastOf property candidates) catalog
          .bundleComplete = .ok (decisionOf .bundleComplete
            ((accepted catalog [] (lastOf property candidates)).map
              (symbolOf catalog ·.symbolReference))) := fun property =>
        modelResolution_schemed (permRead _ (lastOf_perm _ property)) (schemed_of_acceptable
          fun raw membership => acceptable raw ((lastOf_perm _ property).mem_iff.mp membership))
      have agree := (same _ (lastOf_perm _ fun raw => WellCited catalog raw)).trans
        (same _ (lastOf_perm _ fun raw => ¬ WellCited catalog raw)).symm
      rw [resolved, resolved, Except.ok.injEq] at agree
      have two := two_le_of_decisionOf_eq (by simpa using accepted_length_lt mixed) agree
      have definite : ∀ raw ∈ accepted catalog []
          (lastOf (fun raw => WellCited catalog raw) candidates), raw ∈ candidates ∧
            Definite catalog candidates raw.symbolReference := by
        intro raw isAccepted
        obtain ⟨looked, cited⟩ := mem_accepted.mp isAccepted
        refine ⟨(lastOf_perm _ _).mem_iff.mp (mem_of_mem_firsts looked).1, ?_⟩
        intro other isOther sameReference
        simpa using property_of_lookedAt_lastOf (by simpa using cited) looked isOther sameReference
      have distinct :=
        accepted_nodup catalog (lastOf (fun raw => WellCited catalog raw) candidates)
      match chosen : accepted catalog [] (lastOf (fun raw => WellCited catalog raw) candidates) with
      | [] => simp [chosen] at two
      | [_] => simp [chosen] at two
      | first :: second :: rest =>
        rw [chosen] at definite distinct
        obtain ⟨isFirst, firstDefinite⟩ := definite first (by simp)
        obtain ⟨isSecond, secondDefinite⟩ := definite second (by simp)
        refine apart ⟨first, isFirst, second, isSecond, ?_, firstDefinite, secondDefinite⟩
        intro sameReference
        simp [sameReference] at distinct
  · refine .inl ?_
    simp only [not_forall] at acceptable
    obtain ⟨raw, membership, cited, unacceptable⟩ := acceptable
    have raised : modelResolution candidates catalog completeness = .error .validationError := by
      have perm := (List.perm_cons_erase membership).symm
      rw [← same _ perm]
      refine modelResolution_unschemed (permRead _ perm) fun schemed => ?_
      exact unacceptable (schemed raw (by simp [lookedAt, firsts]) cited)
    have perm := lastOf_perm candidates
      fun raw => WellCited catalog raw ∧ ¬ raw.Acceptable
    have unschemed : ¬ Schemed catalog
        (lastOf (fun raw => WellCited catalog raw ∧ ¬ raw.Acceptable) candidates) := by
      intro schemed
      have resolved := same _ perm
      rw [raised, modelResolution_schemed (permRead _ perm) schemed] at resolved
      cases resolved
    simp only [Schemed, not_forall] at unschemed
    obtain ⟨first, looked, firstCited, firstUnacceptable⟩ := unschemed
    refine ⟨first, perm.mem_iff.mp (mem_of_mem_firsts looked).1, ?_⟩
    intro other isOther sameReference
    simpa using property_of_lookedAt_lastOf
      (by simpa using And.intro firstCited firstUnacceptable) looked isOther sameReference

/-- A candidate for the callable of the sample catalog, which cites one excerpt. -/
def quoting (excerpt : String) : RawCustomerValueCandidate where
  symbolReference := Str.ofString "candidate_001"
  rationale := Str.ofString "grants access"
  excerptReferences := [Str.ofString excerpt]
  providerConfidence := none

theorem quoting_read {raw : RawCustomerValueCandidate}
    (membership : raw ∈ [quoting "src_2", quoting "src_1"]) : raw.Read := by
  simp only [List.mem_cons, List.not_mem_nil, or_false] at membership
  rcases membership with rfl | rfl <;>
    exact ⟨by decide +kernel, by decide +kernel, by decide +kernel, by decide +kernel,
      by decide +kernel, by decide +kernel, by decide +kernel⟩

end Semantics

end StateGuard
