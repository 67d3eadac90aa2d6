import StateGuard.Graph.ConstructionTotality
import StateGuard.Library.Separated
import StateGuard.Library.SimplePaths

/-!
# Exactness of route composition

The includes of an index are the links of a multigraph between framework instances
(`includeRoads`): an include is open if its prefix and the prefix of its router are known.  The
walk of the composition enumerates the simple paths of this multigraph from the selected
application (`walk_perm`), and an include that it does not follow is reported.

A registration is put in a record that bounds its texts, so the composition is refused where a
method or an effective path is too long (`composeRoutes`).

The identity of a registration is the digest of its components joined by the unit separator.  What
is before the method can be told apart, because the anchors and the instances begin with different
words, and so can the ordinal at the end.
-/

namespace StateGuard

open Checks Python
open SimplePaths (Roads Path paths stops)

section

variable (text : BuildText) (index : SourceIndexArtifact)

/-! ## Includes as links -/

/-- Includes with their positions, each from the router where the one before it leads to. -/
abbrev IncludePath := List (RouterIncludeRecord × Nat)

/-- A path of includes with a route. -/
abbrev PathRoute := IncludePath × (RouteRecord × Nat)

/-- The includes of one shape with their positions, by the JSON text of their locations. -/
def includeEntryPeers (shape : FrameworkInstanceId × FrameworkInstanceId × Option String) :
    List (RouterIncludeRecord × Nat) :=
  KeyOrder.sortedByKey (fun entry => text.locationJson entry.1.sourceLocation)
    (index.routerIncludes.zipIdx.filter (·.1.shape = shape))

/-- The ordinal of the include at a position among the includes of its shape. -/
def includeOrdinal (entry : RouterIncludeRecord × Nat) : Nat :=
  ((includeEntryPeers text index entry.1.shape).map (·.2)).idxOf entry.2

/-- The include at a position with its anchor. -/
def occurrenceAt (entry : RouterIncludeRecord × Nat) : IncludeOccurrence where
  record := entry.1
  anchor := text.includeOccurrenceAnchor entry.1.parentInstanceId entry.1.includedRouterInstanceId
    entry.1.pathPrefix (includeOrdinal text index entry)

/-- The multigraph of the includes.  An include of a router is open if both prefixes are known. -/
def includeRoads : Roads FrameworkInstanceId (RouterIncludeRecord × Nat) where
  links here := index.routerIncludes.zipIdx.filter (·.1.parentInstanceId = here)
  target entry := entry.1.includedRouterInstanceId
  isOpen entry := entry.1.pathPrefix.isSome &&
    (frameworkInstance? index entry.1.includedRouterInstanceId).any fun child =>
      child.pathPrefix.isSome && child.kind = .apiRouter

/-- The prefix that an include adds, and then that of its router. -/
def prefixesOf (entry : RouterIncludeRecord × Nat) : List String :=
  [entry.1.pathPrefix.getD "", ((frameworkInstance? index entry.1.includedRouterInstanceId).bind
    (·.pathPrefix)).getD ""]

/-- Where a walk stands that followed a path of includes. -/
def mountAt (appId : FrameworkInstanceId) (path : IncludePath)
    (here : FrameworkInstanceId) : Mount where
  instanceId := here
  prefixes := path.flatMap (prefixesOf index)
  anchors := path.map (occurrenceAt text index · |>.anchor)
  includeLocations := path.map (·.1.sourceLocation)
  stack := stops (includeRoads index) appId path

/-- The registration of a route at the end of a path of includes. -/
def registrationAt (appId : FrameworkInstanceId)
    (pair : PathRoute) : Registration :=
  ⟨appId, mountAt text index appId pair.1 pair.2.1.registrarInstanceId, pair.2⟩

/-- The report of an include at the end of a path that is not followed. -/
def cutAt (appId : FrameworkInstanceId) (path : IncludePath)
    (entry : RouterIncludeRecord × Nat) : Option GraphDiagnosticRecord :=
  if (includeRoads index).isOpen entry = false then
    some (compositionDiagnostic .routeCompositionUnresolved entry.1)
  else if (includeRoads index).target entry ∈ stops (includeRoads index) appId path then
    some (compositionDiagnostic .routeCompositionCycle entry.1)
  else none

end

/-! ## Occurrences and positions -/

section

variable {text : BuildText} {index : SourceIndexArtifact} {appId here : FrameworkInstanceId}
  {path : IncludePath} {entry : RouterIncludeRecord × Nat}

/-- Positions tell the items of a list apart. -/
theorem nodup_positions {α : Type} (items : List α) : (items.zipIdx.map (·.2)).Nodup := by
  rw [List.zipIdx_map_snd]
  exact List.nodup_range'

theorem includeEntryPeers_nodup
    (shape : FrameworkInstanceId × FrameworkInstanceId × Option String) :
    ((includeEntryPeers text index shape).map (·.2)).Nodup := by
  refine ((KeyOrder.sortedByKey_perm _ _).map _).nodup_iff.mpr ?_
  exact (nodup_positions index.routerIncludes).sublist (List.filter_sublist.map _)

theorem shape_of_peer {shape : FrameworkInstanceId × FrameworkInstanceId × Option String}
    (isPeer : entry ∈ includeEntryPeers text index shape) : entry.1.shape = shape := by
  have listed := (KeyOrder.mem_sortedByKey _ _ _).mp isPeer
  exact of_decide_eq_true (List.mem_filter.mp listed).2

theorem includePeers_eq (shape : FrameworkInstanceId × FrameworkInstanceId × Option String) :
    includePeers text index shape = (includeEntryPeers text index shape).map (·.1) := by
  have sorted : (includeEntryPeers text index shape).map (·.1) =
      KeyOrder.sortedByKey (fun record => text.locationJson record.sourceLocation)
        ((index.routerIncludes.zipIdx.filter (·.1.shape = shape)).map (·.1)) :=
    KeyOrder.map_sortedByKey fun _ _ _ _ => Iff.rfl
  have kept : (index.routerIncludes.zipIdx.filter (·.1.shape = shape)).map (·.1) =
      index.routerIncludes.filter (·.shape = shape) := by
    conv_rhs => rw [← List.zipIdx_map_fst 0 index.routerIncludes, List.filter_map]
    rfl
  rw [sorted, kept]
  rfl

/-- The includes of a shape, by position. -/
theorem occurrencesOf_eq (shape : FrameworkInstanceId × FrameworkInstanceId × Option String) :
    occurrencesOf text index shape =
      (includeEntryPeers text index shape).map (occurrenceAt text index) := by
  unfold occurrencesOf
  rw [includePeers_eq]
  refine List.ext_getElem (by simp) fun k short short' => ?_
  have within : k < (includeEntryPeers text index shape).length := by simpa using short'
  have isPeer := List.getElem_mem within
  have ordinal : includeOrdinal text index (includeEntryPeers text index shape)[k] = k := by
    unfold includeOrdinal
    rw [shape_of_peer isPeer]
    have position := (@includeEntryPeers_nodup text index shape).idxOf_getElem
      k (by simpa using within)
    simpa using position
  simp only [List.getElem_map, List.getElem_zipIdx, Nat.zero_add]
  unfold occurrenceAt
  rw [ordinal]

/-- The occurrences of an index are its includes, each once. -/
theorem includeOccurrences_perm :
    (includeOccurrences text index).Perm
      (index.routerIncludes.zipIdx.map (occurrenceAt text index)) := by
  have shapes : ((index.routerIncludes.map (·.shape)).dedup.flatMap fun shape =>
      index.routerIncludes.zipIdx.filter (·.1.shape = shape)).Perm index.routerIncludes.zipIdx := by
    refine KeyOrder.flatMap_groups_perm (List.nodup_dedup _) fun entry isEntry => ?_
    exact List.mem_dedup.mpr (List.mem_map_of_mem (List.fst_mem_of_mem_zipIdx isEntry))
  unfold includeOccurrences
  refine (KeyOrder.sortedByKey_perm _ _).trans ?_
  refine ((KeyOrder.sortedByKey_perm _ _).flatMap_right _).trans ?_
  refine List.Perm.trans ?_ (shapes.map _)
  rw [List.map_flatMap]
  refine List.Perm.flatMap_left _ fun shape _ => ?_
  rw [occurrencesOf_eq]
  exact (KeyOrder.sortedByKey_perm _ _).map _

/-! ## The walk as an enumeration -/

theorem cutAt_eq_none_iff : cutAt index appId path entry = none ↔
    (includeRoads index).isOpen entry = true ∧
      (includeRoads index).target entry ∉ stops (includeRoads index) appId path := by
  unfold cutAt
  split
  next closed => simp [closed]
  next isOpen =>
    split
    next visited => simp [visited]
    next fresh => simpa [fresh] using isOpen

/-- Where an include leads to from the end of a path. -/
theorem enter_occurrenceAt :
    enter index (mountAt text index appId path here) (occurrenceAt text index entry) =
      match cutAt index appId path entry with
      | some diagnostic => .error diagnostic
      | none => .ok (mountAt text index appId (path ++ [entry])
          ((includeRoads index).target entry)) := by
  unfold enter cutAt occurrenceAt
  dsimp only
  cases known : entry.1.pathPrefix with
  | none => simp [includeRoads, known]
  | some includePrefix =>
    cases found : frameworkInstance? index entry.1.includedRouterInstanceId with
    | none => simp [includeRoads, found]
    | some child =>
      have isChild : child.frameworkInstanceId = entry.1.includedRouterInstanceId := by
        have isFound := List.find?_some found
        exact of_decide_eq_true isFound
      cases prefixed : child.pathPrefix with
      | none => simp [includeRoads, found, prefixed]
      | some childPrefix =>
        by_cases kind : child.kind = .apiRouter
        · have isOpen : (includeRoads index).isOpen entry = true := by
            simp [includeRoads, known, found, prefixed, kind]
          have added : prefixesOf index entry = [includePrefix, childPrefix] := by
            simp [prefixesOf, known, found, prefixed]
          dsimp only
          rw [prefixed]
          dsimp only
          rw [isOpen, if_neg (not_not.mpr kind), if_neg Bool.true_eq_false.mp, isChild]
          by_cases visited : (includeRoads index).target entry ∈
              stops (includeRoads index) appId path
          · have inStack : entry.1.includedRouterInstanceId ∈
                (mountAt text index appId path here).stack := visited
            rw [if_pos visited, if_pos inStack]
          · have notInStack : entry.1.includedRouterInstanceId ∉
                (mountAt text index appId path here).stack := visited
            rw [if_neg visited, if_neg notInStack]
            simp only [mountAt, List.flatMap_append, List.flatMap_singleton, added,
              List.map_append, List.map_singleton, SimplePaths.stops_snoc, occurrenceAt, known]
            rfl
        · simp [includeRoads, known, found, prefixed, kind]

/-- The includes at the end of a path. -/
theorem mountedIncludes_perm :
    (mountedIncludes text index (mountAt text index appId path here)).Perm
      (((includeRoads index).links here).map (occurrenceAt text index)) := by
  unfold mountedIncludes includeRoads
  refine (KeyOrder.sortedByKey_perm _ _).trans ((includeOccurrences_perm.filter _).trans ?_)
  rw [List.filter_map]
  exact List.Perm.refl _

/-- The walk enumerates the paths of includes, takes the routes at the end of each, and reports the
includes that it does not follow. -/
theorem walk_perm (fuel : Nat) :
    (walkRegistrations text index appId fuel (mountAt text index appId path here)).Perm
        ((paths (includeRoads index) appId fuel path here).flatMap fun found =>
          (index.routes.zipIdx.filter (·.1.registrarInstanceId = found.2)).map fun entry =>
            registrationAt text index appId (found.1, entry)) ∧
      (walk text index appId fuel (mountAt text index appId path here)).diagnostics.Perm
        ((paths (includeRoads index) appId fuel path here).flatMap fun found =>
          ((includeRoads index).links found.2).filterMap (cutAt index appId found.1)) := by
  induction fuel generalizing path here with
  | zero => exact ⟨List.Perm.refl _, List.Perm.refl _⟩
  | succ fuel ih =>
    have goes : ∀ entry : RouterIncludeRecord × Nat, ((includeRoads index).isOpen entry = true ∧
        (includeRoads index).target entry ∉ stops (includeRoads index) appId path) ↔
          cutAt index appId path entry = none := fun entry => cutAt_eq_none_iff.symm
    rw [walkRegistrations, walk, paths, List.flatMap_cons, List.flatMap_cons, List.flatMap_assoc,
      List.flatMap_assoc]
    constructor
    · have here_eq : mountedRegistrations text index appId (mountAt text index appId path here) =
          (KeyOrder.sortedByKey (fun entry => text.routeJson entry.1)
            (index.routes.zipIdx.filter (·.1.registrarInstanceId = here))).map
              fun entry => registrationAt text index appId (path, entry) := by
        refine List.map_congr_left fun entry isEntry => ?_
        have isHere := List.of_mem_filter ((KeyOrder.mem_sortedByKey _ _ _).mp isEntry)
        have same : entry.1.registrarInstanceId = here := of_decide_eq_true isHere
        rw [registrationAt, same]
      rw [here_eq]
      refine List.Perm.append ((KeyOrder.sortedByKey_perm _ _).map _) ?_
      refine (mountedIncludes_perm.flatMap_right _).trans ?_
      rw [List.flatMap_map]
      refine List.Perm.flatMap_left _ fun entry _ => ?_
      rw [enter_occurrenceAt]
      simp only [goes]
      cases cutAt index appId path entry with
      | some diagnostic => exact List.Perm.refl _
      | none => exact ih.1
    · dsimp only
      rw [List.flatMap_map]
      refine (mountedIncludes_perm.flatMap_right _).trans ?_
      rw [List.flatMap_map, List.filterMap_eq_flatMap_toList]
      refine List.Perm.trans ?_ (List.flatMap_append_perm _ _ _).symm
      refine List.Perm.flatMap_left _ fun entry _ => ?_
      unfold follow
      rw [enter_occurrenceAt]
      simp only [goes]
      cases cutAt index appId path entry with
      | some diagnostic => exact List.Perm.refl _
      | none => exact ih.2

end

/-! ## What is reached -/

section

variable (index : SourceIndexArtifact) (appId : FrameworkInstanceId)

/-- A path of includes from the application and a route of the instance where it ends. -/
def Reached (pair : PathRoute) : Prop :=
  Path (includeRoads index) appId pair.1 pair.2.1.registrarInstanceId ∧
    pair.2 ∈ index.routes.zipIdx

/-- The paths of includes from the application, with the routes of the instance where they end. -/
def reachedPairs : List PathRoute :=
  (paths (includeRoads index) appId (walkBound index) [] appId).flatMap fun found =>
    (index.routes.zipIdx.filter (·.1.registrarInstanceId = found.2)).map fun entry =>
      (found.1, entry)

/-- The includes at the ends of the paths that are not followed. -/
def reachedCuts : List GraphDiagnosticRecord :=
  (paths (includeRoads index) appId (walkBound index) [] appId).flatMap fun found =>
    ((includeRoads index).links found.2).filterMap (cutAt index appId found.1)

variable {index appId}

/-- Open includes lead to instances of the index. -/
theorem stops_known {path : IncludePath} {last : FrameworkInstanceId}
    (isPath : Path (includeRoads index) appId path last) : ∀ node ∈ stops (includeRoads index) appId
      path, node ∈ appId :: index.frameworkInstances.map (·.frameworkInstanceId) := by
  induction isPath with
  | nil =>
    intro node isRoot
    exact List.mem_cons.mpr (.inl (List.mem_singleton.mp isRoot))
  | @snoc path here entry earlier leaves isOpen fresh ih =>
    intro node isStop
    rw [SimplePaths.stops_snoc, List.mem_append, List.mem_singleton] at isStop
    rcases isStop with before | rfl
    · exact ih node before
    · refine List.mem_cons_of_mem _ ?_
      obtain ⟨-, found⟩ := Bool.and_eq_true_iff.mp isOpen
      obtain ⟨child, isFound, -⟩ := (Option.any_eq_true _ _).mp found
      have isChild := List.find?_some isFound
      have same : child.frameworkInstanceId = entry.1.includedRouterInstanceId :=
        of_decide_eq_true isChild
      have target : (includeRoads index).target entry = child.frameworkInstanceId := same.symm
      rw [target]
      exact List.mem_map_of_mem (List.mem_of_find?_eq_some isFound)

theorem mem_walkPaths {path : IncludePath} {last : FrameworkInstanceId} :
    (path, last) ∈ paths (includeRoads index) appId (walkBound index) [] appId ↔
      Path (includeRoads index) appId path last :=
  SimplePaths.mem_paths (fun _ _ => stops_known) (by simp [walkBound])

theorem mem_reachedPairs
    {pair : PathRoute} :
    pair ∈ reachedPairs index appId ↔ Reached index appId pair := by
  unfold reachedPairs Reached
  rw [List.mem_flatMap]
  constructor
  · rintro ⟨⟨path, last⟩, isPath, isPair⟩
    obtain ⟨entry, isEntry, rfl⟩ := List.mem_map.mp isPair
    obtain ⟨listed, ends⟩ := List.mem_filter.mp isEntry
    have same : entry.1.registrarInstanceId = last := of_decide_eq_true ends
    subst same
    exact ⟨mem_walkPaths.mp isPath, listed⟩
  · rintro ⟨isPath, listed⟩
    refine ⟨(pair.1, pair.2.1.registrarInstanceId), mem_walkPaths.mpr isPath, ?_⟩
    exact List.mem_map.mpr ⟨pair.2, List.mem_filter.mpr ⟨listed, decide_eq_true rfl⟩, rfl⟩

/-- Each path with each route is met once. -/
theorem nodup_reachedPairs : (reachedPairs index appId).Nodup := by
  have entries : index.routes.zipIdx.Nodup := List.Nodup.of_map _ (nodup_positions index.routes)
  have includes : ∀ here, ((includeRoads index).links here).Nodup := fun here =>
    (List.Nodup.of_map _ (nodup_positions index.routerIncludes)).filter _
  refine List.nodup_flatMap.mpr ⟨fun found _ => ?_, ?_⟩
  · exact (entries.filter _).map fun a b same => (Prod.mk.inj same).2
  · refine (SimplePaths.nodup_paths includes).imp fun {a b} different => ?_
    intro pair inA inB
    obtain ⟨entry, isEntry, rfl⟩ := List.mem_map.mp inA
    obtain ⟨other, isOther, same⟩ := List.mem_map.mp inB
    obtain ⟨path, entries⟩ := Prod.mk.inj same
    refine different (Prod.ext path.symm ?_)
    have ends : entry.1.registrarInstanceId = a.2 :=
      of_decide_eq_true (List.mem_filter.mp isEntry).2
    have ends' : other.1.registrarInstanceId = b.2 :=
      of_decide_eq_true (List.mem_filter.mp isOther).2
    rw [← ends, ← ends', entries]

end

/-! ## What the records admit -/

/-- A text that begins with a slash. -/
def Slashed (s : String) : Prop := s.toList.head? = some '/'

instance (s : String) : Decidable (Slashed s) := inferInstanceAs (Decidable (_ = _))

/-- An identity of a kind: a word and 32 hexadecimal digits. -/
def IdOf (tag s : String) : Prop :=
  ∃ digest : String, s = tag ++ "_" ++ digest ∧ digest.length = 32 ∧
    ∀ c ∈ digest.toList, c.isAlphanum = true

/-- The prefix of an application, a router or an include, as it is stored. -/
def StoredPrefix (s : String) : Prop := s = "" ∨ Slashed s

/-- What the validators of the records of an index admit. -/
structure AdmittedIndex (text : BuildText) (index : SourceIndexArtifact) : Prop where
  instanceIds : ∀ record ∈ index.frameworkInstances, IdOf "sgfw" record.frameworkInstanceId
  instancePrefixes : ∀ record ∈ index.frameworkInstances, ∀ s ∈ record.pathPrefix, StoredPrefix s
  targets : ∀ target ∈ index.appTargets,
    target.frameworkInstanceId ∈ index.frameworkInstances.map (·.frameworkInstanceId)
  includeEnds : ∀ record ∈ index.routerIncludes,
    record.parentInstanceId ∈ index.frameworkInstances.map (·.frameworkInstanceId) ∧
      record.includedRouterInstanceId ∈ index.frameworkInstances.map (·.frameworkInstanceId)
  includePrefixes : ∀ record ∈ index.routerIncludes, ∀ s ∈ record.pathPrefix,
    StoredPrefix s ∧ text.strip s = s
  owners : ∀ route ∈ index.routes, IdOf "sgsym" route.ownerSymbolId
  registrars : ∀ route ∈ index.routes,
    route.registrarInstanceId ∈ index.frameworkInstances.map (·.frameworkInstanceId)
  methods : ∀ route ∈ index.routes, route.method ≠ "" ∧ text.upper (text.strip route.method) =
    route.method
  routePaths : ∀ route ∈ index.routes, Slashed route.routePath ∧ route.routePath.length ≤ 2048 ∧
    text.strip route.routePath = route.routePath

/-- The validators of `EffectiveRouteRegistration`. -/
def admitRegistration (text : BuildText) (method componentPath effectivePath : String) :
    Except String Unit := do
  raiseIf (method.length < 1) "method: String should have at least 1 character"
  raiseIf (16 < method.length) "method: String should have at most 16 characters"
  raiseIf (componentPath.length < 1) "component_path: String should have at least 1 character"
  raiseIf (2048 < componentPath.length)
    "component_path: String should have at most 2048 characters"
  raiseIf (¬ Slashed (text.strip componentPath))
    "component_path: graph route paths must begin with '/'"
  raiseIf (effectivePath.length < 1) "effective_path: String should have at least 1 character"
  raiseIf (4096 < effectivePath.length)
    "effective_path: String should have at most 4096 characters"
  raiseIf (¬ Slashed (text.strip effectivePath))
    "effective_path: graph route paths must begin with '/'"

/-- A registration is put in its record. -/
def Registration.record (text : BuildText) (registration : Registration) : Except String Unit :=
  admitRegistration text registration.entry.1.method registration.entry.1.routePath
    (composePath registration.mount.prefixes registration.entry.1.routePath)

/-- `compose_effective_routes`, which raises where a record refuses a registration. -/
def composeRoutes (text : BuildText) (index : SourceIndexArtifact) :
    Except String ReachabilityResult := do
  forEach (Registration.record text) (effectiveRegistrations text index)
  pure (composeEffectiveRoutes text index)

/-- The method and the effective path of a registration are within the bounds of its record. -/
def WithinBounds (index : SourceIndexArtifact)
    (pair : PathRoute) : Prop :=
  pair.2.1.method.length ≤ 16 ∧
    (composePath (pair.1.flatMap (prefixesOf index)) pair.2.1.routePath).length ≤ 4096

section

variable {text : BuildText} {index : SourceIndexArtifact} {appId : FrameworkInstanceId}
  {pair : PathRoute}

theorem Slashed.append {a : String} (slashed : Slashed a) (b : String) : Slashed (a ++ b) := by
  unfold Slashed at slashed ⊢
  rw [String.toList_append, List.head?_append, slashed]
  rfl

theorem Slashed.length_pos {a : String} (slashed : Slashed a) : 1 ≤ a.length := by
  unfold Slashed at slashed
  rw [← String.length_toList]
  exact List.length_pos_of_mem (List.mem_of_head? slashed)

theorem storedPrefix_stripSlashes {s : String} (stored : StoredPrefix s) :
    StoredPrefix (stripSlashes s) := by
  have begins := s.toList.rdropWhile_prefix (· = '/')
  rcases stored with rfl | slashed
  · exact .inl rfl
  · unfold StoredPrefix Slashed stripSlashes
    rw [String.toList_ofList]
    cases kept : s.toList.rdropWhile (· = '/') with
    | nil => exact .inl rfl
    | cons c rest =>
      rw [kept] at begins
      obtain ⟨more, whole⟩ := begins
      unfold Slashed at slashed
      rw [← whole] at slashed
      exact .inr slashed

theorem storedPrefix_join {parts : List String} (stored : ∀ s ∈ parts, StoredPrefix s) :
    StoredPrefix (String.join parts) := by
  induction parts with
  | nil => exact .inl rfl
  | cons first rest ih =>
    rw [String.join_cons]
    obtain ⟨isFirst, isRest⟩ := List.forall_mem_cons.mp stored
    rcases isFirst with rfl | slashed
    · rw [String.empty_append]
      exact ih isRest
    · exact .inr (slashed.append _)

/-- An effective path begins with a slash. -/
theorem slashed_composePath {prefixes : List String} {routePath : String}
    (stored : ∀ s ∈ prefixes, StoredPrefix s) (slashed : Slashed routePath) :
    Slashed (composePath prefixes routePath) := by
  have head : StoredPrefix (String.join (prefixes.map stripSlashes)) := by
    refine storedPrefix_join fun s isPart => ?_
    obtain ⟨component, isComponent, rfl⟩ := List.mem_map.mp isPart
    exact storedPrefix_stripSlashes (stored component isComponent)
  unfold composePath
  dsimp only
  split
  next => exact slashed
  next notEmpty =>
    split
    next => exact (head.resolve_left notEmpty).append _
    next => exact (head.resolve_left notEmpty).append _

/-- The prefixes on a path of includes are stored prefixes. -/
theorem storedPrefix_of_path (admitted : AdmittedIndex text index) {here : FrameworkInstanceId}
    {path : IncludePath} (isPath : Path (includeRoads index) appId path here) :
    ∀ s ∈ path.flatMap (prefixesOf index), StoredPrefix s := by
  intro s listed
  obtain ⟨entry, isEntry, isPart⟩ := List.mem_flatMap.mp listed
  obtain ⟨-, here, leaves⟩ := isPath.mem_links entry isEntry
  have isInclude := List.fst_mem_of_mem_zipIdx (List.mem_of_mem_filter leaves)
  unfold prefixesOf at isPart
  rw [List.mem_cons, List.mem_singleton] at isPart
  rcases isPart with rfl | rfl
  · cases known : entry.1.pathPrefix with
    | none => exact .inl rfl
    | some includePrefix => exact (admitted.includePrefixes _ isInclude _ known).1
  · cases found : frameworkInstance? index entry.1.includedRouterInstanceId with
    | none => exact .inl rfl
    | some child =>
      cases known : child.pathPrefix with
      | none =>
        simp only [Option.bind_some, known, Option.getD_none]
        exact .inl rfl
      | some childPrefix =>
        simp only [Option.bind_some, known, Option.getD_some]
        exact admitted.instancePrefixes _ (List.mem_of_find?_eq_some found) _ known

/-- A record admits a registration whose texts are within its bounds. -/
theorem admit_iff (admitted : AdmittedIndex text index)
    (strips : ∀ s, Slashed s → Slashed (text.strip s)) (reached : Reached index appId pair) :
    (registrationAt text index appId pair).record text = .ok () ↔ WithinBounds index pair := by
  obtain ⟨isPath, isEntry⟩ := reached
  have isRoute := List.fst_mem_of_mem_zipIdx isEntry
  obtain ⟨notEmpty, -⟩ := admitted.methods _ isRoute
  obtain ⟨slashed, short, -⟩ := admitted.routePaths _ isRoute
  have effective : Slashed (composePath (pair.1.flatMap (prefixesOf index)) pair.2.1.routePath) :=
    slashed_composePath (storedPrefix_of_path admitted isPath) slashed
  have methodLength : 1 ≤ pair.2.1.method.length := by
    rw [← String.length_toList]
    exact List.length_pos_of_ne_nil fun empty => notEmpty (by simpa using empty)
  have admitted : (registrationAt text index appId pair).record text =
      admitRegistration text pair.2.1.method pair.2.1.routePath
        (composePath (pair.1.flatMap (prefixesOf index)) pair.2.1.routePath) := rfl
  rw [admitted]
  unfold admitRegistration WithinBounds
  simp only [bind_eq_ok, raiseIf_eq_ok, exists_unit]
  have pathLength := slashed.length_pos
  have effectiveLength := effective.length_pos
  constructor
  · rintro ⟨-, bounded, -, -, -, -, bounded', -⟩
    exact ⟨by omega, by omega⟩
  · rintro ⟨bounded, bounded'⟩
    exact ⟨by omega, by omega, by omega, by omega, not_not.mpr (strips _ slashed), by omega,
      by omega, not_not.mpr (strips _ effective)⟩

/-- The registrations of a walk from an application. -/
theorem walkRegistrations_perm :
    (walkRegistrations text index appId (walkBound index) (Mount.start appId)).Perm
      ((reachedPairs index appId).map (registrationAt text index appId)) := by
  have whole := (@walk_perm text index appId appId [] (walkBound index)).1
  unfold reachedPairs
  rw [List.map_flatMap]
  simp only [List.map_map]
  exact whole

/-- The composition is refused where a registration is over the bounds of its record. -/
theorem composeRoutes_eq_ok {target : AppTargetRecord} {result : ReachabilityResult}
    (admitted : AdmittedIndex text index) (strips : ∀ s, Slashed s → Slashed (text.strip s))
    (selected : selectedTargets index = [target]) :
    composeRoutes text index = .ok result ↔
      (∀ pair, Reached index target.frameworkInstanceId pair → WithinBounds index pair) ∧
        composeEffectiveRoutes text index = result := by
  unfold composeRoutes effectiveRegistrations
  rw [selected]
  simp only [bind_eq_ok, forEach_eq_ok, exists_unit, pure_eq_ok]
  refine and_congr_left fun _ => ?_
  constructor
  · intro accepted pair reached
    refine (admit_iff admitted strips reached).mp (accepted _ ?_)
    rw [walkRegistrations_perm.mem_iff]
    exact List.mem_map_of_mem (mem_reachedPairs.mpr reached)
  · intro fits registration isRegistration
    rw [walkRegistrations_perm.mem_iff] at isRegistration
    obtain ⟨pair, isPair, rfl⟩ := List.mem_map.mp isRegistration
    have reached := mem_reachedPairs.mp isPair
    exact (admit_iff admitted strips reached).mpr (fits pair reached)

end

/-! ## Identities -/

section

variable (text : BuildText) (index : SourceIndexArtifact) (appId : FrameworkInstanceId)

/-- What the anchor of an include digests. -/
def includeKey (entry : RouterIncludeRecord × Nat) : List String :=
  [entry.1.parentInstanceId, entry.1.includedRouterInstanceId,
    (entry.1.pathPrefix.map text.strip).getD "<UNKNOWN>",
    toString (includeOrdinal text index entry)]

/-- What is digested for the identities of the reached registrations. -/
def preimages : List String :=
  index.routerIncludes.zipIdx.map (String.intercalate "\x1f" <| includeKey text index ·) ++
    (reachedPairs index appId).map fun pair =>
      String.intercalate "\x1f" ((registrationAt text index appId pair).key text index)

/-- No two of the digested texts collide. -/
def DigestsApart : Prop :=
  ∀ a ∈ preimages text index appId, ∀ b ∈ preimages text index appId,
    text.digest a = text.digest b → a = b

instance : Decidable (DigestsApart text index appId) :=
  inferInstanceAs (Decidable (∀ a ∈ preimages text index appId, ∀ b ∈ preimages text index appId,
    text.digest a = text.digest b → a = b))

/-- The identity of a reached registration. -/
def reachedId (pair : PathRoute) :
    RouteRegistrationId :=
  ((registrationAt text index appId pair).route text index).registration.routeRegistrationId

/-- No two routes of one handler on one reached instance read the same once the method and the path
are joined. -/
def Unconfused : Prop :=
  ∀ a ∈ index.routes, ∀ b ∈ index.routes,
    (∃ path, Path (includeRoads index) appId path a.registrarInstanceId) →
    a.registrarInstanceId = b.registrarInstanceId → a.ownerSymbolId = b.ownerSymbolId →
    a.method ++ "\x1f" ++ a.routePath = b.method ++ "\x1f" ++ b.routePath → a.method = b.method

end

section

variable {text : BuildText} {index : SourceIndexArtifact} {appId : FrameworkInstanceId}

theorem IdOf.plain {tag s : String} (isId : IdOf tag s) (plain : '\x1f' ∉ (tag ++ "_").toList) :
    '\x1f' ∉ s.toList := by
  obtain ⟨digest, rfl, -, digits⟩ := isId
  rw [String.toList_append, List.mem_append]
  rintro (listed | listed)
  · exact plain listed
  · exact absurd (digits _ listed) (by decide)

theorem AdmittedIndex.instance_plain (admitted : AdmittedIndex text index)
    {instanceId : FrameworkInstanceId}
    (known : instanceId ∈ index.frameworkInstances.map (·.frameworkInstanceId)) :
    IdOf "sgfw" instanceId := by
  obtain ⟨record, isInstance, rfl⟩ := List.mem_map.mp known
  exact admitted.instanceIds record isInstance

theorem anchor_id (standard : text.Standard) (entry : RouterIncludeRecord × Nat) :
    IdOf "sginclude" (occurrenceAt text index entry).anchor :=
  ⟨_, rfl, standard.digest_length _, standard.digest_alphanum _⟩

/-- The ends of one position are one entry. -/
theorem eq_of_position {α : Type} {items : List α} {a b : α × Nat} (isItem : a ∈ items.zipIdx)
    (isItem' : b ∈ items.zipIdx) (same : a.2 = b.2) : a = b :=
  List.inj_on_of_nodup_map (nodup_positions items) isItem isItem' same

/-- Items of one rank among peers by position are one item. -/
theorem eq_of_idxOf {α : Type} {items : List α} {peers : List (α × Nat)} {a b : α × Nat}
    (isItem : a ∈ items.zipIdx) (isItem' : b ∈ items.zipIdx) (isPeer : a ∈ peers)
    (same : (peers.map (·.2)).idxOf a.2 = (peers.map (·.2)).idxOf b.2) : a = b :=
  eq_of_position isItem isItem' ((List.idxOf_inj (List.mem_map_of_mem isPeer)).mp same)

/-- An include is told by its anchor. -/
theorem eq_of_anchor (admitted : AdmittedIndex text index)
    (uncollided : DigestsApart text index appId) {a b : RouterIncludeRecord × Nat}
    (isInclude : a ∈ index.routerIncludes.zipIdx)
    (isInclude' : b ∈ index.routerIncludes.zipIdx) (known : a.1.pathPrefix.isSome)
    (known' : b.1.pathPrefix.isSome)
    (same : (occurrenceAt text index a).anchor = (occurrenceAt text index b).anchor) : a = b := by
  have keys : String.intercalate "\x1f" (includeKey text index a) =
      String.intercalate "\x1f" (includeKey text index b) := by
    refine uncollided _ ?_ _ ?_ (String.append_right_inj _ |>.mp same)
    · exact List.mem_append_left _ (List.mem_map_of_mem (f := fun entry => String.intercalate
        "\x1f" (includeKey text index entry)) isInclude)
    · exact List.mem_append_left _ (List.mem_map_of_mem (f := fun entry => String.intercalate
        "\x1f" (includeKey text index entry)) isInclude')
  have ends := admitted.includeEnds _ (List.fst_mem_of_mem_zipIdx isInclude)
  have ends' := admitted.includeEnds _ (List.fst_mem_of_mem_zipIdx isInclude')
  have plain : ∀ {instanceId}, instanceId ∈ index.frameworkInstances.map (·.frameworkInstanceId) →
      '\x1f' ∉ instanceId.toList := fun listed => (admitted.instance_plain listed).plain (by decide)
  obtain ⟨parent, keys⟩ := Separated.intercalate_cons_inj rfl (by simp) (by simp) (plain ends.1)
    (plain ends'.1) keys
  obtain ⟨included, keys⟩ := Separated.intercalate_cons_inj rfl (by simp) (by simp) (plain ends.2)
    (plain ends'.2) keys
  obtain ⟨stored, knownA⟩ := Option.isSome_iff_exists.mp known
  obtain ⟨stored', knownB⟩ := Option.isSome_iff_exists.mp known'
  rw [knownA, knownB] at keys
  obtain ⟨pathPrefixes, ordinals⟩ := Separated.intercalate_pair_inj rfl
    (notMem_toString (by decide) _) (notMem_toString (by decide) _) keys
  simp only [Option.map_some, Option.getD_some] at pathPrefixes
  rw [(admitted.includePrefixes _ (List.fst_mem_of_mem_zipIdx isInclude) _ knownA).2,
    (admitted.includePrefixes _ (List.fst_mem_of_mem_zipIdx isInclude') _ knownB).2]
    at pathPrefixes
  have shapes : a.1.shape = b.1.shape := by
    unfold RouterIncludeRecord.shape
    rw [parent, included, knownA, knownB, pathPrefixes]
  have ordinal := toString_injective ordinals
  unfold includeOrdinal at ordinal
  rw [← shapes] at ordinal
  refine eq_of_idxOf isInclude isInclude' ?_ ordinal
  exact (KeyOrder.mem_sortedByKey _ _ _).mpr (List.mem_filter.mpr ⟨isInclude, decide_eq_true rfl⟩)

/-- Two parts may be joined before the rest is. -/
theorem intercalate_joined (xs : List String) (m p o : String) :
    String.intercalate "\x1f" (xs ++ [m, p, o]) =
      String.intercalate "\x1f" (xs ++ [m ++ "\x1f" ++ p, o]) := by
  induction xs with
  | nil =>
    rw [List.nil_append, List.nil_append, String.intercalate_cons_of_ne_nil (List.cons_ne_nil _ _),
      Separated.intercalate_pair, Separated.intercalate_pair]
    simp only [String.append_assoc]
  | cons x xs ih =>
    rw [List.cons_append, List.cons_append, String.intercalate_cons_of_ne_nil (by simp),
      String.intercalate_cons_of_ne_nil (by simp), ih]

/-- Anchors end where an instance begins. -/
theorem anchors_inj {as bs : List String} {r r' : String} {t t' : List String}
    (anchors : ∀ a ∈ as, IdOf "sginclude" a) (anchors' : ∀ b ∈ bs, IdOf "sginclude" b)
    (isInstance : IdOf "sgfw" r) (isInstance' : IdOf "sgfw" r') (nonempty : t ≠ [])
    (nonempty' : t' ≠ [])
    (same : String.intercalate "\x1f" (as ++ r :: t) = String.intercalate "\x1f" (bs ++ r' :: t')) :
    as = bs ∧ r = r' ∧ String.intercalate "\x1f" t = String.intercalate "\x1f" t' := by
  have apart : ∀ {a b : String}, IdOf "sginclude" a → IdOf "sgfw" b → a ≠ b := by
    rintro a b ⟨digest, rfl, -⟩ ⟨digest', rfl, -⟩ same
    have chars := congrArg String.toList same
    simp only [String.toList_append] at chars
    have third := congrArg (·[2]?) chars
    simp at third
  induction as generalizing bs with
  | nil =>
    cases bs with
    | nil =>
      obtain ⟨first, rest⟩ := Separated.intercalate_cons_inj rfl nonempty nonempty'
        (isInstance.plain (by decide)) (isInstance'.plain (by decide)) same
      exact ⟨rfl, first, rest⟩
    | cons b bs =>
      have isAnchor := anchors' b List.mem_cons_self
      obtain ⟨first, -⟩ := Separated.intercalate_cons_inj rfl nonempty (by simp)
        (isInstance.plain (by decide)) (isAnchor.plain (by decide)) same
      exact absurd first.symm (apart isAnchor isInstance)
  | cons a as ih =>
    have isAnchor := anchors a List.mem_cons_self
    cases bs with
    | nil =>
      obtain ⟨first, -⟩ := Separated.intercalate_cons_inj rfl (by simp) nonempty'
        (isAnchor.plain (by decide)) (isInstance'.plain (by decide)) same
      exact absurd first (apart isAnchor isInstance')
    | cons b bs =>
      obtain ⟨first, rest⟩ := Separated.intercalate_cons_inj rfl (by simp) (by simp)
        (isAnchor.plain (by decide)) ((anchors' b List.mem_cons_self).plain (by decide)) same
      obtain ⟨later, instances, tails⟩ := ih (fun c isC => anchors c (List.mem_cons_of_mem _ isC))
        (fun c isC => anchors' c (List.mem_cons_of_mem _ isC)) rest
      exact ⟨by rw [first, later], instances, tails⟩

/-- A map that tells the items of two lists apart tells the lists apart. -/
theorem eq_of_map_eq {α β : Type} {f : α → β} {as bs : List α}
    (tells : ∀ a ∈ as, ∀ b ∈ bs, f a = f b → a = b) (same : as.map f = bs.map f) : as = bs := by
  induction as generalizing bs with
  | nil => exact (List.map_eq_nil_iff.mp same.symm).symm
  | cons a as ih =>
    cases bs with
    | nil => cases same
    | cons b bs =>
      obtain ⟨first, rest⟩ := List.cons.inj same
      rw [tells a List.mem_cons_self b List.mem_cons_self first,
        ih (fun c isC d isD => tells c (List.mem_cons_of_mem _ isC) d (List.mem_cons_of_mem _ isD))
          rest]

variable {pair other : PathRoute}

theorem joinedKey (admitted : AdmittedIndex text index) (reached : Reached index appId pair) :
    String.intercalate "\x1f" ((registrationAt text index appId pair).key text index) =
      String.intercalate "\x1f" (appId :: (pair.1.map (occurrenceAt text index · |>.anchor) ++
        pair.2.1.registrarInstanceId :: [pair.2.1.ownerSymbolId,
          pair.2.1.method ++ "\x1f" ++ pair.2.1.routePath,
          toString (routeOrdinal text index pair.2)])) := by
  have isRoute := List.fst_mem_of_mem_zipIdx reached.2
  have key : (registrationAt text index appId pair).key text index =
      (appId :: (pair.1.map (occurrenceAt text index · |>.anchor) ++
        [pair.2.1.registrarInstanceId, pair.2.1.ownerSymbolId])) ++
        [text.upper (text.strip pair.2.1.method), text.strip pair.2.1.routePath,
          toString (routeOrdinal text index pair.2)] := by
    simp [Registration.key, registrationAt, mountAt]
  rw [key, intercalate_joined, (admitted.methods _ isRoute).2, (admitted.routePaths _ isRoute).2.2]
  simp

/-- What the identities of registrations tell. -/
theorem eq_of_reachedId (standard : text.Standard) (admitted : AdmittedIndex text index)
    (apart : DigestsApart text index appId) (isInstance : IdOf "sgfw" appId)
    (reached : Reached index appId pair) (reached' : Reached index appId other)
    (same : reachedId text index appId pair = reachedId text index appId other) :
    pair.1 = other.1 ∧ pair.2.1.registrarInstanceId = other.2.1.registrarInstanceId ∧
      pair.2.1.ownerSymbolId = other.2.1.ownerSymbolId ∧
      pair.2.1.method ++ "\x1f" ++ pair.2.1.routePath =
        other.2.1.method ++ "\x1f" ++ other.2.1.routePath ∧
      routeOrdinal text index pair.2 = routeOrdinal text index other.2 := by
  have keys : String.intercalate "\x1f" ((registrationAt text index appId pair).key text index) =
      String.intercalate "\x1f" ((registrationAt text index appId other).key text index) := by
    refine apart _ ?_ _ ?_ (String.append_right_inj _ |>.mp same)
    · exact List.mem_append_right _ (List.mem_map_of_mem (f := fun pair => String.intercalate
        "\x1f" ((registrationAt text index appId pair).key text index))
        (mem_reachedPairs.mpr reached))
    · exact List.mem_append_right _ (List.mem_map_of_mem (f := fun pair => String.intercalate
        "\x1f" ((registrationAt text index appId pair).key text index))
        (mem_reachedPairs.mpr reached'))
  rw [joinedKey admitted reached, joinedKey admitted reached'] at keys
  have isRoute := List.fst_mem_of_mem_zipIdx reached.2
  have isRoute' := List.fst_mem_of_mem_zipIdx reached'.2
  have isAnchor : ∀ path : IncludePath,
      ∀ a ∈ path.map (occurrenceAt text index · |>.anchor), IdOf "sginclude" a := by
    intro path a listed
    obtain ⟨entry, -, rfl⟩ := List.mem_map.mp listed
    exact anchor_id standard entry
  obtain ⟨-, keys⟩ := Separated.intercalate_cons_inj rfl (by simp) (by simp)
    (isInstance.plain (by decide)) (isInstance.plain (by decide)) keys
  obtain ⟨anchors, registrars, keys⟩ := anchors_inj (isAnchor _) (isAnchor _)
    (admitted.instance_plain (admitted.registrars _ isRoute))
    (admitted.instance_plain (admitted.registrars _ isRoute')) (by simp) (by simp) keys
  obtain ⟨owners, keys⟩ := Separated.intercalate_cons_inj rfl (by simp) (by simp)
    ((admitted.owners _ isRoute).plain (by decide)) ((admitted.owners _ isRoute').plain (by decide))
    keys
  obtain ⟨texts, ordinals⟩ := Separated.intercalate_pair_inj rfl (notMem_toString (by decide) _)
    (notMem_toString (by decide) _) keys
  refine ⟨?_, registrars, owners, texts, toString_injective ordinals⟩
  refine eq_of_map_eq (fun a isA b isB same => ?_) anchors
  obtain ⟨isOpen, _, leaves⟩ := reached.1.mem_links a isA
  obtain ⟨isOpen', _, leaves'⟩ := reached'.1.mem_links b isB
  exact eq_of_anchor admitted apart (List.mem_of_mem_filter leaves) (List.mem_of_mem_filter leaves')
    (Bool.and_eq_true_iff.mp isOpen).1 (Bool.and_eq_true_iff.mp isOpen').1 same

theorem RouteRecord.shape_eq_iff {a b : RouteRecord} : a.shape = b.shape ↔
    a.registrarInstanceId = b.registrarInstanceId ∧ a.ownerSymbolId = b.ownerSymbolId ∧
      a.method = b.method ∧ a.routePath = b.routePath := by
  simp [RouteRecord.shape]

/-- Some route of a shape has the ordinal 0. -/
theorem exists_first_route {route : RouteRecord} (isRoute : route ∈ index.routes) :
    ∃ entry ∈ index.routes.zipIdx, entry.1.shape = route.shape ∧
      routeOrdinal text index entry = 0 := by
  have mem_peers : ∀ entry, entry ∈ routePeers text index route.shape ↔
      entry ∈ index.routes.zipIdx ∧ entry.1.shape = route.shape := by
    intro entry
    unfold routePeers
    rw [KeyOrder.mem_sortedByKey, List.mem_filter, decide_eq_true_iff]
  cases peers : routePeers text index route.shape with
  | nil =>
    rw [← List.zipIdx_map_fst 0 index.routes] at isRoute
    obtain ⟨entry, isEntry, rfl⟩ := List.mem_map.mp isRoute
    have isPeer := (mem_peers entry).mpr ⟨isEntry, rfl⟩
    rw [peers] at isPeer
    cases isPeer
  | cons first rest =>
    have isPeer : first ∈ routePeers text index route.shape := by
      rw [peers]
      exact List.mem_cons_self
    obtain ⟨isEntry, shape⟩ := (mem_peers first).mp isPeer
    refine ⟨first, isEntry, shape, ?_⟩
    unfold routeOrdinal
    rw [shape, peers, List.map_cons, List.idxOf_cons_self]

/-- The identities of the reached registrations are distinct exactly when no two routes read the
same once the method and the path are joined. -/
theorem nodup_reachedIds (standard : text.Standard) (admitted : AdmittedIndex text index)
    (apart : DigestsApart text index appId) (isInstance : IdOf "sgfw" appId) :
    ((reachedPairs index appId).map (reachedId text index appId)).Nodup ↔
      Unconfused index appId := by
  rw [List.nodup_map_iff_inj_on nodup_reachedPairs]
  constructor
  · intro tells a isA b isB reached registrars owners texts
    obtain ⟨path, isPath⟩ := reached
    obtain ⟨first, isFirst, shape, ordinal⟩ := @exists_first_route text index a isA
    obtain ⟨second, isSecond, shape', ordinal'⟩ := @exists_first_route text index b isB
    obtain ⟨registrar₁, owner₁, method₁, routePath₁⟩ := RouteRecord.shape_eq_iff.mp shape
    obtain ⟨registrar₂, owner₂, method₂, routePath₂⟩ := RouteRecord.shape_eq_iff.mp shape'
    have reached₁ : Reached index appId (path, first) := by
      refine ⟨?_, isFirst⟩
      rw [registrar₁]
      exact isPath
    have reached₂ : Reached index appId (path, second) := by
      refine ⟨?_, isSecond⟩
      rw [registrar₂, ← registrars]
      exact isPath
    have joined : String.intercalate "\x1f"
          ((registrationAt text index appId (path, first)).key text index) =
        String.intercalate "\x1f"
          ((registrationAt text index appId (path, second)).key text index) := by
      rw [joinedKey admitted reached₁, joinedKey admitted reached₂]
      dsimp only
      rw [registrar₁, registrar₂, registrars, owner₁, owner₂, owners, method₁, method₂, routePath₁,
        routePath₂, texts, ordinal, ordinal']
    have same : reachedId text index appId (path, first) =
        reachedId text index appId (path, second) :=
      congrArg (fun joined => "sgroute" ++ "_" ++ text.digest joined) joined
    have entries := (Prod.mk.inj (tells _ (mem_reachedPairs.mpr reached₁) _
      (mem_reachedPairs.mpr reached₂) same)).2
    rw [← method₁, ← method₂, entries]
  · intro unconfused pair isPair other isOther same
    rw [mem_reachedPairs] at isPair isOther
    obtain ⟨sharedPath, registrars, owners, texts, ordinals⟩ := eq_of_reachedId standard admitted
      apart isInstance isPair isOther same
    have isRoute := List.fst_mem_of_mem_zipIdx isPair.2
    have isRoute' := List.fst_mem_of_mem_zipIdx isOther.2
    have methods := unconfused _ isRoute _ isRoute' ⟨_, isPair.1⟩ registrars owners texts
    have routePaths : pair.2.1.routePath = other.2.1.routePath := by
      rw [methods] at texts
      exact String.append_right_inj _ |>.mp texts
    have shapes : pair.2.1.shape = other.2.1.shape :=
      RouteRecord.shape_eq_iff.mpr ⟨registrars, owners, methods, routePaths⟩
    unfold routeOrdinal at ordinals
    rw [← shapes] at ordinals
    refine Prod.ext sharedPath (eq_of_idxOf isPair.2 isOther.2 ?_ ordinals)
    exact (KeyOrder.mem_sortedByKey _ _ _).mpr
      (List.mem_filter.mpr ⟨isPair.2, decide_eq_true rfl⟩)


theorem unconfused_of_plain (plain : ∀ route ∈ index.routes, '\x1f' ∉ route.method.toList) :
    Unconfused index appId := by
  intro a isA b isB _ _ _ same
  have chars := congrArg String.toList same
  simp only [String.toList_append, List.append_assoc] at chars
  exact String.toList_inj.mp (Separated.first_inj (plain a isA) (plain b isB) chars).1

end

/-- The composition ends.  It is refused exactly where a method or an effective path is too long for
its record, and otherwise it has one registration for each path of includes and route at its end,
and reports the includes that are cut.  If digests do not collide, identities are distinct exactly
when no two routes read the same once the method and the path are joined. -/
theorem composition_exact (text : BuildText) (index : SourceIndexArtifact)
    {target : AppTargetRecord} (standard : text.Standard)
    (strips : ∀ s, Slashed s → Slashed (text.strip s))
    (admitted : AdmittedIndex text index) (selected : selectedTargets index = [target])
    (apart : DigestsApart text index target.frameworkInstanceId) :
    (∀ fuel, walkBound index ≤ fuel →
      walk text index target.frameworkInstanceId fuel (Mount.start target.frameworkInstanceId) =
        walkFrom text index target.frameworkInstanceId) ∧
    ((∃ result, composeRoutes text index = .ok result) ↔
      ∀ pair, Reached index target.frameworkInstanceId pair → WithinBounds index pair) ∧
    ∀ result, composeRoutes text index = .ok result →
      (∃ pairs : List PathRoute, pairs.Nodup ∧
        (∀ pair, pair ∈ pairs ↔ Reached index target.frameworkInstanceId pair) ∧
        result.routes.Perm (pairs.map fun pair =>
          (registrationAt text index target.frameworkInstanceId pair).route text index)) ∧
      (∀ diagnostic, diagnostic ∈ result.diagnostics ↔
        ∃ path here, Path (includeRoads index) target.frameworkInstanceId path here ∧
          ∃ entry ∈ (includeRoads index).links here,
            cutAt index target.frameworkInstanceId path entry = some diagnostic) ∧
      ((result.routes.map (·.registration.routeRegistrationId)).Nodup ↔
        Unconfused index target.frameworkInstanceId) := by
  have isTarget : target ∈ index.appTargets := by
    have listed : target ∈ selectedTargets index := by
      rw [selected]
      exact List.mem_singleton_self _
    exact List.mem_of_mem_filter listed
  have known := admitted.targets target isTarget
  refine ⟨?_, ?_, ?_⟩
  · intro fuel enough
    unfold walkBound at enough
    unfold walkFrom walkBound
    rw [walk_of_le known (by omega), walk_of_le known (Nat.le_succ _)]
  · simp only [composeRoutes_eq_ok admitted strips selected]
    exact ⟨fun ⟨_, fits, _⟩ => fits, fun fits => ⟨_, fits, rfl⟩⟩
  · intro result composed
    obtain ⟨-, rfl⟩ := (composeRoutes_eq_ok admitted strips selected).mp composed
    have routes : (composeEffectiveRoutes text index).routes.Perm
        ((reachedPairs index target.frameworkInstanceId).map fun pair =>
          (registrationAt text index target.frameworkInstanceId pair).route text index) := by
      refine (composeEffectiveRoutes_perm text index).trans ?_
      unfold effectiveRegistrations
      rw [selected]
      refine (walkRegistrations_perm.map _).trans ?_
      rw [List.map_map]
      exact List.Perm.refl _
    refine ⟨⟨_, nodup_reachedPairs, fun pair => mem_reachedPairs, routes⟩, ?_, ?_⟩
    · intro diagnostic
      have cuts := (@walk_perm text index target.frameworkInstanceId target.frameworkInstanceId []
        (walkBound index)).2
      unfold composeEffectiveRoutes
      rw [selected]
      dsimp only
      rw [KeyOrder.mem_sortedByKey]
      refine (cuts.mem_iff (a := diagnostic)).trans ?_
      rw [List.mem_flatMap]
      constructor
      · rintro ⟨⟨path, here⟩, isPath, isCut⟩
        obtain ⟨entry, leaves, cut⟩ := List.mem_filterMap.mp isCut
        exact ⟨path, here, mem_walkPaths.mp isPath, entry, leaves, cut⟩
      · rintro ⟨path, here, isPath, entry, leaves, cut⟩
        exact ⟨(path, here), mem_walkPaths.mpr isPath, List.mem_filterMap.mpr ⟨entry, leaves, cut⟩⟩
    · rw [← nodup_reachedIds standard admitted apart (admitted.instance_plain known),
        (routes.map _).nodup_iff, List.map_map]
      rfl

section Example

/-- An identity with the digest of a name. -/
def hexId (tag name : String) : String := tag ++ "_" ++ hexDigest name

theorem idOf_hexId (tag name : String) : IdOf tag (hexId tag name) :=
  ⟨hexDigest name, rfl, hexText_standard.digest_length name, hexText_standard.digest_alphanum name⟩

/-- The application that is served. -/
def loopTarget : AppTargetRecord :=
  ⟨"main:app", hexId "sgfw" "app", .configured, ⟨"main.py", 1, 0, 1, 0⟩⟩

/-- The include of the router at a prefix. -/
def loopInclude (parent stored : String) (line : Nat) : RouterIncludeRecord :=
  ⟨hexId "sgfw" parent, hexId "sgfw" "router", some stored, ⟨"main.py", line, 0, line, 0⟩⟩

/-- The route of the router. -/
def loopRoute : RouteRecord :=
  ⟨hexId "sgsym" "pay", hexId "sgfw" "router", "POST", "/pay", ⟨"main.py", 7, 0, 7, 0⟩⟩

/-- An application with a router that is included twice, and in itself. -/
def loopIndex (stored : String) : SourceIndexArtifact where
  projectId := "project"
  sourceIndexFingerprint := "fingerprint"
  symbols := [⟨hexId "sgsym" "pay", "file", "pay", .function, ⟨"main.py", 7, 0, 8, 0⟩⟩]
  callSites := []
  frameworkInstances :=
    [⟨hexId "sgfw" "app", "file", "app", .fastapiApp, some "", ⟨"main.py", 1, 0, 1, 0⟩⟩,
      ⟨hexId "sgfw" "router", "file", "router", .apiRouter, some stored, ⟨"main.py", 2, 0, 2, 0⟩⟩]
  appTargets := [loopTarget]
  routes := [loopRoute]
  routerIncludes :=
    [loopInclude "app" stored 3, loopInclude "app" "" 4, loopInclude "router" "" 5]
  completeness := .complete
  symbolsUnique := List.nodup_singleton _
  frameworksUnique := by
    have different : hexId "sgfw" "app" ≠ hexId "sgfw" "router" := by decide +kernel
    simpa using different
  callSitesKnown := by simp

theorem loopIndex_admitted {stored : String} (slashed : Slashed stored) :
    AdmittedIndex hexText (loopIndex stored) where
  instanceIds := by
    simp [loopIndex, idOf_hexId]
  instancePrefixes := by
    simp [loopIndex, StoredPrefix, slashed]
  targets := by
    simp [loopIndex, loopTarget]
  includeEnds := by
    simp [loopIndex, loopInclude]
  includePrefixes := by
    have strip : ∀ s, hexText.strip s = s := fun _ => rfl
    simp [loopIndex, loopInclude, StoredPrefix, slashed, strip]
  owners := by
    simp [loopIndex, loopRoute, idOf_hexId]
  registrars := by
    simp [loopIndex, loopRoute]
  methods := by
    have upper : ∀ s, hexText.upper (hexText.strip s) = s := fun _ => rfl
    simp [loopIndex, loopRoute, upper]
  routePaths := by
    have strip : ∀ s, hexText.strip s = s := fun _ => rfl
    have slashed : Slashed "/pay" := by decide
    have short : "/pay".length ≤ 2048 := by decide
    simp [loopIndex, loopRoute, strip, slashed, short]

/-- Every path of includes is met with the route of the router, and the includes that the router has
of itself are cut. -/
theorem loopIndex_composed :
    ∃ result, composeRoutes hexText (loopIndex "/v1") = .ok result ∧
      (result.routes.map (·.registration.routeRegistrationId)).Nodup := by
  have apart : DigestsApart hexText (loopIndex "/v1") loopTarget.frameworkInstanceId := by
    decide +kernel
  have fits : ∀ pair ∈ reachedPairs (loopIndex "/v1") loopTarget.frameworkInstanceId,
      pair.2.1.method.length ≤ 16 ∧ (composePath (pair.1.flatMap (prefixesOf (loopIndex "/v1")))
        pair.2.1.routePath).length ≤ 4096 := by
    decide +kernel
  have plain : ∀ route ∈ (loopIndex "/v1").routes, '\x1f' ∉ route.method.toList := by decide
  have selected : selectedTargets (loopIndex "/v1") = [loopTarget] := rfl
  obtain ⟨-, accepted, exact⟩ := composition_exact hexText (loopIndex "/v1") hexText_standard
    (fun _ slashed => slashed) (loopIndex_admitted (by decide)) selected apart
  obtain ⟨result, composed⟩ := accepted.mpr fun pair reached =>
    fits pair (mem_reachedPairs.mpr reached)
  exact ⟨result, composed, (exact result composed).2.2.mpr (unconfused_of_plain plain)⟩

/-- A slash and so many letters. -/
def lettersPrefix (n : Nat) : String := String.ofList ('/' :: List.replicate (n + 1) 'a')

theorem stripSlashes_lettersPrefix (n : Nat) :
    stripSlashes (lettersPrefix n) = lettersPrefix n := by
  unfold stripSlashes lettersPrefix
  rw [String.toList_ofList]
  refine congrArg String.ofList (List.rdropWhile_eq_self_iff.mpr fun nonempty => ?_)
  have last : ('/' :: List.replicate (n + 1) 'a').getLast nonempty = 'a' := by
    rw [List.getLast_cons (by simp [List.replicate_succ]), List.getLast_replicate]
  rw [last]
  decide

theorem slashed_lettersPrefix (n : Nat) : Slashed (lettersPrefix n) := by
  unfold Slashed lettersPrefix
  rw [String.toList_ofList]
  rfl

theorem length_lettersPrefix (n : Nat) : (lettersPrefix n).length = n + 2 := by
  rw [lettersPrefix, String.length_ofList, List.length_cons, List.length_replicate]

/-- A stored prefix of the greatest length. -/
def longPrefix : String := lettersPrefix 2046

/-- The first include of the application, and the route of the router. -/
def longPair : PathRoute := ([(loopInclude "app" longPrefix 3, 0)], (loopRoute, 0))

/-- The one path to the route is too long for the record of its registration, and the composition
is refused. -/
theorem longPrefix_refused :
    selectedTargets (loopIndex longPrefix) = [loopTarget] ∧ longPrefix.length = 2048 ∧
      Reached (loopIndex longPrefix) loopTarget.frameworkInstanceId longPair ∧
      ∀ result, composeRoutes hexText (loopIndex longPrefix) ≠ .ok result := by
  have slashed : Slashed longPrefix := slashed_lettersPrefix 2046
  have size : longPrefix.length = 2048 := length_lettersPrefix 2046
  have apart : hexId "sgfw" "router" ≠ hexId "sgfw" "app" := by decide +kernel
  have found : frameworkInstance? (loopIndex longPrefix) (hexId "sgfw" "router") =
      some ⟨hexId "sgfw" "router", "file", "router", .apiRouter, some longPrefix,
        ⟨"main.py", 2, 0, 2, 0⟩⟩ := by
    unfold frameworkInstance? loopIndex
    rw [List.find?_cons_of_neg (by simpa using apart.symm), List.find?_cons_of_pos (by simp)]
  have leaves : (loopInclude "app" longPrefix 3, 0) ∈
      (includeRoads (loopIndex longPrefix)).links (hexId "sgfw" "app") := by
    simp [includeRoads, loopIndex, loopInclude]
  have isOpen : (includeRoads (loopIndex longPrefix)).isOpen (loopInclude "app" longPrefix 3, 0) =
      true := by
    simp only [includeRoads, loopInclude, found]
    rfl
  have fresh : (includeRoads (loopIndex longPrefix)).target (loopInclude "app" longPrefix 3, 0) ∉
      stops (includeRoads (loopIndex longPrefix)) (hexId "sgfw" "app") [] := by
    simpa [includeRoads, loopInclude, stops] using apart
  have reached : Reached (loopIndex longPrefix) loopTarget.frameworkInstanceId longPair :=
    ⟨Path.nil.snoc leaves isOpen fresh, List.mem_singleton_self _⟩
  refine ⟨rfl, size, reached, fun result composed => ?_⟩
  obtain ⟨fits, -⟩ := (composeRoutes_eq_ok (loopIndex_admitted slashed) (fun _ slashed => slashed)
    (rfl : selectedTargets (loopIndex longPrefix) = [loopTarget])).mp composed
  have bounded := (fits longPair reached).2
  have prefixes : longPair.1.flatMap (prefixesOf (loopIndex longPrefix)) =
      [longPrefix, longPrefix] := by
    simp only [longPair, List.flatMap_singleton, prefixesOf, loopInclude, found]
    rfl
  have whole : composePath [longPrefix, longPrefix] "/pay" =
      longPrefix ++ longPrefix ++ "/pay" := by
    have head : String.join ([longPrefix, longPrefix].map stripSlashes) =
        longPrefix ++ longPrefix := by
      simp [stripSlashes_lettersPrefix, longPrefix, String.join_cons]
    have notEmpty : longPrefix ++ longPrefix ≠ "" := by
      intro empty
      have lengths := congrArg String.length empty
      rw [String.length_append, size] at lengths
      exact absurd lengths (by decide)
    unfold composePath
    rw [head, if_neg notEmpty, if_neg (by decide)]
  rw [prefixes] at bounded
  have isPath : longPair.2.1.routePath = "/pay" := rfl
  rw [isPath, whole, String.length_append, String.length_append, size] at bounded
  exact absurd bounded (by decide)

end Example

end StateGuard
