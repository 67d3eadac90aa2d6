import Mathlib.Data.List.TakeWhile
import Mathlib.Algebra.Order.BigOperators.Group.List
import StateGuard.Discovery.FrameworkInstances

/-!
# Lookups that end

Within a module a lookup only goes back to earlier bindings, and the names it takes up in another
module are those that imports and bindings mention.  So the resolver returns exactly if no name that
it follows into a module leads back to itself (`resolves_iff`).
-/

namespace StateGuard

open Python Recursion

section

variable (text : BuildText) (modules : List ModuleAnalysis)

/-- The bindings of a module before a position. -/
def earlierBindings (moduleName : String) (position : Option Position) : List ModuleBinding :=
  (bindingsOf modules moduleName).filter (standsBefore position)

/-- How far a query can go back in its module; a query of an imported name can go back in any. -/
def lookupDepth : InstanceQuery → Nat
  | .activeLocal moduleName _ position _ => 2 * (earlierBindings modules moduleName position).length
  | .activeImported _ => 2 * (modules.map (·.bindings.length)).sum + 1
  | .reference moduleName _ position _ =>
    2 * (earlierBindings modules moduleName (some position)).length + 1

/-- The references of a module that are followed from a query. -/
def Mentioned (start : InstanceQuery) (moduleName reference : String) : Prop :=
  (∃ binding ∈ bindingsOf modules moduleName, binding.reference = some reference) ∨
    match start with
    | .activeLocal startModule name _ _ => moduleName = startModule ∧ reference = name
    | .reference startModule startReference _ _ =>
      moduleName = startModule ∧ reference = startReference
    | .activeImported _ => False

/-- What a query below another one may be. -/
def Arises (start : InstanceQuery) : InstanceQuery → Prop
  | .activeLocal moduleName name _ _ =>
    dotted name = false ∨ Mentioned modules start moduleName name
  | .activeImported _ => True
  | .reference moduleName reference _ _ => Mentioned modules start moduleName reference

/-- The canonical names that are followed into another module. -/
def importedNames (start : InstanceQuery) : Set String :=
  {canonical | (∃ moduleName reference, Mentioned modules start moduleName reference ∧
      canonical = canonicalIn modules moduleName reference) ∨
    ∃ raw ∈ modules.flatMap (·.imports), ∃ target, aliasTarget modules raw = some target ∧
      canonical = target.2}

variable {text modules}

theorem mem_bindings_of_bindingsOf {moduleName : String} {binding : ModuleBinding}
    (listed : binding ∈ bindingsOf modules moduleName) :
    ∃ module ∈ modules, module.moduleName = moduleName ∧ binding ∈ module.bindings := by
  rw [bindingsOf] at listed
  split at listed
  next module found =>
    have isModule : module.moduleName = moduleName := by simpa using List.find?_some found
    exact ⟨module, List.mem_reverse.mp (List.mem_of_find?_eq_some found), isModule,
      (KeyOrder.mem_sortedByKey _ _ _).mp listed⟩
  next => exact absurd listed List.not_mem_nil

theorem length_bindingsOf_le (moduleName : String) :
    (bindingsOf modules moduleName).length ≤ (modules.map (·.bindings.length)).sum := by
  rw [bindingsOf]
  split
  next module found =>
    rw [(KeyOrder.sortedByKey_perm _ _).length_eq]
    have listed : module ∈ modules := List.mem_reverse.mp (List.mem_of_find?_eq_some found)
    exact List.single_le_sum (fun _ _ => Nat.zero_le _) _
      (List.mem_map_of_mem (f := fun module => module.bindings.length) listed)
  next => exact Nat.zero_le _

theorem latestBinding_mem {moduleName name : String} {position : Option Position}
    {binding : ModuleBinding}
    (found : latestBinding modules moduleName name position = some binding) :
    binding ∈ bindingsOf modules moduleName ∧ standsBefore position binding = true := by
  have listed := List.mem_of_getLast? found
  obtain ⟨isBinding, isBefore⟩ := List.mem_filter.mp listed
  exact ⟨isBinding, (of_decide_eq_true isBefore).2⟩

/-- Before the latest binding there are fewer bindings. -/
theorem earlierBindings_lt {moduleName name : String} {position : Option Position}
    {binding : ModuleBinding}
    (found : latestBinding modules moduleName name position = some binding) :
    (earlierBindings modules moduleName (some binding.position)).length <
      (earlierBindings modules moduleName position).length := by
  obtain ⟨listed, isBefore⟩ := latestBinding_mem found
  have within : earlierBindings modules moduleName (some binding.position) =
      (earlierBindings modules moduleName position).filter
        (standsBefore (some binding.position)) := by
    rw [earlierBindings, earlierBindings, List.filter_filter]
    refine List.filter_congr fun other _ => ?_
    cases position with
    | none => simp [standsBefore]
    | some position =>
      simp only [standsBefore, Option.all_some] at isBefore ⊢
      rw [Bool.eq_iff_iff, Bool.and_eq_true]
      refine ⟨fun earlier => ⟨earlier, ?_⟩, And.left⟩
      exact decide_eq_true (lt_trans (of_decide_eq_true earlier)
        (of_decide_eq_true isBefore))
  rw [within, List.length_filter_lt_length_iff_exists]
  refine ⟨binding, List.mem_filter.mpr ⟨listed, isBefore⟩, ?_⟩
  simp only [standsBefore, Option.all_some, decide_eq_true_eq]
  exact lt_irrefl _

/-- A name without a dot is imported under it, or canonical as it is. -/
theorem canonicalIn_of_undotted {moduleName name : String} (plain : dotted name = false) :
    canonicalIn modules moduleName name = name ∨
      ∃ raw ∈ modules.flatMap (·.imports), ∃ target, aliasTarget modules raw = some target ∧
        canonicalIn modules moduleName name = target.2 := by
  have imported : ∀ (scopes : List ScopeInfo) (canonical : String),
      importAlong modules (beforeFirst '.' name) scopes = some canonical →
      ∃ raw ∈ modules.flatMap (·.imports), ∃ target, aliasTarget modules raw = some target ∧
        canonical = target.2 := by
    intro scopes canonical found
    induction scopes with
    | nil => cases found
    | cons scope rest ih =>
      rw [importAlong] at found
      split at found
      next here =>
        cases found
        rw [alias?] at here
        split at here
        next target single =>
          cases here
          have listed : target ∈ [target] := List.mem_singleton_self _
          rw [← single] at listed
          obtain ⟨raw, isImport, isTarget⟩ := List.mem_filterMap.mp (List.mem_of_mem_filter listed)
          exact ⟨raw, List.mem_of_mem_filter isImport, target, isTarget, rfl⟩
        next => cases here
      next =>
        split at found
        next => cases found
        next => exact ih found
  rw [canonicalIn, canonicalizeReference]
  split
  next => exact .inl rfl
  next =>
    split
    next canonical found =>
      rw [withTail, plain]
      exact .inr (imported _ _ found)
    next => exact .inl rfl

theorem dotted_beforeFirst (reference : String) : dotted (beforeFirst '.' reference) = false := by
  rw [dotted, beforeFirst, String.toList_ofList, List.contains_eq_mem, decide_eq_false_iff_not]
  intro listed
  simpa using List.mem_takeWhile_imp listed

/-- A mentioned reference gives an imported name. -/
theorem canonicalIn_mem_of_mentioned {start : InstanceQuery} {moduleName reference : String}
    (mentioned : Mentioned modules start moduleName reference) :
    canonicalIn modules moduleName reference ∈ importedNames modules start :=
  .inl ⟨moduleName, reference, mentioned, rfl⟩

/-- A call goes back in the module, or follows an imported name into one. -/
theorem calls_falls {start query query' : InstanceQuery} (arises : Arises modules start query)
    (calls : Calls (instancePlan text modules) query query') :
    Arises modules start query' ∧
      (query' ∈ InstanceQuery.activeImported '' importedNames modules start ∨
        lookupDepth modules query' < lookupDepth modules query) := by
  rw [Calls] at calls
  cases query with
  | activeLocal moduleName name position seen =>
    rw [instancePlan] at calls
    split at calls
    next => cases calls
    next =>
      split at calls
      next unbound =>
        dsimp only at calls
        split at calls
        next differs =>
          cases calls with
          | now =>
            refine ⟨trivial, .inl ⟨_, ?_, rfl⟩⟩
            rcases arises with plain | mentioned
            · exact .inr ((canonicalIn_of_undotted plain).resolve_left differs)
            · exact canonicalIn_mem_of_mentioned mentioned
          | later _ rest => cases rest
        next => cases calls
      next binding found =>
        split at calls
        next => cases calls
        next =>
          split at calls
          next => cases calls
          next reference bound =>
            cases calls with
            | now =>
              have lower := earlierBindings_lt found
              refine ⟨.inl ⟨binding, (latestBinding_mem found).1, bound⟩, .inr ?_⟩
              rw [lookupDepth, lookupDepth]
              omega
            | later _ rest => cases rest
  | activeImported qualified =>
    rw [instancePlan] at calls
    split at calls
    next => cases calls
    next moduleName suffix named =>
      cases calls with
      | now =>
        have plain : dotted suffix = false := by
          rw [nameInModule] at named
          dsimp only at named
          split at named
          next => cases named
          next =>
            split at named
            next => cases named
            next single =>
              cases named
              exact Bool.eq_false_iff.mpr fun isDotted => single (.inr isDotted)
        have bound := @length_bindingsOf_le modules moduleName
        have filtered := List.length_filter_le (standsBefore none) (bindingsOf modules moduleName)
        refine ⟨.inl plain, .inr ?_⟩
        rw [lookupDepth, lookupDepth, earlierBindings]
        omega
      | later _ rest => cases rest
  | reference moduleName reference position seen =>
    rw [instancePlan] at calls
    cases calls with
    | now =>
      refine ⟨.inl (dotted_beforeFirst reference), .inr ?_⟩
      rw [lookupDepth, lookupDepth]
      omega
    | @later _ _ _ _ value _ rest =>
      cases value with
      | some found => cases rest
      | none =>
        cases rest with
        | now => exact ⟨trivial, .inl ⟨_, canonicalIn_mem_of_mentioned arises, rfl⟩⟩
        | later _ rest => cases rest

theorem arises_start (start : InstanceQuery) : Arises modules start start := by
  cases start with
  | activeLocal => exact .inr (.inr ⟨rfl, rfl⟩)
  | activeImported => trivial
  | reference => exact .inr ⟨rfl, rfl⟩

theorem arises_of_followed {start query : InstanceQuery}
    (followed : Followed text modules start query) : Arises modules start query := by
  induction followed with
  | refl => exact arises_start start
  | tail _ calls ih => exact (calls_falls ih calls).1

/-- Finitely many names are mentioned by bindings and imports. -/
theorem finite_importedNames (start : InstanceQuery) : (importedNames modules start).Finite := by
  have bound : ∀ canonical ∈ importedNames modules start,
      canonical ∈ (modules.flatMap fun module => module.bindings.filterMap fun binding =>
          binding.reference.map (canonicalIn modules module.moduleName)) ++
        (match start with
        | .activeLocal moduleName name _ _ => [canonicalIn modules moduleName name]
        | .reference moduleName reference _ _ => [canonicalIn modules moduleName reference]
        | .activeImported _ => []) ++
        (modules.flatMap (·.imports)).filterMap fun raw => (aliasTarget modules raw).map (·.2) := by
    rintro canonical (⟨moduleName, reference, mentioned, rfl⟩ | ⟨raw, listed, target, named, rfl⟩)
    · refine List.mem_append_left _ ?_
      rcases mentioned with ⟨binding, listed, bound⟩ | atStart
      · obtain ⟨module, isModule, rfl, isBinding⟩ := mem_bindings_of_bindingsOf listed
        refine List.mem_append_left _ (List.mem_flatMap.mpr ⟨module, isModule, ?_⟩)
        exact List.mem_filterMap.mpr ⟨binding, isBinding, by rw [bound]; rfl⟩
      · refine List.mem_append_right _ ?_
        cases start with
        | activeLocal =>
          obtain ⟨rfl, rfl⟩ := atStart
          exact List.mem_singleton_self _
        | reference =>
          obtain ⟨rfl, rfl⟩ := atStart
          exact List.mem_singleton_self _
        | activeImported => exact atStart.elim
    · exact List.mem_append_right _ (List.mem_filterMap.mpr ⟨raw, listed, by rw [named]; rfl⟩)
  exact (List.finite_toSet _).subset bound

end

/-- The resolver returns exactly if no imported name that is followed from the query leads back to
itself. -/
theorem resolves_iff (text : BuildText) (modules : List ModuleAnalysis) (query : InstanceQuery) :
    Resolves text modules query ↔
      ∀ qualified, Followed text modules query (.activeImported qualified) →
        ¬ ComesBack text modules (.activeImported qualified) := by
  have falls : ∀ q q', Followed text modules query q → Calls (instancePlan text modules) q q' →
      q' ∈ InstanceQuery.activeImported '' importedNames modules query ∨
        lookupDepth modules q' < lookupDepth modules q :=
    fun _ _ followed calls => (calls_falls (arises_of_followed followed) calls).2
  have finite := (@finite_importedNames modules query).image InstanceQuery.activeImported
  constructor
  · intro resolves qualified followed comesBack
    exact not_ends_of_returns comesBack (ends_of_reflTransGen resolves followed)
  · intro noReturn
    by_contra endless
    obtain ⟨q, ⟨qualified, -, rfl⟩, followed, returns⟩ :=
      exists_returns _ finite (lookupDepth modules) falls endless
    exact noReturn qualified followed returns

/-! ### Two modules that import a name from one another -/

/-- The symbol of a module of one file. -/
def moduleSymbol (moduleName : String) : SymbolRecord :=
  { symbolId := moduleName
    sourceFileId := moduleName
    qualifiedName := moduleName
    kind := .module
    sourceLocation := ⟨moduleName ++ ".py", 1, 0, 1, 0⟩ }

/-- A module that consists of `from source import app`. -/
def importingModule (moduleName source : String) : ModuleAnalysis where
  moduleName := moduleName
  fileId := moduleName
  path := moduleName ++ ".py"
  symbols := [moduleSymbol moduleName]
  scopes := Dict.empty.set moduleName
    { symbol := moduleSymbol moduleName
      parentSymbolId := none
      enclosingClassSymbolId := none
      firstParameter := none
      definitions := Dict.empty
      writes := ["app"] }
  imports := [⟨moduleName, source, 0, some "app", some "app"⟩]
  calls := []
  bindings := []
  frameworkAssignments := []

/-- The modules `main` and `routes`. -/
def importCycle : List ModuleAnalysis :=
  [importingModule "main" "routes", importingModule "routes" "main"]

/-- A route that is registered on `app` in `routes` is never resolved. -/
theorem importCycle_endless :
    ∃ modules query, ∀ text : BuildText, ¬ Resolves text modules query := by
  refine ⟨importCycle, .reference "routes" "app" (toLex (3, 1)) [], fun text resolves => ?_⟩
  have atRoutes : canonicalIn importCycle "routes" "app" = "main.app" := by decide +kernel
  have atMain : canonicalIn importCycle "main" "app" = "routes.app" := by decide +kernel
  have unbound : ∀ moduleName ∈ ["main", "routes"],
      latestBinding importCycle moduleName "app" none = none := by decide +kernel
  have inMain : nameInModule importCycle
      (fun moduleName => startsWith (moduleName ++ ".") "main.app") "main.app" =
        some ("main", "app") := by decide +kernel
  have inRoutes : nameInModule importCycle
      (fun moduleName => startsWith (moduleName ++ ".") "routes.app") "routes.app" =
        some ("routes", "app") := by decide +kernel
  -- From `main.app` on the lookup of an imported name follows the import that is found for it.
  have follows : ∀ qualified moduleName, moduleName ∈ ["main", "routes"] →
      nameInModule importCycle (fun moduleName => startsWith (moduleName ++ ".") qualified)
        qualified = some (moduleName, "app") →
      canonicalIn importCycle moduleName "app" ≠ "app" →
      Relation.TransGen (Calls (instancePlan text importCycle)) (.activeImported qualified)
        (.activeImported (canonicalIn importCycle moduleName "app")) := by
    intro qualified moduleName isModule named differs
    have first : Calls (instancePlan text importCycle) (.activeImported qualified)
        (.activeLocal moduleName "app" none []) := by
      rw [Calls, instancePlan, named]
      exact .now
    have second : Calls (instancePlan text importCycle) (.activeLocal moduleName "app" none [])
        (.activeImported (canonicalIn importCycle moduleName "app")) := by
      rw [Calls, instancePlan, if_neg List.not_mem_nil, unbound moduleName isModule]
      dsimp only
      rw [if_pos differs]
      exact .now
    exact .tail (.single first) second
  have toRoutes := follows "main.app" "main" (by decide) inMain (by rw [atMain]; decide)
  have toMain := follows "routes.app" "routes" (by decide) inRoutes (by rw [atRoutes]; decide)
  rw [atMain] at toRoutes
  rw [atRoutes] at toMain
  have first : Calls (instancePlan text importCycle) (.reference "routes" "app" (toLex (3, 1)) [])
      (.activeLocal "routes" "app" (some (toLex (3, 1))) []) := by
    have head : beforeFirst '.' "app" = "app" := by decide +kernel
    rw [Calls, instancePlan, head]
    exact .now
  have second : Calls (instancePlan text importCycle)
      (.activeLocal "routes" "app" (some (toLex (3, 1))) []) (.activeImported "main.app") := by
    have none : latestBinding importCycle "routes" "app" (some (toLex (3, 1))) = none := by
      decide +kernel
    rw [Calls, instancePlan, if_neg List.not_mem_nil, none]
    dsimp only
    rw [atRoutes, if_pos (by decide)]
    exact .now
  exact not_ends_of_returns (toRoutes.trans toMain)
    (ends_of_reflTransGen resolves ((Relation.ReflTransGen.single first).tail second))

end StateGuard
