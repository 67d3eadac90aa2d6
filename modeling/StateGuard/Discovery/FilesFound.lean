import StateGuard.Discovery.Files

/-!
# The files that the discovery finds

What the walk appends to its lists is told node by node (`Finds`): the discovery records the
selected files of the tree and a diagnostic for each thing that it passes over, and nothing else
(`discovered`); it fails just where something that it has to record has no recordable path or text
(`discovers_iff`).
-/

namespace StateGuard

namespace ProjectFiles

open Python KeyOrder

/-! ## Names in a path -/

theorem splitSlash_asPosix {names : List Name} (nonempty : names ≠ []) :
    splitSlash (asPosix names) = names.map Name.text := by
  refine List.splitOn_intercalate slash (fun text isText => ?_) (by simpa using nonempty)
  obtain ⟨name, -, rfl⟩ := List.mem_map.mp isText
  exact name.plain

/-- The last name of a path is behind its last slash. -/
theorem asPosix_append (directory : List Name) (name : Name) :
    ∃ front, asPosix (directory ++ [name]) = front ++ name.text ∧
      (front = [] ∨ ∃ above, front = above ++ [slash]) := by
  induction directory with
  | nil => exact ⟨[], by simp [asPosix], .inl rfl⟩
  | cons first rest ih =>
    obtain ⟨front, split, ends⟩ := ih
    refine ⟨first.text ++ [slash] ++ front, ?_, .inr ?_⟩
    · have more : (rest ++ [name]).map Name.text ≠ [] := by simp
      rw [List.cons_append, asPosix, List.map_cons, List.intercalate_cons_of_ne_nil more]
      rw [asPosix] at split
      rw [split, List.append_assoc, List.append_assoc, List.append_assoc]
    · rcases ends with rfl | ⟨above, rfl⟩
      · exact ⟨first.text, by simp⟩
      · exact ⟨first.text ++ [slash] ++ above, by simp⟩

theorem endsWithPy_iff {text : Str} : endsWithPy text = true ↔ Str.ofString ".py" <:+ text :=
  List.isSuffixOf_iff_suffix

/-- A path ends with `.py` where its last name does. -/
theorem endsWithPy_asPosix (directory : List Name) (name : Name) :
    endsWithPy (asPosix (directory ++ [name])) = endsWithPy name.text := by
  obtain ⟨front, split, ends⟩ := asPosix_append directory name
  rw [Bool.eq_iff_iff, endsWithPy_iff, endsWithPy_iff, split]
  refine ⟨fun isEnd => ?_, fun isEnd => isEnd.trans (List.suffix_append ..)⟩
  rcases ends with rfl | ⟨above, rfl⟩
  · exact isEnd
  · rw [List.append_assoc, List.singleton_append] at isEnd
    rcases List.suffix_or_suffix_of_suffix isEnd (List.suffix_append ..) with inner | outer
    · rcases List.suffix_cons_iff.mp inner with same | inner
      · have isSlash := List.mem_of_mem_head? (same ▸ List.head?_cons (a := slash))
        exact absurd isSlash (by decide)
      · exact inner
    · exact absurd (outer.subset List.mem_cons_self) (by decide)

/-- No name of a path is excluded in every project. -/
def Clean (names : List Name) : Prop :=
  ∀ name ∈ names, name.text ∉ mandatoryExcludedComponents

theorem isMandatoryExcluded_iff {names : List Name} (nonempty : names ≠ []) :
    isMandatoryExcluded (asPosix names) = true ↔ ¬ Clean names := by
  rw [isMandatoryExcluded, splitSlash_asPosix nonempty]
  simp [Clean, List.any_eq_true]

/-- A glob matches a path: its parts stand for the names. -/
def MatchedBy (names : List Name) (pattern : Str) : Prop :=
  Glob.Matches isDeep fnmatchcase (names.map Name.text) (splitSlash pattern)

theorem matchesGlob_iff {names : List Name} {pattern : Str} (nonempty : names ≠ []) :
    matchesGlob (asPosix names) pattern = true ↔ MatchedBy names pattern := by
  rw [matchesGlob, splitSlash_asPosix nonempty, Glob.matchSegments_iff, MatchedBy]

/-- A glob of the exclusions matches a path. -/
def Excluded (config : Config) (names : List Name) : Prop :=
  ∃ pattern ∈ config.excludeGlobs, MatchedBy names pattern

/-- A path of a Python file that the configuration selects. -/
structure Selected (config : Config) (names : List Name) : Prop where
  python : ∃ name ∈ names.getLast?, endsWithPy name.text = true
  clean : Clean names
  included : ∃ pattern ∈ config.includeGlobs, MatchedBy names pattern
  kept : ¬ Excluded config names

theorem excludes_iff {config : Config} {names : List Name} (nonempty : names ≠ []) :
    config.excludes (asPosix names) = true ↔ Excluded config names := by
  simp only [Config.excludes, List.any_eq_true, matchesGlob_iff nonempty, Excluded]

theorem selected_iff {config : Config} {directory : List Name} {name : Name} :
    config.selected (asPosix (directory ++ [name])) = true ↔
      Selected config (directory ++ [name]) := by
  have nonempty : directory ++ [name] ≠ [] := by simp
  have excluded := isMandatoryExcluded_iff nonempty
  have dropped : config.excludes (asPosix (directory ++ [name])) = true ↔
      Excluded config (directory ++ [name]) := excludes_iff nonempty
  rw [Config.selected, endsWithPy_asPosix]
  constructor
  · intro taken
    split at taken
    next => cases taken
    next passes =>
      simp only [Bool.or_eq_true, Bool.not_eq_true', not_or, Bool.not_eq_false, excluded,
        not_not] at passes
      simp only [Bool.and_eq_true, List.any_eq_true, matchesGlob_iff nonempty, Bool.not_eq_true',
        ← Bool.not_eq_true, dropped] at taken
      exact ⟨⟨name, by simp, passes.1⟩, passes.2, taken.1, taken.2⟩
  · rintro ⟨⟨last, isLast, python⟩, clean, included, kept⟩
    have same : name = last := by simpa using isLast
    subst same
    rw [if_neg (by simp [python, excluded, clean])]
    simp only [Bool.and_eq_true, List.any_eq_true, matchesGlob_iff nonempty, Bool.not_eq_true',
      ← Bool.not_eq_true, dropped]
    exact ⟨included, kept⟩

/-! ## What is found at a node -/

/-- A node of a tree, at the names that lead to it. -/
inductive At (tree : Node) : List Name → Node → Prop
  | here : At tree [] tree
  | entry {names : List Name} {entries : List (Name × Node)} {name : Name} {node : Node} :
    At tree names (.directory entries) → (name, node) ∈ entries → At tree (names ++ [name]) node

section Found

variable (tools : Tools) (config : Config) (root : List Name)

/-- What the discovery appends for a node that it records under a path. -/
inductive Finds (names : List Name) (path : Str) : Node → Finding → Prop
  | unlistable : Clean names →
    Finds names path .unlistable (.diagnostic ⟨.unreadableDirectory, path⟩)
  | link : Clean names →
    (∃ name ∈ names.getLast?, endsWithPy name.text = true) ∨ ¬ Excluded config names →
    Finds names path .link (.diagnostic ⟨.symlinkSkipped, path⟩)
  | unreadable : Selected config names →
    Finds names path (.file none) (.diagnostic ⟨.unreadableFile, path⟩)
  | undecodable {bytes : List UInt8} {failure : DecodeError} : Selected config names →
    tools.decodePython bytes = .error failure →
    Finds names path (.file (some bytes)) (.diagnostic ⟨.invalidSourceEncoding, path⟩)
  | snapshot {bytes : List UInt8} : Selected config names →
    Finds names path (.file (some bytes)) (.snapshot
      ⟨sourceFileRecord tools config path bytes, asPosix names,
        (tools.decodePython bytes).toOption⟩)

/-- A finding is made at a node below the root of a tree. -/
def TreeFinds (tree : Node) (finding : Finding) : Prop :=
  ∃ names node path, At tree names node ∧ names ≠ [] ∧
    recordedPath (asPosix (root ++ names)) = some path ∧ Finds tools config names path node finding

/-- What is found at a node can be recorded. -/
structure Recordable (names : List Name) (node : Node) : Prop where
  path {path : Str} {finding : Finding} : Finds tools config names path node finding →
    ∃ recorded, recordedPath (asPosix (root ++ names)) = some recorded
  text {bytes : List UInt8} : node = .file (some bytes) → Selected config names →
    tools.decodePython bytes ≠ .error .other

variable {tools config root}

theorem Finds.clean {names : List Name} {path : Str} {node : Node} {finding : Finding}
    (finds : Finds tools config names path node finding) : Clean names := by
  cases finds with
  | unlistable clean => exact clean
  | link clean _ => exact clean
  | unreadable selected => exact selected.clean
  | undecodable selected _ => exact selected.clean
  | snapshot selected => exact selected.clean

/-- An attempt appends what there is to find at a node, or fails where that cannot be recorded. -/
def Appends (tools : Tools) (config : Config) (root names : List Name) (node : Node)
    (attempt : Except DiscoveryFailure (List Finding)) : Prop :=
  (∃ found, attempt = .ok found ∧ Recordable tools config root names node ∧
    ∀ finding, finding ∈ found ↔ ∃ path, recordedPath (asPosix (root ++ names)) = some path ∧
      Finds tools config names path node finding) ∨
  (∃ failure, attempt = .error failure) ∧ ¬ Recordable tools config root names node

theorem Appends.ok_iff {names : List Name} {node : Node}
    {attempt : Except DiscoveryFailure (List Finding)}
    (appends : Appends tools config root names node attempt) :
    (∃ found, attempt = .ok found) ↔ Recordable tools config root names node := by
  rcases appends with ⟨found, rfl, recordable, -⟩ | ⟨⟨failure, rfl⟩, unrecordable⟩
  · exact ⟨fun _ => recordable, fun _ => ⟨found, rfl⟩⟩
  · refine ⟨fun ends => ?_, fun recordable => absurd recordable unrecordable⟩
    obtain ⟨_, same⟩ := ends
    cases same

theorem Appends.mem_iff {names : List Name} {node : Node} {found : List Finding}
    (appends : Appends tools config root names node (.ok found)) {finding : Finding} :
    finding ∈ found ↔ ∃ path, recordedPath (asPosix (root ++ names)) = some path ∧
      Finds tools config names path node finding := by
  rcases appends with ⟨found', same, -, exactly⟩ | ⟨⟨failure, same⟩, -⟩
  · cases same
    exact exactly finding
  · cases same

theorem appends_nothing {names : List Name} {node : Node}
    (nothing : ∀ path finding, ¬ Finds tools config names path node finding) :
    Appends tools config root names node (.ok []) := by
  refine .inl ⟨[], rfl, ⟨fun finds => absurd finds (nothing _ _), ?_⟩, fun finding => ?_⟩
  · rintro bytes rfl selected
    exact absurd (.snapshot selected) (nothing [] _)
  · simp [nothing]

theorem appends_diagnose {names : List Name} {node : Node} {code : AnalysisDiagnosticCode}
    (only : ∀ path finding, Finds tools config names path node finding ↔
      finding = .diagnostic ⟨code, path⟩) (plain : ∀ bytes, node ≠ .file (some bytes)) :
    Appends tools config root names node (diagnose root code names) := by
  rw [diagnose]
  split
  next unrecordable =>
    refine .inr ⟨⟨_, rfl⟩, fun recordable => ?_⟩
    obtain ⟨path, recorded⟩ := recordable.path ((only [] _).mpr rfl)
    rw [unrecordable] at recorded
    cases recorded
  next path recorded =>
    refine .inl ⟨_, rfl, ⟨fun _ => ⟨path, recorded⟩, fun same => absurd same (plain _)⟩, ?_⟩
    simp [recorded, only]

theorem appends_snapshotFile {names : List Name} {bytes : List UInt8}
    (selected : Selected config names) :
    Appends tools config root names (.file (some bytes))
      (snapshotFile tools config root names bytes) := by
  have finds : ∀ path finding, Finds tools config names path (.file (some bytes)) finding ↔
      (∃ failure, tools.decodePython bytes = .error failure ∧
        finding = .diagnostic ⟨.invalidSourceEncoding, path⟩) ∨
      finding = .snapshot ⟨sourceFileRecord tools config path bytes, asPosix names,
        (tools.decodePython bytes).toOption⟩ := by
    intro path finding
    constructor
    · intro finds
      cases finds with
      | undecodable _ failed => exact .inl ⟨_, failed, rfl⟩
      | snapshot _ => exact .inr rfl
    · rintro (⟨failure, failed, rfl⟩ | rfl)
      · exact .undecodable selected failed
      · exact .snapshot selected
  rw [snapshotFile]
  split
  next unrecordable =>
    refine .inr ⟨⟨_, rfl⟩, fun recordable => ?_⟩
    obtain ⟨path, recorded⟩ := recordable.path ((finds [] _).mpr (.inr rfl))
    rw [unrecordable] at recorded
    cases recorded
  next path recorded =>
    split
    next text decoded =>
      refine .inl ⟨_, rfl, ⟨fun _ => ⟨path, recorded⟩, fun same _ => ?_⟩, ?_⟩
      · cases same
        simp [decoded]
      · simp [recorded, finds, decoded, Except.toOption]
    next decoded => exact .inr ⟨⟨_, rfl⟩, fun recordable => recordable.text rfl selected decoded⟩
    next failure handled decoded =>
      refine .inl ⟨_, rfl, ⟨fun _ => ⟨path, recorded⟩, fun same _ => ?_⟩, ?_⟩
      · cases same
        simpa [decoded] using handled
      · simp [recorded, finds, decoded, Except.toOption]

/-- What the walk does at an entry that it does not have to list. -/
theorem appends_entryFindings (directory : List Name) (name : Name) {node : Node}
    (listed : node ≠ .unlistable) :
    Appends tools config root (directory ++ [name]) node
      (entryFindings tools config root directory (name, node)) := by
  have nonempty : directory ++ [name] ≠ [] := by simp
  rw [entryFindings]
  split
  next dirty =>
    exact appends_nothing fun _ _ finds =>
      (isMandatoryExcluded_iff nonempty).mp dirty finds.clean
  next passes =>
    rw [isMandatoryExcluded_iff nonempty, not_not] at passes
    cases node with
    | unlistable => exact absurd rfl listed
    | directory entries => exact appends_nothing fun _ _ finds => by cases finds
    | other => exact appends_nothing fun _ _ finds => by cases finds
    | link =>
      have taken : (endsWithPy name.text || !config.excludes (asPosix (directory ++ [name]))) =
          true ↔ (∃ name' ∈ (directory ++ [name]).getLast?, endsWithPy name'.text = true) ∨
            ¬ Excluded config (directory ++ [name]) := by
        simp [← excludes_iff nonempty]
      dsimp only
      split
      next noted =>
        refine appends_diagnose (fun path finding => ⟨fun finds => by cases finds; rfl, ?_⟩)
          fun _ same => by cases same
        rintro rfl
        exact .link passes (taken.mp noted)
      next quiet =>
        refine appends_nothing fun _ _ finds => ?_
        cases finds with
        | link _ noted => exact quiet (taken.mpr noted)
    | file bytes? =>
      dsimp only
      split
      next dropped =>
        have unselected : ¬ Selected config (directory ++ [name]) := by
          simpa [← selected_iff] using dropped
        refine appends_nothing fun _ _ finds => ?_
        cases finds with
        | unreadable selected => exact unselected selected
        | undecodable selected _ => exact unselected selected
        | snapshot selected => exact unselected selected
      next taken =>
        have selected : Selected config (directory ++ [name]) := by
          simpa [← selected_iff] using taken
        cases bytes? with
        | none =>
          refine appends_diagnose (fun path finding => ⟨fun finds => by cases finds; rfl, ?_⟩)
            fun _ same => by cases same
          rintro rfl
          exact .unreadable selected
        | some bytes => exact appends_snapshotFile selected

/-- What the walk does at a directory that cannot be listed. -/
theorem appends_unlistable {names : List Name} (clean : Clean names) :
    Appends tools config root names .unlistable (diagnose root .unreadableDirectory names) := by
  refine appends_diagnose (fun path finding => ⟨fun finds => by cases finds; rfl, ?_⟩)
    fun _ same => by cases same
  rintro rfl
  exact .unlistable clean

/-! ## The walk -/

theorem exists_mapM {α β ε : Type} {f : α → Except ε β} {items : List α} :
    (∃ results, items.mapM f = .ok results) ↔ ∀ item ∈ items, ∃ result, f item = .ok result := by
  induction items with
  | nil => simp
  | cons item rest ih =>
    rw [List.forall_mem_cons, ← ih]
    simp only [List.mapM_cons, Checks.bind_eq_ok, Checks.pure_eq_ok]
    constructor
    · rintro ⟨_, first, isFirst, others, areOthers, rfl⟩
      exact ⟨⟨first, isFirst⟩, others, areOthers⟩
    · rintro ⟨⟨first, isFirst⟩, others, areOthers⟩
      exact ⟨_, first, isFirst, others, areOthers, rfl⟩

theorem mem_flatten_mapM {α β ε : Type} {f : α → Except ε (List β)} {items : List α}
    {results : List (List β)} (ran : items.mapM f = .ok results) {b : β} :
    b ∈ results.flatten ↔ ∃ item ∈ items, ∃ result, f item = .ok result ∧ b ∈ result := by
  induction items generalizing results with
  | nil =>
    cases ran
    simp
  | cons item rest ih =>
    simp only [List.mapM_cons, Checks.bind_eq_ok, Checks.pure_eq_ok] at ran
    obtain ⟨first, isFirst, others, areOthers, rfl⟩ := ran
    simp [ih areOthers, isFirst]

/-- A node that the walk lists. -/
def Listed (node : Node) : Prop := node = .unlistable ∨ ∃ entries, node = .directory entries

theorem childDirectory_iff {directory : List Name} {entry : Name × Node} {child : Pending} :
    childDirectory directory entry = some child ↔
      child = ⟨directory ++ [entry.1], entry.2⟩ ∧ Clean (directory ++ [entry.1]) ∧
        Listed entry.2 := by
  rw [childDirectory]
  split
  next dirty => simp [(isMandatoryExcluded_iff (by simp)).mp dirty]
  next passes =>
    rw [isMandatoryExcluded_iff (by simp), not_not] at passes
    obtain ⟨name, node⟩ := entry
    cases node <;> simp [Listed, passes, eq_comm]

theorem exists_visit_directory {names : List Name} {entries : List (Name × Node)} :
    (∃ visited, visit tools config root ⟨names, .directory entries⟩ = .ok visited) ↔
      ∀ name node, (name, node) ∈ entries → node ≠ .unlistable →
        Recordable tools config root (names ++ [name]) node := by
  have every : (∃ visited, visit tools config root ⟨names, .directory entries⟩ = .ok visited) ↔
      ∃ lists, (sortedEntries entries).mapM (entryFindings tools config root names) =
        .ok lists := by
    simp only [visit, Checks.bind_eq_ok, Checks.pure_eq_ok]
    constructor
    · rintro ⟨_, lists, ran, -⟩
      exact ⟨lists, ran⟩
    · rintro ⟨lists, ran⟩
      exact ⟨_, lists, ran, rfl⟩
  rw [every, exists_mapM]
  constructor
  · intro all name node isEntry listed
    exact (appends_entryFindings names name listed).ok_iff.mp
      (all _ ((sortedEntries_perm entries).mem_iff.mpr isEntry))
  · rintro all ⟨name, node⟩ isEntry
    rw [(sortedEntries_perm entries).mem_iff] at isEntry
    by_cases listed : node = .unlistable
    · subst listed
      exact ⟨[], by simp [entryFindings]⟩
    · exact (appends_entryFindings names name listed).ok_iff.mpr (all name node isEntry listed)

theorem mem_visit_directory {names : List Name} {entries : List (Name × Node)}
    {found : List Finding} {children : List Pending}
    (visited : visit tools config root ⟨names, .directory entries⟩ = .ok (found, children)) :
    (∀ finding, finding ∈ found ↔ ∃ name node, (name, node) ∈ entries ∧ node ≠ .unlistable ∧
      ∃ path, recordedPath (asPosix (root ++ (names ++ [name]))) = some path ∧
        Finds tools config (names ++ [name]) path node finding) ∧
    ∀ child, child ∈ children ↔ ∃ name node, (name, node) ∈ entries ∧
      child = ⟨names ++ [name], node⟩ ∧ Clean (names ++ [name]) ∧ Listed node := by
  simp only [visit, Checks.bind_eq_ok, Checks.pure_eq_ok, Prod.mk.injEq] at visited
  obtain ⟨lists, ran, rfl, rfl⟩ := visited
  refine ⟨fun finding => ?_, fun child => ?_⟩
  · rw [mem_flatten_mapM ran]
    constructor
    · rintro ⟨⟨name, node⟩, isEntry, result, did, isFound⟩
      have listed : node ≠ .unlistable := by
        rintro rfl
        simp only [entryFindings, ite_self, Except.ok.injEq] at did
        subst did
        cases isFound
      exact ⟨name, node, (sortedEntries_perm entries).mem_iff.mp isEntry, listed,
        (did ▸ appends_entryFindings names name listed).mem_iff.mp isFound⟩
    · rintro ⟨name, node, isEntry, listed, isFound⟩
      have isSorted := (sortedEntries_perm entries).mem_iff.mpr isEntry
      obtain ⟨result, did⟩ := exists_mapM.mp ⟨_, ran⟩ _ isSorted
      exact ⟨_, isSorted, result, did,
        (did ▸ appends_entryFindings names name listed).mem_iff.mpr isFound⟩
  · simp only [List.mem_filterMap, childDirectory_iff, (sortedEntries_perm entries).mem_iff,
      Prod.exists]

theorem visit_eq_ok {names : List Name} {node : Node} {found : List Finding}
    {children : List Pending} (other : ¬ ∃ entries, node = .directory entries) :
    visit tools config root ⟨names, node⟩ = .ok (found, children) ↔
      names ≠ [] ∧ diagnose root .unreadableDirectory names = .ok found ∧ children = [] := by
  rw [visit]
  split
  next entries isDirectory => exact absurd ⟨entries, isDirectory⟩ other
  all_goals
    split
    next empty => simp [show names = [] from empty]
    next nonempty =>
      simp only [Checks.bind_eq_ok, Checks.pure_eq_ok, Prod.mk.injEq]
      constructor
      · rintro ⟨list, did, rfl, rfl⟩
        exact ⟨nonempty, did, rfl⟩
      · rintro ⟨-, did, rfl⟩
        exact ⟨found, did, rfl, rfl⟩

theorem visit_unlistable {names : List Name} {found : List Finding} {children : List Pending}
    (visited : visit tools config root ⟨names, .unlistable⟩ = .ok (found, children)) :
    diagnose root .unreadableDirectory names = .ok found ∧ children = [] :=
  ((visit_eq_ok (by simp)).mp visited).2

/-- What the walk reaches is in the tree. -/
theorem at_of_reached {tree : Node} {directory : Pending}
    (reached : (walk tools config root).Reached [⟨[], tree⟩] directory) :
    At tree directory.names directory.node ∧ Clean directory.names ∧
      (directory.names = [] ∨ Listed directory.node) := by
  obtain ⟨top, isTop, below⟩ := reached
  cases List.mem_singleton.mp isTop
  induction below with
  | refl => exact ⟨.here, by simp [Clean], .inl rfl⟩
  | @tail parent child _ leads ih =>
    obtain ⟨names, node⟩ := parent
    obtain ⟨found, children, visited, isChild⟩ := leads
    by_cases isDirectory : ∃ entries, node = .directory entries
    · obtain ⟨entries, rfl⟩ := isDirectory
      obtain ⟨name, node, isEntry, rfl, clean, listed⟩ :=
        ((mem_visit_directory visited).2 child).mp isChild
      exact ⟨.entry ih.1 isEntry, clean, .inr listed⟩
    · rw [((visit_eq_ok isDirectory).mp visited).2.2] at isChild
      cases isChild

/-- A directory of the tree is reached where no visit fails. -/
theorem reached_of_at {tree : Node} {names : List Name} {node : Node}
    (visits : ∀ directory, (walk tools config root).Reached [⟨[], tree⟩] directory →
      ∃ visited, visit tools config root directory = .ok visited)
    (isAt : At tree names node) (clean : Clean names) (listed : Listed node) :
    (walk tools config root).Reached [⟨[], tree⟩] ⟨names, node⟩ := by
  induction isAt with
  | here => exact ⟨_, List.mem_cons_self, .refl⟩
  | @entry names entries name node _ isEntry ih =>
    have reached := ih (fun part isPart => clean part (List.mem_append_left _ isPart))
      (.inr ⟨entries, rfl⟩)
    obtain ⟨⟨found, children⟩, visited⟩ := visits _ reached
    have isChild := ((mem_visit_directory visited).2 _).mpr
      ⟨name, node, isEntry, rfl, clean, listed⟩
    obtain ⟨top, isTop, below⟩ := reached
    exact ⟨top, isTop, below.tail ⟨found, children, visited, isChild⟩⟩

/-- Below the root a node is an entry of a directory that is reached, and perhaps reached itself. -/
theorem reached_entry {tree : Node} {names : List Name} {node : Node}
    (visits : ∀ directory, (walk tools config root).Reached [⟨[], tree⟩] directory →
      ∃ visited, visit tools config root directory = .ok visited)
    (isAt : At tree names node) (nonempty : names ≠ []) (clean : Clean names) :
    (node = .unlistable ∧ (walk tools config root).Reached [⟨[], tree⟩] ⟨names, node⟩) ∨
      node ≠ .unlistable ∧ ∃ above entries name, names = above ++ [name] ∧
        (name, node) ∈ entries ∧
        (walk tools config root).Reached [⟨[], tree⟩] ⟨above, .directory entries⟩ := by
  by_cases listed : node = .unlistable
  · exact .inl ⟨listed, reached_of_at visits isAt clean (.inl listed)⟩
  · cases isAt with
    | here => exact absurd rfl nonempty
    | entry isParent isEntry =>
      exact .inr ⟨listed, _, _, _, rfl, isEntry, reached_of_at visits isParent
        (fun part isPart => clean part (List.mem_append_left _ isPart)) (.inr ⟨_, rfl⟩)⟩

theorem exists_walk {tree : Node} :
    (∃ found, (walk tools config root).run [⟨[], tree⟩] = .ok found) ↔
      ∀ directory, (walk tools config root).Reached [⟨[], tree⟩] directory →
        ∃ visited, visit tools config root directory = .ok visited :=
  Worklist.Traversal.exists_run_iff

theorem exists_walk_iff (tree : Node) :
    (∃ found, (walk tools config root).run [⟨[], tree⟩] = .ok found) ↔
      (∃ entries, tree = .directory entries) ∧ ∀ names node, At tree names node → names ≠ [] →
        Recordable tools config root names node := by
  rw [exists_walk]
  constructor
  · intro visits
    refine ⟨?_, fun names node isAt nonempty => ?_⟩
    · by_contra other
      obtain ⟨⟨found, children⟩, visited⟩ := visits _ ⟨_, List.mem_cons_self, .refl⟩
      exact ((visit_eq_ok other).mp visited).1 rfl
    · by_cases clean : Clean names
      · rcases reached_entry visits isAt nonempty clean with
          ⟨rfl, reached⟩ | ⟨listed, above, entries, name, rfl, isEntry, reached⟩
        · obtain ⟨⟨found, children⟩, visited⟩ := visits _ reached
          exact (appends_unlistable clean).ok_iff.mp ⟨found, (visit_unlistable visited).1⟩
        · exact exists_visit_directory.mp (visits _ reached) name node isEntry listed
      · exact (appends_nothing fun _ _ finds => clean finds.clean).ok_iff.mp ⟨[], rfl⟩
  · rintro ⟨⟨entries, rfl⟩, all⟩ ⟨names, node⟩ reached
    obtain ⟨isAt, clean, listed⟩ := at_of_reached reached
    by_cases isDirectory : ∃ others, node = .directory others
    · obtain ⟨others, rfl⟩ := isDirectory
      exact exists_visit_directory.mpr fun name node isEntry _ =>
        all _ _ (.entry isAt isEntry) (by simp)
    · cases isAt with
      | here => exact absurd ⟨entries, rfl⟩ isDirectory
      | entry isParent isEntry =>
        obtain rfl := (listed.resolve_left (by simp)).resolve_right isDirectory
        obtain ⟨found, did⟩ := (appends_unlistable clean).ok_iff.mpr
          (all _ _ (.entry isParent isEntry) (by simp))
        exact ⟨(found, []), (visit_eq_ok isDirectory).mpr ⟨by simp, did, rfl⟩⟩

theorem mem_walk {tree : Node} {found : List Finding}
    (ran : (walk tools config root).run [⟨[], tree⟩] = .ok found) {finding : Finding} :
    finding ∈ found ↔ TreeFinds tools config root tree finding := by
  rw [Worklist.Traversal.mem_run ran]
  constructor
  · rintro ⟨⟨names, node⟩, reached, list, children, visited, isFound⟩
    obtain ⟨isAt, clean, listed⟩ := at_of_reached reached
    by_cases isDirectory : ∃ entries, node = .directory entries
    · obtain ⟨entries, rfl⟩ := isDirectory
      obtain ⟨name, node, isEntry, -, path, recorded, finds⟩ :=
        ((mem_visit_directory visited).1 _).mp isFound
      exact ⟨_, _, path, .entry isAt isEntry, by simp, recorded, finds⟩
    · obtain ⟨nonempty, did, -⟩ := (visit_eq_ok isDirectory).mp visited
      obtain rfl := (listed.resolve_left nonempty).resolve_right isDirectory
      obtain ⟨path, recorded, finds⟩ := (did ▸ appends_unlistable clean).mem_iff.mp isFound
      exact ⟨names, _, path, isAt, nonempty, recorded, finds⟩
  · rintro ⟨names, node, path, isAt, nonempty, recorded, finds⟩
    have visits := exists_walk.mp ⟨found, ran⟩
    rcases reached_entry visits isAt nonempty finds.clean with
      ⟨rfl, reached⟩ | ⟨listed, above, entries, name, rfl, isEntry, reached⟩
    · obtain ⟨⟨list, children⟩, visited⟩ := visits _ reached
      exact ⟨_, reached, list, children, visited,
        ((visit_unlistable visited).1 ▸ appends_unlistable finds.clean).mem_iff.mpr
          ⟨path, recorded, finds⟩⟩
    · obtain ⟨⟨list, children⟩, visited⟩ := visits _ reached
      exact ⟨_, reached, list, children, visited, ((mem_visit_directory visited).1 _).mpr
        ⟨name, node, isEntry, listed, path, recorded, finds⟩⟩

end Found

/-! ## The discovery -/

section Discovery

variable {tools : Tools} {host : Host} {configuredRepository : List Str} {config : Config}
  {result : FileDiscoveryResult}

theorem discoverPythonFiles_eq_ok :
    discoverPythonFiles tools host configuredRepository config = .ok result ↔
      resolvedRoots host configuredRepository config =
        .ok (result.repositoryRoot, result.sourceRoot) ∧
      ∃ found, (walk tools config (result.sourceRoot.drop result.repositoryRoot.length)).run
          [⟨[], host.tree result.sourceRoot⟩] = .ok found ∧
        result.snapshots = sortedByKey (·.record.path) (found.filterMap Finding.snapshot?) ∧
        result.diagnostics = sortedByKey AnalysisDiagnosticRecord.key
          (found.filterMap Finding.diagnostic?) := by
  simp only [discoverPythonFiles, Checks.bind_eq_ok, Checks.pure_eq_ok]
  constructor
  · rintro ⟨⟨repository, source⟩, roots, found, walked, rfl⟩
    exact ⟨roots, found, walked, rfl, rfl⟩
  · rintro ⟨roots, found, walked, isFound, noted⟩
    exact ⟨_, roots, found, walked, by rw [← isFound, ← noted]⟩

section Sample

def sampleName : Name where
  text := .ofString "a.py"
  nonempty := by decide
  plain := by decide

def sampleConfig : Config where
  projectId := .ofString "demo"
  sourceRoot := .ofString "."
  includeGlobs := [.ofString "*.py"]
  excludeGlobs := []

/-- A project of one empty file. -/
def sampleHost : Host where
  resolve _ := some []
  isDir _ := true
  isSymlink _ := false
  tree _ := .directory [(sampleName, .file (some []))]

def sampleTools : Tools where
  sha256Digest _ :=
    .ofString "sha256:e3b0c44298fc1c149afbf4c8996fb92427ae41e4649b934ca495991b7852b855"
  stableId _ _ := .ofString "sgfile_bbaddf29996aef3614ee8401f836bcee"
  decodePython _ := .ok []

def sampleSnapshot : SourceSnapshot where
  record := sourceFileRecord sampleTools sampleConfig sampleName.text []
  sourceRootRelativePath := sampleName.text
  decodedSource := some []

theorem sample_discovered : discoverPythonFiles sampleTools sampleHost [] sampleConfig =
    .ok ⟨[], [], [sampleSnapshot], []⟩ := by
  decide +kernel

end Sample

end Discovery

end ProjectFiles

end StateGuard
