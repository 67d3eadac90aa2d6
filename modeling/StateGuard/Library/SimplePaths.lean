import Mathlib.Data.List.Induction
import Mathlib.Data.List.Nodup
import Mathlib.Data.List.Perm.Subperm

/-!
# Simple paths

The paths of a multigraph that come to no node twice (`Path`).  Two links between the same nodes
give two paths.  `paths` enumerates the simple paths from a root, depth first: with fuel for the
nodes that there are, it finds every one of them (`mem_paths`) and finds it once (`nodup_paths`).
-/

namespace SimplePaths

universe u v

/-- A multigraph, of which some links may be closed. -/
structure Roads (ν : Type u) (ε : Type v) where
  links : ν → List ε
  target : ε → ν
  isOpen : ε → Bool

variable {ν : Type u} {ε : Type v}

/-- The nodes that a path comes to. -/
def stops (roads : Roads ν ε) (root : ν) (path : List ε) : List ν := root :: path.map roads.target

/-- A path over open links that comes to no node twice. -/
inductive Path (roads : Roads ν ε) (root : ν) : List ε → ν → Prop where
  | nil : Path roads root [] root
  | snoc {path here link} (path_here : Path roads root path here)
      (leaves : link ∈ roads.links here) (isOpen : roads.isOpen link = true)
      (fresh : roads.target link ∉ stops roads root path) :
      Path roads root (path ++ [link]) (roads.target link)

variable {roads : Roads ν ε} {root here last : ν} {path : List ε} {link : ε}

theorem stops_snoc : stops roads root (path ++ [link]) =
    stops roads root path ++ [roads.target link] := by
  rw [stops, stops, List.map_append, List.cons_append, List.map_singleton]

theorem Path.snoc_inv (whole : Path roads root (path ++ [link]) last) :
    ∃ here, Path roads root path here ∧ link ∈ roads.links here ∧ roads.isOpen link = true ∧
      roads.target link ∉ stops roads root path ∧ last = roads.target link := by
  generalize same : path ++ [link] = links at whole
  cases whole with
  | nil => simp at same
  | snoc earlier leaves isOpen fresh =>
    obtain ⟨rfl, links⟩ := List.append_inj' same rfl
    cases links
    exact ⟨_, earlier, leaves, isOpen, fresh, rfl⟩

theorem Path.nil_inv (whole : Path roads root [] last) : last = root := by
  generalize same : [] = links at whole
  cases whole with
  | nil => rfl
  | snoc => simp at same

/-- A path comes to one last node. -/
theorem Path.last_eq (first : Path roads root path here) (second : Path roads root path last) :
    here = last := by
  induction path using List.reverseRecOn with
  | nil => rw [first.nil_inv, second.nil_inv]
  | append_singleton path link =>
    obtain ⟨_, -, -, -, -, rfl⟩ := first.snoc_inv
    obtain ⟨_, -, -, -, -, rfl⟩ := second.snoc_inv
    rfl

theorem Path.nodup (whole : Path roads root path last) : (stops roads root path).Nodup := by
  induction whole with
  | nil => exact List.nodup_singleton _
  | snoc earlier leaves isOpen fresh ih =>
    rw [stops_snoc]
    exact ih.append (List.nodup_singleton _) (by simpa using fresh)

/-- The links of a path are open links of the multigraph. -/
theorem Path.mem_links (whole : Path roads root path last) :
    ∀ link ∈ path, roads.isOpen link = true ∧ ∃ here, link ∈ roads.links here := by
  induction whole with
  | nil => simp
  | snoc earlier leaves isOpen fresh ih =>
    intro link isLink
    rcases List.mem_append.mp isLink with before | final
    · exact ih link before
    · rw [List.mem_singleton.mp final]
      exact ⟨isOpen, _, leaves⟩

/-- The beginning of a path is a path, and its next link leaves where it ends. -/
theorem Path.split {rest : List ε} (whole : Path roads root (path ++ link :: rest) last) :
    ∃ here, Path roads root path here ∧ link ∈ roads.links here ∧ roads.isOpen link = true ∧
      roads.target link ∉ stops roads root path := by
  induction rest using List.reverseRecOn generalizing last with
  | nil =>
    obtain ⟨here, earlier, leaves, isOpen, fresh, -⟩ := whole.snoc_inv
    exact ⟨here, earlier, leaves, isOpen, fresh⟩
  | append_singleton rest final ih =>
    rw [← List.cons_append, ← List.append_assoc] at whole
    obtain ⟨_, earlier, -⟩ := whole.snoc_inv
    exact ih earlier

/-- A path among some nodes has fewer links than there are nodes. -/
theorem Path.length_lt {nodes : List ν} (whole : Path roads root path last)
    (known : ∀ node ∈ stops roads root path, node ∈ nodes) : path.length < nodes.length := by
  have below := (whole.nodup.subperm known).length_le
  rw [stops, List.length_cons, List.length_map] at below
  exact below

section

variable [DecidableEq ν] (roads root)

/-- The simple paths that go on from a path, with the nodes where they end. -/
def paths : Nat → List ε → ν → List (List ε × ν)
  | 0, _, _ => []
  | fuel + 1, path, here =>
    (path, here) :: (roads.links here).flatMap fun link =>
      if roads.isOpen link = true ∧ roads.target link ∉ stops roads root path then
        paths fuel (path ++ [link]) (roads.target link)
      else []

variable {roads root}

/-- The enumeration finds the paths that go on from a path, as far as its fuel goes. -/
theorem mem_paths_of_path {fuel : Nat} {whole : List ε} (isPath : Path roads root path here) :
    (whole, last) ∈ paths roads root fuel path here ↔
      ∃ rest, whole = path ++ rest ∧ rest.length < fuel ∧ Path roads root whole last := by
  induction fuel generalizing path here with
  | zero => simp [paths]
  | succ fuel ih =>
    rw [paths, List.mem_cons]
    constructor
    · rintro (same | later)
      · obtain ⟨rfl, rfl⟩ := Prod.mk.inj same
        exact ⟨[], (List.append_nil _).symm, Nat.succ_pos _, isPath⟩
      · obtain ⟨link, leaves, found⟩ := List.mem_flatMap.mp later
        split at found
        next goes =>
          obtain ⟨rest, rfl, short, isWhole⟩ := (ih (isPath.snoc leaves goes.1 goes.2)).mp found
          exact ⟨link :: rest, List.append_assoc _ _ _, Nat.succ_lt_succ short, isWhole⟩
        next => cases found
    · rintro ⟨rest, rfl, short, isWhole⟩
      cases rest with
      | nil =>
        rw [List.append_nil] at isWhole ⊢
        exact .inl (by rw [isPath.last_eq isWhole])
      | cons link rest =>
        refine .inr (List.mem_flatMap.mpr ⟨link, ?_⟩)
        obtain ⟨_, earlier, leaves, isOpen, fresh⟩ := isWhole.split
        rw [← isPath.last_eq earlier] at leaves
        refine ⟨leaves, ?_⟩
        rw [if_pos ⟨isOpen, fresh⟩, ih (isPath.snoc leaves isOpen fresh)]
        exact ⟨rest, (List.append_assoc _ [link] rest).symm, Nat.lt_of_succ_lt_succ short, isWhole⟩

/-- With fuel for some nodes, the enumeration finds the simple paths that stay among them. -/
theorem mem_paths {fuel : Nat} {nodes : List ν}
    (known : ∀ path last, Path roads root path last → ∀ node ∈ stops roads root path, node ∈ nodes)
    (enough : nodes.length ≤ fuel) :
    (path, last) ∈ paths roads root fuel [] root ↔ Path roads root path last := by
  rw [mem_paths_of_path Path.nil]
  constructor
  · rintro ⟨-, -, -, isPath⟩
    exact isPath
  · intro isPath
    exact ⟨path, rfl, Nat.lt_of_lt_of_le (isPath.length_lt (known _ _ isPath)) enough, isPath⟩

/-- What the enumeration finds goes on from where it started. -/
theorem exists_of_mem_paths {fuel : Nat} {found : List ε × ν}
    (isFound : found ∈ paths roads root fuel path here) : ∃ rest, found.1 = path ++ rest := by
  induction fuel generalizing path here with
  | zero => cases isFound
  | succ fuel ih =>
    rw [paths, List.mem_cons] at isFound
    rcases isFound with rfl | later
    · exact ⟨[], (List.append_nil _).symm⟩
    · obtain ⟨link, -, isFound⟩ := List.mem_flatMap.mp later
      split at isFound
      next =>
        obtain ⟨rest, same⟩ := ih isFound
        exact ⟨link :: rest, by rw [same, List.append_assoc]; rfl⟩
      next => cases isFound

/-- The enumeration finds a path once. -/
theorem nodup_paths (distinct : ∀ node, (roads.links node).Nodup) {fuel : Nat} :
    (paths roads root fuel path here).Nodup := by
  induction fuel generalizing path here with
  | zero => exact List.nodup_nil
  | succ fuel ih =>
    rw [paths, List.nodup_cons]
    have goesOn : ∀ link : ε, ∀ found ∈ (if roads.isOpen link = true ∧
          roads.target link ∉ stops roads root path then
        paths roads root fuel (path ++ [link]) (roads.target link) else []),
        ∃ rest, found.1 = path ++ link :: rest := by
      intro link found isFound
      split at isFound
      next =>
        obtain ⟨rest, same⟩ := exists_of_mem_paths isFound
        exact ⟨rest, by rw [same, List.append_assoc]; rfl⟩
      next => cases isFound
    constructor
    · intro listed
      obtain ⟨link, -, isFound⟩ := List.mem_flatMap.mp listed
      obtain ⟨rest, same⟩ := goesOn link _ isFound
      simp at same
    · refine List.nodup_flatMap.mpr ⟨fun link _ => ?_, ?_⟩
      · split
        next => exact ih
        next => exact List.nodup_nil
      · refine (distinct here).imp fun {a b} different => ?_
        intro found isFound isFound'
        obtain ⟨rest, same⟩ := goesOn a found isFound
        obtain ⟨rest', same'⟩ := goesOn b found isFound'
        rw [same] at same'
        exact different (List.cons.inj (List.append_cancel_left same')).1

end

end SimplePaths
