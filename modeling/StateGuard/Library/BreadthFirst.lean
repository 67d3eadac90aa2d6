import Mathlib.Data.List.Perm.Subperm
import StateGuard.Library.Dict

/-!
# Breadth-first search

A search over a graph whose edges leave a node in an order (`Links`).  `search` explores from a
queue and records for every node it meets the chain of edges it was first met by; `breadthFirst`
starts it at a root.  `findPath` is the search that stops at a node.

`explored` is the invariant.  What its users need: a recorded chain leads from the root to its
node, it is the first of the shortest chains when chains are compared edge by edge
(`breadthFirst_least`), every node that can be reached is met (`mem_keys_breadthFirst`), and the
two searches agree (`findPath_eq`).  A search may start from several roots (`startAll`); it meets
the nodes that can be reached from one of them (`mem_keys_searchAll`).
-/

namespace BreadthFirst

universe u v

/-- A graph whose edges leave each node in an order. -/
structure Links (ν : Type u) (ε : Type v) where
  next : ν → List ε
  source : ε → ν
  target : ε → ν
  sourced : ∀ node, ∀ edge ∈ next node, source edge = node

variable {ν : Type u} {ε : Type v}

/-- A chain of edges from a root to a node. -/
inductive Chain (links : Links ν ε) (root : ν) : List ε → ν → Prop where
  | nil : Chain links root [] root
  | snoc {path node edge} (chain : Chain links root path node) (edge_next : edge ∈ links.next node) :
      Chain links root (path ++ [edge]) (links.target edge)

/-- The last edge of a chain, and what is before it. -/
theorem Chain.snoc_inv {links : Links ν ε} {root node : ν} {path : List ε} {edge : ε}
    (chain : Chain links root (path ++ [edge]) node) :
    ∃ last, Chain links root path last ∧ edge ∈ links.next last ∧ node = links.target edge := by
  generalize whole : path ++ [edge] = edges at chain
  cases chain with
  | nil => simp at whole
  | snoc earlier next =>
    obtain ⟨rfl, last⟩ := List.append_inj' whole rfl
    cases last
    exact ⟨_, earlier, next, rfl⟩

/-- An edge of a chain may be replaced by one between the same nodes. -/
theorem Chain.replace {links : Links ν ε} {root node : ν} {a b : List ε} {edge edge' : ε}
    (next : ∀ n, edge ∈ links.next n → edge' ∈ links.next n)
    (target : links.target edge' = links.target edge)
    (chain : Chain links root (a ++ edge :: b) node) :
    Chain links root (a ++ edge' :: b) node := by
  induction b using List.reverseRecOn generalizing node with
  | nil =>
    obtain ⟨last, earlier, isNext, rfl⟩ := chain.snoc_inv
    rw [← target]
    exact earlier.snoc (next last isNext)
  | append_singleton b final ih =>
    rw [← List.cons_append, ← List.append_assoc] at chain ⊢
    obtain ⟨last, earlier, isNext, rfl⟩ := chain.snoc_inv
    exact (ih earlier).snoc isNext

/-! ## The order of chains -/

section

variable [DecidableEq ε] (links : Links ν ε)

/-- The place of an edge among the edges that leave its source. -/
def rank (edge : ε) : Nat := (links.next (links.source edge)).idxOf edge

/-- The order of chains of one length, last edge first. -/
def precedesReversed : List ε → List ε → Prop
  | e :: p, f :: q => (p = q ∧ rank links e < rank links f) ∨ precedesReversed p q
  | _, _ => False

/-- At the first edge in which they differ, one chain takes the earlier edge. -/
def Precedes (p q : List ε) : Prop := precedesReversed links p.reverse q.reverse

/-- A chain is shorter, or as long and before another. -/
def Before (p q : List ε) : Prop :=
  p.length < q.length ∨ (p.length = q.length ∧ Precedes links p q)

variable {links}

variable (links) in
/-- A chain to a node that comes before every other chain to it. -/
def First (root : ν) (path : List ε) (node : ν) : Prop :=
  Chain links root path node ∧ ∀ other, Chain links root other node →
    path = other ∨ Before links path other

theorem precedesReversed_trans {p q r : List ε} (first : precedesReversed links p q)
    (second : precedesReversed links q r) : precedesReversed links p r := by
  induction p generalizing q r with
  | nil => exact absurd first id
  | cons e p ih =>
    cases q with
    | nil => exact absurd first id
    | cons f q =>
      cases r with
      | nil => exact absurd second id
      | cons g r =>
        rcases first with ⟨rfl, ef⟩ | pq
        · rcases second with ⟨rfl, fg⟩ | qr
          · exact .inl ⟨rfl, Nat.lt_trans ef fg⟩
          · exact .inr qr
        · rcases second with ⟨rfl, _⟩ | qr
          · exact .inr pq
          · exact .inr (ih pq qr)

theorem precedesReversed_irrefl (p : List ε) : ¬ precedesReversed links p p := by
  induction p with
  | nil => exact id
  | cons e p ih =>
    rintro (⟨-, below⟩ | inner)
    · exact Nat.lt_irrefl _ below
    · exact ih inner

theorem Before.trans {p q r : List ε} (first : Before links p q) (second : Before links q r) :
    Before links p r := by
  rcases first with shorter | ⟨same, precedes⟩
  · rcases second with shorter' | ⟨same', _⟩
    · exact .inl (Nat.lt_trans shorter shorter')
    · exact .inl (same' ▸ shorter)
  · rcases second with shorter' | ⟨same', precedes'⟩
    · exact .inl (same ▸ shorter')
    · exact .inr ⟨same.trans same', precedesReversed_trans precedes precedes'⟩

theorem Before.irrefl (p : List ε) : ¬ Before links p p := by
  rintro (shorter | ⟨_, precedes⟩)
  · exact Nat.lt_irrefl _ shorter
  · exact precedesReversed_irrefl _ precedes

theorem Before.length_le {p q : List ε} (before : Before links p q) : p.length ≤ q.length := by
  rcases before with shorter | ⟨same, _⟩
  · exact Nat.le_of_lt shorter
  · exact Nat.le_of_eq same

/-- An order of chains is kept when each is extended by an edge. -/
theorem Before.snoc {p q : List ε} (before : Before links p q) (e f : ε) :
    Before links (p ++ [e]) (q ++ [f]) := by
  rcases before with shorter | ⟨same, precedes⟩
  · exact .inl (by simpa using shorter)
  · refine .inr ⟨by simpa using same, ?_⟩
    rw [Precedes, List.reverse_append, List.reverse_append]
    exact .inr precedes

theorem before_snoc {p : List ε} {e f : ε} (below : rank links e < rank links f) :
    Before links (p ++ [e]) (p ++ [f]) := by
  refine .inr ⟨by simp, ?_⟩
  rw [Precedes, List.reverse_append, List.reverse_append]
  exact .inl ⟨rfl, below⟩

/-- An edge that was followed is before the one that is followed now. -/
theorem rank_lt_of_done {u : ν} {done todo : List ε} {edge : ε}
    (split_next : links.next u = done ++ edge :: todo) (notDone : edge ∉ done) {earlier : ε}
    (inDone : earlier ∈ done) : rank links earlier < rank links edge := by
  have leaves : edge ∈ links.next u := by simp [split_next]
  have leavesEarlier : earlier ∈ links.next u := by simp [split_next, inDone]
  rw [rank, rank, links.sourced u edge leaves, links.sourced u earlier leavesEarlier,
    split_next, List.idxOf_append_of_mem inDone, List.idxOf_append_of_notMem notDone,
    List.idxOf_cons_self, Nat.add_zero]
  exact List.idxOf_lt_length_of_mem inDone

/-- One that was not is the same, or after it. -/
theorem rank_le_of_notDone {u : ν} {done todo : List ε} {edge : ε}
    (split_next : links.next u = done ++ edge :: todo) (notDone : edge ∉ done) {later : ε}
    (leavesLater : later ∈ links.next u) (notDoneLater : later ∉ done) :
    edge = later ∨ rank links edge < rank links later := by
  have leaves : edge ∈ links.next u := by simp [split_next]
  by_cases same : edge = later
  · exact .inl same
  · refine .inr ?_
    rw [rank, rank, links.sourced u edge leaves, links.sourced u later leavesLater,
      split_next, List.idxOf_append_of_notMem notDone, List.idxOf_append_of_notMem notDoneLater,
      List.idxOf_cons_self, List.idxOf_cons_ne _ same]
    omega

end

/-! ## The search -/

section

variable [DecidableEq ν] (links : Links ν ε)

/-- The queue, and the chains recorded so far. -/
structure Search (ν : Type u) (ε : Type v) where
  pending : List ν
  paths : Dict ν (List ε)

/-- Follow one edge from a node reached by a chain. -/
def visit (path : List ε) (state : Search ν ε) (edge : ε) : Search ν ε :=
  if links.target edge ∈ state.paths.keys then state
  else ⟨state.pending ++ [links.target edge],
    state.paths.set (links.target edge) (path ++ [edge])⟩

/-- Explore from the queue. -/
def search : Nat → Search ν ε → Search ν ε
  | 0, state => state
  | fuel + 1, state =>
    match state.pending with
    | [] => state
    | current :: rest =>
      search fuel ((links.next current).foldl
        (visit links ((state.paths.get? current).getD [])) { state with pending := rest })

/-- The search at its start. -/
def start (root : ν) : Search ν ε := ⟨[root], Dict.empty.set root []⟩

/-- The chains by which the nodes are first met. -/
def breadthFirst (fuel : Nat) (root : ν) : Dict ν (List ε) := (search links fuel (start root)).paths

/-- Follow one edge, with the chain in the queue. -/
def enqueue (path : List ε) (state : List (ν × List ε) × List ν) (edge : ε) :
    List (ν × List ε) × List ν :=
  if links.target edge ∈ state.2 then state
  else (state.1 ++ [(links.target edge, path ++ [edge])], state.2 ++ [links.target edge])

/-- Explore from a queue of nodes with their chains, up to a goal. -/
def findFrom (goal : ν) : Nat → List (ν × List ε) → List ν → Option (List ε)
  | 0, _, _ => none
  | _ + 1, [], _ => none
  | fuel + 1, (current, path) :: rest, visited =>
    if current = goal then some path
    else
      let followed := (links.next current).foldl (enqueue links path) (rest, visited)
      findFrom goal fuel followed.1 followed.2

/-- The chain by which a goal is first met. -/
def findPath (fuel : Nat) (root goal : ν) : Option (List ε) :=
  findFrom links goal fuel [(root, [])] [root]

variable {links}

/-! ## What one visit does -/

theorem visit_get? {path : List ε} {state : Search ν ε} {edge : ε} {node : ν} {known : List ε}
    (found : state.paths.get? node = some known) :
    (visit links path state edge).paths.get? node = some known := by
  rw [visit]
  split
  next => exact found
  next fresh =>
    rw [Dict.get?_set, if_neg]
    · exact found
    · rintro rfl
      exact fresh (Dict.mem_keys_of_get? found)

theorem visits_get? {path : List ε} {edges : List ε} {state : Search ν ε} {node : ν}
    {known : List ε} (found : state.paths.get? node = some known) :
    (edges.foldl (visit links path) state).paths.get? node = some known := by
  induction edges generalizing state with
  | nil => exact found
  | cons edge rest ih => exact ih (visit_get? found)

/-- A recorded chain stays. -/
theorem search_get? {fuel : Nat} {state : Search ν ε} {node : ν} {known : List ε}
    (found : state.paths.get? node = some known) :
    (search links fuel state).paths.get? node = some known := by
  induction fuel generalizing state with
  | zero => exact found
  | succ fuel ih =>
    rw [search]
    split
    next => exact found
    next current rest _ =>
      have kept : ({ state with pending := rest } : Search ν ε).paths.get? node = some known := found
      exact ih (visits_get? kept)

variable [DecidableEq ε]

/-- What holds of the chains recorded when the edges `followed` were followed from the nodes
`finished`, with `pending` still to come. -/
structure Explored (links : Links ν ε) (root : ν) (finished pending : List ν) (followed : List ε)
    (paths : Dict ν (List ε)) : Prop where
  order : paths.keys = finished ++ pending
  rooted : root ∈ paths.keys
  chains : ∀ node path, paths.get? node = some path → Chain links root path node
  closed : ∀ edge ∈ followed, links.target edge ∈ paths.keys
  parents : ∀ node path, paths.get? node = some path → path = [] ∨
    ∃ edge ∈ followed, ∃ parent, paths.get? (links.source edge) = some parent ∧
      path = parent ++ [edge]
  least : ∀ node path, paths.get? node = some path → ∀ other, Chain links root other node →
    path = other ∨ Before links path other
  sorted : paths.keys.Pairwise fun a b => ∀ p q, paths.get? a = some p → paths.get? b = some q →
    Before links p q

theorem explored_start (root : ν) :
    Explored links root [] [root] [] (start (ε := ε) root).paths := by
  have only : ∀ node path, (start (ε := ε) root).paths.get? node = some path →
      node = root ∧ path = [] := by
    intro node path found
    rw [start, Dict.get?_set] at found
    split at found
    next same => exact ⟨same, (Option.some.inj found).symm⟩
    next => cases found
  refine ⟨by simp [start, Dict.keys_set], by simp [start], ?_, by simp, ?_, ?_, ?_⟩
  · intro node path found
    obtain ⟨rfl, rfl⟩ := only node path found
    exact .nil
  · exact fun node path found => .inl (only node path found).2
  · intro node path found other chain
    obtain ⟨rfl, rfl⟩ := only node path found
    cases chain with
    | nil => exact .inl rfl
    | snoc => exact .inr (.inl (by simp))
  · simp [start, Dict.keys_set]

section Following

variable {root current : ν} {finished pending : List ν} {done : List ε} {paths : Dict ν (List ε)}
  {path : List ε}

/-- While the edges of `current` are followed, an edge to a node not met yet leaves `current` or a
node whose chain comes after that to `current`. -/
theorem Explored.ahead
    (explored : Explored links root (finished ++ [current]) pending
      (finished.flatMap links.next ++ done) paths)
    (here : paths.get? current = some path) {node : ν} {edge : ε} {known : List ε}
    (found : paths.get? node = some known) (leaves : edge ∈ links.next node)
    (fresh : links.target edge ∉ paths.keys) : node = current ∨ Before links path known := by
  have place := Dict.mem_keys_of_get? found
  have sorted := explored.sorted
  rw [explored.order, List.append_assoc] at place sorted
  rcases List.mem_append.mp place with early | later
  · refine absurd (explored.closed edge ?_) fresh
    exact List.mem_append_left _ (List.mem_flatMap.mpr ⟨node, early, leaves⟩)
  · refine (List.mem_cons.mp later).imp_right fun late => ?_
    have ordered := (List.pairwise_append.mp sorted).2.1
    exact (List.pairwise_cons.mp ordered).1 node late path known here found

/-- Every chain to a node not met yet is longer than the chain to `current`. -/
theorem Explored.longer
    (explored : Explored links root (finished ++ [current]) pending
      (finished.flatMap links.next ++ done) paths)
    (here : paths.get? current = some path) {other : List ε} {node : ν}
    (chain : Chain links root other node) (fresh : node ∉ paths.keys) :
    path.length < other.length := by
  induction chain with
  | nil => exact absurd explored.rooted fresh
  | @snoc other node edge chain leaves ih =>
    rw [List.length_append, List.length_singleton, Nat.lt_succ_iff]
    by_cases known : node ∈ paths.keys
    · obtain ⟨known_path, found⟩ := Dict.exists_get? known
      have shorter : known_path.length ≤ other.length := by
        rcases explored.least node known_path found other chain with rfl | before
        · exact Nat.le_refl _
        · exact before.length_le
      refine Nat.le_trans ?_ shorter
      rcases explored.ahead here found leaves fresh with rfl | before
      · rw [here] at found
        cases found
        exact Nat.le_refl _
      · exact before.length_le
    · exact Nat.le_of_lt (ih known)

variable {todo : List ε} {edge : ε}

/-- The chain to a new node comes before every other chain to it. -/
theorem Explored.newLeast
    (explored : Explored links root (finished ++ [current]) pending
      (finished.flatMap links.next ++ done) paths)
    (here : paths.get? current = some path)
    (split_next : links.next current = done ++ edge :: todo)
    (fresh : links.target edge ∉ paths.keys) {other : List ε}
    (chain : Chain links root other (links.target edge)) :
    path ++ [edge] = other ∨ Before links (path ++ [edge]) other := by
  have notDone : ∀ e, links.target e ∉ paths.keys → e ∉ done := fun e fresh inside =>
    fresh (explored.closed e (List.mem_append_right _ inside))
  have edgeNotDone := notDone edge fresh
  generalize target_eq : links.target edge = node at chain fresh
  cases chain with
  | nil => exact absurd explored.rooted fresh
  | @snoc other node' edge' chain' leaves' =>
    by_cases known : node' ∈ paths.keys
    · obtain ⟨known_path, found⟩ := Dict.exists_get? known
      rcases explored.ahead here found leaves' fresh with rfl | first
      · rcases explored.least node' path here other chain' with rfl | before
        · rcases rank_le_of_notDone split_next edgeNotDone leaves' (notDone edge' fresh) with
            rfl | below
          · exact .inl rfl
          · exact .inr (before_snoc below)
        · exact .inr (before.snoc _ _)
      · rcases explored.least node' known_path found other chain' with rfl | before
        · exact .inr (first.snoc _ _)
        · exact .inr ((first.trans before).snoc _ _)
    · refine .inr (.inl ?_)
      have longer := explored.longer here chain' known
      simpa using longer

/-- Every chain recorded so far comes before the chain to a new node. -/
theorem Explored.newLast
    (explored : Explored links root (finished ++ [current]) pending
      (finished.flatMap links.next ++ done) paths)
    (here : paths.get? current = some path)
    (split_next : links.next current = done ++ edge :: todo)
    (fresh : links.target edge ∉ paths.keys) {node : ν} {known : List ε}
    (found : paths.get? node = some known) : Before links known (path ++ [edge]) := by
  have notDone : edge ∉ done := fun inside =>
    fresh (explored.closed edge (List.mem_append_right _ inside))
  rcases explored.parents node known found with rfl | ⟨e, followed, parent, above, rfl⟩
  · exact .inl (by simp)
  · rcases List.mem_append.mp followed with early | inDone
    · obtain ⟨u, before_current, leaves_u⟩ := List.mem_flatMap.mp early
      rw [links.sourced u e leaves_u] at above
      have sorted := explored.sorted
      rw [explored.order] at sorted
      have ordered := (List.pairwise_append.mp sorted).1
      have first := (List.pairwise_append.mp ordered).2.2 u before_current current
        (List.mem_singleton_self _) parent path above here
      exact first.snoc _ _
    · have leaves_e : e ∈ links.next current := by simp [split_next, inDone]
      rw [links.sourced current e leaves_e, here] at above
      cases above
      exact before_snoc (rank_lt_of_done split_next notDone inDone)

/-- An edge to a node that was met changes nothing. -/
theorem Explored.visit_known
    (explored : Explored links root (finished ++ [current]) pending
      (finished.flatMap links.next ++ done) paths)
    (known : links.target edge ∈ paths.keys) :
    Explored links root (finished ++ [current]) pending
      (finished.flatMap links.next ++ (done ++ [edge])) paths := by
  refine { explored with closed := ?_, parents := ?_ }
  · intro e followed
    rw [← List.append_assoc] at followed
    rcases List.mem_append.mp followed with earlier | last
    · exact explored.closed e earlier
    · rw [List.mem_singleton.mp last]
      exact known
  · intro node known_path found
    rcases explored.parents node known_path found with isRoot | ⟨e, followed, rest⟩
    · exact .inl isRoot
    · exact .inr ⟨e, by rw [← List.append_assoc]; exact List.mem_append_left _ followed, rest⟩

/-- An edge to a new node records its chain. -/
theorem Explored.visit_fresh
    (explored : Explored links root (finished ++ [current]) pending
      (finished.flatMap links.next ++ done) paths)
    (here : paths.get? current = some path)
    (split_next : links.next current = done ++ edge :: todo)
    (fresh : links.target edge ∉ paths.keys) :
    Explored links root (finished ++ [current]) (pending ++ [links.target edge])
      (finished.flatMap links.next ++ (done ++ [edge]))
      (paths.set (links.target edge) (path ++ [edge])) := by
  have leaves : edge ∈ links.next current := by simp [split_next]
  have keys : (paths.set (links.target edge) (path ++ [edge])).keys =
      paths.keys ++ [links.target edge] := by rw [Dict.keys_set, if_neg fresh]
  have kept : ∀ node known, paths.get? node = some known →
      (paths.set (links.target edge) (path ++ [edge])).get? node = some known := by
    intro node known found
    rw [Dict.get?_set, if_neg]
    · exact found
    · rintro rfl
      exact fresh (Dict.mem_keys_of_get? found)
  have cases_get : ∀ node known, (paths.set (links.target edge) (path ++ [edge])).get? node =
      some known → (node = links.target edge ∧ known = path ++ [edge]) ∨
        paths.get? node = some known := by
    intro node known found
    rw [Dict.get?_set] at found
    split at found
    next same => exact .inl ⟨same, (Option.some.inj found).symm⟩
    next => exact .inr found
  refine ⟨?_, ?_, ?_, ?_, ?_, ?_, ?_⟩
  · rw [keys, explored.order, List.append_assoc]
  · rw [keys]
    exact List.mem_append_left _ explored.rooted
  · intro node known found
    rcases cases_get node known found with ⟨rfl, rfl⟩ | old
    · exact .snoc (explored.chains current path here) leaves
    · exact explored.chains node known old
  · intro e followed
    rw [keys]
    rw [← List.append_assoc] at followed
    rcases List.mem_append.mp followed with earlier | last
    · exact List.mem_append_left _ (explored.closed e earlier)
    · rw [List.mem_singleton.mp last]
      exact List.mem_append_right _ (List.mem_singleton_self _)
  · intro node known found
    rcases cases_get node known found with ⟨rfl, rfl⟩ | old
    · have sourced := links.sourced current edge leaves
      exact .inr ⟨edge, by simp, path, by rw [sourced]; exact kept current path here, rfl⟩
    · rcases explored.parents node known old with isRoot | ⟨e, followed, parent, above, same⟩
      · exact .inl isRoot
      · exact .inr ⟨e, by rw [← List.append_assoc]; exact List.mem_append_left _ followed, parent,
          kept _ _ above, same⟩
  · intro node known found other chain
    rcases cases_get node known found with ⟨rfl, rfl⟩ | old
    · exact explored.newLeast here split_next fresh chain
    · exact explored.least node known old other chain
  · rw [keys]
    refine List.pairwise_append.mpr ⟨?_, List.pairwise_singleton _ _, ?_⟩
    · refine explored.sorted.imp_of_mem ?_
      intro a b ma mb before p q foundA foundB
      rcases cases_get a p foundA with ⟨rfl, _⟩ | oldA
      · exact absurd ma fresh
      rcases cases_get b q foundB with ⟨rfl, _⟩ | oldB
      · exact absurd mb fresh
      exact before p q oldA oldB
    · intro a ma b mb p q foundA foundB
      rw [List.mem_singleton.mp mb] at foundB
      rcases cases_get _ q foundB with ⟨_, rfl⟩ | oldB
      swap
      · exact absurd (Dict.mem_keys_of_get? oldB) fresh
      rcases cases_get a p foundA with ⟨rfl, _⟩ | oldA
      · exact absurd ma fresh
      exact explored.newLast here split_next fresh oldA

/-- Following one more edge keeps the invariant. -/
theorem Explored.visit
    (explored : Explored links root (finished ++ [current]) pending
      (finished.flatMap links.next ++ done) paths)
    (here : paths.get? current = some path)
    (split_next : links.next current = done ++ edge :: todo) :
    Explored links root (finished ++ [current])
      (visit links path ⟨pending, paths⟩ edge).pending
      (finished.flatMap links.next ++ (done ++ [edge]))
      (visit links path ⟨pending, paths⟩ edge).paths := by
  rw [BreadthFirst.visit]
  split
  next known => exact explored.visit_known known
  next fresh => exact explored.visit_fresh here split_next fresh

end Following

/-- Following all edges that leave a node keeps the invariant. -/
theorem Explored.visits {root current : ν} {finished : List ν} {done todo : List ε}
    {state : Search ν ε} {path : List ε}
    (explored : Explored links root (finished ++ [current]) state.pending
      (finished.flatMap links.next ++ done) state.paths)
    (here : state.paths.get? current = some path) (split_next : links.next current = done ++ todo) :
    Explored links root (finished ++ [current])
      (todo.foldl (BreadthFirst.visit links path) state).pending
      (finished.flatMap links.next ++ (done ++ todo))
      (todo.foldl (BreadthFirst.visit links path) state).paths := by
  induction todo generalizing done state with
  | nil => simpa using explored
  | cons edge rest ih =>
    have later := ih (explored.visit here split_next) (visit_get? here) (by simp [split_next])
    simpa using later

/-- The invariant holds when a search with enough fuel ends, and nothing is left to do. -/
theorem Explored.search {root : ν} {finished universe_nodes : List ν} {fuel : Nat}
    {state : Search ν ε}
    (explored : Explored links root finished state.pending (finished.flatMap links.next) state.paths)
    (bounded : ∀ {node path}, Chain links root path node → node ∈ universe_nodes)
    (enough : universe_nodes.length ≤ fuel + finished.length) :
    ∃ finished', Explored links root finished' [] (finished'.flatMap links.next)
      (search links fuel state).paths ∧ (search links fuel state).pending = [] := by
  induction fuel generalizing finished state with
  | zero =>
    have inside : state.paths.keys ⊆ universe_nodes := by
      intro node known
      obtain ⟨path, found⟩ := Dict.exists_get? known
      exact bounded (explored.chains node path found)
    have size := (List.subperm_of_subset state.paths.keys_nodup inside).length_le
    rw [explored.order, List.length_append] at size
    have nothing : state.pending = [] := List.length_eq_zero_iff.mp (by omega)
    exact ⟨finished, nothing ▸ explored, nothing⟩
  | succ fuel ih =>
    rw [BreadthFirst.search]
    split
    next nothing => exact ⟨finished, nothing ▸ explored, nothing⟩
    next current rest pending =>
      have known : current ∈ state.paths.keys := by simp [explored.order, pending]
      obtain ⟨path, here⟩ := Dict.exists_get? known
      have opened : Explored links root (finished ++ [current])
          ({ state with pending := rest } : Search ν ε).pending
          (finished.flatMap links.next ++ []) ({ state with pending := rest } : Search ν ε).paths := by
        rw [List.append_nil]
        exact { explored with order := by rw [explored.order, pending]; simp }
      rw [here, Option.getD_some]
      have followed := opened.visits here (List.nil_append (links.next current)).symm
      have later : universe_nodes.length ≤ fuel + (finished ++ [current]).length := by
        rw [List.length_append, List.length_singleton]
        omega
      refine ih ?_ later
      simpa using followed

/-! ## The chains found -/

section

variable {root : ν} {universe_nodes : List ν} {fuel : Nat}

theorem explored_breadthFirst
    (bounded : ∀ {node path}, Chain links root path node → node ∈ universe_nodes)
    (enough : universe_nodes.length ≤ fuel) :
    ∃ finished, Explored links root finished [] (finished.flatMap links.next)
      (breadthFirst links fuel root) := by
  have started : Explored links root [] (start (ε := ε) root).pending
      (List.flatMap links.next []) (start (ε := ε) root).paths := explored_start root
  obtain ⟨finished, explored, -⟩ := started.search bounded enough
  exact ⟨finished, explored⟩

/-- With enough fuel the search ends because its queue is empty. -/
theorem pending_breadthFirst
    (bounded : ∀ {node path}, Chain links root path node → node ∈ universe_nodes)
    (enough : universe_nodes.length ≤ fuel) : (search links fuel (start root)).pending = [] := by
  have started : Explored links root [] (start (ε := ε) root).pending
      (List.flatMap links.next []) (start (ε := ε) root).paths := explored_start root
  obtain ⟨-, -, done⟩ := started.search bounded enough
  exact done

/-- A recorded chain leads from the root to its node. -/
theorem chain_of_breadthFirst
    (bounded : ∀ {node path}, Chain links root path node → node ∈ universe_nodes)
    (enough : universe_nodes.length ≤ fuel) {node : ν} {path : List ε}
    (found : (breadthFirst links fuel root).get? node = some path) : Chain links root path node := by
  obtain ⟨_, explored⟩ := explored_breadthFirst bounded enough
  exact explored.chains node path found

/-- Every node a chain leads to is met. -/
theorem mem_keys_breadthFirst
    (bounded : ∀ {node path}, Chain links root path node → node ∈ universe_nodes)
    (enough : universe_nodes.length ≤ fuel) {node : ν} {path : List ε}
    (chain : Chain links root path node) : node ∈ (breadthFirst links fuel root).keys := by
  obtain ⟨_, explored⟩ := explored_breadthFirst bounded enough
  induction chain with
  | nil => exact explored.rooted
  | snoc _ leaves ih =>
    rw [explored.order, List.append_nil] at ih
    exact explored.closed _ (List.mem_flatMap.mpr ⟨_, ih, leaves⟩)

/-- A recorded chain comes before every other chain to its node. -/
theorem breadthFirst_least
    (bounded : ∀ {node path}, Chain links root path node → node ∈ universe_nodes)
    (enough : universe_nodes.length ≤ fuel) {node : ν} {path other : List ε}
    (found : (breadthFirst links fuel root).get? node = some path)
    (chain : Chain links root other node) : path = other ∨ Before links path other := by
  obtain ⟨_, explored⟩ := explored_breadthFirst bounded enough
  exact explored.least node path found other chain

/-- The recorded chain is the one that comes before every other. -/
theorem breadthFirst_eq_some_iff
    (bounded : ∀ {node path}, Chain links root path node → node ∈ universe_nodes)
    (enough : universe_nodes.length ≤ fuel) {node : ν} {path : List ε} :
    (breadthFirst links fuel root).get? node = some path ↔ First links root path node := by
  constructor
  · intro found
    exact ⟨chain_of_breadthFirst bounded enough found,
      fun other => breadthFirst_least bounded enough found⟩
  · intro ⟨chain, first⟩
    obtain ⟨known, found⟩ := Dict.exists_get? (mem_keys_breadthFirst bounded enough chain)
    rcases first known (chain_of_breadthFirst bounded enough found) with rfl | before
    · exact found
    · rcases breadthFirst_least bounded enough found chain with rfl | after
      · exact found
      · exact absurd (before.trans after) (Before.irrefl _)

end

/-! ## A search from several roots -/

section

omit [DecidableEq ε]

/-- The search at its start from several roots. -/
def startAll (roots : List ν) : Search ν ε := ⟨roots, Dict.ofList (roots.map fun root => (root, []))⟩

/-- A node that a chain from one of the roots leads to. -/
def Reachable (links : Links ν ε) (roots : List ν) (node : ν) : Prop :=
  ∃ root ∈ roots, ∃ path, Chain links root path node

/-- What holds of the nodes met when the edges `followed` were followed from the nodes
`finished`, with `pending` still to come. -/
structure Met (links : Links ν ε) (roots finished pending : List ν) (followed : List ε)
    (paths : Dict ν (List ε)) : Prop where
  order : paths.keys = finished ++ pending
  rooted : ∀ root ∈ roots, root ∈ paths.keys
  reachable : ∀ node ∈ paths.keys, Reachable links roots node
  closed : ∀ edge ∈ followed, links.target edge ∈ paths.keys

variable {roots : List ν}

theorem met_startAll (distinct : roots.Nodup) :
    Met links roots [] roots [] (startAll (ε := ε) roots).paths := by
  have pairs : ((roots.map fun root => (root, ([] : List ε))).map Prod.fst) = roots := by
    rw [List.map_map]
    exact List.map_id roots
  have keys : (startAll (ε := ε) roots).paths.keys = roots := by
    rw [startAll, Dict.keys, Dict.ofList_entries (pairs.symm ▸ distinct), pairs]
  refine ⟨keys, fun root membership => by rwa [keys], fun node known => ?_, by simp⟩
  rw [keys] at known
  exact ⟨node, known, [], .nil⟩

/-- Following one more edge from a node that was met keeps the invariant. -/
theorem Met.visit {finished : List ν} {followed : List ε} {current : ν} {edge : ε}
    {state : Search ν ε} (met : Met links roots finished state.pending followed state.paths)
    (known : current ∈ state.paths.keys) (leaves : edge ∈ links.next current) (path : List ε) :
    Met links roots finished (BreadthFirst.visit links path state edge).pending (followed ++ [edge])
      (BreadthFirst.visit links path state edge).paths := by
  rw [BreadthFirst.visit]
  split
  next old =>
    refine { met with closed := fun other membership => ?_ }
    rcases List.mem_append.mp membership with earlier | last
    · exact met.closed other earlier
    · rw [List.mem_singleton.mp last]
      exact old
  next fresh =>
    have keys : (state.paths.set (links.target edge) (path ++ [edge])).keys =
        state.paths.keys ++ [links.target edge] := by rw [Dict.keys_set, if_neg fresh]
    refine ⟨?_, fun root membership => ?_, fun node inside => ?_, fun other membership => ?_⟩
    · rw [keys, met.order, List.append_assoc]
    · rw [keys]
      exact List.mem_append_left _ (met.rooted root membership)
    · rw [keys] at inside
      rcases List.mem_append.mp inside with earlier | last
      · exact met.reachable node earlier
      · obtain ⟨root, membership, before, chain⟩ := met.reachable current known
        rw [List.mem_singleton.mp last]
        exact ⟨root, membership, _, chain.snoc leaves⟩
    · rw [keys]
      rcases List.mem_append.mp membership with earlier | last
      · exact List.mem_append_left _ (met.closed other earlier)
      · rw [List.mem_singleton.mp last]
        exact List.mem_append_right _ (List.mem_singleton_self _)

theorem Met.visits {finished : List ν} {followed edges : List ε} {current : ν}
    {state : Search ν ε} (met : Met links roots finished state.pending followed state.paths)
    (known : current ∈ state.paths.keys) (leave : ∀ edge ∈ edges, edge ∈ links.next current)
    (path : List ε) :
    Met links roots finished (edges.foldl (BreadthFirst.visit links path) state).pending
      (followed ++ edges) (edges.foldl (BreadthFirst.visit links path) state).paths := by
  induction edges generalizing followed state with
  | nil => simpa using met
  | cons edge rest ih =>
    have kept : current ∈ (BreadthFirst.visit links path state edge).paths.keys := by
      obtain ⟨recorded, found⟩ := Dict.exists_get? known
      exact Dict.mem_keys_of_get? (visit_get? found)
    have later := ih (met.visit known (leave edge (by simp)) path) kept
      fun other inside => leave other (List.mem_cons_of_mem _ inside)
    simpa using later

/-- A search with enough fuel has nothing left to do. -/
theorem Met.search {finished universe_nodes : List ν} {fuel : Nat} {state : Search ν ε}
    (met : Met links roots finished state.pending (finished.flatMap links.next) state.paths)
    (bounded : ∀ node, Reachable links roots node → node ∈ universe_nodes)
    (enough : universe_nodes.length ≤ fuel + finished.length) :
    ∃ finished', Met links roots finished' [] (finished'.flatMap links.next)
      (search links fuel state).paths := by
  induction fuel generalizing finished state with
  | zero =>
    have inside : state.paths.keys ⊆ universe_nodes :=
      fun node known => bounded node (met.reachable node known)
    have size := (List.subperm_of_subset state.paths.keys_nodup inside).length_le
    rw [met.order, List.length_append] at size
    have nothing : state.pending = [] := List.length_eq_zero_iff.mp (by omega)
    exact ⟨finished, nothing ▸ met⟩
  | succ fuel ih =>
    rw [BreadthFirst.search]
    split
    next nothing => exact ⟨finished, nothing ▸ met⟩
    next current rest pending =>
      have known : current ∈ state.paths.keys := by simp [met.order, pending]
      have opened : Met links roots (finished ++ [current])
          ({ state with pending := rest } : Search ν ε).pending (finished.flatMap links.next)
          ({ state with pending := rest } : Search ν ε).paths :=
        { met with order := by rw [met.order, pending]; simp }
      have followed := opened.visits known (fun _ leaves => leaves)
        ((state.paths.get? current).getD [])
      have later : universe_nodes.length ≤ fuel + (finished ++ [current]).length := by
        rw [List.length_append, List.length_singleton]
        omega
      refine ih ?_ later
      simpa using followed

/-- The search meets the nodes that can be reached, and no others. -/
theorem mem_keys_searchAll {universe_nodes : List ν} {fuel : Nat} (distinct : roots.Nodup)
    (bounded : ∀ node, Reachable links roots node → node ∈ universe_nodes)
    (enough : universe_nodes.length ≤ fuel) {node : ν} :
    node ∈ (search links fuel (startAll roots)).paths.keys ↔ Reachable links roots node := by
  have started : Met links roots [] (startAll (ε := ε) roots).pending
      (List.flatMap links.next []) (startAll (ε := ε) roots).paths := met_startAll distinct
  obtain ⟨finished, met⟩ := started.search bounded enough
  constructor
  · exact met.reachable node
  · rintro ⟨root, membership, path, chain⟩
    induction chain with
    | nil => exact met.rooted root membership
    | snoc _ leaves ih =>
      rw [met.order, List.append_nil] at ih
      exact met.closed _ (List.mem_flatMap.mpr ⟨_, ih, leaves⟩)

end

/-! ## Chains that avoid edges -/

section

/-- The graph without some edges. -/
def Links.without (links : Links ν ε) (cut : ε → Bool) : Links ν ε where
  next node := (links.next node).filter fun edge => !cut edge
  source := links.source
  target := links.target
  sourced node edge leaves := links.sourced node edge (List.mem_of_mem_filter leaves)

omit [DecidableEq ν] [DecidableEq ε] in
/-- The chains without some edges are the chains that avoid them. -/
theorem chain_without_iff {cut : ε → Bool} {root node : ν} {path : List ε} :
    Chain (links.without cut) root path node ↔
      Chain links root path node ∧ ∀ edge ∈ path, cut edge = false := by
  constructor
  · intro chain
    induction chain with
    | nil => exact ⟨.nil, fun _ impossible => absurd impossible List.not_mem_nil⟩
    | @snoc path node edge _ leaves ih =>
      obtain ⟨whole, avoids⟩ := ih
      obtain ⟨next, kept⟩ := List.mem_filter.mp leaves
      refine ⟨whole.snoc next, fun other membership => ?_⟩
      rcases List.mem_append.mp membership with earlier | last
      · exact avoids other earlier
      · rw [List.mem_singleton.mp last]
        simpa using kept
  · rintro ⟨chain, avoids⟩
    induction chain with
    | nil => exact .nil
    | @snoc path node edge _ leaves ih =>
      have earlier := ih fun other membership => avoids other (List.mem_append_left _ membership)
      have kept : edge ∈ (links.without cut).next node :=
        List.mem_filter.mpr ⟨leaves, by simpa using avoids edge (by simp)⟩
      exact @Chain.snoc _ _ (links.without cut) _ _ _ _ earlier kept

/-- Every chain to a node takes one of some edges exactly when the search without them does not
meet it. -/
theorem forall_chain_meets_iff {root : ν} {universe_nodes : List ν} {fuel : Nat}
    (bounded : ∀ {node path}, Chain links root path node → node ∈ universe_nodes)
    (enough : universe_nodes.length ≤ fuel) {cut : ε → Bool} {node : ν} :
    (∀ path, Chain links root path node → ∃ edge ∈ path, cut edge = true) ↔
      node ∉ (breadthFirst (links.without cut) fuel root).keys := by
  have below : ∀ {node path}, Chain (links.without cut) root path node → node ∈ universe_nodes :=
    fun chain => bounded (chain_without_iff.mp chain).1
  constructor
  · intro meets reached
    obtain ⟨path, found⟩ := Dict.exists_get? reached
    obtain ⟨chain, avoids⟩ := chain_without_iff.mp (chain_of_breadthFirst below enough found)
    obtain ⟨edge, membership, isCut⟩ := meets path chain
    rw [avoids edge membership] at isCut
    cases isCut
  · intro unreached path chain
    by_contra avoided
    refine unreached (mem_keys_breadthFirst below enough (chain_without_iff.mpr ⟨chain, ?_⟩))
    intro edge membership
    by_contra isCut
    exact avoided ⟨edge, membership, eq_true_of_ne_false isCut⟩

end

/-! ## The search for one node -/

/-- The queue of the search for a goal is the queue of the search, with the recorded chains. -/
structure Matches (goal : ν) (queue : List (ν × List ε)) (visited : List ν) (state : Search ν ε) :
    Prop where
  pending : queue.map Prod.fst = state.pending
  visited : visited = state.paths.keys
  recorded : ∀ entry ∈ queue, state.paths.get? entry.1 = some entry.2
  ahead : goal ∈ state.paths.keys → goal ∈ state.pending

omit [DecidableEq ε] in
theorem Matches.visit {goal : ν} {queue : List (ν × List ε)} {visited : List ν}
    {state : Search ν ε} (same : Matches goal queue visited state) (path : List ε) (edge : ε) :
    Matches goal (enqueue links path (queue, visited) edge).1
      (enqueue links path (queue, visited) edge).2 (visit links path state edge) := by
  rw [enqueue, BreadthFirst.visit, same.visited]
  split
  next => exact ⟨same.pending, rfl, same.recorded, same.ahead⟩
  next fresh =>
    refine ⟨by simp [same.pending], by rw [Dict.keys_set, if_neg fresh], ?_, ?_⟩
    · intro entry membership
      rcases List.mem_append.mp membership with earlier | last
      · have found := same.recorded entry earlier
        rw [Dict.get?_set, if_neg]
        · exact found
        · intro equal
          exact fresh (equal ▸ Dict.mem_keys_of_get? found)
      · rw [List.mem_singleton.mp last, Dict.get?_set, if_pos rfl]
    · intro known
      rw [Dict.mem_keys_set] at known
      refine List.mem_append.mpr (known.symm.imp same.ahead fun equal => ?_)
      exact equal ▸ List.mem_singleton_self _

omit [DecidableEq ε] in
theorem Matches.visits {goal : ν} {edges : List ε} {queue : List (ν × List ε)} {visited : List ν}
    {state : Search ν ε} (same : Matches goal queue visited state) (path : List ε) :
    Matches goal (edges.foldl (enqueue links path) (queue, visited)).1
      (edges.foldl (enqueue links path) (queue, visited)).2
      (edges.foldl (BreadthFirst.visit links path) state) := by
  induction edges generalizing queue visited state with
  | nil => exact same
  | cons edge rest ih => exact ih (same.visit path edge)

omit [DecidableEq ε] in
/-- The search for a goal finds the chain the search records for it. -/
theorem Matches.findFrom {goal : ν} {fuel : Nat} {queue : List (ν × List ε)} {visited : List ν}
    {state : Search ν ε} (same : Matches goal queue visited state)
    (done : (search links fuel state).pending = []) :
    findFrom links goal fuel queue visited = (search links fuel state).paths.get? goal := by
  induction fuel generalizing queue visited state with
  | zero =>
    rw [BreadthFirst.search] at done ⊢
    refine Eq.symm ((Dict.get?_eq_none _ _).mpr fun known => ?_)
    have pending := same.ahead known
    rw [done] at pending
    exact List.not_mem_nil pending
  | succ fuel ih =>
    cases queue with
    | nil =>
      have nothing : state.pending = [] := same.pending.symm
      rw [BreadthFirst.findFrom, BreadthFirst.search, nothing]
      refine Eq.symm ((Dict.get?_eq_none _ _).mpr fun known => ?_)
      have pending := same.ahead known
      rw [nothing] at pending
      exact List.not_mem_nil pending
    | cons entry rest =>
      obtain ⟨current, path⟩ := entry
      have here : state.paths.get? current = some path := same.recorded (current, path) (by simp)
      have pending : state.pending = current :: rest.map Prod.fst := same.pending.symm
      rw [BreadthFirst.findFrom]
      split
      next reached => exact (search_get? (reached ▸ here)).symm
      next elsewhere =>
        rw [BreadthFirst.search, pending] at done ⊢
        simp only [here, Option.getD_some] at done ⊢
        refine ih (Matches.visits ?_ path) done
        refine ⟨rfl, same.visited, ?_, fun known => ?_⟩
        · exact fun entry inside => same.recorded entry (List.mem_cons_of_mem _ inside)
        · have ahead := same.ahead known
          rw [pending] at ahead
          exact (List.mem_cons.mp ahead).resolve_left (Ne.symm elsewhere)

/-- The search that stops at a goal finds the recorded chain. -/
theorem findPath_eq {root goal : ν} {universe_nodes : List ν} {fuel : Nat}
    (bounded : ∀ {node path}, Chain links root path node → node ∈ universe_nodes)
    (enough : universe_nodes.length ≤ fuel) :
    findPath links fuel root goal = (breadthFirst links fuel root).get? goal := by
  have started : Explored links root [] (start (ε := ε) root).pending
      (List.flatMap links.next []) (start (ε := ε) root).paths := explored_start root
  obtain ⟨_, _, done⟩ := started.search bounded enough
  have same : Matches goal [(root, [])] [root] (start (ε := ε) root) := by
    refine ⟨rfl, ?_, ?_, ?_⟩
    · simp [start, Dict.keys_set]
    · intro entry membership
      rw [List.mem_singleton.mp membership, start, Dict.get?_set, if_pos rfl]
    · intro known
      simpa [start, Dict.keys_set] using known
  exact same.findFrom done

end

end BreadthFirst
