import Mathlib.Logic.Relation
import Mathlib.Data.Set.Finite.Lattice
import Mathlib.Order.Preorder.Finite

/-!
# Queries that ask queries

A function that answers a query by asking others, one after the other, what it asks next depending
on the answers it got (`Plan`).  It is run with fuel for the depth of the nesting (`answer`), and a
query ends if some fuel is enough (`Ends`).

A query asks another one on its way to an answer (`Calls`).  It ends if all that it asks does
(`ends_iff`), and not if it is asked again below itself (`not_ends_of_returns`).  Where the rank of
the queries falls along the calls, up to finitely many keys, a query that does not end comes back to
a key (`exists_returns`).
-/

namespace Recursion

variable {Query Answer : Type}

/-- How a query is answered: at once, or after the answer to another one. -/
inductive Plan (Query Answer : Type) where
  | done (answer : Answer)
  | ask (query : Query) (next : Answer → Plan Query Answer)

/-- The answer of a plan, where what it asks is answered. -/
def Plan.run (answer? : Query → Option Answer) : Plan Query Answer → Option Answer
  | .done answer => some answer
  | .ask query next => (answer? query).bind fun answer => (next answer).run answer?

/-- The answer to a query within a depth. -/
def answer (plan : Query → Plan Query Answer) : Nat → Query → Option Answer
  | 0, _ => none
  | fuel + 1, query => (plan query).run (answer plan fuel)

/-- A query that is answered within some depth. -/
def Ends (plan : Query → Plan Query Answer) (query : Query) : Prop :=
  ∃ fuel, (answer plan fuel query).isSome = true

/-- The queries a plan asks on its way to an answer. -/
inductive Plan.Asks (plan : Query → Plan Query Answer) : Plan Query Answer → Query → Prop where
  | now {query : Query} {next : Answer → Plan Query Answer} : Asks plan (.ask query next) query
  | later {query query' : Query} {next : Answer → Plan Query Answer} {fuel : Nat} {value : Answer}
      (answered : answer plan fuel query = some value) (rest : Asks plan (next value) query') :
      Asks plan (.ask query next) query'

/-- A query asks another one. -/
def Calls (plan : Query → Plan Query Answer) (query query' : Query) : Prop :=
  (plan query).Asks plan query'

/-- A query is asked again below itself. -/
def Returns (plan : Query → Plan Query Answer) (query : Query) : Prop :=
  Relation.TransGen (Calls plan) query query

section

variable {plan : Query → Plan Query Answer}

/-! ## Fuel -/

theorem Plan.run_mono {first second : Query → Option Answer}
    (more : ∀ query value, first query = some value → second query = some value) :
    ∀ (p : Plan Query Answer) {value : Answer}, p.run first = some value →
      p.run second = some value := by
  intro p
  induction p with
  | done answer => exact id
  | ask query next ih =>
    intro value ran
    obtain ⟨reply, asked, rest⟩ := Option.bind_eq_some_iff.mp ran
    rw [Plan.run, more query reply asked]
    exact ih reply rest

theorem answer_succ {fuel : Nat} {query : Query} {value : Answer}
    (answered : answer plan fuel query = some value) :
    answer plan (fuel + 1) query = some value := by
  induction fuel generalizing query value with
  | zero => cases answered
  | succ fuel ih => exact Plan.run_mono (fun _ _ => ih) _ answered

theorem answer_mono {fuel more : Nat} {query : Query} {value : Answer} (atLeast : fuel ≤ more)
    (answered : answer plan fuel query = some value) : answer plan more query = some value := by
  induction atLeast with
  | refl => exact answered
  | step _ ih => exact answer_succ ih

/-- Whatever the depth, a query has one answer. -/
theorem answer_unique {fuel fuel' : Nat} {query : Query} {value value' : Answer}
    (answered : answer plan fuel query = some value)
    (answered' : answer plan fuel' query = some value') : value = value' := by
  have one := answer_mono (Nat.le_max_left fuel fuel') answered
  have other := answer_mono (Nat.le_max_right fuel fuel') answered'
  exact Option.some.inj (one.symm.trans other)

/-! ## Calls -/

theorem Plan.Asks.answered {p : Plan Query Answer} {query : Query} (asks : p.Asks plan query) :
    ∀ {fuel : Nat}, (p.run (answer plan fuel)).isSome = true →
      (answer plan fuel query).isSome = true := by
  induction asks with
  | now =>
    intro fuel ran
    obtain ⟨value, ran⟩ := Option.isSome_iff_exists.mp ran
    obtain ⟨reply, asked, -⟩ := Option.bind_eq_some_iff.mp ran
    rw [asked]
    rfl
  | later answered rest ih =>
    intro fuel ran
    obtain ⟨value, ran⟩ := Option.isSome_iff_exists.mp ran
    obtain ⟨reply, asked, rest⟩ := Option.bind_eq_some_iff.mp ran
    rw [answer_unique asked answered] at rest
    exact ih (Option.isSome_iff_exists.mpr ⟨value, rest⟩)

/-- What a query asks is answered at less depth than the query. -/
theorem Calls.answered {query query' : Query} (calls : Calls plan query query') {fuel : Nat}
    (answered : (answer plan fuel query).isSome = true) :
    ∃ less < fuel, (answer plan less query').isSome = true := by
  cases fuel with
  | zero => cases answered
  | succ fuel => exact ⟨fuel, Nat.lt_succ_self _, Plan.Asks.answered calls answered⟩

theorem Plan.exists_run {p : Plan Query Answer} (ends : ∀ query, p.Asks plan query →
    Ends plan query) : ∃ fuel, (p.run (answer plan fuel)).isSome = true := by
  induction p with
  | done value => exact ⟨0, rfl⟩
  | ask query next ih =>
    obtain ⟨fuel, answered⟩ := ends query .now
    obtain ⟨value, answered⟩ := Option.isSome_iff_exists.mp answered
    obtain ⟨fuel', ran⟩ := ih value fun query' rest => ends query' (.later answered rest)
    obtain ⟨last, ran⟩ := Option.isSome_iff_exists.mp ran
    refine ⟨max fuel fuel', ?_⟩
    rw [Plan.run, answer_mono (Nat.le_max_left _ _) answered]
    have rest : (next value).run (answer plan (max fuel fuel')) = some last :=
      Plan.run_mono (fun _ _ => answer_mono (Nat.le_max_right _ _)) _ ran
    exact Option.isSome_iff_exists.mpr ⟨last, rest⟩

/-- A query ends if all that it asks ends. -/
theorem ends_iff {query : Query} :
    Ends plan query ↔ ∀ query', Calls plan query query' → Ends plan query' := by
  constructor
  · rintro ⟨fuel, answered⟩ query' calls
    obtain ⟨less, -, answered'⟩ := calls.answered answered
    exact ⟨less, answered'⟩
  · intro ends
    obtain ⟨fuel, ran⟩ := Plan.exists_run ends
    exact ⟨fuel + 1, ran⟩

theorem answered_of_transGen {query query' : Query}
    (below : Relation.TransGen (Calls plan) query query') {fuel : Nat}
    (answered : (answer plan fuel query).isSome = true) :
    ∃ less < fuel, (answer plan less query').isSome = true := by
  induction below with
  | single calls => exact calls.answered answered
  | tail _ calls ih =>
    obtain ⟨less, isLess, answered'⟩ := ih
    obtain ⟨least, isLeast, answered''⟩ := calls.answered answered'
    exact ⟨least, isLeast.trans isLess, answered''⟩

/-- A query that is asked again below itself does not end. -/
theorem not_ends_of_returns {query : Query} (returns : Returns plan query) :
    ¬ Ends plan query := by
  rintro ⟨fuel, answered⟩
  induction fuel using Nat.strong_induction_on with
  | _ fuel ih =>
    obtain ⟨less, isLess, answered'⟩ := answered_of_transGen returns answered
    exact ih less isLess answered'

theorem ends_of_reflTransGen {query query' : Query} (ends : Ends plan query)
    (below : Relation.ReflTransGen (Calls plan) query query') : Ends plan query' := by
  induction below with
  | refl => exact ends
  | tail _ calls ih => exact ends_iff.mp ih _ calls

/-! ## Endless queries -/

/-- Below a query that does not end the calls go on for ever. -/
theorem exists_endless {query : Query} (endless : ¬ Ends plan query) :
    ∃ chain : Nat → Query, chain 0 = query ∧ ∀ n, Calls plan (chain n) (chain (n + 1)) := by
  have next : ∀ q : {q // ¬ Ends plan q}, ∃ q' : {q // ¬ Ends plan q}, Calls plan q.1 q'.1 := by
    rintro ⟨q, endless⟩
    rw [ends_iff] at endless
    push Not at endless
    obtain ⟨q', calls, endless'⟩ := endless
    exact ⟨⟨q', endless'⟩, calls⟩
  choose after follows using next
  refine ⟨fun n => (after^[n] ⟨query, endless⟩).1, rfl, fun n => ?_⟩
  have step := follows (after^[n] ⟨query, endless⟩)
  rwa [← Function.iterate_succ_apply' after n] at step

theorem reflTransGen_chain {chain : Nat → Query}
    (calls : ∀ n, Calls plan (chain n) (chain (n + 1))) (first : Nat) :
    ∀ steps, Relation.ReflTransGen (Calls plan) (chain first) (chain (first + steps)) := by
  intro steps
  induction steps with
  | zero => exact .refl
  | succ steps ih => exact ih.tail (calls (first + steps))

/-- Where only finitely many calls do not lower the rank, an endless query comes back to one. -/
theorem exists_returns {query : Query} (keys : Set Query) (finite : keys.Finite)
    (rank : Query → Nat)
    (falls : ∀ q q', Relation.ReflTransGen (Calls plan) query q → Calls plan q q' →
      q' ∈ keys ∨ rank q' < rank q)
    (endless : ¬ Ends plan query) :
    ∃ q ∈ keys, Relation.ReflTransGen (Calls plan) query q ∧ Returns plan q := by
  obtain ⟨chain, start, calls⟩ := exists_endless endless
  have reached : ∀ n, Relation.ReflTransGen (Calls plan) query (chain n) := by
    intro n
    have below := reflTransGen_chain calls 0 n
    rwa [start, Nat.zero_add] at below
  -- The rank cannot fall for ever, so the chain meets the keys again and again.
  have again : ∀ n, ∃ m > n, chain m ∈ keys := by
    intro n
    by_contra never
    push Not at never
    have bound : ∀ steps, rank (chain (n + steps)) + steps ≤ rank (chain n) := by
      intro steps
      induction steps with
      | zero => exact le_refl _
      | succ steps ih =>
        have lower := (falls _ _ (reached (n + steps)) (calls (n + steps))).resolve_left
          (never _ (by omega))
        have same : n + (steps + 1) = n + steps + 1 := rfl
        rw [same]
        omega
    have contradiction := bound (rank (chain n) + 1)
    omega
  have infinite : {n | chain n ∈ keys}.Infinite := by
    refine Set.infinite_of_not_bddAbove ?_
    rintro ⟨bound, isBound⟩
    obtain ⟨m, later, isKey⟩ := again bound
    exact absurd (isBound isKey) (by omega)
  have mapsTo : Set.MapsTo chain {n | chain n ∈ keys} keys := fun _ isKey => isKey
  obtain ⟨i, isKey, j, -, before, same⟩ := infinite.exists_lt_map_eq_of_mapsTo mapsTo finite
  refine ⟨chain i, isKey, reached i, ?_⟩
  have below := reflTransGen_chain calls (i + 1) (j - (i + 1))
  rw [Nat.add_sub_cancel' before, ← same] at below
  exact .head' (calls i) below

end

end Recursion
