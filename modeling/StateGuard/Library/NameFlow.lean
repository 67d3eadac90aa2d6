import Mathlib.Data.List.Induction

/-!
# The flow of names

A program binds names in steps.  In each step some writes may happen, in any order and any number
of times, and then the others happen (`Step`).  A write binds a name to itself together with what
the name that it reads for it was bound to (`Bound`), so that what a name is bound to is the chain
of writes it comes from.

`Reaches` are the states that a program may reach.  `Flows` follows one name at a time: back to a
write that may be the last of the name, and from there to the name that the write reads.
`flows_iff` says that nothing is lost by this: every chain that flows to a name is the binding of
the name in a state that is reached.

What is wanted of a name is a demand on the writes of its chain (`Demand`).  By `met_iff` it is met
in every state if no write that is refused is found on the way back (`Spoiled`).
-/

namespace NameFlow

section

variable {Write Name : Type}

/-- What a name is bound to: a write of the name, with what the name that it reads was bound to. -/
inductive Bound (Write Name : Type) where
  | mk (write : Write) (name : Name) (source : Option (Bound Write Name))

/-- The writes of one step: those that may happen, and those that happen after them. -/
structure Step (Write : Type) where
  may : Write → Prop
  must : List Write

/-- A step before the writes that happen. -/
def Step.during (step : Step Write) : Step Write := ⟨step.may, []⟩

/-- Which names a write binds, and which name it reads for each. -/
structure Names (Write Name : Type) where
  binds : Write → Name → Bool
  reads : Write → Name → Option Name

variable (names : Names Write Name)

abbrev State (Write Name : Type) := Name → Option (Bound Write Name)

/-- What a write binds a name to, in the state it is evaluated in. -/
def Names.bound (state : State Write Name) (write : Write) (name : Name) : Bound Write Name :=
  .mk write name ((names.reads write name).bind state)

/-- A write that is evaluated in one state and happens in another. -/
def Names.store (evaluated state : State Write Name) (write : Write) : State Write Name :=
  fun name =>
    if names.binds write name then some (names.bound evaluated write name) else state name

/-- The writes that happen are evaluated before the first of them. -/
def Names.storeAll (evaluated state : State Write Name) (writes : List Write) :
    State Write Name :=
  writes.foldl (names.store evaluated) state

/-- Some of the writes happen, one after the other. -/
inductive Wanders (may : Write → Prop) : State Write Name → State Write Name → Prop where
  | rest {state} : Wanders may state state
  | write {first state write} (earlier : Wanders may first state) (listed : may write) :
      Wanders may first (names.store state state write)

/-- The states after some steps, of which the latest comes first. -/
inductive Reaches : List (Step Write) → State Write Name → Prop where
  | start : Reaches [] fun _ => none
  | step {earlier step state state'} (before : Reaches earlier state)
      (wanders : Wanders names step.may state state') :
      Reaches (step :: earlier) (names.storeAll state' state' step.must)

/-- The last of the writes that bind a name. -/
def Names.lastWrite (writes : List Write) (name : Name) : Option Write :=
  (writes.filter (names.binds · name)).getLast?

/-- What flows to a name in some steps, of which the latest comes first. -/
inductive Flows : List (Step Write) → Name → Option (Bound Write Name) → Prop where
  | start {name} : Flows [] name none
  | must {earlier step name write source} (last : names.lastWrite step.must name = some write)
      (unread : names.reads write name = none → source = none)
      (read : ∀ other, names.reads write name = some other →
        Flows (step.during :: earlier) other source) :
      Flows (step :: earlier) name (some (.mk write name source))
  | may {earlier step name write source} (kept : names.lastWrite step.must name = none)
      (listed : step.may write) (binds : names.binds write name = true)
      (unread : names.reads write name = none → source = none)
      (read : ∀ other, names.reads write name = some other →
        Flows (step.during :: earlier) other source) :
      Flows (step :: earlier) name (some (.mk write name source))
  | keep {earlier step name bound} (kept : names.lastWrite step.must name = none)
      (flows : Flows earlier name bound) : Flows (step :: earlier) name bound

variable {names}

/-! ## The last write -/

theorem storeAll_append (evaluated state : State Write Name) (first second : List Write) :
    names.storeAll evaluated state (first ++ second) =
      names.storeAll evaluated (names.storeAll evaluated state first) second :=
  List.foldl_append

/-- After the writes that happen, a name is bound to the last of them that binds it. -/
theorem storeAll_apply (evaluated state : State Write Name) (writes : List Write) (name : Name) :
    names.storeAll evaluated state writes name =
      match names.lastWrite writes name with
      | some write => some (names.bound evaluated write name)
      | none => state name := by
  induction writes using List.reverseRecOn with
  | nil => rfl
  | append_singleton writes write ih =>
    rw [storeAll_append]
    by_cases hbinds : names.binds write name = true
    · simp [Names.storeAll, Names.store, Names.lastWrite, hbinds]
    · have hlast : names.lastWrite (writes ++ [write]) name = names.lastWrite writes name := by
        simp [Names.lastWrite, hbinds]
      rw [hlast, ← ih]
      simp [Names.storeAll, Names.store, hbinds]

/-! ## Reached states -/

/-- What flows to a name in the middle of a step flows to it after the step, if none of the writes
that happen binds it. -/
theorem Flows.after {earlier : List (Step Write)} {step : Step Write} {name : Name}
    {bound : Option (Bound Write Name)} (h : Flows names (step.during :: earlier) name bound)
    (kept : names.lastWrite step.must name = none) : Flows names (step :: earlier) name bound := by
  cases h with
  | must last => cases last
  | may _ listed binds unread read => exact .may kept listed binds unread read
  | keep _ flows => exact .keep kept flows

/-- What a write binds in a state flows from what flows to the names of the state. -/
theorem flows_bound {steps : List (Step Write)} {state : State Write Name}
    (h : ∀ name, Flows names steps name (state name)) (write : Write) (name : Name) :
    (names.reads write name = none → (names.reads write name).bind state = none) ∧
      ∀ other, names.reads write name = some other →
        Flows names steps other ((names.reads write name).bind state) := by
  constructor
  · intro hunread
    rw [hunread, Option.bind_none]
  · intro other hread
    rw [hread, Option.bind_some]
    exact h other

theorem flows_of_wanders {earlier : List (Step Write)} {step : Step Write}
    {first state : State Write Name} (before : ∀ name, Flows names earlier name (first name))
    (h : Wanders names step.may first state) :
    ∀ name, Flows names (step.during :: earlier) name (state name) := by
  induction h with
  | rest => exact fun name => .keep rfl (before name)
  | @write state write _ listed ih =>
    intro name
    by_cases hbinds : names.binds write name = true
    · obtain ⟨unread, read⟩ := flows_bound ih write name
      rw [Names.store, if_pos hbinds]
      exact .may rfl listed hbinds unread read
    · rw [Names.store, if_neg hbinds]
      exact ih name

/-- Every name of a state that is reached is bound to a chain that flows to it. -/
theorem flows_of_reaches {steps : List (Step Write)} {state : State Write Name}
    (h : Reaches names steps state) : ∀ name, Flows names steps name (state name) := by
  induction h with
  | start => exact fun _ => .start
  | @step earlier step state state' _ wanders ih =>
    have inside := flows_of_wanders ih wanders
    intro name
    rw [storeAll_apply]
    cases hlast : names.lastWrite step.must name with
    | none => exact (inside name).after hlast
    | some write =>
      obtain ⟨unread, read⟩ := flows_bound inside write name
      exact .must hlast unread read

/-! ## Chains that flow -/

variable (names) in
/-- Some state is always reached. -/
theorem exists_reaches (steps : List (Step Write)) : ∃ state, Reaches names steps state := by
  induction steps with
  | nil => exact ⟨_, .start⟩
  | cons step earlier ih =>
    obtain ⟨state, before⟩ := ih
    exact ⟨_, .step before .rest⟩

/-- The states in the middle of a step are those before the writes that happen. -/
theorem reaches_during_iff {earlier : List (Step Write)} {step : Step Write}
    {state : State Write Name} : Reaches names (step.during :: earlier) state ↔
      ∃ first, Reaches names earlier first ∧ Wanders names step.may first state := by
  constructor
  · intro h
    cases h with
    | step before wanders => exact ⟨_, before, wanders⟩
  · rintro ⟨first, before, wanders⟩
    exact .step before wanders

/-- A state in the middle of a step in which a write reads its source. -/
theorem exists_source {earlier : List (Step Write)} {step : Step Write} {write : Write}
    {name : Name} {source : Option (Bound Write Name)}
    (unread : names.reads write name = none → source = none)
    (read : ∀ other, names.reads write name = some other →
      ∃ state, Reaches names (step.during :: earlier) state ∧ state other = source) :
    ∃ state, Reaches names (step.during :: earlier) state ∧
      names.bound state write name = .mk write name source := by
  cases hreads : names.reads write name with
  | none =>
    obtain ⟨state, reached⟩ := exists_reaches names (step.during :: earlier)
    exact ⟨state, reached, by rw [Names.bound, hreads, unread hreads, Option.bind_none]⟩
  | some other =>
    obtain ⟨state, reached, hsource⟩ := read other hreads
    exact ⟨state, reached, by rw [Names.bound, hreads, Option.bind_some, hsource]⟩

/-- A chain that flows to a name is the binding of the name in a state that is reached. -/
theorem Flows.reached {steps : List (Step Write)} {name : Name}
    {bound : Option (Bound Write Name)} (h : Flows names steps name bound) :
    ∃ state, Reaches names steps state ∧ state name = bound := by
  induction h with
  | start => exact ⟨_, .start, rfl⟩
  | @must earlier step name write source last unread _ ih =>
    obtain ⟨state, reached, hbound⟩ := exists_source unread ih
    obtain ⟨first, before, wanders⟩ := reaches_during_iff.1 reached
    refine ⟨_, .step before wanders, ?_⟩
    rw [storeAll_apply, last]
    exact congrArg some hbound
  | @may earlier step name write source kept listed binds unread _ ih =>
    obtain ⟨state, reached, hbound⟩ := exists_source unread ih
    obtain ⟨first, before, wanders⟩ := reaches_during_iff.1 reached
    refine ⟨_, .step before (.write wanders listed), ?_⟩
    rw [storeAll_apply, kept]
    exact (if_pos binds).trans (congrArg some hbound)
  | @keep earlier step name bound kept _ ih =>
    obtain ⟨state, reached, hstate⟩ := ih
    refine ⟨_, .step reached .rest, ?_⟩
    rw [storeAll_apply, kept]
    exact hstate

/-- The chains that flow to a name are its bindings in the states that are reached. -/
theorem flows_iff {steps : List (Step Write)} {name : Name} {bound : Option (Bound Write Name)} :
    Flows names steps name bound ↔ ∃ state, Reaches names steps state ∧ state name = bound := by
  constructor
  · exact Flows.reached
  · rintro ⟨state, reached, rfl⟩
    exact flows_of_reaches reached name

/-! ## Writes that reach a name -/

variable (names) in
/-- A write may be the last of a name in some steps.  It happens after some of the steps, the latest
of which may not be over. -/
inductive Last : List (Step Write) → Name → Write → List (Step Write) → Prop where
  | must {earlier step name write} (last : names.lastWrite step.must name = some write) :
      Last (step :: earlier) name write (step.during :: earlier)
  | may {earlier step name write} (kept : names.lastWrite step.must name = none)
      (listed : step.may write) (binds : names.binds write name = true) :
      Last (step :: earlier) name write (step.during :: earlier)
  | keep {earlier step name write before} (kept : names.lastWrite step.must name = none)
      (last : Last earlier name write before) : Last (step :: earlier) name write before

variable (names) in
/-- A name may be unbound after some steps. -/
def Unwritten (steps : List (Step Write)) (name : Name) : Prop :=
  ∀ step ∈ steps, names.lastWrite step.must name = none

theorem flows_none {steps : List (Step Write)} {name : Name} :
    Flows names steps name none ↔ Unwritten names steps name := by
  constructor
  · intro h
    generalize hnone : none = bound at h
    induction h with
    | start => exact fun _ listed => nomatch listed
    | must => cases hnone
    | may => cases hnone
    | keep kept _ ih =>
      intro step listed
      rcases List.mem_cons.1 listed with rfl | listed
      · exact kept
      · exact ih hnone step listed
  · intro h
    induction steps with
    | nil => exact .start
    | cons step earlier ih =>
      exact .keep (h step (List.mem_cons_self ..)) (ih fun s hs => h s (List.mem_cons_of_mem _ hs))

theorem Last.flows {steps before : List (Step Write)} {name : Name} {write : Write}
    {source : Option (Bound Write Name)} (h : Last names steps name write before)
    (unread : names.reads write name = none → source = none)
    (read : ∀ other, names.reads write name = some other → Flows names before other source) :
    Flows names steps name (some (.mk write name source)) := by
  induction h with
  | must last => exact .must last unread read
  | may kept listed binds => exact .may kept listed binds unread read
  | keep kept _ ih => exact .keep kept (ih unread read)

theorem Last.exists_flows {steps before : List (Step Write)} {name : Name} {write : Write}
    (h : Last names steps name write before) :
    ∃ source, Flows names steps name (some (.mk write name source)) := by
  obtain ⟨state, reached⟩ := exists_reaches names before
  obtain ⟨unread, read⟩ := flows_bound (flows_of_reaches reached) write name
  exact ⟨_, h.flows unread read⟩

/-! ## Demands -/

/-- What a write does for a name that is to be as wanted: it makes it so, it does not, or that
depends on the name that it reads. -/
inductive Verdict (Want : Type) where
  | yes | no
  | reads (want : Want)

/-- What names are to be: the writes that make them so, and whether an unbound name is so. -/
structure Demand (Write Name Want : Type) where
  unbound : Want → Name → Prop
  check : Want → Write → Name → Verdict Want

variable {Want : Type} (demand : Demand Write Name Want)

variable (names) in
/-- What a name is bound to is as wanted. -/
def Demand.MetBy : Bound Write Name → Want → Prop
  | .mk write name none, want =>
    match demand.check want write name, names.reads write name with
    | .yes, _ => True
    | .reads want, some other => demand.unbound want other
    | _, _ => False
  | .mk write name (some source), want =>
    match demand.check want write name with
    | .yes => True
    | .reads want => Demand.MetBy source want
    | .no => False

variable (names) in
/-- A name is as wanted. -/
def Demand.Met (name : Name) (bound : Option (Bound Write Name)) (want : Want) : Prop :=
  match bound with
  | none => demand.unbound want name
  | some bound => demand.MetBy names bound want

variable (names) in
/-- A name that is not as wanted after some steps, by a search that goes from a name to the writes
that reach it, and from a write to the name it reads. -/
inductive Spoiled : List (Step Write) → Name → Want → Prop where
  | unbound {steps name want} (unwritten : Unwritten names steps name)
      (refused : ¬ demand.unbound want name) : Spoiled steps name want
  | write {steps before name write want} (last : Last names steps name write before)
      (refused : demand.check want write name = .no) : Spoiled steps name want
  | unread {steps before name write want want'} (last : Last names steps name write before)
      (check : demand.check want write name = .reads want')
      (unread : names.reads write name = none) : Spoiled steps name want
  | source {steps before name other write want want'}
      (last : Last names steps name write before)
      (check : demand.check want write name = .reads want')
      (read : names.reads write name = some other)
      (spoiled : Spoiled before other want') : Spoiled steps name want

theorem Spoiled.keep {earlier : List (Step Write)} {step : Step Write} {name : Name} {want : Want}
    (h : Spoiled names demand earlier name want)
    (kept : names.lastWrite step.must name = none) :
    Spoiled names demand (step :: earlier) name want := by
  cases h with
  | unbound unwritten refused =>
    refine .unbound (fun s listed => ?_) refused
    rcases List.mem_cons.1 listed with rfl | listed
    · exact kept
    · exact unwritten s listed
  | write last refused => exact .write (.keep kept last) refused
  | unread last check unread => exact .unread (.keep kept last) check unread
  | source last check read spoiled => exact .source (.keep kept last) check read spoiled

/-- A chain is judged by the name that its last write reads. -/
theorem met_reads {name other : Name} {write : Write} {source : Option (Bound Write Name)}
    {want want' : Want} (check : demand.check want write name = .reads want')
    (read : names.reads write name = some other) :
    demand.Met names name (some (.mk write name source)) want ↔
      demand.Met names other source want' := by
  cases source with
  | none => simp only [Demand.Met, Demand.MetBy, check, read]
  | some bound => simp only [Demand.Met, Demand.MetBy, check]

/-- A write whose chain is not as wanted is refused, or what flows to the name it reads is. -/
theorem Last.spoiled {steps before : List (Step Write)} {name : Name} {write : Write}
    {source : Option (Bound Write Name)} {want : Want}
    (last : Last names steps name write before)
    (read : ∀ other, names.reads write name = some other → ∀ want,
      ¬ demand.Met names other source want → Spoiled names demand before other want)
    (unmet : ¬ demand.Met names name (some (.mk write name source)) want) :
    Spoiled names demand steps name want := by
  cases hcheck : demand.check want write name with
  | yes => cases source <;> simp [Demand.Met, Demand.MetBy, hcheck] at unmet
  | no => exact .write last hcheck
  | reads want' =>
    cases hreads : names.reads write name with
    | none => exact .unread last hcheck hreads
    | some other =>
      rw [met_reads demand hcheck hreads] at unmet
      exact .source last hcheck hreads (read other hreads want' unmet)

theorem spoiled_of_flows {steps : List (Step Write)} {name : Name}
    {bound : Option (Bound Write Name)} (h : Flows names steps name bound) :
    ∀ {want : Want}, ¬ demand.Met names name bound want →
      Spoiled names demand steps name want := by
  induction h with
  | start =>
    intro want unmet
    exact .unbound (fun _ listed => nomatch listed) unmet
  | must last _ _ ih =>
    intro want unmet
    exact Last.spoiled demand (.must last) (fun other read want => ih other read) unmet
  | may kept listed binds _ _ ih =>
    intro want unmet
    exact Last.spoiled demand (.may kept listed binds) (fun other read want => ih other read) unmet
  | keep kept _ ih =>
    intro want unmet
    exact (ih unmet).keep demand kept

theorem Spoiled.exists_flows {steps : List (Step Write)} {name : Name} {want : Want}
    (h : Spoiled names demand steps name want) :
    ∃ bound, Flows names steps name bound ∧ ¬ demand.Met names name bound want := by
  induction h with
  | unbound unwritten refused => exact ⟨none, flows_none.2 unwritten, refused⟩
  | write last refused =>
    obtain ⟨source, flows⟩ := last.exists_flows
    refine ⟨_, flows, ?_⟩
    cases source <;> simp [Demand.Met, Demand.MetBy, refused]
  | unread last check unread =>
    have flows := last.flows (fun _ => rfl) fun other read => by simp [unread] at read
    exact ⟨_, flows, by simp [Demand.Met, Demand.MetBy, check, unread]⟩
  | source last check read _ ih =>
    obtain ⟨source, flows, unmet⟩ := ih
    have flowing := last.flows (fun unread => by simp [unread] at read) fun found hfound => by
      rw [read] at hfound
      cases hfound
      exact flows
    exact ⟨_, flowing, by rwa [met_reads demand check read]⟩

/-- A name is as wanted in every state that is reached if the search does not spoil it. -/
theorem met_iff {steps : List (Step Write)} {name : Name} {want : Want} :
    (∀ state, Reaches names steps state → demand.Met names name (state name) want) ↔
      ¬ Spoiled names demand steps name want := by
  constructor
  · intro met spoiled
    obtain ⟨bound, flows, unmet⟩ := spoiled.exists_flows
    obtain ⟨state, reached, rfl⟩ := flows_iff.mp flows
    exact unmet (met state reached)
  · intro unspoiled state reached
    by_contra unmet
    exact unspoiled (spoiled_of_flows demand (flows_iff.mpr ⟨state, reached, rfl⟩) unmet)

end

end NameFlow
