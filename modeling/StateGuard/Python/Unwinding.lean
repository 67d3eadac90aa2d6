import StateGuard.Python.Reach

/-!
# Which exceptions leave a function

An exception raised at a statement leaves the statements around it one after the other, until one
of them swallows it: a context manager that suppresses it, a handler that ends otherwise than by
raising, or a cleanup that leaves the function or a loop itself.  `leaves_iff` says that an
exception at a statement leaves the function in every execution exactly if no statement of the
body can swallow it (`Stmt.swallows`).
-/

namespace Python

/-! ## The statements of a body -/

mutual

/-- A statement and the statements in it. -/
def Stmt.within : Stmt → List Stmt
  | s@(.if _ _ body orelse) => s :: (Stmt.withinAll body ++ Stmt.withinAll orelse)
  | s@(.match _ _ cases) => s :: MatchCase.withinAll cases
  | s@(.try _ _ body handlers orelse finalbody) =>
    s :: (Stmt.withinAll body ++ (Handler.withinAll handlers ++ (Stmt.withinAll orelse ++
      Stmt.withinAll finalbody)))
  | s@(.loop _ _ _ body orelse) => s :: (Stmt.withinAll body ++ Stmt.withinAll orelse)
  | s@(.with _ _ _ body) => s :: Stmt.withinAll body
  | s@(.classDef _ _ body) => s :: Stmt.withinAll body
  | s => [s]

def Stmt.withinAll : List Stmt → List Stmt
  | [] => []
  | s :: rest => s.within ++ Stmt.withinAll rest

def MatchCase.withinAll : List MatchCase → List Stmt
  | [] => []
  | .mk _ _ body :: rest => Stmt.withinAll body ++ MatchCase.withinAll rest

def Handler.withinAll : List Handler → List Stmt
  | [] => []
  | .mk _ _ body :: rest => Stmt.withinAll body ++ Handler.withinAll rest

end

/-- The statements of a task. -/
def Task.within : Task → List Stmt
  | .stmt s => s.within
  | .block body => Stmt.withinAll body
  | .iterate body orelse => Stmt.withinAll body ++ Stmt.withinAll orelse
  | .attempt _ body hs orelse =>
    Stmt.withinAll body ++ (Handler.withinAll hs ++ Stmt.withinAll orelse)
  | .handlers hs => Handler.withinAll hs

theorem self_mem_within (s : Stmt) : s ∈ s.within := by
  cases s <;> simp [Stmt.within]

theorem withinAll_of_case {cases : List MatchCase} {index : Nat} {c : MatchCase}
    (chosen : cases[index]? = some c) : Stmt.withinAll c.body ⊆ MatchCase.withinAll cases := by
  induction cases generalizing index with
  | nil => simp at chosen
  | cons first rest ih =>
    obtain ⟨pattern, guard, body⟩ := first
    cases index with
    | zero =>
      cases chosen
      exact List.subset_append_left _ _
    | succ index =>
      rw [List.getElem?_cons_succ] at chosen
      exact List.Subset.trans (ih chosen) (List.subset_append_right _ _)

theorem withinAll_of_handler {handlers : List Handler} {h : Handler} (handled : h ∈ handlers) :
    Stmt.withinAll h.body ⊆ Handler.withinAll handlers := by
  induction handlers with
  | nil => exact absurd handled List.not_mem_nil
  | cons first rest ih =>
    obtain ⟨info, type, body⟩ := first
    rcases List.mem_cons.mp handled with rfl | later
    · exact List.subset_append_left _ _
    · exact List.Subset.trans (ih later) (List.subset_append_right _ _)

mutual

theorem Stmt.within_trans (s : Stmt) {t : Stmt} (inside : t ∈ s.within) : t.within ⊆ s.within := by
  match s with
  | .if info test body orelse =>
    rw [Stmt.within, List.mem_cons, List.mem_append] at inside
    rcases inside with rfl | inBody | inOrelse
    · exact List.Subset.refl _
    · exact List.Subset.trans (Stmt.withinAll_trans body inBody) (by simp [Stmt.within])
    · exact List.Subset.trans (Stmt.withinAll_trans orelse inOrelse) (by simp [Stmt.within])
  | .match info subject cases =>
    rw [Stmt.within, List.mem_cons] at inside
    rcases inside with rfl | inCases
    · exact List.Subset.refl _
    · exact List.Subset.trans (MatchCase.withinAll_trans cases inCases) (by simp [Stmt.within])
  | .try info star body handlers orelse finalbody =>
    rw [Stmt.within, List.mem_cons, List.mem_append, List.mem_append, List.mem_append] at inside
    rcases inside with rfl | inBody | inHandlers | inOrelse | inFinally
    · exact List.Subset.refl _
    · exact List.Subset.trans (Stmt.withinAll_trans body inBody) (by simp [Stmt.within])
    · refine List.Subset.trans (Handler.withinAll_trans handlers inHandlers) ?_
      intro other
      simp only [Stmt.within, List.mem_cons, List.mem_append]
      exact fun inHandler => .inr (.inr (.inl inHandler))
    · refine List.Subset.trans (Stmt.withinAll_trans orelse inOrelse) ?_
      intro other
      simp only [Stmt.within, List.mem_cons, List.mem_append]
      exact fun inElse => .inr (.inr (.inr (.inl inElse)))
    · refine List.Subset.trans (Stmt.withinAll_trans finalbody inFinally) ?_
      intro other
      simp only [Stmt.within, List.mem_cons, List.mem_append]
      exact fun inCleanup => .inr (.inr (.inr (.inr inCleanup)))
  | .loop info kind head body orelse =>
    rw [Stmt.within, List.mem_cons, List.mem_append] at inside
    rcases inside with rfl | inBody | inOrelse
    · exact List.Subset.refl _
    · exact List.Subset.trans (Stmt.withinAll_trans body inBody) (by simp [Stmt.within])
    · exact List.Subset.trans (Stmt.withinAll_trans orelse inOrelse) (by simp [Stmt.within])
  | .with info async items body =>
    rw [Stmt.within, List.mem_cons] at inside
    rcases inside with rfl | inBody
    · exact List.Subset.refl _
    · exact List.Subset.trans (Stmt.withinAll_trans body inBody) (by simp [Stmt.within])
  | .classDef info head body =>
    rw [Stmt.within, List.mem_cons] at inside
    rcases inside with rfl | inBody
    · exact List.Subset.refl _
    · exact List.Subset.trans (Stmt.withinAll_trans body inBody) (by simp [Stmt.within])
  | .return .. | .raise .. | .plain .. | .assign .. | .annAssign .. | .augAssign .. | .expr ..
  | .functionDef .. =>
    obtain rfl : t = _ := by simpa [Stmt.within] using inside
    exact List.Subset.refl _

theorem Stmt.withinAll_trans (body : List Stmt) {t : Stmt} (inside : t ∈ Stmt.withinAll body) :
    t.within ⊆ Stmt.withinAll body := by
  match body with
  | [] => exact absurd inside List.not_mem_nil
  | s :: rest =>
    rw [Stmt.withinAll, List.mem_append] at inside
    rcases inside with first | later
    · exact List.Subset.trans (Stmt.within_trans s first) (List.subset_append_left _ _)
    · exact List.Subset.trans (Stmt.withinAll_trans rest later) (List.subset_append_right _ _)

theorem MatchCase.withinAll_trans (cases : List MatchCase) {t : Stmt}
    (inside : t ∈ MatchCase.withinAll cases) : t.within ⊆ MatchCase.withinAll cases := by
  match cases with
  | [] => exact absurd inside List.not_mem_nil
  | .mk pattern guard body :: rest =>
    rw [MatchCase.withinAll, List.mem_append] at inside
    rcases inside with first | later
    · exact List.Subset.trans (Stmt.withinAll_trans body first) (List.subset_append_left _ _)
    · exact List.Subset.trans (MatchCase.withinAll_trans rest later) (List.subset_append_right _ _)

theorem Handler.withinAll_trans (handlers : List Handler) {t : Stmt}
    (inside : t ∈ Handler.withinAll handlers) : t.within ⊆ Handler.withinAll handlers := by
  match handlers with
  | [] => exact absurd inside List.not_mem_nil
  | .mk info type body :: rest =>
    rw [Handler.withinAll, List.mem_append] at inside
    rcases inside with first | later
    · exact List.Subset.trans (Stmt.withinAll_trans body first) (List.subset_append_left _ _)
    · exact List.Subset.trans (Handler.withinAll_trans rest later) (List.subset_append_right _ _)

end

/-! ## Swallowed exceptions -/

section

variable (reads suppresses : Expr → Bool) (site : Stmt → Bool)

/-- Some exit other than an exception is possible. -/
def endsQuietly (ends : Exit → Bool) : Bool :=
  ends .completes || ends .returns || ends .breaks || ends .continues

/-- Some exit leaves the function or a loop. -/
def overrides (ends : Exit → Bool) : Bool := ends .returns || ends .breaks || ends .continues

/-- A handler of an `except*` statement leaves it before the site in a later one raises. -/
def groupOverrides : List Handler → Bool
  | [] => false
  | .mk _ _ body :: rest =>
    (overrides (Stmt.endsAll reads suppresses unblocked body) &&
      Handler.reachesAll reads suppresses unblocked site rest) || groupOverrides rest

/-- The statement may end an exception raised at the site. -/
def Stmt.swallows : Stmt → Bool
  | .with _ _ items body =>
    Stmt.reachesAll reads suppresses unblocked site body && items.any suppresses
  | .try _ star body handlers orelse finalbody =>
    (overrides (Stmt.endsAll reads suppresses unblocked finalbody) &&
      (Task.attempt star body handlers orelse).reaches reads suppresses unblocked site) ||
    (Stmt.endsAll reads suppresses unblocked finalbody .completes &&
      ((Stmt.reachesAll reads suppresses unblocked site body &&
          endsQuietly (Handler.endsAll reads suppresses unblocked handlers)) ||
        (star && Stmt.endsAll reads suppresses unblocked body .raises &&
          groupOverrides reads suppresses site handlers)))
  | _ => false

/-- No statement of a task ends an exception raised at the site. -/
def Unswallowed (statements : List Stmt) : Prop :=
  ∀ t ∈ statements, t.swallows reads suppresses site = false

/-- An exception raised at the site in the task leaves it, in every execution. -/
def Leaves (task : Task) : Prop :=
  ∀ choices events exit, Runs reads suppresses choices task events exit →
    HaltedIn unblocked site events → exit = .raises

/-- The statements that evaluate expressions of their own. -/
def Stmt.evaluates : Stmt → Bool
  | .try .. | .plain _ .break _ | .plain _ .continue _ => false
  | _ => true

/-- How a task may end when an exception is raised at the site in it and no statement swallows
it. -/
def Outcome : Task → Exit → Prop
  | .attempt star body hs _, exit =>
    exit = .raises ∨ (Stmt.reachesAll reads suppresses unblocked site body = true ∧
      Handler.endsAll reads suppresses unblocked hs exit = true) ∨
      (star = true ∧ Stmt.endsAll reads suppresses unblocked body .raises = true ∧
        groupOverrides reads suppresses site hs = true)
  | .handlers hs, exit => exit = .raises ∨ groupOverrides reads suppresses site hs = true
  | _, exit => exit = .raises

end

section

variable {reads suppresses : Expr → Bool} {site : Stmt → Bool}

theorem Unswallowed.mono {statements fewer : List Stmt}
    (kept : Unswallowed reads suppresses site statements) (sub : fewer ⊆ statements) :
    Unswallowed reads suppresses site fewer := fun t inside => kept t (sub inside)

theorem overrides_iff {ends : Exit → Bool} : overrides ends = true ↔
    ∃ exit, ends exit = true ∧ exit ≠ .completes ∧ exit ≠ .raises := by
  constructor
  · intro some
    simp only [overrides, Bool.or_eq_true] at some
    rcases some with (h | h) | h
    all_goals exact ⟨_, h, Exit.noConfusion, Exit.noConfusion⟩
  · rintro ⟨exit, ends, notThrough, notRaise⟩
    cases exit <;> simp_all [overrides]

theorem endsQuietly_iff {ends : Exit → Bool} : endsQuietly ends = true ↔
    ∃ exit, ends exit = true ∧ exit ≠ .raises := by
  constructor
  · intro some
    simp only [endsQuietly, Bool.or_eq_true] at some
    rcases some with ((h | h) | h) | h
    all_goals exact ⟨_, h, Exit.noConfusion⟩
  · rintro ⟨exit, ends, notRaise⟩
    cases exit <;> simp_all [endsQuietly]

/-! ## Where an exception was raised -/

theorem not_haltedIn_nil : ¬ HaltedIn unblocked site [] :=
  fun halted => not_reachedIn_nil halted.reached

theorem haltedIn_append {events later : List Event}
    (halted : HaltedIn unblocked site (events ++ later)) :
    HaltedIn unblocked site events ∨ HaltedIn unblocked site later := by
  obtain ⟨before, s, choices, after, split, isSite, -, opens⟩ := halted
  rcases List.append_eq_append_iff.mp split with ⟨rest, rfl, inLater⟩ | ⟨rest, rfl, inFirst⟩
  · exact .inr ⟨rest, s, choices, after, inLater, isSite, avoids_unblocked _, opens⟩
  · cases rest with
    | nil =>
      rw [List.append_nil]
      exact .inr ⟨[], s, choices, after, inFirst.symm, isSite, avoids_nil, opens⟩
    | cons event rest =>
      cases inFirst
      refine .inl ⟨before, s, choices, rest, rfl, isSite, avoids_unblocked _, ?_⟩
      rintro s' calls rest' rfl
      exact opens s' calls (rest' ++ later) rfl

theorem haltedIn_later {event : Event} {events : List Event}
    (entry : ∀ s choices, event ≠ .entered s choices)
    (halted : HaltedIn unblocked site (event :: events)) : HaltedIn unblocked site events := by
  obtain ⟨before, s, choices, after, split, isSite, -, opens⟩ := halted
  cases before with
  | nil =>
    cases split
    exact absurd rfl (entry s choices)
  | cons event' before =>
    cases split
    exact ⟨before, s, choices, after, rfl, isSite, avoids_unblocked _, opens⟩

theorem haltedIn_decided {s : Stmt} {arm : Arm} {events : List Event}
    (halted : HaltedIn unblocked site (.decided s arm :: events)) :
    HaltedIn unblocked site events :=
  haltedIn_later (fun _ _ => Event.noConfusion) halted

theorem haltedIn_entered {s : Stmt} {choices : List Taken} {events : List Event}
    (halted : HaltedIn unblocked site (.entered s choices :: events)) :
    (site s = true ∧ Opens events) ∨ HaltedIn unblocked site events := by
  obtain ⟨before, s', choices', after, split, isSite, -, opens⟩ := halted
  cases before with
  | nil =>
    cases split
    exact .inl ⟨isSite, opens⟩
  | cons event before =>
    cases split
    exact .inr ⟨before, s', choices', after, rfl, isSite, avoids_unblocked _, opens⟩

/-- A statement whose expressions were evaluated did not raise at once. -/
theorem haltedIn_head {s : Stmt} {choices : List Taken} {calls : List Nat} {events : List Event}
    (halted : HaltedIn unblocked site (.entered s choices :: .evaluated s calls :: events)) :
    HaltedIn unblocked site events := by
  rcases haltedIn_entered halted with ⟨-, opens⟩ | inside
  · exact absurd rfl (opens s calls events)
  · exact haltedIn_later (fun _ _ => Event.noConfusion) inside

theorem haltedIn_headless {s : Stmt} {choices : List Taken} {events : List Event}
    (own : ∀ s, site s = true → s.evaluates = true) (headless : s.evaluates = false)
    (halted : HaltedIn unblocked site (.entered s choices :: events)) :
    HaltedIn unblocked site events := by
  refine (haltedIn_entered halted).resolve_left fun ⟨isSite, _⟩ => ?_
  exact absurd (own s isSite) (Bool.eq_false_iff.mp headless)

/-- In the search for the site nothing is blocked. -/
theorem Runs.reachesSite {choices : List Taken} {task : Task} {events : List Event} {exit : Exit}
    (runs : Runs reads suppresses choices task events exit)
    (halted : HaltedIn unblocked site events) :
    task.reaches reads suppresses unblocked site = true :=
  runs.reaches grows_unblocked halted.reached

theorem Runs.endsAs {choices : List Taken} {task : Task} {events : List Event} {exit : Exit}
    (runs : Runs reads suppresses choices task events exit) :
    task.ends reads suppresses unblocked exit = true :=
  runs.ends grows_unblocked (avoids_unblocked events)

/-! ## Exceptions that nothing swallows -/

/-- What a `try` statement that swallows nothing makes of its attempt. -/
theorem after_attempt {info : NodeInfo} {star : Bool} {body orelse finalbody : List Stmt}
    {handlers : List Handler} {exit cleanup : Exit}
    (kept : (Stmt.try info star body handlers orelse finalbody).swallows reads suppresses site =
      false)
    (reaches : (Task.attempt star body handlers orelse).reaches reads suppresses unblocked site =
      true)
    (cleaned : Stmt.endsAll reads suppresses unblocked finalbody cleanup = true)
    (outcome : Outcome reads suppresses site (.attempt star body handlers orelse) exit) :
    cleanup.after exit = .raises := by
  rw [Stmt.swallows, Bool.or_eq_false_iff, reaches, Bool.and_true] at kept
  obtain ⟨stays, passes⟩ := kept
  rw [Exit.after]
  split
  next completed =>
    rw [completed] at cleaned
    rw [cleaned, Bool.true_and, Bool.or_eq_false_iff] at passes
    obtain ⟨raising, ordered⟩ := passes
    rcases outcome with raised | ⟨reached, handled⟩ | ⟨isStar, raises, first⟩
    · exact raised
    · rw [reached, Bool.true_and] at raising
      by_contra quiet
      exact absurd (endsQuietly_iff.mpr ⟨exit, handled, quiet⟩) (Bool.eq_false_iff.mp raising)
    · simp [isStar, raises, first] at ordered
  next abrupt =>
    by_contra quiet
    exact absurd (overrides_iff.mpr ⟨cleanup, cleaned, abrupt, quiet⟩)
      (Bool.eq_false_iff.mp stays)

/-- An exception raised at the site leaves a task none of whose statements swallows it. -/
theorem Runs.leaves (own : ∀ s, site s = true → s.evaluates = true) {choices : List Taken}
    {task : Task} {events : List Event} {exit : Exit}
    (runs : Runs reads suppresses choices task events exit)
    (halted : HaltedIn unblocked site events)
    (kept : Unswallowed reads suppresses site task.within) :
    Outcome reads suppresses site task exit := by
  induction runs with
  | nil | headRaises | unhandled => exact absurd halted not_haltedIn_nil
  | next _ _ first later =>
    rcases haltedIn_append halted with early | late
    · exact absurd (first early (kept.mono (List.subset_append_left _ _))) Exit.noConfusion
    · exact later late (kept.mono (List.subset_append_right _ _))
  | stop _ _ first => exact first halted (kept.mono (List.subset_append_left _ _))
  | raises => rfl
  | simple | returns | matchNone => exact absurd (haltedIn_head halted) not_haltedIn_nil
  | breaks | continues => exact absurd (haltedIn_headless own rfl halted) not_haltedIn_nil
  | ifBody _ _ _ arm =>
    refine arm (haltedIn_decided (haltedIn_head halted)) (kept.mono ?_)
    exact List.Subset.trans (List.subset_append_left _ _) (List.subset_cons_self _ _)
  | ifOrelse _ _ _ arm =>
    refine arm (haltedIn_decided (haltedIn_head halted)) (kept.mono ?_)
    exact List.Subset.trans (List.subset_append_right _ _) (List.subset_cons_self _ _)
  | matchCase _ chosen _ _ arm =>
    refine arm (haltedIn_decided (haltedIn_head halted)) (kept.mono ?_)
    exact List.Subset.trans (withinAll_of_case chosen) (List.subset_cons_self _ _)
  | loop _ _ iterations =>
    exact iterations (haltedIn_head halted) (kept.mono (List.subset_cons_self _ _))
  | withBody _ _ inner | classBody _ _ inner =>
    exact inner (haltedIn_head halted) (kept.mono (List.subset_cons_self _ _))
  | withSuppressed _ runs suppressed =>
    have reached : Stmt.reachesAll reads suppresses unblocked site _ = true :=
      runs.reachesSite (haltedIn_head halted)
    have swallowed := kept _ List.mem_cons_self
    rw [Stmt.swallows, reached, List.any_eq_true.mpr suppressed] at swallowed
    cases swallowed
  | tryFinally attempts cleans attempted cleaned =>
    rcases haltedIn_append (haltedIn_headless own rfl halted) with early | late
    · refine after_attempt (kept _ List.mem_cons_self) (attempts.reachesSite early) cleans.endsAs
        (attempted early (kept.mono ?_))
      intro t inside
      simp only [Task.within, Stmt.within, List.mem_cons, List.mem_append] at inside ⊢
      tauto
    · have raised : _ = Exit.raises := cleaned late (kept.mono (by
        intro t inside
        simp only [Task.within, Stmt.within, List.mem_cons, List.mem_append] at inside ⊢
        exact .inr (.inr (.inr (.inr inside)))))
      rw [raised]
      rfl
  | exhausted _ inner => exact inner halted (kept.mono (List.subset_append_right _ _))
  | again _ continued _ inner later =>
    rcases haltedIn_append halted with early | late
    · have raised : _ = Exit.raises := inner early (kept.mono (List.subset_append_left _ _))
      rw [raised] at continued
      exact absurd continued (by simp)
    · exact later late kept
  | broken _ inner =>
    exact absurd (inner halted (kept.mono (List.subset_append_left _ _))) Exit.noConfusion
  | left _ _ inner => exact inner halted (kept.mono (List.subset_append_left _ _))
  | completed _ _ inner later =>
    rcases haltedIn_append halted with early | late
    · exact absurd (inner early (kept.mono (List.subset_append_left _ _))) Exit.noConfusion
    · refine .inl (later late (kept.mono ?_))
      exact List.Subset.trans (List.subset_append_right _ _) (List.subset_append_right _ _)
  | uncaught _ _ inner => exact .inl (inner halted (kept.mono (List.subset_append_left _ _)))
  | caught first handled handling _ handler =>
    rcases haltedIn_append halted with early | late
    · exact .inr (.inl ⟨first.reachesSite early, endsAll_of_handler handled handling.endsAs⟩)
    · refine .inl (handler late (kept.mono ?_))
      exact List.Subset.trans (withinAll_of_handler handled)
        (List.Subset.trans (List.subset_append_left _ _) (List.subset_append_right _ _))
  | caughtGroup first handling _ handled =>
    rcases haltedIn_append halted with early | late
    · have ends := handling.endsAs
      rw [Task.ends, Bool.or_eq_true, decide_eq_true_eq] at ends
      exact ends.imp id fun ends => .inl ⟨first.reachesSite early, ends⟩
    · have outcome := handled late (kept.mono
        (List.Subset.trans (List.subset_append_left _ _) (List.subset_append_right _ _)))
      exact outcome.imp id fun ordered => .inr ⟨rfl, first.endsAs, ordered⟩
  | @skipHandler _ h _ _ _ _ later =>
    obtain ⟨info, type, body⟩ := h
    refine (later halted (kept.mono (List.subset_append_right _ _))).imp id fun ordered => ?_
    rw [groupOverrides, ordered, Bool.or_true]
  | @lastHandler _ h _ _ _ _ handler =>
    obtain ⟨info, type, body⟩ := h
    exact .inl (handler halted (kept.mono (List.subset_append_left _ _)))
  | @runHandler _ h _ _ _ first second handling laterRuns handler later =>
    obtain ⟨info, type, body⟩ := h
    rcases haltedIn_append halted with early | late
    · have raised : first = .raises := handler early (kept.mono (List.subset_append_left _ _))
      rw [raised]
      exact .inl rfl
    · rcases later late (kept.mono (List.subset_append_right _ _)) with raised | ordered
      · by_cases quiet : first = .completes ∨ first = .raises
        · left
          rcases quiet with rfl | rfl
          · exact raised
          · rfl
        · rw [not_or] at quiet
          have leaves : overrides (Stmt.endsAll reads suppresses unblocked body) = true :=
            overrides_iff.mpr ⟨first, handling.endsAs, quiet.1, quiet.2⟩
          have reached : Handler.reachesAll reads suppresses unblocked site _ = true :=
            laterRuns.reachesSite late
          right
          rw [groupOverrides, leaves, reached]
          rfl
      · right
        rw [groupOverrides, ordered, Bool.or_true]

/-! ## Exceptions that are swallowed -/

/-- An exception that leaves the statements of a block leaves the block. -/
theorem leaves_block {body : List Stmt}
    (leaves : ∀ t ∈ Stmt.withinAll body, Leaves reads suppresses site (.stmt t)) :
    Leaves reads suppresses site (.block body) := by
  intro choices events exit runs halted
  induction body generalizing events exit with
  | nil =>
    cases runs
    exact absurd halted not_haltedIn_nil
  | cons s rest ih =>
    have first := leaves s (List.mem_append_left _ (self_mem_within s))
    cases runs with
    | next runs later =>
      rcases haltedIn_append halted with early | late
      · exact absurd (first _ _ _ runs early) Exit.noConfusion
      · exact ih (fun t inside => leaves t (List.mem_append_right _ inside)) _ _ later late
    | stop runs abrupt => exact first _ _ _ runs halted

/-- The handlers of an `except*` statement leave it after an exception at the site. -/
theorem exists_overriding {choices : List Taken} {handlers : List Handler}
    (ordered : groupOverrides reads suppresses site handlers = true) :
    ∃ events exit, Runs reads suppresses choices (.handlers handlers) events exit ∧
      HaltedIn unblocked site events ∧ exit ≠ .raises := by
  induction handlers with
  | nil => cases ordered
  | cons h rest ih =>
    obtain ⟨info, type, body⟩ := h
    rw [groupOverrides, Bool.or_eq_true, Bool.and_eq_true] at ordered
    rcases ordered with ⟨leaves, reaches⟩ | later
    · obtain ⟨first, ends, through, quiet⟩ := overrides_iff.mp leaves
      obtain ⟨events, runs, avoids⟩ := Stmt.canEndAll body first ends choices
      obtain ⟨h, handled, canReach⟩ := Handler.canReachAll rest reaches
      obtain ⟨later, second, runs', halted⟩ := canReach_handlers handled canReach choices
      refine ⟨_, _, .runHandler runs runs', halted.append_right avoids, ?_⟩
      rw [Exit.after, if_neg through]
      exact quiet
    · obtain ⟨events, exit, runs, halted, quiet⟩ := ih later
      exact ⟨events, exit, .skipHandler runs, halted, quiet⟩

/-- The handlers of a `try` statement end in the ways of their bodies. -/
theorem exists_handling {choices : List Taken} {star : Bool} {body orelse : List Stmt}
    {handlers : List Handler} {events : List Event} {exit : Exit}
    (raised : Runs reads suppresses choices (.block body) events .raises)
    (handled : Handler.endsAll reads suppresses unblocked handlers exit = true) :
    ∃ later, Runs reads suppresses choices (.attempt star body handlers orelse)
      (events ++ later) exit ∧ Opens later := by
  obtain ⟨h, isHandler, canEnd⟩ := Handler.canEndAll handlers exit handled
  cases star with
  | false =>
    obtain ⟨later, runs, -⟩ := canEnd choices
    exact ⟨later, .caught raised isHandler runs, runs.opens⟩
  | true =>
    obtain ⟨later, runs, -⟩ := canEnd_handlers isHandler canEnd choices
    exact ⟨later, .caughtGroup raised runs, runs.opens⟩

/-- A `try` statement that swallows exceptions of the site has an execution that does. -/
theorem exists_swallowing {info : NodeInfo} {star : Bool} {body orelse finalbody : List Stmt}
    {handlers : List Handler}
    (inBody : Leaves reads suppresses site (.block body))
    (swallows : (Stmt.try info star body handlers orelse finalbody).swallows reads suppresses
      site = true) :
    ∃ events exit, Runs reads suppresses []
      (.stmt (.try info star body handlers orelse finalbody)) events exit ∧
        HaltedIn unblocked site events ∧ exit ≠ .raises := by
  simp only [Stmt.swallows, Bool.or_eq_true, Bool.and_eq_true] at swallows
  have around : ∀ {events later exit cleanup}, Runs reads suppresses []
      (.attempt star body handlers orelse) events exit → HaltedIn unblocked site events →
      Runs reads suppresses [] (.block finalbody) later cleanup → cleanup.after exit ≠ .raises →
      ∃ events exit, Runs reads suppresses []
        (.stmt (.try info star body handlers orelse finalbody)) events exit ∧
          HaltedIn unblocked site events ∧ exit ≠ .raises := by
    intro events later exit cleanup attempted halted cleaned quiet
    exact ⟨_, _, .tryFinally attempted cleaned,
      (halted.append_left cleaned.opens).headless rfl rfl, quiet⟩
  rcases swallows with ⟨leaves, reaches⟩ |
    ⟨completes, ⟨reached, quietly⟩ | ⟨⟨rfl, raises⟩, ordered⟩⟩
  · obtain ⟨cleanup, ends, through, quiet⟩ := overrides_iff.mp leaves
    obtain ⟨later, cleaned, -⟩ := Stmt.canEndAll finalbody cleanup ends []
    obtain ⟨events, exit, attempted, halted⟩ := canReach_attempt
      (fun inside => Stmt.canReachAll body inside)
      (fun inside => Handler.canReachAll handlers inside)
      (fun inside => Stmt.canReachAll orelse inside) reaches []
    refine around attempted halted cleaned ?_
    rw [Exit.after, if_neg through]
    exact quiet
  · obtain ⟨cleanups, cleaned, -⟩ := Stmt.canEndAll finalbody .completes completes []
    obtain ⟨exit, handled, quiet⟩ := endsQuietly_iff.mp quietly
    obtain ⟨events, first, runs, halted⟩ := Stmt.canReachAll body reached []
    obtain rfl : first = .raises := inBody [] events first runs halted
    obtain ⟨later, attempted, opens⟩ := exists_handling runs handled
    exact around attempted (halted.append_left opens) cleaned quiet
  · obtain ⟨cleanups, cleaned, -⟩ := Stmt.canEndAll finalbody .completes completes []
    obtain ⟨events, raised, avoids⟩ := Stmt.canEndAll body .raises raises []
    obtain ⟨later, exit, handling, halted, quiet⟩ := exists_overriding ordered
    exact around (.caughtGroup raised handling) (halted.append_right avoids) cleaned quiet

/-- An exception raised at the site leaves the body, and every statement around the site, in
every execution exactly if no statement of the body swallows it. -/
theorem leaves_iff (own : ∀ s, site s = true → s.evaluates = true) {body : List Stmt} :
    (Leaves reads suppresses site (.block body) ∧
      ∀ t ∈ Stmt.withinAll body, Leaves reads suppresses site (.stmt t)) ↔
        Unswallowed reads suppresses site (Stmt.withinAll body) := by
  constructor
  · rintro ⟨-, leaves⟩ t inside
    refine Bool.eq_false_iff.mpr fun swallows => ?_
    have inner : ∀ {statements}, Stmt.withinAll statements ⊆ t.within →
        Leaves reads suppresses site (.block statements) := fun sub =>
      leaves_block fun t' inside' =>
        leaves t' (Stmt.withinAll_trans body inside (sub inside'))
    cases t with
    | «with» info async items statements =>
      rw [Stmt.swallows, Bool.and_eq_true] at swallows
      obtain ⟨reached, suppressed⟩ := swallows
      obtain ⟨events, exit, runs, halted⟩ := Stmt.canReachAll statements reached []
      obtain rfl : exit = .raises := inner (List.subset_cons_self _ _) [] events exit runs halted
      have swallowed := leaves _ inside [] _ _
        (.withSuppressed (List.Subset.refl _) runs (List.any_eq_true.mp suppressed))
        (halted.append_right (avoids_ran rfl avoids_nil))
      cases swallowed
    | «try» info star attempt handlers orelse finalbody =>
      have sub : Stmt.withinAll attempt ⊆
          (Stmt.try info star attempt handlers orelse finalbody).within := by
        intro t' inside'
        exact List.mem_cons_of_mem _ (List.mem_append_left _ inside')
      obtain ⟨events, exit, runs, halted, quiet⟩ := exists_swallowing (inner sub) swallows
      exact quiet (leaves _ inside [] events exit runs halted)
    | _ => cases swallows
  · intro kept
    refine ⟨fun choices events exit runs halted => runs.leaves own halted kept, ?_⟩
    intro t inside choices events exit runs halted
    exact runs.leaves own halted (kept.mono (Stmt.withinAll_trans body inside))

end

end Python
