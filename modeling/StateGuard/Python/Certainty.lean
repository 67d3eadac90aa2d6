import StateGuard.Python.Execution

/-!
# What has certainly happened

A must-analysis of function bodies.  Certain events are marked; `headMarks` and `armMarks` say
for which statements the evaluation of the head, or the choice of an arm, is certainly marked.
From whether a marked event has happened before a statement, `Stmt.known` computes for every
exit whether one has happened when the statement ends that way, and `Stmt.entries` lists the
statements in it with whether one has happened when they are entered.

`Runs.covered` is the soundness of both: it holds along every execution, through loops,
exceptions and cleanups.
-/

namespace Python

/-- Whether a marked event has happened, for each exit but the raising one; an exit that is not
possible is counted as one after a marked event. -/
structure Known where
  completes : Bool
  returns : Bool
  breaks : Bool
  continues : Bool
  deriving DecidableEq, Repr

namespace Known

/-- No exit is possible. -/
def unreachable : Known := ⟨true, true, true, true⟩

/-- Only completion is possible. -/
def completing (known : Bool) : Known := ⟨known, true, true, true⟩

/-- Either of two runs. -/
def meet (a b : Known) : Known :=
  ⟨a.completes && b.completes, a.returns && b.returns, a.breaks && b.breaks,
    a.continues && b.continues⟩

/-- What is known at an exit; a raising statement may have done nothing. -/
def upon (known : Known) (start : Bool) : Exit → Bool
  | .completes => known.completes
  | .returns => known.returns
  | .raises => start
  | .breaks => known.breaks
  | .continues => known.continues

theorem upon_meet {a b : Known} {start : Bool} {exit : Exit}
    (both : (a.meet b).upon start exit = true) :
    a.upon start exit = true ∧ b.upon start exit = true := by
  cases exit with
  | raises => exact ⟨both, both⟩
  | completes | returns | breaks | continues =>
    simpa only [upon, meet, Bool.and_eq_true] using both

/-- The second of two blocks in sequence. -/
theorem right_of_sequence {first later : Known} {start start' : Bool} {exit : Exit}
    (regular : exit ≠ .raises)
    (known : (⟨later.completes, first.returns && later.returns, first.breaks && later.breaks,
      first.continues && later.continues⟩ : Known).upon start exit = true) :
    later.upon start' exit = true := by
  cases exit with
  | raises => exact absurd rfl regular
  | completes => exact known
  | returns | breaks | continues => exact (Bool.and_eq_true_iff.mp known).2

/-- The first of two blocks in sequence. -/
theorem left_of_sequence {first later : Known} {start : Bool} {exit : Exit}
    (abrupt : exit ≠ .completes)
    (known : (⟨later.completes, first.returns && later.returns, first.breaks && later.breaks,
      first.continues && later.continues⟩ : Known).upon start exit = true) :
    first.upon start exit = true := by
  cases exit with
  | completes => exact absurd rfl abrupt
  | raises => exact known
  | returns | breaks | continues => exact (Bool.and_eq_true_iff.mp known).1

theorem upon_congr {known : Known} {start start' : Bool} {exit : Exit}
    (regular : exit ≠ .raises) : known.upon start exit = true ↔ known.upon start' exit = true := by
  cases exit with
  | raises => exact absurd rfl regular
  | completes | returns | breaks | continues => exact Iff.rfl

end Known

section

variable (suppresses : Expr → Bool) (headMarks : Stmt → Bool) (armMarks : Stmt → Arm → Bool)

/-- What is known after a `try` statement, from its parts. -/
def Known.tried (body handlers orelse finalbody : Known) : Known :=
  let ran := (⟨orelse.completes, body.returns && orelse.returns, body.breaks && orelse.breaks,
    body.continues && orelse.continues⟩ : Known).meet handlers
  ⟨ran.completes || finalbody.completes,
    (ran.returns || finalbody.completes) && finalbody.returns,
    (ran.breaks || finalbody.completes) && finalbody.breaks,
    (ran.continues || finalbody.completes) && finalbody.continues⟩

mutual

/-- What is known when a statement ends. -/
def Stmt.known (start : Bool) : Stmt → Known
  | s@(.return ..) => { Known.unreachable with returns := start || headMarks s }
  | .raise .. => .unreachable
  | .plain _ .break _ => { Known.unreachable with breaks := start }
  | .plain _ .continue _ => { Known.unreachable with continues := start }
  | s@(.if _ _ body orelse) =>
    (Stmt.knownAll (start || headMarks s || armMarks s .body) body).meet
      (Stmt.knownAll (start || headMarks s || armMarks s .orelse) orelse)
  | s@(.match _ _ cases) =>
    (MatchCase.knownAll s (start || headMarks s) 0 cases).meet
      (if cases.any takesAll then .unreachable else .completing (start || headMarks s))
  | .try _ _ body handlers orelse finalbody =>
    let inBody := Stmt.knownAll start body
    Known.tried inBody (Handler.knownAll start handlers)
      (Stmt.knownAll inBody.completes orelse) (Stmt.knownAll start finalbody)
  | s@(.loop _ _ _ body orelse) =>
    let inBody := Stmt.knownAll (start || headMarks s) body
    let inOrelse := Stmt.knownAll (start || headMarks s) orelse
    { inOrelse with
      completes := inOrelse.completes && inBody.breaks
      returns := inOrelse.returns && inBody.returns }
  | s@(.with _ _ items body) =>
    let inBody := Stmt.knownAll (start || headMarks s) body
    { inBody with
      completes := inBody.completes && (!items.any suppresses || (start || headMarks s)) }
  | s@(.classDef _ _ body) => Stmt.knownAll (start || headMarks s) body
  | s => .completing (start || headMarks s)

def Stmt.knownAll (start : Bool) : List Stmt → Known
  | [] => .completing start
  | s :: rest =>
    let first := s.known start
    let later := Stmt.knownAll first.completes rest
    ⟨later.completes, first.returns && later.returns, first.breaks && later.breaks,
      first.continues && later.continues⟩

def MatchCase.knownAll (gate : Stmt) (start : Bool) (index : Nat) : List MatchCase → Known
  | [] => .unreachable
  | .mk _ _ body :: rest =>
    (Stmt.knownAll (start || armMarks gate (.case index)) body).meet
      (MatchCase.knownAll gate start (index + 1) rest)

def Handler.knownAll (start : Bool) : List Handler → Known
  | [] => .unreachable
  | .mk _ _ body :: rest => (Stmt.knownAll start body).meet (Handler.knownAll start rest)

end

mutual

/-- The statements in a statement, with what is known when they are entered. -/
def Stmt.entries (start : Bool) : Stmt → List (Stmt × Bool)
  | s@(.if _ _ body orelse) =>
    (s, start) :: (Stmt.entriesAll (start || headMarks s || armMarks s .body) body ++
      Stmt.entriesAll (start || headMarks s || armMarks s .orelse) orelse)
  | s@(.match _ _ cases) =>
    (s, start) :: MatchCase.entriesAll s (start || headMarks s) 0 cases
  | s@(.try _ _ body handlers orelse finalbody) =>
    (s, start) :: (Stmt.entriesAll start body ++ Handler.entriesAll start handlers ++
      Stmt.entriesAll (Stmt.knownAll suppresses headMarks armMarks start body).completes orelse ++
      Stmt.entriesAll start finalbody)
  | s@(.loop _ _ _ body orelse) =>
    (s, start) :: (Stmt.entriesAll (start || headMarks s) body ++
      Stmt.entriesAll (start || headMarks s) orelse)
  | s@(.with _ _ _ body) => (s, start) :: Stmt.entriesAll (start || headMarks s) body
  | s@(.classDef _ _ body) => (s, start) :: Stmt.entriesAll (start || headMarks s) body
  | s => [(s, start)]

def Stmt.entriesAll (start : Bool) : List Stmt → List (Stmt × Bool)
  | [] => []
  | s :: rest =>
    Stmt.entries start s ++
      Stmt.entriesAll (s.known suppresses headMarks armMarks start).completes rest

def MatchCase.entriesAll (gate : Stmt) (start : Bool) (index : Nat) :
    List MatchCase → List (Stmt × Bool)
  | [] => []
  | .mk _ _ body :: rest =>
    Stmt.entriesAll (start || armMarks gate (.case index)) body ++
      MatchCase.entriesAll gate start (index + 1) rest

def Handler.entriesAll (start : Bool) : List Handler → List (Stmt × Bool)
  | [] => []
  | .mk _ _ body :: rest => Stmt.entriesAll start body ++ Handler.entriesAll start rest

end

/-- What is known when a task ends. -/
def Task.known (start : Bool) : Task → Known
  | .stmt s => s.known suppresses headMarks armMarks start
  | .block body => Stmt.knownAll suppresses headMarks armMarks start body
  | .iterate body orelse =>
    let inBody := Stmt.knownAll suppresses headMarks armMarks start body
    let inOrelse := Stmt.knownAll suppresses headMarks armMarks start orelse
    { inOrelse with
      completes := inOrelse.completes && inBody.breaks
      returns := inOrelse.returns && inBody.returns }
  | .attempt _ body hs orelse =>
    let inBody := Stmt.knownAll suppresses headMarks armMarks start body
    let inOrelse := Stmt.knownAll suppresses headMarks armMarks inBody.completes orelse
    (⟨inOrelse.completes, inBody.returns && inOrelse.returns, inBody.breaks && inOrelse.breaks,
      inBody.continues && inOrelse.continues⟩ : Known).meet
        (Handler.knownAll suppresses headMarks armMarks start hs)
  | .handlers hs => Handler.knownAll suppresses headMarks armMarks start hs

/-- The statements in a task, with what is known when they are entered. -/
def Task.entries (start : Bool) : Task → List (Stmt × Bool)
  | .stmt s => s.entries suppresses headMarks armMarks start
  | .block body => Stmt.entriesAll suppresses headMarks armMarks start body
  | .iterate body orelse =>
    Stmt.entriesAll suppresses headMarks armMarks start body ++
      Stmt.entriesAll suppresses headMarks armMarks start orelse
  | .attempt _ body hs orelse =>
    Stmt.entriesAll suppresses headMarks armMarks start body ++
      Handler.entriesAll suppresses headMarks armMarks start hs ++
      Stmt.entriesAll suppresses headMarks armMarks
        (Stmt.knownAll suppresses headMarks armMarks start body).completes orelse
  | .handlers hs => Handler.entriesAll suppresses headMarks armMarks start hs

end

/-! ## Soundness -/

section

variable {marks : Event → Prop}

/-- A marked event is among the events. -/
def Marked (marks : Event → Prop) (events : List Event) : Prop := ∃ event ∈ events, marks event

theorem Marked.append_left {events later : List Event} (marked : Marked marks events) :
    Marked marks (events ++ later) := by
  obtain ⟨event, membership, mark⟩ := marked
  exact ⟨event, List.mem_append_left _ membership, mark⟩

theorem Marked.append_right {events later : List Event} (marked : Marked marks later) :
    Marked marks (events ++ later) := by
  obtain ⟨event, membership, mark⟩ := marked
  exact ⟨event, List.mem_append_right _ membership, mark⟩

/-- What is known about a run: before an entry that is listed as certain, and at the end when
`known` says so, a marked event has happened, in the run or before it. -/
structure Covered (marks : Event → Prop) (start : Bool) (listed : List (Stmt × Bool))
    (known : Bool) (events : List Event) : Prop where
  atEntry : ∀ before s choices after, events = before ++ .entered s choices :: after →
    ∃ certain, (s, certain) ∈ listed ∧ (certain = true → start = true ∨ Marked marks before)
  atExit : known = true → start = true ∨ Marked marks events

namespace Covered

variable {start mid known known' : Bool} {listed listed' : List (Stmt × Bool)}
  {events events' : List Event}

theorem nil (exit : known = true → start = true) : Covered marks start listed known [] where
  atEntry := fun _ _ _ _ split => absurd split (by simp)
  atExit := fun knows => .inl (exit knows)

theorem widen (covered : Covered marks start listed known events) (sub : listed ⊆ listed')
    (weaker : known' = true → known = true) : Covered marks start listed' known' events where
  atEntry := by
    intro before s choices after split
    obtain ⟨certain, membership, holds⟩ := covered.atEntry before s choices after split
    exact ⟨certain, sub membership, holds⟩
  atExit := fun knows => covered.atExit (weaker knows)

/-- One run after another that is known to leave a marked event behind. -/
theorem append (first : Covered marks start listed mid events)
    (later : Covered marks mid listed' known events') :
    Covered marks start (listed ++ listed') known (events ++ events') where
  atEntry := by
    intro before s choices after split
    rcases List.append_eq_append_iff.mp split with ⟨rest, whole, inLater⟩ | ⟨rest, whole, inFirst⟩
    · obtain ⟨certain, membership, holds⟩ := later.atEntry rest s choices after inLater
      refine ⟨certain, List.mem_append_right _ membership, fun isCertain => ?_⟩
      rw [whole]
      rcases holds isCertain with known | marked
      · exact (first.atExit known).imp id Marked.append_left
      · exact .inr marked.append_right
    · cases rest with
      | nil =>
        rw [List.append_nil] at whole
        obtain ⟨certain, membership, holds⟩ := later.atEntry [] s choices after inFirst.symm
        refine ⟨certain, List.mem_append_right _ membership, fun isCertain => ?_⟩
        rw [← whole]
        rcases holds isCertain with known | marked
        · exact first.atExit known
        · exact .inr (marked.elim fun _ impossible => absurd impossible.1 List.not_mem_nil)
      | cons event rest =>
        cases inFirst
        obtain ⟨certain, membership, holds⟩ := first.atEntry before s choices rest whole
        exact ⟨certain, List.mem_append_left _ membership, holds⟩
  atExit := by
    intro knows
    rcases later.atExit knows with known | marked
    · exact (first.atExit known).imp id Marked.append_left
    · exact .inr marked.append_right

/-- One run after another, where either may leave a marked event behind. -/
theorem also (first : Covered marks start listed known events)
    (later : Covered marks start listed' known' events') :
    Covered marks start (listed ++ listed') (known || known') (events ++ events') where
  atEntry :=
    ((⟨first.atEntry, .inl⟩ : Covered marks start listed start events).append later).atEntry
  atExit := by
    intro either
    rcases Bool.or_eq_true_iff.mp either with knows | knows
    · exact (first.atExit knows).imp id Marked.append_left
    · exact (later.atExit knows).imp id Marked.append_right

/-- Forget what the first run left behind, where the second does not need it. -/
theorem restart (covered : Covered marks start listed known events) :
    Covered marks start listed start events where
  atEntry := covered.atEntry
  atExit := .inl

/-- What is known at an exit; nothing new is known at a raising one. -/
theorem upon (covered : Covered marks start listed known events) (sub : listed ⊆ listed')
    (after : Known) {exit : Exit}
    (implied : exit ≠ .raises → after.upon start exit = true → known = true) :
    Covered marks start listed' (after.upon start exit) events := by
  cases exit with
  | raises => exact covered.restart.widen sub id
  | completes | returns | breaks | continues =>
    exact covered.widen sub (implied Exit.noConfusion)

/-- A run that begins with the entry into a statement. -/
theorem entered (s : Stmt) (choices : List Taken) (listing : (s, start) ∈ listed) :
    Covered marks start listed start [.entered s choices] where
  atEntry := by
    intro before s' choices' after split
    cases before with
    | nil =>
      cases split
      exact ⟨start, listing, .inl⟩
    | cons event before =>
      rw [List.cons_append, List.cons.injEq] at split
      exact absurd split.2.symm (by simp)
  atExit := .inl

/-- An event that is no entry, and may be marked. -/
theorem event {event : Event} {certain : Bool} (noEntry : ∀ s choices, event ≠ .entered s choices)
    (mark : certain = true → marks event) : Covered marks start [] (start || certain) [event] where
  atEntry := by
    intro before s choices after split
    cases before with
    | nil =>
      rw [List.nil_append, List.cons.injEq] at split
      exact absurd split.1 (noEntry s choices)
    | cons event before =>
      rw [List.cons_append, List.cons.injEq] at split
      exact absurd split.2.symm (by simp)
  atExit := by
    intro knows
    rcases Bool.or_eq_true_iff.mp knows with known | isCertain
    · exact .inl known
    · exact .inr ⟨event, List.mem_singleton_self _, mark isCertain⟩

end Covered

variable {reads suppresses : Expr → Bool} {headMarks : Stmt → Bool}
  {armMarks : Stmt → Arm → Bool}

/-- `headMarks` and `armMarks` name statements and arms whose events are marked. -/
structure MarksCertain (marks : Event → Prop) (headMarks : Stmt → Bool)
    (armMarks : Stmt → Arm → Bool) : Prop where
  head : ∀ s calls, headMarks s = true → s.strictCalls ⊆ calls → marks (.evaluated s calls)
  arm : ∀ s arm, armMarks s arm = true → marks (.decided s arm)

/-- The entry into a statement and the evaluation of its head. -/
theorem MarksCertain.opened (certain : MarksCertain marks headMarks armMarks) {start : Bool}
    {s : Stmt} {choices : List Taken} {calls : List Nat} (strict : s.strictCalls ⊆ calls) :
    Covered marks start [(s, start)] (start || headMarks s)
      [.entered s choices, .evaluated s calls] := by
  have evaluation : Covered marks start [] (start || headMarks s) [.evaluated s calls] :=
    Covered.event (fun _ _ same => Event.noConfusion same)
      fun marked => certain.head s calls marked strict
  exact (Covered.entered s choices (List.mem_singleton_self _)).append evaluation

/-- The entry into a statement up to the choice of an arm. -/
theorem MarksCertain.armed (certain : MarksCertain marks headMarks armMarks) {start : Bool}
    {s : Stmt} {choices : List Taken} {calls : List Nat} (strict : s.strictCalls ⊆ calls)
    (arm : Arm) :
    Covered marks start [(s, start)] (start || headMarks s || armMarks s arm)
      [.entered s choices, .evaluated s calls, .decided s arm] := by
  have choice : Covered marks (start || headMarks s) [] (start || headMarks s || armMarks s arm)
      [.decided s arm] :=
    Covered.event (fun _ _ same => Event.noConfusion same) (certain.arm s arm)
  exact (certain.opened strict).append choice

theorem self_mem_entries (start : Bool) (s : Stmt) :
    (s, start) ∈ s.entries suppresses headMarks armMarks start := by
  cases s <;> simp [Stmt.entries]

theorem any_takesAll_of_passed {v : Value} {followsSubject : Bool} {cases : List MatchCase}
    (passed : ∀ c ∈ cases, Takes reads followsSubject v c false) : cases.any takesAll = false := by
  rw [List.any_eq_false]
  exact fun c membership takes => not_takes_of_takesAll reads takes (passed c membership)

theorem entriesAll_of_case {gate : Stmt} {start : Bool} {cases : List MatchCase}
    {index first position : Nat} {c : MatchCase} (chosen : cases[index]? = some c)
    (place : position = first + index) :
    Stmt.entriesAll suppresses headMarks armMarks (start || armMarks gate (.case position))
        c.body ⊆
      MatchCase.entriesAll suppresses headMarks armMarks gate start first cases := by
  induction cases generalizing index first with
  | nil => simp at chosen
  | cons c' rest ih =>
    cases c'
    cases index with
    | zero =>
      cases chosen
      rw [place]
      exact List.subset_append_left _ _
    | succ index =>
      rw [List.getElem?_cons_succ] at chosen
      exact List.Subset.trans (ih chosen (by omega)) (List.subset_append_right _ _)

theorem known_of_case {gate : Stmt} {start : Bool} {cases : List MatchCase}
    {index first position : Nat} {c : MatchCase} {exit : Exit} {begun begun' : Bool}
    (chosen : cases[index]? = some c) (place : position = first + index)
    (regular : exit ≠ .raises)
    (known : (MatchCase.knownAll suppresses headMarks armMarks gate start first cases).upon begun
      exit = true) :
    (Stmt.knownAll suppresses headMarks armMarks (start || armMarks gate (.case position))
      c.body).upon begun' exit = true := by
  induction cases generalizing index first with
  | nil => simp at chosen
  | cons c' rest ih =>
    cases c'
    rw [MatchCase.knownAll] at known
    cases index with
    | zero =>
      cases chosen
      rw [place]
      exact (Known.upon_congr regular).mp (Known.upon_meet known).1
    | succ index =>
      rw [List.getElem?_cons_succ] at chosen
      exact ih chosen (by omega) (Known.upon_meet known).2

theorem entriesAll_of_handler {start : Bool} {handlers : List Handler} {h : Handler}
    (handled : h ∈ handlers) :
    Stmt.entriesAll suppresses headMarks armMarks start h.body ⊆
      Handler.entriesAll suppresses headMarks armMarks start handlers := by
  induction handlers with
  | nil => exact absurd handled List.not_mem_nil
  | cons h' rest ih =>
    cases h'
    rcases List.mem_cons.mp handled with rfl | later
    · exact List.subset_append_left _ _
    · exact List.Subset.trans (ih later) (List.subset_append_right _ _)

theorem known_of_handler {start : Bool} {handlers : List Handler} {h : Handler} {exit : Exit}
    (handled : h ∈ handlers)
    (known : (Handler.knownAll suppresses headMarks armMarks start handlers).upon start exit =
      true) :
    (Stmt.knownAll suppresses headMarks armMarks start h.body).upon start exit = true := by
  induction handlers with
  | nil => exact absurd handled List.not_mem_nil
  | cons h' rest ih =>
    cases h'
    rw [Handler.knownAll] at known
    rcases List.mem_cons.mp handled with rfl | later
    · exact (Known.upon_meet known).1
    · exact ih later (Known.upon_meet known).2

theorem Known.of_orelse {body orelse : Known} {start : Bool} {exit : Exit}
    (regular : exit ≠ .raises)
    (known : ({ orelse with
      completes := orelse.completes && body.breaks
      returns := orelse.returns && body.returns } : Known).upon start exit = true) :
    orelse.upon start exit = true := by
  cases exit with
  | raises => exact absurd rfl regular
  | completes | returns => exact (Bool.and_eq_true_iff.mp known).1
  | breaks | continues => exact known

/-- At the end of a `try` statement the attempt or its cleanup has left something behind. -/
theorem Known.of_tried {body handlers orelse finalbody : Known} {start : Bool}
    {exit cleanup : Exit} (regular : cleanup.after exit ≠ .raises)
    (known : (Known.tried body handlers orelse finalbody).upon start (cleanup.after exit) = true) :
    (((⟨orelse.completes, body.returns && orelse.returns, body.breaks && orelse.breaks,
      body.continues && orelse.continues⟩ : Known).meet handlers).upon start exit ||
        finalbody.upon start cleanup) = true := by
  rw [Exit.after] at regular known
  split at known
  next completed =>
    rw [if_pos completed] at regular
    rw [completed]
    cases exit with
    | raises => exact absurd rfl regular
    | completes => exact known
    | returns | breaks | continues => exact (Bool.and_eq_true_iff.mp known).1
  next abrupt =>
    rw [if_neg abrupt] at regular
    refine Bool.or_eq_true_iff.mpr (.inr ?_)
    cases cleanup with
    | raises => exact absurd rfl regular
    | completes => exact absurd rfl abrupt
    | returns | breaks | continues => exact (Bool.and_eq_true_iff.mp known).2

/-- What is known along an execution holds. -/
theorem Runs.covered (certain : MarksCertain marks headMarks armMarks) {choices : List Taken}
    {task : Task} {events : List Event} {exit : Exit}
    (runs : Runs reads suppresses choices task events exit) (start : Bool) :
    Covered marks start (task.entries suppresses headMarks armMarks start)
      ((task.known suppresses headMarks armMarks start).upon start exit) events := by
  induction runs generalizing start with
  | nil => exact Covered.nil id
  | next _ _ first later =>
    refine ((first start).append (later _)).upon (List.Subset.refl _) _ fun regular known => ?_
    exact Known.right_of_sequence regular known
  | stop _ abrupt first =>
    refine (first start).upon (List.subset_append_left _ _) _ fun _ known => ?_
    exact Known.left_of_sequence abrupt known
  | raises => exact Covered.entered _ _ (self_mem_entries _ _)
  | @simple _ s _ plain strict =>
    refine (certain.opened strict).upon ?_ _ fun _ known => ?_
    · exact List.cons_subset.mpr ⟨self_mem_entries start s, List.nil_subset _⟩
    · cases s with
      | plain info kind exprs => cases kind <;> first | exact known | simp [Stmt.simple] at plain
      | assign | annAssign | augAssign | expr | functionDef => exact known
      | _ => cases plain
  | returns strict => exact (certain.opened strict).upon (List.Subset.refl _) _ fun _ => id
  | breaks | continues => exact Covered.entered _ _ (self_mem_entries _ _)
  | ifBody strict _ _ arm =>
    refine ((certain.armed strict .body).append (arm _)).upon ?_ _ fun regular known => ?_
    · exact List.cons_subset_cons _ (List.subset_append_left _ _)
    · exact (Known.upon_congr regular).mp (Known.upon_meet known).1
  | ifOrelse strict _ _ arm =>
    refine ((certain.armed strict .orelse).append (arm _)).upon ?_ _ fun regular known => ?_
    · exact List.cons_subset_cons _ (List.subset_append_right _ _)
    · exact (Known.upon_congr regular).mp (Known.upon_meet known).2
  | @matchCase _ _ _ _ index _ _ _ _ _ strict chosen _ _ arm =>
    refine ((certain.armed strict (.case index)).append (arm _)).upon ?_ _ fun regular known => ?_
    · exact List.cons_subset_cons _ (entriesAll_of_case chosen (Nat.zero_add index).symm)
    · exact known_of_case chosen (Nat.zero_add index).symm regular (Known.upon_meet known).1
  | matchNone strict passed =>
    refine (certain.opened strict).upon ?_ _ fun regular known => ?_
    · exact List.cons_subset.mpr ⟨self_mem_entries _ _, List.nil_subset _⟩
    · have other := (Known.upon_meet known).2
      rw [any_takesAll_of_passed passed] at other
      exact other
  | loop strict _ iterations =>
    refine ((certain.opened strict).append (iterations _)).upon (List.Subset.refl _) _ ?_
    exact fun regular known => (Known.upon_congr regular).mp known
  | @withBody _ _ _ _ _ _ _ exit strict _ inner =>
    refine ((certain.opened strict).append (inner _)).upon (List.Subset.refl _) _ ?_
    intro regular known
    cases exit with
    | completes => exact (Bool.and_eq_true_iff.mp known).1
    | raises => exact absurd rfl regular
    | returns | breaks | continues => exact known
  | @withSuppressed _ _ _ items _ _ _ strict _ suppressed inner =>
    refine ((certain.opened strict).append (inner _).restart).upon (List.Subset.refl _) _ ?_
    intro _ known
    have any : items.any suppresses = true := List.any_eq_true.mpr suppressed
    simpa [any] using (Bool.and_eq_true_iff.mp known).2
  | classBody strict _ inner =>
    refine ((certain.opened strict).append (inner _)).upon (List.Subset.refl _) _ ?_
    exact fun regular known => (Known.upon_congr regular).mp known
  | @tryFinally _ _ _ _ _ _ _ _ _ exit cleanup _ _ attempted cleaned =>
    refine ((Covered.entered _ _ (List.mem_singleton_self _)).append
      ((attempted start).also (cleaned start))).upon ?_ _ fun regular known => ?_
    · exact List.cons_subset_cons _ (List.Subset.refl _)
    · exact Known.of_tried regular known
  | exhausted _ inner =>
    refine (inner start).upon (List.subset_append_right _ _) _ fun regular known => ?_
    exact Known.of_orelse regular known
  | headRaises => exact Covered.nil id
  | again _ _ _ inner later =>
    refine (((inner start).restart).append (later start)).widen ?_ id
    exact List.append_subset.mpr ⟨List.subset_append_left _ _, List.Subset.refl _⟩
  | broken _ inner =>
    refine (inner start).upon (List.subset_append_left _ _) _ fun _ known => ?_
    exact (Bool.and_eq_true_iff.mp known).2
  | left _ leaves inner =>
    refine (inner start).upon (List.subset_append_left _ _) _ fun regular known => ?_
    rcases leaves with rfl | rfl
    · exact (Bool.and_eq_true_iff.mp known).2
    · exact absurd rfl regular
  | completed _ _ inner later =>
    refine ((inner start).append (later _)).upon ?_ _ fun regular known => ?_
    · refine List.append_subset.mpr ⟨?_, List.subset_append_right _ _⟩
      exact fun _ inside => List.mem_append_left _ (List.mem_append_left _ inside)
    · exact Known.right_of_sequence regular (Known.upon_meet known).1
  | uncaught _ abrupt inner =>
    refine (inner start).upon ?_ _ fun _ known => ?_
    · exact fun _ inside => List.mem_append_left _ (List.mem_append_left _ inside)
    · exact Known.left_of_sequence abrupt (Known.upon_meet known).1
  | caught _ handled _ inner handler =>
    refine ((inner start).restart.append (handler start)).upon ?_ _ fun _ known => ?_
    · refine List.append_subset.mpr ⟨?_, fun _ inside => List.mem_append_left _ ?_⟩
      · exact fun _ inside => List.mem_append_left _ (List.mem_append_left _ inside)
      · exact List.mem_append_right _ (entriesAll_of_handler handled inside)
    · exact known_of_handler handled (Known.upon_meet known).2
  | caughtGroup _ _ inner handled =>
    refine ((inner start).restart.append (handled start)).upon ?_ _ fun _ known => ?_
    · exact List.append_subset.mpr
        ⟨fun _ inside => List.mem_append_left _ (List.mem_append_left _ inside),
          fun _ inside => List.mem_append_left _ (List.mem_append_right _ inside)⟩
    · exact (Known.upon_meet known).2
  | unhandled => exact Covered.nil id
  | @skipHandler _ h _ _ _ _ later =>
    cases h
    refine (later start).upon (List.subset_append_right _ _) _ fun _ known => ?_
    exact (Known.upon_meet known).2
  | @lastHandler _ h _ _ _ _ handler =>
    cases h
    refine (handler start).upon (List.subset_append_left _ _) _ fun _ known => ?_
    exact (Known.upon_meet known).1
  | @runHandler _ h _ _ _ exit exit' _ _ handler later =>
    cases h
    refine ((handler start).also (later start)).upon (List.Subset.refl _) _ fun _ known => ?_
    obtain ⟨here, there⟩ := Known.upon_meet known
    refine Bool.or_eq_true_iff.mpr ?_
    by_cases completed : exit = .completes
    · rw [Exit.after, if_pos completed] at there
      exact .inr there
    · rw [Exit.after, if_neg completed] at here
      exact .inl here

end

end Python
