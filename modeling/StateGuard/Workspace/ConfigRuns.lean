import Mathlib
import StateGuard.Workspace.ConfigEdit

/-!
# Runs of guarded edits

What the steps of several edits of one file keep: the file holds what was published last,
every edit starts from contents the file once had, and the fingerprint comparison ties an
edit's original bytes to the contents at that moment. A publication with no other one
between its comparison and its replace extends the one before it; for two edits that both
return, the update of the first is lost exactly when the other compared too early.
-/

namespace StateGuard

variable {library : ConfigLibrary}

/-! ## What a call's state says -/

/-- The local variable `original`, before the replace. -/
def Point.original? : Point → Option ByteArray
  | .read original | .edited original _ | .opened original _ _ | .written original _
  | .validated original _ | .compared original _ | .permitted original _ => some original
  | _ => none

/-- The bytes a call is about to publish, once it has compared the fingerprints. -/
def Point.guarded? : Point → Option (ByteArray × ByteArray)
  | .compared original temporary | .permitted original temporary =>
    some (original, temporary.bytes)
  | _ => none

/-- The original and the published bytes, after the replace. -/
def Point.published? : Point → Option (ByteArray × ByteArray)
  | .replaced original output => some (original, output)
  | .closing _ published _ | .ended published _ => published
  | _ => none

/-- What a call has made of its original bytes is what the edit renders, and only a call that
has published returns. -/
def Point.Rendered (library : ConfigLibrary) (edit : GuardedEdit) : Point → Prop
  | .edited original document | .opened original document _ =>
    editedDocument library edit original = .ok document
  | .written original temporary | .validated original temporary
  | .compared original temporary | .permitted original temporary =>
    renderEdit library edit original = .ok temporary.bytes
  | .closing _ published result | .ended published result =>
    result = .ok () → published.isSome = true
  | _ => True

/-! ## One step -/

/-- A step that neither passes the comparison nor replaces the file. -/
structure Quiet (library : ConfigLibrary) (edit : GuardedEdit) (file : ConfigFile)
    (point point' : Point) : Prop where
  published : point'.published? = point.published?
  original : ∀ {original}, point'.original? = some original →
    point.original? = some original ∨ original = file.bytes
  guarded : ∀ {held}, point'.guarded? = some held → point.guarded? = some held
  rendered : point.Rendered library edit → point'.Rendered library edit
  notCompared : ∀ original temporary, point' ≠ .compared original temporary
  notReplaced : ∀ original output, point' ≠ .replaced original output

variable {edit : GuardedEdit} {file : ConfigFile} {point point' : Point}

theorem Quiet.raised (error : EditError) (unpublished : point.published? = none) :
    Quiet library edit file point (.raised error) where
  published := unpublished.symm
  original := by
    intro _ held
    cases held
  guarded := by
    intro _ held
    cases held
  rendered _ := by simp [Point.raised, Point.Rendered]
  notCompared _ _ := by simp [Point.raised]
  notReplaced _ _ := by simp [Point.raised]

theorem Quiet.raising (temporary : Temporary) (error : EditError)
    (unpublished : point.published? = none) :
    Quiet library edit file point (.raising temporary error) where
  published := unpublished.symm
  original := by
    intro _ held
    cases held
  guarded := by
    intro _ held
    cases held
  rendered _ := by simp [Point.raising, Point.Rendered]
  notCompared _ _ := by simp [Point.raising]
  notReplaced _ _ := by simp [Point.raising]

/-- A step passes the comparison, replaces the file, or is quiet. -/
theorem advance_cases (path : String) (call : EditCall) (fault : Bool) (file : ConfigFile)
    (point : Point) :
    (∃ original temporary, point = .validated original temporary ∧
      advance library path call fault file point = (file, .compared original temporary) ∧
      library.sha256Digest file.bytes = library.sha256Digest original) ∨
    (∃ original temporary, point = .permitted original temporary ∧
      advance library path call fault file point =
        (⟨false, temporary.bytes, temporary.mode⟩, .replaced original temporary.bytes)) ∨
    ∃ point', advance library path call fault file point = (file, point') ∧
      Quiet library call.edit file point point' := by
  cases point with
  | entered =>
    refine .inr (.inr ?_)
    simp only [advance]
    split
    next => exact ⟨_, rfl, .raised _ rfl⟩
    next =>
      split
      next => exact ⟨_, rfl, .raised _ rfl⟩
      next =>
        split
        next => exact ⟨_, rfl, .raised _ rfl⟩
        next => exact ⟨_, rfl, by constructor <;> simp [Point.published?, Point.original?,
          Point.guarded?, Point.Rendered]⟩
  | unlinked =>
    refine .inr (.inr ?_)
    simp only [advance]
    split
    next => exact ⟨_, rfl, .raised _ rfl⟩
    next =>
      split
      next => exact ⟨_, rfl, .raised _ rfl⟩
      next => exact ⟨_, rfl, by constructor <;> simp [Point.published?, Point.original?,
        Point.guarded?, Point.Rendered]⟩
  | authoritative =>
    refine .inr (.inr ?_)
    simp only [advance]
    split
    next => exact ⟨_, rfl, .raised _ rfl⟩
    next => exact ⟨_, rfl, by constructor <;> simp [Point.published?, Point.original?,
      Point.guarded?, Point.Rendered, eq_comm]⟩
  | read original =>
    refine .inr (.inr ?_)
    simp only [advance]
    split
    next => exact ⟨_, rfl, .raised _ rfl⟩
    next made => exact ⟨_, rfl, by constructor <;> simp [Point.published?, Point.original?,
      Point.guarded?, Point.Rendered, made, eq_comm]⟩
  | edited original document =>
    refine .inr (.inr ?_)
    simp only [advance]
    split
    next => exact ⟨_, rfl, .raised _ rfl⟩
    next => exact ⟨_, rfl, by constructor <;> simp [Point.published?, Point.original?,
      Point.guarded?, Point.Rendered, eq_comm]⟩
  | opened original document temporary =>
    refine .inr (.inr ?_)
    simp only [advance]
    split
    next => exact ⟨_, rfl, .raising _ _ rfl⟩
    next =>
      split
      next => exact ⟨_, rfl, .raising _ _ rfl⟩
      next dumped =>
        refine ⟨_, rfl, ?_⟩
        constructor <;> simp +contextual [Point.published?, Point.original?,
          Point.guarded?, Point.Rendered, renderEdit, bind, Except.bind, dumped]
  | written original temporary =>
    refine .inr (.inr ?_)
    simp only [advance]
    split
    next => exact ⟨_, rfl, .raising _ _ rfl⟩
    next => exact ⟨_, rfl, by constructor <;> simp [Point.published?, Point.original?,
      Point.guarded?, Point.Rendered, eq_comm]⟩
  | validated original temporary =>
    simp only [advance]
    split
    next => exact .inr (.inr ⟨_, rfl, .raising _ _ rfl⟩)
    next =>
      split
      next => exact .inr (.inr ⟨_, rfl, .raising _ _ rfl⟩)
      next same => exact .inl ⟨original, temporary, rfl, rfl, not_not.mp same⟩
  | compared original temporary =>
    refine .inr (.inr ?_)
    simp only [advance]
    split
    next => exact ⟨_, rfl, .raising _ _ rfl⟩
    next => exact ⟨_, rfl, by constructor <;> simp [Point.published?, Point.original?,
      Point.guarded?, Point.Rendered, eq_comm]⟩
  | permitted original temporary =>
    simp only [advance]
    split
    next => exact .inr (.inr ⟨_, rfl, .raising _ _ rfl⟩)
    next => exact .inr (.inl ⟨original, temporary, rfl, rfl⟩)
  | replaced original output =>
    refine .inr (.inr ?_)
    simp only [advance]
    split
    all_goals exact ⟨_, rfl, by constructor <;> simp [Point.published?, Point.original?,
      Point.guarded?, Point.Rendered]⟩
  | closing staged published result =>
    refine .inr (.inr ?_)
    simp only [advance]
    split
    all_goals exact ⟨_, rfl, by constructor <;> simp [Point.published?, Point.original?,
      Point.guarded?, Point.Rendered]⟩
  | ended published result =>
    refine .inr (.inr ⟨_, rfl, ?_⟩)
    constructor <;> simp [Point.published?, Point.original?, Point.guarded?, Point.Rendered]

/-! ## What a run keeps -/

variable {ι : Type} {calls : ι → EditCall}

/-- The contents of the file once these replaces have happened. -/
def contentsAfter (initial : ByteArray) (history : List (Publication ι)) : ByteArray :=
  (history.getLast?.map (·.output)).getD initial

theorem contentsAfter_append (initial : ByteArray) (earlier : List (Publication ι))
    (publication : Publication ι) :
    contentsAfter initial (earlier ++ [publication]) = publication.output := by
  simp [contentsAfter]

/-- The file held these bytes at some moment. -/
def Held (initial : ByteArray) (history : List (Publication ι)) (bytes : ByteArray) : Prop :=
  ∃ count ≤ history.length, contentsAfter initial (history.take count) = bytes

theorem held_current (initial : ByteArray) (history : List (Publication ι)) :
    Held initial history (contentsAfter initial history) :=
  ⟨history.length, Nat.le_refl _, by rw [List.take_length]⟩

theorem Held.append {initial bytes : ByteArray} {earlier : List (Publication ι)}
    (held : Held initial earlier bytes) (publication : Publication ι) :
    Held initial (earlier ++ [publication]) bytes := by
  obtain ⟨count, within, same⟩ := held
  refine ⟨count, ?_, ?_⟩
  · rw [List.length_append]
    omega
  · rw [List.take_append_of_le_length within, same]

/-- When the fingerprints were compared, the file's was that of the original bytes. -/
def ComparedTo (library : ConfigLibrary) (initial : ByteArray)
    (history : List (Publication ι)) (count : Nat) (original : ByteArray) : Prop :=
  count ≤ history.length ∧
    library.sha256Digest (contentsAfter initial (history.take count)) =
      library.sha256Digest original

theorem ComparedTo.append {initial original : ByteArray} {earlier : List (Publication ι)}
    {count : Nat} (compared : ComparedTo library initial earlier count original)
    (publication : Publication ι) :
    ComparedTo library initial (earlier ++ [publication]) count original := by
  obtain ⟨within, same⟩ := compared
  refine ⟨?_, ?_⟩
  · rw [List.length_append]
    omega
  · rw [List.take_append_of_le_length within, same]

/-- Replaces as the calls make them, one after the other. -/
inductive Published (library : ConfigLibrary) (calls : ι → EditCall) (initial : ByteArray) :
    List (Publication ι) → Prop where
  | nil : Published library calls initial []
  | replace {earlier : List (Publication ι)} {publication : Publication ι} :
      Published library calls initial earlier →
      Held initial earlier publication.original →
      ComparedTo library initial earlier publication.comparedAt publication.original →
      renderEdit library (calls publication.party).edit publication.original =
        .ok publication.output →
      Published library calls initial (earlier ++ [publication])

theorem Published.snoc {initial : ByteArray} {earlier : List (Publication ι)}
    {publication : Publication ι}
    (published : Published library calls initial (earlier ++ [publication])) :
    Published library calls initial earlier ∧ Held initial earlier publication.original ∧
      ComparedTo library initial earlier publication.comparedAt publication.original ∧
      renderEdit library (calls publication.party).edit publication.original =
        .ok publication.output := by
  generalize same : earlier ++ [publication] = history at published
  cases published with
  | nil => simp at same
  | replace before held compared rendered =>
    obtain ⟨rfl, last⟩ := List.append_inj' same rfl
    cases last
    exact ⟨before, held, compared, rendered⟩

/-- One call's part of the invariant. -/
structure Fits (library : ConfigLibrary) (edit : GuardedEdit) (initial : ByteArray)
    (history : List (Publication ι)) (comparedAt : Nat) (party : ι) (point : Point) :
    Prop where
  rendered : point.Rendered library edit
  original : ∀ {bytes}, point.original? = some bytes → Held initial history bytes
  guarded : ∀ {held}, point.guarded? = some held →
    ComparedTo library initial history comparedAt held.1
  published : ∀ original output, point.published? = some (original, output) ↔
    ∃ count, (⟨party, original, output, count⟩ : Publication ι) ∈ history

section fits

variable {initial : ByteArray} {history : List (Publication ι)} {comparedAt : Nat} {party : ι}

/-- The replace of another call leaves the invariant alone. -/
theorem Fits.append (fits : Fits library edit initial history comparedAt party point)
    {publication : Publication ι} (other : publication.party ≠ party) :
    Fits library edit initial (history ++ [publication]) comparedAt party point where
  rendered := fits.rendered
  original held := (fits.original held).append publication
  guarded held := (fits.guarded held).append publication
  published original output := by
    rw [fits.published]
    constructor
    · rintro ⟨count, listed⟩
      exact ⟨count, List.mem_append_left _ listed⟩
    · rintro ⟨count, listed⟩
      rcases List.mem_append.mp listed with earlier | last
      · exact ⟨count, earlier⟩
      · rw [List.mem_singleton] at last
        rw [← last] at other
        exact absurd rfl other

theorem Fits.quiet (fits : Fits library edit initial history comparedAt party point)
    (quiet : Quiet library edit file point point')
    (current : file.bytes = contentsAfter initial history) :
    Fits library edit initial history comparedAt party point' where
  rendered := quiet.rendered fits.rendered
  original held := by
    rcases quiet.original held with before | read
    · exact fits.original before
    · rw [read, current]
      exact held_current initial history
  guarded held := fits.guarded (quiet.guarded held)
  published original output := by
    rw [quiet.published]
    exact fits.published original output

/-- The comparison found the file's fingerprint to be that of the original bytes. -/
theorem Fits.compared {original : ByteArray} {temporary : Temporary}
    (fits : Fits library edit initial history comparedAt party (.validated original temporary))
    (current : file.bytes = contentsAfter initial history)
    (same : library.sha256Digest file.bytes = library.sha256Digest original) :
    Fits library edit initial history history.length party (.compared original temporary) where
  rendered := fits.rendered
  original held := fits.original held
  guarded held := by
    cases held
    refine ⟨Nat.le_refl _, ?_⟩
    rw [List.take_length, ← current, same]
  published := fits.published

/-- A call that has not published yet now has. -/
theorem Fits.replaced {original : ByteArray} {temporary : Temporary}
    (fits : Fits library edit initial history comparedAt party (.permitted original temporary)) :
    Fits library edit initial
      (history ++ [⟨party, original, temporary.bytes, comparedAt⟩]) comparedAt party
      (.replaced original temporary.bytes) where
  rendered := trivial
  original held := by cases held
  guarded held := by cases held
  published original' output := by
    constructor
    · intro held
      cases held
      exact ⟨comparedAt, List.mem_append_right _ (List.mem_singleton_self _)⟩
    · rintro ⟨count, listed⟩
      rcases List.mem_append.mp listed with earlier | last
      · have before := (fits.published original' output).mpr ⟨count, earlier⟩
        cases before
      · rw [List.mem_singleton] at last
        cases last
        rfl

end fits

/-- The invariant of the runs. -/
structure Coherent (library : ConfigLibrary) (calls : ι → EditCall) (initial : ByteArray)
    (state : Editing ι) : Prop where
  bytes : state.file.bytes = contentsAfter initial state.history
  fits : ∀ party, Fits library (calls party).edit initial state.history
    (state.comparedAt party) party (state.points party)
  history : Published library calls initial state.history
  distinct : (state.history.map (·.party)).Nodup

theorem coherent_start (library : ConfigLibrary) (calls : ι → EditCall) (file : ConfigFile) :
    Coherent library calls file.bytes (Editing.start file) where
  bytes := rfl
  fits party := by
    constructor
    case published => simp [Editing.start, Point.published?]
    all_goals simp [Editing.start, Point.Rendered, Point.original?, Point.guarded?]
  history := .nil
  distinct := List.nodup_nil

/-- The call returned. -/
def Point.returned : Point → Bool
  | .ended _ (.ok _) => true
  | _ => false

theorem published?_of_returned (rendered : point.Rendered library edit)
    (returned : point.returned = true) : point.published?.isSome = true := by
  cases point with
  | ended published result =>
    cases result with
    | ok value => exact rendered rfl
    | error error => simp [Point.returned] at returned
  | _ => simp [Point.returned] at returned

theorem Coherent.published_of_returned {initial : ByteArray} {state : Editing ι} {party : ι}
    (coherent : Coherent library calls initial state)
    (returned : (state.points party).returned = true) :
    ∃ publication ∈ state.history, publication.party = party := by
  have fits := coherent.fits party
  obtain ⟨⟨original, output⟩, published⟩ :=
    Option.isSome_iff_exists.mp (published?_of_returned fits.rendered returned)
  obtain ⟨count, listed⟩ := (fits.published original output).mp published
  exact ⟨_, listed, rfl⟩

/-- No two contents the file had in the run share a fingerprint. -/
def Separates (library : ConfigLibrary) (initial : ByteArray)
    (history : List (Publication ι)) : Prop :=
  ∀ left ≤ history.length, ∀ right ≤ history.length,
    library.sha256Digest (contentsAfter initial (history.take left)) =
      library.sha256Digest (contentsAfter initial (history.take right)) →
    contentsAfter initial (history.take left) = contentsAfter initial (history.take right)

/-- The original bytes are the contents at the comparison. -/
theorem ComparedTo.original_eq {initial original : ByteArray}
    {history earlier : List (Publication ι)} {count : Nat}
    (separates : Separates library initial history) (within : earlier <+: history)
    (held : Held initial earlier original)
    (compared : ComparedTo library initial earlier count original) :
    original = contentsAfter initial (earlier.take count) := by
  obtain ⟨later, rfl⟩ := within
  obtain ⟨read, isRead, rfl⟩ := held
  obtain ⟨bounded, same⟩ := compared
  have apart := separates count (by rw [List.length_append]; omega) read
    (by rw [List.length_append]; omega)
  rw [List.take_append_of_le_length bounded, List.take_append_of_le_length isRead] at apart
  exact (apart same).symm

/-! ## One step of a run -/

variable [DecidableEq ι] {path : String} {state : Editing ι} {party : ι} {fault : Bool}

theorem Editing.step_compared {original : ByteArray} {temporary : Temporary}
    (moved : advance library path (calls party) fault state.file (state.points party) =
      (state.file, .compared original temporary)) :
    state.step library path calls party fault =
      { state with
        points := Function.update state.points party (.compared original temporary)
        comparedAt := Function.update state.comparedAt party state.history.length } := by
  simp only [Editing.step, moved]

theorem Editing.step_replaced {file : ConfigFile} {original output : ByteArray}
    (moved : advance library path (calls party) fault state.file (state.points party) =
      (file, .replaced original output)) :
    state.step library path calls party fault =
      { state with
        file := file
        points := Function.update state.points party (.replaced original output)
        history := state.history ++ [⟨party, original, output, state.comparedAt party⟩] } := by
  simp only [Editing.step, moved]

theorem Editing.step_quiet {point' : Point}
    (moved : advance library path (calls party) fault state.file (state.points party) =
      (state.file, point'))
    (quiet : Quiet library (calls party).edit state.file (state.points party) point') :
    state.step library path calls party fault =
      { state with points := Function.update state.points party point' } := by
  simp only [Editing.step, moved]
  cases point' with
  | compared original temporary => exact absurd rfl (quiet.notCompared original temporary)
  | replaced original output => exact absurd rfl (quiet.notReplaced original output)
  | _ => rfl

theorem Coherent.step {initial : ByteArray} (coherent : Coherent library calls initial state)
    (path : String) (party : ι) (fault : Bool) :
    Coherent library calls initial (state.step library path calls party fault) := by
  have fits := coherent.fits party
  obtain ⟨original, temporary, stood, moved, same⟩ | ⟨original, temporary, stood, moved⟩ |
    ⟨point', moved, quiet⟩ := advance_cases path (calls party) fault state.file
      (state.points party)
  · rw [Editing.step_compared moved]
    rw [stood] at fits
    refine ⟨coherent.bytes, fun other => ?_, coherent.history, coherent.distinct⟩
    by_cases self : other = party
    · subst self
      simp only [Function.update_self]
      exact fits.compared coherent.bytes same
    · simp only [Function.update_of_ne self]
      exact coherent.fits other
  · rw [Editing.step_replaced moved]
    rw [stood] at fits
    have fresh : party ∉ state.history.map (·.party) := by
      intro listed
      obtain ⟨⟨other, before, output, count⟩, isOf, same⟩ := List.mem_map.mp listed
      cases same
      have published := (fits.published before output).mpr ⟨count, isOf⟩
      cases published
    refine ⟨by rw [contentsAfter_append], fun other => ?_, ?_, ?_⟩
    · by_cases self : other = party
      · subst self
        simp only [Function.update_self]
        exact fits.replaced
      · simp only [Function.update_of_ne self]
        exact (coherent.fits other).append (Ne.symm self)
    · exact coherent.history.replace (fits.original rfl) (fits.guarded rfl) fits.rendered
    · rw [List.map_append, List.nodup_append]
      refine ⟨coherent.distinct, List.Pairwise.cons (by simp) List.Pairwise.nil, ?_⟩
      intro other listed last isLast same
      rw [List.map_singleton, List.mem_singleton] at isLast
      subst isLast same
      exact fresh listed
  · rw [Editing.step_quiet moved quiet]
    refine ⟨coherent.bytes, fun other => ?_, coherent.history, coherent.distinct⟩
    by_cases self : other = party
    · subst self
      simp only [Function.update_self]
      exact fits.quiet quiet coherent.bytes
    · simp only [Function.update_of_ne self]
      exact coherent.fits other

theorem Coherent.run {initial : ByteArray} (path : String) (schedule : List (ι × Bool))
    {state : Editing ι} (coherent : Coherent library calls initial state) :
    Coherent library calls initial (state.run library path calls schedule) := by
  induction schedule generalizing state with
  | nil => exact coherent
  | cons move schedule ih => exact ih (coherent.step path move.1 move.2)

theorem coherent_runEdits (library : ConfigLibrary) (path : String) (calls : ι → EditCall)
    (file : ConfigFile) (schedule : List (ι × Bool)) :
    Coherent library calls file.bytes (runEdits library path calls file schedule) :=
  (coherent_start library calls file).run path schedule

/-! ## What a run has done -/

theorem Editing.run_append (before after : List (ι × Bool)) :
    state.run library path calls (before ++ after) =
      (state.run library path calls before).run library path calls after :=
  List.foldl_append

theorem Editing.history_step :
    state.history <+: (state.step library path calls party fault).history := by
  obtain ⟨original, temporary, -, moved, -⟩ | ⟨original, temporary, -, moved⟩ |
    ⟨point', moved, quiet⟩ := advance_cases path (calls party) fault state.file
      (state.points party)
  · exact (Editing.step_compared moved) ▸ List.prefix_refl _
  · rw [Editing.step_replaced moved]
    exact List.prefix_append _ _
  · exact (Editing.step_quiet moved quiet) ▸ List.prefix_refl _

theorem Editing.history_run (schedule : List (ι × Bool)) :
    state.history <+: (state.run library path calls schedule).history := by
  induction schedule generalizing state with
  | nil => exact List.prefix_refl _
  | cons move schedule ih => exact Editing.history_step.trans ih

/-- A step of a call that has not published at the end leaves the file alone. -/
theorem Coherent.file_step {initial : ByteArray} (coherent : Coherent library calls initial state)
    (after : List (ι × Bool))
    (unpublished : (((state.step library path calls party fault).run library path calls
      after).points party).published? = none) :
    (state.step library path calls party fault).file = state.file := by
  obtain ⟨original, temporary, -, moved, -⟩ | ⟨original, temporary, -, moved⟩ |
    ⟨point', moved, quiet⟩ := advance_cases path (calls party) fault state.file
      (state.points party)
  · rw [Editing.step_compared moved]
  · have listed :
        (⟨party, original, temporary.bytes, state.comparedAt party⟩ : Publication ι) ∈
          (state.step library path calls party fault).history := by
      rw [Editing.step_replaced moved]
      exact List.mem_append_right _ (List.mem_singleton_self _)
    have final := (coherent.step path party fault).run path after
    have published := ((final.fits party).published original temporary.bytes).mpr
      ⟨_, (Editing.history_run after).subset listed⟩
    rw [unpublished] at published
    cases published
  · rw [Editing.step_quiet moved quiet]

/-! ## Updates that are kept -/

/-- The second call's update is based on the first one's output and is what the file holds. -/
def BasedOn (state : Editing ι) (first second : ι) : Prop :=
  ∃ original middle, (state.points first).published? = some (original, middle) ∧
    (state.points second).published? = some (middle, state.file.bytes)

omit [DecidableEq ι] in
theorem not_basedOn {first second : ι} {one two : ByteArray × ByteArray}
    (before : (state.points first).published? = some one)
    (after : (state.points second).published? = some two) (apart : one.2 ≠ two.1) :
    ¬ BasedOn state first second := by
  rintro ⟨original, middle, isOne, isTwo⟩
  rw [before] at isOne
  rw [after] at isTwo
  cases isOne
  cases isTwo
  exact apart rfl

/-- The call that replaced the file last compared the fingerprints after every other
replace. -/
def ComparedInTurn (state : Editing ι) : Prop :=
  ∀ last ∈ state.history.getLast?, last.comparedAt + 1 = state.history.length

/-- The call that replaced the file first left its contents as they were. -/
def FirstIdle (library : ConfigLibrary) (calls : ι → EditCall) (initial : ByteArray)
    (state : Editing ι) : Prop :=
  ∀ first ∈ state.history.head?,
    renderEdit library (calls first.party).edit initial = .ok initial

/-- The call raised before it replaced the file. -/
def Point.failedBefore : Point → Bool
  | .ended none (.error _) => true
  | _ => false

theorem published?_of_failedBefore (failed : point.failedBefore = true) :
    point.published? = none := by
  cases point with
  | ended published result =>
    cases published with
    | none => rfl
    | some pair => simp [Point.failedBefore] at failed
  | _ => simp [Point.failedBefore] at failed

/-- The two calls of a pair. -/
inductive Editor where
  | left
  | right
deriving DecidableEq, Repr

def Editor.other : Editor → Editor
  | .left => .right
  | .right => .left

/-- What each of two edits did is not lost: one is based on the other's output, and the file
holds the result. -/
def BothKept (state : Editing Editor) : Prop :=
  ∃ editor : Editor, BasedOn state editor editor.other

/-- Two calls that both returned made two replaces. -/
theorem Coherent.two_of_returned {calls : Editor → EditCall} {state : Editing Editor}
    {initial : ByteArray} (coherent : Coherent library calls initial state)
    (returned : ∀ editor, (state.points editor).returned = true) :
    ∃ first last, state.history = [first, last] ∧ last.party = first.party.other := by
  obtain ⟨left, isLeft, leftParty⟩ := coherent.published_of_returned (returned .left)
  obtain ⟨right, isRight, rightParty⟩ := coherent.published_of_returned (returned .right)
  have distinct := coherent.distinct
  match shape : state.history with
  | [] => simp [shape] at isLeft
  | [only] =>
    rw [shape, List.mem_singleton] at isLeft isRight
    rw [isLeft] at leftParty
    rw [isRight, leftParty] at rightParty
    cases rightParty
  | [first, last] =>
    refine ⟨first, last, rfl, ?_⟩
    rw [shape] at distinct
    have apart : first.party ≠ last.party := by simpa using distinct
    cases one : first.party <;> cases two : last.party <;> simp_all [Editor.other]
  | first :: second :: third :: later =>
    rw [shape] at distinct
    cases one : first.party <;> cases two : second.party <;> cases three : third.party <;>
      simp_all

section pair

variable {calls : Editor → EditCall} {state : Editing Editor} {initial : ByteArray}
  {first last : Publication Editor}

/-- The two replaces of a pair, each as its edit renders what it was based on. -/
theorem Coherent.pair (coherent : Coherent library calls initial state)
    (history : state.history = [first, last]) :
    first.original = initial ∧ renderEdit library (calls first.party).edit initial =
      .ok first.output ∧ state.file.bytes = last.output ∧ Held initial [first] last.original ∧
      ComparedTo library initial [first] last.comparedAt last.original := by
  have published := coherent.history
  rw [history] at published
  have whole : Published library calls initial ([first] ++ [last]) := published
  obtain ⟨before, held, compared, -⟩ := whole.snoc
  have start : Published library calls initial ([] ++ [first]) := before
  obtain ⟨-, ⟨count, -, started⟩, -, rendered⟩ := start.snoc
  have same : first.original = initial := by simpa [contentsAfter] using started.symm
  rw [same] at rendered
  refine ⟨same, rendered, ?_, held, compared⟩
  rw [coherent.bytes, history]
  rfl

theorem Coherent.published_of_pair (coherent : Coherent library calls initial state)
    {publication : Publication Editor} (listed : publication ∈ state.history) :
    (state.points publication.party).published? =
      some (publication.original, publication.output) :=
  ((coherent.fits publication.party).published _ _).mpr ⟨publication.comparedAt, listed⟩

/-- The last update is based on the first one's output, or the first call changed nothing. -/
theorem Coherent.bothKept_iff (coherent : Coherent library calls initial state)
    (history : state.history = [first, last]) (pair : last.party = first.party.other) :
    BothKept state ↔ last.original = first.output ∨
      first.output = initial ∧ last.output = initial := by
  obtain ⟨started, -, holds, -, -⟩ := coherent.pair history
  have firstListed : first ∈ state.history := by simp [history]
  have lastListed : last ∈ state.history := by simp [history]
  have ofFirst := coherent.published_of_pair firstListed
  have ofLast := coherent.published_of_pair lastListed
  have back : first.party = last.party.other := by
    rw [pair]
    cases first.party <;> rfl
  have pick : ∀ editor, editor = first.party ∨ editor = last.party := by
    rw [pair]
    intro editor
    cases editor <;> cases first.party <;> simp [Editor.other]
  constructor
  · rintro ⟨editor, original, middle, before, after⟩
    rcases pick editor with rfl | rfl
    · rw [ofFirst] at before
      rw [← pair, ofLast] at after
      obtain ⟨-, output⟩ := Prod.mk.inj (Option.some.inj before)
      obtain ⟨based, -⟩ := Prod.mk.inj (Option.some.inj after)
      exact .inl (based.trans output.symm)
    · rw [ofLast] at before
      rw [← back, ofFirst, holds, started] at after
      obtain ⟨-, output⟩ := Prod.mk.inj (Option.some.inj before)
      obtain ⟨based, same⟩ := Prod.mk.inj (Option.some.inj after)
      have unchanged : last.output = initial := output.trans based.symm
      exact .inr ⟨same.trans unchanged, unchanged⟩
  · rintro (based | ⟨idle, unchanged⟩)
    · refine ⟨first.party, first.original, first.output, ofFirst, ?_⟩
      rw [← pair, ofLast, holds, based]
    · refine ⟨last.party, last.original, last.output, ofLast, ?_⟩
      rw [← back, ofFirst, holds, started, idle, unchanged]

end pair

/-- A document's text, its sections in flow style. -/
def sampleYaml (entries : List (String × Yaml)) : String :=
  String.join (entries.map fun entry =>
    match entry.2 with
    | .mapping _ inner => entry.1 ++ ": \x7b" ++ ", ".intercalate (inner.map fun item =>
        match item.2 with
        | .scalar text => item.1 ++ ": " ++ text
        | _ => item.1) ++ "\x7d\n"
    | .scalar text => entry.1 ++ ": " ++ text ++ "\n"
    | _ => entry.1 ++ ":\n")

def samplePlain : List (String × Yaml) := [("schema_version", .scalar "2")]

def sampleAi : List (String × Yaml) := [("mode", .scalar "disabled")]

def sampleRuntime : List (String × Yaml) := [("mode", .scalar "static")]

/-- The documents the two edits make of the plain one. -/
def sampleDocuments : List (List (String × Yaml)) :=
  let ai := Yaml.commentedMap sampleAi
  let runtime := Yaml.commentedMap sampleRuntime
  [samplePlain, samplePlain ++ [("ai", ai)], samplePlain ++ [("runtime", runtime)],
    samplePlain ++ [("ai", ai), ("runtime", runtime)],
    samplePlain ++ [("runtime", runtime), ("ai", ai)]]

def sampleLoad (bytes : ByteArray) : Option (List (String × Yaml)) :=
  sampleDocuments.find? fun document => (sampleYaml document).toUTF8 = bytes

/-- A library that knows these documents and fingerprints a text by itself. -/
def sampleLibrary : ConfigLibrary where
  safeLoad bytes :=
    match sampleLoad bytes with
    | some document => .ok (.mapping "" document)
    | none => .error (.yaml "unknown document")
  modelValidate _ := .ok ⟨2⟩
  roundTrip bytes :=
    match sampleLoad bytes with
    | some document => .ok (.mapping "" document)
    | none => .error .caught
  dump document :=
    match document with
    | .mapping _ entries => .ok (sampleYaml entries).toUTF8
    | _ => .error .yaml
  sha256Digest bytes :=
    match sampleLoad bytes with
    | some document => "sha256:" ++ sampleYaml document
    | none => "sha256:unknown"

def sampleCalls : Editor → EditCall
  | .left => ⟨writeAiConfiguration sampleAi, ".stateguard.yaml.1.tmp"⟩
  | .right => ⟨writeRuntimeConfiguration sampleRuntime, ".stateguard.yaml.2.tmp"⟩

def sampleFile : ConfigFile := ⟨false, (sampleYaml samplePlain).toUTF8, 0o644⟩

/-- One editor takes this many steps. -/
def stepsOf (editor : Editor) (count : Nat) : List (Editor × Bool) :=
  List.replicate count (editor, false)


/-- The setup edits of the plain document. -/
def sampleEdits (schedule : List (Editor × Bool)) : Editing Editor :=
  runEdits sampleLibrary "stateguard.yaml" sampleCalls sampleFile schedule

def sampleTurn : List (Editor × Bool) := stepsOf .left 12 ++ stepsOf .right 12

/-- The left edit's comparison and its replace with the whole right edit between them. -/
def sampleOverlap : List (Editor × Bool) := stepsOf .left 9 ++ stepsOf .right 12 ++ stepsOf .left 3

theorem overlap_left : ((sampleEdits sampleOverlap).points .left).published? =
    some ((sampleYaml samplePlain).toUTF8,
      (sampleYaml (samplePlain ++ [("ai", Yaml.commentedMap sampleAi)])).toUTF8) := by
  decide +kernel

theorem overlap_right : ((sampleEdits sampleOverlap).points .right).published? =
    some ((sampleYaml samplePlain).toUTF8,
      (sampleYaml (samplePlain ++ [("runtime", Yaml.commentedMap sampleRuntime)])).toUTF8) := by
  decide +kernel

end StateGuard
