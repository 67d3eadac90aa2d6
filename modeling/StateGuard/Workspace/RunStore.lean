import StateGuard.Workspace.RunArtifacts
import StateGuard.Evidence.RunValidity

/-!
# Integrity of the run store

What a write does to the store, whatever fails and wherever it stops: until its rename it
only touches its own hidden directory, and its rename publishes a directory whose one file
has been read back as the run to be published.
-/

namespace StateGuard

open Evidence

variable {format : RunFormat}

/-! ## Published directories -/

/-- A staging directory's name: readers pass it over. -/
def Hidden (name : String) : Prop := name.toList.head? = some '.'

theorem hidden_stagingName (call : WriteCall) : Hidden call.stagingName := by
  simp [Hidden, WriteCall.stagingName, String.toList_append]

theorem not_hidden_of_isId {name : String} (isId : IsId "sgvrun" name) : ¬ Hidden name := by
  obtain ⟨tagged, -, -⟩ := isId
  intro hidden
  have first := congrArg List.head? tagged
  rw [List.head?_take, hidden] at first
  revert first
  decide

theorem not_hidden_finalName {call : WriteCall} (isId : IsId "sgvrun" call.artifact.runId) :
    ¬ Hidden call.finalName := not_hidden_of_isId isId

/-- A run's directory: its one file holds a valid run. -/
def Holds (format : RunFormat) (entry : Entry) (run : Evidence.VerificationRun) : Prop :=
  ∃ contents, entry = .directory [("run.json", .file contents)] ∧
    modelValidateJson format contents = some run

theorem modelValidateJson_of_loadArtifactFile {contents : ByteArray}
    {run : Evidence.VerificationRun}
    (isRead : loadArtifactFile format (findItem "run.json" [("run.json", .file contents)]) =
      .ok run) : modelValidateJson format contents = some run := by
  simp only [findItem, List.find?_cons_of_pos, decide_true, Option.map_some,
    loadArtifactFile] at isRead
  split at isRead
  next => cases isRead
  next read isSome =>
    cases isRead
    exact isSome

/-- Every visible directory holds the complete run it is named after. -/
def Intact (format : RunFormat) (store : RunStore) : Prop :=
  ∀ name entry, ¬ Hidden name → store.entries name = some entry →
    ∃ run, Holds format entry run ∧ run.runId = name

theorem intact_empty (format : RunFormat) : Intact format .empty := by
  intro name entry _ isEntry
  cases isEntry

/-! ## One write -/

section write

variable {call : WriteCall} {base store : RunStore}

/-- Both state directories are there. -/
def RunStore.Prepared (store : RunStore) : Prop :=
  store.stateDirectory = .directory ∧ store.runsDirectory = .directory

/-- Readers see what they saw before. -/
structure Unchanged (base store : RunStore) : Prop where
  entries : ∀ name, ¬ Hidden name → store.entries name = base.entries name
  prepared : base.Prepared → store.Prepared

theorem Unchanged.refl (store : RunStore) : Unchanged store store where
  entries _ _ := rfl
  prepared := id

theorem Unchanged.setEntry (unchanged : Unchanged base store) {name : String}
    (hidden : Hidden name) (entry : Option Entry) :
    Unchanged base (store.setEntry name entry) where
  entries other visible := by
    have apart : other ≠ name := by
      rintro rfl
      exact visible hidden
    rw [RunStore.setEntry_of_ne _ apart]
    exact unchanged.entries other visible
  prepared := unchanged.prepared

theorem eq_directory_of_makeDirectory {parent made : Parent}
    (isMade : makeDirectory parent = some made) : made = .directory := by
  cases parent <;> simp_all [makeDirectory]

/-- The call's run is there, and nothing else has changed for readers. -/
structure PublishedRun (format : RunFormat) (call : WriteCall) (base store : RunStore) : Prop where
  prepared : store.Prepared
  isId : IsId "sgvrun" call.artifact.runId
  fresh : base.entries call.finalName = none
  others : ∀ name, ¬ Hidden name → name ≠ call.finalName →
    store.entries name = base.entries name
  entry : ∃ entry, store.entries call.finalName = some entry ∧ Holds format entry call.artifact

theorem PublishedRun.setEntry (published : PublishedRun format call base store) {name : String}
    (hidden : Hidden name) (entry : Option Entry) :
    PublishedRun format call base (store.setEntry name entry) where
  prepared := published.prepared
  isId := published.isId
  fresh := published.fresh
  others other visible apart := by
    have away : other ≠ name := by
      rintro rfl
      exact visible hidden
    rw [RunStore.setEntry_of_ne _ away]
    exact published.others other visible apart
  entry := by
    have away : call.finalName ≠ name := by
      rintro rfl
      exact not_hidden_finalName published.isId hidden
    rw [RunStore.setEntry_of_ne _ away]
    exact published.entry

/-- A write that has a staging directory with an entry like this. -/
structure Staged (call : WriteCall) (base store : RunStore) (entry : Entry → Prop) : Prop where
  unchanged : Unchanged base store
  prepared : store.Prepared
  isId : IsId "sgvrun" call.artifact.runId
  staging : ∃ staged, store.entries call.stagingName = some staged ∧ entry staged

/-- What is put in the staging directory's place changes nothing for readers. -/
theorem Unchanged.stage (unchanged : Unchanged base store) (prepared : store.Prepared)
    (isId : IsId "sgvrun" call.artifact.runId) {entry : Entry → Prop} {staged : Entry}
    (fits : entry staged) :
    Staged call base (store.setEntry call.stagingName (some staged)) entry where
  unchanged := unchanged.setEntry (hidden_stagingName call) _
  prepared := prepared
  isId := isId
  staging := ⟨staged, RunStore.setEntry_self .., fits⟩

/-- The rename of a staging directory that holds the run, to a name that is free, publishes it. -/
theorem Staged.rename (staged : Staged call base store (Holds format · call.artifact))
    (free : base.entries call.finalName = none) :
    ∃ renamed, store.rename call.stagingName call.finalName = some renamed ∧
      PublishedRun format call base renamed := by
  obtain ⟨unchanged, prepared, isId, directory, isStaged, holds⟩ := staged
  have hidden := hidden_stagingName call
  have visible := not_hidden_finalName isId
  have target : store.entries call.finalName = none := (unchanged.entries _ visible).trans free
  have apart : call.finalName ≠ call.stagingName := by
    intro same
    rw [same] at visible
    exact visible hidden
  have isRenamed : store.rename call.stagingName call.finalName =
      some ((store.setEntry call.finalName (some directory)).setEntry call.stagingName none) := by
    simp only [RunStore.rename, isStaged, target]
  refine ⟨_, isRenamed, prepared, isId, free, ?_, directory, ?_, holds⟩
  · intro name shown other
    have away : name ≠ call.stagingName := by
      rintro rfl
      exact shown hidden
    rw [RunStore.setEntry_of_ne _ away, RunStore.setEntry_of_ne _ other]
    exact unchanged.entries name shown
  · rw [RunStore.setEntry_of_ne _ apart, RunStore.setEntry_self]

/-- What holds at each point of a write. -/
def WritePoint.Fits (format : RunFormat) (call : WriteCall) (base store : RunStore) :
    WritePoint → Prop
  | .entered => Unchanged base store
  | .stateMade | .stateRestricted =>
    Unchanged base store ∧ store.stateDirectory = .directory
  | .runsMade | .runsRestricted => Unchanged base store ∧ store.Prepared
  | .unpublished =>
    Unchanged base store ∧ store.Prepared ∧ IsId "sgvrun" call.artifact.runId
  | .staging | .stagingRestricted => Staged call base store (· = .directory [])
  | .opened | .written | .artifactRestricted =>
    Staged call base store fun staged =>
      ∃ contents, staged = .directory [("run.json", .file contents)]
  | .compared | .synced => Staged call base store (Holds format · call.artifact)
  | .rechecked =>
    Staged call base store (Holds format · call.artifact) ∧
      base.entries call.finalName = none
  | .renamed | .runsSynced | .closing true _ | .ended true _ =>
    PublishedRun format call base store
  | .closing false result | .ended false result =>
    Unchanged base store ∧ ∃ error, result = .error error

theorem advanceWrite_fits (failure : Option Failure) {point : WritePoint}
    (fits : point.Fits format call base store) :
    (advanceWrite format call failure store point).2.Fits format call base
      (advanceWrite format call failure store point).1 := by
  cases point with
  | entered =>
    simp only [advanceWrite]
    split
    next => exact ⟨fits, _, rfl⟩
    next =>
      split
      next => exact ⟨fits, _, rfl⟩
      next =>
        split
        next => exact ⟨fits, _, rfl⟩
        next made isMade =>
          rw [eq_directory_of_makeDirectory isMade]
          exact ⟨⟨fits.entries, fun prepared => ⟨rfl, (fits.prepared prepared).2⟩⟩, rfl⟩
  | stateMade =>
    simp only [advanceWrite]
    split
    next => exact ⟨fits.1, _, rfl⟩
    next => exact fits
  | stateRestricted =>
    obtain ⟨unchanged, isState⟩ := fits
    simp only [advanceWrite]
    split
    next => exact ⟨unchanged, _, rfl⟩
    next =>
      split
      next => exact ⟨unchanged, _, rfl⟩
      next =>
        split
        next => exact ⟨unchanged, _, rfl⟩
        next made isMade =>
          rw [eq_directory_of_makeDirectory isMade]
          exact ⟨⟨unchanged.entries, fun _ => ⟨isState, rfl⟩⟩, isState, rfl⟩
  | runsMade =>
    simp only [advanceWrite]
    split
    next => exact ⟨fits.1, _, rfl⟩
    next => exact fits
  | runsRestricted =>
    obtain ⟨unchanged, prepared⟩ := fits
    simp only [advanceWrite]
    split
    next => exact ⟨unchanged, _, rfl⟩
    next isId =>
      split
      next => exact ⟨unchanged, _, rfl⟩
      next =>
        split
        next => exact ⟨unchanged, _, rfl⟩
        next => exact ⟨unchanged, _, rfl⟩
        next => exact ⟨unchanged, prepared, not_not.mp isId⟩
  | unpublished =>
    obtain ⟨unchanged, prepared, isId⟩ := fits
    simp only [advanceWrite]
    split
    next => exact ⟨unchanged, _, rfl⟩
    next =>
      exact unchanged.stage prepared isId rfl
  | staging =>
    simp only [advanceWrite]
    split
    next => exact ⟨fits.unchanged, _, rfl⟩
    next => exact fits
  | stagingRestricted =>
    obtain ⟨unchanged, prepared, isId, staged, isStaged, rfl⟩ := fits
    simp only [advanceWrite, stagedItems, isStaged]
    split
    next => exact ⟨unchanged, _, rfl⟩
    next =>
      exact unchanged.stage prepared isId ⟨_, rfl⟩
  | opened =>
    obtain ⟨unchanged, prepared, isId, staged, isStaged, contents, rfl⟩ := fits
    simp only [advanceWrite, stagedItems, isStaged]
    split
    next => exact ⟨unchanged.setEntry (hidden_stagingName call) _, _, rfl⟩
    next => exact unchanged.stage prepared isId ⟨_, rfl⟩
  | written =>
    simp only [advanceWrite]
    split
    next => exact ⟨fits.unchanged, _, rfl⟩
    next => exact fits
  | artifactRestricted =>
    obtain ⟨unchanged, prepared, isId, staged, isStaged, contents, rfl⟩ := fits
    simp only [advanceWrite, stagedItems, isStaged]
    split
    next => exact ⟨unchanged, _, rfl⟩
    next =>
      split
      next => exact ⟨unchanged, _, rfl⟩
      next run isRead =>
        split
        next => exact ⟨unchanged, _, rfl⟩
        next same =>
          refine ⟨unchanged, prepared, isId, _, isStaged, contents, rfl, ?_⟩
          rw [← not_not.mp same]
          exact modelValidateJson_of_loadArtifactFile isRead
  | compared =>
    simp only [advanceWrite]
    split
    next => exact ⟨fits.unchanged, _, rfl⟩
    next => exact fits
  | synced =>
    simp only [advanceWrite]
    split
    next => exact ⟨fits.unchanged, _, rfl⟩
    next =>
      split
      next => exact ⟨fits.unchanged, _, rfl⟩
      next free =>
        refine ⟨fits, ?_⟩
        rw [← fits.unchanged.entries _ (not_hidden_finalName fits.isId)]
        exact Option.not_isSome_iff_eq_none.mp free
  | rechecked =>
    obtain ⟨staged, free⟩ := fits
    obtain ⟨renamed, isRenamed, published⟩ := staged.rename free
    simp only [advanceWrite, isRenamed]
    split
    next => exact ⟨staged.unchanged, _, rfl⟩
    next => exact published
  | renamed =>
    simp only [advanceWrite]
    split
    next => exact fits
    next => exact fits
  | runsSynced =>
    simp only [advanceWrite]
    split
    next => exact fits
    next =>
      split
      next => exact fits
      next =>
        split
        next => exact fits
        next => exact fits
  | closing published result =>
    have hidden := hidden_stagingName call
    cases published with
    | false =>
      cases failure with
      | none => exact ⟨fits.1.setEntry hidden _, fits.2⟩
      | some failure =>
        simp only [advanceWrite]
        split
        next => exact ⟨fits.1.setEntry hidden _, _, rfl⟩
        next => exact ⟨fits.1, _, rfl⟩
    | true =>
      cases failure with
      | none => exact PublishedRun.setEntry fits hidden _
      | some failure =>
        simp only [advanceWrite]
        split
        next => exact PublishedRun.setEntry fits hidden _
        next => exact fits
  | ended published result => exact fits

/-- Whatever fails and wherever the write stops. -/
theorem write_fits (format : RunFormat) (call : WriteCall) (outcomes : List (Option Failure))
    (base : RunStore) :
    (writeVerificationRun format call outcomes base).2.Fits format call base
      (writeVerificationRun format call outcomes base).1 := by
  have run : ∀ (state : RunStore × WritePoint), state.2.Fits format call base state.1 →
      (outcomes.foldl (fun state failure => advanceWrite format call failure state.1 state.2)
        state).2.Fits format call base (outcomes.foldl (fun state failure =>
          advanceWrite format call failure state.1 state.2) state).1 := by
    induction outcomes with
    | nil => exact fun _ fits => fits
    | cons failure outcomes ih => exact fun state fits => ih _ (advanceWrite_fits failure fits)
  exact run (base, .entered) (.refl base)

/-- The rename has happened. -/
def WritePoint.published : WritePoint → Bool
  | .renamed | .runsSynced => true
  | .closing published _ | .ended published _ => published
  | _ => false

/-- The function returned. -/
def WritePoint.returned : WritePoint → Bool
  | .ended _ (.ok _) => true
  | _ => false

theorem WritePoint.Fits.cases {point : WritePoint} (fits : point.Fits format call base store) :
    point.published = true ∧ PublishedRun format call base store ∨
      point.published = false ∧ point.returned = false ∧ Unchanged base store := by
  cases point with
  | entered => exact .inr ⟨rfl, rfl, fits⟩
  | stateMade | stateRestricted | runsMade | runsRestricted | unpublished =>
    exact .inr ⟨rfl, rfl, fits.1⟩
  | staging | stagingRestricted | opened | written | artifactRestricted | compared | synced =>
    exact .inr ⟨rfl, rfl, fits.unchanged⟩
  | rechecked => exact .inr ⟨rfl, rfl, fits.1.unchanged⟩
  | renamed | runsSynced => exact .inl ⟨rfl, fits⟩
  | closing published result =>
    cases published with
    | true => exact .inl ⟨rfl, fits⟩
    | false => exact .inr ⟨rfl, rfl, fits.1⟩
  | ended published result =>
    cases published with
    | true => exact .inl ⟨rfl, fits⟩
    | false =>
      obtain ⟨unchanged, error, rfl⟩ := fits
      exact .inr ⟨rfl, rfl, unchanged⟩

end write

/-! ## Sequences of writes -/

section writes

variable {store base : RunStore} {call : WriteCall}

theorem Unchanged.intact (unchanged : Unchanged base store) (intact : Intact format base) :
    Intact format store := by
  intro name entry visible isEntry
  rw [unchanged.entries name visible] at isEntry
  exact intact name entry visible isEntry

theorem PublishedRun.intact (published : PublishedRun format call base store)
    (intact : Intact format base) : Intact format store := by
  intro name entry visible isEntry
  by_cases self : name = call.finalName
  · subst self
    obtain ⟨written, isWritten, holds⟩ := published.entry
    rw [isWritten] at isEntry
    cases isEntry
    exact ⟨call.artifact, holds, rfl⟩
  · rw [published.others name visible self] at isEntry
    exact intact name entry visible isEntry

/-- What readers see only grows. -/
structure Kept (base store : RunStore) : Prop where
  entries : ∀ name entry, ¬ Hidden name → base.entries name = some entry →
    store.entries name = some entry
  prepared : base.Prepared → store.Prepared

theorem Kept.refl (store : RunStore) : Kept store store where
  entries _ _ _ isEntry := isEntry
  prepared := id

theorem Kept.trans {first second third : RunStore} (before : Kept first second)
    (after : Kept second third) : Kept first third where
  entries name entry visible isEntry :=
    after.entries name entry visible (before.entries name entry visible isEntry)
  prepared isPrepared := after.prepared (before.prepared isPrepared)

theorem Unchanged.kept (unchanged : Unchanged base store) : Kept base store where
  entries name entry visible isEntry := by rw [unchanged.entries name visible, isEntry]
  prepared := unchanged.prepared

theorem PublishedRun.kept (published : PublishedRun format call base store) : Kept base store where
  entries name entry visible isEntry := by
    have apart : name ≠ call.finalName := by
      rintro rfl
      rw [published.fresh] at isEntry
      cases isEntry
    rw [published.others name visible apart, isEntry]
  prepared _ := published.prepared

theorem kept_write (format : RunFormat) (call : WriteCall) (outcomes : List (Option Failure))
    (base : RunStore) : Kept base (writeVerificationRun format call outcomes base).1 := by
  rcases (write_fits format call outcomes base).cases with
    ⟨-, published⟩ | ⟨-, -, unchanged⟩
  · exact published.kept
  · exact unchanged.kept

theorem writeAll_append (store : RunStore)
    (before after : List (WriteCall × List (Option Failure))) :
    writeAll format store (before ++ after) =
      writeAll format (writeAll format store before) after := List.foldl_append

theorem kept_writeAll (format : RunFormat) (writes : List (WriteCall × List (Option Failure)))
    (store : RunStore) : Kept store (writeAll format store writes) := by
  induction writes generalizing store with
  | nil => exact .refl store
  | cons write writes ih => exact (kept_write format write.1 write.2 store).trans (ih _)

theorem Intact.writeAll {store : RunStore} (intact : Intact format store)
    (writes : List (WriteCall × List (Option Failure))) :
    Intact format (writeAll format store writes) := by
  induction writes generalizing store with
  | nil => exact intact
  | cons write writes ih =>
    refine ih ?_
    rcases (write_fits format write.1 write.2 store).cases with
      ⟨-, published⟩ | ⟨-, -, unchanged⟩
    · exact published.intact intact
    · exact unchanged.intact intact

/-- A reader of a published run gets the run that was written. -/
theorem loadVerificationRun_of_holds {run : Evidence.VerificationRun} {entry : Entry}
    (prepared : store.Prepared) (isId : IsId "sgvrun" run.runId)
    (isEntry : store.entries run.runId = some entry) (holds : Holds format entry run) :
    loadVerificationRun format store run.runId = .ok run := by
  obtain ⟨contents, rfl, valid⟩ := holds
  obtain ⟨isState, isRuns⟩ := prepared
  simp [loadVerificationRun, validatedRunId, isId, validateStorageParents, isState, isRuns,
    isEntry, findItem, loadArtifactFile, valid, bind, Except.bind]

/-- A write at which nothing fails returns, when its names are free and what it writes is read
back. -/
theorem write_returns (call : WriteCall) (store : RunStore)
    (isId : IsId "sgvrun" call.artifact.runId)
    (readsBack : modelValidateJson format (format.canonicalJson call.artifact) =
      some call.artifact)
    (state : makeDirectory store.stateDirectory = some .directory)
    (runs : makeDirectory store.runsDirectory = some .directory)
    (final : store.entries call.finalName = none)
    (staging : store.entries call.stagingName = none) :
    (writeVerificationRun format call (List.replicate 17 none) store).2 =
      .ended true (.ok (call.finalName ++ "/run.json")) := by
  have isState : store.stateDirectory ≠ .symlink := by
    rintro same
    rw [same] at state
    cases state
  have isRuns : store.runsDirectory ≠ .symlink := by
    rintro same
    rw [same] at runs
    cases runs
  have apart : call.finalName ≠ call.stagingName := by
    intro same
    have visible := not_hidden_finalName isId
    rw [same] at visible
    exact visible (hidden_stagingName call)
  simp only [WriteCall.finalName] at final apart
  simp [writeVerificationRun, List.replicate, advanceWrite, isState, isRuns, state, runs, final,
    staging, isId, stagedItems, findItem, loadArtifactFile, readsBack, RunStore.rename, apart,
    loadVerificationRun, validatedRunId, validateStorageParents, bind, Except.bind,
    WriteCall.finalName]

/-- After any sequence of writes, each of which may fail at any step or be killed there:
every visible directory holds one valid run under its own identity, a run once visible is
never altered, and a run that was published is read back as it was written. -/
theorem runStore_integrity (format : RunFormat) (store : RunStore) (intact : Intact format store)
    (writes : List (WriteCall × List (Option Failure))) :
    Intact format (writeAll format store writes) ∧
      (∀ before after, writes = before ++ after → ∀ name entry, ¬ Hidden name →
        (writeAll format store before).entries name = some entry →
          (writeAll format store writes).entries name = some entry) ∧
      ∀ before call outcomes after, writes = before ++ (call, outcomes) :: after →
        ((writeVerificationRun format call outcomes
            (writeAll format store before)).2.returned = true →
          (writeVerificationRun format call outcomes
            (writeAll format store before)).2.published = true) ∧
        ((writeVerificationRun format call outcomes
            (writeAll format store before)).2.published = true →
          loadVerificationRun format (writeAll format store writes) call.artifact.runId =
            .ok call.artifact) := by
  refine ⟨intact.writeAll writes, ?_, ?_⟩
  · rintro before after rfl name entry visible isEntry
    rw [writeAll_append]
    exact (kept_writeAll format after _).entries name entry visible isEntry
  · rintro before call outcomes after rfl
    have later : Kept (writeVerificationRun format call outcomes
        (writeAll format store before)).1
        (writeAll format store (before ++ (call, outcomes) :: after)) := by
      rw [writeAll_append]
      exact kept_writeAll format after _
    rcases (write_fits format call outcomes (writeAll format store before)).cases with
      ⟨isPublished, published⟩ | ⟨unpublished, unreturned, -⟩
    · refine ⟨fun _ => isPublished, fun _ => ?_⟩
      obtain ⟨entry, isEntry, holds⟩ := published.entry
      exact loadVerificationRun_of_holds (later.prepared published.prepared) published.isId
        (later.entries _ _ (not_hidden_finalName published.isId) isEntry) holds
    · rw [unpublished, unreturned]
      refine ⟨fun absurd => ?_, fun absurd => ?_⟩
      all_goals cases absurd

/-! ## A published run -/

/-- A format that writes this run as some text and reads it back. -/
def sampleFormat (run : Evidence.VerificationRun) : RunFormat where
  canonicalJson _ := "\x7b\x7d\n".toUTF8
  readJson contents := if contents = "\x7b\x7d\n".toUTF8 then some run else none
  hashing := sampleRunHashing
  fingerprint := fun _ => "fingerprint"

def sampleRunId : VerificationRunId := "sgvrun_0123456789abcdef0123456789abcdef"

/-- The run of one webhook under an identity of a run. -/
theorem exists_sampleRun : ∃ run : Evidence.VerificationRun, run.runId = sampleRunId ∧
    run.validateRun sampleRunHashing (fun _ => "fingerprint") = .ok () := by
  obtain ⟨artifact, isArtifact, run, isRun, isId, valid⟩ :
      ∃ artifact ∈ (capturedArtifact oneWebhook).toOption,
        ∃ run ∈ (buildVerificationRun sampleRunHashing (fun _ => "fingerprint")
            { Evidence.sampleInputs oneWebhook artifact with
              runId := sampleRunId
              razorpayGrounding := none
              results := artifact.rows.map unverifiedResult }).toOption,
          run.runId = sampleRunId ∧
            run.validateRun sampleRunHashing (fun _ => "fingerprint") = .ok () := by
    decide +kernel
  exact ⟨run, isId, valid⟩

theorem runStore_integrity_published : ∃ run : Evidence.VerificationRun,
    loadVerificationRun (sampleFormat run) (writeAll (sampleFormat run) .empty
      [(⟨run, "first"⟩, List.replicate 17 none), (⟨run, "second"⟩, List.replicate 4 none)])
      run.runId = .ok run := by
  obtain ⟨run, isId, valid⟩ := exists_sampleRun
  have published : (writeVerificationRun (sampleFormat run) ⟨run, "first"⟩
      (List.replicate 17 none) .empty).2 = .ended true (.ok (run.runId ++ "/run.json")) := by
    refine write_returns ⟨run, "first"⟩ .empty ?_ ?_ rfl rfl rfl rfl
    · show IsId "sgvrun" run.runId
      rw [isId]
      decide +kernel
    · simp [modelValidateJson, sampleFormat, valid]
  refine ⟨run, ((runStore_integrity (sampleFormat run) .empty (intact_empty _) _).2.2 []
    ⟨run, "first"⟩ (List.replicate 17 none) _ rfl).2 ?_⟩
  show (writeVerificationRun (sampleFormat run) ⟨run, "first"⟩
    (List.replicate 17 none) .empty).2.published = true
  rw [published]
  rfl

end writes

end StateGuard
