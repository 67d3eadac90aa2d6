import Mathlib
import StateGuard.Evidence.CheckKeys

/-!
# The store of verification runs

`.stateguard/runs` holds one directory for each published run. A run is staged in a hidden
directory, read back, and published by renaming that directory; a writer is a program of
file-system steps, any of which may fail, and a writer that takes no further step has been
killed. The text of a run is a parameter (`RunFormat`); that a read run is valid is
`validate_run`.
-/

namespace StateGuard

open Evidence

deriving instance DecidableEq for VerificationRunPayload
deriving instance DecidableEq for Evidence.VerificationRun

/-- What the store raises. -/
inductive RunStoreError where
  | invalidVerificationRunId
  | verificationRunNotFound (message : String)
  | verificationRunArtifact (message : String)
  | fileExists (message : String)
  /-- A file-system operation failed. -/
  | os
deriving DecidableEq, Repr

/-- Writing and reading a run as text, and what its validation needs. -/
structure RunFormat where
  /-- `canonical_json(artifact) + "\n"`, encoded. -/
  canonicalJson : Evidence.VerificationRun → ByteArray
  /-- The run a text holds, before the run's own validation. -/
  readJson : ByteArray → Option Evidence.VerificationRun
  hashing : RunHashing
  fingerprint : VerificationRunPayload → Sha256Digest

/-! ## The file system -/

/-- What a path of the repository's state is. -/
inductive Parent where
  | absent
  | symlink
  | file
  | directory
deriving DecidableEq, Repr

/-- An item of a run's directory. -/
inductive Item where
  | symlink
  | directory
  | file (contents : ByteArray)
deriving DecidableEq

/-- An entry of the runs' directory. -/
inductive Entry where
  | symlink
  | file
  | directory (items : List (String × Item))
deriving DecidableEq

/-- The repository's state directory. -/
structure RunStore where
  stateDirectory : Parent
  runsDirectory : Parent
  entries : String → Option Entry

/-- `.stateguard` before the first run. -/
def RunStore.empty : RunStore where
  stateDirectory := .absent
  runsDirectory := .absent
  entries _ := none

namespace RunStore

def setEntry (store : RunStore) (name : String) (entry : Option Entry) : RunStore :=
  { store with entries := Function.update store.entries name entry }

@[simp]
theorem setEntry_self (store : RunStore) (name : String) (entry : Option Entry) :
    (store.setEntry name entry).entries name = entry := Function.update_self ..

@[simp]
theorem setEntry_of_ne (store : RunStore) {name other : String} (apart : other ≠ name)
    (entry : Option Entry) : (store.setEntry name entry).entries other = store.entries other :=
  Function.update_of_ne apart ..

@[simp]
theorem setEntry_stateDirectory (store : RunStore) (name : String) (entry : Option Entry) :
    (store.setEntry name entry).stateDirectory = store.stateDirectory := rfl

@[simp]
theorem setEntry_runsDirectory (store : RunStore) (name : String) (entry : Option Entry) :
    (store.setEntry name entry).runsDirectory = store.runsDirectory := rfl

/-- `os.rename(source, target)` of a directory; `none` when there is none, or the target is
in the way. -/
def rename (store : RunStore) (source target : String) : Option RunStore :=
  match store.entries source, store.entries target with
  | none, _ => none
  | some moved, none | some moved, some (.directory []) =>
    some ((store.setEntry target (some moved)).setEntry source none)
  | some _, some _ => none

end RunStore

/-! ## Reading -/

variable (format : RunFormat)

/-- `VerificationRun.model_validate_json`. -/
def modelValidateJson (contents : ByteArray) : Option Evidence.VerificationRun :=
  match format.readJson contents with
  | none => none
  | some run =>
    match run.validateRun format.hashing format.fingerprint with
    | .error _ => none
    | .ok () => some run

/-- `_load_artifact_file`. -/
def loadArtifactFile (item : Option Item) : Except RunStoreError Evidence.VerificationRun :=
  match item with
  | some .symlink =>
    .error (.verificationRunArtifact "refusing to use symlinked verification-run artifact")
  | none | some .directory =>
    .error (.verificationRunArtifact "verification-run artifact is missing")
  | some (.file contents) =>
    match modelValidateJson format contents with
    | none =>
      .error (.verificationRunArtifact "invalid StateGuard verification-run artifact")
    | some run => .ok run

def findItem (name : String) (items : List (String × Item)) : Option Item :=
  (items.find? (·.1 = name)).map (·.2)

/-- `_validated_run_id`. -/
def validatedRunId (runId : String) : Except RunStoreError VerificationRunId :=
  if IsId "sgvrun" runId then .ok runId else .error .invalidVerificationRunId

/-- `_validate_storage_parents` of a reader. -/
def validateStorageParents (store : RunStore) : Except RunStoreError Unit :=
  match store.stateDirectory with
  | .symlink => .error (.verificationRunArtifact "refusing to use symlinked .stateguard directory")
  | .absent => .ok ()
  | .file | .directory =>
    if store.runsDirectory = .symlink then
      .error (.verificationRunArtifact
        "refusing to use symlinked verification-runs directory")
    else .ok ()

/-- `load_verification_run`. -/
def loadVerificationRun (store : RunStore) (runId : String) :
    Except RunStoreError Evidence.VerificationRun := do
  let selectedId ← validatedRunId runId
  validateStorageParents store
  match store.entries selectedId with
  | some .symlink =>
    .error (.verificationRunArtifact "refusing to use symlinked verification-run directory")
  | none =>
    .error (.verificationRunNotFound "verification-run directory is missing")
  | some .file =>
    .error (.verificationRunArtifact "verification-run directory is not a directory")
  | some (.directory items) =>
    if items.map (·.1) ≠ ["run.json"] then
      .error (.verificationRunArtifact "verification-run directory must contain only run.json")
    else
      match loadArtifactFile format (findItem "run.json" items) with
      | .error error => .error error
      | .ok artifact =>
        if artifact.runId ≠ selectedId then
          .error (.verificationRunArtifact
            "verification-run directory and artifact identities differ")
        else .ok artifact

/-! ## Writing -/

/-- A call of `write_verification_run`; `random` is the part of its staging directory's name
that `mkdtemp` picks. -/
structure WriteCall where
  artifact : Evidence.VerificationRun
  random : String

namespace WriteCall

variable (call : WriteCall)

/-- `mkdtemp(prefix=f".{artifact.run_id}.", suffix=".tmp")`. -/
def stagingName : String := "." ++ call.artifact.runId ++ "." ++ call.random ++ ".tmp"

def finalName : String := call.artifact.runId

end WriteCall

/-- Where a call stands. -/
inductive WritePoint where
  | entered
  | stateMade
  | stateRestricted
  | runsMade
  | runsRestricted
  | unpublished
  | staging
  | stagingRestricted
  | opened
  | written
  | artifactRestricted
  | compared
  | synced
  | rechecked
  | renamed
  | runsSynced
  /-- In the `finally`; `published` says whether the rename has happened. -/
  | closing (published : Bool) (result : Except RunStoreError String)
  | ended (published : Bool) (result : Except RunStoreError String)

namespace WritePoint

/-- An exception before there is a staging directory. -/
def raised (error : RunStoreError) : WritePoint := .ended false (.error error)

/-- An exception in the `try`. -/
def raising (published : Bool) (error : RunStoreError) : WritePoint :=
  .closing published (.error error)

end WritePoint

/-- A file-system failure: what a failed write has left of the file, and what a failed
`rmtree` has left of the staging directory. -/
structure Failure where
  torn : ByteArray
  residue : Option Entry

/-- `mkdir(exist_ok=True)`. -/
def makeDirectory (parent : Parent) : Option Parent :=
  match parent with
  | .absent | .directory => some .directory
  | .symlink | .file => none

/-- The items of the call's staging directory. -/
def stagedItems (store : RunStore) (call : WriteCall) : List (String × Item) :=
  match store.entries call.stagingName with
  | some (.directory items) => items
  | _ => []

/-- The next step of a call. -/
def advanceWrite (call : WriteCall) (failure : Option Failure) (store : RunStore) :
    WritePoint → RunStore × WritePoint
  | .entered =>
    if store.stateDirectory = .symlink then
      (store, .raised (.verificationRunArtifact
        "refusing to use symlinked .stateguard directory"))
    else if failure.isSome then (store, .raised .os)
    else match makeDirectory store.stateDirectory with
      | none => (store, .raised .os)
      | some made => ({ store with stateDirectory := made }, .stateMade)
  | .stateMade =>
    if failure.isSome then (store, .raised .os) else (store, .stateRestricted)
  | .stateRestricted =>
    if store.runsDirectory = .symlink then
      (store, .raised (.verificationRunArtifact
        "refusing to use symlinked verification-runs directory"))
    else if failure.isSome then (store, .raised .os)
    else match makeDirectory store.runsDirectory with
      | none => (store, .raised .os)
      | some made => ({ store with runsDirectory := made }, .runsMade)
  | .runsMade =>
    if failure.isSome then (store, .raised .os) else (store, .runsRestricted)
  | .runsRestricted =>
    if ¬ IsId "sgvrun" call.artifact.runId then (store, .raised .invalidVerificationRunId)
    else if failure.isSome then (store, .raised .os)
    else match store.entries call.finalName with
      | some .symlink => (store, .raised (.verificationRunArtifact
          "refusing to use symlinked verification-run directory"))
      | some _ => (store, .raised (.fileExists "verification run ID already exists"))
      | none => (store, .unpublished)
  | .unpublished =>
    -- `mkdtemp` only takes a name that is free.
    if failure.isSome ∨ (store.entries call.stagingName).isSome then (store, .raised .os)
    else (store.setEntry call.stagingName (some (.directory [])), .staging)
  | .staging =>
    if failure.isSome then (store, .raising false .os) else (store, .stagingRestricted)
  | .stagingRestricted =>
    -- `O_CREAT | O_EXCL`
    if failure.isSome ∨ (findItem "run.json" (stagedItems store call)).isSome then
      (store, .raising false .os)
    else (store.setEntry call.stagingName
      (some (.directory (stagedItems store call ++ [("run.json", .file ByteArray.empty)]))),
      .opened)
  | .opened =>
    let contents :=
      match failure with
      | some failure => failure.torn
      | none => format.canonicalJson call.artifact
    (store.setEntry call.stagingName
      (some (.directory ((stagedItems store call).map fun item =>
        if item.1 = "run.json" then ("run.json", .file contents) else item))),
      if failure.isSome then .raising false .os else .written)
  | .written =>
    if failure.isSome then (store, .raising false .os) else (store, .artifactRestricted)
  | .artifactRestricted =>
    if failure.isSome then
      (store, .raising false (.verificationRunArtifact
        "invalid StateGuard verification-run artifact"))
    else match loadArtifactFile format (findItem "run.json" (stagedItems store call)) with
      | .error error => (store, .raising false error)
      | .ok staged =>
        if staged ≠ call.artifact then
          (store, .raising false (.verificationRunArtifact
            "staged verification run differs from requested artifact"))
        else (store, .compared)
  | .compared =>
    if failure.isSome then (store, .raising false .os) else (store, .synced)
  | .synced =>
    if failure.isSome then (store, .raising false .os)
    else if (store.entries call.finalName).isSome then
      (store, .raising false (.fileExists "verification run ID already exists"))
    else (store, .rechecked)
  | .rechecked =>
    if failure.isSome then (store, .raising false .os)
    else match store.rename call.stagingName call.finalName with
      | none => (store, .raising false .os)
      | some renamed => (renamed, .renamed)
  | .renamed =>
    if failure.isSome then (store, .raising true .os) else (store, .runsSynced)
  | .runsSynced =>
    if failure.isSome then (store, .raising true .os)
    else match loadVerificationRun format store call.artifact.runId with
      | .error error => (store, .raising true error)
      | .ok published =>
        if published ≠ call.artifact then
          (store, .raising true (.verificationRunArtifact
            "published verification run differs from requested artifact"))
        else (store, .closing true (.ok (call.finalName ++ "/run.json")))
  | .closing published result =>
    match failure with
    | some failure =>
      (if (store.entries call.stagingName).isSome then
        store.setEntry call.stagingName failure.residue
      else store, .ended published (.error .os))
    | none => (store.setEntry call.stagingName none, .ended published result)
  | .ended published result => (store, .ended published result)

/-! ## Sequences of writes -/

/-- `write_verification_run`: as many steps as there are outcomes. A call that is not at its
end has been killed. -/
def writeVerificationRun (call : WriteCall) (outcomes : List (Option Failure))
    (store : RunStore) : RunStore × WritePoint :=
  outcomes.foldl (fun state failure => advanceWrite format call failure state.1 state.2)
    (store, .entered)

/-- One write after the other. -/
def writeAll (store : RunStore) (writes : List (WriteCall × List (Option Failure))) :
    RunStore :=
  writes.foldl (fun store write => (writeVerificationRun format write.1 write.2 store).1) store

end StateGuard
