import Mathlib.Data.List.Basic
import Mathlib.Logic.Function.Basic
import StateGuard.Evidence.Contracts

/-!
# Guarded edits of the project configuration

The edits of `stateguard.yaml`: each reads the file, edits the document in memory, stages
the result beside the file, compares the file's fingerprint with the one it started from
and replaces the file. An edit is a program of file-system steps, any of which may fail,
and several edits of one file take their steps in any order. YAML, the schema and SHA-256
are third-party code and are parameters.
-/

namespace StateGuard

/-! ## Documents -/

/-- A node of a round-trip YAML document. `trivia` stands for the comments and the layout
the loader keeps with a node. -/
inductive Yaml where
  | null
  | scalar (text : String)
  | sequence (trivia : String) (items : List Yaml)
  | mapping (trivia : String) (entries : List (String × Yaml))

namespace Yaml

/-- `mapping.get(key)`: an absent key and a null value are both `None`. -/
def get (key : String) (entries : List (String × Yaml)) : Option Yaml :=
  match entries.find? (·.1 = key) with
  | none | some (_, .null) => none
  | some (_, value) => some value

/-- `mapping[key] = value`: in place when the key is there, at the end otherwise. -/
def set (key : String) (value : Yaml) (entries : List (String × Yaml)) :
    List (String × Yaml) :=
  if entries.any (·.1 = key) then
    entries.map fun entry => if entry.1 = key then (key, value) else entry
  else entries ++ [(key, value)]

/-- `CommentedMap({..})`. -/
def commentedMap (entries : List (String × Yaml)) : Yaml := .mapping "" entries

end Yaml

/-! ## Errors -/

/-- What an edit raises. -/
inductive EditError where
  | configLoad (message : String)
  | concurrentConfigEdit (message : String)
  | value (message : String)
  /-- A file-system operation failed. -/
  | os
  | unicodeDecode
  /-- An exception of the YAML library that is no `ValueError`. -/
  | yaml
deriving DecidableEq, Repr

/-- How `yaml.load(path.read_text(encoding="utf-8"))` fails once the file is read. -/
inductive SafeLoadFailure where
  | unicodeDecode
  | yaml (message : String)
deriving DecidableEq, Repr

/-- How `yaml.load(original.decode("utf-8"))` fails: with one of `UnicodeError`, `OSError`
and `ValueError`, or with an exception of the library's own. -/
inductive RoundTripFailure where
  | caught
  | escaping
deriving DecidableEq, Repr

/-! ## Loading -/

/-- The loaded configuration, as far as an edit reads it. -/
structure StateGuardConfig where
  schemaVersion : Nat
deriving DecidableEq, Repr

/-- The third-party code an edit calls. -/
structure ConfigLibrary where
  safeLoad : ByteArray → Except SafeLoadFailure Yaml
  /-- `StateGuardConfig.model_validate`, with the details of its failure as text. -/
  modelValidate : List (String × Yaml) → Except String StateGuardConfig
  roundTrip : ByteArray → Except RoundTripFailure Yaml
  /-- `yaml.dump`, encoded as the file's handle encodes it. -/
  dump : Yaml → Except EditError ByteArray
  sha256Digest : ByteArray → String

variable (library : ConfigLibrary)

/-- `load_config` of a file with these contents; `none` is a file that cannot be read. -/
def loadConfig (path : String) (contents : Option ByteArray) :
    Except EditError StateGuardConfig :=
  match contents with
  | none => .error (.configLoad ("cannot read configuration: " ++ path))
  | some bytes =>
    match library.safeLoad bytes with
    | .error .unicodeDecode => .error .unicodeDecode
    | .error (.yaml message) => .error (.configLoad ("invalid YAML configuration: " ++ message))
    | .ok (.mapping _ raw) =>
      match library.modelValidate raw with
      | .error details =>
        .error (.configLoad ("invalid StateGuard configuration: " ++ details))
      | .ok config => .ok config
    | .ok _ => .error (.configLoad "configuration root must be a YAML mapping")

/-! ## The edits -/

/-- What the edit functions differ in. -/
structure GuardedEdit where
  /-- What the call refuses before it looks at the file. -/
  refusal : Option EditError
  schemaMessage : String
  concurrentMessage : String
  /-- The edit of the root mapping's entries. -/
  edit : List (String × Yaml) → Except EditError (List (String × Yaml))

/-- The mapping under a section's key, a new one when there is none. -/
def sectionOf (name : String) (document : List (String × Yaml)) :
    Except EditError (String × List (String × Yaml)) :=
  match Yaml.get name document with
  | none => .ok ("", [])
  | some (.mapping trivia entries) => .ok (trivia, entries)
  | some _ => .error (.configLoad (name ++ " must be a YAML mapping"))

structure ConfirmedCustomerValueConfig where
  symbolId : String
  semanticContextFingerprint : String
  basis : String
deriving DecidableEq, Repr

def writeCustomerValueConfirmation (confirmation : ConfirmedCustomerValueConfig) :
    GuardedEdit where
  refusal := none
  schemaMessage := "semantic confirmation requires schema_version 2"
  concurrentMessage := "configuration changed during semantic update"
  edit document := do
    let (trivia, semantics) ← sectionOf "semantics" document
    let value := Yaml.commentedMap [
      ("symbol_id", .scalar confirmation.symbolId),
      ("semantic_context_fingerprint", .scalar confirmation.semanticContextFingerprint),
      ("basis", .scalar confirmation.basis)]
    pure (Yaml.set "semantics"
      (.mapping trivia (Yaml.set "customer_value" value semantics)) document)

/-- `policy[key] = CommentedMap(..)` for a value that was given. -/
def setConfirmed {π : Type} (key : String) (spelling : π → String)
    (confirmation? : Option (ConfirmedPolicyConfig π)) (policy : List (String × Yaml)) :
    List (String × Yaml) :=
  match confirmation? with
  | none => policy
  | some confirmation =>
    Yaml.set key (Yaml.commentedMap [
      ("value", .scalar (spelling confirmation.value)),
      ("evidence_fingerprint", .scalar confirmation.evidenceFingerprint)]) policy

def writeMerchantPolicyConfirmation (update : MerchantPolicyConfig) : GuardedEdit where
  refusal :=
    if update.fulfilment = none ∧ update.lateAuthorisation = none then
      some (.value "merchant policy update requires at least one explicit value")
    else none
  schemaMessage := "policy confirmation requires schema_version 2"
  concurrentMessage := "configuration changed during policy update"
  edit document := do
    let (trivia, policy) ← sectionOf "policy" document
    pure (Yaml.set "policy" (.mapping trivia
      (setConfirmed "late_authorisation" Evidence.lateAuthorisationValue update.lateAuthorisation
        (setConfirmed "fulfilment" Evidence.fulfilmentValue update.fulfilment policy))) document)

def writeOwnedConfigurationSection (name : String) (payload : List (String × Yaml)) :
    GuardedEdit where
  refusal :=
    if name ∈ ["ai", "runtime"] then none
    else some (.value "unsupported owned configuration section")
  schemaMessage := "setup configuration requires schema_version 2"
  concurrentMessage := "configuration changed during " ++ name ++ " update"
  edit document := pure (Yaml.set name (Yaml.commentedMap payload) document)

/-- The payload is the configuration's `model_dump`. -/
def writeAiConfiguration (payload : List (String × Yaml)) : GuardedEdit :=
  writeOwnedConfigurationSection "ai" payload

/-- The payload is the configuration's `model_dump`. -/
def writeRuntimeConfiguration (payload : List (String × Yaml)) : GuardedEdit :=
  writeOwnedConfigurationSection "runtime" payload

/-- The edited document of a file's original bytes. -/
def editedDocument (edit : GuardedEdit) (original : ByteArray) : Except EditError Yaml :=
  match library.roundTrip original with
  | .error .caught => .error (.configLoad "configuration cannot be round-trip edited")
  | .error .escaping => .error .yaml
  | .ok (.mapping trivia document) => do
    let edited ← edit.edit document
    pure (.mapping trivia edited)
  | .ok _ => .error (.configLoad "configuration root must be a YAML mapping")

/-- The bytes an edit makes of the file's original bytes. -/
def renderEdit (edit : GuardedEdit) (original : ByteArray) : Except EditError ByteArray := do
  let document ← editedDocument library edit original
  library.dump document

/-! ## One edit's steps -/

/-- The configuration file. -/
structure ConfigFile where
  isSymlink : Bool
  bytes : ByteArray
  mode : Nat

/-- A staged file: `mkstemp` gives every call a name of its own. -/
structure Temporary where
  bytes : ByteArray
  mode : Nat

/-- A call of an edit function. -/
structure EditCall where
  edit : GuardedEdit
  temporaryName : String

/-- Where a call stands, with the local variables it still needs. `published` is what the
call replaced the file by, and on which original bytes that was based. -/
inductive Point where
  | entered
  | unlinked
  | authoritative
  | read (original : ByteArray)
  | edited (original : ByteArray) (document : Yaml)
  | opened (original : ByteArray) (document : Yaml) (temporary : Temporary)
  | written (original : ByteArray) (temporary : Temporary)
  | validated (original : ByteArray) (temporary : Temporary)
  | compared (original : ByteArray) (temporary : Temporary)
  | permitted (original : ByteArray) (temporary : Temporary)
  | replaced (original output : ByteArray)
  /-- In the `finally`, with the staged file when it is still there. -/
  | closing (staged : Option Temporary) (published : Option (ByteArray × ByteArray))
      (result : Except EditError Unit)
  | ended (published : Option (ByteArray × ByteArray)) (result : Except EditError Unit)

/-- The `finally` after an exception before the replace. -/
def Point.raising (temporary : Temporary) (error : EditError) : Point :=
  .closing (some temporary) none (.error error)

/-- An exception before there is a staged file. -/
def Point.raised (error : EditError) : Point := .ended none (.error error)

/-- The next step of a call; `fault` is a file-system failure at this step. -/
def advance (path : String) (call : EditCall) (fault : Bool) (file : ConfigFile) :
    Point → ConfigFile × Point
  | .entered =>
    match call.edit.refusal with
    | some error => (file, .raised error)
    | none =>
      if fault then (file, .raised .os)
      else if file.isSymlink then
        (file, .raised (.configLoad "refusing to edit a symlinked configuration"))
      else (file, .unlinked)
  | .unlinked =>
    match loadConfig library path (if fault then none else some file.bytes) with
    | .error error => (file, .raised error)
    | .ok config =>
      if config.schemaVersion ≠ 2 then
        (file, .raised (.configLoad call.edit.schemaMessage))
      else (file, .authoritative)
  | .authoritative =>
    if fault then (file, .raised .os) else (file, .read file.bytes)
  | .read original =>
    match editedDocument library call.edit original with
    | .error error => (file, .raised error)
    | .ok document => (file, .edited original document)
  | .edited original document =>
    if fault then (file, .raised .os)
    else (file, .opened original document ⟨ByteArray.empty, 0o600⟩)
  | .opened original document temporary =>
    if fault then (file, .raising temporary .os)
    else match library.dump document with
      | .error error => (file, .raising temporary error)
      | .ok bytes => (file, .written original { temporary with bytes := bytes })
  | .written original temporary =>
    match loadConfig library call.temporaryName
        (if fault then none else some temporary.bytes) with
    | .error error => (file, .raising temporary error)
    | .ok _ => (file, .validated original temporary)
  | .validated original temporary =>
    if fault then (file, .raising temporary .os)
    else if library.sha256Digest file.bytes ≠ library.sha256Digest original then
      (file, .raising temporary (.concurrentConfigEdit call.edit.concurrentMessage))
    else (file, .compared original temporary)
  | .compared original temporary =>
    if fault then (file, .raising temporary .os)
    else (file, .permitted original { temporary with mode := file.mode &&& 0o777 })
  | .permitted original temporary =>
    if fault then (file, .raising temporary .os)
    else (⟨false, temporary.bytes, temporary.mode⟩, .replaced original temporary.bytes)
  | .replaced original output =>
    match loadConfig library path (if fault then none else some file.bytes) with
    | .error error => (file, .closing none (some (original, output)) (.error error))
    | .ok _ => (file, .closing none (some (original, output)) (.ok ()))
  | .closing _ published result =>
    if fault then (file, .ended published (.error .os))
    else (file, .ended published result)
  | .ended published result => (file, .ended published result)

/-! ## Several edits of one file -/

/-- A replace of the file by one of the calls: what it was based on, what it wrote, and how
many replaces there had been when the call compared the fingerprints. -/
structure Publication (ι : Type) where
  party : ι
  original : ByteArray
  output : ByteArray
  comparedAt : Nat

/-- Calls at work on one file. `history` and `comparedAt` only record what happened. -/
structure Editing (ι : Type) where
  file : ConfigFile
  points : ι → Point
  comparedAt : ι → Nat
  history : List (Publication ι)

variable {ι : Type}

/-- All calls are about to start. -/
def Editing.start (file : ConfigFile) : Editing ι where
  file := file
  points := fun _ => .entered
  comparedAt := fun _ => 0
  history := []

variable [DecidableEq ι]

/-- One call takes its next step. -/
def Editing.step (path : String) (calls : ι → EditCall) (state : Editing ι) (party : ι)
    (fault : Bool) : Editing ι :=
  let (file, point) := advance library path (calls party) fault state.file (state.points party)
  { file := file
    points := Function.update state.points party point
    comparedAt :=
      match point with
      | .compared .. => Function.update state.comparedAt party state.history.length
      | _ => state.comparedAt
    history :=
      match point with
      | .replaced original output =>
        state.history ++ [⟨party, original, output, state.comparedAt party⟩]
      | _ => state.history }

/-- Any order of steps, each with or without a failure. -/
def Editing.run (path : String) (calls : ι → EditCall) (state : Editing ι)
    (schedule : List (ι × Bool)) : Editing ι :=
  schedule.foldl (fun state move => state.step library path calls move.1 move.2) state

/-- The calls' edits of a file, from the start. -/
def runEdits (path : String) (calls : ι → EditCall) (file : ConfigFile)
    (schedule : List (ι × Bool)) : Editing ι :=
  (Editing.start file).run library path calls schedule

end StateGuard
