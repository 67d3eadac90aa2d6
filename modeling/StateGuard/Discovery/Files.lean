import Mathlib.Data.List.Lex
import StateGuard.Library.Checks
import StateGuard.Library.Glob
import StateGuard.Library.KeyOrder
import StateGuard.Library.Worklist
import StateGuard.Python.Fnmatch

/-!
# Project files

`discoverPythonFiles` walks the source root and records the Python files that the configuration
selects.  The file system is a `Host`: how paths resolve, and the tree below a directory as the
system calls show it, each directory listed in an order of its own.  Paths are made of names
without slashes; a recorded path is the normalised text of one, and a name may be such that its text
has none (`normalizeRelativePath`), which fails the whole discovery.
-/

namespace StateGuard

namespace ProjectFiles

open Python KeyOrder

/-! ## Paths -/

def slash : CodePoint := .ofChar '/'

/-- `path.split("/")`. -/
def splitSlash (path : Str) : List Str := path.splitOn slash

/-- A name in a directory. -/
structure Name where
  text : Str
  nonempty : text ≠ []
  plain : slash ∉ text
  deriving DecidableEq

/-- The text of a relative path. -/
def asPosix (names : List Name) : Str := [slash].intercalate (names.map Name.text)

/-- The parts of `PurePosixPath(path)`, of a path that is not absolute. -/
def posixParts (path : Str) : List Str :=
  (splitSlash path).filter fun part => part ≠ [] ∧ part ≠ .ofString "."

/-- Rooted, or behind the letter of a drive. -/
def isCrossPlatformAbsolutePath (value : Str) : Bool :=
  match value.strip with
  | [] => false
  | first :: rest =>
    first = slash || first = .ofChar '\\' ||
      (Char.isAlpha (Char.ofNat first.val) && rest.head? = some (.ofChar ':'))

/-- `normalize_relative_path`, of a text that encodes; `none` where it raises. -/
def normalizeRelativePath (value : Str) : Option Str :=
  let normalized := value.strip.map fun c => if c = .ofChar '\\' then slash else c
  if normalized = [] then none
  else if isCrossPlatformAbsolutePath value ∨ Str.ofString ".." ∈ posixParts normalized then none
  else if posixParts normalized = [] then some (.ofString ".")
  else some ([slash].intercalate (posixParts normalized))

/-- The path of a record: a text with a lone surrogate is none, either. -/
def recordedPath (value : Str) : Option Str :=
  if value.isUnicode then normalizeRelativePath value else none

/-! ## Selection -/

structure Config where
  projectId : Str
  sourceRoot : Str
  includeGlobs : List Str
  excludeGlobs : List Str

def mandatoryExcludedComponents : List Str :=
  [.ofString ".git", .ofString ".stateguard", .ofString ".venv", .ofString "venv"]

def isDeep (pattern : Str) : Bool := pattern = .ofString "**"

def matchesGlob (path pattern : Str) : Bool :=
  Glob.matchSegments isDeep fnmatchcase (splitSlash path) (splitSlash pattern)

def isMandatoryExcluded (relativePath : Str) : Bool :=
  (splitSlash relativePath).any (mandatoryExcludedComponents.contains ·)

/-- `text.endswith(".py")`. -/
def endsWithPy (text : Str) : Bool := (Str.ofString ".py").isSuffixOf text

def Config.excludes (config : Config) (relativePath : Str) : Bool :=
  config.excludeGlobs.any (matchesGlob relativePath ·)

def Config.selected (config : Config) (relativePath : Str) : Bool :=
  if !endsWithPy relativePath || isMandatoryExcluded relativePath then false
  else config.includeGlobs.any (matchesGlob relativePath ·) && !config.excludes relativePath

/-! ## The file system -/

/-- What an entry of a directory is.  The bytes of a file are `none` where reading it fails; an
entry of which `is_symlink` fails is a link, too. -/
inductive Node where
  | file (bytes : Option (List UInt8))
  | directory (entries : List (Name × Node))
  | unlistable
  | link
  | other

mutual

def Node.weight : Node → Nat
  | .directory entries => weightOf entries + 1
  | .file _ | .unlistable | .link | .other => 1

/-- The weight of the entries of a directory. -/
def weightOf : List (Name × Node) → Nat
  | [] => 0
  | (_, node) :: rest => node.weight + weightOf rest

end

/-- What is asked of the file system.  A path is the list of its parts. -/
structure Host where
  /-- `path.resolve(strict=True)`. -/
  resolve : List Str → Option (List Name)
  isDir : List Name → Bool
  isSymlink : List Str → Bool
  tree : List Name → Node

/-- Why the bytes of a file have no text. -/
inductive DecodeError where
  | lookupError | syntaxError | unicodeDecodeError
  /-- One that the discovery does not handle, such as the plain `UnicodeError` of a codec. -/
  | other
  deriving DecidableEq

structure Tools where
  sha256Digest : List UInt8 → Str
  /-- `_stable_id`. -/
  stableId : String → List Str → Str
  /-- `_decode_python`. -/
  decodePython : List UInt8 → Except DecodeError Str

/-! ## Records -/

inductive AnalysisDiagnosticCode where
  | unreadableDirectory | unreadableFile | symlinkSkipped | invalidSourceEncoding
  deriving DecidableEq, Repr

def AnalysisDiagnosticCode.value : AnalysisDiagnosticCode → Str
  | .unreadableDirectory => .ofString "UNREADABLE_DIRECTORY"
  | .unreadableFile => .ofString "UNREADABLE_FILE"
  | .symlinkSkipped => .ofString "SYMLINK_SKIPPED"
  | .invalidSourceEncoding => .ofString "INVALID_SOURCE_ENCODING"

structure AnalysisDiagnosticRecord where
  code : AnalysisDiagnosticCode
  path : Str
  deriving DecidableEq

structure SourceFileRecord where
  fileId : Str
  path : Str
  contentFingerprint : Str
  byteSize : Nat
  deriving DecidableEq

structure SourceSnapshot where
  record : SourceFileRecord
  sourceRootRelativePath : Str
  decodedSource : Option Str
  deriving DecidableEq

inductive DiscoveryFailure where
  | projectDiscoveryError (message : String)
  /-- The validation of a record, or of the path in its identity. -/
  | valueError
  /-- An exception of a codec. -/
  | decodeError
  deriving DecidableEq

/-- What the walk appends to one of its two lists. -/
inductive Finding where
  | snapshot (snapshot : SourceSnapshot)
  | diagnostic (diagnostic : AnalysisDiagnosticRecord)
  deriving DecidableEq

def Finding.snapshot? : Finding → Option SourceSnapshot
  | .snapshot recorded => some recorded
  | .diagnostic _ => none

def Finding.diagnostic? : Finding → Option AnalysisDiagnosticRecord
  | .snapshot _ => none
  | .diagnostic recorded => some recorded

theorem snapshot?_eq_some {finding : Finding} {recorded : SourceSnapshot} :
    finding.snapshot? = some recorded ↔ finding = .snapshot recorded := by
  cases finding <;> simp [Finding.snapshot?]

theorem diagnostic?_eq_some {finding : Finding} {recorded : AnalysisDiagnosticRecord} :
    finding.diagnostic? = some recorded ↔ finding = .diagnostic recorded := by
  cases finding <;> simp [Finding.diagnostic?]

/-! ## The walk -/

section Walk

variable (tools : Tools) (config : Config) (root : List Name)

/-- A diagnostic for a path below the source root. -/
def diagnose (code : AnalysisDiagnosticCode) (names : List Name) :
    Except DiscoveryFailure (List Finding) :=
  match recordedPath (asPosix (root ++ names)) with
  | none => .error .valueError
  | some path => .ok [.diagnostic ⟨code, path⟩]

/-- The record of a file. -/
def sourceFileRecord (path : Str) (bytes : List UInt8) : SourceFileRecord where
  fileId := tools.stableId "sgfile" [config.projectId, path]
  path := path
  contentFingerprint := tools.sha256Digest bytes
  byteSize := bytes.length

/-- The snapshot of a file, and a diagnostic if its text cannot be told. -/
def snapshotFile (names : List Name) (bytes : List UInt8) :
    Except DiscoveryFailure (List Finding) :=
  match recordedPath (asPosix (root ++ names)) with
  | none => .error .valueError
  | some path =>
    let record := sourceFileRecord tools config path bytes
    match tools.decodePython bytes with
    | .ok text => .ok [.snapshot ⟨record, asPosix names, some text⟩]
    | .error .other => .error .decodeError
    | .error _ =>
      .ok [.diagnostic ⟨.invalidSourceEncoding, path⟩, .snapshot ⟨record, asPosix names, none⟩]

/-- What the walk finds at an entry of the directory with the given names. -/
def entryFindings (directory : List Name) (entry : Name × Node) :
    Except DiscoveryFailure (List Finding) :=
  let names := directory ++ [entry.1]
  if isMandatoryExcluded (asPosix names) then .ok []
  else
    match entry.2 with
    | .link =>
      if endsWithPy entry.1.text || !config.excludes (asPosix names) then
        diagnose root .symlinkSkipped names
      else .ok []
    | .directory _ | .unlistable | .other => .ok []
    | .file bytes? =>
      if !config.selected (asPosix names) then .ok []
      else
        match bytes? with
        | none => diagnose root .unreadableFile names
        | some bytes => snapshotFile tools config root names bytes

/-- A directory that is yet to be listed. -/
structure Pending where
  names : List Name
  node : Node

/-- The entry as a directory that is yet to be listed. -/
def childDirectory (directory : List Name) (entry : Name × Node) : Option Pending :=
  let names := directory ++ [entry.1]
  if isMandatoryExcluded (asPosix names) then none
  else
    match entry.2 with
    | .directory _ | .unlistable => some ⟨names, entry.2⟩
    | .file _ | .link | .other => none

/-- The entries of a directory in the order of their names. -/
def sortedEntries (entries : List (Name × Node)) : List (Name × Node) :=
  sortedByKey (·.1.text) entries

/-- One round of the walk. -/
def visit (directory : Pending) : Except DiscoveryFailure (List Finding × List Pending) :=
  match directory.node with
  | .directory entries => do
    let found ← (sortedEntries entries).mapM (entryFindings tools config root directory.names)
    pure (found.flatten, (sortedEntries entries).filterMap (childDirectory directory.names))
  | .file _ | .unlistable | .link | .other =>
    if directory.names = [] then
      .error (.projectDiscoveryError "source root cannot be enumerated")
    else do
      let found ← diagnose root .unreadableDirectory directory.names
      pure (found, [])

theorem sortedEntries_perm (entries : List (Name × Node)) :
    (sortedEntries entries).Perm entries :=
  sortedByKey_perm _ entries

theorem node_of_childDirectory {directory : List Name} {entry : Name × Node} {child : Pending}
    (isChild : childDirectory directory entry = some child) : child.node = entry.2 := by
  rw [childDirectory] at isChild
  split at isChild
  next => cases isChild
  next =>
    split at isChild
    next same => rw [← Option.some.inj isChild]
    next same => rw [← Option.some.inj isChild]
    all_goals cases isChild

/-- The directories among the entries weigh no more than the entries. -/
theorem weight_childDirectories_le (directory : List Name) (entries : List (Name × Node)) :
    ((entries.filterMap (childDirectory directory)).map (·.node.weight)).sum ≤
      weightOf entries := by
  induction entries with
  | nil => exact Nat.le_refl 0
  | cons entry rest ih =>
    obtain ⟨name, node⟩ := entry
    rw [weightOf]
    cases isChild : childDirectory directory (name, node) with
    | none =>
      rw [List.filterMap_cons_none isChild]
      omega
    | some child =>
      have same : child.node = node := node_of_childDirectory isChild
      rw [List.filterMap_cons_some isChild, List.map_cons, List.sum_cons, same]
      omega

theorem weightOf_perm {entries others : List (Name × Node)} (perm : entries.Perm others) :
    weightOf entries = weightOf others := by
  induction perm with
  | nil => rfl
  | cons entry _ ih => rw [weightOf, weightOf, ih]
  | swap first second rest =>
    simp only [weightOf]
    omega
  | trans _ _ first second => rw [first, second]

theorem visit_lighter {directory : Pending} {found : List Finding} {children : List Pending}
    (visited : visit tools config root directory = .ok (found, children)) :
    (children.map (·.node.weight)).sum < directory.node.weight := by
  rw [visit] at visited
  split at visited
  next entries isDirectory =>
    simp only [Checks.bind_eq_ok, Checks.pure_eq_ok, Prod.mk.injEq] at visited
    obtain ⟨lists, -, -, rfl⟩ := visited
    have least := weight_childDirectories_le directory.names (sortedEntries entries)
    rw [weightOf_perm (sortedEntries_perm entries)] at least
    rw [isDirectory, Node.weight]
    omega
  all_goals
    next isOther =>
      split at visited
      next => cases visited
      next =>
        simp only [Checks.bind_eq_ok, Checks.pure_eq_ok, Prod.mk.injEq] at visited
        obtain ⟨lists, -, -, rfl⟩ := visited
        rw [isOther, Node.weight]
        exact Nat.one_pos

/-- The loop over the directories that are yet to be listed. -/
def walk : Worklist.Traversal Pending Finding DiscoveryFailure where
  visit := visit tools config root
  weight directory := directory.node.weight
  lighter := visit_lighter tools config root

end Walk

/-! ## The discovery -/

structure FileDiscoveryResult where
  repositoryRoot : List Name
  sourceRoot : List Name
  snapshots : List SourceSnapshot
  diagnostics : List AnalysisDiagnosticRecord
  deriving DecidableEq

/-- What diagnostics are ordered by. -/
def AnalysisDiagnosticRecord.key (diagnostic : AnalysisDiagnosticRecord) : Str ×ₗ Str :=
  toLex (diagnostic.path, diagnostic.code.value)

open Checks in
/-- The source root that a configuration names, in the resolved repository. -/
def sourceRootOf (host : Host) (config : Config) (repository : List Name) :
    Except DiscoveryFailure (List Name) := do
  let configured := repository.map Name.text ++ posixParts config.sourceRoot
  raiseIf (host.isSymlink configured)
    (.projectDiscoveryError "configured source root must not be a symlink")
  match host.resolve configured with
  | none => .error (.projectDiscoveryError "source root does not exist or cannot be resolved")
  | some resolved => do
    raiseIf (¬ repository <+: resolved)
      (.projectDiscoveryError "source root must remain inside the repository root")
    raiseIf (host.isDir resolved = false)
      (.projectDiscoveryError "source root must be a directory")
    pure resolved

open Checks in
/-- The resolved repository and the source root in it. -/
def resolvedRoots (host : Host) (configuredRepository : List Str) (config : Config) :
    Except DiscoveryFailure (List Name × List Name) :=
  match host.resolve configuredRepository with
  | none => .error (.projectDiscoveryError "repository root does not exist or cannot be resolved")
  | some repository => do
    raiseIf (host.isDir repository = false)
      (.projectDiscoveryError "repository root must be a directory")
    let source ← sourceRootOf host config repository
    pure (repository, source)

/-- `discover_python_files`. -/
def discoverPythonFiles (tools : Tools) (host : Host) (configuredRepository : List Str)
    (config : Config) : Except DiscoveryFailure FileDiscoveryResult := do
  let (repository, source) ← resolvedRoots host configuredRepository config
  let found ← (walk tools config (source.drop repository.length)).run [⟨[], host.tree source⟩]
  pure {
    repositoryRoot := repository
    sourceRoot := source
    snapshots := sortedByKey (·.record.path) (found.filterMap Finding.snapshot?)
    diagnostics := sortedByKey AnalysisDiagnosticRecord.key (found.filterMap Finding.diagnostic?) }

end ProjectFiles

end StateGuard
