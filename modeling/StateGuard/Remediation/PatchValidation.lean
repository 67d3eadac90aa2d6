import Mathlib.Data.String.Basic
import StateGuard.Python.Text
import StateGuard.Remediation.Contracts

/-!
# Patches

`validateAndRenderPatch` replaces regions of files by what a provider proposes: it reads each file
again, checks that the regions are what they were, splices the replacements in, parses the
candidate and renders the difference.  What is refused is refused with an `UnsafePatchError`.

What is no refusal are the exceptions that nothing catches: of the file system before the file is
read, of `encode` on a text with a lone surrogate, and the `ValueError` of `ast.parse`.
`FilesHold` follows the files in their order and says that none of these is reached;
`settles_validateAndRenderPatch` says that then, and only then, a patch is rendered or refused.

The file system, the codecs, `ast.parse` and `difflib` are taken as given (`Workspace`,
`PatchTools`).
-/

namespace StateGuard

namespace Remediation

open Python Checks Record KeyOrder Semantics

/-- A source file: the digest of its bytes, its text and its codec. -/
structure SourceFile where
  fingerprint : Sha256Digest
  text : Str
  encoding : String

/-- The files under a repository root. -/
structure Workspace where
  /-- The root can be resolved. -/
  rootResolves : Bool
  /-- A component of the path is a symbolic link; `none` when the file system raises. -/
  probe : String → Option Bool
  /-- The file, when it can be resolved, read and decoded. -/
  read : String → Option SourceFile

inductive ParseOutcome where
  | accepted | syntaxError | valueError
  deriving DecidableEq, Repr

/-- What the validation of a patch takes from the standard library. -/
structure PatchTools where
  casefold : String → String
  /-- The digest of the UTF-8 bytes of a text. -/
  digest : Str → Sha256Digest
  /-- A codec encodes a text. -/
  encodes : String → Str → Bool
  /-- `ast.parse` of a module. -/
  parse : Str → ParseOutcome
  /-- The unified difference of a file and its candidate. -/
  unifiedDiff : String → Str → Str → Str

/-- A region and its replacement. -/
abbrev RegionEdit := EditableRegion × RawStructuredEdit

def forbiddenParts : List String :=
  [".stateguard", ".env", ".git", "stateguard.yaml", "stateguard.yml", "pyproject.toml",
    "requirements.txt", "uv.lock", "poetry.lock"]

/-- The parts of a relative path. -/
def pathParts (path : String) : List String :=
  ((path.toList.splitOn '/').map String.ofList).filter fun part => part ≠ "" ∧ part ≠ "."

/-- The texts between the offsets of a region. -/
def EditableRegion.slice (region : EditableRegion) (text : Str) : Str :=
  (text.take region.endOffset).drop region.startOffset

/-- A file with the replacements in the place of their regions, from the last region to the
first. -/
def splice (text : Str) (edits : List RegionEdit) : Str :=
  edits.foldr (fun item candidate =>
    candidate.take item.1.startOffset ++ item.2.replacementContent ++
      candidate.drop item.1.endOffset) text

/-- The edits of each path, the paths and the edits of a path in order. -/
def editsByPath (selected : List RegionEdit) : List (String × List RegionEdit) :=
  (sortedByKey id (selected.map (·.1.path)).dedup).map fun path =>
    (path, sortedByKey (·.1.startOffset) (selected.filter (·.1.path = path)))

section Validation

variable (workspace : Workspace) (tools : PatchTools)

/-- A path of an allowlisted Python source file. -/
def AllowedPath (path : String) : Prop :=
  endsWith ".py" path = true ∧ ∀ part ∈ pathParts path, tools.casefold part ∉ forbiddenParts

instance (path : String) : Decidable (AllowedPath tools path) :=
  inferInstanceAs (Decidable (_ ∧ _))

/-- `sha256_digest` of a text. -/
def digestText (text : Str) : Except Exception Sha256Digest := do
  raiseIf (text.isUnicode = false) .unicodeEncodeError
  pure (tools.digest text)

/-- `_read_python`. -/
def readPython (path : String) : Except Exception SourceFile := do
  raiseIf (¬ AllowedPath tools path)
    (.unsafePatchError "editable target is not an allowlisted Python source file")
  raiseIf (workspace.rootResolves = false) .osError
  let symlink ← (workspace.probe path).elim (.error .osError) .ok
  raiseIf (symlink = true) (.unsafePatchError "editable target contains a symlink component")
  (workspace.read path).elim
    (.error (.unsafePatchError "editable target is unavailable or has invalid encoding")) .ok

/-- The checks of one region, after a region that ends at `prior`. -/
def checkRegion (file : SourceFile) (prior : Option Nat) (item : RegionEdit) :
    Except Exception Unit := do
  raiseIf (file.fingerprint ≠ item.1.fileFingerprint)
    (.unsafePatchError "editable file changed during provider request")
  raiseIf (∃ last ∈ prior, item.1.startOffset < last)
    (.unsafePatchError "editable regions overlap")
  let digest ← digestText tools (item.1.slice file.text)
  raiseIf (digest ≠ item.1.regionFingerprint)
    (.unsafePatchError "editable region changed during provider request")
  raiseIf (tools.encodes file.encoding item.2.replacementContent = false)
    (.unsafePatchError "replacement cannot preserve source encoding")

def checkRegions (file : SourceFile) : Option Nat → List RegionEdit → Except Exception Unit
  | _, [] => .ok ()
  | prior, item :: rest => do
    checkRegion tools file prior item
    checkRegions file (some item.1.endOffset) rest

def previewOf (item : RegionEdit) : Except Exception StructuredEditPreview := do
  let replacementFingerprint ← digestText tools item.2.replacementContent
  pure {
    regionReference := item.1.regionReference
    path := item.1.path
    kind := item.1.kind
    originalRegionFingerprint := item.1.regionFingerprint
    replacementFingerprint }

/-- What has been rendered. -/
structure Rendered where
  diff : Str
  previews : List StructuredEditPreview
  totalSourceBytes : Nat

/-- `ast.parse` of a candidate; only a `SyntaxError` is caught. -/
def parseCandidate (candidate : Str) : Except Exception Unit :=
  match tools.parse candidate with
  | .accepted => .ok ()
  | .syntaxError => .error (.unsafePatchError "candidate is not valid Python 3.11 syntax")
  | .valueError => .error .valueError

/-- One file of a patch. -/
def renderFile (rendered : Rendered) (path : String) (edits : List RegionEdit) :
    Except Exception Rendered := do
  let file ← readPython workspace tools path
  checkRegions tools file none edits
  let previews ← collect (previewOf tools) edits.reverse
  let candidate := splice file.text edits
  let size ← encodedLength candidate
  raiseIf (bounds.maxExcerptMaterialBytes < rendered.totalSourceBytes + size)
    (.unsafePatchError "candidate source exceeds structured-generation bounds")
  parseCandidate tools candidate
  pure {
    diff := rendered.diff ++ tools.unifiedDiff path file.text candidate
    previews := rendered.previews ++ previews
    totalSourceBytes := rendered.totalSourceBytes + size }

def renderFiles : Rendered → List (String × List RegionEdit) → Except Exception Rendered
  | rendered, [] => .ok rendered
  | rendered, (path, edits) :: rest => do
    let rendered ← renderFile workspace tools rendered path edits
    renderFiles rendered rest

/-- The region that an edit names. -/
def selectRegion (regions : List EditableRegion) (edit : RawStructuredEdit) :
    Except Exception RegionEdit :=
  match regions.find? (·.regionReference = edit.regionReference) with
  | none => .error (.unsafePatchError "model referenced an unknown editable region")
  | some region => .ok (region, edit)

/-- The end of `validate_and_render_patch`: the bounds of the difference and the preview. -/
def previewPatch (rendered : Rendered) : Except Exception PatchPreview := do
  raiseIf (rendered.diff = []) (.unsafePatchError "proposal does not change current source")
  let size ← encodedLength rendered.diff
  raiseIf (bounds.maxExcerptMaterialBytes < size)
    (.unsafePatchError "rendered diff exceeds structured-generation bounds")
  checkText 1 none rendered.diff
  raiseIf (rendered.previews = []) .validationError
  pure {
    diff := rendered.diff
    edits := sortedByKey (fun item => toLex (item.path, item.regionReference)) rendered.previews }

/-- `validate_and_render_patch`. -/
def validateAndRenderPatch (regions : List EditableRegion) (edits : List RawStructuredEdit) :
    Except Exception PatchPreview := do
  raiseIf (¬ (regions.map (·.regionReference)).Nodup ∨ edits = [])
    (.unsafePatchError "patch requires unique known editable regions")
  raiseIf (bounds.maxStructuredItems < edits.length)
    (.unsafePatchError "patch contains too many edits")
  let selected ← collect (selectRegion regions) edits
  let rendered ← renderFiles workspace tools ⟨[], [], 0⟩ (editsByPath selected)
  previewPatch rendered

/-! ## Exceptions that nothing catches -/

/-- The regions that are compared with their fingerprints can be encoded. -/
def RegionsEncode (file : SourceFile) : Option Nat → List RegionEdit → Prop
  | _, [] => True
  | prior, item :: rest =>
    file.fingerprint = item.1.fileFingerprint → (∀ last ∈ prior, last ≤ item.1.startOffset) →
      (item.1.slice file.text).isUnicode = true ∧
        (tools.digest (item.1.slice file.text) = item.1.regionFingerprint →
          tools.encodes file.encoding item.2.replacementContent = true →
          RegionsEncode file (some item.1.endOffset) rest)

/-- No file of a patch reaches an exception that nothing catches, and what is rendered in the end
satisfies `finish`. -/
def FilesHold (finish : Rendered → Prop) : Rendered → List (String × List RegionEdit) → Prop
  | rendered, [] => finish rendered
  | rendered, (path, edits) :: rest =>
    AllowedPath tools path → workspace.rootResolves = true ∧
      ∃ symlink, workspace.probe path = some symlink ∧
        (symlink = false → ∀ file, workspace.read path = some file →
          RegionsEncode tools file none edits ∧
            (checkRegions tools file none edits = .ok () →
              (splice file.text edits).isUnicode = true ∧
                (rendered.totalSourceBytes + (splice file.text edits).utf8Length ≤
                    bounds.maxExcerptMaterialBytes →
                  tools.parse (splice file.text edits) ≠ .valueError ∧
                    (tools.parse (splice file.text edits) = .accepted →
                      ∀ previews, collect (previewOf tools) edits.reverse = .ok previews →
                        FilesHold finish {
                          diff := rendered.diff ++
                            tools.unifiedDiff path file.text (splice file.text edits)
                          previews := rendered.previews ++ previews
                          totalSourceBytes := rendered.totalSourceBytes +
                            (splice file.text edits).utf8Length } rest))))

/-- An exception that is dealt with: a refusal, or a failure of the provider. -/
def IsHandled (failure : Exception) : Prop :=
  (∃ message, failure = .unsafePatchError message) ∨ IsProviderError failure

@[simp]
theorem isHandled_unsafePatchError (message : String) : IsHandled (.unsafePatchError message) :=
  .inl ⟨message, rfl⟩

@[simp]
theorem not_isHandled_osError : ¬ IsHandled .osError := by
  simp [IsHandled, IsProviderError]

@[simp]
theorem not_isHandled_valueError : ¬ IsHandled .valueError := by
  simp [IsHandled]

@[simp]
theorem not_isHandled_unicodeEncodeError : ¬ IsHandled .unicodeEncodeError := by
  simp [IsHandled]

@[simp]
theorem not_isHandled_validationError : ¬ IsHandled .validationError := by
  simp [IsHandled]

variable {workspace tools}

theorem settles_readPython (good : SourceFile → Prop) (path : String) :
    Settles IsHandled good (readPython workspace tools path) ↔
      (AllowedPath tools path → workspace.rootResolves = true ∧
        ∃ symlink, workspace.probe path = some symlink ∧
          (symlink = false → ∀ file, workspace.read path = some file → good file)) := by
  simp only [readPython, settles_bind, settles_raiseIf, settles_elim, not_not,
    isHandled_unsafePatchError, not_isHandled_osError, imp_true_iff, true_and, imp_false,
    Bool.not_eq_false, Bool.not_eq_true]
  refine forall_congr' fun allowed => and_congr_right fun resolves => ?_
  rw [imp_iff_right resolves]
  cases workspace.probe path with
  | none => simp
  | some symlink => simp

theorem settles_parseCandidate (good : Unit → Prop) (candidate : Str) :
    Settles IsHandled good (parseCandidate tools candidate) ↔
      tools.parse candidate ≠ .valueError ∧ (tools.parse candidate = .accepted → good ()) := by
  unfold parseCandidate
  cases tools.parse candidate with
  | accepted => simp [Settles]
  | syntaxError => simp [settles_error]
  | valueError => simp [settles_error]

theorem settles_checkRegions (good : Unit → Prop) (file : SourceFile) (prior : Option Nat)
    (edits : List RegionEdit) :
    Settles IsHandled good (checkRegions tools file prior edits) ↔
      RegionsEncode tools file prior edits ∧
        (checkRegions tools file prior edits = .ok () → good ()) := by
  induction edits generalizing prior with
  | nil => simp [checkRegions, RegionsEncode, Settles]
  | cons item rest ih =>
    simp only [checkRegions, RegionsEncode, settles_bind, checkRegion, digestText, settles_raiseIf,
      settles_pure, ih, bind_eq_ok, raiseIf_eq_ok, exists_unit, pure_eq_ok,
      isHandled_unsafePatchError, not_isHandled_unicodeEncodeError, imp_true_iff, true_and,
      imp_false, not_not, not_exists, not_and, not_lt, Bool.not_eq_false, and_imp]
    constructor
    · intro holds
      refine ⟨fun current apart => ?_, ?_⟩
      · obtain ⟨encodes, later⟩ := holds current apart
        exact ⟨encodes, fun same representable => (later encodes same representable).1⟩
      · rintro current apart ⟨-, ⟨encodes, rfl⟩, same, representable⟩ returned
        exact ((holds current apart).2 encodes same representable).2 returned
    · rintro ⟨regions, later⟩ current apart
      refine ⟨(regions current apart).1, fun encodes same representable => ⟨?_, ?_⟩⟩
      · exact (regions current apart).2 same representable
      · exact later current apart ⟨_, ⟨encodes, rfl⟩, same, representable⟩

theorem collect_previewOf {edits : List RegionEdit}
    (unicode : ∀ item ∈ edits, item.2.replacementContent.isUnicode = true) :
    ∃ previews, collect (previewOf tools) edits = .ok previews ∧
      previews.length = edits.length := by
  have previewed : ∀ item ∈ edits, ∃ preview, previewOf tools item = .ok preview := by
    intro item membership
    have encodes := unicode item membership
    simp [previewOf, digestText, raiseIf, encodes, bind, Except.bind, pure, Except.pure]
  obtain ⟨previews, collected⟩ := collect_ok previewed
  exact ⟨previews, collected, (collect_eq_ok collected).length_eq.symm⟩

theorem settles_renderFile (good : Rendered → Prop) (rendered : Rendered) (path : String)
    {edits : List RegionEdit}
    (unicode : ∀ item ∈ edits, item.2.replacementContent.isUnicode = true) :
    Settles IsHandled good (renderFile workspace tools rendered path edits) ↔
      FilesHold workspace tools good rendered [(path, edits)] := by
  obtain ⟨previews, collected, -⟩ := @collect_previewOf tools edits.reverse
    fun item membership => unicode item (List.mem_reverse.mp membership)
  have again : ∀ {p q : Prop}, (p ∧ (p → q)) ↔ p ∧ q := by tauto
  simp only [renderFile, settles_bind, settles_readPython, settles_checkRegions, encodedLength,
    settles_raiseIf, settles_parseCandidate, settles_pure, FilesHold, collected, settles_ok,
    Except.ok.injEq, forall_eq', not_isHandled_unicodeEncodeError,
    isHandled_unsafePatchError, imp_false, imp_true_iff, true_and, not_lt, Bool.not_eq_false,
    again]

theorem settles_renderFiles (good : Rendered → Prop) (rendered : Rendered)
    {groups : List (String × List RegionEdit)}
    (unicode : ∀ group ∈ groups, ∀ item ∈ group.2, item.2.replacementContent.isUnicode = true) :
    Settles IsHandled good (renderFiles workspace tools rendered groups) ↔
      FilesHold workspace tools good rendered groups := by
  induction groups generalizing rendered with
  | nil => exact Iff.rfl
  | cons group rest ih =>
    obtain ⟨path, edits⟩ := group
    have later := fun rendered => ih rendered fun group membership =>
      unicode group (List.mem_cons_of_mem _ membership)
    simp only [renderFiles, settles_bind, later]
    rw [settles_renderFile _ _ _ (unicode (path, edits) List.mem_cons_self)]
    simp only [FilesHold]

/-- What is rendered of files with edits has previews. -/
theorem filesHold_congr {finish other : Rendered → Prop}
    (same : ∀ rendered, rendered.previews ≠ [] → (finish rendered ↔ other rendered))
    {groups : List (String × List RegionEdit)} (edited : ∀ group ∈ groups, group.2 ≠ [])
    (rendered : Rendered) (some : groups ≠ [] ∨ rendered.previews ≠ []) :
    FilesHold workspace tools finish rendered groups ↔
      FilesHold workspace tools other rendered groups := by
  induction groups generalizing rendered with
  | nil => exact same rendered (some.resolve_left (by simp))
  | cons group rest ih =>
    obtain ⟨path, edits⟩ := group
    have previewed : ∀ previews, collect (previewOf tools) edits.reverse = .ok previews →
        rendered.previews ++ previews ≠ [] := by
      intro previews collected none
      have length := (collect_eq_ok collected).length_eq
      rw [(List.append_eq_nil_iff.mp none).2, List.length_reverse, List.length_nil] at length
      exact edited (path, edits) List.mem_cons_self (List.length_eq_zero_iff.mp length)
    simp only [FilesHold]
    refine forall_congr' fun _ => and_congr_right fun _ => exists_congr fun _ => ?_
    refine and_congr_right fun _ => forall_congr' fun _ => forall_congr' fun _ => ?_
    refine forall_congr' fun _ => and_congr_right fun _ => forall_congr' fun _ => ?_
    refine and_congr_right fun _ => forall_congr' fun _ => and_congr_right fun _ => ?_
    refine forall_congr' fun _ => forall_congr' fun previews => forall_congr' fun collected => ?_
    exact ih (fun group membership => edited group (List.mem_cons_of_mem _ membership)) _
      (.inr (previewed previews collected))

/-- A path of the selected edits has an edit. -/
theorem editsByPath_edited {selected : List RegionEdit} :
    ∀ group ∈ editsByPath selected, group.2 ≠ [] := by
  intro group membership none
  obtain ⟨path, isPath, rfl⟩ := List.mem_map.mp membership
  obtain ⟨item, isItem, same⟩ := List.mem_map.mp (List.mem_dedup.mp
    ((mem_sortedByKey _ _ _).mp isPath))
  have listed : item ∈ sortedByKey (·.1.startOffset) (selected.filter (·.1.path = path)) :=
    (mem_sortedByKey _ _ _).mpr (List.mem_filter.mpr ⟨isItem, decide_eq_true same⟩)
  have empty : sortedByKey (·.1.startOffset) (selected.filter (·.1.path = path)) = [] := none
  rw [empty] at listed
  cases listed

theorem mem_of_mem_editsByPath {selected : List RegionEdit} {group : String × List RegionEdit}
    (isGroup : group ∈ editsByPath selected) {item : RegionEdit} (isItem : item ∈ group.2) :
    item ∈ selected := by
  obtain ⟨path, -, rfl⟩ := List.mem_map.mp isGroup
  exact List.mem_of_mem_filter ((mem_sortedByKey _ _ _).mp isItem)

theorem editsByPath_ne_nil {selected : List RegionEdit} (some : selected ≠ []) :
    editsByPath selected ≠ [] := by
  obtain ⟨item, rest, rfl⟩ := List.exists_cons_of_ne_nil some
  intro none
  have listed : item.1.path ∈ sortedByKey id (((item :: rest).map (·.1.path)).dedup) :=
    (mem_sortedByKey _ _ _).mpr (List.mem_dedup.mpr (by simp))
  rw [List.map_eq_nil_iff.mp none] at listed
  cases listed

theorem selectRegion_raises (regions : List EditableRegion) (edit : RawStructuredEdit)
    (failure : Exception) (raised : selectRegion regions edit = .error failure) :
    IsHandled failure := by
  unfold selectRegion at raised
  split at raised
  next =>
    cases raised
    exact isHandled_unsafePatchError _
  next => cases raised

theorem edit_of_selectRegion {regions : List EditableRegion} {edit : RawStructuredEdit}
    {item : RegionEdit} (selected : selectRegion regions edit = .ok item) : item.2 = edit := by
  unfold selectRegion at selected
  split at selected
  next => cases selected
  next region _ =>
    cases selected
    rfl

theorem settles_previewPatch {rendered : Rendered} (some : rendered.previews ≠ []) :
    Settles IsHandled (fun _ => True) (previewPatch rendered) ↔
      rendered.diff.isUnicode = true := by
  simp only [previewPatch, encodedLength, settles_bind, settles_raiseIf, settles_pure, checkText,
    some, isHandled_unsafePatchError, not_isHandled_unicodeEncodeError,
    not_isHandled_validationError, imp_true_iff, true_and, imp_false, Bool.not_eq_false, not_lt,
    and_true]
  constructor
  · intro holds
    by_cases empty : rendered.diff = []
    · rw [empty]
      rfl
    · exact (holds empty).1
  · intro unicode changed
    refine ⟨unicode, fun _ _ => ⟨?_, fun _ => id⟩⟩
    simp [unicode, changed]

/-- The patch of edits that were read is rendered or refused exactly when no file reaches an
exception that nothing catches and the difference can be encoded. -/
theorem settles_validateAndRenderPatch (regions : List EditableRegion)
    {edits : List RawStructuredEdit}
    (unicode : ∀ edit ∈ edits, edit.replacementContent.isUnicode = true) :
    Settles IsHandled (fun _ => True)
        (validateAndRenderPatch workspace tools regions edits) ↔
      ((regions.map (·.regionReference)).Nodup → edits ≠ [] →
        edits.length ≤ bounds.maxStructuredItems →
        ∀ selected, collect (selectRegion regions) edits = .ok selected →
          FilesHold workspace tools (·.diff.isUnicode = true) ⟨[], [], 0⟩
            (editsByPath selected)) := by
  simp only [validateAndRenderPatch, settles_bind, settles_raiseIf,
    settles_of_raises (collect_raises (selectRegion_raises regions) edits),
    isHandled_unsafePatchError, imp_true_iff, true_and, not_or, not_not, not_lt, and_imp]
  refine forall_congr' fun _ => forall_congr' fun edited => forall_congr' fun _ => ?_
  refine forall_congr' fun selected => forall_congr' fun isSelected => ?_
  have kept : selected.map Prod.snd = edits :=
    map_of_collect (fun _ _ => edit_of_selectRegion) isSelected
  have some : selected ≠ [] := by
    rintro rfl
    exact edited kept.symm
  rw [settles_renderFiles]
  · exact filesHold_congr (fun rendered some => settles_previewPatch some) editsByPath_edited _
      (.inl (editsByPath_ne_nil some))
  · intro group isGroup item isItem
    have isEdit : item.2 ∈ edits :=
      kept ▸ List.mem_map_of_mem (mem_of_mem_editsByPath isGroup isItem)
    exact unicode _ isEdit

end Validation

end Remediation

end StateGuard
