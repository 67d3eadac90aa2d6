import StateGuard.Library.Lines
import StateGuard.Remediation.PatchValidation

/-!
# Regions of symbols

`buildSymbolRegions` offers the full text of indexed symbols for replacement.  A region is given by
offsets into the decoded file, which are counted along the lines that `str.splitlines` makes
(`regionOffsets`); the line numbers are those of the index (`mem_buildSymbolRegions`).
-/

namespace StateGuard

namespace Remediation

open Python Checks KeyOrder Semantics TextLines

/-- A file of the source index. -/
structure SourceFileRecord where
  fileId : SourceFileId
  path : String
  contentFingerprint : Sha256Digest
  deriving DecidableEq

/-- The lines of `str.splitlines`. -/
def splitlines : Terminators CodePoint where
  ends c := c.val ∈ [0x0A, 0x0B, 0x0C, 0x0D, 0x1C, 0x1D, 0x1E, 0x85, 0x2028, 0x2029]
  returns c := c.val = 0x0D
  feeds c := c.val = 0x0A
  ends_of_returns {c} isReturn := by
    rw [of_decide_eq_true isReturn]
    decide
  ends_of_feeds {c} isFeed := by
    rw [of_decide_eq_true isFeed]
    decide

/-- `text.splitlines(keepends=True)`. -/
def keptLines (text : Str) : List Str := splitlines.linesOf text

/-- The offsets of the lines from one to another. -/
def regionOffsets (text : Str) (startLine endLine : Nat) : Nat × Nat :=
  ((((keptLines text).take (startLine - 1)).map List.length).sum,
    (((keptLines text).take endLine).map List.length).sum)

theorem sum_length_take (count : Nat) (text : Str) :
    (((keptLines text).take count).map List.length).sum =
      (splitlines.firstLines count text).length := by
  rw [← Terminators.flatten_take_linesOf, List.length_flatten]
  rfl

theorem regionOffsets_eq (text : Str) (startLine endLine : Nat) :
    regionOffsets text startLine endLine =
      ((splitlines.firstLines (startLine - 1) text).length,
        (splitlines.firstLines endLine text).length) := by
  rw [regionOffsets, sum_length_take, sum_length_take]

theorem regionOffsets_ordered {startLine endLine : Nat} (ordered : startLine ≤ endLine)
    (text : Str) :
    (regionOffsets text startLine endLine).1 ≤ (regionOffsets text startLine endLine).2 := by
  rw [regionOffsets_eq]
  exact (Terminators.firstLines_initial ((Nat.sub_le _ _).trans ordered) text).length_le

/-- `text[start:end]`. -/
def sliceOf (text : Str) (offsets : Nat × Nat) : Str := (text.take offsets.2).drop offsets.1

/-- A region with its content. -/
structure SymbolRegion extends EditableRegion where
  content : Str

section

variable (workspace : Workspace) (tools : PatchTools)
  (containsLiteralSecret : Str → Nat → Nat → Bool)

/-- The region of one symbol, after `count` regions and `consumed` bytes. -/
def symbolRegion (indexedFiles : List SourceFileRecord) (count consumed : Nat)
    (symbol : SymbolRecord) : Except Exception (SymbolRegion × Nat) :=
  match indexedFiles.find? (·.fileId = symbol.sourceFileId) with
  | none => .error (.unsafePatchError "symbol source file is not indexed")
  | some record => do
    let file ← readPython workspace tools record.path
    raiseIf (file.fingerprint ≠ record.contentFingerprint)
      (.unsafePatchError "indexed source changed before region construction")
    let startLine := symbol.sourceLocation.lineStart
    let endLine := symbol.sourceLocation.lineEnd
    let offsets := regionOffsets file.text startLine endLine
    let content := sliceOf file.text offsets
    if within : 1 ≤ startLine ∧ startLine ≤ endLine ∧ endLine ≤ (keptLines file.text).length then do
      raiseIf (containsLiteralSecret file.text startLine endLine = true)
        (.unsafePatchError "editable source may contain a literal secret")
      let size ← encodedLength content
      raiseIf (bounds.maxExcerptMaterialBytes < consumed + size)
        (.unsafePatchError "editable source exceeds structured-generation bounds")
      let regionFingerprint ← digestText tools content
      pure ({
        regionReference := Str.ofString ("region-" ++ toString (count + 1))
        kind := .fullSymbol
        path := record.path
        startOffset := offsets.1
        endOffset := offsets.2
        fileFingerprint := record.contentFingerprint
        regionFingerprint
        ordered := regionOffsets_ordered within.2.1 file.text
        content }, consumed + size)
    else .error (.unsafePatchError "indexed symbol region is unavailable")

/-- The regions of symbols, until there are as many as a patch may edit. -/
def symbolRegions (indexedFiles : List SourceFileRecord) :
    List SymbolRegion → Nat → List SymbolRecord → Except Exception (List SymbolRegion)
  | regions, _, [] => .ok regions
  | regions, consumed, symbol :: rest => do
    let (region, total) ← symbolRegion workspace tools containsLiteralSecret indexedFiles
      regions.length consumed symbol
    if regions.length + 1 = bounds.maxStructuredItems then pure (regions ++ [region])
    else symbolRegions indexedFiles (regions ++ [region]) total rest

/-- `build_symbol_regions`. -/
def buildSymbolRegions (indexedFiles : List SourceFileRecord) (symbols : List SymbolRecord)
    (symbolIds : List SymbolId) : Except Exception (List SymbolRegion) :=
  symbolRegions workspace tools containsLiteralSecret indexedFiles [] 0
    (sortedByKey (·.symbolId) (symbols.filter (·.symbolId ∈ symbolIds)))

end

/-- The region of a symbol, as it is in the file that was read. -/
structure SymbolRegion.Of (workspace : Workspace) (symbol : SymbolRecord)
    (region : SymbolRegion) : Prop where
  file : ∃ file, workspace.read region.path = some file ∧
    (region.startOffset, region.endOffset) =
      regionOffsets file.text symbol.sourceLocation.lineStart symbol.sourceLocation.lineEnd ∧
    region.content = sliceOf file.text (region.startOffset, region.endOffset)

variable {workspace : Workspace} {tools : PatchTools}
  {containsLiteralSecret : Str → Nat → Nat → Bool} {indexedFiles : List SourceFileRecord}

theorem readPython_read {path : String} {file : SourceFile}
    (read : readPython workspace tools path = .ok file) : workspace.read path = some file := by
  simp only [readPython, bind_eq_ok, exists_unit] at read
  obtain ⟨-, -, symlink, -, -, found⟩ := read
  cases isFile : workspace.read path with
  | none => simp [isFile] at found
  | some other =>
    rw [isFile] at found
    exact congrArg some (Except.ok.inj found)

theorem symbolRegion_of {count consumed total : Nat} {symbol : SymbolRecord}
    {region : SymbolRegion}
    (built : symbolRegion workspace tools containsLiteralSecret indexedFiles count consumed symbol =
      .ok (region, total)) : region.Of workspace symbol := by
  rw [symbolRegion] at built
  split at built
  next => cases built
  next record _ =>
    simp only [bind_eq_ok, exists_unit] at built
    obtain ⟨file, read, -, built⟩ := built
    split at built
    next =>
      simp only [bind_eq_ok, exists_unit, pure_eq_ok, Prod.mk.injEq] at built
      obtain ⟨-, size, -, -, fingerprint, -, rfl, -⟩ := built
      exact ⟨file, readPython_read read, rfl, rfl⟩
    next => cases built

/-- Every region is made of a symbol that was asked for. -/
theorem mem_buildSymbolRegions_made {symbols : List SymbolRecord} {symbolIds : List SymbolId}
    {regions : List SymbolRegion}
    (built : buildSymbolRegions workspace tools containsLiteralSecret indexedFiles symbols
      symbolIds = .ok regions) :
    ∀ region ∈ regions, ∃ symbol ∈ symbols, symbol.symbolId ∈ symbolIds ∧
      ∃ count consumed total, symbolRegion workspace tools containsLiteralSecret indexedFiles count
        consumed symbol = .ok (region, total) := by
  have loop : ∀ (rest : List SymbolRecord) (done : List SymbolRegion) (consumed : Nat),
      symbolRegions workspace tools containsLiteralSecret indexedFiles done consumed rest =
        .ok regions →
      (∀ symbol ∈ rest, symbol ∈ symbols ∧ symbol.symbolId ∈ symbolIds) →
      (∀ region ∈ done, ∃ symbol ∈ symbols, symbol.symbolId ∈ symbolIds ∧
        ∃ count consumed total, symbolRegion workspace tools containsLiteralSecret indexedFiles
          count consumed symbol = .ok (region, total)) →
      ∀ region ∈ regions, ∃ symbol ∈ symbols, symbol.symbolId ∈ symbolIds ∧
        ∃ count consumed total, symbolRegion workspace tools containsLiteralSecret indexedFiles
          count consumed symbol = .ok (region, total) := by
    intro rest
    induction rest with
    | nil =>
      intro done consumed isDone _ each
      cases isDone
      exact each
    | cons symbol rest ih =>
      intro done consumed isDone asked each
      obtain ⟨⟨isSymbol, isAsked⟩, asked⟩ := List.forall_mem_cons.mp asked
      rw [symbolRegions, bind_eq_ok] at isDone
      obtain ⟨⟨region, total⟩, isRegion, isDone⟩ := isDone
      have more := List.forall_mem_append.mpr
        ⟨each, List.forall_mem_singleton.mpr
          ⟨symbol, isSymbol, isAsked, done.length, consumed, total, isRegion⟩⟩
      simp only at isDone
      split at isDone
      next =>
        cases (pure_eq_ok _ _).mp isDone
        exact more
      next => exact ih _ _ isDone asked more
  refine loop _ [] 0 built (fun symbol listed => ?_) (by simp)
  rw [mem_sortedByKey, List.mem_filter] at listed
  exact ⟨listed.1, of_decide_eq_true listed.2⟩

/-- Every region is the region of a symbol that was asked for. -/
theorem mem_buildSymbolRegions {symbols : List SymbolRecord} {symbolIds : List SymbolId}
    {regions : List SymbolRegion}
    (built : buildSymbolRegions workspace tools containsLiteralSecret indexedFiles symbols
      symbolIds = .ok regions) :
    ∀ region ∈ regions, ∃ symbol ∈ symbols, symbol.symbolId ∈ symbolIds ∧
      region.Of workspace symbol := by
  intro region listed
  obtain ⟨symbol, isSymbol, isAsked, _, _, _, isRegion⟩ :=
    mem_buildSymbolRegions_made built region listed
  exact ⟨symbol, isSymbol, isAsked, symbolRegion_of isRegion⟩

/-- A region of a symbol is a part of its file, and not an empty one. -/
theorem symbolRegion_within {count consumed total : Nat} {symbol : SymbolRecord}
    {region : SymbolRegion}
    (built : symbolRegion workspace tools containsLiteralSecret indexedFiles count consumed symbol =
      .ok (region, total)) :
    ∃ file, workspace.read region.path = some file ∧ region.startOffset < region.endOffset ∧
      region.endOffset ≤ file.text.length := by
  rw [symbolRegion] at built
  split at built
  next => cases built
  next record _ =>
    simp only [bind_eq_ok, exists_unit] at built
    obtain ⟨file, read, -, built⟩ := built
    split at built
    next within =>
      simp only [bind_eq_ok, exists_unit, pure_eq_ok, Prod.mk.injEq] at built
      obtain ⟨-, size, -, -, fingerprint, -, rfl, -⟩ := built
      refine ⟨file, readPython_read read, ?_, ?_⟩
      · obtain ⟨first, ordered, last⟩ := within
        have le : symbol.sourceLocation.lineStart - 1 + 1 ≤ symbol.sourceLocation.lineEnd := by
          omega
        have counted : symbol.sourceLocation.lineStart - 1 <
            (splitlines.linesOf file.text).length := by
          rw [← keptLines]
          omega
        have shorter := Terminators.firstLines_length_lt counted
        have longer := (Terminators.firstLines_initial (t := splitlines) le file.text).length_le
        simp only [regionOffsets_eq]
        omega
      · simp only [regionOffsets_eq]
        exact (Terminators.firstLines_initial_text _ _).length_le
    next => cases built

end Remediation

end StateGuard
