import StateGuard.Remediation.DiffApplication

/-!
# What a diff leads to

A hunk is read line by line (`run_shown_iff`), the hunks of a file one after another
(`run_hunks_iff`), and the files of a diff likewise (`run_files_iff`).  `applyDiff_iff` puts this
together: a diff leads to the candidates of its files exactly when no path of them holds an end of a
line and each line that is written, but the last, is ended.
-/

namespace StateGuard

namespace Remediation

open Python TextLines Terminators

variable {originals : List (Str × Str)}

/-! ## A hunk -/

namespace Patching

/-- A file after some lines of a hunk. -/
def after (file : Patching) (shown : List Shown) : Patching := {
  file with
  rest := file.rest.drop (oldLines shown).length
  position := file.position + (oldLines shown).length
  output := file.output ++ (newLines shown).flatten
  oldLeft := file.oldLeft - (oldLines shown).length
  newLeft := file.newLeft - (newLines shown).length }

theorem after_nil (file : Patching) : file.after [] = file := by
  simp [after, oldLines, newLines]

theorem after_cons (file : Patching) (first : Shown) (shown : List Shown) :
    (file.after [first]).after shown = file.after (first :: shown) := by
  have old := oldLines_append [first] shown
  have new := newLines_append [first] shown
  rw [List.singleton_append] at old new
  simp only [after, old, new, List.length_append, List.flatten_append, List.drop_drop,
    Nat.sub_sub, Nat.add_assoc, List.append_assoc]

/-- A line that a hunk has yet to show is read. -/
theorem showLine_render {file : Patching} {first : Shown} {shown : List Shown} {later : List Str}
    (rest : file.rest = oldLines (first :: shown) ++ later)
    (oldLeft : file.oldLeft = (oldLines (first :: shown)).length)
    (newLeft : file.newLeft = (newLines (first :: shown)).length) :
    file.showLine first.render = some (file.after [first]) := by
  obtain ⟨mark, line⟩ := first
  cases mark <;>
    simp_all [showLine, Shown.render, take, write, Mark.sign, after, oldLines, newLines]

/-- A line that is not the next one of the file is not taken. -/
theorem take_append {file : Patching} {line more : Str} {rest : List Str}
    (isRest : file.rest = line :: rest) (nonempty : more ≠ []) :
    file.take (line ++ more) = none := by
  simp [take, isRest, nonempty]

end Patching

theorem Shown.isLine_render {shown : Shown} (isLine : splitlines.IsLine shown.line) :
    splitlines.IsLine shown.render := by
  obtain ⟨mark, line⟩ := shown
  obtain ⟨c, rest, rfl⟩ := List.exists_cons_of_ne_nil isLine.ne_nil
  refine isLine_cons_iff.mpr ⟨endsBefore_of_not_ends ?_ _, isLine⟩
  cases mark <;> rfl

theorem Shown.ended_render {shown : Shown} (isLine : splitlines.IsLine shown.line) :
    splitlines.Ended shown.render ↔ splitlines.Ended shown.line := by
  obtain ⟨mark, line⟩ := shown
  obtain ⟨c, rest, rfl⟩ := List.exists_cons_of_ne_nil isLine.ne_nil
  rw [Ended, Ended, Shown.render, List.getLast?_cons_of_ne_nil (List.cons_ne_nil _ _)]

theorem leads_render {shown : List Shown} {rest : List Str} (leads : ∀ piece ∈ rest, Leads piece) :
    ∀ piece ∈ shown.map Shown.render ++ rest, Leads piece := by
  refine List.forall_mem_append.mpr ⟨fun piece listed => ?_, leads⟩
  obtain ⟨⟨mark, line⟩, -, rfl⟩ := List.mem_map.mp listed
  refine ⟨mark.sign, line, rfl, ?_⟩
  cases mark <;> rfl

/-- A line of a hunk is read while the hunk has yet to show one. -/
theorem patchLine_patching {done : List (Str × Str)} {file : Patching}
    (open_ : 0 < file.oldLeft + file.newLeft) (line : Str) :
    patchLine originals ⟨done, .patching file⟩ line =
      (file.showLine line).map fun file => ⟨done, .patching file⟩ := by
  rw [patchLine]
  exact if_pos open_

section Shown

variable {done target : List (Str × Str)} {file : Patching} {first : Shown} {shown : List Shown}
  {oldLater newLater : List Str} {rest : List Str}

theorem open_of_shown (oldLeft : file.oldLeft = (oldLines (first :: shown)).length)
    (newLeft : file.newLeft = (newLines (first :: shown)).length) :
    0 < file.oldLeft + file.newLeft := by
  rw [oldLeft, newLeft]
  obtain ⟨mark, line⟩ := first
  cases mark <;> simp [oldLines, newLines]

/-- A line that is not ended, and is shown before others, does not lead to the target: the file has
another line there, or the target ends with this one. -/
theorem run_unended_ne (isLine : splitlines.IsLine first.line)
    (isRest : file.rest = oldLines (first :: shown) ++ oldLater)
    (oldLeft : file.oldLeft = (oldLines (first :: shown)).length)
    (newLeft : file.newLeft = (newLines (first :: shown)).length)
    (expected : target[done.length]? =
      some (file.path, file.output ++ (newLines (first :: shown) ++ newLater).flatten))
    (separated : splitlines.Separated (newLines (first :: shown) ++ newLater))
    (unended : ¬ splitlines.Ended first.line) {others : Str} (nonempty : others ≠ []) :
    run originals ⟨done, .patching file⟩ (first.render ++ others) ≠ some target := by
  intro result
  obtain ⟨more, lines, some_more, isRun⟩ := run_unended (Shown.isLine_render isLine)
    (mt (Shown.ended_render isLine).mp unended) nonempty
  rw [isRun, patchLine_patching (open_of_shown oldLeft newLeft)] at result
  obtain ⟨next, isNext, isResult⟩ := Option.bind_eq_some_iff.mp result
  obtain ⟨written, isShown, rfl⟩ := Option.map_eq_some_iff.mp isNext
  obtain ⟨mark, line⟩ := first
  cases mark with
  | context =>
    obtain ⟨taken, isTaken, -⟩ := Option.bind_eq_some_iff.mp isShown
    have isTaken : file.take (line ++ more) = some taken := isTaken
    rw [Patching.take_append isRest some_more] at isTaken
    cases isTaken
  | removed =>
    have isTaken : file.take (line ++ more) = some written := isShown
    rw [Patching.take_append isRest some_more] at isTaken
    cases isTaken
  | added =>
    have isWritten : file.write (line ++ more) = some written := isShown
    obtain ⟨samePath, output⟩ := Patching.write_output isWritten
    have outputs : Outputs done.length file.path (file.output ++ (line ++ more))
        ⟨done, .patching written⟩ :=
      .inr ⟨rfl, written, rfl, samePath, output.symm ▸ List.prefix_refl _⟩
    obtain ⟨text, isText, within⟩ := outputs.result isResult
    rw [expected] at isText
    -- The line is the last one of the target, which does not go on.
    have isLast : newLines shown ++ newLater = [] := by
      by_contra others
      exact unended ((separated_cons.mp separated).1 others)
    have isTarget : text = file.output ++ line := by
      have same := (Prod.mk.inj (Option.some.inj isText)).2
      rw [← same, show newLines (⟨.added, line⟩ :: shown) ++ newLater =
        line :: (newLines shown ++ newLater) from rfl, isLast]
      simp
    have lengths := within.length_le
    rw [isTarget] at lengths
    have positive := List.length_pos_of_ne_nil some_more
    simp only [List.length_append] at lengths
    omega

end Shown

/-- The lines of a hunk lead to the target when the lines after it do and they are ended. -/
theorem run_shown_iff {done target : List (Str × Str)} {file : Patching} {shown : List Shown}
    {oldLater newLater rest : List Str} (lines : ∀ line ∈ shown, splitlines.IsLine line.line)
    (isRest : file.rest = oldLines shown ++ oldLater)
    (oldLeft : file.oldLeft = (oldLines shown).length)
    (newLeft : file.newLeft = (newLines shown).length)
    (expected : target[done.length]? =
      some (file.path, file.output ++ (newLines shown ++ newLater).flatten))
    (separated : splitlines.Separated (newLines shown ++ newLater))
    (leads : ∀ piece ∈ rest, Leads piece)
    (later : run originals ⟨done, .patching (file.after shown)⟩ rest.flatten = some target ↔
      splitlines.Separated rest) :
    run originals ⟨done, .patching file⟩ (shown.map Shown.render ++ rest).flatten = some target ↔
      splitlines.Separated (shown.map Shown.render ++ rest) := by
  induction shown generalizing file with
  | nil => rwa [Patching.after_nil] at later
  | cons first shown ih =>
    have isLine := lines first List.mem_cons_self
    have old := oldLines_append [first] shown
    have new := newLines_append [first] shown
    rw [List.singleton_append] at old new
    rw [List.map_cons, List.cons_append]
    refine run_cons_iff (Shown.isLine_render isLine) (leads_render leads)
      (by rw [patchLine_patching (open_of_shown oldLeft newLeft),
        Patching.showLine_render isRest oldLeft newLeft, Option.map_some]) ?_ ?_
    · intro unended some_rest
      exact run_unended_ne isLine isRest oldLeft newLeft expected separated
        (mt (Shown.ended_render isLine).mpr unended)
        ((flatten_leads (leads_render leads)).2 some_rest)
    · refine ih (fun line listed => lines line (List.mem_cons_of_mem _ listed)) ?_ ?_ ?_ ?_ ?_ ?_
      · rw [Patching.after, isRest, old, List.append_assoc, List.drop_left]
      · rw [Patching.after, oldLeft, old, List.length_append, Nat.add_sub_cancel_left]
      · rw [Patching.after, newLeft, new, List.length_append, Nat.add_sub_cancel_left]
      · rw [expected, new, Patching.after]
        simp only [List.flatten_append, List.append_assoc]
      · rw [new, List.append_assoc] at separated
        exact separated.of_append
      · rwa [Patching.after_cons]

/-! ## The lines before a hunk -/

theorem plain_of_any {text : Str} (plain : text.any splitlines.ends = false) :
    ∀ c ∈ text, splitlines.ends c = false := by
  simpa using plain

theorem isLine_of_plain {text : Str} (plain : ∀ c ∈ text, splitlines.ends c = false)
    (nonempty : text ≠ []) : splitlines.IsLine (text ++ [10]) := by
  rw [IsLine, linesOf_append_plain plain nonempty]
  rfl

theorem ended_newline (text : Str) : splitlines.Ended (text ++ [10]) :=
  ⟨10, List.getLast?_concat, rfl⟩

theorem plain_digit {c : CodePoint} (digit : isDigit c = true) : splitlines.ends c = false := by
  simp only [isDigit, Bool.and_eq_true, decide_eq_true_eq] at digit
  simp only [splitlines, List.mem_cons, List.not_mem_nil, or_false, decide_eq_false_iff_not]
  omega

theorem plain_toString (n : Nat) :
    ∀ c ∈ Str.ofString (toString n), splitlines.ends c = false :=
  fun _ listed => plain_digit (isDigit_of_mem_toString listed)

theorem plain_formatRangeUnified (start length : Nat) :
    ∀ c ∈ formatRangeUnified start length, splitlines.ends c = false := by
  have comma : ∀ n m : Nat, Str.ofString (toString n ++ "," ++ toString m) =
      Str.ofString (toString n) ++ Str.ofString "," ++ Str.ofString (toString m) := by
    simp [Str.ofString]
  simp only [formatRangeUnified]
  split
  next => exact plain_toString _
  next =>
    rw [comma]
    refine List.forall_mem_append.mpr ⟨List.forall_mem_append.mpr ⟨plain_toString _, ?_⟩,
      plain_toString _⟩
    exact List.forall_mem_singleton.mpr rfl

/-- The line before a hunk is a line. -/
theorem header_eq (i j : Nat) (hunk : Hunk) :
    ∃ text, hunk.header i j = text ++ [10] ∧ (∀ c ∈ text, splitlines.ends c = false) ∧
      text ≠ [] := by
  refine ⟨Str.ofString "@@ -" ++ formatRangeUnified i (oldLines hunk.shown).length ++
    Str.ofString " +" ++ formatRangeUnified j (newLines hunk.shown).length ++
      Str.ofString " @@", ?_, ?_, nofun⟩
  · rw [Hunk.header]
    simp only [List.append_assoc]
    rfl
  · refine List.forall_mem_append.mpr ⟨List.forall_mem_append.mpr ⟨List.forall_mem_append.mpr
      ⟨List.forall_mem_append.mpr ⟨?_, plain_formatRangeUnified _ _⟩, ?_⟩,
        plain_formatRangeUnified _ _⟩, ?_⟩
    all_goals exact plain_of_any (by decide +kernel)

namespace Patching

/-- A file before some hunks: `before` are the lines until the first of them, and the hunks lead to
a text. -/
structure Awaits (file : Patching) (path text : Str) (before : List Str) (hunks : List Hunk) :
    Prop where
  isPath : file.path = path
  isRest : file.rest = before ++ oldOf hunks
  oldLeft : file.oldLeft = 0
  newLeft : file.newLeft = 0
  isText : file.output ++ (before ++ newOf hunks).flatten = text

variable {file : Patching} {path text : Str} {before : List Str}

theorem Awaits.close (awaits : file.Awaits path text before []) : file.close = (path, text) := by
  have isRest : file.rest = before := awaits.isRest.trans (List.append_nil _)
  have isText := awaits.isText
  rw [show newOf [] = [] from rfl, List.append_nil] at isText
  rw [Patching.close, awaits.isPath, isRest, isText]

theorem Awaits.finish (awaits : file.Awaits path text before []) (done : List (Str × Str)) :
    finishPatch ⟨done, .patching file⟩ = some (done ++ [(path, text)]) := by
  rw [← awaits.close]
  exact if_pos ⟨awaits.oldLeft, awaits.newLeft⟩

/-- The file in its next hunk. -/
theorem Awaits.start {hunk : Hunk} {hunks : List Hunk}
    (awaits : file.Awaits path text before (hunk :: hunks)) {old new : Nat × Nat}
    (isStart : linesBefore old = file.position + before.length)
    (oldLength : old.2 = (oldLines hunk.shown).length)
    (newLength : new.2 = (newLines hunk.shown).length) :
    ∃ next, file.start old new = some next ∧ next.path = path ∧
      next.rest = oldLines hunk.shown ++ (hunk.hidden ++ oldOf hunks) ∧
      next.position = file.position + before.length ∧
      next.oldLeft = (oldLines hunk.shown).length ∧
      next.newLeft = (newLines hunk.shown).length ∧
      next.output ++ (newLines hunk.shown ++ (hunk.hidden ++ newOf hunks)).flatten = text := by
  have isRest := awaits.isRest
  have isText := awaits.isText
  have old_cons : oldOf (hunk :: hunks) = oldLines hunk.shown ++ (hunk.hidden ++ oldOf hunks) := by
    simp [oldOf]
  have new_cons : newOf (hunk :: hunks) = newLines hunk.shown ++ (hunk.hidden ++ newOf hunks) := by
    simp [newOf]
  have skipped : linesBefore old - file.position = before.length := by omega
  have within : ¬ (linesBefore old < file.position ∨
      file.rest.length < linesBefore old - file.position) := by
    rw [skipped, isRest, List.length_append]
    omega
  refine ⟨_, if_neg within, awaits.isPath, ?_, isStart, oldLength, newLength, ?_⟩
  · rw [skipped, isRest, List.drop_left, old_cons]
  · rw [skipped, isRest, List.take_left, List.append_assoc, ← List.flatten_append, ← new_cons,
      isText]

end Patching

theorem leads_writeHunks {rest : List Str} (leads : ∀ piece ∈ rest, Leads piece) (i j : Nat)
    (hunks : List Hunk) : ∀ piece ∈ writeHunks i j hunks ++ rest, Leads piece := by
  induction hunks generalizing i j with
  | nil => exact leads
  | cons hunk hunks ih =>
    rw [writeHunks, List.cons_append, List.cons_append, List.append_assoc]
    refine List.forall_mem_cons.mpr ⟨⟨64, _, rfl, rfl⟩, ?_⟩
    exact leads_render (ih _ _)

/-- The hunks of a file lead to the target when the lines after them do and they are ended. -/
theorem run_hunks_iff {done target : List (Str × Str)} {path text : Str} {hunks : List Hunk}
    {rest : List Str} (expected : target[done.length]? = some (path, text))
    (lines : ∀ hunk ∈ hunks, ∀ line ∈ hunk.shown, splitlines.IsLine line.line)
    (separated : splitlines.Separated (newOf hunks)) (leads : ∀ piece ∈ rest, Leads piece)
    (later : ∀ {file : Patching} {before : List Str}, file.Awaits path text before [] →
      (run originals ⟨done, .patching file⟩ rest.flatten = some target ↔
        splitlines.Separated rest))
    {file : Patching} {before : List Str} (awaits : file.Awaits path text before hunks) {i : Nat}
    (position : i = file.position + before.length) (j : Nat) :
    run originals ⟨done, .patching file⟩ (writeHunks i j hunks ++ rest).flatten = some target ↔
      splitlines.Separated (writeHunks i j hunks ++ rest) := by
  induction hunks generalizing file before i j with
  | nil => exact later awaits
  | cons hunk hunks ih =>
    obtain ⟨old, new, isHeader, oldLength, isStart, newLength⟩ := readHeader_header i j hunk
    obtain ⟨header, isLine, plain, nonempty⟩ := header_eq i j hunk
    obtain ⟨next, started, isPath, isRest, isPosition, oldLeft, newLeft, isText⟩ :=
      awaits.start (isStart.trans position) oldLength newLength
    have isNext : patchLine originals ⟨done, .patching file⟩ (hunk.header i j) =
        some ⟨done, .patching next⟩ := by
      rw [patchLine]
      simp only
      rw [if_neg (by rw [awaits.oldLeft, awaits.newLeft]; exact Nat.lt_irrefl 0), isHeader]
      simp only
      rw [started, Option.map_some]
    have new_cons : newOf (hunk :: hunks) =
        newLines hunk.shown ++ (hunk.hidden ++ newOf hunks) := by
      simp [newOf]
    rw [new_cons] at separated
    have closed : (next.after hunk.shown).Awaits path text hunk.hidden hunks := by
      refine ⟨isPath, ?_, ?_, ?_, ?_⟩
      · rw [Patching.after, isRest, List.drop_left]
      · rw [Patching.after, oldLeft, Nat.sub_self]
      · rw [Patching.after, newLeft, Nat.sub_self]
      · rw [Patching.after, List.append_assoc, ← List.flatten_append, isText]
    rw [writeHunks, List.cons_append, List.cons_append, List.append_assoc]
    refine run_cons_iff (isLine ▸ isLine_of_plain plain nonempty)
      (leads_render (leads_writeHunks leads _ _ _)) isNext
      (fun unended => absurd (isLine ▸ ended_newline header) unended) ?_
    refine run_shown_iff (lines hunk List.mem_cons_self) isRest oldLeft newLeft
      (by rw [isPath, isText, expected]) separated (leads_writeHunks leads _ _ _) ?_
    refine ih (fun hunk listed => lines hunk (List.mem_cons_of_mem _ listed))
      separated.of_append.of_append closed ?_ _
    rw [Patching.after, isPosition, position]

/-! ## All files -/

/-- A file and its candidate. -/
structure FileChange where
  path : Str
  text : Str
  candidate : Str
  deriving DecidableEq

namespace FileChange

variable (matcher : SequenceMatcher) (change : FileChange)

def grouped : Hunks :=
  groupedOpcodes 3 (matcher.opcodes (keptLines change.text) (keptLines change.candidate))

/-- What is written of a file. -/
def pieces : List Str :=
  unifiedDiff matcher (keptLines change.text) (keptLines change.candidate)
    (Str.ofString "a/" ++ change.path) (Str.ofString "b/" ++ change.path)

/-- Something is written of a file. -/
def isShown : Bool := !(change.grouped matcher).hunks.isEmpty

/-- What is hidden and shown of a file are its lines. -/
theorem grouped_old : (change.grouped matcher).hidden ++ oldOf (change.grouped matcher).hunks =
    keptLines change.text :=
  (groupedOpcodes_old _ _).trans (matcher.opcodes_old _ _)

theorem grouped_new : (change.grouped matcher).hidden ++ newOf (change.grouped matcher).hunks =
    keptLines change.candidate :=
  (groupedOpcodes_new _ _).trans (matcher.opcodes_new _ _)

variable {matcher change}

theorem pieces_of_not_isShown (hidden : change.isShown matcher = false) :
    change.pieces matcher = [] := by
  rw [pieces, unifiedDiff]
  exact if_pos (by simpa [isShown, grouped] using hidden)

theorem pieces_of_isShown (shown : change.isShown matcher = true) :
    change.pieces matcher =
      (Str.ofString "--- a/" ++ change.path ++ Str.ofString "\n") ::
        (Str.ofString "+++ b/" ++ change.path ++ Str.ofString "\n") ::
          writeHunks (change.grouped matcher).hidden.length
            (change.grouped matcher).hidden.length (change.grouped matcher).hunks := by
  rw [pieces, unifiedDiff]
  refine (if_neg (by simpa [isShown, grouped] using shown)).trans ?_
  rfl

/-- A file of which nothing is written is its candidate. -/
theorem candidate_of_not_isShown (hidden : change.isShown matcher = false) :
    change.candidate = change.text := by
  have none : (change.grouped matcher).hunks = [] := by
    simpa [isShown] using hidden
  have old := grouped_old matcher change
  have new := grouped_new matcher change
  rw [none] at old new
  rw [← flatten_linesOf (t := splitlines) change.candidate,
    ← flatten_linesOf (t := splitlines) change.text]
  exact congrArg List.flatten (new.symm.trans old)

/-- What is shown are lines of the file and of its candidate. -/
theorem isLine_of_shown {hunk : Hunk} (isHunk : hunk ∈ (change.grouped matcher).hunks)
    {line : Shown} (listed : line ∈ hunk.shown) : splitlines.IsLine line.line := by
  obtain ⟨mark, content⟩ := line
  by_cases isAdded : mark = .added
  · have isNew : content ∈ newLines hunk.shown := List.mem_map.mpr
      ⟨_, List.mem_filter.mpr ⟨listed, by rw [isAdded]; rfl⟩, rfl⟩
    have isOf : content ∈ keptLines change.candidate := by
      rw [← change.grouped_new matcher]
      exact List.mem_append_right _ (List.mem_flatMap.mpr
        ⟨hunk, isHunk, List.mem_append_left _ isNew⟩)
    exact isLine_of_mem isOf
  · have isOld : content ∈ oldLines hunk.shown := List.mem_map.mpr
      ⟨_, List.mem_filter.mpr ⟨listed, decide_eq_true isAdded⟩, rfl⟩
    have isOf : content ∈ keptLines change.text := by
      rw [← change.grouped_old matcher]
      exact List.mem_append_right _ (List.mem_flatMap.mpr
        ⟨hunk, isHunk, List.mem_append_left _ isOld⟩)
    exact isLine_of_mem isOf

theorem separated_newOf : splitlines.Separated (newOf (change.grouped matcher).hunks) := by
  have separated := separated_linesOf (t := splitlines) change.candidate
  rw [← keptLines, ← grouped_new matcher change] at separated
  exact separated.of_append

end FileChange

section Files

variable (matcher : SequenceMatcher)

/-- What is written of all files. -/
def diffPieces (changes : List FileChange) : List Str := changes.flatMap (·.pieces matcher)

/-- The files of which something is written, as they are to be. -/
def shownCandidates (changes : List FileChange) : List (Str × Str) :=
  (changes.filter (·.isShown matcher)).map fun change => (change.path, change.candidate)

variable {matcher}

theorem diffPieces_cons (change : FileChange) (changes : List FileChange) :
    diffPieces matcher (change :: changes) =
      change.pieces matcher ++ diffPieces matcher changes :=
  List.flatMap_cons

theorem leads_diffPieces (matcher : SequenceMatcher) (changes : List FileChange) :
    ∀ piece ∈ diffPieces matcher changes, Leads piece := by
  induction changes with
  | nil => exact nofun
  | cons change changes ih =>
    rw [diffPieces_cons]
    cases isShown : change.isShown matcher with
    | false => rwa [FileChange.pieces_of_not_isShown isShown]
    | true =>
      rw [FileChange.pieces_of_isShown isShown]
      refine List.forall_mem_cons.mpr ⟨⟨45, _, rfl, rfl⟩, ?_⟩
      refine List.forall_mem_cons.mpr ⟨⟨43, _, rfl, rfl⟩, ?_⟩
      exact leads_writeHunks ih _ _ _

/-- A state in which a file is done is one in which the next one is opened. -/
theorem patchLine_opens {state : PatchState} {done : List (Str × Str)}
    (finished : finishPatch state = some done) (text : Str) :
    patchLine originals state (Str.ofString "--- a/" ++ text) =
      openFile done (Str.ofString "--- a/" ++ text) := by
  obtain ⟨closed, phase⟩ := state
  cases phase with
  | idle => cases finished; rfl
  | named path => cases finished
  | patching file =>
    simp only [finishPatch] at finished
    split at finished
    next complete =>
      cases finished
      have noHeader : readHeader (Str.ofString "--- a/" ++ text) = none := rfl
      rw [patchLine]
      simp only
      rw [if_neg (by omega), noHeader]
    next => cases finished

theorem openFile_header {path : Str} (plain : path.any splitlines.ends = false)
    (done : List (Str × Str)) :
    openFile done (Str.ofString "--- a/" ++ path ++ Str.ofString "\n") =
      some ⟨done, .named path⟩ := by
  have isPath : (path ++ Str.ofString "\n").dropLast = path := List.dropLast_concat
  have newline : (path ++ Str.ofString "\n").getLast? = some 10 := List.getLast?_concat
  rw [openFile, List.append_assoc, afterLead_append, Option.bind_some]
  simp only
  rw [isPath, if_pos ⟨newline, plain⟩]

theorem patchLine_named (done : List (Str × Str)) (path : Str) :
    patchLine originals ⟨done, .named path⟩
        (Str.ofString "+++ b/" ++ path ++ Str.ofString "\n") =
      (originals.lookup path).map fun text => ⟨done, .patching {
        path
        rest := keptLines text
        position := 0
        output := []
        oldLeft := 0
        newLeft := 0 }⟩ := by
  rw [patchLine]
  exact if_pos rfl

/-- A line with the path of a file is a line. -/
theorem fileHeader (lead : Str) {path : Str} (plainLead : lead.any splitlines.ends = false)
    (nonempty : lead ≠ []) (plainPath : path.any splitlines.ends = false) :
    splitlines.IsLine (lead ++ path ++ Str.ofString "\n") ∧
      splitlines.Ended (lead ++ path ++ Str.ofString "\n") :=
  ⟨isLine_of_plain (List.forall_mem_append.mpr ⟨plain_of_any plainLead, plain_of_any plainPath⟩)
    (by simp [nonempty]), ended_newline _⟩

/-- The files of a diff lead to their candidates when their lines are ended. -/
theorem run_files_iff {changes : List FileChange} {target done : List (Str × Str)}
    {state : PatchState}
    (known : ∀ change ∈ changes, originals.lookup change.path = some change.text)
    (plain : ∀ change ∈ changes, change.isShown matcher = true →
      change.path.any splitlines.ends = false)
    (expected : target = done ++ shownCandidates matcher changes)
    (finished : finishPatch state = some done) :
    run originals state (diffPieces matcher changes).flatten = some target ↔
      splitlines.Separated (diffPieces matcher changes) := by
  induction changes generalizing state done with
  | nil =>
    refine iff_of_true ?_ separated_nil
    rw [expected, show shownCandidates matcher [] = [] from rfl, List.append_nil, ← finished]
    rfl
  | cons change changes ih =>
    have knownRest := fun change listed => known change (List.mem_cons_of_mem _ listed)
    have plainRest := fun change listed => plain change (List.mem_cons_of_mem _ listed)
    rw [diffPieces_cons]
    cases isShown : change.isShown matcher with
    | false =>
      rw [FileChange.pieces_of_not_isShown isShown, List.nil_append]
      refine ih knownRest plainRest ?_ finished
      rw [expected, shownCandidates, List.filter_cons_of_neg (by simp [isShown])]
      rfl
    | true =>
      have candidates : shownCandidates matcher (change :: changes) =
          (change.path, change.candidate) :: shownCandidates matcher changes := by
        rw [shownCandidates, List.filter_cons_of_pos isShown]
        rfl
      have plainPath := plain change List.mem_cons_self isShown
      obtain ⟨isOld, endedOld⟩ := fileHeader (Str.ofString "--- a/") rfl nofun plainPath
      obtain ⟨isNew, endedNew⟩ := fileHeader (Str.ofString "+++ b/") rfl nofun plainPath
      have leads := leads_writeHunks (leads_diffPieces matcher changes)
        (change.grouped matcher).hidden.length (change.grouped matcher).hidden.length
        (change.grouped matcher).hunks
      rw [FileChange.pieces_of_isShown isShown, List.cons_append, List.cons_append]
      refine run_cons_iff isOld (List.forall_mem_cons.mpr ⟨⟨43, _, rfl, rfl⟩, leads⟩)
        (by rw [List.append_assoc, patchLine_opens finished, ← List.append_assoc,
          openFile_header plainPath])
        (fun unended => absurd endedOld unended) ?_
      refine run_cons_iff isNew leads
        (by rw [patchLine_named, known change List.mem_cons_self, Option.map_some])
        (fun unended => absurd endedNew unended) ?_
      have isTarget : target[done.length]? = some (change.path, change.candidate) := by
        rw [expected, candidates, List.getElem?_append_right (Nat.le_refl _), Nat.sub_self]
        rfl
      refine run_hunks_iff isTarget
        (fun hunk isHunk line listed => FileChange.isLine_of_shown isHunk listed)
        FileChange.separated_newOf (leads_diffPieces matcher changes) ?_
        ⟨rfl, (change.grouped_old matcher).symm, rfl, rfl, ?_⟩ (Nat.zero_add _).symm _
      · intro file before awaits
        refine ih knownRest plainRest ?_ (awaits.finish done)
        rw [expected, candidates, List.append_assoc]
        rfl
      · rw [change.grouped_new]
        exact flatten_linesOf _

/-- A diff leads to the candidates of its files exactly when no path holds an end of a line, and
each line that is written, but the last, is ended. -/
theorem applyDiff_iff {changes : List FileChange}
    (known : ∀ change ∈ changes, originals.lookup change.path = some change.text) :
    applyDiff originals (diffPieces matcher changes).flatten =
        some (shownCandidates matcher changes) ↔
      (∀ change ∈ changes, change.isShown matcher = true →
        change.path.any splitlines.ends = false) ∧
      splitlines.Separated (diffPieces matcher changes) := by
  have finished : finishPatch ⟨[], .idle⟩ = some [] := rfl
  constructor
  · intro applied
    have initial : PlainPaths ⟨[], .idle⟩ := ⟨nofun, nofun, nofun⟩
    have plain : ∀ change ∈ changes, change.isShown matcher = true →
        change.path.any splitlines.ends = false := fun change listed isShown =>
      initial.result applied (change.path, change.candidate)
        (List.mem_map_of_mem (List.mem_filter.mpr ⟨listed, isShown⟩))
    exact ⟨plain, (run_files_iff known plain rfl finished).mp applied⟩
  · rintro ⟨plain, separated⟩
    exact (run_files_iff known plain rfl finished).mpr separated

end Files

end Remediation

end StateGuard
