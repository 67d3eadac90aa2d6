import StateGuard.Python.Difflib
import StateGuard.Remediation.SymbolRegions

/-!
# Applying a diff

`applyDiff` reads a unified diff line by line and makes the files that it leads to.  It checks what
it reads: the lines that a hunk shows of a file are the lines of the file, and a hunk has as many
lines as its header says.

The lines of a diff are those of `str.splitlines`, as the lines that it was made of.  `run_cons_iff`
reads one line that was written: a line without an end runs into the next one.  What has been
written of a file is never taken back (`Outputs.result`).
-/

namespace StateGuard

namespace Remediation

open Python TextLines Terminators

/-! ## Reading a diff -/

/-- A file while it is patched: the lines that are still to come, what has been written, and how
many lines the hunk has yet to show. -/
structure Patching where
  path : Str
  rest : List Str
  position : Nat
  output : Str
  oldLeft : Nat
  newLeft : Nat

inductive Phase where
  | idle
  | named (path : Str)
  | patching (file : Patching)

/-- The files that are done, and the one that is being read. -/
structure PatchState where
  done : List (Str × Str)
  phase : Phase

/-- What comes after a lead. -/
def afterLead (lead text : Str) : Option Str :=
  if lead.isPrefixOf text then some (text.drop lead.length) else none

def isDigit (c : CodePoint) : Bool := 48 ≤ c.val && c.val ≤ 57

/-- A number, and what comes after it. -/
def readNumber (text : Str) : Option (Nat × Str) :=
  let digits := text.takeWhile isDigit
  if digits.isEmpty then none
  else some (Nat.ofDigitChars 10 (digits.map fun c => Char.ofNat c.val) 0, text.dropWhile isDigit)

/-- The start and the length of a range, and what comes after it. -/
def readRange (text : Str) : Option ((Nat × Nat) × Str) :=
  (readNumber text).bind fun (start, rest) =>
    if rest.head? = some 44 then
      (readNumber rest.tail).map fun (length, rest) => ((start, length), rest)
    else some ((start, 1), rest)

/-- The ranges of the header of a hunk. -/
def readHeader (line : Str) : Option ((Nat × Nat) × (Nat × Nat)) :=
  (afterLead (Str.ofString "@@ -") line).bind fun text =>
    (readRange text).bind fun (old, text) =>
      (afterLead (Str.ofString " +") text).bind fun text =>
        (readRange text).bind fun (new, text) =>
          if text = Str.ofString " @@\n" then some (old, new) else none

/-- The lines before a range. -/
def linesBefore (range : Nat × Nat) : Nat := if range.2 = 0 then range.1 else range.1 - 1

namespace Patching

variable (file : Patching)

/-- Go on to a hunk. -/
def start (old new : Nat × Nat) : Option Patching :=
  let target := linesBefore old
  if target < file.position ∨ file.rest.length < target - file.position then none
  else some {
    file with
    rest := file.rest.drop (target - file.position)
    position := target
    output := file.output ++ (file.rest.take (target - file.position)).flatten
    oldLeft := old.2
    newLeft := new.2 }

/-- The next line of the file, which the hunk has to show. -/
def take (content : Str) : Option Patching :=
  match file.rest with
  | [] => none
  | next :: rest =>
    if next = content ∧ 0 < file.oldLeft then
      some { file with rest, position := file.position + 1, oldLeft := file.oldLeft - 1 }
    else none

/-- A line for the new file. -/
def write (content : Str) : Option Patching :=
  if 0 < file.newLeft then
    some { file with output := file.output ++ content, newLeft := file.newLeft - 1 }
  else none

/-- A line that a hunk shows. -/
def showLine : Str → Option Patching
  | [] => none
  | sign :: content =>
    if sign = Mark.context.sign then (file.take content).bind (·.write content)
    else if sign = Mark.removed.sign then file.take content
    else if sign = Mark.added.sign then file.write content
    else none

/-- The new file, with the lines that are still to come. -/
def close : Str × Str := (file.path, file.output ++ file.rest.flatten)

end Patching

/-- The header of a file. -/
def openFile (done : List (Str × Str)) (line : Str) : Option PatchState :=
  (afterLead (Str.ofString "--- a/") line).bind fun rest =>
    let path := rest.dropLast
    if rest.getLast? = some 10 ∧ path.any splitlines.ends = false then some ⟨done, .named path⟩
    else none

variable (originals : List (Str × Str))

/-- One line of a diff. -/
def patchLine (state : PatchState) (line : Str) : Option PatchState :=
  match state.phase with
  | .idle => openFile state.done line
  | .named path =>
    if line = Str.ofString "+++ b/" ++ path ++ Str.ofString "\n" then
      (originals.lookup path).map fun text => ⟨state.done, .patching {
        path
        rest := keptLines text
        position := 0
        output := []
        oldLeft := 0
        newLeft := 0 }⟩
    else none
  | .patching file =>
    if 0 < file.oldLeft + file.newLeft then
      (file.showLine line).map fun file => ⟨state.done, .patching file⟩
    else
      match readHeader line with
      | some (old, new) => (file.start old new).map fun file => ⟨state.done, .patching file⟩
      | none => openFile (state.done ++ [file.close]) line

/-- What a diff has led to when it ends. -/
def finishPatch (state : PatchState) : Option (List (Str × Str)) :=
  match state.phase with
  | .idle => some state.done
  | .named _ => none
  | .patching file =>
    if file.oldLeft = 0 ∧ file.newLeft = 0 then some (state.done ++ [file.close]) else none

def applyLines (state : PatchState) (lines : List Str) : Option (List (Str × Str)) :=
  (lines.foldlM (patchLine originals) state).bind finishPatch

/-- The files that a diff leads to, with their paths. -/
def applyDiff (diff : Str) : Option (List (Str × Str)) :=
  applyLines originals ⟨[], .idle⟩ (keptLines diff)

variable {originals}

/-! ## What reading keeps -/

/-- Something that a file holds once it is done holds of a state. -/
def Outputs (index : Nat) (path text : Str) (state : PatchState) : Prop :=
  (∃ output, state.done[index]? = some (path, output) ∧ text <+: output) ∨
    (state.done.length = index ∧ ∃ file, state.phase = .patching file ∧ file.path = path ∧
      text <+: file.output)

theorem Patching.take_same {file next : Patching} {content : Str}
    (taken : file.take content = some next) :
    next.path = file.path ∧ next.output = file.output := by
  rw [take] at taken
  split at taken
  next => cases taken
  next =>
    split at taken
    next =>
      cases taken
      exact ⟨rfl, rfl⟩
    next => cases taken

theorem Patching.write_output {file next : Patching} {content : Str}
    (written : file.write content = some next) :
    next.path = file.path ∧ next.output = file.output ++ content := by
  rw [write] at written
  split at written
  next =>
    cases written
    exact ⟨rfl, rfl⟩
  next => cases written

/-- A line that is shown is written, or nothing is. -/
theorem Patching.showLine_output {file next : Patching} {line : Str}
    (isShown : file.showLine line = some next) :
    next.path = file.path ∧ file.output <+: next.output := by
  cases line with
  | nil => cases isShown
  | cons sign content =>
    rw [showLine] at isShown
    split at isShown
    next =>
      obtain ⟨taken, isTaken, isWritten⟩ := Option.bind_eq_some_iff.mp isShown
      obtain ⟨samePath, sameOutput⟩ := take_same isTaken
      obtain ⟨path, output⟩ := write_output isWritten
      exact ⟨path.trans samePath, by rw [output, sameOutput]; exact List.prefix_append _ _⟩
    next =>
      split at isShown
      next =>
        obtain ⟨path, output⟩ := take_same isShown
        exact ⟨path, output.symm ▸ List.prefix_refl _⟩
      next =>
        split at isShown
        next =>
          obtain ⟨path, output⟩ := write_output isShown
          exact ⟨path, by rw [output]; exact List.prefix_append _ _⟩
        next => cases isShown

theorem Patching.start_output {file next : Patching} {old new : Nat × Nat}
    (started : file.start old new = some next) :
    next.path = file.path ∧ file.output <+: next.output := by
  simp only [start] at started
  split at started
  next => cases started
  next =>
    cases started
    exact ⟨rfl, List.prefix_append _ _⟩

theorem openFile_done {done : List (Str × Str)} {line : Str} {state : PatchState}
    (opened : openFile done line = some state) :
    state.done = done ∧ ∃ path, state.phase = .named path ∧ path.any splitlines.ends = false := by
  obtain ⟨rest, -, opened⟩ := Option.bind_eq_some_iff.mp opened
  simp only at opened
  split at opened
  next header =>
    cases opened
    exact ⟨rfl, _, rfl, header.2⟩
  next => cases opened

/-- What one line makes of a state: a file is named, opened, written to or closed. -/
theorem patchLine_cases {state next : PatchState} {line : Str}
    (isNext : patchLine originals state line = some next) :
    (state.phase = .idle ∧ openFile state.done line = some next) ∨
      (∃ path file, state.phase = .named path ∧ next = ⟨state.done, .patching file⟩ ∧
        file.path = path) ∨
      (∃ file written, state.phase = .patching file ∧
        next = ⟨state.done, .patching written⟩ ∧ written.path = file.path ∧
          file.output <+: written.output) ∨
      ∃ file, state.phase = .patching file ∧
        openFile (state.done ++ [file.close]) line = some next := by
  rw [patchLine] at isNext
  split at isNext
  next idle => exact .inl ⟨idle, isNext⟩
  next path named =>
    split at isNext
    next =>
      obtain ⟨text, -, rfl⟩ := Option.map_eq_some_iff.mp isNext
      exact .inr (.inl ⟨path, _, named, rfl, rfl⟩)
    next => cases isNext
  next file patching =>
    split at isNext
    next =>
      obtain ⟨written, isShown, rfl⟩ := Option.map_eq_some_iff.mp isNext
      exact .inr (.inr (.inl ⟨file, written, patching, rfl, Patching.showLine_output isShown⟩))
    next =>
      split at isNext
      next =>
        obtain ⟨written, isStarted, rfl⟩ := Option.map_eq_some_iff.mp isNext
        exact .inr (.inr (.inl ⟨file, written, patching, rfl, Patching.start_output isStarted⟩))
      next => exact .inr (.inr (.inr ⟨file, patching, isNext⟩))

theorem Outputs.step {index : Nat} {path text : Str} {state next : PatchState} {line : Str}
    (outputs : Outputs index path text state)
    (isNext : patchLine originals state line = some next) : Outputs index path text next := by
  have kept : ∀ {done : List (Str × Str)} {entry}, state.done[index]? = some entry →
      (state.done ++ done)[index]? = some entry := by
    intro done entry isEntry
    obtain ⟨within, -⟩ := List.getElem?_eq_some_iff.mp isEntry
    rw [List.getElem?_append_left within]
    exact isEntry
  rcases patchLine_cases isNext with ⟨idle, opened⟩ | ⟨named, file, isNamed, rfl, -⟩ |
    ⟨file, written, patching, rfl, samePath, more⟩ | ⟨file, patching, opened⟩
  · rcases outputs with ⟨output, isDone, within⟩ | ⟨-, file, patching, -⟩
    · exact .inl ⟨output, by rwa [(openFile_done opened).1], within⟩
    · simp [idle] at patching
  · rcases outputs with isDone | ⟨-, file, patching, -⟩
    · exact .inl isDone
    · simp [isNamed] at patching
  · rcases outputs with isDone | ⟨length, file', patching', isPath, within⟩
    · exact .inl isDone
    · rw [patching] at patching'
      cases patching'
      exact .inr ⟨length, written, rfl, samePath.trans isPath, within.trans more⟩
  · rcases outputs with ⟨output, isDone, within⟩ | ⟨length, file', patching', isPath, within⟩
    · exact .inl ⟨output, by rw [(openFile_done opened).1]; exact kept isDone, within⟩
    · rw [patching] at patching'
      cases patching'
      refine .inl ⟨file.output ++ file.rest.flatten, ?_, within.trans (List.prefix_append _ _)⟩
      rw [(openFile_done opened).1, ← length, List.getElem?_concat_length, ← isPath]
      rfl

/-- What has been written of a file is in what a diff leads to. -/
theorem Outputs.result {index : Nat} {path text : Str} {state : PatchState} {lines : List Str}
    {result : List (Str × Str)} (outputs : Outputs index path text state)
    (isResult : applyLines originals state lines = some result) :
    ∃ output, result[index]? = some (path, output) ∧ text <+: output := by
  induction lines generalizing state with
  | nil =>
    have isFinal : finishPatch state = some result := isResult
    rw [finishPatch] at isFinal
    split at isFinal
    next idle =>
      cases isFinal
      rcases outputs with isDone | ⟨-, file, patching, -⟩
      · exact isDone
      · simp [idle] at patching
    next => cases isFinal
    next file patching =>
      split at isFinal
      next =>
        cases isFinal
        rcases outputs with ⟨output, isDone, within⟩ | ⟨length, file', patching', isPath, within⟩
        · obtain ⟨bound, -⟩ := List.getElem?_eq_some_iff.mp isDone
          exact ⟨output, by rw [List.getElem?_append_left bound]; exact isDone, within⟩
        · rw [patching] at patching'
          cases patching'
          refine ⟨file.output ++ file.rest.flatten, ?_, within.trans (List.prefix_append _ _)⟩
          rw [← length, List.getElem?_concat_length, ← isPath]
          rfl
      next => cases isFinal
  | cons line rest ih =>
    rw [applyLines, List.foldlM_cons] at isResult
    obtain ⟨final, isFinal, finished⟩ := Option.bind_eq_some_iff.mp isResult
    obtain ⟨next, isNext, isRest⟩ := Option.bind_eq_some_iff.mp isFinal
    exact ih (outputs.step isNext) (Option.bind_eq_some_iff.mpr ⟨final, isRest, finished⟩)

/-- The paths of a state hold no end of a line. -/
structure PlainPaths (state : PatchState) : Prop where
  done : ∀ entry ∈ state.done, entry.1.any splitlines.ends = false
  named : ∀ path, state.phase = .named path → path.any splitlines.ends = false
  patching : ∀ file, state.phase = .patching file → file.path.any splitlines.ends = false

theorem PlainPaths.closed {state : PatchState} (plain : PlainPaths state) {file : Patching}
    (patching : state.phase = .patching file) :
    ∀ entry ∈ state.done ++ [file.close], entry.1.any splitlines.ends = false :=
  List.forall_mem_append.mpr
    ⟨plain.done, List.forall_mem_singleton.mpr (plain.patching file patching)⟩

theorem PlainPaths.opened {done : List (Str × Str)} {line : Str} {next : PatchState}
    (plain : ∀ entry ∈ done, entry.1.any splitlines.ends = false)
    (opened : openFile done line = some next) : PlainPaths next := by
  obtain ⟨same, path, named, plainPath⟩ := openFile_done opened
  refine ⟨by rwa [same], fun other isOther => ?_, fun file patching => ?_⟩
  · rw [named] at isOther
    cases isOther
    exact plainPath
  · simp [named] at patching

theorem PlainPaths.step {state next : PatchState} {line : Str} (plain : PlainPaths state)
    (isNext : patchLine originals state line = some next) : PlainPaths next := by
  rcases patchLine_cases isNext with ⟨-, opened⟩ | ⟨path, file, named, rfl, isPath⟩ |
    ⟨file, written, patching, rfl, samePath, -⟩ | ⟨file, patching, opened⟩
  · exact .opened plain.done opened
  · refine ⟨plain.done, nofun, fun other isOther => ?_⟩
    cases isOther
    rw [isPath]
    exact plain.named path named
  · refine ⟨plain.done, nofun, fun other isOther => ?_⟩
    cases isOther
    rw [samePath]
    exact plain.patching file patching
  · exact .opened (plain.closed patching) opened

theorem PlainPaths.result {state : PatchState} {lines : List Str} {result : List (Str × Str)}
    (plain : PlainPaths state) (isResult : applyLines originals state lines = some result) :
    ∀ entry ∈ result, entry.1.any splitlines.ends = false := by
  induction lines generalizing state with
  | nil =>
    have isFinal : finishPatch state = some result := isResult
    rw [finishPatch] at isFinal
    split at isFinal
    next =>
      cases isFinal
      exact plain.done
    next => cases isFinal
    next file patching =>
      split at isFinal
      next =>
        cases isFinal
        exact plain.closed patching
      next => cases isFinal
  | cons line rest ih =>
    rw [applyLines, List.foldlM_cons] at isResult
    obtain ⟨final, isFinal, finished⟩ := Option.bind_eq_some_iff.mp isResult
    obtain ⟨next, isNext, isRest⟩ := Option.bind_eq_some_iff.mp isFinal
    exact ih (plain.step isNext) (Option.bind_eq_some_iff.mpr ⟨final, isRest, finished⟩)

/-! ## Line by line -/

/-- What a text leads to from a state. -/
def run (originals : List (Str × Str)) (state : PatchState) (text : Str) :
    Option (List (Str × Str)) :=
  applyLines originals state (keptLines text)

theorem applyLines_cons (state : PatchState) (line : Str) (rest : List Str) :
    applyLines originals state (line :: rest) =
      (patchLine originals state line).bind fun next => applyLines originals next rest := by
  rw [applyLines, List.foldlM_cons]
  cases patchLine originals state line <;> rfl

/-- An ended line is read before what comes next. -/
theorem run_line {line rest : Str} (isLine : splitlines.IsLine line)
    (ended : splitlines.Ended line) (apart : rest.head?.any splitlines.feeds = false)
    (state : PatchState) :
    run originals state (line ++ rest) =
      (patchLine originals state line).bind fun next => run originals next rest := by
  rw [run, keptLines, linesOf_append_of_ended isLine ended apart, applyLines_cons]
  rfl

/-- The last line is read whether it is ended or not. -/
theorem run_last {line : Str} (isLine : splitlines.IsLine line) (state : PatchState) :
    run originals state line =
      (patchLine originals state line).bind fun next => run originals next [] := by
  rw [run, keptLines, isLine, applyLines_cons]
  rfl

/-- A line that is not ended runs into what comes next. -/
theorem run_unended {line rest : Str} (isLine : splitlines.IsLine line)
    (unended : ¬ splitlines.Ended line) (nonempty : rest ≠ []) :
    ∃ first others, first ≠ [] ∧ ∀ state, run originals state (line ++ rest) =
      (patchLine originals state (line ++ first)).bind fun next =>
        applyLines originals next others := by
  have whole := linesOf_append_plain (isLine.plain unended) isLine.ne_nil rest
  obtain ⟨c, tail, rfl⟩ := List.exists_cons_of_ne_nil nonempty
  cases lines : splitlines.linesOf (c :: tail) with
  | nil => exact absurd lines (linesOf_cons_ne_nil c tail)
  | cons first others =>
    refine ⟨first, others, ne_nil_of_mem_linesOf (by rw [lines]; exact List.mem_cons_self), ?_⟩
    intro state
    rw [run, keptLines, whole, lines, prepend, applyLines_cons]

/-- A text whose first character is no line feed. -/
def Leads (text : Str) : Prop := ∃ c rest, text = c :: rest ∧ splitlines.feeds c = false

theorem flatten_leads {pieces : List Str} (leads : ∀ piece ∈ pieces, Leads piece) :
    pieces.flatten.head?.any splitlines.feeds = false ∧ (pieces ≠ [] → pieces.flatten ≠ []) := by
  cases pieces with
  | nil => exact ⟨rfl, fun nonempty => absurd rfl nonempty⟩
  | cons piece pieces =>
    obtain ⟨c, rest, rfl, plain⟩ := leads _ List.mem_cons_self
    exact ⟨plain, nofun⟩

/-- What is written leads to a target when its first line does and is ended, and the others do. -/
theorem run_cons_iff {line : Str} {rest : List Str} {state next : PatchState}
    {target : List (Str × Str)} (isLine : splitlines.IsLine line)
    (leads : ∀ piece ∈ rest, Leads piece) (isNext : patchLine originals state line = some next)
    (runsInto : ¬ splitlines.Ended line → rest ≠ [] →
      run originals state (line ++ rest.flatten) ≠ some target)
    (later : run originals next rest.flatten = some target ↔ splitlines.Separated rest) :
    run originals state (line :: rest).flatten = some target ↔
      splitlines.Separated (line :: rest) := by
  rw [separated_cons, List.flatten_cons, ← later]
  obtain ⟨apart, -⟩ := flatten_leads leads
  by_cases ended : splitlines.Ended line
  · rw [run_line isLine ended apart, isNext, Option.bind_some]
    exact (and_iff_right fun _ => ended).symm
  · cases rest with
    | nil =>
      rw [List.flatten_nil, List.append_nil, run_last isLine, isNext, Option.bind_some]
      exact (and_iff_right nofun).symm
    | cons piece rest =>
      exact iff_of_false (runsInto ended (List.cons_ne_nil _ _)) fun both =>
        ended (both.1 (List.cons_ne_nil _ _))

/-! ## Headers of hunks -/

theorem afterLead_append (lead text : Str) : afterLead lead (lead ++ text) = some text := by
  rw [afterLead, if_pos (List.isPrefixOf_iff_prefix.mpr (List.prefix_append _ _)), List.drop_left]

theorem isDigit_ofChar {c : Char} (digit : c.isDigit = true) :
    isDigit (CodePoint.ofChar c) = true := by
  simp only [Char.isDigit, Bool.and_eq_true, decide_eq_true_eq, ge_iff_le] at digit
  obtain ⟨low, high⟩ := digit
  have lower : 48 ≤ c.toNat := UInt32.le_iff_toNat_le.mp low
  have upper : c.toNat ≤ 57 := UInt32.le_iff_toNat_le.mp high
  exact (Bool.and_eq_true _ _).mpr ⟨decide_eq_true lower, decide_eq_true upper⟩

theorem ofString_toString (n : Nat) :
    Str.ofString (toString n) = (Nat.toDigits 10 n).map CodePoint.ofChar := by
  rw [Str.ofString, Nat.toString_eq_ofList_toDigits, String.toList_ofList]

theorem isDigit_of_mem_toString {n : Nat} {c : CodePoint}
    (listed : c ∈ Str.ofString (toString n)) : isDigit c = true := by
  rw [ofString_toString] at listed
  obtain ⟨d, digit, rfl⟩ := List.mem_map.mp listed
  exact isDigit_ofChar (Nat.isDigit_of_mem_toDigits (by decide) (by decide) digit)

/-- A number is read up to what is no digit. -/
theorem readNumber_append (n : Nat) {rest : Str} (apart : rest.head?.any isDigit = false) :
    readNumber (Str.ofString (toString n) ++ rest) = some (n, rest) := by
  have digits : ∀ c ∈ Str.ofString (toString n), isDigit c = true :=
    fun _ => isDigit_of_mem_toString
  have stops : rest.takeWhile isDigit = [] ∧ rest.dropWhile isDigit = rest := by
    cases rest with
    | nil => exact ⟨rfl, rfl⟩
    | cons c others =>
      have notDigit : isDigit c = false := apart
      exact ⟨List.takeWhile_cons_of_neg (by simp [notDigit]),
        List.dropWhile_cons_of_neg (by simp [notDigit])⟩
  have back : (Str.ofString (toString n)).map (fun c => Char.ofNat c.val) = Nat.toDigits 10 n := by
    rw [Str.map_ofNat_ofString, Nat.toString_eq_ofList_toDigits, String.toList_ofList]
  have nonempty : Str.ofString (toString n) ≠ [] := by
    rw [ofString_toString]
    exact fun empty => Nat.toDigits_ne_nil (List.map_eq_nil_iff.mp empty)
  rw [readNumber, List.takeWhile_append_of_pos digits, List.dropWhile_append_of_pos digits,
    stops.1, stops.2, List.append_nil, back, Nat.ofDigitChars_ten_toDigits, if_neg]
  simpa using nonempty

/-- A range is read as it was written. -/
theorem readRange_append (start length : Nat) (rest : Str)
    (apart : rest.head?.any isDigit = false) (noComma : rest.head? ≠ some 44) :
    ∃ range, readRange (formatRangeUnified start length ++ rest) = some (range, rest) ∧
      range.2 = length ∧ linesBefore range = start := by
  have comma : ∀ n m : Nat, readRange (Str.ofString (toString n ++ "," ++ toString m) ++ rest) =
      some ((n, m), rest) := by
    intro n m
    have whole : Str.ofString (toString n ++ "," ++ toString m) ++ rest =
        Str.ofString (toString n) ++ (44 :: (Str.ofString (toString m) ++ rest)) := by
      simp [Str.ofString]
      rfl
    rw [whole, readRange, readNumber_append n (by rfl), Option.bind_some]
    simp only [List.head?_cons, if_true, List.tail_cons]
    rw [readNumber_append m apart]
    rfl
  simp only [formatRangeUnified]
  split
  next one =>
    refine ⟨(start + 1, 1), ?_, one.symm, rfl⟩
    rw [readRange, if_neg (by omega), readNumber_append _ apart, Option.bind_some]
    simp only [if_neg noComma]
  next many =>
    refine ⟨_, comma _ length, rfl, ?_⟩
    rw [linesBefore]
    split
    next => rfl
    next => exact Nat.add_sub_cancel _ _

/-- The header of a hunk says how many lines it shows, and how many are before it. -/
theorem readHeader_header (i j : Nat) (hunk : Hunk) :
    ∃ old new, readHeader (hunk.header i j) = some (old, new) ∧
      old.2 = (oldLines hunk.shown).length ∧ linesBefore old = i ∧
      new.2 = (newLines hunk.shown).length := by
  have newRest : (Str.ofString " @@\n").head?.any isDigit = false ∧
      (Str.ofString " @@\n").head? ≠ some 44 := by decide
  obtain ⟨new, readNew, newLength, -⟩ :=
    readRange_append j (newLines hunk.shown).length _ newRest.1 newRest.2
  obtain ⟨old, readOld, oldLength, before⟩ :=
    readRange_append i (oldLines hunk.shown).length (Str.ofString " +" ++
      (formatRangeUnified j (newLines hunk.shown).length ++ Str.ofString " @@\n"))
      rfl nofun
  refine ⟨old, new, ?_, oldLength, before, newLength⟩
  rw [readHeader, Hunk.header]
  simp only [List.append_assoc]
  rw [afterLead_append, Option.bind_some, readOld, Option.bind_some]
  simp only
  rw [afterLead_append, Option.bind_some, readNew, Option.bind_some]
  simp

end Remediation

end StateGuard
