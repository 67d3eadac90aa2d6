import Mathlib.Data.List.Chain
import StateGuard.Remediation.DiffRoundTrip

/-!
# Shown lines

Only the last line of a file, or of its candidate, is perhaps not ended.  What a diff shows of it is
read off the last opcode: `separated_pieces_iff` says when the lines that are written of a file, but
the last, are ended, and `allEnded_pieces_iff` when all of them are.  `separated_diffPieces_iff`
puts this together for all files of a diff.
-/

namespace StateGuard

namespace Remediation

open Python TextLines Terminators

/-- All lines are ended. -/
def AllEnded (lines : List Str) : Prop := ∀ line ∈ lines, splitlines.Ended line

/-- The last of some lines, if there is one, is ended. -/
def LastEnded (lines : List Str) : Prop := ∀ line ∈ lines.getLast?, splitlines.Ended line

theorem allEnded_append {lines others : List Str} :
    AllEnded (lines ++ others) ↔ AllEnded lines ∧ AllEnded others :=
  List.forall_mem_append

/-! ## The last opcode -/

/-- The opcode shows no line without an end before another one, when it is the last one. -/
def EndsLast : Opcode → Prop
  | .equal _ => True
  | .change old new => new ≠ [] → LastEnded old

/-- The opcode shows no line without an end, when it is the last one. -/
def EndsAll : Opcode → Prop
  | .equal lines => 3 < lines.length ∨ LastEnded lines
  | .change old new => LastEnded old ∧ LastEnded new

/-- Opcodes of two texts: their lines, but the last, are ended. -/
structure LinesOf (codes : List Opcode) : Prop where
  old : splitlines.Separated (codes.flatMap Opcode.old)
  new : splitlines.Separated (codes.flatMap Opcode.new)
  isLine : ∀ code ∈ codes, ∀ line, line ∈ code.old ∨ line ∈ code.new → splitlines.IsLine line
  alternates : Alternates codes

section Codes

variable {code : Opcode} {codes : List Opcode}

theorem LinesOf.tail (linesOf : LinesOf (code :: codes)) : LinesOf codes where
  old := by
    have old := linesOf.old
    rw [List.flatMap_cons] at old
    exact old.of_append
  new := by
    have new := linesOf.new
    rw [List.flatMap_cons] at new
    exact new.of_append
  isLine code listed := linesOf.isLine code (List.mem_cons_of_mem _ listed)
  alternates :=
    ⟨fun code listed => linesOf.alternates.nonempty code (List.mem_cons_of_mem _ listed),
      linesOf.alternates.turns.tail⟩

/-- What comes after an equal block has lines in one of the lists, and what comes after a change in
both. -/
theorem LinesOf.ended_of_rest (linesOf : LinesOf (code :: codes)) (more : codes ≠ []) :
    AllEnded code.old ∧ AllEnded code.new := by
  obtain ⟨next, others, rfl⟩ := List.exists_cons_of_ne_nil more
  have old := linesOf.old
  have new := linesOf.new
  have turns := (List.isChain_cons_cons.mp linesOf.alternates.turns).1
  have nonempty := linesOf.alternates.nonempty next (by simp)
  rw [List.flatMap_cons] at old new
  have oldEnded : next.old ≠ [] → AllEnded code.old := fun some =>
    ((separated_append_iff (by simp [some])).mp old).1
  have newEnded : next.new ≠ [] → AllEnded code.new := fun some =>
    ((separated_append_iff (by simp [some])).mp new).1
  cases code with
  | equal lines =>
    rcases nonempty with some | some
    · exact ⟨oldEnded some, oldEnded some⟩
    · exact ⟨newEnded some, newEnded some⟩
  | change removed added =>
    cases next with
    | equal lines =>
      have some : lines ≠ [] := nonempty.elim id id
      exact ⟨oldEnded some, newEnded some⟩
    | change => exact absurd rfl turns

end Codes

/-! ## What a hunk writes -/

theorem allEnded_marked {mark : Mark} {lines : List Str}
    (isLine : ∀ line ∈ lines, splitlines.IsLine line) :
    AllEnded ((marked mark lines).map Shown.render) ↔ AllEnded lines := by
  rw [marked, List.map_map, AllEnded, List.forall_mem_map]
  exact forall₂_congr fun line listed => Shown.ended_render (isLine line listed)

theorem separated_marked {mark : Mark} {lines : List Str}
    (isLine : ∀ line ∈ lines, splitlines.IsLine line) :
    splitlines.Separated ((marked mark lines).map Shown.render) ↔ splitlines.Separated lines := by
  rw [marked, List.map_map, Separated, ← List.map_dropLast, List.forall_mem_map]
  exact forall₂_congr fun line listed =>
    Shown.ended_render (isLine line (List.dropLast_subset _ listed))

/-- A change shows the lines that it removes before those that it adds. -/
theorem separated_change {old new : List Str} (oldLines : ∀ line ∈ old, splitlines.IsLine line)
    (newLines : ∀ line ∈ new, splitlines.IsLine line) (oldSeparated : splitlines.Separated old)
    (newSeparated : splitlines.Separated new) :
    splitlines.Separated ((marked .removed old ++ marked .added new).map Shown.render) ↔
      (new ≠ [] → LastEnded old) := by
  rw [List.map_append]
  cases new with
  | nil =>
    rw [show (marked .added []).map Shown.render = [] from rfl, List.append_nil,
      separated_marked oldLines]
    exact iff_of_true oldSeparated fun some => absurd rfl some
  | cons line lines =>
    rw [separated_append_iff (by simp [marked]), separated_marked newLines,
      and_iff_left newSeparated]
    refine (allEnded_marked oldLines).trans ?_
    rw [imp_iff_right (List.cons_ne_nil _ _)]
    exact oldSeparated.all_iff

/-- The first lines of a block are ended when they are not all of it, or its last one is. -/
theorem allEnded_take {n : Nat} {lines : List Str} (separated : splitlines.Separated lines) :
    AllEnded (lines.take n) ↔ n < lines.length ∨ LastEnded lines := by
  by_cases short : n < lines.length
  · refine iff_of_true ?_ (.inl short)
    have whole := List.take_append_drop n lines
    have more : lines.drop n ≠ [] := by simpa using short
    rw [← whole, separated_append_iff more] at separated
    exact separated.1
  · rw [List.take_of_length_le (Nat.le_of_not_lt short), or_iff_right short]
    exact separated.all_iff

/-- What is written from inside of a hunk on. -/
def written (i j : Nat) (hunks : List Shown × List Str × List Hunk) : List Str :=
  hunks.1.map Shown.render ++ writeHunks i j hunks.2.2

theorem ended_header (i j : Nat) (hunk : Hunk) : splitlines.Ended (hunk.header i j) := by
  obtain ⟨header, isLine, -⟩ := header_eq i j hunk
  rw [isLine]
  exact ended_newline header

/-- The ends that the last opcode leaves. -/
def Leaves (codes : List Opcode) (lines : List Str) : Prop :=
  (splitlines.Separated lines ↔ ∀ code ∈ codes.getLast?, EndsLast code) ∧
    (AllEnded lines ↔ ∀ code ∈ codes.getLast?, EndsAll code)

/-- Lines that are ended may be written before. -/
theorem Leaves.front {codes : List Opcode} {front lines : List Str} (leaves : Leaves codes lines)
    (ended : AllEnded front) : Leaves codes (front ++ lines) := by
  rw [Leaves, separated_append_of_ended ended, allEnded_append, and_iff_right ended]
  exact leaves

theorem Leaves.after {code : Opcode} {codes : List Opcode} {front lines : List Str}
    (leaves : Leaves codes lines) (more : codes ≠ []) (ended : AllEnded front) :
    Leaves (code :: codes) (front ++ lines) := by
  have leaves := leaves.front ended
  rwa [Leaves, ← List.getLast?_cons_of_ne_nil more] at leaves

theorem leaves_change {old new : List Str} (linesOf : LinesOf [.change old new]) :
    Leaves [.change old new] ((marked .removed old ++ marked .added new).map Shown.render) := by
  have isOld : ∀ line ∈ old, splitlines.IsLine line :=
    fun line listed => linesOf.isLine _ List.mem_cons_self line (.inl listed)
  have isNew : ∀ line ∈ new, splitlines.IsLine line :=
    fun line listed => linesOf.isLine _ List.mem_cons_self line (.inr listed)
  have oldSeparated := linesOf.old
  have newSeparated := linesOf.new
  rw [List.flatMap_singleton] at oldSeparated newSeparated
  have isLast : ∀ p : Opcode → Prop,
      (∀ code ∈ [Opcode.change old new].getLast?, p code) ↔ p (.change old new) :=
    fun p => ⟨fun holds => holds _ rfl, fun holds code same => by cases same; exact holds⟩
  rw [Leaves, isLast, isLast, separated_change isOld isNew oldSeparated newSeparated,
    List.map_append, allEnded_append, allEnded_marked isOld, allEnded_marked isNew]
  exact ⟨Iff.rfl, and_congr oldSeparated.all_iff newSeparated.all_iff⟩

theorem leaves_equal {lines : List Str} (linesOf : LinesOf [.equal lines]) :
    Leaves [.equal lines] ((marked .context (lines.take 3)).map Shown.render) := by
  have isLine : ∀ line ∈ lines, splitlines.IsLine line :=
    fun line listed => linesOf.isLine _ List.mem_cons_self line (.inl listed)
  have isTaken : ∀ line ∈ lines.take 3, splitlines.IsLine line :=
    fun line listed => isLine line (List.mem_of_mem_take listed)
  have separated := linesOf.old
  rw [List.flatMap_singleton] at separated
  have first : splitlines.Separated (lines.take 3) := by
    have whole : splitlines.Separated (lines.take 3 ++ lines.drop 3) := by
      rwa [List.take_append_drop]
    exact whole.left
  have isLast : ∀ p : Opcode → Prop,
      (∀ code ∈ [Opcode.equal lines].getLast?, p code) ↔ p (.equal lines) :=
    fun p => ⟨fun holds => holds _ rfl, fun holds code same => by cases same; exact holds⟩
  rw [Leaves, isLast, isLast, separated_marked isTaken, allEnded_marked isTaken]
  exact ⟨iff_of_true first trivial, allEnded_take separated⟩

theorem allEnded_context {lines : List Str} (isLine : ∀ line ∈ lines, splitlines.IsLine line)
    (ended : AllEnded lines) {shown : List Str} (within : shown ⊆ lines) :
    AllEnded ((marked .context shown).map Shown.render) :=
  (allEnded_marked fun line listed => isLine line (within listed)).mpr
    fun line listed => ended line (within listed)

/-- A hunk is written from a line before it on. -/
theorem writeHunks_written (front : List Shown) (hunks : List Shown × List Str × List Hunk)
    (i j : Nat) :
    ∃ header i' j', splitlines.Ended header ∧
      writeHunks i j (⟨front ++ hunks.1, hunks.2.1⟩ :: hunks.2.2) =
        (header :: front.map Shown.render) ++ written i' j' hunks := by
  let hunk : Hunk := ⟨front ++ hunks.1, hunks.2.1⟩
  refine ⟨hunk.header i j, i + (oldLines hunk.shown).length + hunk.hidden.length,
    j + (newLines hunk.shown).length + hunk.hidden.length, ended_header i j hunk, ?_⟩
  rw [written, writeHunks, List.map_append, List.cons_append, List.cons_append,
    List.append_assoc]

/-- What is written from inside of a hunk on leaves the ends of its last opcode. -/
theorem leaves_written {codes : List Opcode} (linesOf : LinesOf codes) (i j : Nat) :
    Leaves codes (written i j (hunksFrom 3 codes)) := by
  induction codes generalizing i j with
  | nil => exact ⟨iff_of_true separated_nil nofun, iff_of_true nofun nofun⟩
  | cons code codes ih =>
    have isLine := linesOf.isLine code List.mem_cons_self
    cases code with
    | change old new =>
      have front : written i j (hunksFrom 3 (.change old new :: codes)) =
          (marked .removed old ++ marked .added new).map Shown.render ++
            written i j (hunksFrom 3 codes) := by
        simp [written, hunksFrom]
      rw [front]
      by_cases more : codes = []
      · rw [more] at linesOf ⊢
        rw [show written i j (hunksFrom 3 []) = [] from rfl, List.append_nil]
        exact leaves_change linesOf
      · refine (ih linesOf.tail i j).after more ?_
        obtain ⟨oldEnded, newEnded⟩ := linesOf.ended_of_rest more
        rw [List.map_append]
        exact allEnded_append.mpr
          ⟨(allEnded_marked fun line listed => isLine line (.inl listed)).mpr oldEnded,
            (allEnded_marked fun line listed => isLine line (.inr listed)).mpr newEnded⟩
    | equal lines =>
      by_cases more : codes = []
      · rw [more] at linesOf ⊢
        have only : written i j (hunksFrom 3 [.equal lines]) =
            (marked .context (lines.take 3)).map Shown.render := by
          simp [written, hunksFrom, writeHunks]
        rw [only]
        exact leaves_equal linesOf
      · have ended := (linesOf.ended_of_rest more).1
        have isEqual : ∀ line ∈ lines, splitlines.IsLine line :=
          fun line listed => isLine line (.inl listed)
        have goesOn : codes.isEmpty = false := by simpa using more
        by_cases long : 3 + 3 < lines.length
        · -- The block ends a hunk and starts another one.
          obtain ⟨header, i', j', headerEnded, next⟩ := writeHunks_written
            (marked .context (lines.drop (lines.length - 3))) (hunksFrom 3 codes) i j
          have front : written i j (hunksFrom 3 (.equal lines :: codes)) =
              ((marked .context (lines.take 3)).map Shown.render ++
                header :: (marked .context (lines.drop (lines.length - 3))).map Shown.render) ++
              written i' j' (hunksFrom 3 codes) := by
            rw [List.append_assoc, ← next]
            simp only [written, hunksFrom, goesOn, Bool.false_eq_true, if_false, if_pos long]
          rw [front]
          refine (ih linesOf.tail i' j').after more (allEnded_append.mpr
            ⟨allEnded_context isEqual ended (List.take_subset _ _), ?_⟩)
          exact List.forall_mem_cons.mpr
            ⟨headerEnded, allEnded_context isEqual ended (List.drop_subset _ _)⟩
        · have front : written i j (hunksFrom 3 (.equal lines :: codes)) =
              (marked .context lines).map Shown.render ++ written i j (hunksFrom 3 codes) := by
            simp [written, hunksFrom, goesOn, if_neg long]
          rw [front]
          exact (ih linesOf.tail i j).after more
            (allEnded_context isEqual ended (List.Subset.refl _))

/-! ## What is written of files -/

namespace FileChange

variable (matcher : SequenceMatcher) (change : FileChange)

/-- The opcodes of a file and its candidate. -/
def opcodes : List Opcode :=
  matcher.opcodes (keptLines change.text) (keptLines change.candidate)

/-- The last opcode shows no line without an end before another one. -/
def EndsLast : Prop := ∀ code ∈ (change.opcodes matcher).getLast?, Remediation.EndsLast code

/-- The last opcode shows no line without an end. -/
def EndsAll : Prop := ∀ code ∈ (change.opcodes matcher).getLast?, Remediation.EndsAll code

theorem linesOf_opcodes : LinesOf (change.opcodes matcher) := by
  have old := matcher.opcodes_old (keptLines change.text) (keptLines change.candidate)
  have new := matcher.opcodes_new (keptLines change.text) (keptLines change.candidate)
  refine ⟨old ▸ separated_linesOf _, new ▸ separated_linesOf _, fun code isCode line listed => ?_,
    matcher.opcodes_alternate _ _⟩
  rcases listed with isOld | isNew
  · have isOf : line ∈ keptLines change.text := old ▸ List.mem_flatMap.mpr ⟨code, isCode, isOld⟩
    exact isLine_of_mem isOf
  · have isOf : line ∈ keptLines change.candidate :=
      new ▸ List.mem_flatMap.mpr ⟨code, isCode, isNew⟩
    exact isLine_of_mem isOf

variable {matcher change}

/-- The hunks of a file leave the ends of its last opcode. -/
theorem leaves_writeHunks {codes : List Opcode} (linesOf : LinesOf codes)
    (isShown : (groupedOpcodes 3 codes).hunks ≠ []) (i j : Nat) :
    Leaves codes (writeHunks i j (groupedOpcodes 3 codes).hunks) := by
  cases codes with
  | nil => exact absurd rfl isShown
  | cons code codes =>
    cases code with
    | change old new =>
      obtain ⟨header, i', j', headerEnded, written⟩ := writeHunks_written []
        (hunksFrom 3 (.change old new :: codes)) i j
      rw [List.nil_append] at written
      rw [groupedOpcodes]
      simp only
      rw [written]
      exact (leaves_written linesOf i' j').front (List.forall_mem_singleton.mpr headerEnded)
    | equal lines =>
      by_cases more : codes = []
      · rw [more] at isShown
        exact absurd rfl isShown
      · have isEqual : ∀ line ∈ lines, splitlines.IsLine line :=
          fun line listed => linesOf.isLine _ List.mem_cons_self line (.inl listed)
        obtain ⟨header, i', j', headerEnded, written⟩ := writeHunks_written
          (marked .context (lines.drop (lines.length - 3))) (hunksFrom 3 codes) i j
        rw [groupedOpcodes, if_neg (by simpa using more)]
        simp only
        rw [written]
        refine (leaves_written linesOf.tail i' j').after more ?_
        exact List.forall_mem_cons.mpr ⟨headerEnded,
          allEnded_context isEqual (linesOf.ended_of_rest more).1 (List.drop_subset _ _)⟩

/-- What is written of a file leaves the ends of its last opcode. -/
theorem leaves_pieces (isShown : change.isShown matcher = true) :
    Leaves (change.opcodes matcher) (change.pieces matcher) := by
  have headers : AllEnded [Str.ofString "--- a/" ++ change.path ++ Str.ofString "\n",
      Str.ofString "+++ b/" ++ change.path ++ Str.ofString "\n"] :=
    List.forall_mem_cons.mpr ⟨ended_newline _, List.forall_mem_singleton.mpr (ended_newline _)⟩
  have some : (groupedOpcodes 3 (change.opcodes matcher)).hunks ≠ [] := by
    simpa [FileChange.isShown, grouped, opcodes] using isShown
  rw [pieces_of_isShown isShown]
  exact (leaves_writeHunks (change.linesOf_opcodes matcher) some _ _).front headers

end FileChange

/-- The lines of a diff, but the last, are ended when no file but the last shows a line without an
end, and the last one shows none before another line. -/
theorem separated_diffPieces_iff {matcher : SequenceMatcher} (changes : List FileChange) :
    splitlines.Separated (diffPieces matcher changes) ↔
      (∀ change ∈ (changes.filter (·.isShown matcher)).dropLast, change.EndsAll matcher) ∧
        ∀ change ∈ (changes.filter (·.isShown matcher)).getLast?, change.EndsLast matcher := by
  induction changes with
  | nil => exact iff_of_true separated_nil ⟨nofun, nofun⟩
  | cons change changes ih =>
    rw [diffPieces_cons]
    cases isShown : change.isShown matcher with
    | false =>
      rw [FileChange.pieces_of_not_isShown isShown, List.nil_append,
        List.filter_cons_of_neg (by simp [isShown])]
      exact ih
    | true =>
      obtain ⟨separated, ended⟩ := FileChange.leaves_pieces isShown
      rw [List.filter_cons_of_pos isShown]
      by_cases more : changes.filter (·.isShown matcher) = []
      · have none : diffPieces matcher changes = [] := by
          rw [List.filter_eq_nil_iff] at more
          exact List.flatMap_eq_nil_iff.mpr fun change listed =>
            FileChange.pieces_of_not_isShown (Bool.eq_false_iff.mpr (more change listed))
        rw [more, none, List.append_nil, separated]
        refine ⟨fun last => ⟨nofun, fun other isLast => ?_⟩, fun both => both.2 change rfl⟩
        cases isLast
        exact last
      · have some : diffPieces matcher changes ≠ [] := by
          obtain ⟨other, listed⟩ := List.exists_mem_of_ne_nil _ more
          obtain ⟨listed, otherShown⟩ := List.mem_filter.mp listed
          intro none
          have empty := List.flatMap_eq_nil_iff.mp none other listed
          rw [FileChange.pieces_of_isShown otherShown] at empty
          cases empty
        rw [separated_append_iff some, List.dropLast_cons_of_ne_nil more,
          List.getLast?_cons_of_ne_nil more, List.forall_mem_cons, ih, and_assoc]
        exact and_congr_left fun _ => ended

end Remediation

end StateGuard
