import StateGuard.Python.Str

/-!
# Unified diffs

`difflib.unified_diff` of two lists of lines.  The opcodes that turn the one into the other come
from a matcher; `groupedOpcodes` cuts them into hunks, and `unifiedDiff` writes the hunks down.

Which lines a matcher takes for equal is left open (`SequenceMatcher`): the opcodes lead from the
first list to the second, as `get_opcodes` says of them.
-/

namespace Python

/-- An opcode, with the lines that it is about.  The tags `replace`, `delete` and `insert` are one
change here: they are written down alike. -/
inductive Opcode where
  | equal (lines : List Str)
  | change (old new : List Str)
  deriving DecidableEq

namespace Opcode

def old : Opcode → List Str
  | equal lines => lines
  | change old _ => old

def new : Opcode → List Str
  | equal lines => lines
  | change _ new => new

def isEqual : Opcode → Bool
  | equal _ => true
  | change _ _ => false

end Opcode

/-- Blocks of equal lines and changes, none of them empty, by turns. -/
structure Alternates (codes : List Opcode) : Prop where
  nonempty : ∀ code ∈ codes, code.old ≠ [] ∨ code.new ≠ []
  turns : codes.IsChain fun code next => code.isEqual ≠ next.isEqual

/-- `SequenceMatcher(None, a, b).get_opcodes()`. -/
structure SequenceMatcher where
  opcodes : List Str → List Str → List Opcode
  opcodes_old : ∀ a b, (opcodes a b).flatMap Opcode.old = a
  opcodes_new : ∀ a b, (opcodes a b).flatMap Opcode.new = b
  opcodes_alternate : ∀ a b, Alternates (opcodes a b)

/-! ## Hunks -/

inductive Mark where
  | context | removed | added
  deriving DecidableEq, Repr

/-- The character before a line. -/
def Mark.sign : Mark → CodePoint
  | context => 32
  | removed => 45
  | added => 43

/-- A line that a diff shows. -/
structure Shown where
  mark : Mark
  line : Str
  deriving DecidableEq

def Shown.render (shown : Shown) : Str := shown.mark.sign :: shown.line

/-- The lines of the first list among those that are shown. -/
def oldLines (lines : List Shown) : List Str :=
  (lines.filter (·.mark ≠ .added)).map (·.line)

/-- The lines of the second list among those that are shown. -/
def newLines (lines : List Shown) : List Str :=
  (lines.filter (·.mark ≠ .removed)).map (·.line)

def marked (mark : Mark) (lines : List Str) : List Shown := lines.map fun line => ⟨mark, line⟩

/-- A hunk, with the lines that are not shown after it. -/
structure Hunk where
  shown : List Shown
  hidden : List Str

/-- The hunks of a diff, with the lines that are not shown before them. -/
structure Hunks where
  hidden : List Str
  hunks : List Hunk

/-- The hunks from inside of a hunk on: what it shows yet, what is hidden after it, and the others.
`n` lines of context are shown. -/
def hunksFrom (n : Nat) : List Opcode → List Shown × List Str × List Hunk
  | [] => ([], [], [])
  | .change old new :: rest =>
    let (shown, hidden, hunks) := hunksFrom n rest
    (marked .removed old ++ marked .added new ++ shown, hidden, hunks)
  | .equal lines :: rest =>
    if rest.isEmpty then (marked .context (lines.take n), lines.drop n, [])
    else
      let (shown, hidden, hunks) := hunksFrom n rest
      if n + n < lines.length then
        (marked .context (lines.take n), (lines.drop n).take (lines.length - (n + n)),
          ⟨marked .context (lines.drop (lines.length - n)) ++ shown, hidden⟩ :: hunks)
      else (marked .context lines ++ shown, hidden, hunks)

/-- `get_grouped_opcodes(n)`. -/
def groupedOpcodes (n : Nat) : List Opcode → Hunks
  | [] => ⟨[], []⟩
  | .change old new :: rest =>
    let (shown, hidden, hunks) := hunksFrom n (.change old new :: rest)
    ⟨[], ⟨shown, hidden⟩ :: hunks⟩
  | .equal lines :: rest =>
    if rest.isEmpty then ⟨lines, []⟩
    else
      let (shown, hidden, hunks) := hunksFrom n rest
      ⟨lines.take (lines.length - n),
        ⟨marked .context (lines.drop (lines.length - n)) ++ shown, hidden⟩ :: hunks⟩

/-! ## The text of a diff -/

/-- `_format_range_unified`. -/
def formatRangeUnified (start length : Nat) : Str :=
  let beginning := if length = 0 then start else start + 1
  if length = 1 then Str.ofString (toString beginning)
  else Str.ofString (toString beginning ++ "," ++ toString length)

/-- The line before a hunk, where `i` and `j` lines are before it. -/
def Hunk.header (i j : Nat) (hunk : Hunk) : Str :=
  Str.ofString "@@ -" ++ formatRangeUnified i (oldLines hunk.shown).length ++
    Str.ofString " +" ++ formatRangeUnified j (newLines hunk.shown).length ++
      Str.ofString " @@\n"

def writeHunks : Nat → Nat → List Hunk → List Str
  | _, _, [] => []
  | i, j, hunk :: rest =>
    hunk.header i j :: hunk.shown.map Shown.render ++
      writeHunks (i + (oldLines hunk.shown).length + hunk.hidden.length)
        (j + (newLines hunk.shown).length + hunk.hidden.length) rest

/-- `difflib.unified_diff(a, b, fromfile, tofile)`. -/
def unifiedDiff (matcher : SequenceMatcher) (a b : List Str) (fromfile tofile : Str) : List Str :=
  let grouped := groupedOpcodes 3 (matcher.opcodes a b)
  if grouped.hunks.isEmpty then []
  else
    (Str.ofString "--- " ++ fromfile ++ Str.ofString "\n") ::
      (Str.ofString "+++ " ++ tofile ++ Str.ofString "\n") ::
        writeHunks grouped.hidden.length grouped.hidden.length grouped.hunks

/-! ## The hunks lead from the one list to the other -/

@[simp]
theorem oldLines_append (lines others : List Shown) :
    oldLines (lines ++ others) = oldLines lines ++ oldLines others := by
  simp [oldLines]

@[simp]
theorem newLines_append (lines others : List Shown) :
    newLines (lines ++ others) = newLines lines ++ newLines others := by
  simp [newLines]

@[simp]
theorem oldLines_marked (mark : Mark) (lines : List Str) :
    oldLines (marked mark lines) = if mark = .added then [] else lines := by
  cases mark <;> simp [oldLines, marked, Function.comp_def, List.filter_map]

@[simp]
theorem newLines_marked (mark : Mark) (lines : List Str) :
    newLines (marked mark lines) = if mark = .removed then [] else lines := by
  cases mark <;> simp [newLines, marked, Function.comp_def, List.filter_map]

/-- The first list, from some hunks on. -/
def oldOf (hunks : List Hunk) : List Str :=
  hunks.flatMap fun hunk => oldLines hunk.shown ++ hunk.hidden

/-- The second list, from some hunks on. -/
def newOf (hunks : List Hunk) : List Str :=
  hunks.flatMap fun hunk => newLines hunk.shown ++ hunk.hidden

theorem append_middle {n : Nat} {lines : List Str} (long : n + n < lines.length) :
    lines.take n ++ ((lines.drop n).take (lines.length - (n + n)) ++
      lines.drop (lines.length - n)) = lines := by
  have later : lines.drop (lines.length - n) =
      (lines.drop n).drop (lines.length - (n + n)) := by
    rw [List.drop_drop]
    congr 1
    omega
  rw [later, List.take_append_drop, List.take_append_drop]

theorem hunksFrom_old (n : Nat) (codes : List Opcode) :
    oldLines (hunksFrom n codes).1 ++ ((hunksFrom n codes).2.1 ++ oldOf (hunksFrom n codes).2.2) =
      codes.flatMap Opcode.old := by
  induction codes with
  | nil => rfl
  | cons code rest ih =>
    cases code with
    | change old new =>
      rw [List.flatMap_cons, ← ih]
      simp [hunksFrom, Opcode.old]
    | equal lines =>
      rw [hunksFrom]
      split
      next last =>
        rw [List.isEmpty_iff.mp last]
        simp [oldOf, Opcode.old]
      next =>
        rw [List.flatMap_cons, ← ih]
        simp only
        split
        next long =>
          rw [show Opcode.old (.equal lines) = lines from rfl]
          conv_rhs => rw [← append_middle long]
          simp [oldOf]
        next => simp [Opcode.old]

theorem hunksFrom_new (n : Nat) (codes : List Opcode) :
    newLines (hunksFrom n codes).1 ++ ((hunksFrom n codes).2.1 ++ newOf (hunksFrom n codes).2.2) =
      codes.flatMap Opcode.new := by
  induction codes with
  | nil => rfl
  | cons code rest ih =>
    cases code with
    | change old new =>
      rw [List.flatMap_cons, ← ih]
      simp [hunksFrom, Opcode.new]
    | equal lines =>
      rw [hunksFrom]
      split
      next last =>
        rw [List.isEmpty_iff.mp last]
        simp [newOf, Opcode.new]
      next =>
        rw [List.flatMap_cons, ← ih]
        simp only
        split
        next long =>
          rw [show Opcode.new (.equal lines) = lines from rfl]
          conv_rhs => rw [← append_middle long]
          simp [newOf]
        next => simp [Opcode.new]

/-- What is hidden and what is shown of the first list is the first list. -/
theorem groupedOpcodes_old (n : Nat) (codes : List Opcode) :
    (groupedOpcodes n codes).hidden ++ oldOf (groupedOpcodes n codes).hunks =
      codes.flatMap Opcode.old := by
  cases codes with
  | nil => rfl
  | cons code rest =>
    cases code with
    | change old new =>
      rw [← hunksFrom_old n]
      simp [groupedOpcodes, oldOf]
    | equal lines =>
      rw [groupedOpcodes]
      split
      next last =>
        rw [List.isEmpty_iff.mp last]
        simp [oldOf, Opcode.old]
      next =>
        rw [List.flatMap_cons, ← hunksFrom_old n rest]
        simp [oldOf, Opcode.old, ← List.append_assoc]

/-- What is hidden and what is shown of the second list is the second list. -/
theorem groupedOpcodes_new (n : Nat) (codes : List Opcode) :
    (groupedOpcodes n codes).hidden ++ newOf (groupedOpcodes n codes).hunks =
      codes.flatMap Opcode.new := by
  cases codes with
  | nil => rfl
  | cons code rest =>
    cases code with
    | change old new =>
      rw [← hunksFrom_new n]
      simp [groupedOpcodes, newOf]
    | equal lines =>
      rw [groupedOpcodes]
      split
      next last =>
        rw [List.isEmpty_iff.mp last]
        simp [newOf, Opcode.new]
      next =>
        rw [List.flatMap_cons, ← hunksFrom_new n rest]
        simp [newOf, Opcode.new, ← List.append_assoc]

/-! ## A matcher -/

/-- How many lines two lists begin with alike. -/
def commonHead : List Str → List Str → Nat
  | line :: lines, other :: others => if line = other then commonHead lines others + 1 else 0
  | _, _ => 0

theorem take_commonHead (a b : List Str) : a.take (commonHead a b) = b.take (commonHead a b) := by
  induction a generalizing b with
  | nil => simp [commonHead]
  | cons line lines ih =>
    cases b with
    | nil => rfl
    | cons other others =>
      rw [commonHead]
      split
      next same => rw [List.take_succ_cons, List.take_succ_cons, same, ih]
      next => rfl

/-- The opcodes that take the lines at the start for equal, and no others. -/
def headOpcodes (a b : List Str) : List Opcode :=
  (if a.take (commonHead a b) = [] then [] else [.equal (a.take (commonHead a b))]) ++
    if a.drop (commonHead a b) = [] ∧ b.drop (commonHead a b) = [] then []
    else [.change (a.drop (commonHead a b)) (b.drop (commonHead a b))]

/-- A matcher that finds the lines that two lists begin with alike. -/
def headMatcher : SequenceMatcher where
  opcodes := headOpcodes
  opcodes_old a b := by
    have whole := List.take_append_drop (commonHead a b) a
    rw [headOpcodes, List.flatMap_append]
    conv_rhs => rw [← whole]
    congr 1
    · split
      next none => rw [none]; rfl
      next => exact List.append_nil _
    · split
      next none => rw [none.1]; rfl
      next => exact List.append_nil _
  opcodes_new a b := by
    have whole := List.take_append_drop (commonHead a b) b
    rw [headOpcodes, List.flatMap_append]
    conv_rhs => rw [← whole]
    congr 1
    · rw [← take_commonHead]
      split
      next none => rw [none]; rfl
      next => exact List.append_nil _
    · split
      next none => rw [none.2]; rfl
      next => exact List.append_nil _
  opcodes_alternate a b := by
    rw [headOpcodes]
    constructor
    · intro code listed
      rcases List.mem_append.mp listed with isEqual | isChange
      · split at isEqual
        next => cases isEqual
        next some =>
          rw [List.mem_singleton.mp isEqual]
          exact .inl some
      · split at isChange
        next => cases isChange
        next some =>
          rw [List.mem_singleton.mp isChange]
          exact not_and_or.mp some
    · split <;> split <;> simp [Opcode.isEqual]

end Python
