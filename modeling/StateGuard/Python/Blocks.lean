import StateGuard.Python.LogicalLines

/-!
# Blocks

The second part of the lexical analysis: logical lines are put into blocks by their indentation.  A
line that ends with a colon opens a block, and a line that is indented less closes what is open.

A row is a logical line with the headers of the blocks around it.  A statement is read off its rows:
decorators, the line that it begins with, what is in its blocks, and the clauses that go on with it
(`statements`).  A `case` counts as a statement of the block that it is in.

Rows say whether they were read of an edited piece of the text.
-/

namespace Python

namespace Layout

/-- A block that is open: its indentation, and the line that opened it. -/
structure OpenBlock where
  indent : Nat
  header : Str
  deriving DecidableEq

/-- The blocks that are open, innermost first, and the line that opens another one. -/
structure Reading where
  blocks : List OpenBlock
  opening : Option Str
  deriving DecidableEq

/-- A logical line in its place. -/
structure Row where
  edited : Bool
  scopes : List Str
  text : Str
  deriving DecidableEq

/-- The indentation of the innermost block. -/
def top (blocks : List OpenBlock) : Nat := (blocks.head?.map (·.indent)).getD 0

/-- A line that opens a block. -/
def opensBlock (text : Str) : Bool := (text.reverse.dropWhile isBlank).head? = some 58

def isDecorator (text : Str) : Bool := (text.dropWhile isBlank).head? = some 64

/-- The words that go on with a statement. -/
def clauseWords : List Str := ["else", "elif", "except", "finally"].map Str.ofString

def isWordChar (c : CodePoint) : Bool :=
  48 ≤ c.val && c.val ≤ 57 || 65 ≤ c.val && c.val ≤ 90 || 97 ≤ c.val && c.val ≤ 122 ||
    c.val = 95 || 128 ≤ c.val

def isClause (text : Str) : Bool :=
  clauseWords.contains ((text.dropWhile isBlank).takeWhile isWordChar)

namespace Reading

variable (reading : Reading)

/-- The blocks around a line with an indentation. -/
def enter (indent : Nat) : Option (List OpenBlock) :=
  match reading.opening with
  | some header =>
    if top reading.blocks < indent then some (⟨indent, header⟩ :: reading.blocks) else none
  | none =>
    let blocks := reading.blocks.dropWhile (indent < ·.indent)
    if top blocks = indent then some blocks else none

end Reading

/-- After a line in some blocks. -/
def readingAfter (blocks : List OpenBlock) (text : Str) : Reading :=
  ⟨blocks, if opensBlock text then some text else none⟩

/-- The rows of logical lines, and what is open after them. -/
def walk : Reading → List (Bool × LogicalLine) → Option (Reading × List Row)
  | reading, [] => some (reading, [])
  | reading, (edited, line) :: rest =>
    (reading.enter line.indent).bind fun blocks =>
      (walk (readingAfter blocks line.text) rest).map fun (last, rows) =>
        (last, ⟨edited, blocks.map (·.header), line.text⟩ :: rows)

/-- The rows of a module. -/
def rowsOfLines (lines : List (Bool × LogicalLine)) : Option (List Row) :=
  (walk ⟨[], none⟩ lines).bind fun (last, rows) => if last.opening = none then some rows else none

/-! ## Statements -/

/-- How deep a row goes on with what is before it. -/
def reach (prior row : Row) : Nat :=
  row.scopes.length + if isClause row.text || isDecorator prior.text then 1 else 0

/-- The rows that go on with a statement at a depth. -/
def continued (depth : Nat) : Row → List Row → List Row
  | _, [] => []
  | prior, row :: rest => if depth < reach prior row then row :: continued depth row rest else []

/-- The statements among rows, after `prior`. -/
def statements : Option Row → List Row → List (List Row)
  | _, [] => []
  | prior, row :: rest =>
    if isClause row.text || prior.any (isDecorator ·.text) then statements (some row) rest
    else (row :: continued row.scopes.length row rest) :: statements (some row) rest

/-- None of the rows is of an edited piece. -/
def untouched (rows : List Row) : Bool := rows.all (!·.edited)

/-! ## Pieces of a text -/

/-- The logical lines of the pieces of a text. -/
def linesOfPieces : Scan → List (Bool × Str) → Scan × List (Bool × LogicalLine)
  | scan, [] => (scan, [])
  | scan, (edited, text) :: rest =>
    let (next, lines) := scan.run text
    let (last, more) := linesOfPieces next rest
    (last, lines.map (edited, ·) ++ more)

/-- The rows of a module that is given in pieces. -/
def rowsOfPieces (pieces : List (Bool × Str)) : Option (List Row) :=
  let (last, lines) := linesOfPieces .atMargin pieces
  if last = .atMargin then rowsOfLines lines else none

/-- A text that is cut into logical lines and blocks. -/
def IsReadable (text : Str) : Prop := (rowsOfPieces [(false, text)]).isSome = true

instance (text : Str) : Decidable (IsReadable text) := inferInstanceAs (Decidable (_ = _))

theorem linesOfPieces_flatten (scan : Scan) (pieces : List (Bool × Str)) :
    scan.run (pieces.map Prod.snd).flatten =
      ((linesOfPieces scan pieces).1, (linesOfPieces scan pieces).2.map Prod.snd) := by
  induction pieces generalizing scan with
  | nil => rfl
  | cons piece rest ih =>
    obtain ⟨edited, text⟩ := piece
    rw [List.map_cons, List.flatten_cons, Scan.run_append, ih]
    simp [linesOfPieces]

theorem walk_congr (reading : Reading) {lines others : List (Bool × LogicalLine)}
    (same : lines.map Prod.snd = others.map Prod.snd) :
    (walk reading lines).map Prod.fst = (walk reading others).map Prod.fst := by
  induction lines generalizing reading others with
  | nil => rw [List.map_eq_nil_iff.mp same.symm]
  | cons line lines ih =>
    cases others with
    | nil => cases same
    | cons other others =>
      obtain ⟨edited, line⟩ := line
      obtain ⟨edited', other⟩ := other
      rw [List.map_cons, List.map_cons] at same
      obtain ⟨sameLine, tails⟩ := List.cons.inj same
      have sameLine : line = other := sameLine
      rw [walk, walk, sameLine]
      cases reading.enter other.indent with
      | none => rfl
      | some blocks =>
        simp only [Option.bind_some, Option.map_map]
        exact ih _ tails

theorem rowsOfLines_eq_some {lines : List (Bool × LogicalLine)} {rows : List Row} :
    rowsOfLines lines = some rows ↔
      ∃ last, walk ⟨[], none⟩ lines = some (last, rows) ∧ last.opening = none := by
  rw [rowsOfLines, Option.bind_eq_some_iff]
  constructor
  · rintro ⟨⟨last, others⟩, walked, closed⟩
    simp only at closed
    split at closed
    next none =>
      cases closed
      exact ⟨last, walked, none⟩
    next => cases closed
  · rintro ⟨last, walked, none⟩
    exact ⟨(last, rows), walked, if_pos none⟩

theorem isSome_rowsOfLines_congr {lines others : List (Bool × LogicalLine)}
    (same : lines.map Prod.snd = others.map Prod.snd)
    (read : (rowsOfLines lines).isSome = true) : (rowsOfLines others).isSome = true := by
  obtain ⟨rows, isRows⟩ := Option.isSome_iff_exists.mp read
  obtain ⟨last, walked, closed⟩ := rowsOfLines_eq_some.mp isRows
  have walks := walk_congr ⟨[], none⟩ same
  rw [walked, Option.map_some] at walks
  obtain ⟨⟨other, otherRows⟩, otherWalked, sameLast⟩ := Option.map_eq_some_iff.mp walks.symm
  have sameLast : other = last := sameLast
  exact Option.isSome_iff_exists.mpr
    ⟨otherRows, rowsOfLines_eq_some.mpr ⟨other, otherWalked, by rw [sameLast]; exact closed⟩⟩

/-- Whether a text can be read does not depend on how it is cut. -/
theorem isSome_rowsOfPieces {pieces others : List (Bool × Str)}
    (same : (pieces.map Prod.snd).flatten = (others.map Prod.snd).flatten)
    (read : (rowsOfPieces pieces).isSome = true) : (rowsOfPieces others).isSome = true := by
  have runs := linesOfPieces_flatten .atMargin pieces
  rw [same, linesOfPieces_flatten] at runs
  obtain ⟨last, lines⟩ := Prod.mk.inj runs
  rw [rowsOfPieces] at read ⊢
  simp only at read ⊢
  split at read
  next atMargin =>
    rw [if_pos (last.trans atMargin)]
    exact isSome_rowsOfLines_congr lines.symm read
  next => cases read

end Layout

end Python
