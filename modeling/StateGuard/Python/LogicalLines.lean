import StateGuard.Python.Str

/-!
# Logical lines

The first part of the lexical analysis of a module: how its text is cut into logical lines.
Strings, brackets and backslashes join physical lines, and blank lines and comments are no logical
lines.

The scanner takes one character after another.  It has nothing to remember at the margin, so a text
that leads it from the margin to the margin is read alike wherever it stands (`Scan.run_append`).
-/

namespace Python

namespace Layout

/-- A logical line: the column of its first token, and its text without comments. -/
structure LogicalLine where
  indent : Nat
  text : Str
  deriving DecidableEq

/-- What the scanner is in. -/
inductive Mode where
  /-- Before the first token of a line. -/
  | margin
  /-- A comment on a line of its own. -/
  | note
  | code
  /-- A comment after code. -/
  | comment
  /-- After a backslash, and after a backslash and a carriage return. -/
  | joined | joinedReturn
  /-- After the first quote of a string, and after two of them. -/
  | opened (quote : CodePoint) | emptied (quote : CodePoint)
  /-- A string on one line, with what a backslash escapes in it. -/
  | short (quote : CodePoint) | shortEscape (quote : CodePoint) | shortReturn (quote : CodePoint)
  /-- A string over several lines, after some of the quotes that close it. -/
  | long (quote : CodePoint) (closing : Nat) | longEscape (quote : CodePoint)
  /-- No module has such a text. -/
  | broken
  deriving DecidableEq

/-- The scanner: the column that its line began at, the brackets that are open, and the text of the
line so far. -/
structure Scan where
  mode : Mode
  indent : Nat
  depth : Nat
  text : Str
  deriving DecidableEq

def isNewline (c : CodePoint) : Bool := c = 10 || c = 13

def isBlank (c : CodePoint) : Bool := c = 32 || c = 9 || c = 12

namespace Scan

/-- The scanner before a line. -/
def atMargin : Scan := ⟨.margin, 0, 0, []⟩

variable (scan : Scan)

/-- The line that ends here, if it has a token. -/
def line : List LogicalLine :=
  if scan.text.all isBlank then [] else [⟨scan.indent, scan.text⟩]

def goTo (mode : Mode) : Scan × List LogicalLine := ({ scan with mode }, [])

def keep (c : CodePoint) (mode : Mode) : Scan × List LogicalLine :=
  ({ scan with mode, text := scan.text ++ [c] }, [])

/-- A character of code. -/
def stepCode (c : CodePoint) : Scan × List LogicalLine :=
  if isNewline c then if scan.depth = 0 then (atMargin, scan.line) else scan.keep 32 .code
  else if c = 35 then scan.goTo .comment
  else if c = 92 then scan.goTo .joined
  else if c = 34 || c = 39 then scan.keep c (.opened c)
  else if c = 40 || c = 91 || c = 123 then { scan with depth := scan.depth + 1 }.keep c .code
  else if c = 41 || c = 93 || c = 125 then
    if scan.depth = 0 then scan.goTo .broken
    else { scan with depth := scan.depth - 1 }.keep c .code
  else scan.keep c .code

/-- A character of a string on one line. -/
def stepShort (quote c : CodePoint) : Scan × List LogicalLine :=
  if c = quote then scan.keep c .code
  else if c = 92 then scan.keep c (.shortEscape quote)
  else if isNewline c then scan.goTo .broken
  else scan.keep c (.short quote)

/-- A character of a string over several lines. -/
def stepLong (quote : CodePoint) (closing : Nat) (c : CodePoint) : Scan × List LogicalLine :=
  if c = quote then scan.keep c (if closing = 2 then .code else .long quote (closing + 1))
  else if c = 92 then scan.keep c (.longEscape quote)
  else scan.keep c (.long quote 0)

/-- A character before the first token of a line.  A tabulator goes on to a multiple of eight. -/
def stepMargin (c : CodePoint) : Scan × List LogicalLine :=
  if c = 32 then ({ scan with indent := scan.indent + 1 }, [])
  else if c = 9 then ({ scan with indent := (scan.indent / 8 + 1) * 8 }, [])
  else if c = 12 then ({ scan with indent := 0 }, [])
  else if isNewline c then (atMargin, [])
  else if c = 35 then scan.goTo .note
  else scan.stepCode c

/-- One character, with the logical line that it ends. -/
def step (c : CodePoint) : Scan × List LogicalLine :=
  match scan.mode with
  | .margin => scan.stepMargin c
  | .note => if isNewline c then (atMargin, []) else (scan, [])
  | .code => scan.stepCode c
  | .comment => if isNewline c then scan.stepCode c else (scan, [])
  | .joined =>
    if c = 10 then scan.keep 32 .code
    else if c = 13 then scan.keep 32 .joinedReturn
    else scan.goTo .broken
  | .joinedReturn => if c = 10 then scan.goTo .code else scan.stepCode c
  | .opened quote => if c = quote then scan.keep c (.emptied quote) else scan.stepShort quote c
  | .emptied quote => if c = quote then scan.keep c (.long quote 0) else scan.stepCode c
  | .short quote => scan.stepShort quote c
  | .shortEscape quote => scan.keep c (if c = 13 then .shortReturn quote else .short quote)
  | .shortReturn quote =>
    if c = 10 then scan.keep c (.short quote) else scan.stepShort quote c
  | .long quote closing => scan.stepLong quote closing c
  | .longEscape quote => scan.keep c (.long quote 0)
  | .broken => (scan, [])

/-- The logical lines that end in a text, and the scanner after it. -/
def run : Scan → Str → Scan × List LogicalLine
  | scan, [] => (scan, [])
  | scan, c :: rest =>
    let (next, lines) := scan.step c
    let (last, more) := run next rest
    (last, lines ++ more)

variable {scan}

theorem run_append (text rest : Str) :
    scan.run (text ++ rest) =
      (((scan.run text).1.run rest).1, (scan.run text).2 ++ ((scan.run text).1.run rest).2) := by
  induction text generalizing scan with
  | nil => rfl
  | cons c text ih => simp only [List.cons_append, run, ih, List.append_assoc]

end Scan

/-- The logical lines of a text that begins at the margin. -/
def logicalLines (text : Str) : List LogicalLine := (Scan.atMargin.run text).2

/-- A text leads the scanner from the margin to the margin. -/
def IsBlock (text : Str) : Prop := (Scan.atMargin.run text).1 = .atMargin

instance (text : Str) : Decidable (IsBlock text) := inferInstanceAs (Decidable (_ = _))

/-- What comes after a block is read as if it stood alone. -/
theorem isBlock_append_iff {text : Str} (block : IsBlock text) {rest : Str} :
    IsBlock (text ++ rest) ↔ IsBlock rest := by
  rw [IsBlock, Scan.run_append, block]
  rfl

end Layout

end Python
