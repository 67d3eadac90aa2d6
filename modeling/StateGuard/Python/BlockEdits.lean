import StateGuard.Python.Blocks

/-!
# Lines that are replaced

`Patched` relates the lines of a module before and after some of them are replaced: the lines of a
symbol are replaced by whole statements with the indentation of the symbol.  Then what is around
them is read as before (`readsAlike_of_patched`).

A line is read from the blocks that are open before it.  What a symbol, or what replaces it, has
opened beyond its own indentation is closed again by the line after it, which is not indented more
(`agrees_of_base`).
-/

namespace Python

namespace Layout

/-- The lines of a symbol: what is in it is indented more than the line that it begins with, and
what comes after it is not. -/
structure SymbolLines (indent : Nat) (lines : List LogicalLine)
    (after : Option LogicalLine) : Prop where
  shape : ∃ first rest, lines = first :: rest ∧ first.indent = indent ∧
    ∀ line ∈ rest, indent < line.indent
  after : ∀ line ∈ after, line.indent ≤ indent

/-- Lines of whole statements at an indentation: the first one begins a statement there, no other is
indented less, and the last one does not decorate what comes next. -/
structure WholeLines (indent : Nat) (lines : List LogicalLine) : Prop where
  shape : ∃ first rest, lines = first :: rest ∧ first.indent = indent ∧
    isClause first.text = false ∧ ∀ line ∈ rest, indent ≤ line.indent
  last : ∀ line ∈ lines.getLast?, isDecorator line.text = false

/-- Lines before and after some of them are replaced. -/
inductive Patched : List (Bool × LogicalLine) → List (Bool × LogicalLine) → Prop where
  | nil : Patched [] []
  | kept {lines others : List (Bool × LogicalLine)} (line : LogicalLine)
      (rest : Patched lines others) : Patched ((false, line) :: lines) ((false, line) :: others)
  | edited {lines others : List (Bool × LogicalLine)} {old new : List LogicalLine} {indent : Nat}
      (symbol : SymbolLines indent old (lines.head?.map Prod.snd))
      (whole : WholeLines indent new) (rest : Patched lines others) :
      Patched (old.map (true, ·) ++ lines) (new.map (true, ·) ++ others)

/-! ## What is open after lines -/

/-- Some blocks are open, and others in them that are indented more than `indent`. -/
def OpenAbove (indent : Nat) (base : List OpenBlock) (blocks : List OpenBlock) : Prop :=
  ∃ inner, blocks = inner ++ base ∧ ∀ block ∈ inner, indent < block.indent

section Open

variable {indent deeper : Nat} {base blocks : List OpenBlock} {reading : Reading}

theorem OpenAbove.top_le (above : OpenAbove indent base blocks) (isTop : top base = indent) :
    indent ≤ top blocks := by
  obtain ⟨inner, rfl, deep⟩ := above
  cases inner with
  | nil => exact isTop.ge
  | cons block inner => exact (deep block List.mem_cons_self).le

/-- What is open above some blocks is closed by a line that is not indented more than they are. -/
theorem OpenAbove.enter_le (above : OpenAbove indent base reading.blocks)
    (isTop : top base = indent) {less : Nat} (le : less ≤ indent)
    (entered : reading.enter less = some blocks) :
    blocks = base.dropWhile (less < ·.indent) := by
  rw [Reading.enter] at entered
  split at entered
  next =>
    split at entered
    next deeper =>
      have between := above.top_le isTop
      omega
    next => cases entered
  next =>
    simp only at entered
    split at entered
    next =>
      cases entered
      obtain ⟨inner, same, deep⟩ := above
      rw [same]
      exact List.dropWhile_append_of_pos fun block listed =>
        decide_eq_true (le.trans_lt (deep block listed))
    next => cases entered

/-- A line that is indented at least as much stays in the blocks. -/
theorem OpenAbove.enter_ge (above : OpenAbove indent base reading.blocks)
    (isTop : top base = indent) (ge : indent ≤ deeper)
    (entered : reading.enter deeper = some blocks) : OpenAbove indent base blocks := by
  rw [Reading.enter] at entered
  split at entered
  next header _ =>
    split at entered
    next more =>
      cases entered
      have between := above.top_le isTop
      obtain ⟨inner, same, deep⟩ := above
      refine ⟨⟨deeper, header⟩ :: inner, by rw [same]; rfl, ?_⟩
      exact List.forall_mem_cons.mpr ⟨between.trans_lt more, deep⟩
    next => cases entered
  next =>
    simp only at entered
    split at entered
    next =>
      cases entered
      obtain ⟨inner, same, deep⟩ := above
      have stays : base.dropWhile (deeper < ·.indent) = base := by
        cases base with
        | nil => rfl
        | cons block base =>
          have isTop : block.indent = indent := isTop
          exact List.dropWhile_cons_of_neg (by simp [isTop, ge])
      rw [same, List.dropWhile_append]
      split
      next => exact ⟨[], stays, nofun⟩
      next =>
        refine ⟨inner.dropWhile (deeper < ·.indent), rfl, fun block listed => ?_⟩
        exact deep block ((List.dropWhile_sublist _).subset listed)
    next => cases entered

theorem OpenAbove.walk {lines : List (Bool × LogicalLine)} {last : Reading} {rows : List Row}
    (above : OpenAbove indent base reading.blocks) (isTop : top base = indent)
    (ge : ∀ line ∈ lines, indent ≤ line.2.indent)
    (walked : walk reading lines = some (last, rows)) : OpenAbove indent base last.blocks := by
  induction lines generalizing reading rows with
  | nil =>
    cases walked
    exact above
  | cons line lines ih =>
    obtain ⟨edited, line⟩ := line
    obtain ⟨here, later⟩ := List.forall_mem_cons.mp ge
    obtain ⟨blocks, entered, mapped⟩ := Option.bind_eq_some_iff.mp walked
    obtain ⟨⟨final, others⟩, walkedRest, same⟩ := Option.map_eq_some_iff.mp mapped
    cases same
    exact ih (above.enter_ge isTop here entered) later walkedRest

end Open

/-! ## Reading on -/

/-- A line with an indentation is put into the same blocks. -/
def Agrees (reading other : Reading) (indent : Nat) : Prop :=
  ∀ {blocks others}, reading.enter indent = some blocks → other.enter indent = some others →
    blocks = others

theorem agrees_self (reading : Reading) (indent : Nat) : Agrees reading reading indent := by
  intro blocks others entered again
  exact Option.some.inj (entered.symm.trans again)

theorem agrees_of_base {indent less : Nat} {base : List OpenBlock} {reading other : Reading}
    (isTop : top base = indent) (above : OpenAbove indent base reading.blocks)
    (otherAbove : OpenAbove indent base other.blocks) (le : less ≤ indent) :
    Agrees reading other less := by
  intro blocks others entered otherEntered
  exact (above.enter_le isTop le entered).trans (otherAbove.enter_le isTop le otherEntered).symm

theorem top_of_enter {reading : Reading} {indent : Nat} {blocks : List OpenBlock}
    (entered : reading.enter indent = some blocks) : top blocks = indent := by
  rw [Reading.enter] at entered
  split at entered
  next =>
    split at entered
    next =>
      cases entered
      rfl
    next => cases entered
  next =>
    simp only at entered
    split at entered
    next isTop =>
      cases entered
      exact isTop
    next => cases entered

theorem walk_cons {reading last : Reading} {edited : Bool} {line : LogicalLine}
    {lines : List (Bool × LogicalLine)} {rows : List Row}
    (walked : walk reading ((edited, line) :: lines) = some (last, rows)) :
    ∃ blocks others, reading.enter line.indent = some blocks ∧
      walk (readingAfter blocks line.text) lines = some (last, others) ∧
      rows = ⟨edited, blocks.map (·.header), line.text⟩ :: others := by
  obtain ⟨blocks, entered, mapped⟩ := Option.bind_eq_some_iff.mp walked
  obtain ⟨⟨final, others⟩, walkedRest, same⟩ := Option.map_eq_some_iff.mp mapped
  cases same
  exact ⟨blocks, others, entered, walkedRest, rfl⟩

theorem walk_append {reading last : Reading} {lines more : List (Bool × LogicalLine)}
    {rows : List Row} (walked : walk reading (lines ++ more) = some (last, rows)) :
    ∃ between first later, walk reading lines = some (between, first) ∧
      walk between more = some (last, later) ∧ rows = first ++ later := by
  induction lines generalizing reading rows with
  | nil => exact ⟨reading, [], rows, rfl, walked, rfl⟩
  | cons line lines ih =>
    obtain ⟨edited, line⟩ := line
    obtain ⟨blocks, others, entered, walkedRest, rfl⟩ := walk_cons walked
    obtain ⟨between, first, later, isFirst, isLater, rfl⟩ := ih walkedRest
    refine ⟨between, _ :: first, later, ?_, isLater, rfl⟩
    rw [walk, entered, Option.bind_some, isFirst, Option.map_some]

/-- The rows of some lines are of them, in their order. -/
theorem map_of_walk {reading last : Reading} {lines : List (Bool × LogicalLine)}
    {rows : List Row} (walked : walk reading lines = some (last, rows)) :
    rows.map (fun row => (row.edited, row.text)) =
      lines.map fun line => (line.1, line.2.text) := by
  induction lines generalizing reading rows with
  | nil =>
    cases walked
    rfl
  | cons line lines ih =>
    obtain ⟨edited, line⟩ := line
    obtain ⟨blocks, others, -, walkedRest, rfl⟩ := walk_cons walked
    rw [List.map_cons, List.map_cons, ih walkedRest]

/-! ## Statements around what is replaced -/

/-- The last of some rows, after another one. -/
def lastRow (prior : Option Row) (rows : List Row) : Option Row := rows.getLast?.or prior

theorem mem_statements_append {prior : Option Row} {rows later : List Row} {statement : List Row}
    (listed : statement ∈ statements (lastRow prior rows) later) :
    statement ∈ statements prior (rows ++ later) := by
  induction rows generalizing prior with
  | nil => exact listed
  | cons row rows ih =>
    have step : statement ∈ statements (some row) (rows ++ later) := ih (by
      cases rows with
      | nil => exact listed
      | cons => exact listed)
    rw [List.cons_append, statements]
    split
    next => exact step
    next => exact List.mem_cons_of_mem _ step

/-- A statement of which no row is edited does not begin in rows that are. -/
theorem mem_statements_of_edited {prior : Option Row} {rows later : List Row}
    {statement : List Row} (edited : ∀ row ∈ rows, row.edited = true)
    (outside : untouched statement = true)
    (listed : statement ∈ statements prior (rows ++ later)) :
    statement ∈ statements (lastRow prior rows) later := by
  induction rows generalizing prior with
  | nil => exact listed
  | cons row rows ih =>
    obtain ⟨here, edited⟩ := List.forall_mem_cons.mp edited
    have step : statement ∈ statements (some row) (rows ++ later) := by
      rw [List.cons_append, statements] at listed
      split at listed
      next => exact listed
      next =>
        rcases List.mem_cons.mp listed with rfl | later
        · simp [untouched, here] at outside
        · exact later
    have found := ih edited step
    cases rows with
    | nil => exact found
    | cons => exact found

/-- What is around the edited rows is read alike. -/
structure ReadsAlike (rows others : List Row) : Prop where
  continued : ∀ depth prior, untouched (continued depth prior rows) = true →
    Layout.continued depth prior others = Layout.continued depth prior rows
  statements : ∀ prior other : Option Row,
    (other.any (isDecorator ·.text) = true → prior.any (isDecorator ·.text) = true) →
    ∀ statement ∈ statements prior rows, untouched statement = true →
      statement ∈ Layout.statements other others

theorem ReadsAlike.cons {rows others : List Row} (alike : ReadsAlike rows others) (row : Row) :
    ReadsAlike (row :: rows) (row :: others) where
  continued depth prior outside := by
    rw [Layout.continued] at outside ⊢
    rw [Layout.continued]
    split
    next more =>
      rw [if_pos more, untouched, List.all_cons, Bool.and_eq_true] at outside
      rw [alike.continued depth row outside.2]
    next => rfl
  statements prior other decorates statement listed outside := by
    have later : statement ∈ Layout.statements (some row) rows →
        statement ∈ Layout.statements (some row) others :=
      fun listed => alike.statements _ _ id statement listed outside
    have step : statement ∈ Layout.statements (some row) others →
        statement ∈ Layout.statements other (row :: others) := by
      intro listed
      rw [Layout.statements]
      split
      next => exact listed
      next => exact List.mem_cons_of_mem _ listed
    rw [Layout.statements] at listed
    split at listed
    next => exact step (later listed)
    next begins =>
      rcases List.mem_cons.mp listed with rfl | listed
      · have begins' : ¬ (isClause row.text || other.any (isDecorator ·.text)) = true := by
          rw [Bool.or_eq_true, not_or] at begins ⊢
          exact ⟨begins.1, mt decorates begins.2⟩
        rw [untouched, List.all_cons, Bool.and_eq_true] at outside
        rw [Layout.statements, if_neg begins', alike.continued _ row outside.2]
        exact List.mem_cons_self
      · exact step (later listed)

theorem edited_of_walk {reading last : Reading} {lines : List LogicalLine} {rows : List Row}
    (walked : walk reading (lines.map (true, ·)) = some (last, rows)) :
    ∀ row ∈ rows, row.edited = true := by
  intro row listed
  have pair : (row.edited, row.text) ∈ rows.map fun row => (row.edited, row.text) :=
    List.mem_map_of_mem listed
  rw [map_of_walk walked, List.map_map] at pair
  obtain ⟨line, -, same⟩ := List.mem_map.mp pair
  exact (Prod.mk.inj same).1.symm

theorem last_of_walk {reading last : Reading} {lines : List LogicalLine} {rows : List Row}
    (walked : walk reading (lines.map (true, ·)) = some (last, rows)) (nonempty : lines ≠ [])
    (prior : Option Row) :
    (lastRow prior rows).map (·.text) = lines.getLast?.map (·.text) := by
  have texts : rows.map (·.text) = lines.map (·.text) := by
    have pairs := congrArg (List.map Prod.snd) (map_of_walk walked)
    simpa [Function.comp_def] using pairs
  have lasts := congrArg List.getLast? texts
  rw [List.getLast?_map, List.getLast?_map] at lasts
  have some_rows : rows ≠ [] := by
    rintro rfl
    exact nonempty (List.map_eq_nil_iff.mp texts.symm)
  rw [← lasts, lastRow, List.getLast?_eq_some_getLast some_rows, Option.some_or]

theorem continued_edited {depth : Nat} {prior row : Row} {rows : List Row}
    (edited : row.edited = true)
    (outside : untouched (continued depth prior (row :: rows)) = true) :
    ¬ depth < reach prior row := by
  intro more
  rw [continued, if_pos more, untouched, List.all_cons, edited] at outside
  cases outside

/-- What is around replaced lines is read alike. -/
theorem readsAlike_of_patched {lines others : List (Bool × LogicalLine)}
    (patched : Patched lines others) {reading other last otherLast : Reading}
    {rows otherRows : List Row} (walked : walk reading lines = some (last, rows))
    (otherWalked : walk other others = some (otherLast, otherRows))
    (agrees : ∀ line ∈ lines.head?, Agrees reading other line.2.indent) :
    ReadsAlike rows otherRows := by
  induction patched generalizing reading other rows otherRows with
  | nil =>
    cases walked
    cases otherWalked
    exact ⟨fun _ _ _ => rfl, fun _ _ _ _ listed => by cases listed⟩
  | kept line rest ih =>
    obtain ⟨blocks, later, entered, walkedRest, rfl⟩ := walk_cons walked
    obtain ⟨otherBlocks, otherLater, otherEntered, otherWalkedRest, rfl⟩ := walk_cons otherWalked
    obtain rfl := agrees (false, line) rfl entered otherEntered
    exact (ih walkedRest otherWalkedRest fun _ _ => agrees_self _ _).cons _
  | @edited lines others old new indent symbol whole rest ih =>
    obtain ⟨between, oldRows, later, isOld, isLater, rfl⟩ := walk_append walked
    obtain ⟨otherBetween, newRows, otherLater, isNew, isOtherLater, rfl⟩ := walk_append otherWalked
    have lastNew := last_of_walk isNew
    have oldEdited := edited_of_walk isOld
    obtain ⟨first, oldRest, rfl, firstIndent, deeper⟩ := symbol.shape
    obtain ⟨newFirst, newRest, rfl, newIndent, notClause, within⟩ := whole.shape
    obtain ⟨blocks, oldOthers, entered, walkedRest, rfl⟩ := walk_cons isOld
    obtain ⟨newBlocks, newOthers, newEntered, newWalkedRest, rfl⟩ := walk_cons isNew
    have sameBlocks : Agrees reading other indent := firstIndent ▸ agrees (true, first) rfl
    rw [firstIndent] at entered
    rw [newIndent] at newEntered
    obtain rfl := sameBlocks entered newEntered
    -- What comes after both is read from the blocks around the symbol.
    have isTop := top_of_enter entered
    have oldAbove : OpenAbove indent blocks between.blocks :=
      OpenAbove.walk ⟨[], rfl, nofun⟩ isTop
        (List.forall_mem_map.mpr fun line listed => (deeper line listed).le) walkedRest
    have newAbove : OpenAbove indent blocks otherBetween.blocks :=
      OpenAbove.walk ⟨[], rfl, nofun⟩ isTop (List.forall_mem_map.mpr within) newWalkedRest
    have alike := ih isLater isOtherLater fun line listed =>
      agrees_of_base isTop oldAbove newAbove
        (symbol.after line.2 (Option.mem_map_of_mem Prod.snd listed))
    constructor
    · intro depth prior outside
      have stops := continued_edited rfl outside
      have shallower : ∀ edited, reach prior ⟨edited, blocks.map (·.header), newFirst.text⟩ ≤
          reach prior ⟨edited, blocks.map (·.header), first.text⟩ := by
        intro edited
        simp only [reach, notClause, Bool.false_or]
        split
        next decorated => simp [decorated]
        next => omega
      have newStops := mt (fun more => lt_of_lt_of_le more (shallower true)) stops
      rw [List.cons_append, List.cons_append, Layout.continued, Layout.continued, if_neg stops,
        if_neg newStops]
    · intro prior otherPrior _ statement listed outside
      refine mem_statements_append (alike.statements _ _ (fun decorated => ?_) statement
        (mem_statements_of_edited oldEdited outside listed) outside)
      -- The last row of what was put in decorates nothing.
      have isLast := lastNew (List.cons_ne_nil _ _) otherPrior
      obtain ⟨row, isRow, decorates⟩ := (Option.any_eq_true _ _).mp decorated
      rw [isRow, Option.map_some] at isLast
      obtain ⟨line, isLine, sameText⟩ := Option.map_eq_some_iff.mp isLast.symm
      rw [← sameText, whole.last line isLine] at decorates
      cases decorates

theorem patched_kept {lines others : List (Bool × LogicalLine)} (patched : Patched lines others)
    (gap : List LogicalLine) :
    Patched (gap.map (false, ·) ++ lines) (gap.map (false, ·) ++ others) := by
  induction gap with
  | nil => exact patched
  | cons line gap ih => exact .kept line ih

/-- The statements around replaced lines are those that were there before. -/
theorem statements_of_patched {lines others : List (Bool × LogicalLine)}
    (patched : Patched lines others) {rows otherRows : List Row}
    (read : rowsOfLines lines = some rows) (otherRead : rowsOfLines others = some otherRows) :
    ∀ statement ∈ statements none rows, untouched statement = true →
      statement ∈ statements none otherRows := by
  obtain ⟨last, walked, -⟩ := rowsOfLines_eq_some.mp read
  obtain ⟨otherLast, otherWalked, -⟩ := rowsOfLines_eq_some.mp otherRead
  exact (readsAlike_of_patched patched walked otherWalked fun _ _ => agrees_self _ _).statements
    none none id

end Layout

end Python
