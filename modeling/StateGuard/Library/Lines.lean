import Mathlib.Data.List.Basic

/-!
# Lines of a text

A text is a list over any type of characters.  `Terminators` says which characters end a line; a
carriage return does not end a line before a line feed.  `linesOf` cuts a text after the ends of its
lines, and `firstLines` is the text of its first lines.

* `firstLines_eq_iff` compares two notions of line: they agree on the first lines of a text when no
  character among them ends a line in one notion only.
* `linesOf_flatMap` encodes a text by blocks that keep the ends of lines.
-/

namespace TextLines

universe u v

variable {α : Type u} {β : Type v}

/-- The characters that end a line. -/
structure Terminators (α : Type u) where
  ends : α → Bool
  /-- The carriage return. -/
  returns : α → Bool
  /-- The line feed. -/
  feeds : α → Bool
  ends_of_returns : ∀ {c}, returns c = true → ends c = true
  ends_of_feeds : ∀ {c}, feeds c = true → ends c = true

namespace Terminators

variable (t : Terminators α)

/-- A line ends with a character, where `rest` comes next. -/
def endsBefore (c : α) (rest : List α) : Bool :=
  t.ends c && !(t.returns c && rest.head?.any t.feeds)

/-- Put characters before the first line. -/
def prepend (block : List α) : List (List α) → List (List α)
  | [] => [block]
  | line :: lines => (block ++ line) :: lines

/-- The lines of a text, with what ends them. -/
def linesOf : List α → List (List α)
  | [] => []
  | c :: rest =>
    if t.endsBefore c rest then [c] :: linesOf rest else prepend [c] (linesOf rest)

/-- The text of the first lines of a text. -/
def firstLines : Nat → List α → List α
  | 0, _ => []
  | _ + 1, [] => []
  | count + 1, c :: rest =>
    if t.endsBefore c rest then c :: firstLines count rest else c :: firstLines (count + 1) rest

variable {t}

@[simp]
theorem firstLines_zero (text : List α) : t.firstLines 0 text = [] := by
  cases text <;> rfl

@[simp]
theorem firstLines_nil (count : Nat) : t.firstLines count [] = [] := by
  cases count <;> rfl

theorem endsBefore_of_not_ends {c : α} (goes : t.ends c = false) (rest : List α) :
    t.endsBefore c rest = false := by
  simp [endsBefore, goes]

theorem linesOf_cons_ne_nil (c : α) (rest : List α) : t.linesOf (c :: rest) ≠ [] := by
  rw [linesOf]
  split
  next => exact List.cons_ne_nil _ _
  next => cases t.linesOf rest <;> exact List.cons_ne_nil _ _

@[simp]
theorem flatten_prepend (block : List α) (lines : List (List α)) :
    (prepend block lines).flatten = block ++ lines.flatten := by
  cases lines <;> simp [prepend]

/-- The lines of a text are the text. -/
@[simp]
theorem flatten_linesOf (text : List α) : (t.linesOf text).flatten = text := by
  induction text with
  | nil => rfl
  | cons c rest ih =>
    rw [linesOf]
    split
    next => rw [List.flatten_cons, ih, List.singleton_append]
    next => rw [flatten_prepend, ih, List.singleton_append]

theorem flatten_take_prepend (c : α) (count : Nat) (lines : List (List α)) :
    ((prepend [c] lines).take (count + 1)).flatten = c :: (lines.take (count + 1)).flatten := by
  cases lines <;> simp [prepend]

/-- The first lines, put together. -/
theorem flatten_take_linesOf (count : Nat) (text : List α) :
    ((t.linesOf text).take count).flatten = t.firstLines count text := by
  induction text generalizing count with
  | nil => simp [linesOf]
  | cons c rest ih =>
    cases count with
    | zero => rfl
    | succ count =>
      rw [linesOf, firstLines]
      split
      next => rw [List.take_succ_cons, List.flatten_cons, ih, List.singleton_append]
      next => rw [flatten_take_prepend, ih]

/-- The lines between two of the first lines. -/
theorem flatten_drop_linesOf {before count : Nat} (le : before ≤ count) (text : List α) :
    (((t.linesOf text).take count).drop before).flatten =
      (t.firstLines count text).drop (t.firstLines before text).length := by
  have whole := congrArg List.flatten (List.take_append_drop before ((t.linesOf text).take count))
  rw [List.flatten_append, List.take_take, Nat.min_eq_left le, flatten_take_linesOf,
    flatten_take_linesOf] at whole
  rw [← whole, List.drop_left]

/-- Fewer lines are a part of more. -/
theorem firstLines_initial {before count : Nat} (le : before ≤ count) (text : List α) :
    t.firstLines before text <+: t.firstLines count text := by
  rw [← flatten_take_linesOf, ← flatten_take_linesOf]
  have whole := List.take_append_drop before ((t.linesOf text).take count)
  rw [List.take_take, Nat.min_eq_left le] at whole
  rw [← whole, List.flatten_append]
  exact List.prefix_append _ _

theorem firstLines_initial_text (count : Nat) (text : List α) :
    t.firstLines count text <+: text := by
  have whole := congrArg List.flatten (List.take_append_drop count (t.linesOf text))
  rw [List.flatten_append, flatten_linesOf, flatten_take_linesOf] at whole
  exact ⟨_, whole⟩

theorem ne_nil_of_mem_linesOf {text line : List α} (listed : line ∈ t.linesOf text) :
    line ≠ [] := by
  induction text generalizing line with
  | nil => cases listed
  | cons c rest ih =>
    rw [linesOf] at listed
    split at listed
    next =>
      rcases List.mem_cons.mp listed with rfl | later
      · exact List.cons_ne_nil _ _
      · exact ih later
    next =>
      cases lines : t.linesOf rest with
      | nil =>
        rw [lines, prepend, List.mem_singleton] at listed
        rw [listed]
        exact List.cons_ne_nil _ _
      | cons first others =>
        rw [lines] at ih listed
        rcases List.mem_cons.mp listed with rfl | later
        · exact List.cons_ne_nil _ _
        · exact ih (List.mem_cons_of_mem _ later)

/-- A further line has a length. -/
theorem firstLines_length_lt {count : Nat} {text : List α}
    (more : count < (t.linesOf text).length) :
    (t.firstLines count text).length < (t.firstLines (count + 1) text).length := by
  rw [← flatten_take_linesOf, ← flatten_take_linesOf, List.take_succ_eq_append_getElem more,
    List.flatten_append, List.length_append]
  have line := ne_nil_of_mem_linesOf (List.getElem_mem more)
  simpa using List.length_pos_of_ne_nil line

/-! ## Single lines -/

/-- A text of one line. -/
def IsLine (t : Terminators α) (line : List α) : Prop := t.linesOf line = [line]

/-- A text whose last character ends a line. -/
def Ended (t : Terminators α) (line : List α) : Prop := ∃ c ∈ line.getLast?, t.ends c = true

theorem IsLine.ne_nil {line : List α} (isLine : t.IsLine line) : line ≠ [] := by
  rintro rfl
  cases isLine

theorem isLine_singleton (c : α) : t.IsLine [c] := by
  rw [IsLine, linesOf]
  split <;> rfl

/-- What is a line from its second character on is a line if its first does not end one. -/
theorem isLine_cons_iff {c d : α} {rest : List α} :
    t.IsLine (c :: d :: rest) ↔ t.endsBefore c (d :: rest) = false ∧ t.IsLine (d :: rest) := by
  rw [IsLine, IsLine, linesOf]
  split
  next ends =>
    refine iff_of_false (fun same => ?_) fun ⟨goes, _⟩ => by simp [goes] at ends
    exact linesOf_cons_ne_nil d rest (List.cons.inj same).2
  next goes =>
    rw [Bool.not_eq_true] at goes
    rw [and_iff_right goes]
    cases lines : t.linesOf (d :: rest) with
    | nil => exact absurd lines (linesOf_cons_ne_nil d rest)
    | cons line lines => simp [prepend]

theorem head?_of_linesOf_eq_cons {text line : List α} {lines : List (List α)}
    (isFirst : t.linesOf text = line :: lines) : line.head? = text.head? := by
  have nonempty : line ≠ [] := ne_nil_of_mem_linesOf (by rw [isFirst]; exact List.mem_cons_self)
  have whole := flatten_linesOf (t := t) text
  rw [isFirst, List.flatten_cons] at whole
  rw [← whole, List.head?_append_of_ne_nil _ nonempty]

theorem isLine_of_mem {text line : List α} (listed : line ∈ t.linesOf text) : t.IsLine line := by
  induction text generalizing line with
  | nil => cases listed
  | cons c rest ih =>
    rw [linesOf] at listed
    split at listed
    next =>
      rcases List.mem_cons.mp listed with rfl | later
      · exact isLine_singleton c
      · exact ih later
    next goes =>
      rw [Bool.not_eq_true] at goes
      cases lines : t.linesOf rest with
      | nil =>
        rw [lines, prepend, List.mem_singleton] at listed
        rw [listed]
        exact isLine_singleton c
      | cons first others =>
        rw [lines] at ih listed
        rcases List.mem_cons.mp listed with rfl | later
        · have isFirst := ih List.mem_cons_self
          have sameHead := head?_of_linesOf_eq_cons lines
          obtain ⟨d, tail, rfl⟩ := List.exists_cons_of_ne_nil isFirst.ne_nil
          refine isLine_cons_iff.mpr ⟨?_, isFirst⟩
          rw [endsBefore, sameHead]
          exact goes
        · exact ih (List.mem_cons_of_mem _ later)

/-- Only the last line of a text is perhaps not ended. -/
theorem ended_of_mem_dropLast {text line : List α} (listed : line ∈ (t.linesOf text).dropLast) :
    t.Ended line := by
  induction text generalizing line with
  | nil => cases listed
  | cons c rest ih =>
    rw [linesOf] at listed
    split at listed
    next ends =>
      cases lines : t.linesOf rest with
      | nil =>
        rw [lines] at listed
        cases listed
      | cons first others =>
        rw [lines, List.dropLast_cons_of_ne_nil (List.cons_ne_nil _ _), ← lines] at listed
        rcases List.mem_cons.mp listed with rfl | later
        · exact ⟨c, rfl, (Bool.and_eq_true _ _ |>.mp ends).1⟩
        · exact ih later
    next =>
      cases lines : t.linesOf rest with
      | nil =>
        rw [lines] at listed
        cases listed
      | cons first others =>
        rw [lines] at ih listed
        have nonempty : first ≠ [] :=
          ne_nil_of_mem_linesOf (by rw [lines]; exact List.mem_cons_self)
        cases others with
        | nil => cases listed
        | cons second others =>
          rw [prepend, List.dropLast_cons_of_ne_nil (List.cons_ne_nil _ _)] at listed
          rw [List.dropLast_cons_of_ne_nil (List.cons_ne_nil _ _)] at ih
          rcases List.mem_cons.mp listed with rfl | later
          · obtain ⟨last, isLast, ends⟩ := ih List.mem_cons_self
            refine ⟨last, ?_, ends⟩
            rwa [List.singleton_append, List.getLast?_cons_of_ne_nil nonempty]
          · exact ih (List.mem_cons_of_mem _ later)

/-- All lines but the last are ended. -/
def Separated (t : Terminators α) (lines : List (List α)) : Prop :=
  ∀ line ∈ lines.dropLast, t.Ended line

theorem separated_linesOf (text : List α) : t.Separated (t.linesOf text) :=
  fun _ => ended_of_mem_dropLast

theorem separated_nil : t.Separated [] := fun _ listed => by cases listed

theorem separated_cons {line : List α} {rest : List (List α)} :
    t.Separated (line :: rest) ↔ (rest ≠ [] → t.Ended line) ∧ t.Separated rest := by
  cases rest with
  | nil => exact iff_of_true (fun _ listed => by cases listed) ⟨nofun, separated_nil⟩
  | cons next rest =>
    rw [Separated, List.dropLast_cons_of_ne_nil (List.cons_ne_nil _ _), List.forall_mem_cons]
    exact and_congr_left fun _ => (imp_iff_right (List.cons_ne_nil _ _)).symm

theorem Separated.of_append {lines others : List (List α)}
    (separated : t.Separated (lines ++ others)) : t.Separated others := by
  induction lines with
  | nil => exact separated
  | cons line lines ih => exact ih (separated_cons.mp separated).2

theorem separated_append_iff {lines others : List (List α)} (more : others ≠ []) :
    t.Separated (lines ++ others) ↔ (∀ line ∈ lines, t.Ended line) ∧ t.Separated others := by
  rw [Separated, Separated, List.dropLast_append_of_ne_nil more, List.forall_mem_append]

/-- Lines that are ended may come before any others. -/
theorem separated_append_of_ended {lines : List (List α)} (ended : ∀ line ∈ lines, t.Ended line)
    (others : List (List α)) : t.Separated (lines ++ others) ↔ t.Separated others := by
  cases others with
  | nil =>
    refine iff_of_true ?_ separated_nil
    rw [List.append_nil]
    exact fun line listed => ended line (List.dropLast_subset _ listed)
  | cons line others => rw [separated_append_iff (List.cons_ne_nil _ _), and_iff_right ended]

theorem Separated.left {lines others : List (List α)} (separated : t.Separated (lines ++ others)) :
    t.Separated lines := by
  cases others with
  | nil => rwa [List.append_nil] at separated
  | cons line others =>
    intro line listed
    exact ((separated_append_iff (List.cons_ne_nil _ _)).mp separated).1 line
      (List.dropLast_subset _ listed)

/-- All lines are ended when the last one is. -/
theorem Separated.all_iff {lines : List (List α)} (separated : t.Separated lines) :
    (∀ line ∈ lines, t.Ended line) ↔ ∀ line ∈ lines.getLast?, t.Ended line := by
  refine ⟨fun ended line isLast => ended line (List.mem_of_getLast? isLast), fun last => ?_⟩
  rcases List.eq_nil_or_concat lines with rfl | ⟨others, line, rfl⟩
  · exact nofun
  · rw [List.concat_eq_append] at separated last ⊢
    refine List.forall_mem_append.mpr
      ⟨((separated_append_iff (List.cons_ne_nil _ _)).mp separated).1, ?_⟩
    exact List.forall_mem_singleton.mpr (last line List.getLast?_concat)

/-- An ended line stays a line before what comes next. -/
theorem linesOf_append_of_ended {line rest : List α} (isLine : t.IsLine line)
    (ended : t.Ended line) (apart : rest.head?.any t.feeds = false) :
    t.linesOf (line ++ rest) = line :: t.linesOf rest := by
  induction line with
  | nil => cases isLine
  | cons c others ih =>
    cases others with
    | nil =>
      obtain ⟨last, isLast, ends⟩ := ended
      rw [← Option.some.inj isLast] at ends
      change t.ends c = true at ends
      rw [List.singleton_append, linesOf, if_pos]
      rw [endsBefore, ends, apart, Bool.and_false]
      rfl
    | cons d others =>
      obtain ⟨goes, isRest⟩ := isLine_cons_iff.mp isLine
      have endedRest : t.Ended (d :: others) := by
        obtain ⟨last, isLast, ends⟩ := ended
        exact ⟨last, by rwa [List.getLast?_cons_of_ne_nil (List.cons_ne_nil _ _)] at isLast, ends⟩
      have stays : t.endsBefore c (d :: others ++ rest) = false := goes
      rw [List.cons_append, linesOf, stays, ih isRest endedRest]
      rfl

/-- A line that is not ended has no end of a line in it. -/
theorem IsLine.plain {line : List α} (isLine : t.IsLine line) (unended : ¬ t.Ended line) :
    ∀ c ∈ line, t.ends c = false := by
  induction line with
  | nil => simp
  | cons c others ih =>
    cases others with
    | nil =>
      refine List.forall_mem_singleton.mpr (Bool.eq_false_iff.mpr fun ends => unended ?_)
      exact ⟨c, rfl, ends⟩
    | cons d others =>
      obtain ⟨goes, isRest⟩ := isLine_cons_iff.mp isLine
      have plain := ih isRest fun ⟨last, isLast, ends⟩ =>
        unended ⟨last, by rwa [List.getLast?_cons_of_ne_nil (List.cons_ne_nil _ _)], ends⟩
      refine List.forall_mem_cons.mpr ⟨?_, plain⟩
      have notFeed : t.feeds d = false := Bool.eq_false_iff.mpr fun isFeed =>
        Bool.eq_false_iff.mp (plain d List.mem_cons_self) (t.ends_of_feeds isFeed)
      rw [endsBefore, List.head?_cons, Option.any_some, notFeed, Bool.and_false] at goes
      simpa using goes

/-! ## Two notions of line -/

/-- In `s` a line ends where one ends in `t`, and perhaps elsewhere. -/
structure Finer (t s : Terminators α) : Prop where
  ends : ∀ {c}, t.ends c = true → s.ends c = true
  returns : s.returns = t.returns
  feeds : s.feeds = t.feeds

/-- A character that ends a line in `s` only. -/
def Extra (t s : Terminators α) (c : α) : Prop := s.ends c = true ∧ t.ends c = false

variable {s : Terminators α}

theorem Finer.endsBefore_eq (finer : Finer t s) {c : α} (plain : ¬ Extra t s c) (rest : List α) :
    s.endsBefore c rest = t.endsBefore c rest := by
  have same : s.ends c = t.ends c := by
    cases isEnd : t.ends c with
    | true => exact finer.ends isEnd
    | false => exact Bool.eq_false_iff.mpr fun isExtra => plain ⟨isExtra, isEnd⟩
  rw [endsBefore, endsBefore, same, finer.returns, finer.feeds]

theorem Finer.endsBefore_extra (finer : Finer t s) {c : α} (extra : Extra t s c) (rest : List α) :
    s.endsBefore c rest = true ∧ t.endsBefore c rest = false := by
  obtain ⟨ends, goes⟩ := extra
  have notReturn : t.returns c = false :=
    Bool.eq_false_iff.mpr fun isReturn => by simp [t.ends_of_returns isReturn] at goes
  refine ⟨?_, endsBefore_of_not_ends goes rest⟩
  rw [endsBefore, ends, finer.returns, notReturn]
  rfl

theorem Finer.firstLines_length_le (finer : Finer t s) (count : Nat) (text : List α) :
    (s.firstLines count text).length ≤ (t.firstLines count text).length := by
  induction text generalizing count with
  | nil => simp
  | cons c rest ih =>
    cases count with
    | zero => simp
    | succ count =>
      rw [firstLines, firstLines]
      by_cases extra : Extra t s c
      · obtain ⟨ends, goes⟩ := finer.endsBefore_extra extra rest
        rw [if_pos ends, if_neg (by simp [goes])]
        have longer := (firstLines_initial (t := t) (Nat.le_add_right count 1) rest).length_le
        have shorter := ih count
        simp only [List.length_cons]
        omega
      · rw [finer.endsBefore_eq extra]
        split
        next => simpa using ih count
        next => simpa using ih (count + 1)

/-- The first lines are the same in both notions when no line among them is cut in one only. -/
theorem Finer.firstLines_eq_iff (finer : Finer t s) {count : Nat} {text : List α}
    (bounded : count ≤ (t.linesOf text).length) :
    s.firstLines count text = t.firstLines count text ↔
      ∀ c ∈ (t.firstLines count text).dropLast, ¬ Extra t s c := by
  induction text generalizing count with
  | nil => simp
  | cons c rest ih =>
    cases count with
    | zero => simp
    | succ count =>
      rw [firstLines, firstLines]
      rw [linesOf] at bounded
      by_cases extra : Extra t s c
      · obtain ⟨ends, goes⟩ := finer.endsBefore_extra extra rest
        rw [if_neg (by simp [goes])] at bounded
        rw [if_pos ends, if_neg (by simp [goes])]
        cases rest with
        | nil => simp
        | cons d rest =>
          -- The line goes on in `t`, so the first lines of `s` are shorter.
          have more : count < (t.linesOf (d :: rest)).length := by
            have nonempty := List.length_pos_of_ne_nil (linesOf_cons_ne_nil (t := t) d rest)
            cases lines : t.linesOf (d :: rest) with
            | nil => exact absurd lines (linesOf_cons_ne_nil d rest)
            | cons line lines' =>
              rw [lines] at bounded
              exact bounded
          have longer := firstLines_length_lt more
          have shorter := finer.firstLines_length_le count (d :: rest)
          refine iff_of_false ?_ ?_
          · intro same
            have lengths := congrArg List.length (List.cons.inj same).2
            omega
          · intro none_extra
            have nonempty : t.firstLines (count + 1) (d :: rest) ≠ [] := by
              intro empty
              rw [empty] at longer
              simp at longer
            rw [List.dropLast_cons_of_ne_nil nonempty] at none_extra
            exact none_extra c List.mem_cons_self extra
      · rw [finer.endsBefore_eq extra]
        have skip : ∀ lines : List α, (∀ d ∈ (c :: lines).dropLast, ¬ Extra t s d) ↔
            ∀ d ∈ lines.dropLast, ¬ Extra t s d := by
          intro lines
          cases lines with
          | nil => simp
          | cons d lines =>
            rw [List.dropLast_cons_of_ne_nil (List.cons_ne_nil _ _), List.forall_mem_cons]
            exact and_iff_right extra
        split
        next ends =>
          rw [if_pos ends, List.length_cons] at bounded
          rw [List.cons_inj_right, skip]
          exact ih (Nat.le_of_succ_le_succ bounded)
        next goes =>
          rw [if_neg goes] at bounded
          rw [List.cons_inj_right, skip]
          cases rest with
          | nil => simp
          | cons d rest =>
            refine ih ?_
            cases lines : t.linesOf (d :: rest) with
            | nil => exact absurd lines (linesOf_cons_ne_nil d rest)
            | cons line lines' =>
              rw [lines] at bounded
              exact bounded

/-! ## Encodings -/

/-- An encoding of characters by blocks that keeps the ends of lines. -/
structure Encodes (t : Terminators α) (s : Terminators β) (block : α → List β) : Prop where
  nonempty : ∀ c, block c ≠ []
  ends : ∀ {c}, t.ends c = true →
    ∃ b, block c = [b] ∧ s.ends b = true ∧ s.returns b = t.returns c ∧ s.feeds b = t.feeds c
  plain : ∀ {c}, t.ends c = false → ∀ b ∈ block c, s.ends b = false

variable {s : Terminators β} {block : α → List β}

/-- A block without an end of a line goes before the next line. -/
theorem linesOf_append_plain {plain : List β} (goes : ∀ b ∈ plain, s.ends b = false)
    (nonempty : plain ≠ []) (rest : List β) :
    s.linesOf (plain ++ rest) = prepend plain (s.linesOf rest) := by
  induction plain with
  | nil => exact absurd rfl nonempty
  | cons b others ih =>
    rw [List.cons_append, linesOf, if_neg (by
      simp [endsBefore_of_not_ends (goes b List.mem_cons_self)])]
    cases others with
    | nil => rfl
    | cons other others =>
      rw [ih (fun b' later => goes b' (List.mem_cons_of_mem _ later)) (List.cons_ne_nil _ _)]
      cases s.linesOf rest <;> simp [prepend]

theorem Encodes.feeds_head (encodes : Encodes t s block) (text : List α) :
    (text.flatMap block).head?.any s.feeds = text.head?.any t.feeds := by
  cases text with
  | nil => rfl
  | cons c rest =>
    rw [List.flatMap_cons, List.head?_append]
    cases isEnd : t.ends c with
    | true =>
      obtain ⟨b, isBlock, -, -, feeds⟩ := encodes.ends isEnd
      simp [isBlock, feeds]
    | false =>
      have notFeed : t.feeds c = false :=
        Bool.eq_false_iff.mpr fun isFeed => by simp [t.ends_of_feeds isFeed] at isEnd
      cases isBlock : block c with
      | nil => exact absurd isBlock (encodes.nonempty c)
      | cons b others =>
        have goes := encodes.plain isEnd b (by rw [isBlock]; exact List.mem_cons_self)
        have plain : s.feeds b = false :=
          Bool.eq_false_iff.mpr fun isFeed => by simp [s.ends_of_feeds isFeed] at goes
        simp [plain, notFeed]

/-- The lines of an encoded text are its lines, encoded. -/
theorem Encodes.linesOf_flatMap (encodes : Encodes t s block) (text : List α) :
    s.linesOf (text.flatMap block) = (t.linesOf text).map (·.flatMap block) := by
  induction text with
  | nil => rfl
  | cons c rest ih =>
    rw [List.flatMap_cons, linesOf]
    cases isEnd : t.ends c with
    | true =>
      obtain ⟨b, isBlock, ends, returns, -⟩ := encodes.ends isEnd
      have same : s.endsBefore b (rest.flatMap block) = t.endsBefore c rest := by
        rw [endsBefore, endsBefore, ends, isEnd, returns, encodes.feeds_head]
      rw [isBlock, List.singleton_append, linesOf, same, ih]
      split
      next => simp [isBlock]
      next => cases t.linesOf rest <;> simp [prepend, isBlock]
    | false =>
      rw [if_neg (by simp [endsBefore_of_not_ends isEnd]),
        linesOf_append_plain (encodes.plain isEnd) (encodes.nonempty c), ih]
      cases t.linesOf rest <;> simp [prepend]

theorem Encodes.firstLines_flatMap (encodes : Encodes t s block) (count : Nat) (text : List α) :
    s.firstLines count (text.flatMap block) = (t.firstLines count text).flatMap block := by
  rw [← flatten_take_linesOf, ← flatten_take_linesOf, encodes.linesOf_flatMap, ← List.map_take]
  simp only [List.flatMap_def, List.map_flatten, List.flatten_flatten, List.map_map,
    Function.comp_def]

end Terminators

end TextLines
