import Mathlib.Data.String.Basic

/-!
# Self-delimiting texts

A code is self-delimiting when its texts tell where they end.  Texts that begin with different
words of such a code are ordered by these words, whatever comes after them
(`SelfDelimiting.append_le_append_iff`).  JSON writes strings so (`selfDelimiting_quote`), and
arrays of them (`selfDelimiting_array`).
-/

namespace JsonText

/-! ## The order of what is written -/

section Order

universe u

variable {α : Type u} {code : α → List Char}

/-- What is written tells where it ends. -/
def SelfDelimiting (code : α → List Char) : Prop :=
  ∀ a b x y, code a ++ x = code b ++ y → a = b ∧ x = y

/-- Two lists neither of which begins with the other are in the order of their continuations. -/
theorem append_lt_append_iff {u v : List Char} (apart : ¬ u <+: v) (reversed : ¬ v <+: u)
    (x y : List Char) : u ++ x < v ++ y ↔ u < v := by
  induction u generalizing v with
  | nil => exact absurd List.nil_prefix apart
  | cons c u ih =>
    cases v with
    | nil => exact absurd List.nil_prefix reversed
    | cons d v =>
      rw [List.cons_append, List.cons_append, List.cons_lt_cons_iff, List.cons_lt_cons_iff]
      by_cases same : c = d
      · subst same
        have later := ih (fun starts => apart (List.cons_prefix_cons.mpr ⟨rfl, starts⟩))
          (fun starts => reversed (List.cons_prefix_cons.mpr ⟨rfl, starts⟩))
        rw [later]
      · simp [same]

namespace SelfDelimiting

variable (delimits : SelfDelimiting code)

include delimits

theorem eq_of_prefix {a b : α} (starts : code a <+: code b) : a = b := by
  obtain ⟨rest, same⟩ := starts
  exact (delimits a b rest [] (by rw [same, List.append_nil])).1

/-- Texts that begin differently are in the order of their beginnings. -/
theorem append_le_append_iff {a b : α} (different : a ≠ b) (x y : List Char) :
    code a ++ x ≤ code b ++ y ↔ code a ≤ code b := by
  rw [← not_lt, ← not_lt]
  exact not_congr (append_lt_append_iff
    (fun starts => different (delimits.eq_of_prefix starts).symm)
    (fun starts => different (delimits.eq_of_prefix starts)) y x)

end SelfDelimiting

end Order

section Marks

universe u v

variable {α : Type u} {β : Type v}

/-- Texts without a mark are told where a mark or nothing comes after them. -/
theorem append_inj_of_unmarked {p : α → Prop} {a b x y : List α} (inA : ∀ c ∈ a, ¬ p c)
    (inB : ∀ c ∈ b, ¬ p c) (afterA : ∀ c ∈ x.head?, p c) (afterB : ∀ c ∈ y.head?, p c)
    (same : a ++ x = b ++ y) : a = b ∧ x = y := by
  induction a generalizing b with
  | nil =>
    cases b with
    | nil => exact ⟨rfl, same⟩
    | cons d b =>
      rw [List.nil_append] at same
      exact absurd (afterA d (by rw [same]; rfl)) (inB d List.mem_cons_self)
  | cons c a ih =>
    cases b with
    | nil =>
      rw [List.nil_append] at same
      exact absurd (afterB c (by rw [← same]; rfl)) (inA c List.mem_cons_self)
    | cons d b =>
      obtain ⟨rfl, later⟩ := List.cons.inj same
      obtain ⟨rfl, rest⟩ := ih (fun c isLater => inA c (List.mem_cons_of_mem _ isLater))
        (fun c isLater => inB c (List.mem_cons_of_mem _ isLater)) later
      exact ⟨rfl, rest⟩

/-- What is written element by element is told where a mark comes after it. -/
theorem flatMap_append_inj {write : α → List β} {mark : List β}
    (told : ∀ a b x y, write a ++ x = write b ++ y → a = b ∧ x = y)
    (unmarked : ∀ a x y, write a ++ x ≠ mark ++ y) {s t : List α} {x y : List β}
    (same : s.flatMap write ++ (mark ++ x) = t.flatMap write ++ (mark ++ y)) : s = t ∧ x = y := by
  induction s generalizing t with
  | nil =>
    cases t with
    | nil => exact ⟨rfl, List.append_cancel_left same⟩
    | cons d t =>
      rw [List.flatMap_cons, List.append_assoc] at same
      exact absurd same.symm (unmarked d _ _)
  | cons c s ih =>
    cases t with
    | nil =>
      rw [List.flatMap_cons, List.append_assoc] at same
      exact absurd same (unmarked c _ _)
    | cons d t =>
      rw [List.flatMap_cons, List.flatMap_cons, List.append_assoc, List.append_assoc] at same
      obtain ⟨rfl, later⟩ := told _ _ _ _ same
      obtain ⟨rfl, rest⟩ := ih later
      exact ⟨rfl, rest⟩

end Marks

/-! ## Strings -/

/-- The escapes of a JSON string. -/
def escape (c : Char) : List Char :=
  if c.toNat = 0x22 then "\\\"".toList
  else if c.toNat = 0x5C then "\\\\".toList
  else if c.toNat = 0x0A then "\\n".toList
  else if c.toNat = 0x0D then "\\r".toList
  else if c.toNat = 0x09 then "\\t".toList
  else if c.toNat = 0x0C then "\\f".toList
  else if c.toNat = 0x08 then "\\b".toList
  else if c.toNat < 0x20 then
    "\\u00".toList ++ [Nat.digitChar (c.toNat / 16), Nat.digitChar (c.toNat % 16)]
  else [c]

/-- The JSON text of a string. -/
def quote (s : String) : List Char := "\"".toList ++ s.toList.flatMap escape ++ "\"".toList

/-- The value of a hexadecimal digit. -/
def hexValue (c : Char) : Nat := if c.toNat < 0x3A then c.toNat - 0x30 else c.toNat - 0x57

/-- The code point that an escape stands for. -/
def shortValue (c : Char) : Nat :=
  if c.toNat = 0x6E then 0x0A
  else if c.toNat = 0x72 then 0x0D
  else if c.toNat = 0x74 then 0x09
  else if c.toNat = 0x66 then 0x0C
  else if c.toNat = 0x62 then 0x08
  else c.toNat

/-- The first code point of the text of a string, and what follows it. -/
def firstEscaped : List Char → Option (Nat × List Char)
  | [] => none
  | c :: rest =>
    if c.toNat = 0x5C then
      match rest with
      | [] => none
      | e :: rest =>
        if e.toNat = 0x75 then
          match rest with
          | _ :: _ :: high :: low :: rest => some (16 * hexValue high + hexValue low, rest)
          | _ => none
        else some (shortValue e, rest)
    else some (c.toNat, rest)

theorem hexValue_digitChar {n : Nat} (small : n < 16) : hexValue (Nat.digitChar n) = n := by
  revert n
  decide

theorem firstEscaped_escape (c : Char) (rest : List Char) :
    firstEscaped (escape c ++ rest) = some (c.toNat, rest) := by
  unfold escape
  split_ifs with h1 h2 h3 h4 h5 h6 h7 h8
  · rw [h1]; rfl
  · rw [h2]; rfl
  · rw [h3]; rfl
  · rw [h4]; rfl
  · rw [h5]; rfl
  · rw [h6]; rfl
  · rw [h7]; rfl
  · have high := hexValue_digitChar (n := c.toNat / 16) (by omega)
    have low := hexValue_digitChar (n := c.toNat % 16) (by omega)
    show some (16 * hexValue (Nat.digitChar (c.toNat / 16)) +
      hexValue (Nat.digitChar (c.toNat % 16)), rest) = _
    rw [high, low, Nat.div_add_mod]
  · simp [firstEscaped, h2]

theorem escape_append_inj {c d : Char} {x y : List Char} (same : escape c ++ x = escape d ++ y) :
    c = d ∧ x = y := by
  have read := congrArg firstEscaped same
  rw [firstEscaped_escape, firstEscaped_escape] at read
  simp only [Option.some.injEq, Prod.mk.injEq] at read
  exact ⟨Char.toNat_inj.mp read.1, read.2⟩

/-- No character of a string is written as the mark of its end. -/
theorem escape_append_ne (c : Char) (x y : List Char) : escape c ++ x ≠ "\"".toList ++ y := by
  unfold escape
  split_ifs with h1
  all_goals intro same
  all_goals injection same with first rest
  all_goals first
    | exact absurd first (by decide)
    | exact h1 (by rw [first]; rfl)

theorem escape_ne_nil (c : Char) : escape c ≠ [] := by
  unfold escape
  split_ifs <;> exact List.cons_ne_nil _ _

theorem flatMap_escape_inj {s t x y : List Char}
    (same : s.flatMap escape ++ ("\"".toList ++ x) = t.flatMap escape ++ ("\"".toList ++ y)) :
    s = t ∧ x = y :=
  flatMap_append_inj (fun _ _ _ _ => escape_append_inj) escape_append_ne same

theorem selfDelimiting_quote : SelfDelimiting quote := by
  intro a b x y same
  simp only [quote, List.append_assoc] at same
  obtain ⟨texts, rest⟩ := flatMap_escape_inj (List.append_cancel_left same)
  exact ⟨String.toList_inj.mp texts, rest⟩

/-! ## Arrays -/

/-- The text of an array after its first string. -/
def arrayTail : List String → List Char
  | [] => "]".toList
  | item :: rest => ",".toList ++ (quote item ++ arrayTail rest)

/-- The JSON text of an array of strings. -/
def array : List String → List Char
  | [] => "[]".toList
  | item :: rest => "[".toList ++ (quote item ++ arrayTail rest)

theorem selfDelimiting_arrayTail : SelfDelimiting arrayTail := by
  intro a
  induction a with
  | nil =>
    intro b x y same
    cases b with
    | nil => exact ⟨rfl, List.append_cancel_left same⟩
    | cons item rest =>
      injection same with first _
      exact absurd first (by decide)
  | cons item rest ih =>
    intro b x y same
    cases b with
    | nil =>
      injection same with first _
      exact absurd first (by decide)
    | cons other later =>
      simp only [arrayTail, List.append_assoc] at same
      obtain ⟨rfl, tails⟩ := selfDelimiting_quote _ _ _ _ (List.append_cancel_left same)
      obtain ⟨rfl, ends⟩ := ih _ _ _ tails
      exact ⟨rfl, ends⟩

theorem quote_ne_bracket (item : String) (x y : List Char) : quote item ++ x ≠ "]".toList ++ y := by
  intro same
  rw [quote, List.append_assoc, List.append_assoc] at same
  injection same with first _
  exact absurd first (by decide)

theorem selfDelimiting_array : SelfDelimiting array := by
  intro a b x y same
  cases a with
  | nil =>
    cases b with
    | nil => exact ⟨rfl, List.append_cancel_left same⟩
    | cons item rest =>
      simp only [array, List.append_assoc] at same
      injection same with _ later
      exact absurd later.symm (quote_ne_bracket item _ _)
  | cons item rest =>
    cases b with
    | nil =>
      simp only [array, List.append_assoc] at same
      injection same with _ later
      exact absurd later (quote_ne_bracket item _ _)
    | cons other later =>
      simp only [array, List.append_assoc] at same
      obtain ⟨rfl, tails⟩ := selfDelimiting_quote _ _ _ _ (List.append_cancel_left same)
      obtain ⟨rfl, ends⟩ := selfDelimiting_arrayTail _ _ _ _ tails
      exact ⟨rfl, ends⟩

/-- The texts of strings in brackets, with commas between them, are the text of the array. -/
theorem toList_array {quoteText : String → String}
    (quoted : ∀ s, (quoteText s).toList = quote s) (items : List String) :
    ("[" ++ String.intercalate "," (items.map quoteText) ++ "]").toList = array items := by
  have tail : ∀ rest first, (String.intercalate "," ((first :: rest).map quoteText)).toList ++
      "]".toList = quote first ++ arrayTail rest := by
    intro rest
    induction rest with
    | nil =>
      intro first
      rw [List.map_cons, List.map_nil, String.intercalate_singleton, quoted]
      rfl
    | cons second rest ih =>
      intro first
      rw [List.map_cons, List.map_cons, String.intercalate_cons_cons, ← List.map_cons,
        String.toList_append, String.toList_append, List.append_assoc, ih, quoted,
        List.append_assoc]
      rfl
  rw [String.toList_append, String.toList_append, List.append_assoc]
  cases items with
  | nil => rfl
  | cons first rest => rw [tail, array]

end JsonText
