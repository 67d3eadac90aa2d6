import StateGuard.Contracts.Untrusted
import StateGuard.Library.JsonText
import StateGuard.Python.Text

/-!
# Canonical JSON tells values apart

`canonical_json` writes the entries of an object by key, so it does not tell in which order they
stand; `sorted` puts them in order.  Values without floats that have the same text are the same up
to that order (`sorted_of_text`).

The text of a value need not tell where it ends, for `1` begins `12`.  But where a value stands in
another one, a comma or a bracket comes after it (`Stops`), and no text has one after it and goes on
as the text of another value (`told`).

A record is dumped as an object with its fields (`Dumps`, `Fields`).  Objects with the same keys are
told apart by their values (`values_of_sorted`), so records are told apart by their dumps where the
values of their fields are.
-/

namespace StateGuard

open Python Checks KeyOrder

theorem canonicalJson_eq_ok {numerals : Numerals} {value : Json} {text : Str} :
    canonicalJson numerals value = .ok text ↔
      value.integersWritten = true ∧ value.text numerals = text := by
  simp [canonicalJson]

/-! ## Strings -/

/-- A character is escaped alike in both kinds of text. -/
theorem escapeCodePoint_ofChar (c : Char) :
    escapeCodePoint (.ofChar c) = (JsonText.escape c).map .ofChar := by
  have value : (CodePoint.ofChar c).val = c.toNat := rfl
  rw [escapeCodePoint, JsonText.escape, value]
  split_ifs
  all_goals first
    | rfl
    | simp [Str.ofString]

theorem exists_ofChar {c : CodePoint} (scalar : c.isSurrogate = false) :
    ∃ char, c = .ofChar char := by
  have valid : c.val.isValidChar := by
    simp only [CodePoint.isSurrogate, decide_eq_false_iff_not] at scalar
    rw [Nat.isValidChar]
    omega
  refine ⟨Char.ofNat c.val, Fin.ext ?_⟩
  show c.val = (Char.ofNat c.val).toNat
  rw [Char.ofNat, dif_pos valid]
  rfl

/-- A lone surrogate is not escaped. -/
theorem escapeCodePoint_surrogate {c : CodePoint} (surrogate : c.isSurrogate = true) :
    escapeCodePoint c = [c] := by
  simp only [CodePoint.isSurrogate, decide_eq_true_eq] at surrogate
  rw [escapeCodePoint]
  repeat rw [if_neg (by omega)]

/-- The first code point of a text is told by its escape. -/
theorem escapeCodePoint_append_inj {c d : CodePoint} {x y : Str}
    (same : escapeCodePoint c ++ x = escapeCodePoint d ++ y) : c = d ∧ x = y := by
  have unlike : ∀ {c d : CodePoint} {x y : Str}, c.isSurrogate = true → d.isSurrogate = false →
      escapeCodePoint c ++ x ≠ escapeCodePoint d ++ y := by
    intro c d x y surrogate scalar same
    have unicode : (escapeCodePoint d).isUnicode = true := by
      rw [isUnicode_escapeCodePoint, scalar]
      rfl
    rw [escapeCodePoint_surrogate surrogate] at same
    cases escaped : escapeCodePoint d with
    | nil =>
      obtain ⟨char, rfl⟩ := exists_ofChar scalar
      rw [escapeCodePoint_ofChar, List.map_eq_nil_iff] at escaped
      exact JsonText.escape_ne_nil char escaped
    | cons first rest =>
      rw [escaped, List.singleton_append, List.cons_append] at same
      obtain ⟨rfl, -⟩ := List.cons.inj same
      rw [escaped, Str.isUnicode_cons, surrogate] at unicode
      cases unicode
  cases left : c.isSurrogate with
  | true =>
    cases right : d.isSurrogate with
    | true =>
      rw [escapeCodePoint_surrogate left, escapeCodePoint_surrogate right] at same
      exact List.cons.inj same
    | false => exact absurd same (unlike left right)
  | false =>
    cases right : d.isSurrogate with
    | true => exact absurd same.symm (unlike right left)
    | false =>
      obtain ⟨char, rfl⟩ := exists_ofChar left
      obtain ⟨other, rfl⟩ := exists_ofChar right
      rw [escapeCodePoint_ofChar, escapeCodePoint_ofChar] at same
      have chars := congrArg (List.map fun point : CodePoint => Char.ofNat point.val) same
      simp only [List.map_append, List.map_map, Function.comp_def, CodePoint.ofNat_ofChar,
        List.map_id'] at chars
      obtain ⟨rfl, -⟩ := JsonText.escape_append_inj chars
      exact ⟨rfl, List.append_cancel_left same⟩

/-- No escape begins with the mark of the end. -/
theorem escapeCodePoint_append_ne (c : CodePoint) (x y : Str) :
    escapeCodePoint c ++ x ≠ Str.ofString "\"" ++ y := by
  intro same
  cases surrogate : c.isSurrogate with
  | true =>
    rw [escapeCodePoint_surrogate surrogate] at same
    obtain ⟨rfl, -⟩ := List.cons.inj same
    revert surrogate
    decide
  | false =>
    obtain ⟨char, rfl⟩ := exists_ofChar surrogate
    rw [escapeCodePoint_ofChar] at same
    have chars := congrArg (List.map fun point : CodePoint => Char.ofNat point.val) same
    simp only [List.map_append, List.map_map, Function.comp_def, CodePoint.ofNat_ofChar,
      List.map_id', Str.map_ofNat_ofString] at chars
    exact JsonText.escape_append_ne char _ _ chars

theorem quoteStr_append_inj {s t x y : Str} (same : quoteStr s ++ x = quoteStr t ++ y) :
    s = t ∧ x = y := by
  simp only [quoteStr, List.append_assoc] at same
  exact JsonText.flatMap_append_inj (fun _ _ _ _ => escapeCodePoint_append_inj)
    escapeCodePoint_append_ne (List.append_cancel_left same)

/-! ## Texts that end where something else begins -/

/-- What may come after a value: nothing, or a comma or a bracket. -/
def Stops (rest : Str) : Prop := ∀ c ∈ rest.head?, c = 0x2C ∨ c = 0x5D ∨ c = 0x7D

theorem stops_nil : Stops [] := by
  intro c isFirst
  cases isFirst

/-- Two things that are written alike before what may come after them are read alike. -/
def Told {α β : Type} (write : α → Str) (read : α → β) (a b : α) : Prop :=
  ∀ {x y}, Stops x → Stops y → write a ++ x = write b ++ y → read a = read b ∧ x = y

theorem joinCommas_cons (first : Str) (rest : List Str) :
    joinCommas (first :: rest) = first ++ rest.flatMap (0x2C :: ·) := by
  induction rest generalizing first with
  | nil => rw [joinCommas, List.flatMap_nil, List.append_nil]
  | cons second rest ih =>
    rw [joinCommas, ih, List.flatMap_cons, List.append_assoc]
    · rfl
    · simp

section

variable {α β : Type} {write : α → Str} {read : α → β} {close : CodePoint}

/-- After an item of a list there is a comma, or the bracket. -/
theorem stops_commas (closes : close = 0x5D ∨ close = 0x7D) (texts : List Str) (x : Str) :
    Stops (texts.flatMap (0x2C :: ·) ++ close :: x) := by
  intro c isFirst
  cases texts with
  | nil =>
    cases isFirst
    exact .inr closes
  | cons text texts =>
    cases isFirst
    exact .inl rfl

/-- Items with a comma before each of them and a bracket after the last one. -/
theorem commas_told (closes : close = 0x5D ∨ close = 0x7D) {items others : List α}
    (told : ∀ a ∈ items, ∀ b ∈ others, Told write read a b) {x y : Str}
    (same : (items.map write).flatMap (0x2C :: ·) ++ close :: x =
      (others.map write).flatMap (0x2C :: ·) ++ close :: y) :
    items.map read = others.map read ∧ x = y := by
  have unlike : (0x2C : CodePoint) ≠ close := by
    rcases closes with rfl | rfl <;> decide
  induction items generalizing others with
  | nil =>
    cases others with
    | nil => exact ⟨rfl, (List.cons.inj same).2⟩
    | cons b others => exact absurd (List.cons.inj same).1.symm unlike
  | cons a items ih =>
    cases others with
    | nil => exact absurd (List.cons.inj same).1 unlike
    | cons b others =>
      simp only [List.map_cons, List.flatMap_cons, List.append_assoc] at same
      obtain ⟨isSame, ends⟩ := told a List.mem_cons_self b List.mem_cons_self
        (stops_commas closes _ x) (stops_commas closes _ y) (List.cons.inj same).2
      obtain ⟨later, rest⟩ := ih (fun a isItem b isOther =>
        told a (List.mem_cons_of_mem _ isItem) b (List.mem_cons_of_mem _ isOther)) ends
      exact ⟨congrArg₂ List.cons isSame later, rest⟩

/-- Lists are told by their texts, with commas between them and a bracket after them. -/
theorem joinCommas_told (closes : close = 0x5D ∨ close = 0x7D) {items others : List α}
    (opens : ∀ item ∈ items ++ others, ∀ x y, write item ++ x ≠ close :: y)
    (told : ∀ a ∈ items, ∀ b ∈ others, Told write read a b) {x y : Str}
    (same : joinCommas (items.map write) ++ close :: x =
      joinCommas (others.map write) ++ close :: y) :
    items.map read = others.map read ∧ x = y := by
  cases items with
  | nil =>
    cases others with
    | nil => exact ⟨rfl, (List.cons.inj same).2⟩
    | cons b others =>
      rw [List.map_cons, joinCommas_cons, List.append_assoc] at same
      exact absurd same.symm (opens b (by simp) _ _)
  | cons a items =>
    cases others with
    | nil =>
      rw [List.map_cons, joinCommas_cons, List.append_assoc] at same
      exact absurd same (opens a (by simp) _ _)
    | cons b others =>
      simp only [List.map_cons, joinCommas_cons, List.append_assoc] at same
      obtain ⟨isSame, ends⟩ := told a List.mem_cons_self b List.mem_cons_self
        (stops_commas closes _ x) (stops_commas closes _ y) same
      obtain ⟨later, rest⟩ := commas_told closes (fun a isItem b isOther =>
        told a (List.mem_cons_of_mem _ isItem) b (List.mem_cons_of_mem _ isOther)) ends
      exact ⟨congrArg₂ List.cons isSame later, rest⟩

end

/-! ## Values in order -/

namespace Json

mutual

/-- The value with the entries of its objects by key. -/
def sorted : Json → Json
  | list items => list (itemsSorted items)
  | dict entries => dict (sortedByKey Prod.fst (entriesSorted entries))
  | value => value

def itemsSorted : List Json → List Json
  | [] => []
  | item :: rest => sorted item :: itemsSorted rest

def entriesSorted : List (Str × Json) → List (Str × Json)
  | [] => []
  | (key, value) :: rest => (key, sorted value) :: entriesSorted rest

end

mutual

/-- No number of the value is a float. -/
def floatless : Json → Bool
  | float _ => false
  | list items => itemsFloatless items
  | dict entries => entriesFloatless entries
  | _ => true

def itemsFloatless : List Json → Bool
  | [] => true
  | item :: rest => floatless item && itemsFloatless rest

def entriesFloatless : List (Str × Json) → Bool
  | [] => true
  | (_, value) :: rest => floatless value && entriesFloatless rest

end

theorem itemsSorted_eq (items : List Json) : itemsSorted items = items.map sorted := by
  induction items with
  | nil => rfl
  | cons item rest ih => rw [itemsSorted, ih, List.map_cons]

theorem entriesSorted_eq (entries : List (Str × Json)) :
    entriesSorted entries = entries.map fun entry => (entry.1, entry.2.sorted) := by
  induction entries with
  | nil => rfl
  | cons entry rest ih => rw [entriesSorted, ih, List.map_cons]

theorem itemsFloatless_iff {items : List Json} :
    itemsFloatless items = true ↔ ∀ item ∈ items, item.floatless = true := by
  induction items with
  | nil => simp [itemsFloatless]
  | cons item rest ih => simp [itemsFloatless, ih]

theorem entriesFloatless_iff {entries : List (Str × Json)} :
    entriesFloatless entries = true ↔ ∀ entry ∈ entries, entry.2.floatless = true := by
  induction entries with
  | nil => simp [entriesFloatless]
  | cons entry rest ih => simp [entriesFloatless, ih]

theorem map_sortedByKey_values {β : Type} (f : Json → β) (entries : List (Str × Json)) :
    (sortedByKey Prod.fst entries).map (fun entry => (entry.1, f entry.2)) =
      sortedByKey Prod.fst (entries.map fun entry => (entry.1, f entry.2)) :=
  map_sortedByKey fun _ _ _ _ => Iff.rfl

theorem sorted_list (items : List Json) : (list items).sorted = list (items.map sorted) := by
  rw [sorted, itemsSorted_eq]

/-- The entries may be put in order before their values are. -/
theorem sorted_dict (entries : List (Str × Json)) :
    (dict entries).sorted =
      dict ((sortedByKey Prod.fst entries).map fun entry => (entry.1, entry.2.sorted)) := by
  rw [sorted, entriesSorted_eq, ← map_sortedByKey_values]

/-! ## Values and their texts -/

section

variable (numerals : Numerals)

theorem itemTexts_eq (items : List Json) :
    itemTexts numerals items = items.map (text numerals) := by
  induction items with
  | nil => rfl
  | cons item rest ih => rw [itemTexts, ih, List.map_cons]

theorem entryTexts_eq (entries : List (Str × Json)) :
    entryTexts numerals entries = entries.map fun entry => (entry.1, entry.2.text numerals) := by
  induction entries with
  | nil => rfl
  | cons entry rest ih => rw [entryTexts, ih, List.map_cons]

/-- The text of an entry. -/
def entryText (entry : Str × Json) : Str :=
  quoteStr entry.1 ++ Str.ofString ":" ++ entry.2.text numerals

theorem text_list (items : List Json) :
    (list items).text numerals =
      0x5B :: (joinCommas (items.map (text numerals)) ++ [0x5D]) := by
  rw [text, itemTexts_eq, List.append_assoc]
  rfl

theorem text_dict (entries : List (Str × Json)) :
    (dict entries).text numerals =
      0x7B :: (joinCommas ((sortedByKey Prod.fst entries).map (entryText numerals)) ++ [0x7D]) := by
  rw [text, entryTexts_eq, ← map_sortedByKey_values, List.map_map, List.append_assoc]
  rfl

end

/-- What a text tells of its value by its first code point. -/
inductive Shape where
  | null | bool | number | string | array | object | none
  deriving DecidableEq

def shape : Json → Shape
  | null => .null
  | bool _ => .bool
  | int _ | float _ => .number
  | str _ => .string
  | list _ => .array
  | dict _ => .object

/-- The shape of the values whose texts begin with a code point. -/
def shapeOf (c : CodePoint) : Shape :=
  if c = 0x6E then .null
  else if c = 0x74 ∨ c = 0x66 then .bool
  else if c = 0x22 then .string
  else if c = 0x5B then .array
  else if c = 0x7B then .object
  else if c = 0x2D ∨ 0x30 ≤ c ∧ c ≤ 0x39 then .number
  else .none

theorem mem_ofString_nat {n : Nat} {c : CodePoint} (listed : c ∈ Str.ofString (toString n)) :
    0x30 ≤ c ∧ c ≤ 0x39 := by
  rw [Str.ofString, Nat.toString_eq_ofList_toDigits, String.toList_ofList] at listed
  obtain ⟨digit, isDigit, rfl⟩ := List.mem_map.mp listed
  have digits := Nat.isDigit_of_mem_toDigits (by decide) (by decide) isDigit
  simp only [Char.isDigit, Bool.and_eq_true, decide_eq_true_eq, ge_iff_le] at digits
  exact ⟨UInt32.le_iff_toNat_le.mp digits.1, UInt32.le_iff_toNat_le.mp digits.2⟩

theorem ofString_negSucc (n : Nat) :
    Str.ofString (toString (Int.negSucc n)) = 0x2D :: Str.ofString (toString (n + 1)) := by
  show Str.ofString ("-" ++ toString (n + 1)) = _
  rw [Str.ofString, String.toList_append, List.map_append]
  rfl

/-- An integer is written with digits, and a sign. -/
theorem mem_ofString_int {value : Int} {c : CodePoint}
    (listed : c ∈ Str.ofString (toString value)) : c = 0x2D ∨ 0x30 ≤ c ∧ c ≤ 0x39 := by
  cases value with
  | ofNat n => exact .inr (mem_ofString_nat listed)
  | negSucc n =>
    rw [ofString_negSucc] at listed
    exact (List.mem_cons.mp listed).imp_right mem_ofString_nat

theorem ofString_int_ne_nil (value : Int) : Str.ofString (toString value) ≠ [] := by
  cases value with
  | ofNat n =>
    rw [Str.ofString, Ne, List.map_eq_nil_iff]
    show (toString n).toList ≠ []
    rw [Nat.toString_eq_ofList_toDigits, String.toList_ofList]
    exact Nat.toDigits_ne_nil
  | negSucc n =>
    rw [ofString_negSucc]
    exact List.cons_ne_nil _ _

theorem ofString_int_injective {value other : Int}
    (same : Str.ofString (toString value) = Str.ofString (toString other)) : value = other := by
  have unsigned : ∀ m n, Str.ofString (toString (Int.ofNat m)) ≠
      Str.ofString (toString (Int.negSucc n)) := by
    intro m n same
    have digits : (0x2D : CodePoint) ∈ Str.ofString (toString m) := by
      rw [ofString_negSucc] at same
      exact same ▸ List.mem_cons_self
    exact absurd (mem_ofString_nat digits) (by decide)
  cases value with
  | ofNat m =>
    cases other with
    | ofNat n => exact congrArg Int.ofNat (toString_injective (Str.ofString_injective same))
    | negSucc n => exact absurd same (unsigned m n)
  | negSucc m =>
    cases other with
    | ofNat n => exact absurd same.symm (unsigned n m)
    | negSucc n =>
      rw [ofString_negSucc, ofString_negSucc] at same
      have sizes := toString_injective (Str.ofString_injective (List.cons.inj same).2)
      exact congrArg Int.negSucc (Nat.succ.inj sizes)

/-- The first code point of a text tells the shape of its value. -/
theorem shapeOf_head (numerals : Numerals) {value : Json} (plain : value.floatless = true) :
    ∃ c rest, value.text numerals = c :: rest ∧ shapeOf c = value.shape := by
  cases value with
  | null => exact ⟨_, _, rfl, by decide⟩
  | bool value =>
    cases value with
    | true => exact ⟨_, _, rfl, by decide⟩
    | false => exact ⟨_, _, rfl, by decide⟩
  | int value =>
    rw [text]
    cases written : Str.ofString (toString value) with
    | nil => exact absurd written (ofString_int_ne_nil value)
    | cons c rest =>
      refine ⟨c, rest, rfl, ?_⟩
      have digit := mem_ofString_int (written ▸ List.mem_cons_self : c ∈ _)
      rw [shapeOf, if_neg, if_neg, if_neg, if_neg, if_neg, if_pos digit]
      · rfl
      all_goals
        rintro isMark
        revert digit
        rcases isMark with rfl | rfl <;> decide
  | float value => cases plain
  | str value => exact ⟨0x22, _, rfl, rfl⟩
  | list items => exact ⟨_, _, text_list numerals items, rfl⟩
  | dict entries => exact ⟨_, _, text_dict numerals entries, rfl⟩

variable {numerals : Numerals}

theorem shape_eq {value other : Json} (plain : value.floatless = true)
    (otherPlain : other.floatless = true) {x y : Str}
    (same : value.text numerals ++ x = other.text numerals ++ y) : value.shape = other.shape := by
  obtain ⟨c, rest, isText, isShape⟩ := shapeOf_head numerals plain
  obtain ⟨d, others, isOther, otherShape⟩ := shapeOf_head numerals otherPlain
  rw [isText, isOther] at same
  rw [← isShape, ← otherShape, (List.cons.inj same).1]

/-- No value begins with the bracket that ends an array or an object. -/
theorem text_append_ne {value : Json} (plain : value.floatless = true) {close : CodePoint}
    (closes : close = 0x5D ∨ close = 0x7D) (x y : Str) :
    value.text numerals ++ x ≠ close :: y := by
  obtain ⟨c, rest, isText, isShape⟩ := shapeOf_head numerals plain
  rw [isText]
  intro same
  obtain ⟨rfl, -⟩ := List.cons.inj same
  rcases closes with rfl | rfl
  · cases value <;> cases isShape
  · cases value <;> cases isShape

/-! ## Values are told by their texts -/

theorem told_int (value : Int) {other : Json} (plain : other.floatless = true) :
    Told (text numerals) sorted (int value) other := by
  intro x y stopsX stopsY same
  have shapes := shape_eq rfl plain same
  cases other with
  | int other =>
    have digits : ∀ number : Int, ∀ c ∈ Str.ofString (toString number),
        ¬ (c = 0x2C ∨ c = 0x5D ∨ c = 0x7D) := by
      rintro number c listed (rfl | rfl | rfl)
      all_goals exact absurd (mem_ofString_int listed) (by decide)
    rw [text, text] at same
    obtain ⟨texts, rest⟩ := JsonText.append_inj_of_unmarked (digits value) (digits other) stopsX
      stopsY same
    exact ⟨by rw [ofString_int_injective texts], rest⟩
  | float => cases plain
  | _ => cases shapes

theorem told_str (value : Str) {other : Json} (plain : other.floatless = true) :
    Told (text numerals) sorted (str value) other := by
  intro x y stopsX stopsY same
  have shapes := shape_eq rfl plain same
  cases other with
  | str other =>
    obtain ⟨rfl, rest⟩ := quoteStr_append_inj same
    exact ⟨rfl, rest⟩
  | _ => cases shapes

theorem told_bool (value : Bool) {other : Json} (plain : other.floatless = true) :
    Told (text numerals) sorted (bool value) other := by
  intro x y stopsX stopsY same
  have shapes := shape_eq rfl plain same
  cases other with
  | bool other =>
    cases value <;> cases other
    · exact ⟨rfl, List.append_cancel_left same⟩
    · exact absurd (List.cons.inj same).1 (by decide)
    · exact absurd (List.cons.inj same).1 (by decide)
    · exact ⟨rfl, List.append_cancel_left same⟩
  | _ => cases shapes

theorem told_null {other : Json} (plain : other.floatless = true) :
    Told (text numerals) sorted null other := by
  intro x y stopsX stopsY same
  have shapes := shape_eq rfl plain same
  cases other with
  | null => exact ⟨rfl, List.append_cancel_left same⟩
  | _ => cases shapes

theorem told_list {items : List Json} (itemsPlain : (list items).floatless = true)
    (told : ∀ item ∈ items, ∀ {other}, other.floatless = true →
      Told (text numerals) sorted item other)
    {other : Json} (plain : other.floatless = true) :
    Told (text numerals) sorted (list items) other := by
  intro x y stopsX stopsY same
  have shapes := shape_eq itemsPlain plain same
  cases other with
  | list others =>
    have each := itemsFloatless_iff.mp itemsPlain
    have eachOther := itemsFloatless_iff.mp plain
    rw [text_list, text_list, List.cons_append, List.cons_append, List.append_assoc,
      List.append_assoc] at same
    obtain ⟨values, rest⟩ := joinCommas_told (.inl rfl)
      (fun item isItem => text_append_ne
        ((List.mem_append.mp isItem).elim (each item) (eachOther item)) (.inl rfl))
      (fun a isItem b isOther => told a isItem (eachOther b isOther)) (List.cons.inj same).2
    exact ⟨by rw [sorted_list, sorted_list, values], rest⟩
  | _ => cases shapes

theorem told_dict {entries : List (Str × Json)} (entriesPlain : (dict entries).floatless = true)
    (told : ∀ entry ∈ entries, ∀ {other}, other.floatless = true →
      Told (text numerals) sorted entry.2 other)
    {other : Json} (plain : other.floatless = true) :
    Told (text numerals) sorted (dict entries) other := by
  intro x y stopsX stopsY same
  have shapes := shape_eq entriesPlain plain same
  cases other with
  | dict others =>
    have eachOther := entriesFloatless_iff.mp plain
    rw [text_dict, text_dict, List.cons_append, List.cons_append, List.append_assoc,
      List.append_assoc] at same
    have quoted : ∀ (entry : Str × Json) rest rest',
        entryText numerals entry ++ rest ≠ 0x7D :: rest' := by
      intro entry rest rest' same
      exact absurd (List.cons.inj same).1 (by decide)
    have entriesTold : ∀ a ∈ sortedByKey Prod.fst entries, ∀ b ∈ sortedByKey Prod.fst others,
        Told (entryText numerals) (fun entry => (entry.1, entry.2.sorted)) a b := by
      intro a isEntry b isOther u v stopsU stopsV written
      rw [mem_sortedByKey] at isEntry isOther
      simp only [entryText, List.append_assoc] at written
      obtain ⟨keys, values⟩ := quoteStr_append_inj written
      obtain ⟨isSame, ends⟩ := told a isEntry (eachOther b isOther) stopsU stopsV
        (List.append_cancel_left values)
      exact ⟨Prod.ext keys isSame, ends⟩
    obtain ⟨values, rest⟩ := joinCommas_told (.inr rfl) (fun entry _ => quoted entry) entriesTold
      (List.cons.inj same).2
    exact ⟨by rw [sorted_dict, sorted_dict, values], rest⟩
  | _ => cases shapes

mutual

theorem told : (value : Json) → value.floatless = true → ∀ {other : Json},
    other.floatless = true → Told (text numerals) sorted value other
  | null, _, _, plain => told_null plain
  | bool value, _, _, plain => told_bool value plain
  | int value, _, _, plain => told_int value plain
  | str value, _, _, plain => told_str value plain
  | list items, itemsPlain, _, plain => told_list itemsPlain (told_items items itemsPlain) plain
  | dict entries, entriesPlain, _, plain =>
    told_dict entriesPlain (told_entries entries entriesPlain) plain

theorem told_items : (items : List Json) → itemsFloatless items = true → ∀ item ∈ items,
    ∀ {other : Json}, other.floatless = true → Told (text numerals) sorted item other
  | [], _ => nofun
  | item :: rest, plain => by
    rw [itemsFloatless, Bool.and_eq_true] at plain
    exact List.forall_mem_cons.mpr ⟨told item plain.1, told_items rest plain.2⟩

theorem told_entries : (entries : List (Str × Json)) → entriesFloatless entries = true →
    ∀ entry ∈ entries, ∀ {other : Json}, other.floatless = true →
      Told (text numerals) sorted entry.2 other
  | [], _ => nofun
  | (key, value) :: rest, plain => by
    rw [entriesFloatless, Bool.and_eq_true] at plain
    exact List.forall_mem_cons.mpr ⟨told value plain.1, told_entries rest plain.2⟩

end

/-- Values without floats that have one text are one value, up to the order of entries. -/
theorem sorted_of_text {value other : Json} (plain : value.floatless = true)
    (otherPlain : other.floatless = true) (same : value.text numerals = other.text numerals) :
    value.sorted = other.sorted :=
  (told value plain otherPlain stops_nil stops_nil (congrArg (· ++ []) same)).1

/-! ## Objects with the keys of a record -/

/-- An object with these fields. -/
def object (fields : List (String × Json)) : Json :=
  dict (fields.map fun field => (Str.ofString field.1, field.2))

/-- A text of a record. -/
def ofString (s : String) : Json := str (Str.ofString s)

/-- Objects with the same distinct keys are told apart by their values. -/
theorem values_of_sorted {fields others : List (String × Json)}
    (same : (object fields).sorted = (object others).sorted)
    (names : fields.map Prod.fst = others.map Prod.fst) (distinct : (fields.map Prod.fst).Nodup) :
    fields.map (·.2.sorted) = others.map (·.2.sorted) := by
  rw [object, object, sorted_dict, sorted_dict] at same
  have perm := ((sortedByKey_perm Prod.fst _).map _).symm.trans
    ((List.Perm.of_eq (dict.inj same)).trans ((sortedByKey_perm Prod.fst _).map _))
  rw [List.map_map, List.map_map] at perm
  have keys : ∀ fields : List (String × Json),
      (fields.map fun field => (Str.ofString field.1, field.2.sorted)).map Prod.fst =
        (fields.map Prod.fst).map Str.ofString := by
    intro fields
    rw [List.map_map, List.map_map]
    rfl
  have entries := eq_of_perm_of_keys perm ((keys fields).trans (names ▸ (keys others).symm))
    ((keys fields).symm ▸ distinct.map Str.ofString_injective)
  simpa [List.map_map, Function.comp_def] using congrArg (List.map Prod.snd) entries

theorem floatless_object (fields : List (String × Json)) :
    (object fields).floatless = fields.all fun field => field.2.floatless := by
  rw [object, floatless]
  induction fields with
  | nil => rfl
  | cons field rest ih => rw [List.map_cons, entriesFloatless, ih, List.all_cons]

theorem isUnicode_object (fields : List (String × Json)) :
    (object fields).isUnicode = fields.all fun field => field.2.isUnicode := by
  rw [object, isUnicode]
  induction fields with
  | nil => rfl
  | cons field rest ih =>
    rw [List.map_cons, entriesUnicode, ih, List.all_cons, Str.isUnicode_ofString, Bool.true_and]

theorem itemsUnicode_iff {items : List Json} :
    itemsUnicode items = true ↔ ∀ item ∈ items, item.isUnicode = true := by
  induction items with
  | nil => simp [itemsUnicode]
  | cons item rest ih => simp [itemsUnicode, ih]

theorem integersWritten_object (fields : List (String × Json)) :
    (object fields).integersWritten = fields.all fun field => field.2.integersWritten := by
  rw [object, integersWritten]
  induction fields with
  | nil => rfl
  | cons field rest ih => rw [List.map_cons, entriesWritten, ih, List.all_cons]

theorem itemsWritten_iff {items : List Json} :
    itemsWritten items = true ↔ ∀ item ∈ items, item.integersWritten = true := by
  induction items with
  | nil => simp [itemsWritten]
  | cons item rest ih => simp [itemsWritten, ih]

theorem shape_sorted (value : Json) : value.sorted.shape = value.shape := by
  cases value <;> rfl

/-! ## Records and their dumps -/

/-- A dump of records: it has no float and no surrogate, and tells records apart. -/
structure Dumps {α : Type} (dump : α → Json) : Prop where
  floatless : ∀ a, (dump a).floatless = true
  unicode : ∀ a, (dump a).isUnicode = true
  injective : ∀ {a b}, (dump a).sorted = (dump b).sorted → a = b

namespace Dumps

variable {α : Type} {dump : α → Json}

/-- Records are told apart by the texts of their dumps. -/
theorem text_injective (dumps : Dumps dump) (numerals : Numerals) :
    Function.Injective fun a => (dump a).text numerals :=
  fun a b same => dumps.injective (sorted_of_text (dumps.floatless a) (dumps.floatless b) same)

theorem ofString : Dumps Json.ofString where
  floatless _ := rfl
  unicode := Str.isUnicode_ofString
  injective same := Str.ofString_injective (str.inj same)

/-- An enumeration is dumped as the values of its members. -/
theorem ofValue {value : α → String} (distinct : Function.Injective value) :
    Dumps fun a => Json.ofString (value a) where
  floatless _ := rfl
  unicode a := Str.isUnicode_ofString (value a)
  injective same := distinct (ofString.injective same)

theorem ofNat : Dumps fun n : Nat => int n where
  floatless _ := rfl
  unicode _ := rfl
  injective same := Int.ofNat_inj.mp (int.inj same)

theorem list (dumps : Dumps dump) : Dumps fun items : List α => Json.list (items.map dump) where
  floatless items := by
    refine itemsFloatless_iff.mpr fun item isItem => ?_
    obtain ⟨a, -, rfl⟩ := List.mem_map.mp isItem
    exact dumps.floatless a
  unicode items := by
    refine itemsUnicode_iff.mpr fun item isItem => ?_
    obtain ⟨a, -, rfl⟩ := List.mem_map.mp isItem
    exact dumps.unicode a
  injective {items others} same := by
    rw [sorted_list, sorted_list, List.map_map, List.map_map] at same
    exact List.map_injective_iff.mpr (fun _ _ => dumps.injective) (list.inj same)

/-- What is absent is dumped as null. -/
theorem optional (dumps : Dumps dump) (present : ∀ a, (dump a).shape ≠ .null) :
    Dumps fun item : Option α => item.elim null dump where
  floatless item := by
    cases item with
    | none => rfl
    | some a => exact dumps.floatless a
  unicode item := by
    cases item with
    | none => rfl
    | some a => exact dumps.unicode a
  injective {item other} same := by
    have shapes := congrArg shape same
    rw [shape_sorted, shape_sorted] at shapes
    cases item with
    | none =>
      cases other with
      | none => rfl
      | some b => exact absurd shapes.symm (present b)
    | some a =>
      cases other with
      | none => exact absurd shapes (present a)
      | some b => exact congrArg some (dumps.injective same)

end Dumps

/-! ## Fields of a record -/

/-- The values of the fields of a record: none has a float or a surrogate, and they tell how two
records are alike. -/
structure Fields {α : Type} (values : α → List Json) (alike : α → α → Prop) : Prop where
  floatless : ∀ a, ∀ value ∈ values a, value.floatless = true
  unicode : ∀ a, ∀ value ∈ values a, value.isUnicode = true
  told : ∀ {a b}, (values a).map sorted = (values b).map sorted → alike a b

section

variable {α β : Type} {dump : β → Json} {values : α → List Json} {alike : α → α → Prop}

theorem Fields.nil : Fields (fun _ : α => []) fun _ _ => True where
  floatless _ := nofun
  unicode _ := nofun
  told _ := trivial

theorem Fields.cons {value : α → Json} {r : α → α → Prop}
    (floatless : ∀ a, (value a).floatless = true) (unicode : ∀ a, (value a).isUnicode = true)
    (told : ∀ {a b}, (value a).sorted = (value b).sorted → r a b) (rest : Fields values alike) :
    Fields (fun a => value a :: values a) fun a b => r a b ∧ alike a b where
  floatless a := List.forall_mem_cons.mpr ⟨floatless a, rest.floatless a⟩
  unicode a := List.forall_mem_cons.mpr ⟨unicode a, rest.unicode a⟩
  told same := (List.cons.inj same).imp told rest.told

theorem Dumps.field (dumps : Dumps dump) (get : α → β) (rest : Fields values alike) :
    Fields (fun a => dump (get a) :: values a) fun a b => get a = get b ∧ alike a b :=
  .cons (fun a => dumps.floatless (get a)) (fun a => dumps.unicode (get a)) dumps.injective rest

/-- A record is dumped as an object of its fields. -/
theorem Dumps.object {fields : α → List (String × Json)} (names : List String)
    (distinct : names.Nodup) (named : ∀ a, (fields a).map Prod.fst = names)
    (told : Fields (fun a => (fields a).map Prod.snd) alike)
    (determined : ∀ a b, alike a b → a = b) : Dumps fun a => Json.object (fields a) where
  floatless a := by
    rw [floatless_object, List.all_eq_true]
    exact fun field isField => told.floatless a _ (List.mem_map_of_mem isField)
  unicode a := by
    rw [isUnicode_object, List.all_eq_true]
    exact fun field isField => told.unicode a _ (List.mem_map_of_mem isField)
  injective {a b} same := by
    have values := values_of_sorted same ((named a).trans (named b).symm) (by rwa [named])
    refine determined a b (told.told ?_)
    rw [List.map_map, List.map_map]
    exact values

end

end Json

end StateGuard
