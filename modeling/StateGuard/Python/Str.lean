import Mathlib.Data.List.DropRight
import Mathlib.Data.List.TakeWhile
import Mathlib.Tactic.NormNum

/-!
# Text with surrogates

Python's `str` is a sequence of code points, and a lone surrogate is one of them.  A `str` that
comes from outside (`json.loads` makes one of the escape of a surrogate) need not be Unicode text,
and `encode` raises on it.  Lean's `String` holds scalar values only, so text from outside is a
`Str` here.
-/

namespace Python

/-- A code point, surrogates included. -/
abbrev CodePoint := Fin 0x110000

instance CodePoint.instNeZero : NeZero 0x110000 := ⟨by decide⟩

/-- Python's `str`. -/
abbrev Str := List CodePoint

instance : LawfulBEq Str := inferInstance

namespace CodePoint

/-- A code point that UTF-8 cannot encode. -/
def isSurrogate (c : CodePoint) : Bool := decide (0xD800 ≤ c.val ∧ c.val ≤ 0xDFFF)

/-- The bytes that encode a code point. -/
def utf8Size (c : CodePoint) : Nat :=
  if c.val < 0x80 then 1 else if c.val < 0x800 then 2 else if c.val < 0x10000 then 3 else 4

/-- `str.isspace` of one code point. -/
def isSpace (c : CodePoint) : Bool :=
  decide (0x09 ≤ c.val ∧ c.val ≤ 0x0D) || decide (0x1C ≤ c.val ∧ c.val ≤ 0x20) ||
    decide (0x2000 ≤ c.val ∧ c.val ≤ 0x200A) ||
    [0x85, 0xA0, 0x1680, 0x2028, 0x2029, 0x202F, 0x205F, 0x3000].contains c.val

def ofChar (c : Char) : CodePoint :=
  ⟨c.toNat, by
    have valid := c.valid
    unfold UInt32.isValidChar Nat.isValidChar at valid
    show c.val.toNat < _
    omega⟩

theorem isSurrogate_ofChar (c : Char) : (ofChar c).isSurrogate = false := by
  have valid := c.valid
  unfold UInt32.isValidChar Nat.isValidChar at valid
  have value : (ofChar c).val = c.val.toNat := rfl
  simp only [isSurrogate, value, decide_eq_false_iff_not]
  omega

theorem ofNat_ofChar (c : Char) : Char.ofNat (ofChar c).val = c := Char.ofNat_toNat c

end CodePoint

namespace Str

/-- The text of a literal of the source. -/
def ofString (s : String) : Str := s.toList.map CodePoint.ofChar

/-- The characters of a string, back from its code points. -/
theorem map_ofNat_ofString (s : String) :
    (ofString s).map (fun c => Char.ofNat c.val) = s.toList := by
  rw [ofString, List.map_map]
  exact (List.map_congr_left fun c _ => CodePoint.ofNat_ofChar c).trans (List.map_id' _)

theorem ofString_injective : Function.Injective ofString := by
  intro s s' same
  have chars := congrArg (List.map fun c : CodePoint => Char.ofNat c.val) same
  rw [map_ofNat_ofString, map_ofNat_ofString] at chars
  exact String.toList_inj.mp chars

/-- A text without a lone surrogate. -/
def isUnicode (s : Str) : Bool := s.all fun c => !c.isSurrogate

@[simp]
theorem isUnicode_nil : isUnicode [] = true := rfl

@[simp]
theorem isUnicode_append (a b : Str) : isUnicode (a ++ b) = (isUnicode a && isUnicode b) :=
  List.all_append

@[simp]
theorem isUnicode_cons (c : CodePoint) (s : Str) :
    isUnicode (c :: s) = (!c.isSurrogate && isUnicode s) :=
  List.all_cons

@[simp]
theorem isUnicode_ofString (s : String) : isUnicode (ofString s) = true := by
  simp [isUnicode, ofString, CodePoint.isSurrogate_ofChar]

theorem isUnicode_of_sublist {a b : Str} (within : a.Sublist b) (unicode : b.isUnicode = true) :
    a.isUnicode = true := by
  rw [isUnicode, List.all_eq_true] at unicode ⊢
  exact fun c membership => unicode c (within.subset membership)

/-- The bytes of `s.encode("utf-8")`, of a text that encodes. -/
def utf8Length (s : Str) : Nat := (s.map CodePoint.utf8Size).sum

/-- `str.strip`. -/
def strip (s : Str) : Str := (s.dropWhile CodePoint.isSpace).rdropWhile CodePoint.isSpace

theorem strip_sublist (s : Str) : (strip s).Sublist s :=
  (List.rdropWhile_prefix _ _).sublist.trans (List.dropWhile_sublist _)

theorem length_strip_le (s : Str) : (strip s).length ≤ s.length := (strip_sublist s).length_le

/-- Stripping a stripped text changes nothing. -/
@[simp]
theorem strip_strip (s : Str) : strip (strip s) = strip s := by
  have front : (strip s).dropWhile CodePoint.isSpace = strip s := by
    refine List.dropWhile_eq_self_iff.mpr ?_
    intro nonempty
    set inner := s.dropWhile CodePoint.isSpace with isInner
    obtain ⟨dropped, split⟩ := List.rdropWhile_prefix CodePoint.isSpace (l := inner)
    have whole : inner = strip s ++ dropped := split.symm
    have first : inner.head? = some ((strip s)[0]) := by
      rw [whole, List.head?_append, List.head?_eq_getElem?, List.getElem?_eq_getElem nonempty]
      rfl
    have atHead := List.head?_dropWhile_not CodePoint.isSpace s
    rw [← isInner, first] at atHead
    simpa using atHead
  rw [strip, front, strip, List.rdropWhile_idempotent]

end Str

end Python
