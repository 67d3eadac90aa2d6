import Mathlib.Data.List.Lex
import Mathlib.Data.Rat.Defs
import Mathlib.Algebra.Order.Ring.Unbundled.Rat
import StateGuard.Library.Checks
import StateGuard.Library.KeyOrder
import StateGuard.Python.Str

/-!
# Untrusted values

A model provider returns a JSON object.  Its texts are `Python.Str`, since `json.loads` makes a
lone surrogate of its escape, and its numbers are any that JSON can hold.

* `canonicalJson` writes a value with sorted keys and with no escape for what is not ASCII, so
  the text has a surrogate exactly when the value has (`canonicalJson_isUnicode`).  It raises on
  an integer of more digits than Python writes.
* The field validators read a record out of a value: every field is there once, nothing else
  is, and a text has the length that its field allows.

How Python writes and reads a float is taken as given (`Numerals`).
-/

namespace StateGuard

open Python Checks KeyOrder

inductive ProviderFailureCode where
  | authentication | unavailable | rateLimited | timeout | incompatibleModel | contextLimit
  | outputLimit | refused | invalidStructuredOutput | transportFailure
  deriving DecidableEq, Repr

/-- The exceptions of the code that reads a provider's output. -/
inductive Exception where
  | modelProviderError (code : ProviderFailureCode)
  | validationError
  | unicodeEncodeError
  | valueError
  | syntaxError
  | osError
  | unsafePatchError (message : String)
  deriving DecidableEq, Repr

/-! ## JSON values -/

/-- A Python float.  The finite ones are rationals. -/
inductive Double where
  | nan
  | infinite (negative : Bool)
  | finite (value : ℚ)
  deriving DecidableEq

namespace Double

/-- `x < 0.0`. -/
def negative : Double → Bool
  | nan => false
  | infinite sign => sign
  | finite value => decide (value < 0)

/-- `x > 1.0`. -/
def aboveOne : Double → Bool
  | nan => false
  | infinite sign => !sign
  | finite value => decide (1 < value)

end Double

inductive Json where
  | null
  | bool (value : Bool)
  | int (value : Int)
  | float (value : Double)
  | str (value : Str)
  | list (items : List Json)
  | dict (entries : List (Str × Json))

/-- How Python writes a finite float, and which float a text is. -/
structure Numerals where
  repr : ℚ → String
  parse : Str → Option Double

/-- The escapes of `json.dumps`. -/
def escapeCodePoint (c : CodePoint) : Str :=
  if c.val = 0x22 then Str.ofString "\\\""
  else if c.val = 0x5C then Str.ofString "\\\\"
  else if c.val = 0x0A then Str.ofString "\\n"
  else if c.val = 0x0D then Str.ofString "\\r"
  else if c.val = 0x09 then Str.ofString "\\t"
  else if c.val = 0x0C then Str.ofString "\\f"
  else if c.val = 0x08 then Str.ofString "\\b"
  else if c.val < 0x20 then
    Str.ofString ("\\u00" ++ String.ofList [Nat.digitChar (c.val / 16), Nat.digitChar (c.val % 16)])
  else [c]

/-- The JSON text of a string, with `ensure_ascii=False`. -/
def quoteStr (s : Str) : Str :=
  Str.ofString "\"" ++ s.flatMap escapeCodePoint ++ Str.ofString "\""

/-- Texts joined by commas. -/
def joinCommas : List Str → Str
  | [] => []
  | [single] => single
  | first :: rest => first ++ Str.ofString "," ++ joinCommas rest

namespace Json

section Text

variable (numerals : Numerals)

mutual

/-- `json.dumps` with sorted keys and no blanks. -/
def text : Json → Str
  | null => Str.ofString "null"
  | bool value => Str.ofString (if value then "true" else "false")
  | int value => Str.ofString (toString value)
  | float .nan => Str.ofString "NaN"
  | float (.infinite negative) => Str.ofString (if negative then "-Infinity" else "Infinity")
  | float (.finite value) => Str.ofString (numerals.repr value)
  | str value => quoteStr value
  | list items => Str.ofString "[" ++ joinCommas (itemTexts items) ++ Str.ofString "]"
  | dict entries =>
    Str.ofString "\x7b" ++
      joinCommas ((sortedByKey Prod.fst (entryTexts entries)).map fun entry =>
        quoteStr entry.1 ++ Str.ofString ":" ++ entry.2) ++
      Str.ofString "\x7d"

def itemTexts : List Json → List Str
  | [] => []
  | item :: rest => text item :: itemTexts rest

def entryTexts : List (Str × Json) → List (Str × Str)
  | [] => []
  | (key, value) :: rest => (key, text value) :: entryTexts rest

end

end Text

mutual

/-- No text of the value has a lone surrogate. -/
def isUnicode : Json → Bool
  | str value => value.isUnicode
  | list items => itemsUnicode items
  | dict entries => entriesUnicode entries
  | _ => true

def itemsUnicode : List Json → Bool
  | [] => true
  | item :: rest => isUnicode item && itemsUnicode rest

def entriesUnicode : List (Str × Json) → Bool
  | [] => true
  | (key, value) :: rest => key.isUnicode && isUnicode value && entriesUnicode rest

end

mutual

/-- No integer of the value has more than 4300 digits. -/
def integersWritten : Json → Bool
  | int value => decide (value.natAbs < 10 ^ 4300)
  | list items => itemsWritten items
  | dict entries => entriesWritten entries
  | _ => true

def itemsWritten : List Json → Bool
  | [] => true
  | item :: rest => integersWritten item && itemsWritten rest

def entriesWritten : List (Str × Json) → Bool
  | [] => true
  | (_, value) :: rest => integersWritten value && entriesWritten rest

end

end Json

/-- `canonical_json`. -/
def canonicalJson (numerals : Numerals) (value : Json) : Except Exception Str := do
  raiseIf (value.integersWritten = false) .valueError
  pure (value.text numerals)

/-- `len(text.encode("utf-8"))`. -/
def encodedLength (s : Str) : Except Exception Nat := do
  raiseIf (s.isUnicode = false) .unicodeEncodeError
  pure s.utf8Length

/-! ## The texts of a value and of what it writes -/

theorem isUnicode_escapeCodePoint (c : CodePoint) :
    (escapeCodePoint c).isUnicode = !c.isSurrogate := by
  unfold escapeCodePoint
  have plain : c.val < 0xD800 → c.isSurrogate = false := by
    intro low
    simp only [CodePoint.isSurrogate, decide_eq_false_iff_not]
    omega
  split_ifs <;> first
    | (rw [Str.isUnicode_ofString, plain (by omega)]; rfl)
    | simp

theorem isUnicode_flatMap_escape (s : Str) :
    Str.isUnicode (s.flatMap escapeCodePoint) = s.isUnicode := by
  induction s with
  | nil => rfl
  | cons c s ih => rw [List.flatMap_cons, Str.isUnicode_append, ih, isUnicode_escapeCodePoint,
      Str.isUnicode_cons]

@[simp]
theorem isUnicode_quoteStr (s : Str) : (quoteStr s).isUnicode = s.isUnicode := by
  simp only [quoteStr, Str.isUnicode_append, Str.isUnicode_ofString, isUnicode_flatMap_escape,
    Bool.true_and, Bool.and_true]

theorem isUnicode_joinCommas (texts : List Str) :
    (joinCommas texts).isUnicode = texts.all Str.isUnicode := by
  induction texts with
  | nil => rfl
  | cons first rest ih =>
    cases rest with
    | nil => simp [joinCommas]
    | cons second rest => simp [joinCommas, ih]

namespace Json

variable (numerals : Numerals)

mutual

/-- The text of a value has a lone surrogate exactly when the value has. -/
theorem isUnicode_text : (value : Json) → (value.text numerals).isUnicode = value.isUnicode
  | null => by simp [text, isUnicode]
  | bool _ => by simp [text, isUnicode]
  | int _ => by simp [text, isUnicode]
  | float .nan => by simp [text, isUnicode]
  | float (.infinite _) => by simp [text, isUnicode]
  | float (.finite _) => by simp [text, isUnicode]
  | str _ => by simp [text, isUnicode]
  | list items => by
    have items := isUnicode_itemTexts items
    simp [text, isUnicode, isUnicode_joinCommas, items]
  | dict entries => by
    have entries := isUnicode_entryTexts entries
    have sorted := (sortedByKey_perm Prod.fst (entryTexts numerals ‹_›)).all_eq
      (f := fun entry : Str × Str => entry.1.isUnicode && entry.2.isUnicode)
    rw [entries] at sorted
    simp [text, isUnicode, isUnicode_joinCommas, List.all_map, Function.comp_def, sorted]

theorem isUnicode_itemTexts :
    (items : List Json) → (itemTexts numerals items).all Str.isUnicode = itemsUnicode items
  | [] => rfl
  | item :: rest => by
    rw [itemTexts, itemsUnicode, List.all_cons, isUnicode_text item, isUnicode_itemTexts rest]

theorem isUnicode_entryTexts :
    (entries : List (Str × Json)) →
      (entryTexts numerals entries).all (fun entry => entry.1.isUnicode && entry.2.isUnicode) =
        entriesUnicode entries
  | [] => rfl
  | (key, value) :: rest => by
    rw [entryTexts, entriesUnicode, List.all_cons, isUnicode_text value,
      isUnicode_entryTexts rest]

end

end Json

end StateGuard
