import Mathlib.Data.String.Basic

/-!
# Text

The methods of Python's `str` that need no table of characters, and the digits of a number.
-/

namespace Python

/-- `str.startswith`. -/
def startsWith (head text : String) : Bool := head.toList.isPrefixOf text.toList

/-- `str.endswith`. -/
def endsWith (tail text : String) : Bool := tail.toList.isSuffixOf text.toList

/-- `str.removeprefix`. -/
def removePrefix (head text : String) : String :=
  if head.toList.isPrefixOf text.toList then
    String.ofList (text.toList.drop head.toList.length)
  else text

/-- `str.partition(separator)[0]`: the text before the first separator. -/
def beforeFirst (separator : Char) (text : String) : String :=
  String.ofList (text.toList.takeWhile (· ≠ separator))

/-- `str.rpartition(separator)[2]`: the text after the last separator. -/
def afterLast (separator : Char) (text : String) : String :=
  String.ofList (text.toList.reverse.takeWhile (· ≠ separator)).reverse

/-- The decimal digits of a number say which number it is. -/
theorem toString_injective {m n : Nat} (same : toString m = toString n) : m = n := by
  have digits : Nat.toDigits 10 m = Nat.toDigits 10 n := by
    have texts : Nat.repr m = Nat.repr n := same
    rw [Nat.repr_eq_ofList_toDigits, Nat.repr_eq_ofList_toDigits] at texts
    simpa using congrArg String.toList texts
  have value := Nat.ofDigitChars_ten_toDigits (n := m)
  rw [digits, Nat.ofDigitChars_ten_toDigits] at value
  exact value.symm

/-- The decimal digits of a number are digits. -/
theorem notMem_toString {c : Char} (notDigit : c.isDigit = false) (n : Nat) :
    c ∉ (toString n).toList := by
  have digits : (toString n).toList = Nat.toDigits 10 n := by
    have repr : toString n = Nat.repr n := rfl
    rw [repr, Nat.repr_eq_ofList_toDigits, String.toList_ofList]
  rw [digits]
  intro listed
  rw [Nat.isDigit_of_mem_toDigits (by decide) (by decide) listed] at notDigit
  cases notDigit

end Python
