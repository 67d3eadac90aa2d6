import StateGuard.Python.Str

/-!
# Shell patterns

`fnmatchcase` of the module `fnmatch`.  A star matches any text, a question mark any character, and
brackets a character that is in a set (`[seq]`) or is not (`[!seq]`); a set is given by characters
and ranges.  A bracket without its closing one stands for itself.
-/

namespace Python

namespace Fnmatch

/-- What a part of a pattern matches. -/
inductive Wildcard where
  | star
  | question
  | set (negated : Bool) (ranges : List (CodePoint × CodePoint))
  | literal (c : CodePoint)

/-- Does a part that is no star match a character? -/
def Wildcard.accepts : Wildcard → CodePoint → Bool
  | .star, _ => false
  | .question, _ => true
  | .set negated ranges, c => negated != ranges.any fun (low, high) => low ≤ c && c ≤ high
  | .literal c', c => c = c'

/-- The ranges of the text between brackets; those that are the wrong way round are empty. -/
def rangesOf : Str → List (CodePoint × CodePoint)
  | [] => []
  | [c] => [(c, c)]
  | [c, c'] => [(c, c), (c', c')]
  | low :: dash :: high :: rest =>
    if dash = .ofChar '-' then (low, high) :: rangesOf rest
    else (low, low) :: rangesOf (dash :: high :: rest)

/-- The set behind an opening bracket, and what follows it. -/
def splitSet (text : Str) : Option (Wildcard × Str) :=
  let negated := text.head? = some (.ofChar '!')
  let body := if negated then text.tail else text
  -- A closing bracket that comes first is a member.
  let size := if body.head? = some (.ofChar ']') then 1 else 0
  let members := (body.drop size).takeWhile (· ≠ .ofChar ']')
  match (body.drop size).dropWhile (· ≠ .ofChar ']') with
  | [] => none
  | _ :: rest => some (.set negated (rangesOf (body.take size ++ members)), rest)

/-- The parts of a pattern.  Each takes a character at least, so the length bounds their number. -/
def partsWithin : Nat → Str → List Wildcard
  | 0, _ | _, [] => []
  | bound + 1, c :: rest =>
    if c = .ofChar '*' then .star :: partsWithin bound rest
    else if c = .ofChar '?' then .question :: partsWithin bound rest
    else if c = .ofChar '[' then
      match splitSet rest with
      | some (set, rest) => set :: partsWithin bound rest
      | none => .literal c :: partsWithin bound rest
    else .literal c :: partsWithin bound rest

def translate (pat : Str) : List Wildcard := partsWithin pat.length pat

/-- Do the parts of a pattern match a text? -/
def matchParts : List Wildcard → Str → Bool
  | [], name => name.isEmpty
  | .star :: rest, name => name.tails.any (matchParts rest)
  | _ :: _, [] => false
  | part :: rest, c :: name => part.accepts c && matchParts rest name

end Fnmatch

open Fnmatch

/-- `fnmatch.fnmatchcase`. -/
def fnmatchcase (name pat : Str) : Bool := matchParts (translate pat) name

example : fnmatchcase (.ofString "b]7.py") (.ofString "[!a-]*[]x][4-8]?[p][!c-a]") = true := by
  decide

end Python
