import Mathlib.Data.String.Basic
import StateGuard.Library.Extent
import StateGuard.Python.Syntax

/-!
# Decisions on one value

What the tests of a program say about one value it reads.  A predicate `reads` marks the
expressions that read the value; everything else an expression is made of may have any value.
`Evaluates` is the truth value an expression may have when the value read is `v`, with the
short-circuit rules of `and` and `or`; `Matches` says whether a pattern takes `v`, and
`Decides` when an arm of an `if` or a `match` statement is entered.

`valuesOf` and `armValues` compute, for an outcome or an arm, the set of values that allow it
(`mem_valuesOf`, `mem_armValues`).  The sets are finite or cofinite.
-/

namespace Python

/-- A value as far as a test tells it apart: a string, or something else that is true or
false. -/
inductive Value where
  | text (value : String)
  | nonText (truth : Bool)
  deriving DecidableEq, Repr

instance : Infinite Value := Infinite.of_injective Value.text fun _ _ => Value.text.inj

/-- The truth value of a value. -/
def Value.truth : Value → Bool
  | .text value => decide (value ≠ "")
  | .nonText truth => truth

/-- The values with a truth value. -/
def truthValues (b : Bool) : Extent Value :=
  if b then .allBut [.text "", .nonText false] else .only [.text "", .nonText false]

theorem mem_truthValues {v : Value} {b : Bool} : v ∈ truthValues b ↔ v.truth = b := by
  cases v with
  | text value => cases b <;> simp [truthValues, Value.truth]
  | nonText truth => cases b <;> cases truth <;> simp [truthValues, Value.truth]

/-- The truth value of a constant, where its spelling shows it. -/
def Constant.truth? : Constant → Option Bool
  | .text value => some (decide (value ≠ ""))
  | .none => some false
  | .bool value => some value
  | .int value => some (decide (value ≠ 0))
  | .ellipsis => some true
  | .other _ => Option.none

section

variable (reads : Expr → Bool)

/-! ## Comparisons -/

/-- An operand of a comparison. -/
inductive Operand where
  /-- The value that is followed. -/
  | followed
  | literal (value : String)
  /-- A constant that is no string. -/
  | nonText
  | unknown
  deriving DecidableEq, Repr

/-- What an expression is as an operand; a named expression has the value it names. -/
def operand : Expr → Operand
  | .namedExpr info target value =>
    if reads (.namedExpr info target value) then .followed else operand value
  | .constant info value =>
    if reads (.constant info value) then .followed else
      match value with
      | .text value => .literal value
      | _ => .nonText
  | e => if reads e then .followed else .unknown

/-- The outcomes `left == right` may have: strings are equal to equal strings only, and to
nothing that is no string. -/
def Equals (v : Value) : Operand → Operand → Bool → Prop
  | .followed, .literal value, b | .literal value, .followed, b => b = decide (v = .text value)
  | .followed, .nonText, b | .nonText, .followed, b => b = true → ∃ truth, v = .nonText truth
  | .literal left, .literal right, b => b = decide (left = right)
  | .literal _, .nonText, b | .nonText, .literal _, b => b = false
  | _, _, _ => True

/-- The values under which `left == right` may have an outcome. -/
def equalValues : Operand → Operand → Bool → Extent Value
  | .followed, .literal value, b | .literal value, .followed, b =>
    if b then .only [.text value] else .allBut [.text value]
  | .followed, .nonText, b | .nonText, .followed, b =>
    if b then .only [.nonText true, .nonText false] else .all
  | .literal left, .literal right, b => .whether (b = decide (left = right))
  | .literal _, .nonText, b | .nonText, .literal _, b => .whether (b = false)
  | _, _, _ => .all

theorem mem_equalValues {v : Value} {left right : Operand} {b : Bool} :
    v ∈ equalValues left right b ↔ Equals v left right b := by
  cases left <;> cases right <;> cases b <;> cases v <;>
    simp [equalValues, Equals, eq_comm]

/-- The members a container expression shows. -/
def shownMembers : Expr → Option (List Expr)
  | .display _ _ elts => some elts
  | .dict _ items => items.mapM DictItem.key?
  | _ => none

/-- The outcomes `left in container` may have. -/
def Contains (v : Value) (left container : Expr) (b : Bool) : Prop :=
  match shownMembers container with
  | some elts =>
    if b then ∃ e ∈ elts, Equals v (operand reads left) (operand reads e) true
    else ∀ e ∈ elts, Equals v (operand reads left) (operand reads e) false
  | none => True

/-- The values under which `left in container` may have an outcome. -/
def containedValues (left container : Expr) (b : Bool) : Extent Value :=
  match shownMembers container with
  | some elts =>
    let sets := elts.map fun e => equalValues (operand reads left) (operand reads e) b
    if b then .unions sets else .inters sets
  | none => .all

theorem mem_containedValues {v : Value} {left container : Expr} {b : Bool} :
    v ∈ containedValues reads left container b ↔ Contains reads v left container b := by
  unfold containedValues Contains
  cases shownMembers container with
  | none => simp
  | some elts => cases b <;> simp [mem_equalValues]

/-- The outcomes one comparison may have. -/
def Compares (v : Value) (left : Expr) (op : CmpOp) (right : Expr) (b : Bool) : Prop :=
  match op with
  | .eq => Equals v (operand reads left) (operand reads right) b
  | .notEq => Equals v (operand reads left) (operand reads right) !b
  | .isIn => Contains reads v left right b
  | .notIn => Contains reads v left right !b
  | .other => True

/-- The values under which one comparison may have an outcome. -/
def comparedValues (left : Expr) (op : CmpOp) (right : Expr) (b : Bool) : Extent Value :=
  match op with
  | .eq => equalValues (operand reads left) (operand reads right) b
  | .notEq => equalValues (operand reads left) (operand reads right) !b
  | .isIn => containedValues reads left right b
  | .notIn => containedValues reads left right !b
  | .other => .all

theorem mem_comparedValues {v : Value} {left right : Expr} {op : CmpOp} {b : Bool} :
    v ∈ comparedValues reads left op right b ↔ Compares reads v left op right b := by
  cases op <;> simp [comparedValues, Compares, mem_equalValues, mem_containedValues]

/-- A chain of comparisons ends at the first that fails. -/
def Chained (v : Value) : Expr → List Comparison → Bool → Prop
  | _, [], b => b = true
  | left, .mk op right :: rest, b =>
    (b = false ∧ Compares reads v left op right false) ∨
      (Compares reads v left op right true ∧ Chained v right rest b)

/-- The values under which a chain of comparisons may have an outcome. -/
def chainedValues : Expr → List Comparison → Bool → Extent Value
  | _, [], b => .whether (b = true)
  | left, .mk op right :: rest, b =>
    ((Extent.whether (b = false)).inter (comparedValues reads left op right false)).union
      ((comparedValues reads left op right true).inter (chainedValues right rest b))

theorem mem_chainedValues {v : Value} {left : Expr} {comparisons : List Comparison} {b : Bool} :
    v ∈ chainedValues reads left comparisons b ↔ Chained reads v left comparisons b := by
  induction comparisons generalizing left with
  | nil => simp [chainedValues, Chained]
  | cons comparison rest ih =>
    cases comparison
    simp [chainedValues, Chained, ih, mem_comparedValues]

/-! ## Tests -/

/-- The outcome at which `and` and `or` stop. -/
def BoolOp.stop : BoolOp → Bool
  | .conj => false
  | .disj => true

mutual

/-- The truth values an expression may have. -/
def Evaluates (v : Value) : Expr → Bool → Prop
  | .constant info value, b =>
    if reads (.constant info value) then v.truth = b else ∀ truth ∈ value.truth?, b = truth
  | .boolOp info op values, b =>
    if reads (.boolOp info op values) then v.truth = b else EvaluatesUntil v op.stop values b
  | .unaryOp info .negation value, b =>
    if reads (.unaryOp info .negation value) then v.truth = b else Evaluates v value !b
  | .compare info left comparisons, b =>
    if reads (.compare info left comparisons) then v.truth = b
    else Chained reads v left comparisons b
  | .ifExp info test body orelse, b =>
    if reads (.ifExp info test body orelse) then v.truth = b
    else (Evaluates v test true ∧ Evaluates v body b) ∨
      (Evaluates v test false ∧ Evaluates v orelse b)
  | .namedExpr info target value, b =>
    if reads (.namedExpr info target value) then v.truth = b else Evaluates v value b
  | e, b => if reads e then v.truth = b else True

/-- The outcomes of operands evaluated up to the first with the outcome `stop`. -/
def EvaluatesUntil (v : Value) (stop : Bool) : List Expr → Bool → Prop
  | [], b => b = !stop
  | e :: rest, b =>
    (b = stop ∧ Evaluates v e stop) ∨ (Evaluates v e (!stop) ∧ EvaluatesUntil v stop rest b)

end

mutual

/-- The values under which an expression may have a truth value. -/
def valuesOf : Expr → Bool → Extent Value
  | .constant info value, b =>
    if reads (.constant info value) then truthValues b
    else .whether (∀ truth ∈ value.truth?, b = truth)
  | .boolOp info op values, b =>
    if reads (.boolOp info op values) then truthValues b else valuesUntil op.stop values b
  | .unaryOp info .negation value, b =>
    if reads (.unaryOp info .negation value) then truthValues b else valuesOf value !b
  | .compare info left comparisons, b =>
    if reads (.compare info left comparisons) then truthValues b
    else chainedValues reads left comparisons b
  | .ifExp info test body orelse, b =>
    if reads (.ifExp info test body orelse) then truthValues b
    else ((valuesOf test true).inter (valuesOf body b)).union
      ((valuesOf test false).inter (valuesOf orelse b))
  | .namedExpr info target value, b =>
    if reads (.namedExpr info target value) then truthValues b else valuesOf value b
  | e, b => if reads e then truthValues b else .all

/-- The values under which operands evaluated up to `stop` may have an outcome. -/
def valuesUntil (stop : Bool) : List Expr → Bool → Extent Value
  | [], b => .whether (b = !stop)
  | e :: rest, b =>
    ((Extent.whether (b = stop)).inter (valuesOf e stop)).union
      ((valuesOf e !stop).inter (valuesUntil stop rest b))

end

theorem mem_valuesIf {v : Value} {b read : Bool} {values : Extent Value} {outcome : Prop}
    (agree : v ∈ values ↔ outcome) :
    (v ∈ if read then truthValues b else values) ↔ if read then v.truth = b else outcome := by
  cases read with
  | true => exact mem_truthValues
  | false => exact agree

mutual

theorem mem_valuesOf (v : Value) (e : Expr) (b : Bool) :
    v ∈ valuesOf reads e b ↔ Evaluates reads v e b := by
  match e with
  | .constant _ value =>
    rw [valuesOf, Evaluates]
    exact mem_valuesIf Extent.mem_whether
  | .boolOp _ op values =>
    rw [valuesOf, Evaluates]
    exact mem_valuesIf (mem_valuesUntil v op.stop values b)
  | .unaryOp _ .negation value =>
    rw [valuesOf, Evaluates]
    exact mem_valuesIf (mem_valuesOf v value !b)
  | .compare _ left comparisons =>
    rw [valuesOf, Evaluates]
    exact mem_valuesIf (mem_chainedValues reads)
  | .ifExp _ test body orelse =>
    rw [valuesOf, Evaluates]
    refine mem_valuesIf ?_
    rw [Extent.mem_union, Extent.mem_inter, Extent.mem_inter, mem_valuesOf v test true,
      mem_valuesOf v test false, mem_valuesOf v body b, mem_valuesOf v orelse b]
  | .namedExpr _ _ value =>
    rw [valuesOf, Evaluates]
    exact mem_valuesIf (mem_valuesOf v value b)
  | .unaryOp _ .other _ | .name .. | .attribute .. | .subscript .. | .call .. | .await ..
  | .dict .. | .display .. | .other .. =>
    simp only [valuesOf, Evaluates]
    exact mem_valuesIf (iff_of_true Extent.mem_all trivial)

theorem mem_valuesUntil (v : Value) (stop : Bool) (es : List Expr) (b : Bool) :
    v ∈ valuesUntil reads stop es b ↔ EvaluatesUntil reads v stop es b := by
  match es with
  | [] =>
    rw [valuesUntil, EvaluatesUntil]
    exact Extent.mem_whether
  | e :: rest =>
    rw [valuesUntil, EvaluatesUntil, Extent.mem_union, Extent.mem_inter, Extent.mem_inter,
      Extent.mem_whether, mem_valuesOf v e stop, mem_valuesOf v e !stop,
      mem_valuesUntil v stop rest b]

end

/-! ## Patterns -/

mutual

/-- Whether a pattern may take, or may refuse, the value `v`.  Only strings equal a literal, and
no sequence, mapping or singleton pattern takes a string. -/
def Matches (v : Value) : Pattern → Bool → Prop
  | .matchValue _ value, b => Equals v .followed (operand reads value) b
  | .matchSingleton .., b => Equals v .followed .nonText b
  | .matchAny .., b => b = true
  | .matchAs _ pattern _, b => Matches v pattern b
  | .matchOr _ patterns, b => MatchesAny v patterns b
  | .matchItems .., b => Equals v .followed .nonText b
  | .other .., _ => True

/-- Alternatives are tried in order. -/
def MatchesAny (v : Value) : List Pattern → Bool → Prop
  | [], b => b = false
  | pattern :: rest, b =>
    (b = true ∧ Matches v pattern true) ∨ (Matches v pattern false ∧ MatchesAny v rest b)

end

mutual

/-- The values a pattern may take, or may refuse. -/
def patternValues : Pattern → Bool → Extent Value
  | .matchValue _ value, b => equalValues .followed (operand reads value) b
  | .matchSingleton .., b => equalValues .followed .nonText b
  | .matchAny .., b => .whether (b = true)
  | .matchAs _ pattern _, b => patternValues pattern b
  | .matchOr _ patterns, b => patternsValues patterns b
  | .matchItems .., b => equalValues .followed .nonText b
  | .other .., _ => .all

/-- The values one of several patterns may take, or all may refuse. -/
def patternsValues : List Pattern → Bool → Extent Value
  | [], b => .whether (b = false)
  | pattern :: rest, b =>
    ((Extent.whether (b = true)).inter (patternValues pattern true)).union
      ((patternValues pattern false).inter (patternsValues rest b))

end

mutual

theorem mem_patternValues (v : Value) (pattern : Pattern) (b : Bool) :
    v ∈ patternValues reads pattern b ↔ Matches reads v pattern b := by
  match pattern with
  | .matchValue _ value =>
    rw [patternValues, Matches]
    exact mem_equalValues
  | .matchSingleton .. =>
    rw [patternValues, Matches]
    exact mem_equalValues
  | .matchAny .. =>
    rw [patternValues, Matches]
    exact Extent.mem_whether
  | .matchAs _ pattern _ =>
    rw [patternValues, Matches]
    exact mem_patternValues v pattern b
  | .matchOr _ patterns =>
    rw [patternValues, Matches]
    exact mem_patternsValues v patterns b
  | .matchItems .. =>
    rw [patternValues, Matches]
    exact mem_equalValues
  | .other .. =>
    rw [patternValues, Matches]
    exact iff_of_true Extent.mem_all trivial

theorem mem_patternsValues (v : Value) (patterns : List Pattern) (b : Bool) :
    v ∈ patternsValues reads patterns b ↔ MatchesAny reads v patterns b := by
  match patterns with
  | [] =>
    rw [patternsValues, MatchesAny]
    exact Extent.mem_whether
  | pattern :: rest =>
    rw [patternsValues, MatchesAny, Extent.mem_union, Extent.mem_inter, Extent.mem_inter,
      Extent.mem_whether, mem_patternValues v pattern true, mem_patternValues v pattern false,
      mem_patternsValues v rest b]

end

mutual

/-- A pattern that refuses nothing. -/
def Pattern.irrefutable : Pattern → Bool
  | .matchAny .. => true
  | .matchAs _ pattern _ => pattern.irrefutable
  | .matchOr _ patterns => Pattern.anyIrrefutable patterns
  | _ => false

def Pattern.anyIrrefutable : List Pattern → Bool
  | [] => false
  | pattern :: rest => pattern.irrefutable || Pattern.anyIrrefutable rest

end

/-! ## Arms -/

/-- An arm of an `if` or a `match` statement. -/
inductive Arm where
  | body | orelse
  | case (index : Nat)
  deriving DecidableEq, Repr

/-- Whether a guard may have an outcome; a case without one is taken by its pattern alone. -/
def GuardAllows (v : Value) (guard : Option Expr) (b : Bool) : Prop :=
  match guard with
  | some test => Evaluates reads v test b
  | none => b = true

/-- Whether the pattern of a case may take, or may refuse, a subject; of a subject that is not
the followed value only a pattern that refuses nothing is known. -/
def SubjectAllows (followsSubject : Bool) (v : Value) (pattern : Pattern) (b : Bool) : Prop :=
  if followsSubject then Matches reads v pattern b else b = true ∨ pattern.irrefutable = false

/-- Whether a case may be taken, or may be passed over, when the value read is `v`. -/
def Takes (followsSubject : Bool) (v : Value) (c : MatchCase) (b : Bool) : Prop :=
  if b then SubjectAllows reads followsSubject v c.pattern true ∧ GuardAllows reads v c.guard true
  else SubjectAllows reads followsSubject v c.pattern false ∨
    (SubjectAllows reads followsSubject v c.pattern true ∧ GuardAllows reads v c.guard false)

/-- A case that is always taken when it is reached. -/
def takesAll (c : MatchCase) : Bool := c.pattern.irrefutable && c.guard.isNone

/-- The case with an index is the first one taken. -/
def Selects (followsSubject : Bool) (v : Value) : List MatchCase → Nat → Prop
  | [], _ => False
  | c :: _, 0 => Takes reads followsSubject v c true
  | c :: rest, index + 1 =>
    Takes reads followsSubject v c false ∧ Selects followsSubject v rest index

/-- The arm of a statement that is entered when the value read has value `v`. -/
def Decides (v : Value) : Stmt → Arm → Prop
  | .if _ test _ _, .body => Evaluates reads v test true
  | .if _ test _ _, .orelse => Evaluates reads v test false
  | .match _ subject cases, .case index => Selects reads (reads subject) v cases index
  | _, _ => False

/-- The values under which a guard may have an outcome. -/
def guardValues (guard : Option Expr) (b : Bool) : Extent Value :=
  match guard with
  | some test => valuesOf reads test b
  | none => .whether (b = true)

/-- The values a pattern may take or refuse as the pattern of a case. -/
def subjectValues (followsSubject : Bool) (pattern : Pattern) (b : Bool) : Extent Value :=
  if followsSubject then patternValues reads pattern b
  else .whether (b = true ∨ pattern.irrefutable = false)

/-- The values under which a case may be taken, or may be passed over. -/
def caseValues (followsSubject : Bool) (c : MatchCase) (b : Bool) : Extent Value :=
  if b then (subjectValues reads followsSubject c.pattern true).inter
    (guardValues reads c.guard true)
  else (subjectValues reads followsSubject c.pattern false).union
    ((subjectValues reads followsSubject c.pattern true).inter (guardValues reads c.guard false))

/-- The values under which the case with an index is the first one taken. -/
def selectedValues (followsSubject : Bool) : List MatchCase → Nat → Extent Value
  | [], _ => .none
  | c :: _, 0 => caseValues reads followsSubject c true
  | c :: rest, index + 1 =>
    (caseValues reads followsSubject c false).inter (selectedValues followsSubject rest index)

/-- The values under which an arm is entered. -/
def armValues : Stmt → Arm → Extent Value
  | .if _ test _ _, .body => valuesOf reads test true
  | .if _ test _ _, .orelse => valuesOf reads test false
  | .match _ subject cases, .case index => selectedValues reads (reads subject) cases index
  | _, _ => .none

mutual

theorem not_matches_of_irrefutable {v : Value} (pattern : Pattern)
    (takes : pattern.irrefutable = true) : ¬ Matches reads v pattern false := by
  intro refuses
  match pattern with
  | .matchAny .. => rw [Matches] at refuses; cases refuses
  | .matchAs _ pattern _ =>
    rw [Matches] at refuses
    exact not_matches_of_irrefutable pattern takes refuses
  | .matchOr _ patterns =>
    rw [Matches] at refuses
    exact not_matchesAny_of_irrefutable patterns takes refuses
  | .matchValue .. | .matchSingleton .. | .matchItems .. | .other .. => cases takes

theorem not_matchesAny_of_irrefutable {v : Value} (patterns : List Pattern)
    (takes : Pattern.anyIrrefutable patterns = true) : ¬ MatchesAny reads v patterns false := by
  intro refuses
  match patterns with
  | [] => cases takes
  | pattern :: rest =>
    rw [MatchesAny] at refuses
    rcases refuses with ⟨impossible, _⟩ | ⟨first, later⟩
    · cases impossible
    · rcases Bool.or_eq_true_iff.mp takes with here | there
      · exact not_matches_of_irrefutable pattern here first
      · exact not_matchesAny_of_irrefutable rest there later

end

theorem not_takes_of_takesAll {followsSubject : Bool} {v : Value} {c : MatchCase}
    (takes : takesAll c = true) : ¬ Takes reads followsSubject v c false := by
  obtain ⟨irrefutable, noGuard⟩ := Bool.and_eq_true_iff.mp takes
  rw [Takes, if_neg Bool.false_ne_true]
  rintro (refuses | ⟨_, guarded⟩)
  · cases followsSubject with
    | true => exact not_matches_of_irrefutable reads c.pattern irrefutable refuses
    | false => simp [SubjectAllows, irrefutable] at refuses
  · rw [Option.isNone_iff_eq_none.mp noGuard] at guarded
    exact Bool.false_ne_true guarded

theorem mem_guardValues {v : Value} {guard : Option Expr} {b : Bool} :
    v ∈ guardValues reads guard b ↔ GuardAllows reads v guard b := by
  cases guard with
  | none => exact Extent.mem_whether
  | some test => exact mem_valuesOf reads v test b

theorem mem_subjectValues {followsSubject : Bool} {v : Value} {pattern : Pattern} {b : Bool} :
    v ∈ subjectValues reads followsSubject pattern b ↔
      SubjectAllows reads followsSubject v pattern b := by
  cases followsSubject with
  | true => exact mem_patternValues reads v pattern b
  | false => exact Extent.mem_whether

theorem mem_caseValues {followsSubject : Bool} {v : Value} {c : MatchCase} {b : Bool} :
    v ∈ caseValues reads followsSubject c b ↔ Takes reads followsSubject v c b := by
  cases b <;>
    simp only [caseValues, Takes, if_true, Bool.false_eq_true, if_false, Extent.mem_inter,
      Extent.mem_union, mem_subjectValues, mem_guardValues]

theorem mem_selectedValues {followsSubject : Bool} {v : Value} {cases : List MatchCase}
    {index : Nat} :
    v ∈ selectedValues reads followsSubject cases index ↔
      Selects reads followsSubject v cases index := by
  induction cases generalizing index with
  | nil => simp [selectedValues, Selects]
  | cons c rest ih =>
    cases index with
    | zero =>
      rw [selectedValues, Selects]
      exact mem_caseValues reads
    | succ index => rw [selectedValues, Selects, Extent.mem_inter, mem_caseValues, ih]

/-- The values computed for an arm are the values under which it is entered. -/
theorem mem_armValues {v : Value} {gate : Stmt} {arm : Arm} :
    v ∈ armValues reads gate arm ↔ Decides reads v gate arm := by
  cases gate with
  | «if» _ test body orelse =>
    cases arm with
    | body => exact mem_valuesOf reads v test true
    | orelse => exact mem_valuesOf reads v test false
    | case _ => exact iff_of_false Extent.not_mem_none id
  | «match» _ subject cases =>
    cases arm with
    | case index => exact mem_selectedValues reads
    | body | orelse => exact iff_of_false Extent.not_mem_none id
  | _ => exact iff_of_false (by simp [armValues]) (by simp [Decides])

end

end Python
