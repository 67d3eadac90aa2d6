import Mathlib.Data.List.Basic

/-!
# Python syntax trees

The trees of Python's `ast` module, as far as a static analysis tells them apart.  A node
carries its identity and its span (`NodeInfo`).  Node classes an analysis does not tell apart
share one constructor, `other`, which keeps the name of the class and the child nodes; the
operator and context singletons are no nodes here.

`walk` is `ast.walk`: a node and everything below it, breadth first.  It is defined level by
level (`Node.levels`), each level in the order of the parents, and `levels_eq` ties it to the
direct children; `mem_walk` is the rule its users need.
-/

namespace Python

/-- The identity of a node object and its span in the source. -/
structure NodeInfo where
  identity : Nat
  line : Nat
  column : Nat
  endLine : Nat
  endColumn : Nat
  deriving DecidableEq, Repr

/-- The value of an `ast.Constant`. -/
inductive Constant where
  | text (value : String)
  | none
  | bool (value : Bool)
  | int (value : Int)
  | ellipsis
  | other (spelling : String)
  deriving DecidableEq, Repr

inductive BoolOp where
  | conj | disj
  deriving DecidableEq, Repr

inductive UnaryOp where
  | negation | other
  deriving DecidableEq, Repr

inductive CmpOp where
  | eq | notEq | isIn | notIn | other
  deriving DecidableEq, Repr

/-- The displays of a sequence or a set. -/
inductive DisplayKind where
  | list | tuple | set
  deriving DecidableEq, Repr

mutual

/-- An expression. -/
inductive Expr where
  | constant (info : NodeInfo) (value : Constant)
  /-- A name, with whether it is read. -/
  | name (info : NodeInfo) (id : String) (load : Bool)
  | attribute (info : NodeInfo) (value : Expr) (attr : String)
  | subscript (info : NodeInfo) (value slice : Expr)
  | call (info : NodeInfo) (func : Expr) (args : List Expr) (keywords : List Keyword)
  | await (info : NodeInfo) (value : Expr)
  | boolOp (info : NodeInfo) (op : BoolOp) (values : List Expr)
  | unaryOp (info : NodeInfo) (op : UnaryOp) (operand : Expr)
  | compare (info : NodeInfo) (left : Expr) (comparisons : List Comparison)
  | ifExp (info : NodeInfo) (test body orelse : Expr)
  | namedExpr (info : NodeInfo) (target value : Expr)
  | dict (info : NodeInfo) (items : List DictItem)
  | display (info : NodeInfo) (kind : DisplayKind) (elts : List Expr)
  | other (info : NodeInfo) (kind : String) (children : List Expr)

/-- A keyword argument; one without a name unpacks a mapping. -/
inductive Keyword where
  | mk (info : NodeInfo) (arg : Option String) (value : Expr)

/-- One operator of a comparison with its right operand. -/
inductive Comparison where
  | mk (op : CmpOp) (comparator : Expr)

/-- An item of a dictionary display: a pair, or an unpacked mapping. -/
inductive DictItem where
  | pair (key value : Expr)
  | unpack (value : Expr)

end

/-- A parameter of a function. -/
structure Arg where
  info : NodeInfo
  arg : String
  annotation : Option Expr

/-- The parameters of a function. -/
structure Arguments where
  posonlyargs : List Arg
  args : List Arg
  vararg : Option Arg
  kwonlyargs : List Arg
  kwDefaults : List (Option Expr)
  kwarg : Option Arg
  defaults : List Expr

/-- A pattern of a `match` statement. -/
inductive Pattern where
  | matchValue (info : NodeInfo) (value : Expr)
  | matchSingleton (info : NodeInfo) (value : Constant)
  /-- A capture or a wildcard. -/
  | matchAny (info : NodeInfo) (name : Option String)
  | matchAs (info : NodeInfo) (pattern : Pattern) (name : Option String)
  | matchOr (info : NodeInfo) (patterns : List Pattern)
  /-- A sequence or a mapping pattern. -/
  | matchItems (info : NodeInfo) (keys : List Expr) (patterns : List Pattern)
  | other (info : NodeInfo) (exprs : List Expr) (patterns : List Pattern)

inductive LoopKind where
  | for | asyncFor | while
  deriving DecidableEq, Repr

/-- One imported name, with the name it is bound to. -/
structure Alias where
  name : String
  asname : Option String
  deriving DecidableEq, Repr

/-- The statements made of expressions only, and those without a part. -/
inductive PlainKind where
  | break | continue
  | import (names : List Alias)
  | importFrom (module : Option String) (names : List Alias)
  | other (kind : String)
  deriving DecidableEq, Repr

mutual

/-- A statement. -/
inductive Stmt where
  | assign (info : NodeInfo) (targets : List Expr) (value : Expr)
  | annAssign (info : NodeInfo) (target annotation : Expr) (value : Option Expr)
  | augAssign (info : NodeInfo) (target value : Expr)
  | expr (info : NodeInfo) (value : Expr)
  | return (info : NodeInfo) (value : Option Expr)
  | raise (info : NodeInfo) (exc cause : Option Expr)
  | if (info : NodeInfo) (test : Expr) (body orelse : List Stmt)
  | match (info : NodeInfo) (subject : Expr) (cases : List MatchCase)
  /-- `try`, or `try` with `except*`. -/
  | try (info : NodeInfo) (star : Bool) (body : List Stmt) (handlers : List Handler)
      (orelse finalbody : List Stmt)
  /-- A loop with the expressions of its head. -/
  | loop (info : NodeInfo) (kind : LoopKind) (head : List Expr) (body orelse : List Stmt)
  | with (info : NodeInfo) (async : Bool) (items : List Expr) (body : List Stmt)
  | functionDef (info : NodeInfo) (async : Bool) (name : String) (args : Arguments)
      (body : List Stmt) (decoratorList : List Expr) (returns : Option Expr)
  | classDef (info : NodeInfo) (head : List Expr) (body : List Stmt)
  | plain (info : NodeInfo) (kind : PlainKind) (exprs : List Expr)

/-- A case of a `match` statement. -/
inductive MatchCase where
  | mk (pattern : Pattern) (guard : Option Expr) (body : List Stmt)

/-- An exception handler. -/
inductive Handler where
  | mk (info : NodeInfo) (type : Option Expr) (body : List Stmt)

end

def Expr.info : Expr → NodeInfo
  | .constant info .. | .name info .. | .attribute info .. | .subscript info .. | .call info ..
  | .await info .. | .boolOp info .. | .unaryOp info .. | .compare info .. | .ifExp info ..
  | .namedExpr info .. | .dict info .. | .display info .. | .other info .. => info

def Pattern.info : Pattern → NodeInfo
  | .matchValue info .. | .matchSingleton info .. | .matchAny info .. | .matchAs info ..
  | .matchOr info .. | .matchItems info .. | .other info .. => info

def Stmt.info : Stmt → NodeInfo
  | .assign info .. | .annAssign info .. | .augAssign info .. | .expr info .. | .return info ..
  | .raise info .. | .if info .. | .match info .. | .try info .. | .loop info .. | .with info ..
  | .functionDef info .. | .classDef info .. | .plain info .. => info

def Keyword.info : Keyword → NodeInfo
  | .mk info .. => info

def Keyword.arg : Keyword → Option String
  | .mk _ arg _ => arg

def Keyword.value : Keyword → Expr
  | .mk _ _ value => value

def Comparison.op : Comparison → CmpOp
  | .mk op _ => op

def Comparison.comparator : Comparison → Expr
  | .mk _ comparator => comparator

/-- The key of an item; an unpacked mapping has none. -/
def DictItem.key? : DictItem → Option Expr
  | .pair key _ => some key
  | .unpack _ => none

def DictItem.value : DictItem → Expr
  | .pair _ value => value
  | .unpack value => value

def MatchCase.pattern : MatchCase → Pattern
  | .mk pattern .. => pattern

def MatchCase.guard : MatchCase → Option Expr
  | .mk _ guard _ => guard

def MatchCase.body : MatchCase → List Stmt
  | .mk _ _ body => body

def Handler.info : Handler → NodeInfo
  | .mk info .. => info

def Handler.type : Handler → Option Expr
  | .mk _ type _ => type

def Handler.body : Handler → List Stmt
  | .mk _ _ body => body

/-- A function definition, as an analysis of one function holds it. -/
structure FunctionDef where
  info : NodeInfo
  async : Bool
  name : String
  args : Arguments
  body : List Stmt
  decoratorList : List Expr
  returns : Option Expr

/-- A node of a tree. -/
inductive Node where
  | expr (e : Expr)
  | keyword (k : Keyword)
  | arg (a : Arg)
  | arguments (a : Arguments)
  | pattern (p : Pattern)
  | stmt (s : Stmt)
  | matchCase (c : MatchCase)
  | handler (h : Handler)

/-- The identity and span of a node that has one. -/
def Node.info? : Node → Option NodeInfo
  | .expr e => some e.info
  | .keyword k => some k.info
  | .arg a => some a.info
  | .arguments _ => none
  | .pattern p => some p.info
  | .stmt s => some s.info
  | .matchCase _ => none
  | .handler h => some h.info

/-- `a is b`, for nodes with an identity. -/
def Expr.isSame (a b : Expr) : Bool := a.info.identity == b.info.identity

/-- The statement of a function definition. -/
def FunctionDef.stmt (function : FunctionDef) : Stmt :=
  .functionDef function.info function.async function.name function.args function.body
    function.decoratorList function.returns

/-! ## Children -/

/-- The direct children of a parameter. -/
def Arg.children (a : Arg) : List Node := a.annotation.toList.map .expr

/-- The direct children of a parameter list, field by field. -/
def Arguments.children (a : Arguments) : List Node :=
  a.posonlyargs.map .arg ++ a.args.map .arg ++ a.vararg.toList.map .arg ++
    a.kwonlyargs.map .arg ++ (a.kwDefaults.flatMap Option.toList).map .expr ++
    a.kwarg.toList.map .arg ++ a.defaults.map .expr

/-- `ast.iter_child_nodes`: the direct children, field by field. -/
def Node.children : Node → List Node
  | .expr (.constant ..) | .expr (.name ..) => []
  | .expr (.attribute _ value _) => [.expr value]
  | .expr (.subscript _ value slice) => [.expr value, .expr slice]
  | .expr (.call _ func args keywords) => .expr func :: args.map .expr ++ keywords.map .keyword
  | .expr (.await _ value) => [.expr value]
  | .expr (.boolOp _ _ values) => values.map .expr
  | .expr (.unaryOp _ _ operand) => [.expr operand]
  | .expr (.compare _ left comparisons) => .expr left :: comparisons.map (.expr ·.comparator)
  | .expr (.ifExp _ test body orelse) => [.expr test, .expr body, .expr orelse]
  | .expr (.namedExpr _ target value) => [.expr target, .expr value]
  | .expr (.dict _ items) => (items.filterMap (·.key?)).map .expr ++ items.map (.expr ·.value)
  | .expr (.display _ _ elts) => elts.map .expr
  | .expr (.other _ _ children) => children.map .expr
  | .keyword k => [.expr k.value]
  | .arg a => a.children
  | .arguments a => a.children
  | .pattern (.matchValue _ value) => [.expr value]
  | .pattern (.matchSingleton ..) | .pattern (.matchAny ..) => []
  | .pattern (.matchAs _ inner _) => [.pattern inner]
  | .pattern (.matchOr _ patterns) => patterns.map .pattern
  | .pattern (.matchItems _ keys patterns) => keys.map .expr ++ patterns.map .pattern
  | .pattern (.other _ exprs patterns) => exprs.map .expr ++ patterns.map .pattern
  | .stmt (.assign _ targets value) => targets.map .expr ++ [.expr value]
  | .stmt (.annAssign _ target annotation value) =>
    [.expr target, .expr annotation] ++ value.toList.map .expr
  | .stmt (.augAssign _ target value) => [.expr target, .expr value]
  | .stmt (.expr _ value) => [.expr value]
  | .stmt (.return _ value) => value.toList.map .expr
  | .stmt (.raise _ exc cause) => exc.toList.map .expr ++ cause.toList.map .expr
  | .stmt (.if _ test body orelse) => .expr test :: body.map .stmt ++ orelse.map .stmt
  | .stmt (.match _ subject cases) => .expr subject :: cases.map .matchCase
  | .stmt (.try _ _ body handlers orelse finalbody) =>
    body.map .stmt ++ handlers.map .handler ++ orelse.map .stmt ++ finalbody.map .stmt
  | .stmt (.loop _ _ head body orelse) =>
    head.map .expr ++ body.map .stmt ++ orelse.map .stmt
  | .stmt (.with _ _ items body) => items.map .expr ++ body.map .stmt
  | .stmt (.functionDef _ _ _ args body decoratorList returns) =>
    .arguments args :: body.map .stmt ++ decoratorList.map .expr ++ returns.toList.map .expr
  | .stmt (.classDef _ head body) => head.map .expr ++ body.map .stmt
  | .stmt (.plain _ _ exprs) => exprs.map .expr
  | .matchCase c => .pattern c.pattern :: c.guard.toList.map .expr ++ c.body.map .stmt
  | .handler h => h.type.toList.map .expr ++ h.body.map .stmt

/-! ## Levels -/

/-- The nodes of two forests, level by level. -/
def joinLevels : List (List Node) → List (List Node) → List (List Node)
  | [], right => right
  | left, [] => left
  | l :: left, r :: right => (l ++ r) :: joinLevels left right

/-- The nodes of several forests, level by level. -/
def joinAll (forests : List (List (List Node))) : List (List Node) := forests.foldr joinLevels []

mutual

def Expr.levels : Expr → List (List Node)
  | e@(.constant ..) => [[.expr e]]
  | e@(.name ..) => [[.expr e]]
  | e@(.attribute _ value _) => [.expr e] :: value.levels
  | e@(.subscript _ value slice) => [.expr e] :: joinLevels value.levels slice.levels
  | e@(.call _ func args keywords) =>
    [.expr e] :: joinLevels func.levels
      (joinLevels (Expr.levelsAll args) (Keyword.levelsAll keywords))
  | e@(.await _ value) => [.expr e] :: value.levels
  | e@(.boolOp _ _ values) => [.expr e] :: Expr.levelsAll values
  | e@(.unaryOp _ _ operand) => [.expr e] :: operand.levels
  | e@(.compare _ left comparisons) =>
    [.expr e] :: joinLevels left.levels (Comparison.levelsAll comparisons)
  | e@(.ifExp _ test body orelse) =>
    [.expr e] :: joinLevels test.levels (joinLevels body.levels orelse.levels)
  | e@(.namedExpr _ target value) => [.expr e] :: joinLevels target.levels value.levels
  | e@(.dict _ items) =>
    [.expr e] :: joinLevels (DictItem.keyLevels items) (DictItem.valueLevels items)
  | e@(.display _ _ elts) => [.expr e] :: Expr.levelsAll elts
  | e@(.other _ _ children) => [.expr e] :: Expr.levelsAll children

def Expr.levelsAll : List Expr → List (List Node)
  | [] => []
  | e :: rest => joinLevels e.levels (Expr.levelsAll rest)

def Keyword.levels : Keyword → List (List Node)
  | k@(.mk _ _ value) => [.keyword k] :: value.levels

def Keyword.levelsAll : List Keyword → List (List Node)
  | [] => []
  | k :: rest => joinLevels k.levels (Keyword.levelsAll rest)

def Comparison.levels : Comparison → List (List Node)
  | .mk _ comparator => comparator.levels

def Comparison.levelsAll : List Comparison → List (List Node)
  | [] => []
  | c :: rest => joinLevels c.levels (Comparison.levelsAll rest)

def DictItem.keyLevel : DictItem → List (List Node)
  | .pair key _ => key.levels
  | .unpack _ => []

def DictItem.keyLevels : List DictItem → List (List Node)
  | [] => []
  | item :: rest => joinLevels item.keyLevel (DictItem.keyLevels rest)

def DictItem.valueLevel : DictItem → List (List Node)
  | .pair _ value => value.levels
  | .unpack value => value.levels

def DictItem.valueLevels : List DictItem → List (List Node)
  | [] => []
  | item :: rest => joinLevels item.valueLevel (DictItem.valueLevels rest)

end

/-- The levels of an optional expression. -/
def Expr.levelsOf (e : Option Expr) : List (List Node) := Expr.levelsAll e.toList

def Arg.levels (a : Arg) : List (List Node) := [.arg a] :: Expr.levelsOf a.annotation

def Arg.levelsAll (parameters : List Arg) : List (List Node) := joinAll (parameters.map Arg.levels)

def Arguments.levels (a : Arguments) : List (List Node) :=
  [.arguments a] :: joinLevels (Arg.levelsAll a.posonlyargs) (joinLevels (Arg.levelsAll a.args)
    (joinLevels (Arg.levelsAll a.vararg.toList) (joinLevels (Arg.levelsAll a.kwonlyargs)
      (joinLevels (Expr.levelsAll (a.kwDefaults.flatMap Option.toList))
        (joinLevels (Arg.levelsAll a.kwarg.toList) (Expr.levelsAll a.defaults))))))

mutual

def Pattern.levels : Pattern → List (List Node)
  | p@(.matchValue _ value) => [.pattern p] :: value.levels
  | p@(.matchSingleton ..) => [[.pattern p]]
  | p@(.matchAny ..) => [[.pattern p]]
  | p@(.matchAs _ inner _) => [.pattern p] :: inner.levels
  | p@(.matchOr _ patterns) => [.pattern p] :: Pattern.levelsAll patterns
  | p@(.matchItems _ keys patterns) =>
    [.pattern p] :: joinLevels (Expr.levelsAll keys) (Pattern.levelsAll patterns)
  | p@(.other _ exprs patterns) =>
    [.pattern p] :: joinLevels (Expr.levelsAll exprs) (Pattern.levelsAll patterns)

def Pattern.levelsAll : List Pattern → List (List Node)
  | [] => []
  | p :: rest => joinLevels p.levels (Pattern.levelsAll rest)

end

mutual

def Stmt.levels : Stmt → List (List Node)
  | s@(.assign _ targets value) => [.stmt s] :: joinLevels (Expr.levelsAll targets) value.levels
  | s@(.annAssign _ target annotation value) =>
    [.stmt s] :: joinLevels target.levels (joinLevels annotation.levels (Expr.levelsOf value))
  | s@(.augAssign _ target value) => [.stmt s] :: joinLevels target.levels value.levels
  | s@(.expr _ value) => [.stmt s] :: value.levels
  | s@(.return _ value) => [.stmt s] :: Expr.levelsOf value
  | s@(.raise _ exc cause) => [.stmt s] :: joinLevels (Expr.levelsOf exc) (Expr.levelsOf cause)
  | s@(.if _ test body orelse) =>
    [.stmt s] :: joinLevels test.levels (joinLevels (Stmt.levelsAll body) (Stmt.levelsAll orelse))
  | s@(.match _ subject cases) =>
    [.stmt s] :: joinLevels subject.levels (MatchCase.levelsAll cases)
  | s@(.try _ _ body handlers orelse finalbody) =>
    [.stmt s] :: joinLevels (Stmt.levelsAll body) (joinLevels (Handler.levelsAll handlers)
      (joinLevels (Stmt.levelsAll orelse) (Stmt.levelsAll finalbody)))
  | s@(.loop _ _ head body orelse) =>
    [.stmt s] :: joinLevels (Expr.levelsAll head)
      (joinLevels (Stmt.levelsAll body) (Stmt.levelsAll orelse))
  | s@(.with _ _ items body) =>
    [.stmt s] :: joinLevels (Expr.levelsAll items) (Stmt.levelsAll body)
  | s@(.functionDef _ _ _ args body decoratorList returns) =>
    [.stmt s] :: joinLevels args.levels (joinLevels (Stmt.levelsAll body)
      (joinLevels (Expr.levelsAll decoratorList) (Expr.levelsOf returns)))
  | s@(.classDef _ head body) =>
    [.stmt s] :: joinLevels (Expr.levelsAll head) (Stmt.levelsAll body)
  | s@(.plain _ _ exprs) => [.stmt s] :: Expr.levelsAll exprs

def Stmt.levelsAll : List Stmt → List (List Node)
  | [] => []
  | s :: rest => joinLevels s.levels (Stmt.levelsAll rest)

def MatchCase.levels : MatchCase → List (List Node)
  | c@(.mk pattern guard body) =>
    [.matchCase c] :: joinLevels pattern.levels
      (joinLevels (Expr.levelsOf guard) (Stmt.levelsAll body))

def MatchCase.levelsAll : List MatchCase → List (List Node)
  | [] => []
  | c :: rest => joinLevels c.levels (MatchCase.levelsAll rest)

def Handler.levels : Handler → List (List Node)
  | h@(.mk _ type body) => [.handler h] :: joinLevels (Expr.levelsOf type) (Stmt.levelsAll body)

def Handler.levelsAll : List Handler → List (List Node)
  | [] => []
  | h :: rest => joinLevels h.levels (Handler.levelsAll rest)

end

/-- A node and everything below it, level by level. -/
def Node.levels : Node → List (List Node)
  | .expr e => e.levels
  | .keyword k => k.levels
  | .arg a => a.levels
  | .arguments a => a.levels
  | .pattern p => p.levels
  | .stmt s => s.levels
  | .matchCase c => c.levels
  | .handler h => h.levels

/-- `ast.walk`: a node and everything below it, breadth first. -/
def walk (n : Node) : List Node := n.levels.flatten

/-! ## What is walked -/

theorem joinLevels_nil (left : List (List Node)) : joinLevels left [] = left := by
  cases left <;> rfl

theorem joinLevels_assoc (a b c : List (List Node)) :
    joinLevels (joinLevels a b) c = joinLevels a (joinLevels b c) := by
  induction a generalizing b c with
  | nil => simp only [joinLevels]
  | cons x a ih =>
    cases b with
    | nil => simp only [joinLevels]
    | cons y b =>
      cases c with
      | nil => simp only [joinLevels, joinLevels_nil]
      | cons z c => simp only [joinLevels, ih, List.append_assoc]

@[simp]
theorem joinAll_nil : joinAll [] = [] := rfl

@[simp]
theorem joinAll_cons (forest : List (List Node)) (rest : List (List (List Node))) :
    joinAll (forest :: rest) = joinLevels forest (joinAll rest) := rfl

@[simp]
theorem joinAll_append (a b : List (List (List Node))) :
    joinAll (a ++ b) = joinLevels (joinAll a) (joinAll b) := by
  induction a with
  | nil => simp only [List.nil_append, joinAll_nil, joinLevels]
  | cons x a ih => rw [List.cons_append, joinAll_cons, joinAll_cons, ih, joinLevels_assoc]

/-- Levels collected along a list are the levels of its items, joined. -/
theorem eq_joinAll {α : Type} {levels : α → List (List Node)}
    {levelsAll : List α → List (List Node)} (nil : levelsAll [] = [])
    (cons : ∀ item rest, levelsAll (item :: rest) = joinLevels (levels item) (levelsAll rest))
    (items : List α) : levelsAll items = joinAll (items.map levels) := by
  induction items with
  | nil => exact nil
  | cons item rest ih => rw [cons, ih, List.map_cons, joinAll_cons]

theorem Expr.levelsAll_eq (es : List Expr) :
    Expr.levelsAll es = joinAll ((es.map Node.expr).map Node.levels) := by
  rw [List.map_map]
  exact eq_joinAll rfl (fun _ _ => rfl) es

theorem Keyword.levelsAll_eq (keywords : List Keyword) :
    Keyword.levelsAll keywords = joinAll ((keywords.map Node.keyword).map Node.levels) := by
  rw [List.map_map]
  exact eq_joinAll rfl (fun _ _ => rfl) keywords

theorem Comparison.levelsAll_eq (comparisons : List Comparison) :
    Comparison.levelsAll comparisons =
      joinAll ((comparisons.map fun c => Node.expr c.comparator).map Node.levels) := by
  rw [List.map_map]
  exact eq_joinAll rfl (fun c _ => by cases c; rfl) comparisons

theorem DictItem.keyLevels_eq (items : List DictItem) :
    DictItem.keyLevels items =
      joinAll (((items.filterMap (·.key?)).map Node.expr).map Node.levels) := by
  induction items with
  | nil => rfl
  | cons item rest ih =>
    cases item with
    | pair key value =>
      simp only [DictItem.keyLevels, DictItem.keyLevel, DictItem.key?, ih, List.map_cons,
        List.filterMap_cons, joinAll_cons, Node.levels]
    | unpack value =>
      simp only [DictItem.keyLevels, DictItem.keyLevel, DictItem.key?, ih, List.filterMap_cons,
        joinLevels]

theorem DictItem.valueLevels_eq (items : List DictItem) :
    DictItem.valueLevels items =
      joinAll ((items.map fun item => Node.expr item.value).map Node.levels) := by
  rw [List.map_map]
  exact eq_joinAll rfl (fun item _ => by cases item <;> rfl) items

theorem Expr.levelsOf_eq (e : Option Expr) :
    Expr.levelsOf e = joinAll ((e.toList.map Node.expr).map Node.levels) :=
  Expr.levelsAll_eq e.toList

theorem Arg.levelsAll_eq (parameters : List Arg) :
    Arg.levelsAll parameters = joinAll ((parameters.map Node.arg).map Node.levels) := by
  rw [List.map_map]
  rfl

theorem Pattern.levelsAll_eq (patterns : List Pattern) :
    Pattern.levelsAll patterns = joinAll ((patterns.map Node.pattern).map Node.levels) := by
  rw [List.map_map]
  exact eq_joinAll rfl (fun _ _ => rfl) patterns

theorem Stmt.levelsAll_eq (body : List Stmt) :
    Stmt.levelsAll body = joinAll ((body.map Node.stmt).map Node.levels) := by
  rw [List.map_map]
  exact eq_joinAll rfl (fun _ _ => rfl) body

theorem MatchCase.levelsAll_eq (cases : List MatchCase) :
    MatchCase.levelsAll cases = joinAll ((cases.map Node.matchCase).map Node.levels) := by
  rw [List.map_map]
  exact eq_joinAll rfl (fun _ _ => rfl) cases

theorem Handler.levelsAll_eq (handlers : List Handler) :
    Handler.levelsAll handlers = joinAll ((handlers.map Node.handler).map Node.levels) := by
  rw [List.map_map]
  exact eq_joinAll rfl (fun _ _ => rfl) handlers

/-- The levels of a node are the node and the levels of its children. -/
theorem levels_eq (n : Node) : n.levels = [n] :: joinAll (n.children.map Node.levels) := by
  cases n with
  | expr e =>
    cases e <;>
      simp only [Node.levels, Node.children, Expr.levels, Expr.levelsAll_eq,
        Keyword.levelsAll_eq, Comparison.levelsAll_eq, DictItem.keyLevels_eq,
        DictItem.valueLevels_eq, List.map_append, List.map_cons, List.map_nil, joinAll_append,
        joinAll_cons, joinAll_nil, joinLevels_nil, joinLevels_assoc]
  | keyword k =>
    cases k
    simp only [Node.levels, Node.children, Keyword.levels, Keyword.value, List.map_cons,
      List.map_nil, joinAll_cons, joinAll_nil, joinLevels_nil]
  | arg a => simp only [Node.levels, Node.children, Arg.levels, Arg.children, Expr.levelsOf_eq]
  | arguments a =>
    simp only [Node.levels, Node.children, Arguments.levels, Arguments.children,
      Arg.levelsAll_eq, Expr.levelsAll_eq, List.map_append, joinAll_append, joinLevels_assoc]
  | pattern p =>
    cases p <;>
      simp only [Node.levels, Node.children, Pattern.levels, Pattern.levelsAll_eq,
        Expr.levelsAll_eq, List.map_append, List.map_cons, List.map_nil, joinAll_append,
        joinAll_cons, joinAll_nil, joinLevels_nil]
  | stmt s =>
    cases s <;>
      simp only [Node.levels, Node.children, Stmt.levels, Stmt.levelsAll_eq,
        MatchCase.levelsAll_eq, Handler.levelsAll_eq, Expr.levelsAll_eq, Expr.levelsOf_eq,
        List.map_append, List.map_cons, List.map_nil, joinAll_append, joinAll_cons, joinAll_nil,
        joinLevels_nil, joinLevels_assoc]
  | matchCase c =>
    cases c
    simp only [Node.levels, Node.children, MatchCase.levels, MatchCase.pattern, MatchCase.guard,
      MatchCase.body, Stmt.levelsAll_eq, Expr.levelsOf_eq, List.map_append, List.map_cons,
      joinAll_append, joinAll_cons, joinLevels_assoc]
  | handler h =>
    cases h
    simp only [Node.levels, Node.children, Handler.levels, Handler.type, Handler.body,
      Stmt.levelsAll_eq, Expr.levelsOf_eq, List.map_append, joinAll_append]

theorem mem_flatten_joinLevels {n : Node} {left right : List (List Node)} :
    n ∈ (joinLevels left right).flatten ↔ n ∈ left.flatten ∨ n ∈ right.flatten := by
  induction left generalizing right with
  | nil => simp [joinLevels]
  | cons l left ih =>
    cases right with
    | nil => simp [joinLevels]
    | cons r right =>
      simp only [joinLevels, List.flatten_cons, List.mem_append, ih]
      tauto

theorem mem_flatten_joinAll {n : Node} {forests : List (List (List Node))} :
    n ∈ (joinAll forests).flatten ↔ ∃ forest ∈ forests, n ∈ forest.flatten := by
  induction forests with
  | nil => simp
  | cons forest rest ih =>
    rw [joinAll_cons, mem_flatten_joinLevels, ih, List.exists_mem_cons_iff]

/-- A walk visits the node itself and what the walks of its children visit. -/
theorem mem_walk {n below : Node} :
    below ∈ walk n ↔ below = n ∨ ∃ child ∈ n.children, below ∈ walk child := by
  rw [walk, levels_eq, List.flatten_cons, List.mem_append, List.mem_singleton,
    mem_flatten_joinAll]
  simp only [List.mem_map, exists_exists_and_eq_and, walk]

end Python
