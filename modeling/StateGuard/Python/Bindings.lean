import StateGuard.Python.Scopes

/-!
# Bindings

The frames that a node is evaluated in, one inside the other (`RunsIn`), and the bindings that
happen until it is evaluated.  A simple statement binds its names when it ends.  Which parts of a
compound statement run, how often and in which order, is left open, and so is when the functions are
called that have been defined (`stepOf`).  A function is entered at any moment after the statement
that defines it; the body of a class and a comprehension are entered when that statement runs, and
the other files of the program are loaded before (`History`).

A binding of a name binds its attributes too: a name with attributes is a variable of its own
(`Variable`).  The attributes of an imported module are the names of that module.
-/

namespace Python

/-! ## Where a node stands -/

/-- A frame, with the index of a statement of its body. -/
structure Level where
  frame : Frame
  point : Nat

/-- A node is evaluated in a frame, which is the first of the levels, and that frame is defined in
the next. -/
inductive RunsIn (file : SourceFile) : List Level → Node → Prop where
  | module {k s} (statement : file.body[k]? = some s) :
      RunsIn file [⟨moduleFrame file, k⟩] (.stmt s)
  | child {levels n child} (parent : RunsIn file levels n) (isChild : child ∈ n.inFrame) :
      RunsIn file levels child
  | function {levels info async name args inner decorators returns k s}
      (parent : RunsIn file levels
        (.stmt (.functionDef info async name args inner decorators returns)))
      (statement : inner[k]? = some s) :
      RunsIn file (⟨functionFrame info args inner, k⟩ :: levels) (.stmt s)
  | classBody {levels info head inner k s}
      (parent : RunsIn file levels (.stmt (.classDef info head inner)))
      (statement : inner[k]? = some s) :
      RunsIn file (⟨classFrame info inner, k⟩ :: levels) (.stmt s)
  | lambda {levels info children result}
      (parent : RunsIn file levels (.expr (.other info "Lambda" children)))
      (last : children.getLast? = some result) :
      RunsIn file (⟨lambdaFrame file.table info result, 0⟩ :: levels) (.expr result)
  | comprehension {levels info kind children part}
      (parent : RunsIn file levels (.expr (.other info kind children)))
      (isComprehension : kind ∈ comprehensionKinds) (isPart : part ∈ eachElement children) :
      RunsIn file (⟨comprehensionFrame info kind children, 0⟩ :: levels) (.expr part)

/-! ## Bindings -/

/-- A name of a scope, with attributes. -/
abbrev Variable := Scope × List String

/-- What a binding is made of: a name of a scope with attributes, or one of a module. -/
inductive Reference where
  | unknown
  | visible (scope : Scope) (path : List String)
  | absolute (path : List String)

/-- A name of a scope is bound to an object. -/
structure Binding where
  scope : Scope
  name : Option String
  source : Source
  /-- The node that makes the binding. -/
  site : NodeInfo
  reference : Reference

/-- The name and the attributes that an expression is made of. -/
def Expr.path : Expr → Option (List String)
  | .name _ id _ => some [id]
  | .attribute _ value attr => value.path.map (· ++ [attr])
  | _ => none

/-- The reference that an expression is made of, or the callee of a call. -/
def Expr.calleePath : Expr → Option (List String)
  | .call _ func _ _ => func.path
  | e => e.path

def dottedParts (module : String) : List String :=
  if module = "" then [] else (module.toList.splitOn '.').map String.ofList

/-- The package that a relative import starts from. -/
def SourceFile.base (file : SourceFile) (level : Nat) : Option (List String) :=
  let package := if file.package then file.moduleName else file.moduleName.dropLast
  if level = 0 then some []
  else if package.length < level then none
  else some (package.take (package.length + 1 - level))

/-- The reference that a source is made of. -/
def Source.reference (file : SourceFile) (frames : List Frame) : Source → Reference
  | .value e =>
    match e.calleePath with
    | some path => .visible (scopeOf file frames (path.headD "")) path
    | none => .unknown
  | .imported level module name =>
    match file.base level with
    | some base => .absolute (base ++ dottedParts module ++ name.toList)
    | none => .unknown
  | _ => .unknown

/-- The binding that a node makes in some frames. -/
def bindingOf (file : SourceFile) (frames : List Frame) (site : NodeInfo) (bind : Bind) :
    Binding where
  scope := (bind.1.map (scopeOf file frames)).getD (.module file.moduleName)
  name := bind.1
  source := bind.2
  site := site
  reference := bind.2.reference file frames

/-- The bindings that a node itself makes. -/
def Node.bindings (file : SourceFile) (frames : List Frame) (n : Node) : List Binding :=
  (n.bound file.table).map (bindingOf file frames (n.info?.getD noNode))

/-- The name of a module that a path leads to: that of the longest module name it starts with. -/
def locate (modules : List (List String)) (path : List String) : Option Variable :=
  ((List.range path.length).reverse.find? fun k => path.take k ∈ modules).map fun k =>
    (.module (path.take k), path.drop k)

/-- The variables that bindings bind and read in a program with some modules.  Nothing is known of
the attributes of the result of a call. -/
def bindingNames (modules : List (List String)) : NameFlow.Names Binding Variable where
  binds b v := b.scope = v.1 && b.name.all (v.2.head? = some ·)
  reads b v :=
    match b.reference, b.source with
    | .visible scope path, .value (.call ..) => if v.2.tail = [] then some (scope, path) else none
    | .visible scope path, _ => some (scope, path ++ v.2.tail)
    | .absolute path, _ => locate modules (path ++ v.2.tail)
    | .unknown, _ => none

/-! ## Steps -/

/-- A statement that has no blocks. -/
def Node.simple : Node → Bool
  | .stmt (.if ..) | .stmt (.match ..) | .stmt (.try ..) | .stmt (.loop ..)
  | .stmt (.with ..) => false
  | .stmt _ => true
  | _ => false

/-- The bindings that a simple statement makes when it ends.  A star import binds unknown names. -/
def Node.ending (file : SourceFile) (frames : List Frame) (n : Node) : List Binding :=
  if n.simple then (n.bindings file frames).filter (·.name.isSome) else []

section

variable (file : SourceFile)

/-- A binding that may happen while a frame is at a point: it is made by a node below the statement
there, or by the body of a frame that is defined in a statement up to it. -/
inductive MayBind (outer : List Level) (frame : Frame) (point : Nat) : Binding → Prop where
  | here {n b} (runs : RunsIn file (⟨frame, point⟩ :: outer) n)
      (binds : b ∈ n.bindings file (frame :: outer.map (·.frame)))
      (unended : ∀ s, frame.body[point]? = some s → n = s →
        b ∉ s.ending file (frame :: outer.map (·.frame))) :
      MayBind outer frame point b
  | inside {inner level n b earlier}
      (runs : RunsIn file (inner ++ level :: ⟨frame, earlier⟩ :: outer) n)
      (binds : b ∈ n.bindings file
        ((inner ++ level :: ⟨frame, earlier⟩ :: outer).map (·.frame)))
      (scope : b.scope ∈ (frame :: outer.map (·.frame)).map (·.scope))
      (moment : earlier = point ∨
        earlier ≤ point ∧ (inner ++ [level]).any (·.frame.deferred) = true) :
      MayBind outer frame point b

/-- What a frame binds at a point of its body. -/
def stepOf (outer : List Level) (frame : Frame) (point : Nat) : NameFlow.Step Binding where
  may := MayBind file outer frame point
  must :=
    match frame.body[point]? with
    | some s => s.ending file (frame :: outer.map (·.frame))
    | none => []

/-- The arguments are bound when a frame is entered. -/
def Frame.entering (frame : Frame) : NameFlow.Step Binding where
  may := fun _ => False
  must := frame.parameters.map fun name =>
    ⟨frame.scope, some name, .part frame.info, frame.info, .unknown⟩

end

/-- The steps of a file that is loaded, the latest first. -/
def loading (file : SourceFile) : List (NameFlow.Step Binding) :=
  (List.range (file.body.length + 1)).reverse.map (stepOf file [] (moduleFrame file)) ++
    [(moduleFrame file).entering]

/-- The steps until the first of the levels comes to a point.  Each of the other levels has come to
the statement that defines the next, or beyond it.  Files are loaded as a whole, each of them
once. -/
inductive History (files : List SourceFile) (file : SourceFile) :
    List Level → Nat → List (List String) → List (NameFlow.Step Binding) → Prop where
  | start : History files file [] 0 [] []
  | load {levels point loaded steps other} (before : History files file levels point loaded steps)
      (listed : other ∈ files) (fresh : other.moduleName ∉ loaded) :
      History files file levels point (other.moduleName :: loaded) (loading other ++ steps)
  | module {level point loaded steps} (before : History files file [] point loaded steps)
      (fresh : file.moduleName ∉ loaded) :
      History files file [level] 0 (file.moduleName :: loaded) (level.frame.entering :: steps)
  | next {level outer point loaded steps}
      (before : History files file (level :: outer) point loaded steps) :
      History files file (level :: outer) (point + 1) loaded
        (stepOf file outer level.frame point :: steps)
  | inside {inner level outer point loaded steps}
      (before : History files file (level :: outer) point loaded steps)
      (defined : level.point ≤ point)
      (entered : inner.frame.deferred = false → point = level.point) :
      History files file (inner :: level :: outer) 0 loaded
        (inner.frame.entering :: (stepOf file outer level.frame point).during :: steps)

section

variable (files : List SourceFile) (file : SourceFile)

/-- The steps before a node is evaluated in some levels. -/
inductive Before : List Level → List (NameFlow.Step Binding) → Prop where
  | intro {level outer loaded steps}
      (history : History files file (level :: outer) level.point loaded steps) :
      Before (level :: outer) ((stepOf file outer level.frame level.point).during :: steps)

/-- The variable that a reference means at a node. -/
def variableOf (levels : List Level) (path : List String) : Variable :=
  (scopeOf file (levels.map (·.frame)) (path.headD ""), path)

/-- The bindings of a program. -/
abbrev namesOf : NameFlow.Names Binding Variable := bindingNames (files.map (·.moduleName))

/-- What a reference may be bound to when a node is evaluated in some levels. -/
def Denotes (levels : List Level) (path : List String)
    (bound : Option (NameFlow.Bound Binding Variable)) : Prop :=
  ∃ steps state, Before files file levels steps ∧
    NameFlow.Reaches (namesOf files) steps state ∧ state (variableOf file levels path) = bound

/-- The search of the text, from a reference at a node to the bindings that reach it, finds one that
is refused. -/
def SpoiledAt {Want : Type} (demand : NameFlow.Demand Binding Variable Want) (levels : List Level)
    (path : List String) (want : Want) : Prop :=
  ∃ steps, Before files file levels steps ∧
    NameFlow.Spoiled (namesOf files) demand steps (variableOf file levels path) want

/-- A reference is as wanted whenever a node is evaluated if the search of the text finds no binding
that is refused. -/
theorem denotes_iff {Want : Type} (demand : NameFlow.Demand Binding Variable Want)
    {levels : List Level} {path : List String} {want : Want} :
    (∀ bound, Denotes files file levels path bound →
        demand.Met (namesOf files) (variableOf file levels path) bound want) ↔
      ¬ SpoiledAt files file demand levels path want := by
  constructor
  · rintro met ⟨steps, before, spoiled⟩
    exact (NameFlow.met_iff demand).1
      (fun state reached => met _ ⟨steps, state, before, reached, rfl⟩) spoiled
  · rintro unspoiled _ ⟨steps, state, before, reached, rfl⟩
    refine (NameFlow.met_iff demand).2 (fun spoiled => ?_) state reached
    exact unspoiled ⟨steps, before, spoiled⟩

end

end Python
