import StateGuard.Discovery.Contracts
import StateGuard.Graph.Identity

/-!
# Definitions of a module

The extraction meets the definitions of a module in the order of the tree, a definition before those
in its body (`visitAll`), and makes a symbol of each.  Definitions of one qualified name and one
kind are told apart by an ordinal, which is counted as the symbols are made (`newSymbols`).

The interpreter names the code of a definition too.  Its name is that of the extraction, except
below a name that is declared global.
-/

namespace StateGuard

inductive DefinitionKind where
  | function | asyncFunction | classDef
  deriving DecidableEq, Repr

/-- A `def` or a `class` statement, with the definitions in its body in the order in which they are
visited.  Its first line is that of its first decorator. -/
inductive Definition where
  | mk (kind : DefinitionKind) (name : String) (declaredGlobal : Bool) (firstLine line : Nat)
      (body : List Definition)

/-- A definition as the extraction meets it. -/
structure Visited where
  qualifiedName : String
  kind : SymbolKind
  /-- The name that the interpreter gives to the code. -/
  codeQualname : String
  firstLine : Nat
  line : Nat
  deriving DecidableEq, Repr

def SymbolKind.value : SymbolKind → String
  | .function => "FUNCTION"
  | .asyncFunction => "ASYNC_FUNCTION"
  | .method => "METHOD"
  | .asyncMethod => "ASYNC_METHOD"
  | .classDef => "CLASS"
  | .module => "MODULE"

/-- `_qualified_child`. -/
def qualifiedChild (owner : Visited) (name : String) : String :=
  if owner.kind.callable then owner.qualifiedName ++ ".<locals>." ++ name
  else owner.qualifiedName ++ "." ++ name

/-- `__qualname__` of a definition below an owner. -/
def codeChild (owner : Visited) (declaredGlobal : Bool) (name : String) : String :=
  if declaredGlobal ∨ owner.kind = .module then name
  else if owner.kind.callable then owner.codeQualname ++ ".<locals>." ++ name
  else owner.codeQualname ++ "." ++ name

/-- The kind of the symbol of a definition. -/
def symbolKind (owner : Visited) : DefinitionKind → SymbolKind
  | .function => if owner.kind = .classDef then .method else .function
  | .asyncFunction => if owner.kind = .classDef then .asyncMethod else .asyncFunction
  | .classDef => .classDef

mutual

/-- `process_function` and `process_class`: a definition, and then those in its body. -/
def visit (owner : Visited) : Definition → List Visited
  | .mk kind name declaredGlobal firstLine line body =>
    let visited : Visited :=
      { qualifiedName := qualifiedChild owner name
        kind := symbolKind owner kind
        codeQualname := codeChild owner declaredGlobal name
        firstLine := firstLine
        line := line }
    visited :: visitAll visited body

def visitAll (owner : Visited) : List Definition → List Visited
  | [] => []
  | definition :: rest => visit owner definition ++ visitAll owner rest

end

/-- The module that definitions stand in. -/
def moduleOwner (moduleName : String) : Visited := ⟨moduleName, .module, "<module>", 1, 1⟩

/-- The key that ordinals are counted for. -/
def Visited.key (visited : Visited) : String × SymbolKind := (visited.qualifiedName, visited.kind)

/-- `_new_symbol` for one definition after another: each with its ordinal. -/
def newSymbols (seen : List Visited) : List Visited → List (Visited × Nat)
  | [] => []
  | visited :: rest =>
    (visited, seen.countP (·.key = visited.key)) :: newSymbols (seen ++ [visited]) rest

/-- A symbol with its ordinal. -/
structure DefinitionSymbol extends SymbolRecord where
  definitionOrdinal : Nat
  deriving DecidableEq

/-- The symbol of a definition. -/
def definitionSymbol (text : BuildText) (fileId : SourceFileId) (path : String)
    (visited : Visited) (ordinal : Nat) : DefinitionSymbol where
  symbolId := text.stableId "sgsym"
    [fileId, visited.qualifiedName, visited.kind.value, toString ordinal]
  sourceFileId := fileId
  qualifiedName := visited.qualifiedName
  kind := visited.kind
  sourceLocation := ⟨path, visited.line, 0, visited.line, 0⟩
  definitionOrdinal := ordinal

/-- The symbols of a module: its own, and those of its definitions. -/
def moduleSymbols (text : BuildText) (fileId : SourceFileId) (path moduleName : String)
    (body : List Definition) : List DefinitionSymbol :=
  definitionSymbol text fileId path (moduleOwner moduleName) 0 ::
    (newSymbols [] (visitAll (moduleOwner moduleName) body)).map fun entry =>
      definitionSymbol text fileId path entry.1 entry.2

/-! ## What is met -/

theorem symbolKind_ne_module (owner : Visited) (kind : DefinitionKind) :
    symbolKind owner kind ≠ .module := by
  cases kind with
  | function => simp only [symbolKind]; split <;> simp
  | asyncFunction => simp only [symbolKind]; split <;> simp
  | classDef => simp [symbolKind]

mutual

/-- A definition is no module. -/
theorem kind_of_mem_visit {owner : Visited} {visited : Visited} (definition : Definition)
    (h : visited ∈ visit owner definition) : visited.kind ≠ .module := by
  cases definition with
  | mk kind name declaredGlobal firstLine line body =>
    rw [visit] at h
    rcases List.mem_cons.1 h with rfl | h
    · exact symbolKind_ne_module owner kind
    · exact kind_of_mem_visitAll body h

theorem kind_of_mem_visitAll {owner : Visited} {visited : Visited} (body : List Definition)
    (h : visited ∈ visitAll owner body) : visited.kind ≠ .module := by
  cases body with
  | nil => simp [visitAll] at h
  | cons definition rest =>
    rw [visitAll] at h
    rcases List.mem_append.1 h with h | h
    · exact kind_of_mem_visit definition h
    · exact kind_of_mem_visitAll rest h

end

theorem mem_of_mem_newSymbols {entry : Visited × Nat} {seen rest : List Visited}
    (h : entry ∈ newSymbols seen rest) : entry.1 ∈ rest := by
  induction rest generalizing seen with
  | nil => simp [newSymbols] at h
  | cons visited rest ih =>
    rcases List.mem_cons.1 h with rfl | h
    · exact List.mem_cons_self
    · exact List.mem_cons_of_mem _ (ih h)

/-- The ordinal of a definition counts those of its key that are met before it. -/
theorem ordinal_of_mem_newSymbols {visited : Visited} {ordinal : Nat} {seen rest : List Visited}
    (hnodup : rest.Nodup) (h : (visited, ordinal) ∈ newSymbols seen rest) :
    ordinal = (seen ++ rest.takeWhile (· ≠ visited)).countP (·.key = visited.key) := by
  induction rest generalizing seen with
  | nil => simp [newSymbols] at h
  | cons first rest ih =>
    obtain ⟨hfirst, hrest⟩ := List.nodup_cons.1 hnodup
    rcases List.mem_cons.1 h with heq | h
    · cases heq
      simp
    · have hne : first ≠ visited := fun heq => hfirst (heq ▸ mem_of_mem_newSymbols h)
      rw [ih hrest h, List.takeWhile_cons_of_pos (by simpa using hne), List.append_assoc]
      rfl

/-- The module of a file is its only symbol of that kind. -/
theorem moduleSymbols_filter_module (text : BuildText) (fileId : SourceFileId)
    (path moduleName : String) (body : List Definition) :
    (moduleSymbols text fileId path moduleName body).filter (·.kind = .module) =
      [definitionSymbol text fileId path (moduleOwner moduleName) 0] := by
  have hrest : ((newSymbols [] (visitAll (moduleOwner moduleName) body)).map fun entry =>
      definitionSymbol text fileId path entry.1 entry.2).filter (·.kind = .module) = [] := by
    rw [List.filter_eq_nil_iff]
    intro symbol hsymbol
    obtain ⟨entry, hentry, rfl⟩ := List.mem_map.1 hsymbol
    simpa [definitionSymbol] using
      kind_of_mem_visitAll body (mem_of_mem_newSymbols hentry)
  rw [moduleSymbols, List.filter_cons_of_pos (by simp [definitionSymbol, moduleOwner]), hrest]

end StateGuard
