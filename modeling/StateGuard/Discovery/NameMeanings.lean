import StateGuard.Discovery.Extraction
import StateGuard.Graph.CallPaths
import StateGuard.Python.Bindings

/-!
# The meaning of references

The import and the symbol that the resolution finds for a reference, and what the reference denotes
by the rules of Python.  The resolution is sound for a reference if the reference denotes what was
found whenever it is evaluated (`NameUse.Sound`).
-/

namespace StateGuard

open Python

/-- What a reference is to stand for. -/
inductive NameWant where
  /-- What is imported under a canonical name. -/
  | imported (canonical : String)
  | symbol (symbolId : SymbolId)
  deriving DecidableEq, Repr

/-- What the program does not say of itself: which names are builtins, and of which bindings it is
known what a name or an attribute of it then stands for.  The attributes of classes and of their
instances are known in this way only. -/
structure KnownNames where
  builtin : String → Bool
  given : Binding → List String → NameWant → Bool

section

variable (text : BuildText) (files : List ProjectFile) (known : KnownNames)

/-- Whether a binding makes a name the import or the symbol that is wanted. -/
def checkName (want : NameWant) (b : Binding) (v : Variable) : NameFlow.Verdict NameWant :=
  if known.given b v.2 want then .yes
  else
    match want, b.source, b.reference with
    | .imported canonical, .imported .., .absolute path =>
      if String.intercalate "." path = canonical then .yes else .no
    | .symbol symbolId, .imported .., .absolute path =>
      if files.any fun file =>
        file.moduleName = path ++ v.2.tail ∧ moduleSymbolId text file = symbolId then .yes
      else .reads want
    | .symbol symbolId, .definition info, _ =>
      if v.2.tail = [] ∧
        files.any fun file => symbolOfNode text file info.identity = some symbolId then .yes
      else .no
    | _, .value (.call ..), _ => .no
    | _, .value _, _ => .reads want
    | _, .deleted, _ => if b.name.any known.builtin then .no else .yes
    | _, _, _ => .no

/-- An unbound name raises, if it is no builtin. -/
def nameDemand : NameFlow.Demand Binding Variable NameWant where
  unbound _ v := known.builtin (v.2.headD "") = false
  check := checkName text files known

end

/-- The symbol that a node belongs to: that of the innermost function, class or module. -/
def ownerSymbol (text : BuildText) (file : ProjectFile) : List Level → Option SymbolId
  | [] => none
  | level :: outer =>
    match level.frame.kind with
    | .module => some (moduleSymbolId text file)
    | .function | .classBody => symbolOfNode text file level.frame.info.identity
    | .lambda | .comprehension | .generator => ownerSymbol text file outer

/-- A reference in a file of the project, in the scope of a symbol. -/
structure NameUse where
  text : BuildText
  files : List ProjectFile
  file : ProjectFile
  levels : List Level
  e : Expr
  /-- The name with its attributes. -/
  path : List String
  reference : String
  owner : SymbolId
  listed : file ∈ files
  runs : RunsIn file.toSourceFile levels (.expr e)
  isPath : e.path = some path
  isReference : referenceFor e = some reference
  isOwner : ownerSymbol text file levels = some owner

namespace NameUse

variable (use : NameUse) (known : KnownNames)

/-- The analyses of the files. -/
def modules : List ModuleAnalysis := use.files.map (analyzeModule use.text)

/-- The files of the program. -/
def program : List SourceFile := use.files.map (·.toSourceFile)

/-- The name that the reference starts with. -/
def root : List String := [use.path.headD ""]

/-- `canonicalize_reference` finds an import for the name that the reference starts with. -/
def Imports (canonical : String) : Prop :=
  startsWith "<" use.reference = false ∧
    importAlong use.modules (beforeFirst '.' use.reference)
      (scopeChain use.modules (scopeCount use.modules) use.owner) = some canonical

/-- `resolve_call_symbol` returns a symbol. -/
def Resolves (symbolId : SymbolId) : Prop :=
  resolveCallSymbol use.modules use.owner use.reference = some symbolId

/-- Whenever the reference is evaluated, it denotes what is wanted, or its evaluation raises. -/
def Sound (path : List String) (want : NameWant) : Prop :=
  ∀ bound, Denotes use.program use.file.toSourceFile use.levels path bound →
    (nameDemand use.text use.files known).Met (namesOf use.program)
      (variableOf use.file.toSourceFile use.levels path) bound want

/-- Another binding than the import or the definition that is wanted reaches the reference along the
text: in the scope that Python looks the name up in, and by way of the imports and the copies. -/
def Rebound (path : List String) (want : NameWant) : Prop :=
  SpoiledAt use.program use.file.toSourceFile (nameDemand use.text use.files known) use.levels
    path want

end NameUse

-- `from billing import charge` and then `charge = None`, before a call of `charge`
namespace DroppedImport

def infoAt (identity line : Nat) : NodeInfo := ⟨identity, line, 0, line, 30⟩

def definition (identity line : Nat) (name : String) (body : List Stmt) : Stmt :=
  .functionDef (infoAt identity line) false name ⟨[], [], none, [], [], none, []⟩ body [] none

def fileOf (name : String) (body : List Stmt) : ProjectFile where
  moduleName := [name]
  package := false
  table := NameTable.empty
  body := body
  fileId := name
  path := name ++ ".py"

def billing : ProjectFile :=
  fileOf "billing" [definition 1 1 "charge" [.plain (infoAt 2 2) (.other "Pass") []]]

def none_ : Expr := .constant (infoAt 14 2) .none

def callee : Expr := .name (infoAt 18 4) "charge" true

def main : ProjectFile :=
  fileOf "main"
    [.plain (infoAt 11 1) (.importFrom (some "billing") [⟨"charge", none⟩]) [],
      .assign (infoAt 12 2) [.name (infoAt 13 2) "charge" false] none_,
      definition 15 3 "handler" [.expr (infoAt 16 4) (.call (infoAt 17 4) callee [] [])]]

def outer : Level := ⟨moduleFrame main.toSourceFile, 2⟩

def inner : Level :=
  ⟨functionFrame (infoAt 15 3) ⟨[], [], none, [], [], none, []⟩
    [.expr (infoAt 16 4) (.call (infoAt 17 4) callee [] [])], 0⟩

def use : NameUse where
  text := plainText
  files := [billing, main]
  file := main
  levels := [inner, outer]
  e := callee
  path := ["charge"]
  reference := "charge"
  owner := plainText.stableId "sgsym" ["main", "main.handler", "FUNCTION", "0"]
  listed := by simp
  runs := .child (.child (.function (.module rfl) rfl) (List.mem_singleton_self _))
    (List.mem_singleton_self _)
  isPath := rfl
  isReference := rfl
  isOwner := by decide +kernel

def charge : SymbolId := plainText.stableId "sgsym" ["billing", "billing.charge", "FUNCTION", "0"]

theorem resolves : use.Resolves charge := by
  unfold NameUse.Resolves
  decide +kernel

def dropped : Binding :=
  ⟨.module ["main"], some "charge", .value none_, infoAt 12 2, .unknown⟩

def known : KnownNames := ⟨fun _ => false, fun _ _ _ => false⟩

end DroppedImport

end StateGuard
