import StateGuard.Discovery.Extraction
import StateGuard.Discovery.FrameworkInstances
import StateGuard.Graph.CallPaths
import StateGuard.Python.Bindings

/-!
# Instances and bindings

A route decorator and an `include_router` call name an application or a router.  The resolver looks
the name up among the bindings that were extracted from the modules (`Looks`).  Here the name is
followed through the bindings of the program: an attribution is sound if the name denotes what the
assignment of the instance has made, whenever the call is evaluated.
-/

namespace StateGuard

open Python

/-- `_ROUTE_METHODS`. -/
def routeMethods : List String :=
  ["get", "put", "post", "delete", "options", "head", "patch", "trace", "api_route"]

/-- `str.rpartition(separator)[0]`: the text before the last separator. -/
def beforeLast (separator : Char) (text : String) : String :=
  String.ofList ((text.toList.reverse.dropWhile (· ≠ separator)).drop 1).reverse

/-- A query of the resolver for a reference at a position of a file. -/
def referenceAt (file : ProjectFile) (reference : String) (info : NodeInfo) : InstanceQuery :=
  .reference file.dottedName reference (locationOf file.path info).position []

/-- A registration names a reference, or an attribute of an application under another name, and the
resolver is asked for the instance. -/
inductive Looks (text : BuildText) (files : List ProjectFile) (file : ProjectFile)
    (levels : List Level) : List String → List String → InstanceQuery → Prop where
  /-- `@registrar.get(…)`. -/
  | route {info async name args body decorators returns call at_ registrar method arguments keywords
        path reference}
      (runs : RunsIn file.toSourceFile levels
        (.stmt (.functionDef info async name args body decorators returns)))
      (decorates : .call call (.attribute at_ registrar method) arguments keywords ∈ decorators)
      (isMethod : method ∈ routeMethods) (isPath : registrar.path = some path)
      (isReference : referenceFor registrar = some reference) :
      Looks text files file levels path [] (referenceAt file reference call)
  /-- `@alias(…)`, after an assignment `alias = registrar.get`. -/
  | boundMethod {info async name args body decorators returns call at_ shortName load arguments
        keywords binding bound}
      (runs : RunsIn file.toSourceFile levels
        (.stmt (.functionDef info async name args body decorators returns)))
      (decorates : .call call (.name at_ shortName load) arguments keywords ∈ decorators)
      (latest : latestBinding (files.map (analyzeModule text)) file.dottedName shortName
        (some (locationOf file.path call).position) = some binding)
      (refers : binding.reference = some bound) (isDotted : dotted bound = true)
      (isMethod : afterLast '.' bound ∈ routeMethods) :
      Looks text files file levels [shortName] [afterLast '.' bound]
        (.reference file.dottedName (beforeLast '.' bound) binding.position [])
  /-- `parent.include_router(…)`. -/
  | parent {call at_ parent arguments keywords path reference}
      (runs : RunsIn file.toSourceFile levels
        (.expr (.call call (.attribute at_ parent "include_router") arguments keywords)))
      (isPath : parent.path = some path) (isReference : referenceFor parent = some reference) :
      Looks text files file levels path [] (referenceAt file reference call)
  /-- `….include_router(router)`. -/
  | router {call at_ parent router arguments keywords path reference}
      (runs : RunsIn file.toSourceFile levels
        (.expr (.call call (.attribute at_ parent "include_router") (router :: arguments)
          keywords)))
      (isParent : (referenceFor parent).isSome = true) (isPath : router.path = some path)
      (isReference : referenceFor router = some reference) :
      Looks text files file levels path [] (referenceAt file reference call)

/-! ## What a name is to stand for -/

/-- What the program does not say of itself: which names are builtins, and of which other bindings
it is known that a name or an attribute of it stands for the object in question. -/
structure KnownObjects where
  builtin : String → Bool
  given : Binding → List String → Bool

section

variable (files : List ProjectFile) (known : KnownObjects) (found : FrameworkInstanceRecord)

/-- The binding that the assignment of an instance makes. -/
def isAssignmentOf (b : Binding) : Bool :=
  files.any fun file =>
    b.scope = .module file.moduleName ∧ locationOf file.path b.site = found.sourceLocation ∧
      b.name.map (fun name => file.dottedName ++ "." ++ name) = some found.qualifiedBindingName

/-- Whether a binding binds a name to an attribute of the instance, or to the instance itself. -/
def checkInstance (tail : List String) (b : Binding) (v : Variable) : NameFlow.Verdict Unit :=
  if known.given b v.2 then .yes
  else
    match b.source with
    | .value (.call ..) => if isAssignmentOf files found b ∧ v.2.tail = tail then .yes else .no
    | .value _ | .imported .. => .reads ()
    | .deleted => if b.name.any known.builtin then .no else .yes
    | .definition _ | .part _ => .no

/-- An unbound name raises, if it is no builtin. -/
def instanceDemand (tail : List String) : NameFlow.Demand Binding Variable Unit where
  unbound _ v := known.builtin (v.2.headD "") = false
  check _ := checkInstance files known found tail

end

/-! ## Registrations -/

/-- A name of a registration, in a file of the project. -/
structure RegistrarUse where
  text : BuildText
  files : List ProjectFile
  file : ProjectFile
  levels : List Level
  /-- The name with its attributes. -/
  path : List String
  /-- The attribute of the instance that the name stands for. -/
  tail : List String
  query : InstanceQuery
  listed : file ∈ files
  looks : Looks text files file levels path tail query

namespace RegistrarUse

variable (use : RegistrarUse) (known : KnownObjects) (found : FrameworkInstanceRecord)

/-- The resolver attributes the registration to an instance. -/
def Attributed : Prop :=
  ∃ fuel, resolveInstance use.text (use.files.map (analyzeModule use.text)) fuel use.query =
    some (some found)

/-- The files of the program. -/
def program : List SourceFile := use.files.map (·.toSourceFile)

/-- Whenever the call is evaluated, the name denotes what the assignment of the instance has made,
or its evaluation raises. -/
def Sound : Prop :=
  ∀ bound, Denotes use.program use.file.toSourceFile use.levels use.path bound →
    (instanceDemand use.files known found use.tail).Met (namesOf use.program)
      (variableOf use.file.toSourceFile use.levels use.path) bound ()

/-- Another binding than the assignment of the instance reaches the name along the text, by way of
the imports and the copies between them. -/
def Rebound : Prop :=
  SpoiledAt use.program use.file.toSourceFile (instanceDemand use.files known found use.tail)
    use.levels use.path ()

end RegistrarUse

-- `app = FastAPI()` and then `from legacy import app`, before a route
namespace LegacyImport

def infoAt (identity line : Nat) : NodeInfo := ⟨identity, line, 0, line, 30⟩

def decorator : Expr :=
  .call (infoAt 10 4) (.attribute (infoAt 11 4) (.name (infoAt 12 4) "app" true) "get")
    [.constant (infoAt 13 4) (.text "/ship")] []

def fromImport (identity line : Nat) (module name : String) : Stmt :=
  .plain (infoAt identity line) (.importFrom (some module) [⟨name, none⟩]) []

def file : ProjectFile where
  moduleName := ["main"]
  package := false
  table := NameTable.empty
  body :=
    [fromImport 2 1 "fastapi" "FastAPI",
      .assign (infoAt 3 2) [.name (infoAt 4 2) "app" false]
        (.call (infoAt 5 2) (.name (infoAt 6 2) "FastAPI" true) [] []),
      fromImport 7 3 "legacy" "app",
      .functionDef (infoAt 8 5) false "ship" ⟨[], [], none, [], [], none, []⟩
        [.plain (infoAt 9 6) (.other "Pass") []] [decorator] none]
  fileId := "file"
  path := "main.py"

def app : FrameworkInstanceRecord :=
  { frameworkInstanceId := plainText.stableId "sgfw" ["file", "main.app", "FASTAPI_APP", "0"]
    sourceFileId := "file"
    qualifiedBindingName := "main.app"
    kind := .fastapiApp
    pathPrefix := some ""
    sourceLocation := ⟨"main.py", 2, 0, 2, 30⟩ }

def level : Level := ⟨moduleFrame file.toSourceFile, 3⟩

def use : RegistrarUse where
  text := plainText
  files := [file]
  file := file
  levels := [level]
  path := ["app"]
  tail := []
  query := referenceAt file "app" (infoAt 10 4)
  listed := List.mem_singleton_self _
  looks := .route (.module rfl) (List.mem_singleton_self _) (by decide) rfl rfl

def legacyBinding : Binding :=
  ⟨.module ["main"], some "app", .imported 0 "legacy" (some "app"), infoAt 7 3,
    .absolute ["legacy", "app"]⟩

/-- Nothing is known of what `legacy` holds. -/
def known : KnownObjects := ⟨fun _ => false, fun _ _ => false⟩

theorem attributed : use.Attributed app := ⟨4, by decide +kernel⟩

end LegacyImport

end StateGuard
