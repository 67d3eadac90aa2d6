import StateGuard.Runtime.Instrumentation
import StateGuard.Discovery.Definitions
import StateGuard.Graph.CallPaths
import StateGuard.Python.Text

/-!
# Trace targets of indexed definitions

`compileSymbolDescriptor` compiles the source of an indexed function again, and picks the code that
it watches for among the code objects of the function's qualified name, by the ordinal of the
symbol.

What the compiler makes of a module is taken as given (`CompilesTo`): which definitions it keeps,
in which order their code comes, and under which name.  `traceTarget_iff` says when the picked code
is the symbol's own: the ordinal counts the definitions of one name and one kind that the
extraction met before, and must also count the kept definitions of that name, of any kind, that the
compiler put before.
-/

namespace StateGuard

open Checks
open Python (removePrefix)

/-! ## Code -/

structure CompiledInstruction extends Instruction where
  arg : Option Nat
  deriving DecidableEq

/-- The flags of a code object that tell its shape. -/
structure CodeFlags where
  asyncGenerator : Bool
  generator : Bool
  coroutine : Bool
  deriving DecidableEq

/-- A code object as it is compiled. -/
structure CompiledCode where
  coQualname : String
  coFirstlineno : Nat
  coFlags : CodeFlags
  /-- The digest of `co_code`. -/
  fingerprint : Sha256Digest
  instructions : List CompiledInstruction
  deriving DecidableEq

/-- A code object with the code objects among its constants. -/
inductive CodeTree where
  | mk (code : CompiledCode) (coConsts : List CodeTree)

mutual

/-- `_walk_code`. -/
def walkCode : CodeTree → List CompiledCode
  | .mk _ coConsts => walkConsts coConsts

def walkConsts : List CodeTree → List CompiledCode
  | [] => []
  | .mk code coConsts :: rest => code :: walkCode (.mk code coConsts) ++ walkConsts rest

end

def callableShape (code : CompiledCode) : PythonCallableShape :=
  if code.coFlags.asyncGenerator then .asyncGenerator
  else if code.coFlags.generator then .generator
  else if code.coFlags.coroutine then .coroutine
  else .sync

/-- A descriptor with the line and the ordinal of the definition it was asked for. -/
structure DefinitionDescriptor extends TraceCodeDescriptor where
  definitionLine : Nat
  definitionOrdinal : Nat
  deriving DecidableEq

/-- The offset of the first instruction that starts a call. -/
def CompiledCode.initialResume (code : CompiledCode) : Option Nat :=
  (code.instructions.find? fun instruction =>
    instruction.opname = "RESUME" ∧ instruction.arg = some 0).map (·.offset)

/-- `_descriptor`. -/
def traceDescriptor (relativePath : String) (code : CompiledCode)
    (definitionLine definitionOrdinal : Nat) : Except String DefinitionDescriptor :=
  match code.initialResume with
  | none => .error "target code has no initial CPython RESUME instruction"
  | some resume => .ok
      { sourcePath := relativePath
        qualifiedName := code.coQualname
        definitionLine := definitionLine
        definitionOrdinal := definitionOrdinal
        firstLine := code.coFirstlineno
        codeFingerprint := code.fingerprint
        initialResumeOffset := resume
        shape := callableShape code }

/-! ## The source index -/

structure IndexedFile where
  fileId : SourceFileId
  path : String
  contentFingerprint : Sha256Digest
  deriving DecidableEq

/-- The part of a source index that says where definitions are. -/
structure DefinitionIndex where
  symbols : List DefinitionSymbol
  indexedFiles : List IndexedFile
  /-- No two symbols share an identity. -/
  symbolsUnique : (symbols.map (·.symbolId)).Nodup
  /-- No two files share an identity. -/
  filesUnique : (indexedFiles.map (·.fileId)).Nodup

/-- What the repository and the interpreter say. -/
structure Compilation (Bytes : Type) where
  /-- The bytes at a path below the repository root, where there is a file. -/
  readBytes : String → Option Bytes
  sha256 : Bytes → Sha256Digest
  /-- `compile` of a module, where its source can be compiled. -/
  compile : Bytes → Option CodeTree

def moduleName (index : DefinitionIndex) (symbol : DefinitionSymbol) : Except String String :=
  match (index.symbols.filter fun item =>
      item.sourceFileId = symbol.sourceFileId ∧ item.kind = .module).map (·.qualifiedName) with
  | [name] => .ok name
  | _ => .error "symbol module identity is not unique"

/-- The name of a symbol below its module. -/
def relativeQualname (module qualifiedName : String) : String :=
  removePrefix (module ++ ".") qualifiedName

/-- The code of a file, if it is still the file that was indexed. -/
def currentCode {Bytes : Type} (compilation : Compilation Bytes) (file : IndexedFile) :
    Except String CodeTree := do
  let some raw := compilation.readBytes file.path | .error "FileNotFoundError"
  if compilation.sha256 raw ≠ file.contentFingerprint then
    .error "trace target source bytes are stale"
  else match compilation.compile raw with
  | none => .error "SyntaxError"
  | some compiled => .ok compiled

/-- The descriptor of the candidate that an ordinal leads to. -/
def candidateDescriptor (path : String) (line ordinal : Nat) (candidates : List CompiledCode) :
    Except String DefinitionDescriptor :=
  match candidates[ordinal]? with
  | none => .error "indexed callable ordinal did not resolve exactly"
  | some candidate =>
    if line < candidate.coFirstlineno then
      .error "indexed callable definition line is inconsistent"
    else traceDescriptor path candidate line ordinal

def compileSymbolDescriptor {Bytes : Type} (compilation : Compilation Bytes)
    (index : DefinitionIndex) (symbolId : SymbolId) : Except String DefinitionDescriptor := do
  let some symbol := index.symbols.find? (·.symbolId = symbolId)
    | .error "trace target is not an exact indexed callable"
  if ¬ symbol.kind.callable then .error "trace target is not an exact indexed callable" else
  let some file := index.indexedFiles.find? (·.fileId = symbol.sourceFileId) | .error "KeyError"
  let compiled ← currentCode compilation file
  let module ← moduleName index symbol
  candidateDescriptor file.path symbol.sourceLocation.lineStart symbol.definitionOrdinal
    ((walkCode compiled).filter
      (·.coQualname = relativeQualname module symbol.qualifiedName))

/-! ## What the compiler makes of a module -/

/-- The layout of a module: no two definitions begin on one line, and none begins after its
`def`. -/
structure LaidOut (visited : List Visited) : Prop where
  apart : ∀ first ∈ visited, ∀ second ∈ visited,
    first.firstLine = second.firstLine → first = second
  decorated : ∀ definition ∈ visited, definition.firstLine ≤ definition.line

/-- A module compiles to a tree of code in which the kept definitions come in the given order.  The
other code of the tree, that of lambdas and comprehensions, has no name of a definition. -/
structure CompilesTo (moduleName : String) (visited : List Visited) (kept : List Visited)
    (codeOf : Visited → CompiledCode) (compiled : CodeTree) : Prop where
  kept_sub : ∀ definition ∈ kept, definition ∈ visited
  kept_nodup : kept.Nodup
  qualname : ∀ definition ∈ kept, (codeOf definition).coQualname = definition.codeQualname
  firstLine : ∀ definition ∈ kept, (codeOf definition).coFirstlineno = definition.firstLine
  resumes : ∀ definition ∈ kept, (codeOf definition).initialResume.isSome
  walk : ∀ definition ∈ visited,
    (walkCode compiled).filter
        (·.coQualname = relativeQualname moduleName definition.qualifiedName) =
      (kept.filter (·.codeQualname = relativeQualname moduleName definition.qualifiedName)).map
        codeOf

/-- The kept definitions whose code has the name of a symbol. -/
def namesakes (moduleName : String) (kept : List Visited) (visited : Visited) : List Visited :=
  kept.filter (·.codeQualname = relativeQualname moduleName visited.qualifiedName)

/-- As many kept definitions of the name come before a kept definition as its ordinal says. -/
def OrdinalAgrees (moduleName : String) (kept : List Visited) (visited : Visited)
    (ordinal : Nat) : Prop :=
  visited ∈ kept ∧ visited.codeQualname = relativeQualname moduleName visited.qualifiedName ∧
    (namesakes moduleName (kept.takeWhile (· ≠ visited)) visited).length = ordinal

/-- The ordinal leads to no definition, or to one that begins below the symbol's line. -/
def OrdinalRefused (moduleName : String) (kept : List Visited) (visited : Visited)
    (ordinal : Nat) : Prop :=
  ∀ candidate, (namesakes moduleName kept visited)[ordinal]? = some candidate →
    visited.line < candidate.firstLine

/-! ## The ordinal of a definition -/

/-- The place of an element among those of a list that pass a test. -/
theorem filter_getElem?_eq_some_iff {α : Type} [DecidableEq α] {test : α → Bool} {items : List α}
    (hnodup : items.Nodup) {item : α} {n : Nat} :
    (items.filter test)[n]? = some item ↔
      item ∈ items ∧ test item ∧ ((items.takeWhile (· ≠ item)).filter test).length = n := by
  induction items generalizing n with
  | nil => simp
  | cons first rest ih =>
    obtain ⟨hfirst, hrest⟩ := List.nodup_cons.1 hnodup
    by_cases heq : item = first
    · subst heq
      have hnot : ∀ m, (rest.filter test)[m]? ≠ some item := fun m hm =>
        hfirst (List.mem_of_mem_filter (List.mem_of_getElem? hm))
      by_cases htest : test item
      · cases n with
        | zero => simp [htest]
        | succ n => simp [htest, hnot n]
      · simp [htest, hnot n]
    · have heq' : first ≠ item := fun h => heq h.symm
      by_cases htest : test first
      · cases n with
        | zero => simp [htest, heq', heq]
        | succ n => simp [htest, heq', heq, ih hrest]
      · simp [htest, heq', heq, ih hrest]

theorem ordinalAgrees_iff {moduleName : String} {kept : List Visited} (hnodup : kept.Nodup)
    {visited : Visited} {ordinal : Nat} :
    OrdinalAgrees moduleName kept visited ordinal ↔
      (namesakes moduleName kept visited)[ordinal]? = some visited := by
  rw [namesakes, filter_getElem?_eq_some_iff hnodup]
  simp [OrdinalAgrees, namesakes]

/-- Where the compiler keeps every definition in the order of the extraction, and only definitions
of one kind share a name, every ordinal agrees. -/
theorem ordinalAgrees_of_kept {moduleName : String} {kept : List Visited} (hnodup : kept.Nodup)
    {visited : Visited} {ordinal : Nat} (hentry : (visited, ordinal) ∈ newSymbols [] kept)
    (hnames : ∀ definition ∈ kept,
      definition.codeQualname = relativeQualname moduleName visited.qualifiedName ↔
        definition.key = visited.key) :
    OrdinalAgrees moduleName kept visited ordinal := by
  have hmem := mem_of_mem_newSymbols hentry
  refine ⟨hmem, (hnames visited hmem).2 rfl, ?_⟩
  rw [ordinal_of_mem_newSymbols hnodup hentry, List.nil_append, List.countP_eq_length_filter,
    namesakes]
  congr 1
  refine List.filter_congr fun definition hdefinition => ?_
  exact decide_eq_decide.2 (hnames definition ((List.takeWhile_sublist _).mem hdefinition))

/-! ## The picked code -/

section

variable {Bytes : Type} {compilation : Compilation Bytes} {index : DefinitionIndex}
  {file : IndexedFile} {text : BuildText} {module : String} {body : List Definition}

/-- The index lists a file, and of the symbols of that file those of its module. -/
structure Indexes (text : BuildText) (index : DefinitionIndex) (file : IndexedFile)
    (moduleName : String) (body : List Definition) : Prop where
  listed : file ∈ index.indexedFiles
  symbols : index.symbols.filter (·.sourceFileId = file.fileId) =
    moduleSymbols text file.fileId file.path moduleName body

theorem Indexes.mem (indexed : Indexes text index file module body) {visited : Visited}
    {ordinal : Nat}
    (hentry : (visited, ordinal) ∈ newSymbols [] (visitAll (moduleOwner module) body)) :
    definitionSymbol text file.fileId file.path visited ordinal ∈ index.symbols := by
  have hmem : definitionSymbol text file.fileId file.path visited ordinal ∈
      moduleSymbols text file.fileId file.path module body :=
    List.mem_cons_of_mem _ (List.mem_map.2 ⟨_, hentry, rfl⟩)
  rw [← indexed.symbols] at hmem
  exact List.mem_of_mem_filter hmem

theorem Indexes.moduleName (indexed : Indexes text index file module body)
    {symbol : DefinitionSymbol} (hfile : symbol.sourceFileId = file.fileId) :
    moduleName index symbol = .ok module := by
  have hfilter : index.symbols.filter (fun item =>
      item.sourceFileId = symbol.sourceFileId ∧ item.kind = .module) =
        [definitionSymbol text file.fileId file.path (moduleOwner module) 0] := by
    rw [← moduleSymbols_filter_module text file.fileId file.path module body,
      ← indexed.symbols, List.filter_filter, hfile]
    exact List.filter_congr fun item _ => by rw [Bool.decide_and, Bool.and_comm]
  rw [StateGuard.moduleName, hfilter]
  rfl

/-- What is returned for a symbol of an indexed file. -/
theorem compileSymbolDescriptor_of_indexed (indexed : Indexes text index file module body)
    {visited : Visited} {ordinal : Nat}
    (hentry : (visited, ordinal) ∈ newSymbols [] (visitAll (moduleOwner module) body))
    (hcallable : visited.kind.callable) :
    compileSymbolDescriptor compilation index
        (definitionSymbol text file.fileId file.path visited ordinal).symbolId =
      currentCode compilation file >>= fun compiled =>
        candidateDescriptor file.path visited.line ordinal ((walkCode compiled).filter
          (·.coQualname = relativeQualname module visited.qualifiedName)) := by
  have hsymbol := find?_of_distinct index.symbolsUnique (indexed.mem hentry)
  have hfile := find?_of_distinct index.filesUnique indexed.listed
  have hmodule : moduleName index
      (definitionSymbol text file.fileId file.path visited ordinal) = .ok module :=
    indexed.moduleName rfl
  have hkind : ¬ ¬ (definitionSymbol text file.fileId file.path visited ordinal).kind.callable :=
    not_not.2 hcallable
  have hsource : (definitionSymbol text file.fileId file.path visited ordinal).sourceFileId =
    file.fileId := rfl
  simp only [compileSymbolDescriptor, hsymbol, if_neg hkind, hsource, hfile, hmodule]
  rfl

/-- The code that is picked for a symbol of a file that has not changed. -/
theorem compileSymbolDescriptor_eq (indexed : Indexes text index file module body)
    {visited : Visited} {ordinal : Nat}
    (hentry : (visited, ordinal) ∈ newSymbols [] (visitAll (moduleOwner module) body))
    (hcallable : visited.kind.callable) {compiled : CodeTree}
    (hcurrent : currentCode compilation file = .ok compiled) {kept : List Visited}
    {codeOf : Visited → CompiledCode}
    (hcompiles : CompilesTo module (visitAll (moduleOwner module) body) kept codeOf compiled) :
    compileSymbolDescriptor compilation index
        (definitionSymbol text file.fileId file.path visited ordinal).symbolId =
      candidateDescriptor file.path visited.line ordinal
        ((namesakes module kept visited).map codeOf) := by
  have hwalk := hcompiles.walk visited (mem_of_mem_newSymbols hentry)
  rw [compileSymbolDescriptor_of_indexed indexed hentry hcallable, hcurrent, ok_bind, hwalk,
    namesakes]

/-- A descriptor of code that resumes says its first line. -/
theorem traceDescriptor_eq_ok (path : String) {code : CompiledCode} (line ordinal : Nat)
    (hresumes : code.initialResume.isSome) :
    ∃ descriptor, traceDescriptor path code line ordinal = .ok descriptor ∧
      descriptor.firstLine = code.coFirstlineno := by
  obtain ⟨resume, hresume⟩ := Option.isSome_iff_exists.1 hresumes
  exact ⟨_, by rw [traceDescriptor, hresume], rfl⟩

/-- A descriptor that is returned is that of the symbol's own definition exactly if the ordinal
agrees with the order of the kept definitions, or is refused. -/
theorem traceTarget_iff (indexed : Indexes text index file module body)
    (laidOut : LaidOut (visitAll (moduleOwner module) body)) {kept : List Visited}
    {codeOf : Visited → CompiledCode}
    (hcompiles : ∀ compiled, currentCode compilation file = .ok compiled →
      CompilesTo module (visitAll (moduleOwner module) body) kept codeOf compiled)
    {visited : Visited} {ordinal : Nat}
    (hentry : (visited, ordinal) ∈ newSymbols [] (visitAll (moduleOwner module) body))
    (hcallable : visited.kind.callable) :
    (∀ descriptor, compileSymbolDescriptor compilation index
        (definitionSymbol text file.fileId file.path visited ordinal).symbolId = .ok descriptor →
      visited ∈ kept ∧
        traceDescriptor file.path (codeOf visited) visited.line ordinal = .ok descriptor) ↔
      (∀ compiled, currentCode compilation file ≠ .ok compiled) ∨
        OrdinalRefused module kept visited ordinal ∨
        OrdinalAgrees module kept visited ordinal := by
  have hmem := mem_of_mem_newSymbols hentry
  cases hcurrent : currentCode compilation file with
  | error message =>
    rw [compileSymbolDescriptor_of_indexed indexed hentry hcallable, hcurrent]
    constructor
    · intro _
      exact Or.inl fun compiled h => by cases h
    · intro _ descriptor h
      cases h
  | ok compiled =>
    have hcompiles := hcompiles compiled hcurrent
    rw [compileSymbolDescriptor_eq indexed hentry hcallable hcurrent hcompiles,
      candidateDescriptor, List.getElem?_map, ordinalAgrees_iff hcompiles.kept_nodup,
      OrdinalRefused]
    cases hfound : (namesakes module kept visited)[ordinal]? with
    | none =>
      constructor
      · intro _
        exact Or.inr (Or.inl fun candidate h => by cases h)
      · intro _ descriptor h
        cases h
    | some candidate =>
      have hkept : candidate ∈ kept := List.mem_of_mem_filter (List.mem_of_getElem? hfound)
      have hfirst := hcompiles.firstLine candidate hkept
      obtain ⟨found, hdescriptor, hline⟩ := traceDescriptor_eq_ok file.path visited.line ordinal
        (hcompiles.resumes candidate hkept)
      simp only [Option.map_some, hfirst]
      split
      next hbelow =>
        constructor
        · intro _
          exact Or.inr (Or.inl fun other h => by cases h; exact hbelow)
        · intro _ descriptor h
          cases h
      next hbelow =>
        constructor
        · intro hown
          obtain ⟨hvisited, hsame⟩ := hown found hdescriptor
          obtain ⟨own, hown, hownLine⟩ := traceDescriptor_eq_ok file.path visited.line
            ordinal (hcompiles.resumes visited hvisited)
          -- the descriptors are one, so the two definitions begin on one line
          have hlines : visited.firstLine = candidate.firstLine := by
            rw [← hcompiles.firstLine visited hvisited, ← hownLine, ← hfirst, ← hline]
            rw [hown] at hsame
            exact congrArg (·.firstLine) (Except.ok.inj hsame)
          rw [laidOut.apart visited hmem candidate (hcompiles.kept_sub candidate hkept) hlines]
          exact Or.inr (Or.inr rfl)
        · rintro (hstale | hrefused | hagrees) descriptor hreturned
          · exact absurd rfl (hstale compiled)
          · exact absurd (hrefused candidate rfl) hbelow
          · cases Option.some.inj hagrees
            exact ⟨hkept, hreturned⟩

end

/-! ## A function that is defined twice -/

namespace TwiceDefined

/-- `def ship` on the first line, and `async def ship` on the third. -/
def body : List Definition :=
  [.mk .function "ship" false 1 1 [], .mk .asyncFunction "ship" false 3 3 []]

def ship : Visited := ⟨"shop.ship", .function, "ship", 1, 1⟩

def asyncShip : Visited := ⟨"shop.ship", .asyncFunction, "ship", 3, 3⟩

def codeOf (visited : Visited) : CompiledCode where
  coQualname := visited.codeQualname
  coFirstlineno := visited.firstLine
  coFlags := ⟨false, false, visited.kind = .asyncFunction⟩
  fingerprint := visited.kind.value
  instructions := [⟨⟨0, "RESUME"⟩, some 0⟩, ⟨⟨2, "RETURN_VALUE"⟩, none⟩]

def compiled : CodeTree :=
  .mk (codeOf (moduleOwner "shop")) [.mk (codeOf ship) [], .mk (codeOf asyncShip) []]

def file : IndexedFile := ⟨"sgfile_1", "shop.py", "sha256:shop"⟩

def index : DefinitionIndex where
  symbols := moduleSymbols plainText file.fileId file.path "shop" body
  indexedFiles := [file]
  symbolsUnique := by decide
  filesUnique := by decide

def compilation : Compilation Unit where
  readBytes := fun _ => some ()
  sha256 := fun _ => "sha256:shop"
  compile := fun _ => some compiled

theorem indexed : Indexes plainText index file "shop" body where
  listed := by decide
  symbols := by decide

theorem laidOut : LaidOut (visitAll (moduleOwner "shop") body) where
  apart := by decide
  decorated := by decide

theorem compilesTo (code : CodeTree) (hcurrent : currentCode compilation file = .ok code) :
    CompilesTo "shop" (visitAll (moduleOwner "shop") body) [ship, asyncShip] codeOf code := by
  have hcode : code = compiled := (Except.ok.inj hcurrent).symm
  subst hcode
  exact
    { kept_sub := by decide
      kept_nodup := by decide
      qualname := by decide
      firstLine := by decide
      resumes := by decide
      walk := by decide }

end TwiceDefined

open TwiceDefined in
theorem ship_traced :
    ∃ descriptor, compileSymbolDescriptor compilation index
        (definitionSymbol plainText file.fileId file.path ship 0).symbolId = .ok descriptor ∧
      ship ∈ [ship, asyncShip] ∧
        traceDescriptor file.path (codeOf ship) ship.line 0 = .ok descriptor := by
  have hreturned : compileSymbolDescriptor compilation index
      (definitionSymbol plainText file.fileId file.path ship 0).symbolId =
        traceDescriptor file.path (codeOf ship) ship.line 0 := by decide
  have hentry : (ship, 0) ∈ newSymbols [] (visitAll (moduleOwner "shop") body) := by decide
  have hown := (traceTarget_iff indexed laidOut compilesTo hentry (by decide)).2
    (Or.inr (Or.inr ⟨by decide, by decide, by decide⟩))
  exact ⟨_, hreturned.trans rfl, hown _ (hreturned.trans rfl)⟩

open TwiceDefined in
/-- The second definition is the first of its kind, and its ordinal leads to the code of the first
definition. -/
theorem asyncShip_mistraced :
    ¬ ∀ descriptor, compileSymbolDescriptor compilation index
        (definitionSymbol plainText file.fileId file.path asyncShip 0).symbolId = .ok descriptor →
      asyncShip ∈ [ship, asyncShip] ∧
        traceDescriptor file.path (codeOf asyncShip) asyncShip.line 0 = .ok descriptor := by
  intro hown
  have hreturned : compileSymbolDescriptor compilation index
      (definitionSymbol plainText file.fileId file.path asyncShip 0).symbolId =
        traceDescriptor file.path (codeOf ship) asyncShip.line 0 := by decide
  have hsync := (hown _ (hreturned.trans rfl)).2
  exact absurd hsync (by decide)

end StateGuard
