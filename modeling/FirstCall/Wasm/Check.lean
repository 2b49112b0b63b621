import FirstCall.Wasm.Decode

/-!
# Checking

A module is checked as a whole before it is used. Code is checked against a stack of operand
types: every operator takes the operands that it needs and leaves its results, and a block ends
with exactly its results. After an operator that does not return, operands of any type may be
taken.
-/

namespace FirstCall.Wasm

namespace Check

/-- The largest number of tables, and of memories, that a module may have. -/
def mostTables : Nat := 100

def mostEntries : Nat := 10000000

def mostPages : Nat := 65536

def require (condition : Bool) (defect : Defect) : Except Defect Unit :=
  if condition then .ok () else .error defect

def entry {α : Type} (space : Space) (items : Array α) (index : Nat) : Except Defect α :=
  match items[index]? with
  | some item => .ok item
  | none => .error (.unknownIndex space index)

/-- What the index spaces of a module hold. -/
structure Context where
  types : Array FuncType
  funcs : Array FuncType
  tables : Array TableType
  memories : Array MemoryType
  globals : Array GlobalType
  /-- How many globals are imported; constant expressions may read only those. -/
  importedGlobals : Nat
  elems : Array RefType
  /-- The number of data segments, as far as code may name them. -/
  datas : Nat
  /-- The functions that code may turn into references. -/
  declared : List Nat

/-- The types of the operands, the topmost first. An operand that was taken from nowhere, after an
operator that does not return, has no known type. -/
structure Operands where
  known : List (Option ValType)
  /-- Whether further operands can be taken from nowhere. -/
  isOpen : Bool
  deriving DecidableEq, Repr

namespace Operands

def push (stack : Operands) (type : ValType) : Operands :=
  { stack with known := some type :: stack.known }

def pushAll (stack : Operands) (types : List ValType) : Operands :=
  types.foldl push stack

def popAny (stack : Operands) : Except Defect (Option ValType × Operands) :=
  match stack.known with
  | top :: below => .ok (top, { stack with known := below })
  | [] => if stack.isOpen then .ok (none, stack) else .error .stackMismatch

def pop (stack : Operands) (type : ValType) : Except Defect Operands := do
  let (top, below) ← stack.popAny
  match top with
  | none => pure below
  | some found => if found = type then pure below else .error .typeMismatch

/-- Takes operands whose types are given from the bottom to the top. -/
def popAll (stack : Operands) (types : List ValType) : Except Defect Operands :=
  types.reverse.foldlM pop stack

/-- The stack after an operator that does not return. -/
def unreachable : Operands := ⟨[], true⟩

def finish (stack : Operands) (types : List ValType) : Except Defect Unit := do
  let below ← stack.popAll types
  require below.known.isEmpty .stackMismatch

end Operands

/-- What is in scope inside a function. -/
structure Scope where
  context : Context
  locals : Array ValType
  results : List ValType
  /-- What a branch to each enclosing block takes, the innermost block first. -/
  labels : List (List ValType)

namespace Scope

/-- What a branch to an enclosing block takes. -/
def label (scope : Scope) (index : Nat) : Except Defect (List ValType) :=
  match scope.labels[index]? with
  | some types => .ok types
  | none => .error (.unknownIndex .label index)

/-- The scope inside a block to which branches carry the given types. -/
def enter (scope : Scope) (types : List ValType) : Scope :=
  { scope with labels := types :: scope.labels }

end Scope

def signature (context : Context) (type : BlockType) : Except Defect FuncType :=
  match type.signature? context.types with
  | some found => .ok found
  | none =>
    match type with
    | .index i => .error (.unknownIndex .type i)
    | _ => .error .typeMismatch

/-- The effect of an operator with the given operands and results. -/
def effect (stack : Operands) (params results : List ValType) : Except Defect Operands := do
  let below ← stack.popAll params
  pure (below.pushAll results)

/-- A conditional choice between two values of one type, which are no references. -/
def select (stack : Operands) : Except Defect Operands := do
  let (first, below) ← (← stack.pop .i32).popAny
  let (second, rest) ← below.popAny
  require (first.all ValType.isNumeric && second.all ValType.isNumeric) .typeMismatch
  match first, second with
  | some one, some other =>
    if one = other then pure (rest.push one) else .error .typeMismatch
  | some one, none => pure (rest.push one)
  | none, some other => pure (rest.push other)
  | none, none => pure { rest with known := none :: rest.known }

/-- Checks an access. An atomic one has to promise the natural alignment. -/
def access (context : Context) (found : Access) (arg : MemArg) : Except Defect Unit := do
  require (if found.isAtomic then arg.alignment = found.alignment
    else arg.alignment ≤ found.alignment) .badAlignment
  let _ ← entry .memory context.memories arg.memory
  require found.laneExists .unknownLane

/-- Checks that every branch of a choice carries values of the types of the last one. -/
def choice (scope : Scope) (stack : Operands) (labels : List Nat) (otherwise : List ValType) :
    Except Defect Unit :=
  labels.forM fun index => do
    let types ← scope.label index
    require (types.length = otherwise.length) .typeMismatch
    let _ ← stack.popAll types

def tailCall (scope : Scope) (stack : Operands) (type : FuncType) : Except Defect Operands := do
  require (type.results = scope.results) .typeMismatch
  let _ ← stack.popAll type.params
  pure .unreachable

/-- What tells where the references start that are written into a table. -/
def refSource (context : Context) (table : TableType) : RefSource → Except Defect ValType
  | .fill => pure (.ref table.elem)
  | .table index => do
    let source ← entry .table context.tables index
    require (source.elem = table.elem) .typeMismatch
    pure .i32
  | .segment index => do
    let elem ← entry .segment context.elems index
    require (elem = table.elem) .typeMismatch
    pure .i32

/-- Checks where the bytes come from that are written into a memory. -/
def byteSource (context : Context) : ByteSource → Except Defect Unit
  | .fill => pure ()
  | .memory index => discard (entry .memory context.memories index)
  | .segment index => require (index < context.datas) (.unknownIndex .segment index)

def indirect (context : Context) (typeIndex tableIndex : Nat) : Except Defect FuncType := do
  let table ← entry .table context.tables tableIndex
  require (table.elem == .func) .typeMismatch
  entry .type context.types typeIndex

/-- Checks one operator: the operands before it to those after it. -/
def op (scope : Scope) (stack : Operands) : Op → Except Defect Operands
  | .unreachable => pure .unreachable
  | .nop => pure stack
  | .br index => do
    let _ ← stack.popAll (← scope.label index)
    pure .unreachable
  | .brIf index => do
    let types ← scope.label index
    effect (← stack.pop .i32) types types
  | .brTable labels otherwise => do
    let below ← stack.pop .i32
    let types ← scope.label otherwise
    choice scope below labels types
    let _ ← below.popAll types
    pure .unreachable
  | .ret => do
    let _ ← stack.popAll scope.results
    pure .unreachable
  | .call index => do
    let type ← entry .function scope.context.funcs index
    effect stack type.params type.results
  | .callIndirect typeIndex tableIndex => do
    let type ← indirect scope.context typeIndex tableIndex
    effect (← stack.pop .i32) type.params type.results
  | .tailCall index => do
    tailCall scope stack (← entry .function scope.context.funcs index)
  | .tailCallIndirect typeIndex tableIndex => do
    let type ← indirect scope.context typeIndex tableIndex
    tailCall scope (← stack.pop .i32) type
  | .drop => do
    let (_, below) ← stack.popAny
    pure below
  | .select => select stack
  | .selectTyped type => effect stack [type, type, .i32] [type]
  | .localGet index => do
    pure (stack.push (← entry .local scope.locals index))
  | .localSet index => do
    stack.pop (← entry .local scope.locals index)
  | .localTee index => do
    let type ← entry .local scope.locals index
    effect stack [type] [type]
  | .globalGet index => do
    pure (stack.push (← entry .global scope.context.globals index).type)
  | .globalSet index => do
    let type ← entry .global scope.context.globals index
    require type.isMutable (.immutableGlobal index)
    stack.pop type.type
  | .tableGet index => do
    let table ← entry .table scope.context.tables index
    effect stack [.i32] [.ref table.elem]
  | .tableSet index => do
    let table ← entry .table scope.context.tables index
    effect stack [.i32, .ref table.elem] []
  | .tableSize index => do
    let _ ← entry .table scope.context.tables index
    pure (stack.push .i32)
  | .tableGrow index => do
    let table ← entry .table scope.context.tables index
    effect stack [.ref table.elem, .i32] [.i32]
  | .tableWrite index source => do
    let table ← entry .table scope.context.tables index
    let start ← refSource scope.context table source
    effect stack [.i32, start, .i32] []
  | .elemDrop index => do
    let _ ← entry .segment scope.context.elems index
    pure stack
  | .access found arg => do
    access scope.context found arg
    effect stack (.i32 :: found.operands) found.result?.toList
  | .memorySize index => do
    let _ ← entry .memory scope.context.memories index
    pure (stack.push .i32)
  | .memoryGrow index => do
    let _ ← entry .memory scope.context.memories index
    effect stack [.i32] [.i32]
  | .memoryWrite index source => do
    let _ ← entry .memory scope.context.memories index
    byteSource scope.context source
    effect stack [.i32, .i32, .i32] []
  | .dataDrop index => do
    byteSource scope.context (.segment index)
    pure stack
  | .const32 _ => pure (stack.push .i32)
  | .const64 _ => pure (stack.push .i64)
  | .constF32 _ => pure (stack.push .f32)
  | .constF64 _ => pure (stack.push .f64)
  | .constV128 _ => pure (stack.push .v128)
  | .numeric found => do
    require found.lanesExist .unknownLane
    effect stack found.params [found.result]
  | .refNull type => pure (stack.push (.ref type))
  | .refIsNull => do
    let (top, below) ← stack.popAny
    require (!top.any ValType.isNumeric) .typeMismatch
    pure (below.push .i32)
  | .refFunc index => do
    let _ ← entry .function scope.context.funcs index
    require (scope.context.declared.contains index) (.undeclaredReference index)
    pure (stack.push (.ref .func))

/-- Checks code from the operands that it finds to those that it leaves. -/
def code : Scope → Code → Operands → Except Defect Operands
  | _, .done, stack => pure stack
  | scope, .op first rest, stack => do
    code scope rest (← op scope stack first)
  | scope, .block type body rest, stack => do
    let sig ← signature scope.context type
    let below ← stack.popAll sig.params
    let inner ← code (scope.enter sig.results) body (Operands.pushAll ⟨[], false⟩ sig.params)
    inner.finish sig.results
    code scope rest (below.pushAll sig.results)
  | scope, .loop type body rest, stack => do
    let sig ← signature scope.context type
    let below ← stack.popAll sig.params
    let inner ← code (scope.enter sig.params) body (Operands.pushAll ⟨[], false⟩ sig.params)
    inner.finish sig.results
    code scope rest (below.pushAll sig.results)
  | scope, .ite type yes no rest, stack => do
    let sig ← signature scope.context type
    let below ← (← stack.pop .i32).popAll sig.params
    let first ← code (scope.enter sig.results) yes (Operands.pushAll ⟨[], false⟩ sig.params)
    first.finish sig.results
    let second ← code (scope.enter sig.results) no (Operands.pushAll ⟨[], false⟩ sig.params)
    second.finish sig.results
    code scope rest (below.pushAll sig.results)

def func (context : Context) (f : Func) : Except Defect Unit := do
  let type ← entry .type context.types f.type
  let count := type.params.length + f.locals.length
  require (count ≤ Decode.mostLocals) (.tooMany count)
  let scope : Scope := {
    context
    locals := (type.params ++ f.locals).toArray
    results := type.results
    labels := [type.results] }
  let left ← code scope f.body ⟨[], false⟩
  left.finish type.results

def isConstant (context : Context) : Op → Bool
  | .const32 _ => true
  | .const64 _ => true
  | .constF32 _ => true
  | .constF64 _ => true
  | .constV128 _ => true
  | .refNull _ => true
  | .refFunc _ => true
  | .numeric (.binary _ .add) => true
  | .numeric (.binary _ .sub) => true
  | .numeric (.binary _ .mul) => true
  | .globalGet index =>
    index < context.importedGlobals && (context.globals[index]?).all (!·.isMutable)
  | _ => false

/-- Checks that a constant expression leaves one value of the given type. -/
def constExpr (context : Context) (type : ValType) (expr : ConstExpr) : Except Defect Unit := do
  require (expr.all (isConstant context)) .notConstant
  let scope : Scope := ⟨context, #[], [], []⟩
  let left ← expr.foldlM (op scope) ⟨[], false⟩
  left.finish [type]

/-- The functions to which an operator refers. -/
def refersTo : Op → List Nat
  | .refFunc index => [index]
  | _ => []

/-- The functions that a module names outside its code. -/
def declared (m : Module) : List Nat :=
  let exprs := m.globals.map Global.start ++ m.elems.flatMap ElemSegment.items
  exprs.flatMap (·.flatMap refersTo) ++
    m.exports.filterMap fun e => match e.item with | .func index => some index | _ => none

def bounds (size : Bounds) (most : Nat) : Except Defect Unit :=
  require (size.least ≤ most && size.most.all (size.least ≤ ·)) .badLimits

def table (type : TableType) : Except Defect Unit := bounds type.bounds mostEntries

def memory (type : MemoryType) : Except Defect Unit := do
  bounds type.bounds mostPages
  require (type.bounds.most.all (· ≤ mostPages)) .badLimits
  require (!type.isShared || type.bounds.most.isSome) .badLimits

def exported (context : Context) (e : Export) : Except Defect Unit :=
  match e.item with
  | .func index => discard (entry .function context.funcs index)
  | .table index => discard (entry .table context.tables index)
  | .memory index => discard (entry .memory context.memories index)
  | .global index => discard (entry .global context.globals index)

def distinctNames : List String → Except Defect Unit
  | [] => pure ()
  | label :: rest =>
    if rest.contains label then .error (.duplicateExport label) else distinctNames rest

def start (context : Context) (index : Nat) : Except Defect Unit := do
  let type ← entry .function context.funcs index
  require (type == ⟨[], []⟩) .badStart

def elem (context : Context) (segment : ElemSegment) : Except Defect Unit := do
  match segment.mode with
  | .active index offset =>
    let table ← entry .table context.tables index
    require (table.elem == segment.type) .typeMismatch
    constExpr context .i32 offset
  | .passive => pure ()
  | .declarative => pure ()
  segment.items.forM (constExpr context (.ref segment.type))

def data (context : Context) (segment : DataSegment) : Except Defect Unit := do
  match segment.mode with
  | .active index offset =>
    let _ ← entry .memory context.memories index
    constExpr context .i32 offset
  | .passive => pure ()

end Check

namespace Module

/-- The index spaces of the module, if every function has a type. -/
def context (m : Module) : Except Defect Check.Context := do
  let funcs ← m.funcTypes.mapM (Check.entry .type m.types)
  pure {
    types := m.types
    funcs := funcs.toArray
    tables := m.tableTypes.toArray
    memories := m.memoryTypes.toArray
    globals := m.globalTypes.toArray
    importedGlobals := m.importedGlobals.length
    elems := (m.elems.map ElemSegment.type).toArray
    datas := m.dataCount.getD 0
    declared := Check.declared m }

/-- Checks a module, one part after the other. -/
def check (m : Module) : Except Defect Unit := do
  let context ← m.context
  m.tableTypes.forM Check.table
  m.memoryTypes.forM Check.memory
  Check.require (m.tableTypes.length ≤ Check.mostTables) (.tooMany m.tableTypes.length)
  Check.require (m.memoryTypes.length ≤ Check.mostTables) (.tooMany m.memoryTypes.length)
  m.globals.forM fun g => Check.constExpr context g.type.type g.start
  m.exports.forM (Check.exported context)
  Check.distinctNames (m.exports.map Export.name)
  m.start.forM (Check.start context)
  m.elems.forM (Check.elem context)
  m.datas.forM (Check.data context)
  m.funcs.forM (Check.func context)

/-- The valid module that a blob describes. -/
def ofBlob (blob : Bytes) : Except Defect Module := do
  let m ← decode blob
  m.check
  pure m

end Module

end FirstCall.Wasm
