import FirstCall.Wasm.Exec

/-!
# Instantiation

Loading a module into a store: its items are allocated, its element segments are written, then
its data segments, and last its start function runs. A segment that does not fit ends the
loading and writes nothing; what earlier segments wrote stays.
-/

namespace FirstCall.Wasm

def evalConst {κ : Type} (inst : Instance) (store : Store κ) : ConstExpr → List Value → List Value
  | [], stack => stack
  | first :: rest, stack =>
    match perform (ε := Empty) inst store ⟨[], stack⟩ first with
    | .ok (frame, _) => evalConst inst store rest frame.stack
    | .error _ => stack

def constIndex {κ : Type} (inst : Instance) (store : Store κ) (expr : ConstExpr) : Nat :=
  match evalConst inst store expr [] with
  | .i32 value :: _ => value.toNat
  | _ => 0

def constRef {κ : Type} (inst : Instance) (store : Store κ) (expr : ConstExpr) : Ref :=
  match evalConst inst store expr [] with
  | .ref value :: _ => value
  | _ => .null

namespace Module

/-- The addresses of the items of one kind: those of the imported ones, then those of the new. -/
def addresses (imported : List Nat) (first count : Nat) : Array Nat :=
  (imported ++ List.range' first count).toArray

def itemAt? (inst : Instance) : ExternIndex → Option Extern
  | .func index => (inst.funcs[index]?).map .func
  | .table index => (inst.tables[index]?).map .table
  | .memory index => (inst.memories[index]?).map .memory
  | .global index => (inst.globals[index]?).map .global

/-- The instance of a module whose imports are the given items, with new items behind those that the
store already holds. -/
def instanceAt {κ : Type} (m : Module) (items : List Extern) (store : Store κ) : Instance :=
  let inst : Instance := {
    types := m.types
    funcs := addresses (items.filterMap Extern.func?) store.funcs.size m.funcs.length
    tables := addresses (items.filterMap Extern.table?) store.tables.size m.tables.length
    memories := addresses (items.filterMap Extern.memory?) store.memories.size m.memories.length
    globals := addresses (items.filterMap Extern.global?) store.globals.size m.globals.length
    elems := addresses [] store.segments.size m.elems.length
    datas := addresses [] (store.segments.size + m.elems.length) m.datas.length
    exports := [] }
  { inst with
    exports := m.exports.filterMap fun e => (itemAt? inst e.item).map fun found => (e.name, found) }

def newFunc {κ : Type} (m : Module) (inst : Instance) (func : Func) : FuncInst κ :=
  ⟨(m.types[func.type]?).getD ⟨[], []⟩, .guest inst func⟩

def newTable (type : TableType) : Table :=
  ⟨type.elem, type.bounds.most, Array.replicate type.bounds.least .null⟩

def newMemory (type : MemoryType) : Memory := Memory.fresh type

def newGlobal {κ : Type} (inst : Instance) (store : Store κ) (global : Global) : GlobalInst :=
  ⟨global.type, ((evalConst inst store global.start []).head?).getD global.type.type.zero⟩

/-- What code can take from an element segment. Segments that are not passive are dropped at once. -/
def newElem {κ : Type} (inst : Instance) (store : Store κ) (segment : ElemSegment) : Segment :=
  match segment.mode with
  | .passive => ⟨segment.items.map (constRef inst store), []⟩
  | _ => .empty

def newData (segment : DataSegment) : Segment :=
  match segment.mode with
  | .passive => ⟨[], segment.bytes⟩
  | _ => .empty

/-- The store with the functions, tables, memories, globals and segments of a new instance. -/
def allocate {κ : Type} (m : Module) (inst : Instance) (store : Store κ) : Store κ where
  funcs := store.funcs ++ (m.funcs.map (newFunc m inst)).toArray
  tables := store.tables ++ (m.tables.map newTable).toArray
  memories := store.memories ++ (m.memories.map newMemory).toArray
  globals := store.globals ++ (m.globals.map (newGlobal inst store)).toArray
  segments := store.segments ++ (m.elems.map (newElem inst store) ++ m.datas.map newData).toArray

end Module

section Load

variable {κ η ε : Type}

def writeElem (inst : Instance) (segment : ElemSegment) : Action κ η ε Unit :=
  match segment.mode with
  | .passive => pure ()
  | .declarative => pure ()
  | .active index offset => do
    let store ← Action.store
    let some (addr, table) := inst.table? store index | Action.stop .stuck
    let refs := segment.items.map (constRef inst store)
    match table.write? (constIndex inst store offset) refs with
    | some changed => Action.setStore (store.setTable addr changed)
    | none => Action.stop .misplaced

def writeData (inst : Instance) (segment : DataSegment) : Action κ η ε Unit :=
  match segment.mode with
  | .passive => pure ()
  | .active index offset => do
    let store ← Action.store
    let some (addr, memory) := inst.memory? store index | Action.stop .stuck
    match memory.write? (constIndex inst store offset) segment.bytes with
    | some changed => Action.setStore (store.setMemory addr changed)
    | none => Action.stop .misplaced

def runStart (run : Invoker κ η ε) (inst : Instance) (start : Option Nat) : Action κ η ε Unit :=
  match start with
  | none => pure ()
  | some index => do
    let some addr := inst.funcs[index]? | Action.stop .stuck
    let _ ← run addr []

/-- Loads a checked module whose imports are the given, fitting items. -/
def instantiate (run : Invoker κ η ε) (m : Module) (items : List Extern) :
    Action κ η ε Instance := do
  let store ← Action.store
  let inst := m.instanceAt items store
  Action.setStore (m.allocate inst store)
  m.elems.forM (writeElem inst)
  m.datas.forM (writeData inst)
  runStart run inst m.start
  pure inst

end Load

end FirstCall.Wasm
