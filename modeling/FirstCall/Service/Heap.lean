import FirstCall.Service.Interface
import FirstCall.Wasm.Check
import FirstCall.Wasm.Instantiate

/-!
# Service memory

How bytes cross into and out of the memory of a compiler service. The service allocates; the
dispatcher writes only into what was allocated, and every access is checked against the size
that the memory has at that moment.
-/

namespace FirstCall

/-- The machine on which a service runs. It has no host functions. -/
abbrev ServiceMachine := Wasm.Machine Empty Unit

namespace ServiceMachine

open Wasm

def empty : ServiceMachine := ⟨Store.empty, ()⟩

/-- A service imports nothing, so that there is no host function to run. -/
def noHost : Host Empty Unit Empty := fun _ name => nomatch name

/-- What a stop means to the caller. -/
def cause : Stop Empty → Cause
  | .trap t => .trap t
  | .snag s => .snag s
  | .misplaced => .misplaced
  | .unfinished => .unfinished
  | .stuck => .defect .typeMismatch

/-- Calls the function at an address. -/
def call (limits : Limits) : Invoker Empty Unit Empty :=
  invoke noHost limits limits.fuel limits.stack

def callInt (limits : Limits) (addr : Nat) (args : List Int32) :
    Action Empty Unit Empty Int32 := do
  match ← call limits addr (args.map fun arg => .i32 arg.toUInt32) with
  | [.i32 value] => pure value.toInt32
  | _ => Action.stop .stuck

/-- A call to a function of the service, which may fail at the given stage. -/
def exchange (limits : Limits) (stage : Service.Stage) (addr : Nat) (args : List Int32) :
    Exchange ServiceMachine Int32 := fun m =>
  match callInt limits addr args m with
  | (.ok value, m) => ⟨.ok value, [], m⟩
  | (.error why, m) => ⟨.error (.stopped stage (cause why)), [], m⟩

end ServiceMachine

structure Service.Heap where
  memory : Nat
  allocator : Nat
  deriving DecidableEq, Repr

namespace Service.Heap

open Wasm

/-- The type of functions from a number of integers to an integer. -/
def intType (params : Nat) : FuncType := ⟨List.replicate params .i32, [.i32]⟩

/-- The function that a service exports under a name, if it takes that many integers. -/
def typedExport (inst : Instance) (store : Store Empty) (name : String) (params : Nat) :
    Except Service.Fault Nat :=
  match inst.exportedFunc? name with
  | none => .error (.missingExport name)
  | some addr =>
    if (store.funcs[addr]?).any (·.type == intType params) then .ok addr
    else .error (.unloadable .signature)

/-- The memory that an instance exports under a name, if threads cannot share it. -/
def unsharedMemory? (inst : Instance) (store : Store Empty) (name : String) : Option Nat :=
  (inst.exportedMemory? name).filter fun addr =>
    (store.memories[addr]?).all (!·.isShared)

def ofInstance (inst : Instance) (store : Store Empty) : Except Service.Fault Service.Heap :=
  match unsharedMemory? inst store "memory" with
  | none => .error (.missingExport "memory")
  | some memory => do
    let allocator ← typedExport inst store "alloc" 1
    pure ⟨memory, allocator⟩

def now (mem : Service.Heap) (m : ServiceMachine) : Memory :=
  (m.store.memories[mem.memory]?).getD (Memory.fresh ⟨⟨0, none⟩, false⟩)

def size (mem : Service.Heap) (m : ServiceMachine) : Nat := (mem.now m).size

/-- Has the service allocate bytes. They are never given back. -/
def allocate (mem : Service.Heap) (limits : Limits) (size : UInt32) :
    Exchange ServiceMachine Service.Address := do
  let raw ← ServiceMachine.exchange limits .allocate mem.allocator [size.toInt32]
  pure (Service.Address.ofInt32 raw)

def write? (mem : Service.Heap) (addr : Nat) (bytes : Bytes) (m : ServiceMachine) :
    Option ServiceMachine :=
  ((mem.now m).write? addr bytes).map fun changed =>
    { m with store := m.store.setMemory mem.memory changed }

/-- Copies bytes and a zero byte behind them into memory that the service allocates for them. -/
def writeText (mem : Service.Heap) (limits : Limits) (bytes : Bytes) :
    Exchange ServiceMachine Service.Address :=
  if 0x100000000 ≤ bytes.length + 1 then Exchange.fail (.outsideMemory ⟨0⟩ 0xffffffff)
  else do
    let len := UInt32.ofNat (bytes.length + 1)
    let addr ← mem.allocate limits len
    match mem.write? addr.offset.toNat (bytes ++ [0]) (← Exchange.state) with
    | none => Exchange.fail (.outsideMemory addr len)
    | some changed =>
      Exchange.setState changed
      Exchange.say (.sourceStored bytes.length addr)
      pure addr

def read (mem : Service.Heap) (m : ServiceMachine) (span : Service.Span) :
    Except Service.Fault Bytes :=
  match (mem.now m).read? span.start.offset.toNat span.length.toNat with
  | some bytes => .ok bytes
  | none => .error (.outsideMemory span.start span.length)

def readInt (mem : Service.Heap) (m : ServiceMachine) (addr : Service.Address) :
    Except Service.Fault Int32 :=
  match (mem.now m).read? addr.offset.toNat 4 with
  | some bytes => .ok (UInt32.ofNat (Bytes.toNat bytes)).toInt32
  | none => .error (.outsideMemory addr 4)

end Service.Heap

end FirstCall
