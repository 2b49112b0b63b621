import FirstCall.FileTree
import FirstCall.Service.Heap

/-!
# Services loaded from an artifact

A compiler service that is itself a module. It is loaded once, without imports; its state is the
machine on which it runs, and its answers are read out of its memory.
-/

namespace FirstCall

/-- The exports of a loaded service. -/
structure Service.Artifact where
  memory : Service.Heap
  parse : Nat
  build : Nat
  skeleton : Nat
  unit : Nat
  deriving DecidableEq, Repr

namespace Service.Artifact

open Wasm

def instantiateAlone (limits : Limits) (m : Module) :
    Except Service.Fault Instance × ServiceMachine :=
  if m.imports.isEmpty then
    match instantiate (ServiceMachine.call limits) m [] ServiceMachine.empty with
    | (.ok inst, machine) => (.ok inst, machine)
    | (.error why, machine) => (.error (.unloadable (ServiceMachine.cause why)), machine)
  else (.error (.unloadable .unlinkable), ServiceMachine.empty)

def ofInstance (inst : Instance) (store : Store Empty) : Except Service.Fault Service.Artifact := do
  let memory ← Service.Heap.ofInstance inst store
  let parse ← Service.Heap.typedExport inst store "make_ir_module" 1
  let build ← Service.Heap.typedExport inst store "make_compiler" 1
  let skeleton ← Service.Heap.typedExport inst store "compile_skeleton" 2
  let unit ← Service.Heap.typedExport inst store "compile_func" 3
  pure { memory, parse, build, skeleton, unit }

def ofBlob (limits : Limits) (blob : Bytes) :
    Except Service.Fault (Service.Artifact × ServiceMachine) :=
  match Module.ofBlob blob with
  | .error defect => .error (.unloadable (.defect defect))
  | .ok m => do
    let (loaded, machine) := instantiateAlone limits m
    let service ← ofInstance (← loaded) machine.store
    pure (service, machine)

def ready (service : Service.Artifact) (machine : ServiceMachine) : Notice :=
  .serviceReady (service.memory.size machine)

def ofFile (limits : Limits) (files : FileTree) (path : String) :
    Except Service.Fault (Service.Artifact × ServiceMachine) :=
  match files.read path with
  | .error cause => .error (.unreadable path cause)
  | .ok blob => ofBlob limits blob

/-- Reads a blob of which the service gave the address, and left the length in memory. -/
def readBlob (service : Service.Artifact) (stage : Service.Stage) (start : Int32)
    (lenOut : Service.Address) : Exchange ServiceMachine Bytes := fun m =>
  let found : Except Service.Fault Bytes := do
    let len ← service.memory.readInt m lenOut
    if len < 0 then throw (.negativeLength stage len)
    service.memory.read m ⟨Service.Address.ofInt32 start, len.toUInt32⟩
  ⟨found, [], m⟩

/-- A request for a blob: the service is given the address at which to leave the length. -/
def compile (service : Service.Artifact) (limits : Limits) (stage : Service.Stage) (addr : Nat)
    (args : List Int32) : Exchange ServiceMachine Bytes := do
  let lenOut ← service.memory.allocate limits 4
  let start ← ServiceMachine.exchange limits stage addr (args ++ [lenOut.toInt32])
  service.readBlob stage start lenOut

def toService (service : Service.Artifact) (limits : Limits) : Service ServiceMachine where
  parse source := do
    let bytes := source.toUTF8.toList
    let addr ← service.memory.writeText limits bytes
    let raw ← ServiceMachine.exchange limits .parse service.parse [addr.toInt32]
    Exchange.say (.irModuleBuilt bytes.length)
    pure ⟨raw⟩
  build ir := do
    let raw ← ServiceMachine.exchange limits .build service.build [ir.token]
    pure ⟨raw⟩
  skeleton compiler :=
    service.compile limits .skeleton service.skeleton [compiler.token]
  unit compiler i :=
    service.compile limits (.unit i) service.unit
      [compiler.token, i.number.toInt32]

def inspect (service : Service.Artifact) (machine : ServiceMachine) : String :=
  Text.record "WasmCompilerService"
    [("memory_bytes", toString (service.memory.size machine))]

end Service.Artifact

end FirstCall
