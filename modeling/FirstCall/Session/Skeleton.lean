import FirstCall.Session.Trigger

/-!
# The skeleton

The skeleton holds every function of the program as a stub. Its only import is the compile
trigger, and it exports the table through which all functions are called.
-/

namespace FirstCall

/-- A loaded skeleton, with its shared table and the number of slots that the table had. -/
structure Skeleton where
  inst : Wasm.Instance
  table : Nat
  slotCount : Nat
  deriving DecidableEq, Repr

namespace Skeleton

open Wasm

variable {σ : Type}

def isTrigger (wanted : Import) : Bool :=
  wanted.module == importModule && wanted.name == triggerImport

/-- Loads the skeleton from its blob. -/
def load (run : Invoker HostFunc (HostState σ) Session.Fault) (blob : Bytes) :
    Dispatch σ Skeleton :=
  match Module.ofBlob blob with
  | .error defect => Action.fail (.unloadable skeletonName (.defect defect))
  | .ok m => do
    let items := m.imports.map fun _ => Extern.func triggerAddr
    if m.imports.all isTrigger && (← Action.store).links m items then
      let inst ← Action.mapStop (Dispatch.loadStop skeletonName) (instantiate run m items)
      match inst.exportedTable? tableName with
      | none => Action.fail (.missingExport skeletonName tableName)
      | some addr =>
        let count := (((← Action.store).tables[addr]?).map Table.size).getD 0
        Dispatch.say (.skeletonLoaded count blob.length)
        pure ⟨inst, addr, count⟩
    else Action.fail (.unloadable skeletonName .unlinkable)

/-- The function that is exported under a name, if it takes nothing and returns an integer. -/
def entry (skeleton : Skeleton) (store : Store HostFunc) (name : String) :
    Except Session.Fault Nat :=
  match skeleton.inst.exportedFunc? name with
  | none => .error (.missingExport skeletonName name)
  | some addr =>
    if (store.funcs[addr]?).any (·.type == ⟨[], [.i32]⟩) then .ok addr
    else .error (.unloadable (entryPointName name) .signature)

end Skeleton

end FirstCall
