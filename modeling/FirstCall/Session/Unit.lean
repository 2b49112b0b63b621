import FirstCall.Session.Host
import FirstCall.Wasm.Check

/-!
# Function units

A function unit is loaded into the store of the program. It may import the shared table and the
printing function and nothing else. It installs itself: its element segment writes its function
into the shared table while it is loaded.
-/

namespace FirstCall

namespace FunctionUnit

open Wasm

variable {σ : Type}

def item (i : FuncId) (shared println : Nat) (wanted : Import) : Except Session.Fault Extern :=
  if wanted.module = importModule ∧ wanted.name = tableName then .ok (.table shared)
  else if wanted.module = importModule ∧ wanted.name = printlnImport then .ok (.func println)
  else .error (.unknownImport i wanted.module wanted.name)

/-- Loads the unit of a function from its blob. -/
def load (run : Invoker HostFunc (HostState σ) Session.Fault) (i : FuncId) (shared : Nat)
    (blob : Bytes) : Dispatch σ LoadedUnit :=
  match Module.ofBlob blob with
  | .error defect => Action.fail (.unloadable (unitName i) (.defect defect))
  | .ok m => do
    let some println := (← Action.host).println | Action.fail .tooEarly
    match m.imports.mapM (item i shared println) with
    | .error fault => Action.fail fault
    | .ok items =>
      if (← Action.store).links m items then
        let _ ← Action.mapStop (Dispatch.loadStop (unitName i)) (instantiate run m items)
        pure ⟨i, blob.length⟩
      else Action.fail (.unloadable (unitName i) .unlinkable)

theorem load_of_module (run : Invoker HostFunc (HostState σ) Session.Fault) (i : FuncId)
    (shared : Nat) {println : Nat} {blob : Bytes} {module : Module} {m : DispatchMachine σ}
    (built : Module.ofBlob blob = .ok module)
    (printing : m.host.println = some println) :
    load run i shared blob m =
      match module.imports.mapM (item i shared println) with
      | .error fault => (.error (.failed fault), m)
      | .ok items =>
        if m.store.links module items then
          (((instantiate run module items m).1.map fun _ => ⟨i, blob.length⟩).mapError
            (Dispatch.loadStop (unitName i)), (instantiate run module items m).2)
        else (.error (.failed (.unloadable (unitName i) .unlinkable)), m) := by
  unfold load
  rw [built]
  dsimp only
  rw [Action.bind_apply]
  dsimp only [Action.host]
  rw [printing]
  dsimp only
  cases module.imports.mapM (item i shared println) with
  | error fault => rfl
  | ok items =>
    dsimp only
    rw [Action.bind_apply]
    dsimp only [Action.store]
    by_cases links : m.store.links module items = true
    · rw [if_pos links, if_pos links, Action.bind_apply]
      dsimp only [Action.mapStop]
      cases instantiate run module items m with
      | mk result machine => cases result <;> rfl
    · rw [if_neg links, if_neg links]
      rfl

end FunctionUnit

end FirstCall
