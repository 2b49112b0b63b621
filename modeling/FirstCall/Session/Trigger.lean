import FirstCall.Session.Unit

/-!
# The compile trigger

Every stub of the skeleton calls the trigger with the number of its function and then calls the
function again through the shared table. When the trigger returns, the slot holds the real
function: a function whose slot still holds the stub is requested from the service, dumped,
loaded and recorded, in this order. Loading runs code of the unit, which may reach the trigger
again.
-/

namespace FirstCall

namespace Trigger

open Wasm

variable {σ : Type}

/-- Compiles and installs the function of a slot. -/
def compile (service : Service σ) (run : Invoker HostFunc (HostState σ) Session.Fault)
    (shared : Nat) (i : FuncId) : Dispatch σ Unit := do
  Dispatch.updateLedger (·.reserve i)
  Dispatch.say (.compiling i)
  let state ← Action.host
  let blob ← Dispatch.act <| Effect.fetch (.unit state.compiler i)
    (service.unit state.compiler i)
  Dispatch.act (Effect.dumpFunction state.dump i blob)
  let unit ← FunctionUnit.load run i shared blob
  Dispatch.say (.installed i unit.size)
  Dispatch.updateLedger (·.install unit)

/-- Makes sure that the function with the given index is installed. -/
def resolve (service : Service σ) (run : Invoker HostFunc (HostState σ) Session.Fault)
    (raw : Int32) : Dispatch σ Unit := do
  let state ← Action.host
  match state.shared with
  | none => Action.fail .tooEarly
  | some shared =>
    let i ← Dispatch.tableAnswer (state.ledger.table.locate raw)
    if state.ledger.table.slot? i = some .installed then Dispatch.say (.alreadyInstalled i)
    else compile service run shared i

/-- Writes the end of a call of the trigger into the history, unless the code never came to it. -/
def settle (raw : Int32) (call : Dispatch σ Unit) : Dispatch σ Unit := fun m =>
  match call m with
  | (.ok (), m) => Dispatch.record (.settled raw (.ok ())) m
  | (.error (.failed fault), m) =>
    (.error (.failed fault), (Dispatch.record (.settled raw (.error fault)) m).2)
  | other => other

/-- A call of the compile trigger. -/
def fire (service : Service σ) (run : Invoker HostFunc (HostState σ) Session.Fault)
    (raw : Int32) : Dispatch σ Unit := do
  Dispatch.record (.triggered raw (← Action.host).ledger)
  settle raw (resolve service run raw)

end Trigger

/-- What the functions of the dispatcher do. Both answer zero. -/
def dispatchHost {σ : Type} (service : Service σ) :
    Wasm.Host HostFunc (HostState σ) Session.Fault := fun run name args =>
  match name, args with
  | .compileTrigger, [.i32 raw] => do
    Trigger.fire service run raw.toInt32
    pure [.i32 0]
  | .println, [.i32 value] => do
    Dispatch.print value.toInt32
    pure [.i32 0]
  | _, _ => Wasm.Action.stop .stuck

end FirstCall
