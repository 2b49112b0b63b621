import FirstCall.Settings
import FirstCall.Session.Skeleton

/-!
# Sessions

One program on its way: set up from a source text, then run any number of times. Set-up hands
the source to the compiler service and loads the skeleton; no function is compiled before a run
reaches it. A failed run leaves a session that can be run again.
-/

namespace FirstCall

/-- A program whose skeleton is loaded. -/
structure Session (σ : Type) where
  machine : DispatchMachine σ
  skeleton : Skeleton
  entry : String

namespace Session

open Wasm

variable {σ : Type}

/-- Obtains the skeleton for a source text, and dumps it if blobs are dumped. -/
def prepare (service : Service σ) (source : String) (dump : Option DumpDir) :
    Effect σ (Service.Compiler × Bytes) := do
  let ir ← Effect.ask (.parse source) (service.parse source)
  let compiler ← Effect.ask (.build ir) (service.build ir)
  let blob ← Effect.fetch (.skeleton compiler) (service.skeleton compiler)
  Effect.say (.skeletonCompiled blob.length)
  Effect.dumpSkeleton dump blob
  pure (compiler, blob)

/-- Calls functions of the program. -/
def call (service : Service σ) (limits : Limits) :
    Invoker HostFunc (HostState σ) Session.Fault :=
  invoke (dispatchHost service) limits limits.fuel limits.stack

def startFault : Stop Session.Fault → Session.Fault
  | .trap t => .unloadable skeletonName (.trap t)
  | .snag s => .unloadable skeletonName (.snag s)
  | .misplaced => .unloadable skeletonName .misplaced
  | .failed fault => fault
  | .unfinished => .unloadable skeletonName .unfinished
  | .stuck => .unloadable skeletonName (.defect .typeMismatch)

/-- Sets up a session. A failure comes with what is then outside the session. -/
def start (service : Service σ) (limits : Limits) (source : String) (settings : Settings)
    (outside : Outside σ) : Except (Session.Fault × Outside σ) (Session σ) :=
  let dump := settings.dump.map DumpDir.mk
  match prepare service source dump outside with
  | (.error fault, outside) => .error (fault, outside)
  | (.ok (compiler, blob), outside) =>
    let machine := ⟨dispatchStore, HostState.fresh outside compiler dump⟩
    match Skeleton.load (call service limits) blob machine with
    | (.error why, machine) => .error (startFault why, machine.host.outside)
    | (.ok skeleton, machine) =>
      let state := { machine.host with
        shared := some skeleton.table
        ledger := Ledger.ofSize skeleton.slotCount }
      .ok ⟨{ machine with host := state }, skeleton, settings.entry⟩

/-- The failure that a stop of a run amounts to. A failure of the trigger is passed on as it is. -/
def runFault (entry : String) : Stop Session.Fault → Session.Fault
  | .trap t => .stopped entry (.trap t)
  | .snag s => .stopped entry (.snag s)
  | .misplaced => .stopped entry .misplaced
  | .failed fault => fault
  | .unfinished => .stopped entry .unfinished
  | .stuck => .stopped entry (.defect .typeMismatch)

def callEntry (service : Service σ) (limits : Limits) (addr count : Nat) (entry : String) :
    Dispatch σ Int32 := do
  Dispatch.say (.executing entry)
  match ← call service limits addr [] with
  | [.i32 raw] =>
    let compiled := (← Action.host).ledger.table.countInstalled
    Dispatch.say (.finished raw.toInt32 compiled count)
    pure raw.toInt32
  | _ => Action.stop .stuck

/-- Runs the entry point once. -/
def run (service : Service σ) (limits : Limits) (session : Session σ) :
    Except Session.Fault Int32 × Session σ :=
  match session.skeleton.entry session.machine.store session.entry with
  | .error fault => (.error fault, session)
  | .ok addr =>
    let count := session.skeleton.slotCount
    match callEntry service limits addr count session.entry session.machine with
    | (.ok value, machine) => (.ok value, { session with machine })
    | (.error why, machine) =>
      (.error (runFault session.entry why), { session with machine })

def state (session : Session σ) : HostState σ := session.machine.host

def world (session : Session σ) : World := session.state.outside.world

def slotCount (session : Session σ) : Nat := session.skeleton.slotCount

def compiled (session : Session σ) : List FuncId :=
  session.state.ledger.table.order.toList

def slot? (session : Session σ) (i : FuncId) : Option Slot :=
  session.state.ledger.table.slot? i

end Session

end FirstCall
