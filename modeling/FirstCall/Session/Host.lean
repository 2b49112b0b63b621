import FirstCall.Session.World
import FirstCall.Wasm.Instantiate

/-!
# The state of a session

What the compile trigger needs while the program runs. It is the host side of the machine: the
code of the program cannot reach it, and the compiler service has no part in the store of the
program.
-/

namespace FirstCall

inductive HostFunc where
  /-- Makes sure that a function is compiled; only the skeleton can call it. -/
  | compileTrigger
  /-- Prints an integer; only function units can call it. -/
  | println
  deriving DecidableEq, Repr

def HostFunc.type : Wasm.FuncType := ⟨[.i32], [.i32]⟩

/-- The host side of a session. -/
structure HostState (σ : Type) where
  outside : Outside σ
  compiler : Service.Compiler
  ledger : Ledger
  /-- The address of the table that the skeleton shares, once the skeleton is loaded. -/
  shared : Option Nat
  /-- The address of the printing function, once it is made. -/
  println : Option Nat
  dump : Option DumpDir

namespace HostState

variable {σ : Type}

def blank (outside : Outside σ) (compiler : Service.Compiler) (dump : Option DumpDir) :
    HostState σ :=
  ⟨outside, compiler, Ledger.empty, none, none, dump⟩

def updateWorld (state : HostState σ) (change : World → World) : HostState σ :=
  { state with outside := { state.outside with world := change state.outside.world } }

def inspect (state : HostState σ) : String :=
  Text.record "DispatchState"
    [("compiler", state.compiler.inspect),
     ("table", state.ledger.table.inspect),
     ("dump", Text.optional (state.dump.map DumpDir.inspect)),
     ("units", toString state.ledger.units.size)]

end HostState

abbrev Dispatch (σ : Type) := Wasm.Action HostFunc (HostState σ) Session.Fault

abbrev DispatchMachine (σ : Type) := Wasm.Machine HostFunc (HostState σ)

namespace Dispatch

open Wasm

variable {σ α : Type}

/-- Writes an event into the history. -/
def record (event : Event) : Dispatch σ Unit :=
  Action.modifyHost (·.updateWorld (·.record event))

def say (notice : Notice) : Dispatch σ Unit :=
  Action.modifyHost (·.updateWorld (·.say notice))

def print (value : Int32) : Dispatch σ Unit :=
  Action.modifyHost (·.updateWorld (·.print value))

def act (effect : Effect σ α) : Dispatch σ α := fun m =>
  let (result, outside) := effect m.host.outside
  let m := { m with host := { m.host with outside } }
  match result with
  | .ok value => (.ok value, m)
  | .error fault => (.error (.failed fault), m)

/-- The answer of the dispatch table, whose refusals are failures of the session. -/
def tableAnswer (answer : Except DispatchTable.Fault α) : Dispatch σ α :=
  match answer with
  | .ok value => pure value
  | .error fault => Action.fail (.table fault)

def updateLedger (change : Ledger → Except DispatchTable.Fault Ledger) : Dispatch σ Unit := do
  let ledger ← tableAnswer (change (← Action.host).ledger)
  Action.modifyHost fun state => { state with ledger }

/-- What a stop inside the loading of a unit means: a trap or a segment that does not fit is a
failure to load the unit, and a failure that arose further inside is passed on. -/
def loadStop (unit : String) : Stop Session.Fault → Stop Session.Fault
  | .trap t => .failed (.unloadable unit (.trap t))
  | .snag s => .failed (.unloadable unit (.snag s))
  | .misplaced => .failed (.unloadable unit .misplaced)
  | other => other

end Dispatch

/-- The address of the compile trigger in the store of a program. -/
def triggerAddr : Nat := 0

/-- The address of the printing function in the store of a program. -/
def printlnAddr : Nat := 1

def HostState.fresh {σ : Type} (outside : Outside σ) (compiler : Service.Compiler)
    (dump : Option DumpDir) : HostState σ :=
  { HostState.blank outside compiler dump with println := some printlnAddr }

def dispatchStore : Wasm.Store HostFunc :=
  Wasm.Store.ofHost [(HostFunc.type, .compileTrigger), (HostFunc.type, .println)]

/-- The module under whose name the dispatcher offers its functions. -/
def importModule : String := "env"

/-- The name under which the skeleton imports the compile trigger. -/
def triggerImport : String := "compile_func"

/-- The name under which the skeleton exports, and units import, the shared table. -/
def tableName : String := "_table"

def printlnImport : String := "println"

end FirstCall
