import FirstCall.DumpDir
import FirstCall.Printout
import FirstCall.Service.Interface
import FirstCall.Session.Fault
import FirstCall.Session.Ledger

/-!
# The world of a session

Everything outside a session that it can act on: the compiler service, the files and the output.
Each act is also written into a history, so that requests, printed values, written files,
notices and the firings of the compile trigger stand in one order.
-/

namespace FirstCall

/-- One entry of the history. -/
inductive Event where
  | notice (notice : Notice)
  | request (request : Request)
  | received (request : Request) (blob : Bytes)
  /-- The compile trigger was called; the ledger is the one that it found. -/
  | triggered (raw : Int32) (ledger : Ledger)
  | settled (raw : Int32) (result : Except Session.Fault Unit)
  | printed (value : Int32)
  | wrote (path : String) (contents : Bytes)

namespace Event

def notice? : Event → Option Notice
  | .notice n => some n
  | _ => none

def request? : Event → Option Request
  | .request r => some r
  | _ => none

def received? : Event → Option (Request × Bytes)
  | .received asked blob => some (asked, blob)
  | _ => none

def triggered? : Event → Option Int32
  | .triggered raw _ => some raw
  | _ => none

def ledger? : Event → Option Ledger
  | .triggered _ ledger => some ledger
  | _ => none

def printed? : Event → Option Int32
  | .printed value => some value
  | _ => none

def wrote? : Event → Option (String × Bytes)
  | .wrote path contents => some (path, contents)
  | _ => none

end Event

/-- The files, the output, and everything that happened so far. -/
structure World where
  files : FileTree
  sink : Printout
  history : Array Event

namespace World

def record (world : World) (event : Event) : World :=
  { world with history := world.history.push event }

def say (world : World) (notice : Notice) : World := world.record (.notice notice)

def print (world : World) (value : Int32) : World :=
  { world with sink := world.sink.print value }.record (.printed value)

def notices (world : World) : List Notice := world.history.toList.filterMap Event.notice?

def requests (world : World) : List Request := world.history.toList.filterMap Event.request?

/-- The blobs that the compiler service handed out, with the requests that they answer. -/
def received (world : World) : List (Request × Bytes) :=
  world.history.toList.filterMap Event.received?

def triggers (world : World) : List Int32 := world.history.toList.filterMap Event.triggered?

def ledgers (world : World) : List Ledger := world.history.toList.filterMap Event.ledger?

def printed (world : World) : List Int32 := world.history.toList.filterMap Event.printed?

def written (world : World) : List (String × Bytes) := world.history.toList.filterMap Event.wrote?

end World

/-- The world together with the state of the compiler service. -/
structure Outside (σ : Type) where
  service : σ
  world : World

/-- An act on what is outside a session. What was done before a failure stays done. -/
def Effect (σ α : Type) : Type := Outside σ → Except Session.Fault α × Outside σ

namespace Effect

variable {σ α β : Type}

def answer (value : α) : Effect σ α := fun outside => (.ok value, outside)

def andThen (first : Effect σ α) (next : α → Effect σ β) : Effect σ β := fun outside =>
  match first outside with
  | (.ok value, outside) => next value outside
  | (.error fault, outside) => (.error fault, outside)

instance : Monad (Effect σ) where
  pure := answer
  bind := andThen

def record (event : Event) : Effect σ Unit := fun outside =>
  (.ok (), { outside with world := outside.world.record event })

def say (notice : Notice) : Effect σ Unit := record (.notice notice)

def ask (request : Request) (exchange : Exchange σ α) : Effect σ α := fun outside =>
  let world := outside.world.record (.request request)
  let reply := exchange outside.service
  (reply.result.mapError .service, ⟨reply.state, reply.notices.foldl World.say world⟩)

def fetch (request : Request) (exchange : Exchange σ Bytes) : Effect σ Bytes := do
  let blob ← ask request exchange
  record (.received request blob)
  pure blob

def writeBlob (path : String) (blob : Bytes) : Effect σ Unit := fun outside =>
  match outside.world.files.write path blob with
  | .error cause => (.error (.unwritable path cause), outside)
  | .ok files =>
    let world := { outside.world with files }.record (.wrote path blob)
    (.ok (), { outside with world := world.say (.dumped blob.length path) })

def dumpSkeleton (dump : Option DumpDir) (blob : Bytes) : Effect σ Unit :=
  match dump with
  | none => answer ()
  | some dump => writeBlob dump.pathOfSkeleton blob

def dumpFunction (dump : Option DumpDir) (i : FuncId) (blob : Bytes) : Effect σ Unit :=
  match dump with
  | none => answer ()
  | some dump => writeBlob (dump.pathOfUnit i) blob

end Effect

end FirstCall
