import FirstCall.Bytes
import FirstCall.Notice
import FirstCall.Service.Fault

/-!
# The compiler service

The dispatcher talks to a compiler service through four requests and sees nothing of it but the
answers. A service has a state of its own, which every request may change, and may say something
to the log before it answers.
-/

namespace FirstCall

/-- What comes back from a request. -/
structure Reply (σ α : Type) where
  result : Except Service.Fault α
  notices : List Notice
  state : σ

/-- A request on its way: from the state of the service to the reply. -/
def Exchange (σ α : Type) : Type := σ → Reply σ α

namespace Exchange

variable {σ α β : Type}

def answer (value : α) : Exchange σ α := fun state => ⟨.ok value, [], state⟩

def fail (fault : Service.Fault) : Exchange σ α := fun state => ⟨.error fault, [], state⟩

/-- A request that goes on after the answer to another. A refusal ends both. -/
def andThen (first : Exchange σ α) (next : α → Exchange σ β) : Exchange σ β := fun state =>
  match first state with
  | ⟨.ok value, notices, state⟩ =>
    let reply := next value state
    { reply with notices := notices ++ reply.notices }
  | ⟨.error fault, notices, state⟩ => ⟨.error fault, notices, state⟩

instance : Monad (Exchange σ) where
  pure := answer
  bind := andThen

def state : Exchange σ σ := fun state => ⟨.ok state, [], state⟩

def setState (state : σ) : Exchange σ Unit := fun _ => ⟨.ok (), [], state⟩

def say (notice : Notice) : Exchange σ Unit := fun state => ⟨.ok (), [notice], state⟩

def ofExcept : Except Service.Fault α → Exchange σ α
  | .ok value => answer value
  | .error fault => fail fault

end Exchange

/-- A compiler service, by its four operations. -/
structure Service (σ : Type) where
  parse : String → Exchange σ Service.Parsed
  build : Service.Parsed → Exchange σ Service.Compiler
  skeleton : Service.Compiler → Exchange σ Bytes
  unit : Service.Compiler → FuncId → Exchange σ Bytes

inductive Request where
  | parse (source : String)
  | build (ir : Service.Parsed)
  | skeleton (compiler : Service.Compiler)
  | unit (compiler : Service.Compiler) (i : FuncId)
  deriving DecidableEq, Repr

namespace Service

variable {σ : Type}

/-- An exchange that also writes down the request. -/
def noting {α : Type} (request : Request) (exchange : Exchange σ α) :
    Exchange (σ × List Request) α := fun (state, seen) =>
  let reply := exchange state
  ⟨reply.result, reply.notices, (reply.state, seen ++ [request])⟩

/-- The same service, which also keeps every request that it sees. -/
def recorded (service : Service σ) : Service (σ × List Request) where
  parse source := noting (.parse source) (service.parse source)
  build ir := noting (.build ir) (service.build ir)
  skeleton compiler := noting (.skeleton compiler) (service.skeleton compiler)
  unit compiler i :=
    noting (.unit compiler i) (service.unit compiler i)

end Service

end FirstCall
