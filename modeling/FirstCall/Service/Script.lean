import FirstCall.Service.Interface

/-!
# Scripted services

A compiler service whose answers are laid down beforehand. It has no state: equal requests are
answered equally.
-/

namespace FirstCall

/-- Answers laid down for every request. -/
structure Script where
  irModule : Except Service.Fault Service.Parsed
  compiler : Service.Parsed → Except Service.Fault Service.Compiler
  skeleton : Except Service.Fault Bytes
  units : List (FuncId × Except Service.Fault Bytes)

namespace Script

/-- The answer to a request for a function; one that is not laid down is refused. -/
def unit (script : Script) (i : FuncId) : Except Service.Fault Bytes :=
  match script.units.lookup i with
  | some answer => answer
  | none => .error (.stopped (.unit i) (.told "no such function"))

def service (script : Script) : Service Unit where
  parse _ := Exchange.ofExcept script.irModule
  build ir := Exchange.ofExcept (script.compiler ir)
  skeleton _ := Exchange.ofExcept script.skeleton
  unit _ i := Exchange.ofExcept (script.unit i)

end Script

end FirstCall
