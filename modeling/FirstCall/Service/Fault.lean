import FirstCall.Cause
import FirstCall.FuncId
import FirstCall.Service.Token

/-!
# Failures of the compiler service

A failure names the operation that was running, if there was one, and keeps its cause.
-/

namespace FirstCall

inductive Service.Stage where
  | allocate
  | parse
  | build
  | skeleton
  | unit (i : FuncId)
  deriving DecidableEq, Repr

def Service.Stage.text : Service.Stage → String
  | .allocate => "alloc"
  | .parse => "parse"
  | .build => "build"
  | .skeleton => "compile-skeleton"
  | .unit i => "compile-function " ++ i.text

/-- Why the compiler service failed. -/
inductive Service.Fault where
  | unreadable (path : String) (cause : FileFault)
  | unloadable (cause : Cause)
  | missingExport (name : String)
  | stopped (stage : Service.Stage) (cause : Cause)
  | outsideMemory (addr : Service.Address) (len : UInt32)
  | negativeLength (stage : Service.Stage) (len : Int32)
  deriving DecidableEq, Repr

namespace Service.Fault

def message : Service.Fault → String
  | .unreadable path _ => "Failed to read compiler service artifact " ++ path
  | .unloadable cause => "Failed to load compiler service: " ++ cause.message
  | .missingExport name => "Compiler service does not export `" ++ name ++ "`"
  | .stopped stage _ => "Compiler service trapped during " ++ stage.text
  | .outsideMemory addr len =>
    "Access of " ++ toString len.toNat ++ " bytes at service address " ++ addr.text ++
      " is outside service memory"
  | .negativeLength stage len =>
    "Compiler service returned a negative length (" ++ toString len.toInt ++ ") during " ++
      stage.text

/-- The operation that was running, if the failure happened inside one. -/
def stage? : Service.Fault → Option Service.Stage
  | .stopped stage _ => some stage
  | .negativeLength stage _ => some stage
  | _ => none

def causes : Service.Fault → List String
  | .unreadable _ cause => [cause.message]
  | .unloadable cause => [cause.message]
  | .stopped _ cause => [cause.message]
  | _ => []

def chain (fault : Service.Fault) : List String := fault.message :: fault.causes

end Service.Fault

end FirstCall
