import FirstCall.DispatchTable
import FirstCall.Service.Fault

/-!
# Failures of a session

Every failure ends the run in which it arises. A failure of the compiler service or of the call
table is passed on as it is: the wrapper adds no message of its own.
-/

namespace FirstCall

inductive Session.Fault where
  | service (fault : Service.Fault)
  | table (fault : DispatchTable.Fault)
  | unloadable (unit : String) (cause : Cause)
  | missingExport (unit name : String)
  | unknownImport (i : FuncId) (module name : String)
  | tooEarly
  | unwritable (path : String) (cause : FileFault)
  | stopped (entry : String) (cause : Cause)
  deriving DecidableEq, Repr

namespace Session.Fault

def message : Session.Fault → String
  | .service fault => fault.message
  | .table fault => fault.message
  | .unloadable unit _ => "Failed to load " ++ unit
  | .missingExport unit name => unit ++ " does not export `" ++ name ++ "`"
  | .unknownImport i module name =>
    "Function unit " ++ i.text ++ " requests unknown import `" ++ module ++ "." ++ name ++ "`"
  | .tooEarly => "Compile trigger fired before the skeleton was loaded"
  | .unwritable path _ => "Failed to write dump file " ++ path
  | .stopped entry _ => "Execution of `" ++ entry ++ "` trapped"

def causes : Session.Fault → List String
  | .service fault => fault.causes
  | .unloadable _ cause => [cause.message]
  | .unwritable _ cause => [cause.message]
  | .stopped _ cause => [cause.message]
  | _ => []

def chain (fault : Session.Fault) : List String := fault.message :: fault.causes

theorem chain_service (fault : Service.Fault) : (service fault).chain = fault.chain := rfl

end Session.Fault

def skeletonName : String := "skeleton"

def unitName (i : FuncId) : String := "function unit " ++ i.text

def entryPointName (entry : String) : String := "entry point `" ++ entry ++ "`"

end FirstCall
