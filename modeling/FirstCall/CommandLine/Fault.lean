import FirstCall.Session.Fault

/-!
# Diagnostics

How a failure is reported to the user: sorted by the party that has to act. A failure to load
the compiler service points at the option that selects it; a failure inside it concerns the
program's source; everything else concerns the run.
-/

namespace FirstCall

/-- Why a command failed, sorted by the party that has to act. -/
inductive Command.Fault where
  | source (path : String) (cause : FileFault)
  | serviceUnavailable (path : String) (cause : Service.Fault)
  | compilation (cause : Service.Fault)
  | run (cause : Session.Fault)
  deriving DecidableEq, Repr

namespace Command.Fault

def message : Command.Fault → String
  | .source path _ => "Failed to read file " ++ path
  | .serviceUnavailable path _ => "Compiler service at " ++ path ++ " could not be loaded"
  | .compilation _ => "Compilation failed"
  | .run _ => "Runtime error"

def code : Command.Fault → String
  | .source .. => "lazyjit::cli::io_error"
  | .serviceUnavailable .. => "lazyjit::cli::service_unavailable"
  | .compilation _ => "lazyjit::cli::compile_error"
  | .run _ => "lazyjit::cli::runtime_error"

def help? : Command.Fault → Option String
  | .serviceUnavailable .. =>
    some "build the compiler service first, or pass its location with --service"
  | _ => none

def causes : Command.Fault → List String
  | .source _ cause => [cause.message]
  | .serviceUnavailable _ cause => cause.chain
  | .compilation cause => cause.chain
  | .run cause => cause.chain

def chain (fault : Command.Fault) : List String := fault.message :: fault.causes

/-- Sorts a failed run by the party that has to act. -/
def ofSession (servicePath : String) : Session.Fault → Command.Fault
  | .service (.unreadable path cause) => .serviceUnavailable servicePath (.unreadable path cause)
  | .service (.unloadable cause) => .serviceUnavailable servicePath (.unloadable cause)
  | .service (.missingExport name) => .serviceUnavailable servicePath (.missingExport name)
  | .service fault => .compilation fault
  | fault => .run fault

end Command.Fault

end FirstCall
