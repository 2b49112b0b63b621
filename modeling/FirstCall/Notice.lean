import FirstCall.DispatchTable
import FirstCall.Service.Token

/-!
# Notices

The lines that a run logs. Each notice has a level, a source and a text; the source names the
part of the program that speaks.
-/

namespace FirstCall

inductive Level where
  | error
  | warn
  | info
  | debug
  | trace
  deriving DecidableEq, Repr

namespace Level

def text : Level → String
  | .error => "ERROR"
  | .warn => "WARN"
  | .info => "INFO"
  | .debug => "DEBUG"
  | .trace => "TRACE"

def rank : Level → Nat
  | .error => 1
  | .warn => 2
  | .info => 3
  | .debug => 4
  | .trace => 5

end Level

inductive Notice where
  | loadingService (path : String)
  | serviceReady (memoryBytes : Nat)
  | sourceStored (bytes : Nat) (addr : Service.Address)
  | irModuleBuilt (bytes : Nat)
  | running (bytes : Nat) (servicePath : String)
  | skeletonCompiled (bytes : Nat)
  | dumped (bytes : Nat) (path : String)
  | skeletonLoaded (slots bytes : Nat)
  | executing (entry : String)
  | alreadyInstalled (i : FuncId)
  | compiling (i : FuncId)
  | installed (i : FuncId) (bytes : Nat)
  | finished (value : Int32) (compiled count : Nat)
  | sourceRead (bytes : Nat) (path : String)
  | dumpingTo (dir : String)
  | returned (entry : String) (value : Int32)
  deriving DecidableEq, Repr

namespace Notice

def level : Notice → Level
  | .loadingService _ => .debug
  | .serviceReady _ => .info
  | .sourceStored .. => .trace
  | .irModuleBuilt _ => .debug
  | .running .. => .debug
  | .skeletonCompiled _ => .debug
  | .dumped .. => .debug
  | .skeletonLoaded .. => .info
  | .executing _ => .info
  | .alreadyInstalled _ => .trace
  | .compiling _ => .info
  | .installed .. => .debug
  | .finished .. => .info
  | .sourceRead .. => .debug
  | .dumpingTo _ => .info
  | .returned .. => .info

def source : Notice → String
  | .loadingService _ => "lazyjit_service::service"
  | .serviceReady _ => "lazyjit_service::service"
  | .sourceStored .. => "lazyjit_service::memory"
  | .irModuleBuilt _ => "lazyjit_service::service"
  | .running .. => "lazyjit_rt::runtime"
  | .skeletonCompiled _ => "lazyjit_rt::session"
  | .dumped .. => "lazyjit_rt::dump"
  | .skeletonLoaded .. => "lazyjit_rt::skeleton"
  | .executing _ => "lazyjit_rt::session"
  | .alreadyInstalled _ => "lazyjit_rt::resolver"
  | .compiling _ => "lazyjit_rt::resolver"
  | .installed .. => "lazyjit_rt::resolver"
  | .finished .. => "lazyjit_rt::session"
  | .sourceRead .. => "dispatcher::commands::run"
  | .dumpingTo _ => "dispatcher::commands::run"
  | .returned .. => "dispatcher"

def text : Notice → String
  | .loadingService path => "Loading compiler service from " ++ path
  | .serviceReady bytes =>
    "Compiler service ready (" ++ toString bytes ++ " bytes of linear memory)"
  | .sourceStored bytes addr =>
    "Wrote " ++ toString bytes ++ " bytes (+NUL) to service memory at " ++ addr.text
  | .irModuleBuilt bytes => "IR module built from " ++ toString bytes ++ " bytes of source"
  | .running bytes path =>
    "Running " ++ toString bytes ++ " bytes of source with service " ++ path
  | .skeletonCompiled bytes => "Skeleton compiled (" ++ toString bytes ++ " bytes)"
  | .dumped bytes path => "Dumped " ++ toString bytes ++ " bytes to " ++ path
  | .skeletonLoaded slots bytes =>
    "Skeleton loaded: " ++ toString slots ++ " function slots, " ++ toString bytes ++ " bytes"
  | .executing entry => "Executing entry point `" ++ entry ++ "`..."
  | .alreadyInstalled i => "Function " ++ i.text ++ " already installed"
  | .compiling i => "compile_func " ++ i.decimal
  | .installed i bytes => "Installed function " ++ i.text ++ " (" ++ toString bytes ++ " bytes)"
  | .finished value compiled count =>
    "Execution finished (returned " ++ toString value.toInt ++ "). Compiled " ++
      toString compiled ++ " of " ++ toString count ++ " functions."
  | .sourceRead bytes path => "Read " ++ toString bytes ++ " bytes from " ++ path
  | .dumpingTo dir => "Dumping compiled units to " ++ dir
  | .returned entry value => "`" ++ entry ++ "` returned " ++ toString value.toInt

def line (notice : Notice) : String :=
  notice.level.text ++ " " ++ notice.source ++ ": " ++ notice.text

end Notice

end FirstCall
