import FirstCall.CommandLine.Args
import FirstCall.CommandLine.Fault
import FirstCall.Program

/-!
# The command

Reads the source file, runs it, and reports. The source is read before the compiler service is
touched. What the program prints goes to the standard output, one value to a line; notices up to
the chosen level are logged.
-/

namespace FirstCall

def runFile (limits : Wasm.Limits) (settings : Settings) (path : String) (files : FileTree) :
    Except Command.Fault Int32 × World :=
  let world : World := ⟨files, .lines "", #[]⟩
  match files.readText path with
  | .error cause => (.error (.source path cause), world)
  | .ok source =>
    let world := world.say (.sourceRead source.utf8ByteSize path)
    let world := match settings.dump with
      | none => world
      | some dir => world.say (.dumpingTo dir)
    let (result, world) := runText limits settings source world
    (result.mapError (Command.Fault.ofSession settings.service), world)

/-- What a command comes to. -/
inductive Outcome where
  | refused (fault : UsageFault)
  | failed (fault : Command.Fault) (world : World)
  | returned (value : Int32) (world : World)

namespace Outcome

def exitCode : Outcome → Nat
  | .refused .help => 0
  | .refused _ => 2
  | .failed .. => 1
  | .returned .. => 0

def fault? : Outcome → Option Command.Fault
  | .failed fault _ => some fault
  | _ => none

def world? : Outcome → Option World
  | .refused _ => none
  | .failed _ world => some world
  | .returned _ world => some world

def stdout (outcome : Outcome) : String :=
  match outcome.world? with
  | none => ""
  | some world => world.sink.text

def log (outcome : Outcome) (verbosity : Nat) : List String :=
  match outcome.world? with
  | none => []
  | some world => (world.notices.filter (·.level.rank ≤ verbosity)).map Notice.line

end Outcome

namespace Command

def run (limits : Wasm.Limits) (command : Command) (files : FileTree) : Outcome :=
  match runFile limits command.settings command.file files with
  | (.error fault, world) => .failed fault world
  | (.ok value, world) => .returned value (world.say (.returned command.settings.entry value))

/-- Carries out what the arguments ask for: the outcome, and the lines that are logged. -/
def runArguments (limits : Wasm.Limits) (arguments : List String) (files : FileTree) :
    Outcome × List String :=
  match ofArguments arguments with
  | .error fault => (.refused fault, [])
  | .ok command =>
    let outcome := command.run limits files
    (outcome, outcome.log command.verbosity)

end Command

end FirstCall
