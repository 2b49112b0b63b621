import FirstCall.Service.Artifact
import FirstCall.Session.Basic

/-!
# Running a program

A program is run end to end: the compiler service is loaded from its artifact, a session is set
up from the source text, and its entry point is run once.
-/

namespace FirstCall

/-- The stack that an engine has unless told otherwise, and a guess at what calls take of it. -/
def standardLimits : Wasm.Limits where
  stack := 524288
  frame _ := 64
  frame_pos _ := by decide
  hostFrame := 1024
  fuel := 0x10000000000

/-- Runs a source text against the compiler service that the configuration names. -/
def runText (limits : Wasm.Limits) (settings : Settings) (source : String) (world : World) :
    Except Session.Fault Int32 × World :=
  let world := (world.say (.running source.utf8ByteSize settings.service)).say
    (.loadingService settings.service)
  match Service.Artifact.ofFile limits world.files settings.service with
  | .error fault => (.error (.service fault), world)
  | .ok (loaded, machine) =>
    let service := loaded.toService limits
    let outside : Outside ServiceMachine := ⟨machine, world.say (loaded.ready machine)⟩
    match Session.start service limits source settings outside with
    | .error (fault, outside) => (.error fault, outside.world)
    | .ok session =>
      let (result, session) := session.run service limits
      (result, session.world)

end FirstCall
