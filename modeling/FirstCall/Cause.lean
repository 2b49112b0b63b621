import FirstCall.Wasm.Defect
import FirstCall.Wasm.Trap

/-!
# Causes

What lies beneath a failure: an answer of the file system, or an answer of the engine that loads
and runs modules.
-/

namespace FirstCall

inductive FileFault where
  | notFound
  | permissionDenied
  | notADirectory
  | isADirectory
  | invalidData
  deriving DecidableEq, Repr

def FileFault.message : FileFault → String
  | .notFound => "entity not found"
  | .permissionDenied => "permission denied"
  | .notADirectory => "not a directory"
  | .isADirectory => "is a directory"
  | .invalidData => "invalid data"

inductive Cause where
  | defect (defect : Wasm.Defect)
  | unlinkable
  | signature
  | trap (trap : Wasm.Trap)
  | snag (snag : Wasm.Snag)
  | misplaced
  /-- The engine gave up before the code came to an end. -/
  | unfinished
  | told (text : String)
  deriving DecidableEq, Repr

def Cause.message : Cause → String
  | .defect d => d.message
  | .unlinkable => "an import does not match"
  | .signature => "an export has another type"
  | .trap t => t.message
  | .snag s => s.message
  | .misplaced => "a segment lies outside its table or memory"
  | .unfinished => "the code did not come to an end"
  | .told text => text

end FirstCall
