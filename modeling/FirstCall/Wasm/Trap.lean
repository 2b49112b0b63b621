/-!
# Traps

The ways in which running code can fail by its own doing, and the other reasons for which it stops
before its end.
-/

namespace FirstCall.Wasm

inductive Trap where
  | unreachable
  | divisionByZero
  | integerOverflow
  | memoryOutOfBounds
  | tableOutOfBounds
  | nullCall
  | signatureMismatch
  | callStackExhausted
  deriving DecidableEq, Repr

def Trap.message : Trap → String
  | .unreachable => "unreachable code was reached"
  | .divisionByZero => "an integer was divided by zero"
  | .integerOverflow => "an integer result does not fit"
  | .memoryOutOfBounds => "an access lies outside the memory"
  | .tableOutOfBounds => "an access lies outside the table"
  | .nullCall => "an empty table entry was called"
  | .signatureMismatch => "an indirect call expected another type"
  | .callStackExhausted => "the call stack is exhausted"

/-- Why one of the operators on floating-point numbers or for threads could not go on. -/
inductive Snag where
  | notANumber
  | misaligned
  | unsharedWait
  deriving DecidableEq, Repr

def Snag.message : Snag → String
  | .notANumber => "no number became an integer"
  | .misaligned => "an atomic access is not aligned"
  | .unsharedWait => "a memory without threads was waited on"

/-- Why code stopped before its end. -/
inductive Stop (ε : Type) where
  | trap (t : Trap)
  | snag (s : Snag)
  | failed (fault : ε)
  | misplaced
  /-- The code goes on for longer than was looked at. -/
  | unfinished
  /-- The code does not fit its types, as no checked code does. -/
  | stuck
  deriving DecidableEq, Repr

end FirstCall.Wasm
