import FirstCall.Wasm.Numeric
import FirstCall.Wasm.Trap

/-!
# Integers

The integers of each width are words of so many bits. An operator that cares reads them as unsigned
or, in two's complement, as signed. Only division can fail.
-/

namespace FirstCall.Wasm

variable {n : Nat}

/-- The integer that a word stands for. -/
def reading (isSigned : Bool) (x : BitVec n) : Int := if isSigned then x.toInt else x.toNat

/-- The word for the closest integer that there is one for. -/
def saturate (n : Nat) (isSigned : Bool) (value : Int) : BitVec n :=
  let least : Int := if isSigned then -(1 <<< (n - 1) : Nat) else 0
  let most : Int := if isSigned then (1 <<< (n - 1) : Nat) - 1 else (1 <<< n : Nat) - 1
  BitVec.ofInt n (max least (min most value))

/-- A word of another width, for the same integer if it has one there. -/
def resize (m : Nat) (isSigned : Bool) (x : BitVec n) : BitVec m :=
  if isSigned then x.signExtend m else x.setWidth m

def IntUnary.eval (x : BitVec n) : IntUnary → BitVec n
  | .clz => x.clz
  | .ctz => x.ctz
  | .popcnt => x.cpop
  | .extend bits => (x.setWidth bits).signExtend n

def IntBinary.eval (x y : BitVec n) : IntBinary → Except Trap (BitVec n)
  | .add => .ok (x + y)
  | .sub => .ok (x - y)
  | .mul => .ok (x * y)
  | .div isSigned =>
    if y = 0 then .error .divisionByZero
    else if isSigned then
      if x = BitVec.intMin n ∧ y = -1 then .error .integerOverflow else .ok (x.sdiv y)
    else .ok (x.udiv y)
  | .rem isSigned =>
    if y = 0 then .error .divisionByZero
    else .ok (if isSigned then x.srem y else x.umod y)
  | .and => .ok (x &&& y)
  | .or => .ok (x ||| y)
  | .xor => .ok (x ^^^ y)
  | .shl => .ok (x <<< (y.toNat % n))
  | .shr isSigned =>
    .ok (if isSigned then x.sshiftRight (y.toNat % n) else x >>> (y.toNat % n))
  | .rotl => .ok (x.rotateLeft (y.toNat % n))
  | .rotr => .ok (x.rotateRight (y.toNat % n))

def IntCompare.eval (x y : BitVec n) : IntCompare → Bool
  | .eq => x = y
  | .ne => x ≠ y
  | .lt isSigned => reading isSigned x < reading isSigned y
  | .gt isSigned => reading isSigned y < reading isSigned x
  | .le isSigned => reading isSigned x ≤ reading isSigned y
  | .ge isSigned => reading isSigned y ≤ reading isSigned x

end FirstCall.Wasm
