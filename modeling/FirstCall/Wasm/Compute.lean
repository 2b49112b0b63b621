import FirstCall.Wasm.Vector

/-!
# Results of numeric operators

Operands and results are given as their bits.
-/

namespace FirstCall.Wasm

def ofBool (truth : Bool) : Nat := if truth then 1 else 0

def Numeric.compute {ε : Type} : Numeric → List Nat → Except (Stop ε) Nat
  | .eqz _, [x] => .ok (ofBool (x = 0))
  | .unary width op, [x] => .ok (op.eval (BitVec.ofNat width.bits x)).toNat
  | .binary width op, [x, y] =>
    ((op.eval (BitVec.ofNat width.bits x) (BitVec.ofNat width.bits y)).map BitVec.toNat).mapError
      .trap
  | .compare width op, [x, y] =>
    .ok (ofBool (op.eval (BitVec.ofNat width.bits x) (BitVec.ofNat width.bits y)))
  | .floatUnary width op, [x] => .ok (op.eval width x)
  | .floatBinary width op, [x, y] => .ok (op.eval width x y)
  | .floatCompare width op, [x, y] => .ok (ofBool (op.eval width x y))
  | .wrap, [x] => .ok (x % 1 <<< 32)
  | .extend isSigned, [x] => .ok (resize 64 isSigned (BitVec.ofNat 32 x)).toNat
  | .truncate target source isSigned isSaturating, [x] =>
    if isSaturating then .ok (source.truncateSat target.bits isSigned x).toNat
    else (source.truncateTrap target.bits isSigned x).map BitVec.toNat
  | .convert target source isSigned, [x] =>
    .ok (target.ofInt (reading isSigned (BitVec.ofNat source.bits x)))
  | .demote, [x] => .ok (Width.reformat .w64 .w32 x)
  | .promote, [x] => .ok (Width.reformat .w32 .w64 x)
  | .bitsOfFloat _, [x] => .ok x
  | .floatOfBits _, [x] => .ok x
  | .vector op, operands => .ok (op.eval operands)
  | _, _ => .error .stuck

end FirstCall.Wasm
