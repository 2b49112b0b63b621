import FirstCall.Wasm.Float

/-!
# Vectors

A vector is 128 bits, which an operator reads as lanes of one width, the lowest first. Most
operators do to every lane what an operator on numbers does.
-/

namespace FirstCall.Wasm

namespace Lanes

/-- The lanes of a vector. -/
def split (bits vector : Nat) : List (BitVec bits) :=
  (List.range (128 / bits)).map fun k => BitVec.ofNat bits (vector >>> (bits * k))

def join {bits : Nat} : List (BitVec bits) → Nat
  | [] => 0
  | lane :: rest => lane.toNat + join rest <<< bits

def map (bits : Nat) {target : Nat} (f : BitVec bits → BitVec target) (x : Nat) : Nat :=
  join ((split bits x).map f)

def zip (bits : Nat) {target : Nat} (f : BitVec bits → BitVec bits → BitVec target) (x y : Nat) : Nat :=
  join (List.zipWith f (split bits x) (split bits y))

def zip₃ (bits : Nat) (f : BitVec bits → BitVec bits → BitVec bits → BitVec bits)
    (x y z : Nat) : Nat :=
  join (List.zipWith (fun (a, b) c => f a b c) ((split bits x).zip (split bits y)) (split bits z))

def half (bits : Nat) (isHigh : Bool) (x : Nat) : List (BitVec bits) :=
  let count := 64 / bits
  if isHigh then (split bits x).drop count else (split bits x).take count

def pairSums {bits : Nat} : List (BitVec bits) → List (BitVec bits)
  | x :: y :: rest => (x + y) :: pairSums rest
  | _ => []

def truth (bits : Nat) (holds : Bool) : BitVec bits := if holds then BitVec.allOnes bits else 0

def dotProduct (bits : Nat) (x y : Nat) : List (BitVec (2 * bits)) :=
  pairSums (List.zipWith (fun a b => resize (2 * bits) true a * resize (2 * bits) true b)
    (split bits x) (split bits y))

end Lanes

def Bitwise.eval (x y : Nat) : Bitwise → Nat
  | .and => x &&& y
  | .andNot => x ^^^ (x &&& y)
  | .or => x ||| y
  | .xor => x ^^^ y

variable {n : Nat}

def LaneUnary.eval (x : BitVec n) : LaneUnary → BitVec n
  | .abs => x.abs
  | .neg => -x
  | .popcnt => x.cpop

def LaneBinary.eval (x y : BitVec n) : LaneBinary → BitVec n
  | .add => x + y
  | .addSat isSigned => saturate n isSigned (reading isSigned x + reading isSigned y)
  | .sub => x - y
  | .subSat isSigned => saturate n isSigned (reading isSigned x - reading isSigned y)
  | .mul => x * y
  | .min isSigned => if reading isSigned x ≤ reading isSigned y then x else y
  | .max isSigned => if reading isSigned x ≤ reading isSigned y then y else x
  | .average => BitVec.ofNat n ((x.toNat + y.toNat + 1) / 2)
  | .mulQ15 => saturate n true ((x.toInt * y.toInt + 0x4000) >>> (15 : Nat))

def LaneShift.eval (x : BitVec n) (count : Nat) : LaneShift → BitVec n
  | .shl => x <<< (count % n)
  | .shr isSigned => if isSigned then x.sshiftRight (count % n) else x >>> (count % n)

namespace VectorOp

open Lanes

/-- A number added to the product of two others, or to its negation. -/
def mulThenAdd (width : Width) (isNegated : Bool) (x y z : BitVec width.bits) :
    BitVec width.bits :=
  let factor := if isNegated then FloatUnary.neg.eval width x.toNat else x.toNat
  BitVec.ofNat width.bits
    (FloatBinary.add.eval width (FloatBinary.mul.eval width factor y.toNat) z.toNat)

def eval : VectorOp → List Nat → Nat
  | .not, [x] => x ^^^ (1 <<< 128 - 1)
  | .anyTrue, [x] => if x = 0 then 0 else 1
  | .splat shape, [x] => join (List.replicate shape.count (BitVec.ofNat shape.bits x))
  | .extract shape isSigned lane, [x] =>
    (resize shape.type.bits isSigned ((split shape.bits x).getD lane 0)).toNat
  | .allTrue lane, [x] => if (split lane.bits x).all (· ≠ 0) then 1 else 0
  | .bitmask lane, [x] => join ((split lane.bits x).map fun a => BitVec.ofBool a.msb)
  | .unary lane op, [x] => map lane.bits op.eval x
  | .extend lane isHigh isSigned, [x] =>
    join ((half lane.bits isHigh x).map (resize (2 * lane.bits) isSigned))
  | .addPairs lane isSigned, [x] =>
    join (pairSums ((split lane.bits x).map (resize (2 * lane.bits) isSigned)))
  | .floatUnary width op, [x] =>
    map width.bits (fun a => BitVec.ofNat width.bits (op.eval width a.toNat)) x
  | .truncate width isSigned, [x] =>
    map width.bits (fun a => width.truncateSat 32 isSigned a.toNat) x
  | .convert width isSigned, [x] =>
    join (((split 32 x).take (128 / width.bits)).map fun a =>
      BitVec.ofNat width.bits (width.ofInt (reading isSigned a)))
  | .demote, [x] => map 64 (fun a => BitVec.ofNat 32 (Width.reformat .w64 .w32 a.toNat)) x
  | .promote, [x] =>
    join ((half 32 false x).map fun a => BitVec.ofNat 64 (Width.reformat .w32 .w64 a.toNat))
  | .bitwise op, [x, y] => op.eval x y
  | .shuffle places, [x, y] =>
    join (places.map fun place => (split 8 x ++ split 8 y).getD place 0)
  | .swizzle, [x, y] => map 8 (fun place => (split 8 x).getD place.toNat 0) y
  | .replace shape lane, [x, y] => join ((split shape.bits x).set lane (BitVec.ofNat shape.bits y))
  | .binary lane op, [x, y] => zip lane.bits op.eval x y
  | .compare lane op, [x, y] => zip lane.bits (fun a b => truth lane.bits (op.eval a b)) x y
  | .shift lane op, [x, y] => map lane.bits (fun a => op.eval a y) x
  | .narrow lane isSigned, [x, y] =>
    join ((split lane.bits x ++ split lane.bits y).map fun a =>
      saturate (lane.bits / 2) isSigned a.toInt)
  | .extendMul lane isHigh isSigned, [x, y] =>
    join (List.zipWith
      (fun a b => resize (2 * lane.bits) isSigned a * resize (2 * lane.bits) isSigned b)
      (half lane.bits isHigh x) (half lane.bits isHigh y))
  | .dot lane, [x, y] => join (dotProduct lane.bits x y)
  | .floatBinary width op, [x, y] =>
    zip width.bits (fun a b => BitVec.ofNat width.bits (op.eval width a.toNat b.toNat)) x y
  | .floatCompare width op, [x, y] =>
    zip width.bits (fun a b => truth width.bits (op.eval width a.toNat b.toNat)) x y
  | .bitselect, [x, y, z] => (x &&& z) ||| (y ^^^ (y &&& z))
  | .dotAdd, [x, y, z] =>
    join (List.zipWith (· + ·) (pairSums ((dotProduct 8 x y).map (resize 32 true))) (split 32 z))
  | .mulAdd width isNegated, [x, y, z] => zip₃ width.bits (mulThenAdd width isNegated) x y z
  | _, _ => 0

end VectorOp

end FirstCall.Wasm
