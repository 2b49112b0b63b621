import FirstCall.Wasm.Types

/-!
# Numeric operators

The operators that take numbers and vectors from the stack and leave one: on integers, on
floating-point numbers, on vectors, and between them. None of them looks at anything else.
-/

namespace FirstCall.Wasm

inductive Width where
  | w32
  | w64
  deriving DecidableEq, Repr

namespace Width

def bits : Width → Nat
  | .w32 => 32
  | .w64 => 64

def int : Width → ValType
  | .w32 => .i32
  | .w64 => .i64

def float : Width → ValType
  | .w32 => .f32
  | .w64 => .f64

end Width

inductive IntUnary where
  | clz
  | ctz
  | popcnt
  | extend (bits : Nat)
  deriving DecidableEq, Repr

inductive IntBinary where
  | add
  | sub
  | mul
  | div (isSigned : Bool)
  | rem (isSigned : Bool)
  | and
  | or
  | xor
  | shl
  | shr (isSigned : Bool)
  | rotl
  | rotr
  deriving DecidableEq, Repr

inductive IntCompare where
  | eq
  | ne
  | lt (isSigned : Bool)
  | gt (isSigned : Bool)
  | le (isSigned : Bool)
  | ge (isSigned : Bool)
  deriving DecidableEq, Repr

inductive FloatUnary where
  | abs
  | neg
  | ceil
  | floor
  | trunc
  | nearest
  | sqrt
  deriving DecidableEq, Repr

/-- The last two are the smaller and the larger operand as a comparison tells them, and occur on
vectors only. -/
inductive FloatBinary where
  | add
  | sub
  | mul
  | div
  | min
  | max
  | copysign
  | lesser
  | greater
  deriving DecidableEq, Repr

inductive FloatCompare where
  | eq
  | ne
  | lt
  | gt
  | le
  | ge
  deriving DecidableEq, Repr

/-- The widths of the integers into which a vector can be divided. -/
inductive Lane where
  | i8
  | i16
  | i32
  | i64
  deriving DecidableEq, Repr

namespace Lane

def bits : Lane → Nat
  | .i8 => 8
  | .i16 => 16
  | .i32 => 32
  | .i64 => 64

def type : Lane → ValType
  | .i64 => .i64
  | _ => .i32

end Lane

inductive Shape where
  | ints (lane : Lane)
  | floats (width : Width)
  deriving DecidableEq, Repr

namespace Shape

def bits : Shape → Nat
  | .ints lane => lane.bits
  | .floats width => width.bits

def type : Shape → ValType
  | .ints lane => lane.type
  | .floats width => width.float

def count (shape : Shape) : Nat := 128 / shape.bits

end Shape

inductive Bitwise where
  | and
  | andNot
  | or
  | xor
  deriving DecidableEq, Repr

inductive LaneUnary where
  | abs
  | neg
  | popcnt
  deriving DecidableEq, Repr

inductive LaneBinary where
  | add
  | addSat (isSigned : Bool)
  | sub
  | subSat (isSigned : Bool)
  | mul
  | min (isSigned : Bool)
  | max (isSigned : Bool)
  | average
  | mulQ15
  deriving DecidableEq, Repr

inductive LaneShift where
  | shl
  | shr (isSigned : Bool)
  deriving DecidableEq, Repr

/-- Operators that take vectors or leave one. Where lanes change their width, the lane is that of the
operands. -/
inductive VectorOp where
  | not
  | bitwise (op : Bitwise)
  | bitselect
  | anyTrue
  | shuffle (lanes : List Nat)
  | swizzle
  | splat (shape : Shape)
  | extract (shape : Shape) (isSigned : Bool) (lane : Nat)
  | replace (shape : Shape) (lane : Nat)
  | allTrue (lane : Lane)
  | bitmask (lane : Lane)
  | unary (lane : Lane) (op : LaneUnary)
  | binary (lane : Lane) (op : LaneBinary)
  | compare (lane : Lane) (op : IntCompare)
  | shift (lane : Lane) (op : LaneShift)
  | narrow (lane : Lane) (isSigned : Bool)
  | extend (lane : Lane) (isHigh isSigned : Bool)
  | extendMul (lane : Lane) (isHigh isSigned : Bool)
  | addPairs (lane : Lane) (isSigned : Bool)
  | dot (lane : Lane)
  | dotAdd
  | floatUnary (width : Width) (op : FloatUnary)
  | floatBinary (width : Width) (op : FloatBinary)
  | floatCompare (width : Width) (op : FloatCompare)
  | truncate (width : Width) (isSigned : Bool)
  | convert (width : Width) (isSigned : Bool)
  | demote
  | promote
  | mulAdd (width : Width) (isNegated : Bool)
  deriving DecidableEq, Repr

namespace VectorOp

def params : VectorOp → List ValType
  | .not | .anyTrue | .extract .. | .allTrue _ | .bitmask _ | .unary .. | .extend .. | .addPairs ..
  | .floatUnary .. | .truncate .. | .convert .. | .demote | .promote => [.v128]
  | .bitwise _ | .shuffle _ | .swizzle | .binary .. | .compare .. | .narrow .. | .extendMul ..
  | .dot _ | .floatBinary .. | .floatCompare .. => [.v128, .v128]
  | .bitselect | .dotAdd | .mulAdd .. => [.v128, .v128, .v128]
  | .splat shape => [shape.type]
  | .replace shape _ => [.v128, shape.type]
  | .shift .. => [.v128, .i32]

def result : VectorOp → ValType
  | .anyTrue | .allTrue _ | .bitmask _ => .i32
  | .extract shape _ _ => shape.type
  | _ => .v128

def lanesExist : VectorOp → Bool
  | .shuffle lanes => lanes.all (· < 32)
  | .extract shape _ lane => lane < shape.count
  | .replace shape lane => lane < shape.count
  | _ => true

end VectorOp

inductive Numeric where
  | eqz (width : Width)
  | unary (width : Width) (op : IntUnary)
  | binary (width : Width) (op : IntBinary)
  | compare (width : Width) (op : IntCompare)
  | floatUnary (width : Width) (op : FloatUnary)
  | floatBinary (width : Width) (op : FloatBinary)
  | floatCompare (width : Width) (op : FloatCompare)
  | wrap
  | extend (isSigned : Bool)
  | truncate (target source : Width) (isSigned isSaturating : Bool)
  | convert (target source : Width) (isSigned : Bool)
  | demote
  | promote
  | bitsOfFloat (width : Width)
  | floatOfBits (width : Width)
  | vector (op : VectorOp)
  deriving DecidableEq, Repr

namespace Numeric

def params : Numeric → List ValType
  | .eqz width => [width.int]
  | .unary width _ => [width.int]
  | .binary width _ => [width.int, width.int]
  | .compare width _ => [width.int, width.int]
  | .floatUnary width _ => [width.float]
  | .floatBinary width _ => [width.float, width.float]
  | .floatCompare width _ => [width.float, width.float]
  | .wrap => [.i64]
  | .extend _ => [.i32]
  | .truncate _ source _ _ => [source.float]
  | .convert _ source _ => [source.int]
  | .demote => [.f64]
  | .promote => [.f32]
  | .bitsOfFloat width => [width.float]
  | .floatOfBits width => [width.int]
  | .vector op => op.params

def result : Numeric → ValType
  | .unary width _ => width.int
  | .binary width _ => width.int
  | .eqz _ | .compare .. | .floatCompare .. => .i32
  | .floatUnary width _ => width.float
  | .floatBinary width _ => width.float
  | .wrap => .i32
  | .extend _ => .i64
  | .truncate target _ _ _ => target.int
  | .convert target _ _ => target.float
  | .demote => .f32
  | .promote => .f64
  | .bitsOfFloat width => width.int
  | .floatOfBits width => width.float
  | .vector op => op.result

def lanesExist : Numeric → Bool
  | .vector op => op.lanesExist
  | _ => true

end Numeric

end FirstCall.Wasm
