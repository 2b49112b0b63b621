import FirstCall.Wasm.Code

/-!
# Opcodes

The codes of the operators that come in families. Within a row, codes count up.
-/

namespace FirstCall.Wasm

namespace Opcodes

/-- The item with the given code. A row stands behind the code of its first item. -/
def lookup? {α : Type} (rows : List (Nat × List α)) (code : Nat) : Option α :=
  rows.findSome? fun (first, row) => if first ≤ code then row[code - first]? else none

def comparisons : List IntCompare :=
  [.eq, .ne, .lt true, .lt false, .gt true, .gt false, .le true, .le false, .ge true, .ge false]

def signedComparisons : List IntCompare := [.eq, .ne, .lt true, .gt true, .le true, .ge true]

def floatComparisons : List FloatCompare := [.eq, .ne, .lt, .gt, .le, .ge]

def intOperators (width : Width) : List Numeric :=
  [IntUnary.clz, .ctz, .popcnt].map (.unary width) ++
    [IntBinary.add, .sub, .mul, .div true, .div false, .rem true, .rem false, .and, .or, .xor, .shl,
      .shr true, .shr false, .rotl, .rotr].map (.binary width)

def floatOperators (width : Width) : List Numeric :=
  [FloatUnary.abs, .neg, .ceil, .floor, .trunc, .nearest, .sqrt].map (.floatUnary width) ++
    [FloatBinary.add, .sub, .mul, .div, .min, .max, .copysign].map (.floatBinary width)

def truncations (target : Width) (isSaturating : Bool) : List Numeric :=
  [.truncate target .w32 true isSaturating, .truncate target .w32 false isSaturating,
    .truncate target .w64 true isSaturating, .truncate target .w64 false isSaturating]

def conversions (target : Width) : List Numeric :=
  [.convert target .w32 true, .convert target .w32 false, .convert target .w64 true,
    .convert target .w64 false]

def numeric : List (Nat × List Numeric) := [
  (0x45, .eqz .w32 :: comparisons.map (.compare .w32)),
  (0x50, .eqz .w64 :: comparisons.map (.compare .w64)),
  (0x5b, floatComparisons.map (.floatCompare .w32)),
  (0x61, floatComparisons.map (.floatCompare .w64)),
  (0x67, intOperators .w32),
  (0x79, intOperators .w64),
  (0x8b, floatOperators .w32),
  (0x99, floatOperators .w64),
  (0xa7, List.flatten [[.wrap], truncations .w32 false, [.extend true, .extend false],
    truncations .w64 false, conversions .w32, [.demote], conversions .w64,
    [.promote, .bitsOfFloat .w32, .bitsOfFloat .w64, .floatOfBits .w32, .floatOfBits .w64]]),
  (0xc0, [.unary .w32 (.extend 8), .unary .w32 (.extend 16), .unary .w64 (.extend 8),
    .unary .w64 (.extend 16), .unary .w64 (.extend 32)])]

/-- Conversions that cannot trap, behind the byte for operators that came later. -/
def saturating : List Numeric := truncations .w32 true ++ truncations .w64 true

def plain (kind : AccessKind) (bytes : Nat) : Access := ⟨kind, bytes, false⟩

def access : List (Nat × List Access) := [
  (0x28, [plain (.load .i32 false) 4, plain (.load .i64 false) 8, plain (.load .f32 false) 4,
    plain (.load .f64 false) 8, plain (.load .i32 true) 1, plain (.load .i32 false) 1,
    plain (.load .i32 true) 2, plain (.load .i32 false) 2, plain (.load .i64 true) 1,
    plain (.load .i64 false) 1, plain (.load .i64 true) 2, plain (.load .i64 false) 2,
    plain (.load .i64 true) 4, plain (.load .i64 false) 4, plain (.store .i32) 4,
    plain (.store .i64) 8, plain (.store .f32) 4, plain (.store .f64) 8, plain (.store .i32) 1,
    plain (.store .i32) 2, plain (.store .i64) 1, plain (.store .i64) 2, plain (.store .i64) 4])]

def vectorAccess : List (Nat × List Access) := [
  (0, [plain (.load .v128 false) 16, plain (.widen .i8 true) 8, plain (.widen .i8 false) 8,
    plain (.widen .i16 true) 8, plain (.widen .i16 false) 8, plain (.widen .i32 true) 8,
    plain (.widen .i32 false) 8, plain .splat 1, plain .splat 2, plain .splat 4,
    plain .splat 8, plain (.store .v128) 16]),
  (92, [plain (.load .v128 false) 4, plain (.load .v128 false) 8])]

def laneAccess : List (Nat × List (Nat → Access)) := [
  (84, [1, 2, 4, 8].map (fun bytes lane => plain (.loadLane lane) bytes) ++
    [1, 2, 4, 8].map (fun bytes lane => plain (.storeLane lane) bytes))]

/-- The widths on which atomic accesses work, and how many bytes of them they move. -/
def atomicShapes : List (Width × Nat) :=
  [(.w32, 4), (.w64, 8), (.w32, 1), (.w32, 2), (.w64, 1), (.w64, 2), (.w64, 4)]

def atomicKinds : List (Width → AccessKind) :=
  [fun width => .load width.int false, fun width => .store width.int, (.modify · .add),
    (.modify · .sub), (.modify · .and), (.modify · .or), (.modify · .xor), (.modify · .exchange),
    .compareExchange]

def atomic : List (Nat × List Access) := [
  (0x00, [⟨.notify, 4, true⟩, ⟨.wait .w32, 4, true⟩, ⟨.wait .w64, 8, true⟩]),
  (0x10, atomicKinds.flatMap fun kind =>
    atomicShapes.map fun (width, bytes) => ⟨kind width, bytes, true⟩)]

def lane : List (Nat × List (Nat → VectorOp)) := [
  (21, [.extract (.ints .i8) true, .extract (.ints .i8) false, .replace (.ints .i8),
    .extract (.ints .i16) true, .extract (.ints .i16) false, .replace (.ints .i16),
    .extract (.ints .i32) false, .replace (.ints .i32), .extract (.ints .i64) false,
    .replace (.ints .i64), .extract (.floats .w32) false, .replace (.floats .w32),
    .extract (.floats .w64) false, .replace (.floats .w64)])]

def shifts (lane : Lane) : List VectorOp :=
  [.shift lane .shl, .shift lane (.shr true), .shift lane (.shr false)]

def sums (lane : Lane) : List VectorOp :=
  [LaneBinary.add, .addSat true, .addSat false, .sub, .subSat true, .subSat false].map
    (.binary lane)

def extremes (lane : Lane) : List VectorOp :=
  [LaneBinary.min true, .min false, .max true, .max false].map (.binary lane)

def extensions (lane : Lane) : List VectorOp :=
  [.extend lane false true, .extend lane true true, .extend lane false false,
    .extend lane true false]

def products (lane : Lane) : List VectorOp :=
  [.extendMul lane false true, .extendMul lane true true, .extendMul lane false false,
    .extendMul lane true false]

def floatArithmetic (width : Width) : List VectorOp :=
  .floatUnary width .sqrt ::
    [FloatBinary.add, .sub, .mul, .div, .min, .max, .lesser, .greater].map (.floatBinary width)

/-- Operators on vectors. The last row are those whose results an engine may choose within bounds; it
chooses those of the operators before. -/
def vector : List (Nat × List VectorOp) := [
  (14, [.swizzle, .splat (.ints .i8), .splat (.ints .i16), .splat (.ints .i32),
    .splat (.ints .i64), .splat (.floats .w32), .splat (.floats .w64)]),
  (35, List.flatten [comparisons.map (.compare .i8), comparisons.map (.compare .i16),
    comparisons.map (.compare .i32), floatComparisons.map (.floatCompare .w32),
    floatComparisons.map (.floatCompare .w64)]),
  (77, [.not, .bitwise .and, .bitwise .andNot, .bitwise .or, .bitwise .xor, .bitselect, .anyTrue]),
  (94, [.demote, .promote]),
  (96, List.flatten [[.unary .i8 .abs, .unary .i8 .neg, .unary .i8 .popcnt, .allTrue .i8,
      .bitmask .i8, .narrow .i16 true, .narrow .i16 false, .floatUnary .w32 .ceil,
      .floatUnary .w32 .floor, .floatUnary .w32 .trunc, .floatUnary .w32 .nearest],
    shifts .i8, sums .i8, [.floatUnary .w64 .ceil, .floatUnary .w64 .floor], extremes .i8,
    [.floatUnary .w64 .trunc, .binary .i8 .average, .addPairs .i8 true, .addPairs .i8 false,
      .addPairs .i16 true, .addPairs .i16 false]]),
  (128, List.flatten [[.unary .i16 .abs, .unary .i16 .neg, .binary .i16 .mulQ15, .allTrue .i16,
      .bitmask .i16, .narrow .i32 true, .narrow .i32 false], extensions .i8, shifts .i16,
    sums .i16, [.floatUnary .w64 .nearest, .binary .i16 .mul], extremes .i16]),
  (155, .binary .i16 .average :: products .i8),
  (160, [.unary .i32 .abs, .unary .i32 .neg]),
  (163, [.allTrue .i32, .bitmask .i32]),
  (167, List.flatten [extensions .i16, shifts .i32, [.binary .i32 .add]]),
  (177, [.binary .i32 .sub]),
  (181, List.flatten [[.binary .i32 .mul], extremes .i32, [.dot .i16]]),
  (188, products .i16),
  (192, [.unary .i64 .abs, .unary .i64 .neg]),
  (195, [.allTrue .i64, .bitmask .i64]),
  (199, List.flatten [extensions .i32, shifts .i64, [.binary .i64 .add]]),
  (209, [.binary .i64 .sub]),
  (213, List.flatten [[.binary .i64 .mul], signedComparisons.map (.compare .i64), products .i32]),
  (224, [.floatUnary .w32 .abs, .floatUnary .w32 .neg]),
  (227, floatArithmetic .w32),
  (236, [.floatUnary .w64 .abs, .floatUnary .w64 .neg]),
  (239, floatArithmetic .w64),
  (248, [.truncate .w32 true, .truncate .w32 false, .convert .w32 true, .convert .w32 false,
    .truncate .w64 true, .truncate .w64 false, .convert .w64 true, .convert .w64 false]),
  (256, [.swizzle, .truncate .w32 true, .truncate .w32 false, .truncate .w64 true,
    .truncate .w64 false, .mulAdd .w32 false, .mulAdd .w32 true, .mulAdd .w64 false,
    .mulAdd .w64 true, .bitselect, .bitselect, .bitselect, .bitselect, .floatBinary .w32 .min,
    .floatBinary .w32 .max, .floatBinary .w64 .min, .floatBinary .w64 .max, .binary .i16 .mulQ15,
    .dot .i8, .dotAdd])]

end Opcodes

end FirstCall.Wasm
