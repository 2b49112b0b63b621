import FirstCall.Wasm.Compute

/-!
# Accesses

The operators that read or write one stretch of memory. Each knows how many bytes it moves, what it
takes from the stack besides the address, and what becomes of the number that these bytes write.
Atomic accesses are aligned; as there is one thread only, nothing else sets them apart.
-/

namespace FirstCall.Wasm

inductive Modify where
  | add
  | sub
  | and
  | or
  | xor
  | exchange
  deriving DecidableEq, Repr

def Modify.eval (old operand : Nat) : Modify → Nat
  | .add => old + operand
  | .sub => (old + 1 <<< 64) - operand
  | .and => old &&& operand
  | .or => old ||| operand
  | .xor => old ^^^ operand
  | .exchange => operand

inductive AccessKind where
  | load (type : ValType) (isSigned : Bool)
  | store (type : ValType)
  /-- Half a vector, each lane of which becomes one of twice the width. -/
  | widen (lane : Lane) (isSigned : Bool)
  | splat
  | loadLane (lane : Nat)
  | storeLane (lane : Nat)
  | modify (width : Width) (op : Modify)
  | compareExchange (width : Width)
  | wait (width : Width)
  | notify
  deriving DecidableEq, Repr

structure Access where
  kind : AccessKind
  bytes : Nat
  isAtomic : Bool
  deriving DecidableEq, Repr

/-- What an access comes to: what is written, and what is answered. -/
structure Moved where
  stored : Option Nat
  answer : Option Nat

namespace Access

/-- The types of the operands above the address, the topmost last. -/
def operands (access : Access) : List ValType :=
  match access.kind with
  | .load .. | .widen .. | .splat => []
  | .store type => [type]
  | .loadLane _ | .storeLane _ => [.v128]
  | .modify width _ => [width.int]
  | .compareExchange width => [width.int, width.int]
  | .wait width => [width.int, .i64]
  | .notify => [.i32]

def result? (access : Access) : Option ValType :=
  match access.kind with
  | .store _ | .storeLane _ => none
  | .load type _ => some type
  | .widen .. | .splat | .loadLane _ => some .v128
  | .modify width _ => some width.int
  | .compareExchange width => some width.int
  | .wait _ | .notify => some .i32

def alignment (access : Access) : Nat := access.bytes.log2

def laneExists (access : Access) : Bool :=
  match access.kind with
  | .loadLane lane | .storeLane lane => lane * access.bytes < 16
  | _ => true

def laneOf (access : Access) (lane vector : Nat) : Nat :=
  vector >>> (8 * access.bytes * lane) % 1 <<< (8 * access.bytes)

/-- What becomes of the number in memory. A waiting thread is woken by nobody, so that it waits for
as long as it said, or for good. -/
def effect {ε : Type} (access : Access) (isShared : Bool) (old : Nat) (operands : List Nat) :
    Except (Stop ε) Moved :=
  match access.kind, operands with
  | .load type isSigned, [] =>
    .ok ⟨none, some (resize type.bits isSigned (BitVec.ofNat (8 * access.bytes) old)).toNat⟩
  | .store _, [value] => .ok ⟨some value, none⟩
  | .widen lane isSigned, [] =>
    .ok ⟨none, some (VectorOp.eval (.extend lane false isSigned) [old])⟩
  | .splat, [] =>
    .ok ⟨none, some (Lanes.join (List.replicate (16 / access.bytes)
      (BitVec.ofNat (8 * access.bytes) old)))⟩
  | .loadLane lane, [vector] =>
    .ok ⟨none, some (vector + old <<< (8 * access.bytes * lane) -
      access.laneOf lane vector <<< (8 * access.bytes * lane))⟩
  | .storeLane lane, [vector] => .ok ⟨some (access.laneOf lane vector), none⟩
  | .modify _ op, [operand] => .ok ⟨some (op.eval old operand), some old⟩
  | .compareExchange _, [expected, new] =>
    .ok ⟨some (if old = expected % 1 <<< (8 * access.bytes) then new else old), some old⟩
  | .wait _, [expected, timeout] =>
    if !isShared then .error (.snag .unsharedWait)
    else if old ≠ expected then .ok ⟨none, some 1⟩
    else if timeout < 1 <<< 63 then .ok ⟨none, some 2⟩
    else .error .unfinished
  | .notify, [_] => .ok ⟨none, some 0⟩
  | _, _ => .error .stuck

end Access

end FirstCall.Wasm
