import FirstCall.Wasm.Access

/-!
# Code

The instructions of a function body. Code is a sequence of operators and of structured blocks,
each followed by the code after it; it ends with the end of its block.
-/

namespace FirstCall.Wasm

/-- A place in memory: an offset added to the address operand, the memory, and the logarithm of the
promised alignment. -/
structure MemArg where
  offset : Nat
  memory : Nat
  alignment : Nat
  deriving DecidableEq, Repr

/-- Where the bytes come from that are written into a memory: one byte over and over, a memory, or a
data segment. -/
inductive ByteSource where
  | fill
  | memory (index : Nat)
  | segment (index : Nat)
  deriving DecidableEq, Repr

/-- Where the references come from that are written into a table. -/
inductive RefSource where
  | fill
  | table (index : Nat)
  | segment (index : Nat)
  deriving DecidableEq, Repr

/-- The operators, each of which ends before the next begins. -/
inductive Op where
  | unreachable
  | nop
  | br (label : Nat)
  | brIf (label : Nat)
  | brTable (labels : List Nat) (otherwise : Nat)
  | ret
  | call (func : Nat)
  | callIndirect (type table : Nat)
  | tailCall (func : Nat)
  | tailCallIndirect (type table : Nat)
  | drop
  | select
  | selectTyped (type : ValType)
  | localGet (index : Nat)
  | localSet (index : Nat)
  | localTee (index : Nat)
  | globalGet (index : Nat)
  | globalSet (index : Nat)
  | tableGet (table : Nat)
  | tableSet (table : Nat)
  | tableSize (table : Nat)
  | tableGrow (table : Nat)
  | tableWrite (table : Nat) (source : RefSource)
  | elemDrop (segment : Nat)
  | access (access : Access) (arg : MemArg)
  | memorySize (memory : Nat)
  | memoryGrow (memory : Nat)
  | memoryWrite (memory : Nat) (source : ByteSource)
  | dataDrop (segment : Nat)
  | const32 (value : UInt32)
  | const64 (value : UInt64)
  | constF32 (bits : UInt32)
  | constF64 (bits : UInt64)
  | constV128 (bits : BitVec 128)
  | numeric (op : Numeric)
  | refNull (type : RefType)
  | refIsNull
  | refFunc (func : Nat)
  deriving DecidableEq, Repr

/-- What is left of a block, up to its end. -/
inductive Code where
  | done
  | op (op : Op) (rest : Code)
  | block (type : BlockType) (body rest : Code)
  | loop (type : BlockType) (body rest : Code)
  | ite (type : BlockType) (yes no rest : Code)
  deriving DecidableEq, Repr

def Code.ops : Code → List Op
  | .done => []
  | .op o rest => o :: rest.ops
  | .block _ body rest => body.ops ++ rest.ops
  | .loop _ body rest => body.ops ++ rest.ops
  | .ite _ yes no rest => yes.ops ++ no.ops ++ rest.ops

end FirstCall.Wasm
