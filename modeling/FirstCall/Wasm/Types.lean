/-!
# Types

The types of the values, functions, tables, memories and globals of a module.
-/

namespace FirstCall.Wasm

/-- The types of references: to functions, and to things of the host. -/
inductive RefType where
  | func
  | external
  deriving DecidableEq, Repr

inductive ValType where
  | i32
  | i64
  | f32
  | f64
  | v128
  | ref (type : RefType)
  deriving DecidableEq, Repr

def ValType.isNumeric : ValType → Bool
  | .ref _ => false
  | _ => true

def ValType.bits : ValType → Nat
  | .i32 | .f32 => 32
  | .i64 | .f64 => 64
  | .v128 => 128
  | .ref _ => 0

structure FuncType where
  params : List ValType
  results : List ValType
  deriving DecidableEq, Repr

/-- A smallest size and, possibly, a largest one. -/
structure Bounds where
  least : Nat
  most : Option Nat
  deriving DecidableEq, Repr

structure TableType where
  elem : RefType
  bounds : Bounds
  deriving DecidableEq, Repr

/-- The type of a memory. A memory that can be shared between threads needs a largest size. -/
structure MemoryType where
  bounds : Bounds
  isShared : Bool
  deriving DecidableEq, Repr

structure GlobalType where
  type : ValType
  isMutable : Bool
  deriving DecidableEq, Repr

/-- The type of a block: no operands and at most one result, or that of a function. -/
inductive BlockType where
  | empty
  | value (type : ValType)
  | index (type : Nat)
  deriving DecidableEq, Repr

/-- The operands and results of a block, given the function types of its module. -/
def BlockType.signature? (types : Array FuncType) : BlockType → Option FuncType
  | .empty => some ⟨[], []⟩
  | .value type => some ⟨[], [type]⟩
  | .index i => types[i]?

end FirstCall.Wasm
