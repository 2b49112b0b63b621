import FirstCall.Wasm.Memory
import FirstCall.Wasm.Module

/-!
# Stores

Everything that loaded modules share: functions, tables, memories, globals and segments, each at an
address that never changes. Instances refer to them by address, so two instances can share a
table. A host function is only a name here; what it does is up to the host.
-/

namespace FirstCall.Wasm

/-- A reference to a function, or none. References of other kinds are always empty. -/
inductive Ref where
  | null
  | func (addr : Nat)
  deriving DecidableEq, Repr

inductive Value where
  | i32 (value : UInt32)
  | i64 (value : UInt64)
  | f32 (bits : UInt32)
  | f64 (bits : UInt64)
  | v128 (bits : BitVec 128)
  | ref (value : Ref)
  deriving DecidableEq, Repr

namespace Value

def bits? : ValType → Value → Option Nat
  | .i32, .i32 value => some value.toNat
  | .i64, .i64 value => some value.toNat
  | .f32, .f32 bits => some bits.toNat
  | .f64, .f64 bits => some bits.toNat
  | .v128, .v128 bits => some bits.toNat
  | _, _ => none

/-- The number or vector with the given bits; a reference has none and is empty. -/
def ofBits (type : ValType) (bits : Nat) : Value :=
  match type with
  | .i32 => .i32 (UInt32.ofNat bits)
  | .i64 => .i64 (UInt64.ofNat bits)
  | .f32 => .f32 (UInt32.ofNat bits)
  | .f64 => .f64 (UInt64.ofNat bits)
  | .v128 => .v128 (BitVec.ofNat 128 bits)
  | .ref _ => .ref .null

/-- The bits of the topmost values, if they have the given types, and the values below. The topmost
value has the last type. -/
def take? : List ValType → List Value → Option (List Nat × List Value)
  | [], stack => some ([], stack)
  | type :: above, stack =>
    match take? above stack with
    | some (upper, value :: below) => (bits? type value).map fun bits => (bits :: upper, below)
    | _ => none

end Value

def ValType.zero (type : ValType) : Value := Value.ofBits type 0

inductive Extern where
  | func (addr : Nat)
  | table (addr : Nat)
  | memory (addr : Nat)
  | global (addr : Nat)
  deriving DecidableEq, Repr

namespace Extern

def func? : Extern → Option Nat
  | .func addr => some addr
  | _ => none

def table? : Extern → Option Nat
  | .table addr => some addr
  | _ => none

def memory? : Extern → Option Nat
  | .memory addr => some addr
  | _ => none

def global? : Extern → Option Nat
  | .global addr => some addr
  | _ => none

end Extern

/-- What the indices of a module stand for, once it is loaded. -/
structure Instance where
  types : Array FuncType
  funcs : Array Nat
  tables : Array Nat
  memories : Array Nat
  globals : Array Nat
  elems : Array Nat
  datas : Array Nat
  exports : List (String × Extern)
  deriving DecidableEq, Repr

namespace Instance

def export? (inst : Instance) (name : String) : Option Extern := inst.exports.lookup name

def exportedFunc? (inst : Instance) (name : String) : Option Nat :=
  (inst.export? name).bind Extern.func?

def exportedTable? (inst : Instance) (name : String) : Option Nat :=
  (inst.export? name).bind Extern.table?

def exportedMemory? (inst : Instance) (name : String) : Option Nat :=
  (inst.export? name).bind Extern.memory?

end Instance

/-- What runs when a function is called: code of an instance, or a function of the host. -/
inductive FuncBody (κ : Type) where
  | guest (inst : Instance) (func : Func)
  | host (name : κ)
  deriving DecidableEq

structure FuncInst (κ : Type) where
  type : FuncType
  body : FuncBody κ
  deriving DecidableEq

structure Table where
  elem : RefType
  /-- The number of entries beyond which the table must not grow. -/
  most : Option Nat
  entries : Array Ref
  deriving DecidableEq, Repr

namespace Table

def size (table : Table) : Nat := table.entries.size

def limit : Nat := 0xffffffff

/-- The table with more entries, all of them alike, if it may have them. -/
def grow? (table : Table) (more : Nat) (entry : Ref) : Option Table :=
  if table.size + more ≤ min limit (table.most.getD limit) then
    some { table with entries := table.entries ++ Array.replicate more entry }
  else none

def store (entries : Array Ref) (index : Nat) : List Ref → Array Ref
  | [] => entries
  | ref :: rest => store (entries.setIfInBounds index ref) (index + 1) rest

/-- The table after references were written from an index on, if the range lies inside it. -/
def write? (table : Table) (index : Nat) (refs : List Ref) : Option Table :=
  if index + refs.length ≤ table.size then
    some { table with entries := store table.entries index refs }
  else none

@[simp] theorem size_store (entries : Array Ref) (index : Nat) (refs : List Ref) :
    (store entries index refs).size = entries.size := by
  induction refs generalizing entries index with
  | nil => rfl
  | cons ref rest ih => simp [store, ih]

theorem getElem?_store (entries : Array Ref) (index : Nat) (refs : List Ref) (k : Nat)
    (inside : index + refs.length ≤ entries.size) :
    (store entries index refs)[k]? =
      if index ≤ k ∧ k < index + refs.length then refs[k - index]? else entries[k]? := by
  induction refs generalizing entries index with
  | nil =>
    rw [if_neg (by simp only [List.length_nil]; omega)]
    rfl
  | cons ref rest ih =>
    simp only [List.length_cons] at inside ⊢
    rw [store, ih _ _ (by simp only [Array.size_setIfInBounds]; omega)]
    by_cases later : index + 1 ≤ k ∧ k < index + 1 + rest.length
    · rw [if_pos later, if_pos (by omega), show k - index = k - (index + 1) + 1 by omega,
        List.getElem?_cons_succ]
    · rw [if_neg later, Array.getElem?_setIfInBounds]
      by_cases here : index = k
      · subst here
        rw [if_pos rfl, if_pos (by omega), if_pos (by omega), Nat.sub_self]
        rfl
      · rw [if_neg here, if_neg (by omega)]

end Table

structure GlobalInst where
  type : GlobalType
  value : Value
  deriving DecidableEq, Repr

/-- What code can still take from a segment of its module: references or bytes. -/
structure Segment where
  refs : List Ref
  bytes : Bytes
  deriving DecidableEq, Repr

/-- A segment that was dropped. -/
def Segment.empty : Segment := ⟨[], []⟩

/-- Everything that loaded modules share, each item at its address. -/
structure Store (κ : Type) where
  funcs : Array (FuncInst κ)
  tables : Array Table
  memories : Array Memory
  globals : Array GlobalInst
  segments : Array Segment

namespace Store

variable {κ : Type}

def empty : Store κ := ⟨#[], #[], #[], #[], #[]⟩

def ofHost (funcs : List (FuncType × κ)) : Store κ :=
  { (empty : Store κ) with funcs := (funcs.map fun (type, name) => ⟨type, .host name⟩).toArray }

def setTable (store : Store κ) (addr : Nat) (table : Table) : Store κ :=
  { store with tables := store.tables.setIfInBounds addr table }

def setMemory (store : Store κ) (addr : Nat) (memory : Memory) : Store κ :=
  { store with memories := store.memories.setIfInBounds addr memory }

def setGlobal (store : Store κ) (addr : Nat) (value : Value) : Store κ :=
  { store with globals := store.globals.modify addr fun g => { g with value } }

def dropSegment (store : Store κ) (addr : Nat) : Store κ :=
  { store with segments := store.segments.setIfInBounds addr .empty }

/-- Whether the sizes of an item lie within what an import asks for. -/
def within (size : Nat) (most : Option Nat) (wanted : Bounds) : Bool :=
  wanted.least ≤ size &&
    match wanted.most, most with
    | none, _ => true
    | some bound, some own => own ≤ bound
    | some _, none => false

/-- Whether an item can stand for an import. -/
def fits (store : Store κ) (types : Array FuncType) (wanted : ImportType) (item : Extern) : Bool :=
  match wanted, item with
  | .func index, .func addr =>
    match types[index]?, store.funcs[addr]? with
    | some type, some func => func.type == type
    | _, _ => false
  | .table type, .table addr =>
    match store.tables[addr]? with
    | some table => table.elem == type.elem && within table.size table.most type.bounds
    | none => false
  | .memory type, .memory addr =>
    match store.memories[addr]? with
    | some memory => memory.isShared == type.isShared && within memory.pages memory.most type.bounds
    | none => false
  | .global type, .global addr =>
    match store.globals[addr]? with
    | some global => global.type == type
    | none => false
  | _, _ => false

/-- Whether items can stand for the imports of a module, one for each. -/
def links (store : Store κ) (m : Module) (items : List Extern) : Bool :=
  items.length == m.imports.length &&
    (m.imports.zip items).all fun (wanted, item) => store.fits m.types wanted.type item

end Store

end FirstCall.Wasm
