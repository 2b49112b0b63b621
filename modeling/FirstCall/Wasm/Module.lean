import FirstCall.Bytes
import FirstCall.Wasm.Code

/-!
# Modules

A module as a blob describes it, before it is checked and instantiated.
-/

namespace FirstCall.Wasm

inductive ImportType where
  | func (type : Nat)
  | table (type : TableType)
  | memory (type : MemoryType)
  | global (type : GlobalType)
  deriving DecidableEq, Repr

structure Import where
  module : String
  name : String
  type : ImportType
  deriving DecidableEq, Repr

abbrev ConstExpr := List Op

/-- A function of a module: the index of its type, its locals and its code. -/
structure Func where
  type : Nat
  locals : List ValType
  body : Code
  deriving DecidableEq, Repr

/-- A global of a module, with the expression for its initial value. -/
structure Global where
  type : GlobalType
  start : ConstExpr
  deriving DecidableEq, Repr

/-- An item of one of the four index spaces that can be exported. -/
inductive ExternIndex where
  | func (index : Nat)
  | table (index : Nat)
  | memory (index : Nat)
  | global (index : Nat)
  deriving DecidableEq, Repr

structure Export where
  name : String
  item : ExternIndex
  deriving DecidableEq, Repr

/-- When an element segment is written: on instantiation, on demand, or never. -/
inductive ElemMode where
  | active (table : Nat) (offset : ConstExpr)
  | passive
  | declarative
  deriving DecidableEq, Repr

structure ElemSegment where
  type : RefType
  mode : ElemMode
  items : List ConstExpr
  deriving DecidableEq, Repr

/-- When a data segment is written: on instantiation or on demand. -/
inductive DataMode where
  | active (memory : Nat) (offset : ConstExpr)
  | passive
  deriving DecidableEq, Repr

structure DataSegment where
  mode : DataMode
  bytes : Bytes
  deriving DecidableEq, Repr

structure Module where
  types : Array FuncType
  imports : List Import
  funcs : List Func
  tables : List TableType
  memories : List MemoryType
  globals : List Global
  exports : List Export
  start : Option Nat
  elems : List ElemSegment
  datas : List DataSegment
  /-- The number of data segments, if it is announced before the code. -/
  dataCount : Option Nat
  deriving DecidableEq, Repr

namespace Module

def importedFuncs (m : Module) : List Nat :=
  m.imports.filterMap fun i => match i.type with | .func type => some type | _ => none

def importedTables (m : Module) : List TableType :=
  m.imports.filterMap fun i => match i.type with | .table type => some type | _ => none

def importedMemories (m : Module) : List MemoryType :=
  m.imports.filterMap fun i => match i.type with | .memory type => some type | _ => none

def importedGlobals (m : Module) : List GlobalType :=
  m.imports.filterMap fun i => match i.type with | .global type => some type | _ => none

def funcTypes (m : Module) : List Nat := m.importedFuncs ++ m.funcs.map Func.type

def tableTypes (m : Module) : List TableType := m.importedTables ++ m.tables

def memoryTypes (m : Module) : List MemoryType := m.importedMemories ++ m.memories

def globalTypes (m : Module) : List GlobalType := m.importedGlobals ++ m.globals.map Global.type

end Module

end FirstCall.Wasm
