import FirstCall.Wasm.Module
import FirstCall.Wasm.Opcodes
import FirstCall.Wasm.Reader

/-!
# Decoding

The binary format of modules, version 1. A module is a header followed by sections in a fixed
order; sections that only name things are skipped. Code is read to the end of its block, where
the length of the bytes left bounds the nesting.
-/

namespace FirstCall.Wasm

namespace Decode

open Reader

/-- How many function parameters, and how many results, a type may have. -/
def mostParams : Nat := 1000

/-- How many locals a function may have, its parameters among them. -/
def mostLocals : Nat := 50000

def heapType : Reader RefType := do
  let code ← byte
  if code = 0x70 then pure .func
  else if code = 0x6f then pure .external
  else fail (.unknownType code.toNat)

/-- A reference type. Its code is an integer that may be padded; another code in front of a heap
type says that the reference may be empty, which all references here may be. -/
def refType : Reader RefType := do
  let code ← u32
  if code = 0x70 then pure .func
  else if code = 0x6f then pure .external
  else if code = 0x63 then heapType
  else fail (.unknownType code)

/-- A value type. Its first byte decides, so that no code is padded. -/
def valType : Reader ValType := do
  let code ← peek
  match code.toNat with
  | 0x7f => (fun _ => .i32) <$> byte
  | 0x7e => (fun _ => .i64) <$> byte
  | 0x7d => (fun _ => .f32) <$> byte
  | 0x7c => (fun _ => .f64) <$> byte
  | 0x7b => (fun _ => .v128) <$> byte
  | 0x70 => .ref <$> refType
  | 0x6f => .ref <$> refType
  | 0x63 => .ref <$> refType
  | other => fail (.unknownType other)

def types (most : Nat) : Reader (List ValType) := do
  let count ← u32
  if most < count then fail (.tooMany count) else times valType count

def signature : Reader FuncType := do
  let params ← types mostParams
  let results ← types mostParams
  pure ⟨params, results⟩

/-- A function type. It may be marked as final, below no other type. -/
def funcType : Reader FuncType := do
  let form ← byte
  if form = 0x60 then signature
  else if form = 0x4f then
    let above ← u32
    let inner ← byte
    if above = 0 ∧ inner = 0x60 then signature else fail (.unknownType form.toNat)
  else fail (.unknownType form.toNat)

def bounds (hasMost : Bool) : Reader Bounds := do
  let least ← u32
  if hasMost then
    let most ← u32
    pure ⟨least, some most⟩
  else pure ⟨least, none⟩

/-- The bounds of a table. A flag tells whether it has a largest size. -/
def tableBounds : Reader Bounds := do
  let flags ← byte
  if flags.toNat < 2 then bounds (flags.toNat.testBit 0) else fail (.badFlags flags.toNat)

/-- A memory type. A flag tells whether it has a largest size, another whether it is shared. -/
def memoryType : Reader MemoryType := do
  let flags ← byte
  if flags.toNat < 4 then
    let size ← bounds (flags.toNat.testBit 0)
    pure ⟨size, flags.toNat.testBit 1⟩
  else fail (.badFlags flags.toNat)

def tableType : Reader TableType := do
  let elem ← refType
  let size ← tableBounds
  pure ⟨elem, size⟩

def globalType : Reader GlobalType := do
  let type ← valType
  let mutability ← byte
  if mutability = 0 then pure ⟨type, false⟩
  else if mutability = 1 then pure ⟨type, true⟩
  else fail (.badFlags mutability.toNat)

/-- A block type: nothing, a value type, or the index of a function type. The first byte decides. -/
def blockType : Reader BlockType := do
  let head ← peek
  if head = 0x40 then
    let _ ← byte
    pure .empty
  else if 0x40 < head ∧ head < 0x80 then .value <$> valType
  else
    let index ← s33
    if 0 ≤ index then pure (.index index.toNat) else fail (.unknownType head.toNat)

/-- The place of a memory access; a flag tells that a memory is named. -/
def memArg : Reader MemArg := do
  let flags ← u32
  if flags < 64 then
    let offset ← u32
    pure ⟨offset, 0, flags⟩
  else if flags < 128 then
    let memory ← u32
    let offset ← u32
    pure ⟨offset, memory, flags - 64⟩
  else fail (.badFlags flags)

/-- The operators without an immediate operand, by their codes. -/
def plain? (code : Nat) : Option Op :=
  match code with
  | 0x00 => some .unreachable
  | 0x01 => some .nop
  | 0x0f => some .ret
  | 0x1a => some .drop
  | 0x1b => some .select
  | 0xd1 => some .refIsNull
  | _ => (Opcodes.lookup? Opcodes.numeric code).map .numeric

/-- An operator of those behind a byte of their own, for tables, memories and segments. -/
def bulk (code : Nat) : Reader Op :=
  match code with
  | 8 => do
    let segment ← u32
    (.memoryWrite · (.segment segment)) <$> u32
  | 9 => .dataDrop <$> u32
  | 10 => do
    let place ← u32
    (fun source => .memoryWrite place (.memory source)) <$> u32
  | 11 => (.memoryWrite · .fill) <$> u32
  | 12 => do
    let segment ← u32
    (.tableWrite · (.segment segment)) <$> u32
  | 13 => .elemDrop <$> u32
  | 14 => do
    let place ← u32
    (fun source => .tableWrite place (.table source)) <$> u32
  | 15 => .tableGrow <$> u32
  | 16 => .tableSize <$> u32
  | 17 => (.tableWrite · .fill) <$> u32
  | _ =>
    match Opcodes.saturating[code]? with
    | some found => pure (.numeric found)
    | none => fail (.unknownOpcode 0xfc)

/-- An operator of those behind a byte of their own, for vectors. -/
def vector (code : Nat) : Reader Op :=
  match code with
  | 12 => (fun bits => .constV128 (BitVec.ofNat 128 bits.toNat)) <$> take 16
  | 13 => (fun lanes => .numeric (.vector (.shuffle (lanes.map UInt8.toNat)))) <$> take 16
  | _ =>
    match Opcodes.lookup? Opcodes.vectorAccess code, Opcodes.lookup? Opcodes.laneAccess code,
      Opcodes.lookup? Opcodes.lane code, Opcodes.lookup? Opcodes.vector code with
    | some access, _, _, _ => .access access <$> memArg
    | _, some access, _, _ => do
      let arg ← memArg
      (fun lane => .access (access lane.toNat) arg) <$> byte
    | _, _, some found, _ => (fun lane => .numeric (.vector (found lane.toNat))) <$> byte
    | _, _, _, some found => pure (.numeric (.vector found))
    | _, _, _, _ => fail (.unknownOpcode 0xfd)

/-- An operator of those behind a byte of their own, for threads. A fence does nothing to the one
thread that there is. -/
def atomic (code : Nat) : Reader Op := do
  if code = 3 then
    let order ← byte
    if order = 0 then pure .nop else fail (.badFlags order.toNat)
  else
    match Opcodes.lookup? Opcodes.atomic code with
    | some access => .access access <$> memArg
    | none => fail (.unknownOpcode 0xfe)

def op (code : UInt8) : Reader Op :=
  match plain? code.toNat, Opcodes.lookup? Opcodes.access code.toNat with
  | some found, _ => pure found
  | _, some access => .access access <$> memArg
  | _, _ =>
    match code.toNat with
    | 0x0c => .br <$> u32
    | 0x0d => .brIf <$> u32
    | 0x0e => .brTable <$> list u32 <*> u32
    | 0x10 => .call <$> u32
    | 0x11 => .callIndirect <$> u32 <*> u32
    | 0x12 => .tailCall <$> u32
    | 0x13 => .tailCallIndirect <$> u32 <*> u32
    | 0x20 => .localGet <$> u32
    | 0x21 => .localSet <$> u32
    | 0x22 => .localTee <$> u32
    | 0x23 => .globalGet <$> u32
    | 0x24 => .globalSet <$> u32
    | 0x25 => .tableGet <$> u32
    | 0x26 => .tableSet <$> u32
    | 0x3f => .memorySize <$> u32
    | 0x40 => .memoryGrow <$> u32
    | 0x41 => (fun value => .const32 (UInt32.ofInt value)) <$> s32
    | 0x42 => (fun value => .const64 (UInt64.ofInt value)) <$> s64
    | 0x43 => (fun bits => .constF32 (UInt32.ofNat bits.toNat)) <$> take 4
    | 0x44 => (fun bits => .constF64 (UInt64.ofNat bits.toNat)) <$> take 8
    | 0xd0 => .refNull <$> heapType
    | 0xd2 => .refFunc <$> u32
    | 0x1c => do
      let count ← u32
      if count = 1 then .selectTyped <$> valType else fail (.tooMany count)
    | 0xfc => do bulk (← u32)
    | 0xfd => do vector (← u32)
    | 0xfe => do atomic (← u32)
    | _ => fail (.unknownOpcode code)

/-- How a stretch of code ends: with its block, or with the first branch of a conditional. -/
inductive Ending where
  | close
  | otherwise
  deriving DecidableEq, Repr

/-- Code up to the end of its block; the first argument bounds the number of steps. -/
def code : Nat → Reader (Code × Ending)
  | 0 => fail .missingEnd
  | steps + 1 => do
    let head ← byte
    if head = 0x0b then pure (.done, .close)
    else if head = 0x05 then pure (.done, .otherwise)
    else if head = 0x02 ∨ head = 0x03 then
      let type ← blockType
      let (body, ending) ← code steps
      if ending = .otherwise then fail (.unknownOpcode 0x05)
      else
        let (rest, last) ← code steps
        pure (if head = 0x02 then .block type body rest else .loop type body rest, last)
    else if head = 0x04 then
      let type ← blockType
      let (yes, ending) ← code steps
      if ending = .close then
        let (rest, last) ← code steps
        pure (.ite type yes .done rest, last)
      else
        let (no, closing) ← code steps
        if closing = .otherwise then fail (.unknownOpcode 0x05)
        else
          let (rest, last) ← code steps
          pure (.ite type yes no rest, last)
    else
      let first ← op head
      let (rest, last) ← code steps
      pure (.op first rest, last)

def operators : Nat → Reader ConstExpr
  | 0 => fail .missingEnd
  | steps + 1 => do
    let head ← byte
    if head = 0x0b then pure []
    else
      let first ← op head
      let rest ← operators steps
      pure (first :: rest)

def constExpr : Reader ConstExpr := do
  operators ((← get).length + 1)

def importType : Reader ImportType := do
  let kind ← byte
  if kind = 0 then .func <$> u32
  else if kind = 1 then .table <$> tableType
  else if kind = 2 then .memory <$> memoryType
  else if kind = 3 then .global <$> globalType
  else fail (.unknownKind kind)

def importEntry : Reader Import := do
  let module ← name
  let item ← name
  let type ← importType
  pure ⟨module, item, type⟩

def exportEntry : Reader Export := do
  let label ← name
  let kind ← byte
  let index ← u32
  if kind = 0 then pure ⟨label, .func index⟩
  else if kind = 1 then pure ⟨label, .table index⟩
  else if kind = 2 then pure ⟨label, .memory index⟩
  else if kind = 3 then pure ⟨label, .global index⟩
  else fail (.unknownKind kind)

def global : Reader Global := do
  let type ← globalType
  let start ← constExpr
  pure ⟨type, start⟩

/-- A byte that says that a segment holds functions. -/
def elemKind : Reader RefType := do
  let kind ← byte
  if kind = 0 then pure .func else fail (.unknownKind kind)

/-- The items of a segment, either function indices or expressions. -/
def elemItems (asExprs : Bool) : Reader (List ConstExpr) :=
  if asExprs then list constExpr else list ((fun index => [.refFunc index]) <$> u32)

/-- An element segment. Three flags tell whether it is active, whether the table or, failing that,
the purpose is explicit, and whether its items are expressions. -/
def elemSegment : Reader ElemSegment := do
  let flags ← u32
  if 7 < flags then fail (.badFlags flags)
  else
    let asExprs := flags.testBit 2
    let explicit := flags.testBit 1
    let itemType := if asExprs then refType else elemKind
    if flags.testBit 0 then
      let type ← itemType
      let items ← elemItems asExprs
      pure ⟨type, if explicit then .declarative else .passive, items⟩
    else
      let table ← if explicit then u32 else pure 0
      let offset ← constExpr
      let type ← if explicit then itemType else pure .func
      let items ← elemItems asExprs
      pure ⟨type, .active table offset, items⟩

/-- A data segment: active, passive, or active with its memory named. -/
def dataSegment : Reader DataSegment := do
  let flags ← u32
  if flags = 1 then
    let bytes ← take (← u32)
    pure ⟨.passive, bytes⟩
  else if flags = 0 ∨ flags = 2 then
    let memory ← if flags = 2 then u32 else pure 0
    let offset ← constExpr
    let bytes ← take (← u32)
    pure ⟨.active memory offset, bytes⟩
  else fail (.badFlags flags)

/-- Locals of one type, of which there are already some. -/
def localGroups : Nat → Nat → Reader (List ValType)
  | 0, _ => pure []
  | groups + 1, before => do
    let count ← u32
    if mostLocals < before + count then fail (.tooMany (before + count))
    else
      let type ← valType
      let rest ← localGroups groups (before + count)
      pure (List.replicate count type ++ rest)

def body : Reader (List ValType × Code) := do
  let locals ← localGroups (← u32) 0
  let (code, ending) ← code ((← get).length + 1)
  if ending = .close then pure (locals, code) else fail (.unknownOpcode 0x05)

/-- The place of a section in the order of sections, by its number. -/
def sectionRank? (id : UInt8) : Option Nat :=
  match id.toNat with
  | 12 => some 10
  | 10 => some 11
  | 11 => some 12
  | n => if 1 ≤ n ∧ n ≤ 9 then some n else none

/-- Sections in their order, as numbers and contents; those that only name things are dropped. -/
def sections : Nat → (rank : Nat) → Reader (List (UInt8 × Bytes))
  | 0, _ => pure []
  | steps + 1, rank => do
    if (← get).isEmpty then pure []
    else
      let id ← byte
      let contents ← take (← u32)
      if id = 0 then
        match name contents with
        | .ok _ => sections steps rank
        | .error defect => fail defect
      else
        match sectionRank? id with
        | none => fail (.unknownSection id)
        | some next =>
          if next ≤ rank then fail (.sectionOutOfOrder id)
          else
            let rest ← sections steps next
            pure ((id, contents) :: rest)

/-- The contents of the section with the given number, or what stands for its absence. -/
def section? {α : Type} (found : List (UInt8 × Bytes)) (id : UInt8) (reader : Reader α)
    (absent : α) : Except Defect α :=
  match found.lookup id with
  | some contents => all reader contents
  | none => pure absent

def header : Bytes := [0x00, 0x61, 0x73, 0x6d, 0x01, 0x00, 0x00, 0x00]

end Decode

/-- The module that a blob describes. -/
def Module.decode (blob : Bytes) : Except Defect Module := do
  let some (start, contents) := Reader.split? 8 blob | throw .unexpectedEnd
  if start ≠ Decode.header then throw .badHeader
  let (found, _) ← Decode.sections (contents.length + 1) 0 contents
  let types ← Decode.section? found 1 (Reader.list Decode.funcType) []
  let imports ← Decode.section? found 2 (Reader.list Decode.importEntry) []
  let funcs ← Decode.section? found 3 (Reader.list Reader.u32) []
  let tables ← Decode.section? found 4 (Reader.list Decode.tableType) []
  let memories ← Decode.section? found 5 (Reader.list Decode.memoryType) []
  let globals ← Decode.section? found 6 (Reader.list Decode.global) []
  let exports ← Decode.section? found 7 (Reader.list Decode.exportEntry) []
  let start ← Decode.section? found 8 (some <$> Reader.u32) none
  let elems ← Decode.section? found 9 (Reader.list Decode.elemSegment) []
  let dataCount ← Decode.section? found 12 (some <$> Reader.u32) none
  let bodies ← Decode.section? found 10 (Reader.list (Reader.sized Decode.body)) []
  let datas ← Decode.section? found 11 (Reader.list Decode.dataSegment) []
  if funcs.length ≠ bodies.length then throw .countMismatch
  if dataCount.any (· != datas.length) then throw .countMismatch
  return {
    types := types.toArray, imports, tables, memories, globals, exports, start, elems, datas,
    dataCount
    funcs := List.zipWith (fun type (locals, body) => ⟨type, locals, body⟩) funcs bodies }

end FirstCall.Wasm
