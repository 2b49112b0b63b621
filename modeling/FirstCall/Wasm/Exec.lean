import FirstCall.Wasm.Action

/-!
# Execution

Code runs on a frame, which holds the locals and the operand stack of one call. A sequence of
operators ends by reaching its end, by a branch outwards, by a return, or by a call in place of a
return. Every call takes some bytes of the stack of the machine for as long as it runs; a call for
which none are left traps. As code need not end, only so many steps of it are looked at: `fuel`
bounds the rounds of each loop and the length of a chain of calls. All functions here are total by
recursion on the code and on this bound.
-/

namespace FirstCall.Wasm

/-- The stack of the machine, what calls take of it, and how far code is followed. -/
structure Limits where
  /-- The bytes of stack that calls can take. -/
  stack : Nat
  /-- The bytes that a call of the function takes, at least those of the return address. -/
  frame : Func → Nat
  frame_pos : ∀ func, 0 < frame func
  /-- The bytes that a function of the host takes before it calls back. -/
  hostFrame : Nat
  /-- The number of steps after which code counts as unfinished. -/
  fuel : Nat

/-- The state of one call. -/
structure Frame where
  locals : List Value
  stack : List Value
  deriving DecidableEq, Repr

namespace Frame

def withStack (frame : Frame) (stack : List Value) : Frame := { frame with stack }

/-- The frame after a block: the topmost operands are left on top of those below the block. -/
def leave (frame : Frame) (results : Nat) (below : List Value) : Frame :=
  { frame with stack := frame.stack.take results ++ below }

end Frame

/-- How a stretch of code ended. -/
inductive Flow where
  | next
  | branch (label : Nat)
  | ret
  /-- With a call in place of a return. -/
  | tail (addr : Nat)
  deriving DecidableEq, Repr

/-- What the end of a block means for the code around it: nothing, if the code goes on behind the
block, or an ending of that code too. -/
def Flow.outward : Flow → Option Flow
  | .next => none
  | .branch 0 => none
  | .branch (label + 1) => some (.branch label)
  | .ret => some .ret
  | .tail addr => some (.tail addr)

namespace Instance

variable {κ : Type}

def table? (inst : Instance) (store : Store κ) (index : Nat) : Option (Nat × Table) := do
  let addr ← inst.tables[index]?
  let table ← store.tables[addr]?
  pure (addr, table)

def memory? (inst : Instance) (store : Store κ) (index : Nat) : Option (Nat × Memory) := do
  let addr ← inst.memories[index]?
  let memory ← store.memories[addr]?
  pure (addr, memory)

def global? (inst : Instance) (store : Store κ) (index : Nat) : Option (Nat × GlobalInst) := do
  let addr ← inst.globals[index]?
  let global ← store.globals[addr]?
  pure (addr, global)

end Instance

/-- A stretch of a list, if it lies inside. -/
def slice? {α : Type} (items : List α) (start count : Nat) : Option (List α) :=
  if start + count ≤ items.length then some ((items.drop start).take count) else none

/-- The bytes that are to be written where there is so much room, from an operand that tells which
they are. -/
def ByteSource.bytes? {κ : Type} (source : ByteSource) (inst : Instance) (store : Store κ)
    (room count : Nat) (start : UInt32) : Option Bytes :=
  match source with
  | .fill => if count ≤ room then some (List.replicate count start.toUInt8) else none
  | .memory index => do (← inst.memory? store index).2.read? start.toNat count
  | .segment index => do
    let segment ← store.segments[← inst.datas[index]?]?
    slice? segment.bytes start.toNat count

/-- The references that are to be written where there is so much room, from an operand that tells
which they are. -/
def RefSource.refs? {κ : Type} (source : RefSource) (inst : Instance) (store : Store κ)
    (room count : Nat) (start : Value) : Option (List Ref) :=
  match source, start with
  | .fill, .ref entry => if count ≤ room then some (List.replicate count entry) else none
  | .table index, .i32 start => do
    slice? (← inst.table? store index).2.entries.toList start.toNat count
  | .segment index, .i32 start => do
    let segment ← store.segments[← inst.elems[index]?]?
    slice? segment.refs start.toNat count
  | _, _ => none

/-- An access to a memory: the number that it answers, and the memory afterwards. -/
def Access.run {ε : Type} (access : Access) (memory : Memory) (place : Nat) (operands : List Nat) :
    Except (Stop ε) (Option Nat × Memory) :=
  if access.isAtomic ∧ place % access.bytes ≠ 0 then .error (.snag .misaligned)
  else
    match memory.read? place access.bytes with
    | none => .error (.trap .memoryOutOfBounds)
    | some old => do
      let moved ← access.effect memory.isShared (Bytes.toNat old) operands
      match moved.stored with
      | none => pure (moved.answer, memory)
      | some new =>
        match memory.write? place (Bytes.ofNat access.bytes new) with
        | some changed => pure (moved.answer, changed)
        | none => .error (.trap .memoryOutOfBounds)

def Access.value? (access : Access) (answer : Option Nat) : Option Value := do
  let type ← access.result?
  let bits ← answer
  pure (Value.ofBits type bits)

/-- What growing leaves: the old size, or minus one if it was refused. -/
def grown (old : Option Nat) : Value :=
  .i32 (match old with | some size => UInt32.ofNat size | none => 0xffffffff)

/-- An operator that neither branches nor calls: its effect on the frame and the store. -/
def perform {κ ε : Type} (inst : Instance) (store : Store κ) (frame : Frame) (o : Op) :
    Except (Stop ε) (Frame × Store κ) :=
  match o with
  | .unreachable => .error (.trap .unreachable)
  | .nop => .ok (frame, store)
  | .drop =>
    match frame.stack with
    | _ :: below => .ok (frame.withStack below, store)
    | _ => .error .stuck
  | .select =>
    match frame.stack with
    | .i32 choice :: no :: yes :: below =>
      .ok (frame.withStack ((if choice ≠ 0 then yes else no) :: below), store)
    | _ => .error .stuck
  | .selectTyped _ =>
    match frame.stack with
    | .i32 choice :: no :: yes :: below =>
      .ok (frame.withStack ((if choice ≠ 0 then yes else no) :: below), store)
    | _ => .error .stuck
  | .localGet index =>
    match frame.locals[index]? with
    | some value => .ok (frame.withStack (value :: frame.stack), store)
    | none => .error .stuck
  | .localSet index =>
    match frame.stack with
    | value :: below => .ok (⟨frame.locals.set index value, below⟩, store)
    | _ => .error .stuck
  | .localTee index =>
    match frame.stack with
    | value :: below => .ok (⟨frame.locals.set index value, value :: below⟩, store)
    | _ => .error .stuck
  | .globalGet index =>
    match inst.global? store index with
    | some (_, global) => .ok (frame.withStack (global.value :: frame.stack), store)
    | none => .error .stuck
  | .globalSet index =>
    match frame.stack, inst.global? store index with
    | value :: below, some (addr, _) => .ok (frame.withStack below, store.setGlobal addr value)
    | _, _ => .error .stuck
  | .tableGet index =>
    match frame.stack, inst.table? store index with
    | .i32 k :: below, some (_, table) =>
      match table.entries[k.toNat]? with
      | some entry => .ok (frame.withStack (.ref entry :: below), store)
      | none => .error (.trap .tableOutOfBounds)
    | _, _ => .error .stuck
  | .tableSet index =>
    match frame.stack, inst.table? store index with
    | .ref entry :: .i32 k :: below, some (addr, table) =>
      match table.write? k.toNat [entry] with
      | some changed => .ok (frame.withStack below, store.setTable addr changed)
      | none => .error (.trap .tableOutOfBounds)
    | _, _ => .error .stuck
  | .tableSize index =>
    match inst.table? store index with
    | some (_, table) =>
      .ok (frame.withStack (.i32 (UInt32.ofNat table.size) :: frame.stack), store)
    | none => .error .stuck
  | .tableGrow index =>
    match frame.stack, inst.table? store index with
    | .i32 more :: .ref entry :: below, some (addr, table) =>
      match table.grow? more.toNat entry with
      | some changed =>
        .ok (frame.withStack (grown (some table.size) :: below), store.setTable addr changed)
      | none => .ok (frame.withStack (grown none :: below), store)
    | _, _ => .error .stuck
  | .tableWrite index source =>
    match frame.stack, inst.table? store index with
    | .i32 count :: start :: .i32 place :: below, some (addr, table) =>
      match source.refs? inst store (table.size - place.toNat) count.toNat start with
      | some refs =>
        match table.write? place.toNat refs with
        | some changed => .ok (frame.withStack below, store.setTable addr changed)
        | none => .error (.trap .tableOutOfBounds)
      | none => .error (.trap .tableOutOfBounds)
    | _, _ => .error .stuck
  | .elemDrop index =>
    match inst.elems[index]? with
    | some addr => .ok (frame, store.dropSegment addr)
    | none => .error .stuck
  | .access access arg =>
    match Value.take? access.operands frame.stack, inst.memory? store arg.memory with
    | some (operands, .i32 base :: below), some (addr, memory) =>
      match access.run memory (base.toNat + arg.offset) operands with
      | .ok (answer, changed) =>
        .ok (frame.withStack ((access.value? answer).toList ++ below),
          store.setMemory addr changed)
      | .error why => .error why
    | _, _ => .error .stuck
  | .memorySize index =>
    match inst.memory? store index with
    | some (_, memory) =>
      .ok (frame.withStack (.i32 (UInt32.ofNat memory.pages) :: frame.stack), store)
    | none => .error .stuck
  | .memoryGrow index =>
    match frame.stack, inst.memory? store index with
    | .i32 more :: below, some (addr, memory) =>
      match memory.grow? more.toNat with
      | some changed =>
        .ok (frame.withStack (grown (some memory.pages) :: below), store.setMemory addr changed)
      | none => .ok (frame.withStack (grown none :: below), store)
    | _, _ => .error .stuck
  | .memoryWrite index source =>
    match frame.stack, inst.memory? store index with
    | .i32 count :: .i32 start :: .i32 place :: below, some (addr, memory) =>
      match source.bytes? inst store (memory.size - place.toNat) count.toNat start with
      | some bytes =>
        match memory.write? place.toNat bytes with
        | some changed => .ok (frame.withStack below, store.setMemory addr changed)
        | none => .error (.trap .memoryOutOfBounds)
      | none => .error (.trap .memoryOutOfBounds)
    | _, _ => .error .stuck
  | .dataDrop index =>
    match inst.datas[index]? with
    | some addr => .ok (frame, store.dropSegment addr)
    | none => .error .stuck
  | .const32 value => .ok (frame.withStack (.i32 value :: frame.stack), store)
  | .const64 value => .ok (frame.withStack (.i64 value :: frame.stack), store)
  | .constF32 bits => .ok (frame.withStack (.f32 bits :: frame.stack), store)
  | .constF64 bits => .ok (frame.withStack (.f64 bits :: frame.stack), store)
  | .constV128 bits => .ok (frame.withStack (.v128 bits :: frame.stack), store)
  | .numeric op =>
    match Value.take? op.params frame.stack with
    | some (operands, below) =>
      match op.compute operands with
      | .ok bits => .ok (frame.withStack (Value.ofBits op.result bits :: below), store)
      | .error why => .error why
    | none => .error .stuck
  | .refNull _ => .ok (frame.withStack (.ref .null :: frame.stack), store)
  | .refIsNull =>
    match frame.stack with
    | .ref r :: below => .ok (frame.withStack (.i32 (if r = .null then 1 else 0) :: below), store)
    | _ => .error .stuck
  | .refFunc index =>
    match inst.funcs[index]? with
    | some addr => .ok (frame.withStack (.ref (.func addr) :: frame.stack), store)
    | none => .error .stuck
  | _ => .error .stuck

/-- The function that an indirect call reaches. -/
def target {κ ε : Type} (inst : Instance) (store : Store κ) (type table index : Nat) :
    Except (Stop ε) Nat :=
  match inst.table? store table, inst.types[type]? with
  | some (_, entries), some wanted =>
    match entries.entries[index]? with
    | none => .error (.trap .tableOutOfBounds)
    | some .null => .error (.trap .nullCall)
    | some (.func addr) =>
      match store.funcs[addr]? with
      | some func => if func.type = wanted then .ok addr else .error (.trap .signatureMismatch)
      | none => .error .stuck
  | _, _ => .error .stuck

section Run

variable {κ η ε : Type}

/-- Calls a function with operands from the frame and leaves its results there. -/
def callFrom (callee : Invoker κ η ε) (addr : Nat) (frame : Frame) :
    Action κ η ε (Flow × Frame) := do
  let some func := (← Action.store).funcs[addr]? | Action.stop .stuck
  let count := func.type.params.length
  if count ≤ frame.stack.length then
    let results ← callee addr (frame.stack.take count).reverse
    pure (.next, frame.withStack (results.reverse ++ frame.stack.drop count))
  else Action.stop .stuck

def lastCall (callee : Invoker κ η ε) : Flow × Frame → Action κ η ε (Flow × Frame)
  | (.tail addr, frame) => callFrom callee addr frame
  | ended => pure ended

/-- Runs one operator. -/
def step (callee : Invoker κ η ε) (inst : Instance) (frame : Frame) (o : Op) :
    Action κ η ε (Flow × Frame) :=
  match o, frame.stack with
  | .br label, _ => pure (.branch label, frame)
  | .brIf label, .i32 choice :: below =>
    pure (if choice ≠ 0 then .branch label else .next, frame.withStack below)
  | .brTable labels otherwise, .i32 choice :: below =>
    pure (.branch (labels.getD choice.toNat otherwise), frame.withStack below)
  | .ret, _ => pure (.ret, frame)
  | .call index, _ =>
    match inst.funcs[index]? with
    | some addr => callFrom callee addr frame
    | none => Action.stop .stuck
  | .tailCall index, _ =>
    match inst.funcs[index]? with
    | some addr => pure (.tail addr, frame)
    | none => Action.stop .stuck
  | .callIndirect type table, .i32 index :: below => do
    let addr ← Action.ofExcept (target inst (← Action.store) type table index.toNat)
    callFrom callee addr (frame.withStack below)
  | .tailCallIndirect type table, .i32 index :: below => do
    let addr ← Action.ofExcept (target inst (← Action.store) type table index.toNat)
    pure (.tail addr, frame.withStack below)
  | o, _ => do
    let (frame, store) ← Action.ofExcept (perform inst (← Action.store) frame o)
    Action.setStore store
    pure (.next, frame)

/-- Runs the body of a loop until it ends otherwise than by a branch to its start. -/
def rounds (body : Frame → Action κ η ε (Flow × Frame)) (restart : Frame → Frame) :
    Nat → Frame → Action κ η ε (Flow × Frame)
  | 0, _ => Action.stop .unfinished
  | left + 1, frame => do
    let (flow, frame) ← body frame
    match flow with
    | .branch 0 => rounds body restart left (restart frame)
    | flow => pure (flow, frame)

/-- Runs code to its end. -/
def exec (callee : Invoker κ η ε) (fuel : Nat) (inst : Instance) :
    Code → Frame → Action κ η ε (Flow × Frame)
  | .done, frame => pure (.next, frame)
  | .op first rest, frame => do
    let (flow, frame) ← step callee inst frame first
    match flow with
    | .next => exec callee fuel inst rest frame
    | flow => pure (flow, frame)
  | .block type body rest, frame => do
    let some sig := type.signature? inst.types | Action.stop .stuck
    let below := frame.stack.drop sig.params.length
    let (flow, inner) ← exec callee fuel inst body frame
    match flow.outward with
    | none => exec callee fuel inst rest (inner.leave sig.results.length below)
    | some flow => pure (flow, inner)
  | .loop type body rest, frame => do
    let some sig := type.signature? inst.types | Action.stop .stuck
    let below := frame.stack.drop sig.params.length
    let (flow, inner) ← rounds (exec callee fuel inst body)
      (fun inner => inner.leave sig.params.length below) fuel frame
    match flow.outward with
    | none => exec callee fuel inst rest (inner.leave sig.results.length below)
    | some flow => pure (flow, inner)
  | .ite type yes no rest, frame => do
    let some sig := type.signature? inst.types | Action.stop .stuck
    let .i32 choice :: stack := frame.stack | Action.stop .stuck
    let below := stack.drop sig.params.length
    let frame := frame.withStack stack
    let (flow, inner) ←
      (if choice ≠ 0 then exec callee fuel inst yes frame
       else exec callee fuel inst no frame)
    match flow.outward with
    | none => exec callee fuel inst rest (inner.leave sig.results.length below)
    | some flow => pure (flow, inner)

/-- Runs the body of a function, with calls made through `callee`, or through `tail` if they are made
in place of a return. The answer is on top of the operands that are left. -/
def enter (callee tail : Invoker κ η ε) (fuel : Nat) (type : FuncType) (inst : Instance)
    (func : Func) (args : List Value) : Action κ η ε (List Value) := do
  let ended ← exec callee fuel inst func.body ⟨args ++ func.locals.map ValType.zero, []⟩
  let (_, frame) ← lastCall tail ended
  pure (frame.stack.take type.results.length).reverse

def invoke (host : Host κ η ε) (limits : Limits) : (fuel room : Nat) → Invoker κ η ε
  | 0, _, _, _ => Action.stop .unfinished
  | fuel + 1, room, addr, args => do
    let some func := (← Action.store).funcs[addr]? | Action.stop .stuck
    match func.body with
    | .host name => host (invoke host limits fuel (room - limits.hostFrame)) name args
    | .guest inst body =>
      if limits.frame body ≤ room then
        enter (invoke host limits fuel (room - limits.frame body)) (invoke host limits fuel room)
          limits.fuel func.type inst body args
      else Action.trap .callStackExhausted

end Run

end FirstCall.Wasm
