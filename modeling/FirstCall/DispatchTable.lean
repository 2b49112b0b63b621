import FirstCall.FuncId

/-!
# The dispatch table

What the dispatcher knows about every slot of the shared table. A slot moves forward through
three states and never back, so each function is compiled at most once; the table also records
the order in which the functions were installed.
-/

namespace FirstCall

/-- The life of a slot. -/
inductive Slot where
  | stub
  | compiling
  | installed
  deriving DecidableEq, Repr, Inhabited

def Slot.inspect : Slot → String
  | .stub => "Uncompiled"
  | .compiling => "Compiling"
  | .installed => "Installed"

structure DispatchTable where
  slots : Array Slot
  /-- The installed functions, in the order in which they were installed. -/
  order : Array FuncId
  deriving DecidableEq, Repr

namespace DispatchTable

inductive Fault where
  | outOfRange (raw : Int) (count : Nat)
  | reentered (i : FuncId)
  | repeated (i : FuncId)
  | unreserved (i : FuncId)
  /-- A slot past the end was addressed without a check. -/
  | noSlot (i : FuncId)
  deriving DecidableEq, Repr

def Fault.message : Fault → String
  | .outOfRange raw count =>
    "Compile trigger received index " ++ toString raw ++ ", but the program has " ++
      toString count ++ " functions"
  | .reentered i =>
    "Function " ++ i.text ++ " re-entered the compile trigger while it was being compiled"
  | .repeated i => "Function " ++ i.text ++ " was already compiled"
  | .unreserved i => "Function " ++ i.text ++ " was installed without being compiled"
  | .noSlot i => "Function " ++ i.text ++ " has no slot"

/-- The table of a program with the given number of functions, none of them compiled. -/
def ofSize (count : Nat) : DispatchTable := ⟨Array.replicate count .stub, #[]⟩

def empty : DispatchTable := ofSize 0

def size (table : DispatchTable) : Nat := table.slots.size

def isEmpty (table : DispatchTable) : Bool := table.slots.isEmpty

def slot? (table : DispatchTable) (i : FuncId) : Option Slot := table.slots[i.slot]?

def countInstalled (table : DispatchTable) : Nat := table.order.size

/-- The function of which a raw index names the slot; an index outside the table is refused. -/
def locate (table : DispatchTable) (raw : Int32) : Except Fault FuncId :=
  if raw.toInt < 0 ∨ (table.size : Int) ≤ raw.toInt then
    .error (.outOfRange raw.toInt table.size)
  else .ok ⟨raw.toUInt32⟩

def reserve (table : DispatchTable) (i : FuncId) : Except Fault DispatchTable :=
  match table.slot? i with
  | some .stub => .ok { table with slots := table.slots.setIfInBounds i.slot .compiling }
  | some .compiling => .error (.reentered i)
  | some .installed => .error (.repeated i)
  | none => .error (.noSlot i)

/-- Marks a slot that was being compiled as installed, and records it. -/
def install (table : DispatchTable) (i : FuncId) : Except Fault DispatchTable :=
  match table.slot? i with
  | some .compiling =>
    .ok ⟨table.slots.setIfInBounds i.slot .installed, table.order.push i⟩
  | some .installed => .error (.repeated i)
  | some .stub => .error (.unreserved i)
  | none => .error (.noSlot i)

def inspect (table : DispatchTable) : String :=
  Text.record "CallTable"
    [("slots", Text.bracketed (table.slots.toList.map Slot.inspect)),
     ("compile_order", Text.bracketed (table.order.toList.map FuncId.inspect))]

@[simp] theorem size_ofSize (count : Nat) : (ofSize count).size = count := by
  simp [ofSize, size]

theorem slot?_ofSize (count : Nat) (i : FuncId) :
    (ofSize count).slot? i = if i.slot < count then some .stub else none := by
  simp [ofSize, slot?, Array.getElem?_replicate]

theorem reserve_eq_ok_iff {table next : DispatchTable} {i : FuncId} :
    table.reserve i = .ok next ↔
      table.slot? i = some .stub ∧
        next = { table with slots := table.slots.setIfInBounds i.slot .compiling } := by
  unfold reserve
  cases table.slot? i with
  | none => simp
  | some state =>
    cases state with
    | stub => simp [eq_comm]
    | compiling => simp
    | installed => simp

theorem install_eq_ok_iff {table next : DispatchTable} {i : FuncId} :
    table.install i = .ok next ↔
      table.slot? i = some .compiling ∧
        next = ⟨table.slots.setIfInBounds i.slot .installed, table.order.push i⟩ := by
  unfold install
  cases table.slot? i with
  | none => simp
  | some state =>
    cases state with
    | stub => simp
    | compiling => simp [eq_comm]
    | installed => simp

theorem lt_size_of_slot? {table : DispatchTable} {i : FuncId} {state : Slot}
    (found : table.slot? i = some state) : i.slot < table.size := by
  obtain ⟨inside, _⟩ := Array.getElem?_eq_some_iff.mp found
  exact inside

theorem slot?_set (table : DispatchTable) (i j : FuncId) (state : Slot) (order : Array FuncId)
    (inside : i.slot < table.size) :
    slot? ⟨table.slots.setIfInBounds i.slot state, order⟩ j =
      if j = i then some state else table.slot? j := by
  by_cases same : j = i
  · subst same
    rw [if_pos rfl, slot?, Array.getElem?_setIfInBounds_self_of_lt inside]
  · have apart : i.slot ≠ j.slot := fun equal => same (FuncId.slot_injective equal.symm)
    rw [if_neg same, slot?, Array.getElem?_setIfInBounds_ne apart]
    rfl

theorem slot?_of_reserve {table next : DispatchTable} {i : FuncId}
    (reserved : table.reserve i = .ok next) (j : FuncId) :
    next.slot? j = if j = i then some .compiling else table.slot? j := by
  obtain ⟨stub, rfl⟩ := reserve_eq_ok_iff.mp reserved
  exact slot?_set table i j .compiling table.order (lt_size_of_slot? stub)

theorem slot?_of_install {table next : DispatchTable} {i : FuncId}
    (installed : table.install i = .ok next) (j : FuncId) :
    next.slot? j = if j = i then some .installed else table.slot? j := by
  obtain ⟨compiling, rfl⟩ := install_eq_ok_iff.mp installed
  exact slot?_set table i j .installed _ (lt_size_of_slot? compiling)

theorem size_of_reserve {table next : DispatchTable} {i : FuncId}
    (reserved : table.reserve i = .ok next) : next.size = table.size := by
  obtain ⟨_, rfl⟩ := reserve_eq_ok_iff.mp reserved
  simp [size]

theorem size_of_install {table next : DispatchTable} {i : FuncId}
    (installed : table.install i = .ok next) : next.size = table.size := by
  obtain ⟨_, rfl⟩ := install_eq_ok_iff.mp installed
  simp [size]

theorem locate_eq_ok_iff {table : DispatchTable} {raw : Int32} {i : FuncId} :
    table.locate raw = .ok i ↔ (i.slot : Int) = raw.toInt ∧ i.slot < table.size := by
  have back : 0 ≤ raw.toInt → (raw.toUInt32.toNat : Int) = raw.toInt := by
    intro positive
    have bits : raw.toInt =
        if 2 * raw.toUInt32.toNat < 2 ^ 32 then (raw.toUInt32.toNat : Int)
        else raw.toUInt32.toNat - 2 ^ 32 := BitVec.toInt_eq_toNat_cond raw.toBitVec
    have bound := raw.toUInt32.toNat_lt
    split at bits
    · exact bits.symm
    · omega
  unfold locate
  split
  · next outside =>
    simp only [reduceCtorEq, false_iff]
    omega
  · next inside =>
    rw [Except.ok.injEq]
    have value := back (by omega)
    constructor
    · rintro rfl
      exact ⟨value, by simp only [FuncId.slot]; omega⟩
    · rintro ⟨same, _⟩
      apply FuncId.slot_injective
      simp only [FuncId.slot] at same ⊢
      omega

end DispatchTable

end FirstCall
