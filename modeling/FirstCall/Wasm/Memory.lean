import Std.Data.TreeMap
import FirstCall.Bytes
import FirstCall.Wasm.Types

/-!
# Linear memory

A memory is a number of pages and the bytes in them. A byte that was never written is zero, so
only the written ones are kept. An access either lies inside the memory as a whole or does
nothing.
-/

namespace FirstCall.Wasm

def pageSize : Nat := 65536

/-- A number of pages and the bytes that were written to them. -/
structure Memory where
  pages : Nat
  /-- The number of pages beyond which the memory must not grow. -/
  most : Option Nat
  isShared : Bool
  written : Std.TreeMap Nat UInt8

namespace Memory

def fresh (type : MemoryType) : Memory :=
  ⟨type.bounds.least, type.bounds.most, type.isShared, ∅⟩

def size (memory : Memory) : Nat := memory.pages * pageSize

def byte (memory : Memory) (addr : Nat) : UInt8 := memory.written.getD addr 0

/-- The bytes from an address on, if the range lies inside the memory. -/
def read? (memory : Memory) (addr len : Nat) : Option Bytes :=
  if addr + len ≤ memory.size then some ((List.range' addr len).map memory.byte) else none

def store (cells : Std.TreeMap Nat UInt8) (addr : Nat) : Bytes → Std.TreeMap Nat UInt8
  | [] => cells
  | b :: rest => store (cells.insert addr b) (addr + 1) rest

/-- The memory after bytes were written from an address on, if the range lies inside it. -/
def write? (memory : Memory) (addr : Nat) (bytes : Bytes) : Option Memory :=
  if addr + bytes.length ≤ memory.size then
    some { memory with written := store memory.written addr bytes }
  else none

def limit : Nat := 65536

def grow? (memory : Memory) (more : Nat) : Option Memory :=
  if memory.pages + more ≤ min limit (memory.most.getD limit) then
    some { memory with pages := memory.pages + more }
  else none

theorem getD_store (cells : Std.TreeMap Nat UInt8) (addr : Nat) (bytes : Bytes) (place : Nat) :
    (store cells addr bytes).getD place 0 =
      if addr ≤ place then (bytes[place - addr]?).getD (cells.getD place 0)
      else cells.getD place 0 := by
  induction bytes generalizing cells addr with
  | nil => simp [store]
  | cons b rest ih =>
    simp only [store, ih, Std.TreeMap.getD_insert, Nat.compare_eq_eq]
    by_cases before : place < addr
    · rw [if_neg (by omega), if_neg (by omega), if_neg (by omega)]
    · by_cases here : addr = place
      · subst here
        rw [if_neg (by omega), if_pos rfl, if_pos (Nat.le_refl addr), Nat.sub_self]
        rfl
      · rw [if_pos (by omega), if_neg here, if_pos (by omega)]
        obtain ⟨k, rfl⟩ : ∃ k, place = addr + 1 + k := ⟨place - (addr + 1), by omega⟩
        rw [show addr + 1 + k - (addr + 1) = k by omega, show addr + 1 + k - addr = k + 1 by omega,
          List.getElem?_cons_succ]

theorem size_of_write? {memory next : Memory} {addr : Nat} {bytes : Bytes}
    (done : memory.write? addr bytes = some next) : next.size = memory.size := by
  unfold write? at done
  split at done <;> simp at done
  subst done
  rfl

/-- A write puts its bytes in place and leaves every other byte alone. -/
theorem byte_of_write? {memory next : Memory} {addr : Nat} {bytes : Bytes}
    (done : memory.write? addr bytes = some next) (place : Nat) :
    next.byte place =
      if addr ≤ place then (bytes[place - addr]?).getD (memory.byte place)
      else memory.byte place := by
  unfold write? at done
  split at done <;> simp at done
  subst done
  exact getD_store memory.written addr bytes place

end Memory

end FirstCall.Wasm
