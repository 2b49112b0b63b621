import FirstCall.Text.Quoted

/-!
# Functions

A function of a program is known by its number, which is also its slot in the shared table and
its position in the dispatch table.
-/

namespace FirstCall

/-- A function, by its number. -/
structure FuncId where
  number : UInt32
  deriving DecidableEq, Repr, Inhabited

namespace FuncId

def slot (i : FuncId) : Nat := i.number.toNat

def decimal (i : FuncId) : String := toString i.slot

def text (i : FuncId) : String := "#" ++ i.decimal

def inspect (i : FuncId) : String := Text.wrapped "FuncIndex" i.decimal

instance : Ord FuncId := ⟨fun i j => compare i.slot j.slot⟩

theorem slot_injective {i j : FuncId} (same : i.slot = j.slot) : i = j := by
  cases i; cases j
  simpa [slot, UInt32.toNat_inj] using same

end FuncId

end FirstCall
