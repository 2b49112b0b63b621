import FirstCall.DispatchTable

/-!
# The ledger

What the dispatcher keeps of a program: the state of every slot, and the units that were loaded, in
the order in which they were installed. A unit enters the ledger in the step that marks its slot as
installed, so the two never disagree.
-/

namespace FirstCall

/-- A function that was compiled and loaded. -/
structure LoadedUnit where
  func : FuncId
  size : Nat
  deriving DecidableEq, Repr

/-- The slots of a program and its loaded units. -/
structure Ledger where
  table : DispatchTable
  units : Array LoadedUnit
  deriving DecidableEq, Repr

namespace Ledger

/-- The ledger of a program with the given number of functions, none of them compiled. -/
def ofSize (count : Nat) : Ledger := ⟨DispatchTable.ofSize count, #[]⟩

def empty : Ledger := ofSize 0

def reserve (ledger : Ledger) (i : FuncId) : Except DispatchTable.Fault Ledger :=
  (ledger.table.reserve i).map fun table => { ledger with table }

/-- Marks the slot of a loaded unit as installed, and keeps the unit. -/
def install (ledger : Ledger) (unit : LoadedUnit) : Except DispatchTable.Fault Ledger :=
  (ledger.table.install unit.func).map fun table => ⟨table, ledger.units.push unit⟩

theorem reserve_eq_ok_iff {ledger next : Ledger} {i : FuncId} :
    ledger.reserve i = .ok next ↔
      ledger.table.reserve i = .ok next.table ∧ next.units = ledger.units := by
  cases next with
  | mk table units =>
    unfold reserve
    cases ledger.table.reserve i with
    | error fault => simp [Except.map]
    | ok changed => simp [Except.map, eq_comm]

theorem install_eq_ok_iff {ledger next : Ledger} {unit : LoadedUnit} :
    ledger.install unit = .ok next ↔
      ledger.table.install unit.func = .ok next.table ∧
        next.units = ledger.units.push unit := by
  cases next with
  | mk table units =>
    unfold install
    cases ledger.table.install unit.func with
    | error fault => simp [Except.map]
    | ok changed => simp [Except.map, eq_comm]

theorem reserve_of_stub {ledger : Ledger} {i : FuncId}
    (stub : ledger.table.slot? i = some .stub) :
    ∃ next, ledger.reserve i = .ok next ∧
      (∀ j, next.table.slot? j = if j = i then some .compiling else ledger.table.slot? j) ∧
      next.table.size = ledger.table.size := by
  have reserved : ledger.table.reserve i = .ok
      { ledger.table with slots := ledger.table.slots.setIfInBounds i.slot .compiling } :=
    DispatchTable.reserve_eq_ok_iff.mpr ⟨stub, rfl⟩
  exact ⟨⟨_, ledger.units⟩, reserve_eq_ok_iff.mpr ⟨reserved, rfl⟩,
    DispatchTable.slot?_of_reserve reserved, DispatchTable.size_of_reserve reserved⟩

theorem install_of_compiling {ledger : Ledger} (unit : LoadedUnit)
    (compiling : ledger.table.slot? unit.func = some .compiling) :
    ∃ next, ledger.install unit = .ok next ∧
      (∀ j, next.table.slot? j =
        if j = unit.func then some .installed else ledger.table.slot? j) ∧
      next.table.size = ledger.table.size := by
  have installed : ledger.table.install unit.func = .ok
      ⟨ledger.table.slots.setIfInBounds unit.func.slot .installed,
        ledger.table.order.push unit.func⟩ :=
    DispatchTable.install_eq_ok_iff.mpr ⟨compiling, rfl⟩
  exact ⟨⟨_, ledger.units.push unit⟩, install_eq_ok_iff.mpr ⟨installed, rfl⟩,
    DispatchTable.slot?_of_install installed, DispatchTable.size_of_install installed⟩

end Ledger

end FirstCall
