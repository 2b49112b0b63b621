import FirstCall.Proofs.Life
import FirstCall.Proofs.Units

/-!
# A service that supplies every unit

Where the service answers every request and every dump succeeds, a call of the compile trigger can
only be refused for its index. Otherwise the function is there afterwards, and nothing was printed.
-/

namespace FirstCall

open Wasm

variable {σ : Type}

/-- The service supplies the unit of every function that it was not asked for before, and dumping
the unit succeeds. What happens otherwise outside the session does not change that. -/
structure Supply (service : Service σ) (compiler : Service.Compiler) (dump : Option DumpDir)
    (units : FuncId → Bytes) (count : Nat) (ready : List FuncId → Outside σ → Prop) : Prop where
  answers : ∀ {asked outside} (i : FuncId), ready asked outside → i.slot < count → i ∉ asked →
    ∃ after, Trigger.obtain service compiler dump i outside = (.ok (units i), after) ∧
      ready (i :: asked) after
  records : ∀ {asked outside} (event : Event), ready asked outside →
    ready asked { outside with world := outside.world.record event }
  prints : ∀ {asked outside} (value : Int32), ready asked outside →
    ready asked { outside with world := outside.world.print value }

namespace HostState

/-- Every slot is either a stub or installed, and the service has the units of the stubs. -/
structure Stocked (ready : List FuncId → Outside σ → Prop) (count : Nat)
    (state origin : HostState σ) : Prop where
  shared : state.shared = origin.shared
  println : state.println = some printlnAddr
  compiler : state.compiler = origin.compiler
  dump : state.dump = origin.dump
  size : state.ledger.table.size = count
  slots : ∀ i : FuncId, i.slot < count →
    state.ledger.table.slot? i = some .stub ∨ state.ledger.table.slot? i = some .installed
  supply : ∃ asked, ready asked state.outside ∧
    ∀ i, state.ledger.table.slot? i = some .stub → i ∉ asked

variable {service : Service σ} {units : FuncId → Bytes} {count : Nat}
  {ready : List FuncId → Outside σ → Prop} {origin state : HostState σ}
  (supply : Supply service origin.compiler origin.dump units count ready)

include supply

theorem Stocked.record (stocked : state.Stocked ready count origin) (event : Event) :
    (state.record event).Stocked ready count origin := by
  obtain ⟨asked, able, fresh⟩ := stocked.supply
  exact ⟨stocked.shared, stocked.println, stocked.compiler, stocked.dump, stocked.size, stocked.slots, asked,
    supply.records event able, fresh⟩

theorem Stocked.print (stocked : state.Stocked ready count origin) (value : Int32) :
    (state.print value).Stocked ready count origin := by
  obtain ⟨asked, able, fresh⟩ := stocked.supply
  exact ⟨stocked.shared, stocked.println, stocked.compiler, stocked.dump, stocked.size, stocked.slots, asked,
    supply.prints value able, fresh⟩

end HostState

namespace Trigger

variable {service : Service σ} {units : FuncId → Bytes} {count shared : Nat}
  {ready : List FuncId → Outside σ → Prop} {origin : HostState σ}
  (supply : Supply service origin.compiler origin.dump units count ready)
  (opened : origin.shared = some shared)
  {run : Invoker HostFunc (HostState σ) Session.Fault} {m : DispatchMachine σ} {raw : Int32}
  (stocked : m.host.Stocked ready count origin)

include supply opened stocked

theorem fire_refused {refusal : DispatchTable.Fault}
    (refused : m.host.ledger.table.locate raw = .error refusal) :
    ∃ host, fire service run raw m = (.error (.failed (.table refusal)), { m with host }) ∧
      host.Stocked ready count origin ∧ host.ledger = m.host.ledger ∧
      host.printed = m.host.printed := by
  rw [fire_of_admitted run (.outOfRange (stocked.shared.trans opened) refused), settle_eq]
  refine ⟨_, rfl, ?_, rfl, ?_⟩
  · exact HostState.Stocked.record supply (HostState.Stocked.record supply stocked _) _
  · exact (HostState.printed_record _ rfl).trans (HostState.printed_record _ rfl)

theorem fire_present {i : FuncId} (located : m.host.ledger.table.locate raw = .ok i)
    (installed : m.host.ledger.table.slot? i = some .installed) :
    ∃ host, fire service run raw m = (.ok (), { m with host }) ∧
      host.Stocked ready count origin ∧ host.ledger = m.host.ledger ∧
      host.printed = m.host.printed := by
  rw [fire_of_admitted run (.present (stocked.shared.trans opened) located installed), settle_eq]
  refine ⟨_, rfl, ?_, rfl, ?_⟩
  · exact HostState.Stocked.record supply (HostState.Stocked.record supply
      (HostState.Stocked.record supply stocked _) _) _
  · exact (HostState.printed_record _ rfl).trans
      ((HostState.printed_record _ rfl).trans (HostState.printed_record _ rfl))

theorem fire_stub {i : FuncId} {store : Store HostFunc}
    (located : m.host.ledger.table.locate raw = .ok i)
    (stub : m.host.ledger.table.slot? i = some .stub)
    (loads : ∀ host, host.println = some printlnAddr →
      FunctionUnit.load run i shared (units i) { m with host } =
        (.ok ⟨i, (units i).length⟩, ⟨store, host⟩)) :
    ∃ host, fire service run raw m = (.ok (), ⟨store, host⟩) ∧
      host.Stocked ready count origin ∧
      (∀ j, host.ledger.table.slot? j =
        if j = i then some .installed else m.host.ledger.table.slot? j) ∧
      host.printed = m.host.printed := by
  have open' : m.host.shared = some shared := stocked.shared.trans opened
  obtain ⟨ledger, reserved, slots, size⟩ := Ledger.reserve_of_stub stub
  have compiling : ledger.table.slot? i = some .compiling := by rw [slots i, if_pos rfl]
  obtain ⟨last, recorded, slotsLast, sizeLast⟩ :=
    Ledger.install_of_compiling ⟨i, (units i).length⟩ compiling
  obtain ⟨asked, able, fresh⟩ := stocked.supply
  have asking : ready asked (m.host.reserved raw i ledger).outside :=
    supply.records _ (supply.records _ able)
  obtain ⟨outside, obtained, later⟩ := supply.answers i asking
    (stocked.size ▸ DispatchTable.lt_size_of_slot? stub) (fresh i stub)
  rw [← stocked.compiler, ← stocked.dump] at obtained
  have after : ∀ j, last.table.slot? j =
      if j = i then some .installed else m.host.ledger.table.slot? j := by
    intro j
    rw [slotsLast j]
    split
    · rfl
    · next other => rw [slots j, if_neg other]
  let state : HostState σ := { m.host.reserved raw i ledger with outside }
  refine ⟨({ state.record (.notice (.installed i (units i).length)) with ledger := last }).record
    (.settled raw (.ok ())), ?_, ?_, after, ?_⟩
  · have same : state.ledger.install ⟨i, (units i).length⟩ = .ok last := recorded
    rw [fire_of_admitted run (.requested open' located reserved obtained), settle_eq, open']
    dsimp only [Except.map, proceed, Option.getD_some]
    rw [install_apply, loads state stocked.println]
    dsimp only
    rw [same]
    rfl
  · refine ⟨stocked.shared, stocked.println, stocked.compiler, stocked.dump, ?_, fun j inside => ?_, i :: asked,
      supply.records _ (supply.records _ later), fun j found => ?_⟩
    · exact (sizeLast.trans size).trans stocked.size
    · change last.table.slot? j = _ ∨ last.table.slot? j = _
      rw [after j]
      split
      · exact .inr rfl
      · exact stocked.slots j inside
    · change last.table.slot? j = _ at found
      rw [after j] at found
      split at found
      · cases found
      · next other =>
        intro listed
        exact (List.mem_cons.mp listed).elim other (fresh j found)
  · have announced : (state.record (.notice (.installed i (units i).length))).printed =
        m.host.printed := (HostState.printed_record _ rfl).trans (requested_printed obtained)
    exact (HostState.printed_record _ rfl).trans announced

end Trigger

end FirstCall
