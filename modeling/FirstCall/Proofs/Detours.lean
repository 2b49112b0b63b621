import FirstCall.Proofs.Alongside
import FirstCall.Proofs.Closed

/-!
# Detours

A call on the left can come to a stub where the call on the right comes to the function itself. The
stub calls the trigger, after which its function is loaded, and then the function. Both calls agree,
except that the left one takes the stack that the stub needs.
-/

namespace FirstCall

open Wasm

variable {σ : Type} {p : Plan σ} {ready : List FuncId → Outside σ → Prop} {links : Links}
  {m m' : DispatchMachine σ}

theorem DispatchTable.locate_number {table : DispatchTable} {i : FuncId}
    (inside : i.slot < table.size) (small : i.slot < FuncId.reach) :
    table.locate i.number.toInt32 = .ok i := by
  have bits : i.number.toInt32.toInt =
      if 2 * i.number.toNat < 2 ^ 32 then (i.number.toNat : Int)
      else i.number.toNat - 2 ^ 32 := BitVec.toInt_eq_toNat_cond i.number.toBitVec
  apply locate_eq_ok_iff.mpr
  unfold FuncId.slot at inside small ⊢
  unfold FuncId.reach at small
  rw [bits, if_pos (by omega)]
  exact ⟨rfl, inside⟩

namespace Alongside

theorem hosts (rel : Alongside p ready links m m') {host host' : HostState σ}
    (left : host.Stocked ready p.count p.origin.host)
    (right : host'.Stocked ready p.count p.origin.host)
    (slots : ∀ i, host.ledger.table.slot? i = m.host.ledger.table.slot? i)
    (present : ∀ i, host'.ledger.table.slot? i = m'.host.ledger.table.slot? i)
    (printed : host.printed = host'.printed) :
    Alongside p ready links { m with host } { m' with host := host' } where
  separate := rel.separate
  stores := rel.stores
  codes := rel.codes
  table := rel.table
  base := rel.base
  funcs := rel.funcs
  serves := rel.serves
  left := left
  right := right
  present covered := (present _).trans (rel.present covered)
  printed := printed
  bodies := rel.bodies
  waiting covered stub := rel.waiting covered ((slots _).symm.trans stub)
  settled covered installed := rel.settled covered ((slots _).symm.trans installed)

theorem covers_of_located (rel : Alongside p ready links m m') {raw : Int32} {i : FuncId}
    (located : m.host.ledger.table.locate raw = .ok i) : p.Covers i := by
  obtain ⟨same, inside⟩ := DispatchTable.locate_eq_ok_iff.mp located
  have bound := raw.toInt_lt
  refine ⟨rel.left.size ▸ inside, ?_⟩
  unfold FuncId.reach
  omega

theorem locate_eq (rel : Alongside p ready links m m') (raw : Int32) :
    m.host.ledger.table.locate raw = m'.host.ledger.table.locate raw := by
  unfold DispatchTable.locate
  rw [rel.left.size, rel.right.size]

theorem located (rel : Alongside p ready links m m') {i : FuncId} (covered : p.Covers i) :
    m.host.ledger.table.locate i.number.toInt32 = .ok i :=
  DispatchTable.locate_number (rel.left.size ▸ covered.1) covered.2

end Alongside

section Calls

variable {service : Service σ} {side : Side} (sound : p.Sound)
  (opened : p.origin.host.shared = some p.shared)
  (supply : Supply service p.origin.host.compiler p.origin.host.dump p.blob p.count ready)

include sound opened supply

/-- A call of the trigger on the left makes sure that the function is there. -/
theorem Alongside.fire_left (rel : Alongside p ready links m m') {i : FuncId}
    (covered : p.Covers i) {raw : Int32} (located : m.host.ledger.table.locate raw = .ok i)
    (run : Invoker HostFunc (HostState σ) Session.Fault) :
    ∃ more after, links ≤ more ∧ Trigger.fire service run raw m = (.ok (), after) ∧
      Alongside p ready more after m' ∧
      after.host.ledger.table.slot? i = some .installed := by
  rcases rel.left.slots i covered.1 with stub | installed
  · obtain ⟨store, more, le, loads, later⟩ := rel.load sound covered stub
    obtain ⟨host, fired, stocked, slots, printed⟩ :=
      Trigger.fire_stub supply opened rel.left located stub (loads run)
    refine ⟨more, _, le, fired, ?_, ?_⟩
    · exact later stocked rel.right slots rfl (printed.trans rel.printed)
    · exact (slots i).trans (if_pos rfl)
  · obtain ⟨host, fired, stocked, ledger, printed⟩ :=
      Trigger.fire_present supply opened rel.left located installed
    refine ⟨links, _, links.le_refl, fired, ?_, ?_⟩
    · exact rel.hosts stocked rel.right (fun i => by rw [ledger]) (fun _ => rfl)
        (printed.trans rel.printed)
    · exact (congrArg (·.table.slot? i) ledger).trans installed

theorem fire_agrees (run other : Invoker HostFunc (HostState σ) Session.Fault) (raw : Int32) :
    Agree (Alongside p ready) side links (fun _ _ _ => True) (Trigger.fire service run raw)
      (Trigger.fire service other raw) := by
  intro m m' rel
  cases located : m.host.ledger.table.locate raw with
  | error refusal =>
    obtain ⟨host, fired, stocked, ledger, printed⟩ :=
      Trigger.fire_refused supply opened rel.left located
    obtain ⟨host', fired', stocked', ledger', printed'⟩ :=
      Trigger.fire_refused supply opened rel.right (rel.locate_eq raw ▸ located)
    rw [fired, fired']
    have shown : host.printed = host'.printed := printed.trans (rel.printed.trans printed'.symm)
    exact Agrees.stop (rel.hosts stocked stocked' (fun i => by rw [ledger])
      (fun i => by rw [ledger']) shown) _
  | ok i =>
    have covered := rel.covers_of_located located
    obtain ⟨host', fired', stocked', ledger', printed'⟩ :=
      Trigger.fire_present supply opened rel.right
        (rel.locate_eq raw ▸ located) (rel.present covered)
    obtain ⟨more, after, le, fired, rel, _⟩ := rel.fire_left sound opened supply covered located run
    rw [fired, fired']
    right
    refine ⟨more, le, ?_, .ok trivial⟩
    exact rel.hosts rel.left stocked' (fun _ => rfl) (fun i => by rw [ledger'])
      (rel.printed.trans printed'.symm)

theorem dispatchHost_agrees : HostsAgree (Alongside p ready) side (dispatchHost service) := by
  intro callee other _ links m m' a b type name args others rel _ _ same
  refine hosts_agree (fun raw => fire_agrees sound opened supply callee other raw) ?_ same m m' rel
  intro _ m m' value rel
  have shown : (m.host.print value).printed = (m'.host.print value).printed := by
    rw [HostState.printed_print, HostState.printed_print, rel.printed]
  exact rel.hosts (HostState.Stocked.print supply rel.left _)
    (HostState.Stocked.print supply rel.right _) (fun _ => rfl) (fun _ => rfl) shown

section Detour

variable {limits others : Limits} {extra : Nat} (suits : side.Suits limits others)
  (lopsided : side ≠ .neither) (narrow : side = .right → p.Narrow limits extra)

include suits lopsided narrow

/-- A stub agrees with the function for which it stands. -/
theorem detours_agree {fuel room other otherRoom : Nat}
    (enough : side.Enough extra (fuel + 1) room (other + 1) otherRoom)
    (calls : ∀ {d r e q}, d ≤ fuel → side.Enough extra d r e q →
      CallsAgree (Alongside p ready) side (invoke (dispatchHost service) limits d r)
        (invoke (dispatchHost service) others e q))
    (rel : Alongside p ready links m m') {a b : Nat} (detour : p.Detour a b)
    {f : FuncInst HostFunc} (atA : m.store.funcs[a]? = some f) {args twins : List Value}
    (count : args.length = f.type.params.length) (same : Values links args twins) :
    Agrees (Alongside p ready) side links Values
      (invoke (dispatchHost service) limits (fuel + 1) room a args m)
      (invoke (dispatchHost service) others (other + 1) otherRoom b twins m') := by
  obtain ⟨i, covered, rfl, rfl⟩ := detour
  have able := sound.installable covered
  have trigger : m.store.funcs[triggerAddr]? = some ⟨HostFunc.type, .host .compileTrigger⟩ :=
    (rel.funcs _ (Array.getElem?_eq_some_iff.mp sound.hosts.1).1).trans sound.hosts.1
  have stub : m.store.funcs[p.stub i]? = some (p.func i) :=
    (rel.funcs _ (Array.getElem?_eq_some_iff.mp able.found).1).trans able.found
  obtain rfl := Option.some.inj (stub.symm.trans atA)
  obtain ⟨inst, body, _, _, _, isGuest, _⟩ := able.isStub.code
  have few : side = .right → limits.frame body ≤ extra :=
    fun isRight => narrow isRight covered isGuest
  obtain ⟨more, after, le, fired, rel', installed⟩ := rel.fire_left sound opened supply covered
    (rel.located covered) (invoke (dispatchHost service) limits (fuel - 1)
      (room - limits.frame body - limits.hostFrame))
  obtain ⟨x, c, new, twin, code, atX, slot, left, right, insts, safe⟩ :=
    (rel'.settled covered installed).twin
  obtain ⟨rfl, full⟩ | ⟨rfl, rfl⟩ | fits := enough.room_left lopsided few
  · rw [invoke_exhausted atA isGuest full]
    exact .inl (.inl rfl)
  · rw [invoke_exhausted right rfl (Nat.not_le.mpr (others.frame_pos code))]
    exact .inl (.inl rfl)
  cases fuel with
  | zero =>
    have stopped : invoke (dispatchHost service) limits 0 (room - limits.frame body) triggerAddr
        [.i32 i.number] m = (.error .unfinished, m) := rfl
    rw [stub_stops able.isStub stub isGuest fits trigger stopped]
    cases side with
    | left => exact .inl (.inr rfl)
    | right =>
      have steps := enough.1
      omega
    | neither => exact absurd rfl lopsided
  | succ fuel =>
    have triggered : invoke (dispatchHost service) limits (fuel + 1) (room - limits.frame body)
        triggerAddr [.i32 i.number] m = (.ok [.i32 0], after) := by
      rw [invoke_host trigger rfl]
      exact Action.bind_of_ok fired
    rw [stub_goes_on able.isStub stub isGuest fits trigger count triggered atX slot left rfl
      (length_of_invoke left)]
    -- The trigger ran on the left only, and the function there has what the stub left of the stack.
    exact (guests_agree Alongside.outlasting suits (enough.second lopsided few)
      (calls (Nat.le_succ fuel)) rel' left right insts safe (Values.mono le same)).weaken le

/-- Calls of linked functions agree, whatever the calls nest in. -/
theorem calls_agree {fuel room other otherRoom : Nat}
    (enough : side.Enough extra fuel room other otherRoom) :
    CallsAgree (Alongside p ready) side (invoke (dispatchHost service) limits fuel room)
      (invoke (dispatchHost service) others other otherRoom) :=
  invoke_agrees Alongside.outlasting suits p.Detour (fun rel place => rel.codes place)
    (dispatchHost_agrees sound opened supply)
    (fun enough calls _ _ _ _ _ _ _ _ rel detour atA count same =>
      detours_agree sound opened supply suits lopsided narrow enough calls rel detour atA count
        same) enough

end Detour

end Calls

end FirstCall
