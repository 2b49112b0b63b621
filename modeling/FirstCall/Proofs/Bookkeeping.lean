import FirstCall.Proofs.Requests
import FirstCall.Proofs.Stores

/-!
# Bookkeeping

The ledger of a session is written in small steps with code of the program running between them.
At each moment at which it can be looked at, between two runs or in a call of the trigger, its
parts agree with each other and with what the service handed out, and from each such moment to a
later one it only moves forward.
-/

namespace FirstCall

open Wasm

variable {σ : Type}

/-- How far a slot has come. -/
def Slot.stage : Slot → Nat
  | .stub => 0
  | .compiling => 1
  | .installed => 2

namespace Ledger

/-- A later ledger: no slot went back, and what was installed stays where it is listed. -/
structure Advances (first last : Ledger) : Prop where
  slots : ∀ i slot, first.table.slot? i = some slot →
    ∃ next, last.table.slot? i = some next ∧ slot.stage ≤ next.stage
  order : first.table.order.toList <+: last.table.order.toList

namespace Advances

theorem refl (ledger : Ledger) : ledger.Advances ledger :=
  ⟨fun _ slot found => ⟨slot, found, Nat.le_refl _⟩, List.prefix_refl _⟩

theorem trans {first middle last : Ledger} (head : first.Advances middle)
    (tail : middle.Advances last) : first.Advances last := by
  refine ⟨fun i slot found => ?_, head.order.trans tail.order⟩
  obtain ⟨next, foundNext, up⟩ := head.slots i slot found
  obtain ⟨final, foundFinal, higher⟩ := tail.slots i next foundNext
  exact ⟨final, foundFinal, Nat.le_trans up higher⟩

theorem of_reserve {ledger next : Ledger} {i : FuncId} (reserved : ledger.reserve i = .ok next) :
    ledger.Advances next := by
  obtain ⟨marked, _⟩ := Ledger.reserve_eq_ok_iff.mp reserved
  obtain ⟨stub, table⟩ := DispatchTable.reserve_eq_ok_iff.mp marked
  refine ⟨fun j slot found => ?_, ?_⟩
  · rw [DispatchTable.slot?_of_reserve marked j]
    by_cases same : j = i
    · subst same
      obtain rfl := Option.some.inj (found.symm.trans stub)
      exact ⟨.compiling, if_pos rfl, Nat.zero_le _⟩
    · exact ⟨slot, (if_neg same).trans found, Nat.le_refl _⟩
  · have same : next.table.order = ledger.table.order := congrArg (·.order) table
    exact same ▸ List.prefix_refl _

theorem of_install {ledger next : Ledger} {unit : LoadedUnit}
    (installed : ledger.install unit = .ok next) : ledger.Advances next := by
  obtain ⟨marked, _⟩ := Ledger.install_eq_ok_iff.mp installed
  obtain ⟨compiling, table⟩ := DispatchTable.install_eq_ok_iff.mp marked
  refine ⟨fun j slot found => ?_, ?_⟩
  · rw [DispatchTable.slot?_of_install marked j]
    by_cases same : j = unit.func
    · subst same
      obtain rfl := Option.some.inj (found.symm.trans compiling)
      exact ⟨.installed, if_pos rfl, by decide⟩
    · exact ⟨slot, (if_neg same).trans found, Nat.le_refl _⟩
  · rw [table, Array.toList_push]
    exact List.prefix_append _ _

end Advances

/-- The parts of a ledger agree with each other and with the blobs that were received. -/
structure Sound (compiler : Service.Compiler) (count : Nat) (received : List (Request × Bytes))
    (ledger : Ledger) : Prop where
  size : ledger.table.size = count
  distinct : ledger.table.order.toList.Nodup
  installed : ∀ i, i ∈ ledger.table.order.toList ↔ ledger.table.slot? i = some .installed
  units : ledger.units.toList.map LoadedUnit.func = ledger.table.order.toList
  blobs : ∀ unit ∈ ledger.units.toList, ∃ blob,
    (.unit compiler unit.func, blob) ∈ received ∧ unit.size = blob.length

namespace Sound

variable {compiler : Service.Compiler} {count : Nat} {received : List (Request × Bytes)}
  {ledger next : Ledger}

theorem ofSize (compiler : Service.Compiler) (count : Nat) (received : List (Request × Bytes)) :
    (Ledger.ofSize count).Sound compiler count received where
  size := DispatchTable.size_ofSize count
  distinct := List.nodup_nil
  installed i := by
    change i ∈ [] ↔ (DispatchTable.ofSize count).slot? i = some .installed
    rw [DispatchTable.slot?_ofSize]
    split <;> simp
  units := rfl
  blobs := by simp [Ledger.ofSize]

theorem mono {more : List (Request × Bytes)} (sound : ledger.Sound compiler count received)
    (grown : received ⊆ more) : ledger.Sound compiler count more where
  size := sound.size
  distinct := sound.distinct
  installed := sound.installed
  units := sound.units
  blobs unit member := by
    obtain ⟨blob, arrived, size⟩ := sound.blobs unit member
    exact ⟨blob, grown arrived, size⟩

theorem reserve {i : FuncId} (sound : ledger.Sound compiler count received)
    (reserved : ledger.reserve i = .ok next) : next.Sound compiler count received := by
  obtain ⟨marked, sameUnits⟩ := Ledger.reserve_eq_ok_iff.mp reserved
  obtain ⟨stub, table⟩ := DispatchTable.reserve_eq_ok_iff.mp marked
  have sameOrder : next.table.order = ledger.table.order := by
    rw [table]
  constructor
  case size => exact (DispatchTable.size_of_reserve marked).trans sound.size
  case distinct =>
    rw [sameOrder]
    exact sound.distinct
  case installed =>
    intro j
    rw [sameOrder, sound.installed j, DispatchTable.slot?_of_reserve marked j]
    by_cases same : j = i
    · subst same
      simp [stub]
    · rw [if_neg same]
  case units =>
    rw [sameUnits, sameOrder]
    exact sound.units
  case blobs =>
    rw [sameUnits]
    exact sound.blobs

theorem install {i : FuncId} {blob : Bytes} (sound : ledger.Sound compiler count received)
    (arrived : (.unit compiler i, blob) ∈ received)
    (recorded : ledger.install ⟨i, blob.length⟩ = .ok next) :
    next.Sound compiler count received := by
  obtain ⟨marked, moreUnits⟩ := Ledger.install_eq_ok_iff.mp recorded
  obtain ⟨compiling, table⟩ := DispatchTable.install_eq_ok_iff.mp marked
  have moreOrder : next.table.order.toList = ledger.table.order.toList ++ [i] := by
    rw [table, Array.toList_push]
  have new : i ∉ ledger.table.order.toList := by
    rw [sound.installed i, compiling]
    simp
  constructor
  case size => exact (DispatchTable.size_of_install marked).trans sound.size
  case distinct =>
    rw [moreOrder, List.nodup_append]
    refine ⟨sound.distinct, List.nodup_singleton i, ?_⟩
    intro j before k last same
    rw [List.mem_singleton.mp last] at same
    exact new (same ▸ before)
  case installed =>
    intro j
    rw [moreOrder, List.mem_append, List.mem_singleton, sound.installed j,
      DispatchTable.slot?_of_install marked j]
    by_cases same : j = i
    · simp [same]
    · simp [same]
  case units =>
    rw [moreUnits, Array.toList_push, List.map_append, sound.units, moreOrder]
    rfl
  case blobs =>
    intro unit member
    rw [moreUnits, Array.toList_push, List.mem_append, List.mem_singleton] at member
    rcases member with before | rfl
    · exact sound.blobs unit before
    · exact ⟨blob, arrived, rfl⟩

theorem slot (sound : ledger.Sound compiler count received) (i : FuncId) :
    (ledger.table.slot? i).isSome ↔ i.slot < count := by
  rw [← sound.size]
  simp [DispatchTable.slot?, DispatchTable.size]

theorem few (sound : ledger.Sound compiler count received) : ledger.table.order.size ≤ count := by
  refine FuncId.length_le_of_nodup sound.distinct fun i member => ?_
  rw [← sound.slot i, (sound.installed i).mp member]
  rfl

end Sound

end Ledger

/-- Since a moment at which the ledger was sound, every ledger is sound and none went back. What was
received before that moment is `got`. -/
structure Booked (past : List Event) (got : List (Request × Bytes)) (first : Ledger) (count : Nat)
    (state : HostState σ) (events : List Event) : Prop where
  history : state.history = past ++ events
  sound : state.ledger.Sound state.compiler count (got ++ events.filterMap Event.received?)
  found : ∀ ledger ∈ events.filterMap Event.ledger?,
    ledger.Sound state.compiler count (got ++ events.filterMap Event.received?)
  advances : (first :: events.filterMap Event.ledger? ++ [state.ledger]).Pairwise Ledger.Advances

namespace Booked

variable {past events : List Event} {got : List (Request × Bytes)} {first : Ledger} {count : Nat}
  {state : HostState σ}

theorem start (past : List Event) (got : List (Request × Bytes)) {count : Nat}
    {state : HostState σ} (same : state.history = past)
    (sound : state.ledger.Sound state.compiler count got) :
    Booked past got state.ledger count state [] where
  history := by
    rw [same, List.append_nil]
  sound := by
    simpa using sound
  found := by simp
  advances := by simpa using Ledger.Advances.refl state.ledger

theorem move {next : HostState σ} {more : List Event}
    (booked : Booked past got first count state events)
    (history : next.history = state.history ++ more) (compiler : next.compiler = state.compiler)
    (unseen : more.filterMap Event.ledger? = []) (up : state.ledger.Advances next.ledger)
    (sound : next.ledger.Sound state.compiler count
      (got ++ (events ++ more).filterMap Event.received?)) :
    Booked past got first count next (events ++ more) where
  history := by
    rw [history, booked.history, List.append_assoc]
  sound := by
    rw [compiler]
    exact sound
  found := by
    rw [compiler, List.filterMap_append, unseen, List.append_nil]
    intro ledger member
    refine (booked.found ledger member).mono ?_
    rw [List.filterMap_append, ← List.append_assoc]
    exact List.subset_append_left _ _
  advances := by
    have before := booked.advances
    rw [List.filterMap_append, unseen, List.append_nil]
    rw [List.pairwise_append] at before ⊢
    obtain ⟨earlier, _, reached⟩ := before
    refine ⟨earlier, List.pairwise_singleton _ _, fun ledger member last same => ?_⟩
    obtain rfl := List.mem_singleton.mp same
    exact (reached ledger member _ (List.mem_singleton_self _)).trans up

theorem note {event : Event} (booked : Booked past got first count state events)
    (unseen : event.ledger? = none) :
    Booked past got first count (state.record event) (events ++ [event]) := by
  refine booked.move (HostState.history_record state event) rfl (by simp [unseen])
    (Ledger.Advances.refl _) (booked.sound.mono ?_)
  rw [List.filterMap_append, ← List.append_assoc]
  exact List.subset_append_left _ _

theorem enter (raw : Int32) (booked : Booked past got first count state events) :
    Booked past got first count (state.enter raw)
      (events ++ [Event.triggered raw state.ledger]) := by
  have sameReceived : (events ++ [Event.triggered raw state.ledger]).filterMap Event.received? =
      events.filterMap Event.received? := by
    simp [Event.received?]
  have seen : (events ++ [Event.triggered raw state.ledger]).filterMap Event.ledger? =
      events.filterMap Event.ledger? ++ [state.ledger] := by
    simp [Event.ledger?]
  constructor
  case history => rw [HostState.history_enter, booked.history, List.append_assoc]
  case sound =>
    rw [sameReceived]
    exact booked.sound
  case found =>
    rw [sameReceived, seen]
    intro ledger member
    rcases List.mem_append.mp member with before | last
    · exact booked.found ledger before
    · obtain rfl := List.mem_singleton.mp last
      exact booked.sound
  case advances =>
    have before := booked.advances
    rw [seen, HostState.ledger_enter, ← List.cons_append, List.pairwise_append]
    refine ⟨before, List.pairwise_singleton _ _, fun ledger member last same => ?_⟩
    obtain rfl := List.mem_singleton.mp same
    rcases List.mem_append.mp member with earlier | last
    · exact (List.pairwise_append.mp before).2.2 ledger earlier _ (List.mem_singleton_self _)
    · obtain rfl := List.mem_singleton.mp last
      exact Ledger.Advances.refl _

theorem requested {service : Service σ} {raw : Int32} {i : FuncId} {ledger : Ledger}
    {outside : Outside σ} {result : Except Session.Fault Bytes}
    (booked : Booked past got first count state events)
    (reserved : state.ledger.reserve i = .ok ledger)
    (obtained : Trigger.obtain service state.compiler state.dump i
      (state.reserved raw i ledger).outside = (result, outside)) :
    ∃ events, Booked past got first count { state.reserved raw i ledger with outside } events := by
  obtain ⟨replies, idle, grown, _⟩ := Trigger.requested_history obtained
  have unseen : replies.filterMap Event.ledger? = [] := by
    refine List.filterMap_eq_nil_iff.mpr fun event member => ?_
    have reply := idle event member
    cases event with
    | triggered raw ledger => cases reply
    | _ => rfl
  have entered := booked.enter raw
  refine ⟨_, entered.move grown rfl ?_ ?_ ?_⟩
  · simpa [Event.ledger?, List.filterMap_cons] using unseen
  · exact Ledger.Advances.of_reserve reserved
  · refine (entered.sound.reserve reserved).mono ?_
    refine List.append_subset.mpr ⟨List.subset_append_left _ _, ?_⟩
    refine List.Subset.trans ?_ (List.subset_append_right _ _)
    exact ((List.prefix_append _ _).filterMap _).subset

theorem installed {service : Service σ} {raw : Int32} {before after : HostState σ}
    {earlier : List Event} {i : FuncId} {blob : Bytes} {ledger : Ledger}
    (admitted : Trigger.Admission service raw before (.ok (some (i, blob))) after)
    (bookedBefore : Booked past got first count before earlier) (grows : after.Grows state)
    (recorded : state.ledger.install ⟨i, blob.length⟩ = .ok ledger)
    (booked : Booked past got first count state events) :
    Booked past got first count
      { state.record (.notice (.installed i blob.length)) with ledger }
      (events ++ [Event.notice (.installed i blob.length)]) := by
  obtain ⟨replies, grown, brought⟩ := admitted.received
  obtain ⟨rest, later⟩ := grows.history
  have whole : past ++ (earlier ++ (replies ++ rest)) = past ++ events := by
    rw [← booked.history, ← later, grown, bookedBefore.history]
    simp only [List.append_assoc]
  replace whole := List.append_cancel_left whole
  have arrived : (.unit state.compiler i, blob) ∈ events.filterMap Event.received? := by
    rw [grows.compiler, Event.mem_received_iff, ← whole]
    exact List.mem_append_right _ (List.mem_append_left _ brought)
  refine booked.move (HostState.history_record _ _) rfl (by simp [Event.ledger?])
    (Ledger.Advances.of_install recorded) ?_
  refine (booked.sound.install (List.mem_append_right _ arrived) recorded).mono ?_
  rw [List.filterMap_append, ← List.append_assoc]
  exact List.subset_append_left _ _

theorem kept (service : Service σ) (past : List Event) (got : List (Request × Bytes))
    (first : Ledger) (count : Nat) :
    Kept service fun state => ∃ events, Booked past got first count state events where
  notice notice := fun ⟨_, booked⟩ => ⟨_, booked.note rfl⟩
  printed {state} value := by
    rintro ⟨events, booked⟩
    have noted : Booked past got first count (state.record (.printed value))
        (events ++ [Event.printed value]) := booked.note rfl
    exact ⟨_, noted.history, noted.sound, noted.found, noted.advances⟩
  settled raw result := fun ⟨_, booked⟩ => ⟨_, booked.note rfl⟩
  admitted := by
    rintro raw state answer after admitted ⟨events, booked⟩
    cases admitted with
    | tooEarly unready => exact ⟨_, booked.enter raw⟩
    | outOfRange ready refused => exact ⟨_, booked.enter raw⟩
    | present ready located installed => exact ⟨_, (booked.enter raw).note rfl⟩
    | reentered ready located notInstalled refused => exact ⟨_, booked.enter raw⟩
    | requested ready located reserved obtained => exact booked.requested reserved obtained
  installed := by
    rintro raw before after state ledger i blob admitted ⟨_, earlier⟩ grows recorded ⟨_, booked⟩
    exact ⟨_, installed admitted earlier grows recorded booked⟩

end Booked

/-- The blobs that came back, each for a request of its own. -/
def Answered (past : List Event) (state : HostState σ) : Prop :=
  ∃ events, state.history = past ++ events ∧
    ((events.filterMap Event.received?).map Prod.fst).Sublist (events.filterMap Event.request?)

namespace Answered

variable {past : List Event} {state : HostState σ}

theorem note {event : Event} (answered : Answered past state) (silent : event.received? = none) :
    Answered past (state.record event) := by
  obtain ⟨events, history, answers⟩ := answered
  refine ⟨events ++ [event], by rw [HostState.history_record, history, List.append_assoc], ?_⟩
  rw [List.filterMap_append, List.filterMap_append, List.filterMap_cons, silent]
  simpa using answers.trans (List.sublist_append_left _ _)

theorem kept (service : Service σ) (past : List Event) : Kept service (Answered past) where
  notice _ answered := answered.note rfl
  printed {state} value answered := by
    have noted : Answered past (state.record (.printed value)) := answered.note rfl
    exact noted
  settled _ _ answered := answered.note rfl
  installed _ _ _ _ answered := answered.note rfl
  admitted := by
    intro raw state answer after admitted answered
    have entered : Answered past (state.enter raw) := answered.note rfl
    cases admitted with
    | tooEarly unready => exact entered
    | outOfRange ready refused => exact entered
    | present ready located installed => exact entered.note rfl
    | reentered ready located notInstalled refused => exact entered
    | requested ready located reserved obtained =>
      obtain ⟨events, history, answers⟩ := entered
      obtain ⟨replies, _, grown, brought⟩ := Trigger.requested_history obtained
      refine ⟨_, by rw [grown, history, List.append_assoc], ?_⟩
      rw [List.filterMap_append, List.filterMap_append, List.map_append]
      refine answers.append ?_
      obtain ⟨none, _⟩ | ⟨blob, one, _⟩ := brought
      · simp [List.filterMap_cons, Event.received?, none]
      · simp [List.filterMap_cons, Event.received?, Event.request?, one]

end Answered

namespace Session

/-- The ledgers at every moment at which they can be looked at: before, between and after so many
runs, and in each call of the trigger. -/
def moments (service : Service σ) (limits : Limits) : Nat → Session σ → List Ledger
  | 0, session => [session.state.ledger]
  | runs + 1, session =>
    session.state.ledger ::
      ((session.run service limits).2.world.ledgers.drop session.world.ledgers.length ++
        moments service limits runs (session.run service limits).2)

variable {service : Service σ} {limits : Limits} {session : Session σ}
  {compiler : Service.Compiler} {count : Nat}

/-- What one run does to the ledger. -/
theorem run_booked (service : Service σ) (limits : Limits) {got : List (Request × Bytes)}
    (sound : session.state.ledger.Sound session.state.compiler count got) :
    ∃ events, Booked session.state.history got session.state.ledger count
      (session.run service limits).2.state events :=
  run_kept (Booked.kept service session.state.history got session.state.ledger count) limits
    ⟨[], Booked.start _ _ rfl sound⟩

theorem mem_moments_last (runs : Nat) (session : Session σ) :
    (session.rerun service limits runs).state.ledger ∈ session.moments service limits runs := by
  induction runs generalizing session with
  | zero => exact List.mem_singleton_self _
  | succ runs ih => exact List.mem_cons_of_mem _ (List.mem_append_right _ (ih _))

/-- Over any number of runs, every ledger is sound and none goes back. -/
theorem moments_booked (service : Service σ) (limits : Limits) (runs : Nat)
    {got : List (Request × Bytes)}
    (sound : session.state.ledger.Sound session.state.compiler count got) :
    ∃ events, (session.rerun service limits runs).state.history = session.state.history ++ events ∧
      (session.moments service limits runs).Pairwise Ledger.Advances ∧
      ∀ ledger ∈ session.moments service limits runs, session.state.ledger.Advances ledger ∧
        ledger.Sound session.state.compiler count (got ++ events.filterMap Event.received?) := by
  induction runs generalizing session got with
  | zero =>
    refine ⟨[], by simp [rerun], List.pairwise_singleton _ _, ?_⟩
    intro ledger member
    obtain rfl := List.mem_singleton.mp member
    exact ⟨.refl _, by simpa using sound⟩
  | succ runs ih =>
    obtain ⟨events, booked⟩ := run_booked service limits sound
    have sameCompiler := (run_grows service limits session).compiler
    obtain ⟨later, history, ordered, holds⟩ := ih booked.sound
    have seen : (session.run service limits).2.world.ledgers.drop session.world.ledgers.length =
        events.filterMap Event.ledger? := by
      have split : (session.run service limits).2.world.ledgers =
          session.world.ledgers ++ events.filterMap Event.ledger? := by
        have whole := congrArg (List.filterMap Event.ledger?) booked.history
        rw [List.filterMap_append] at whole
        exact whole
      rw [split, List.drop_left]
    have laid : session.moments service limits (runs + 1) =
        (session.state.ledger :: events.filterMap Event.ledger?) ++
          (session.run service limits).2.moments service limits runs := by
      rw [moments, seen]
      rfl
    obtain ⟨within, _, reached⟩ := List.pairwise_append.mp booked.advances
    have received : got ++ (events ++ later).filterMap Event.received? =
        got ++ events.filterMap Event.received? ++ later.filterMap Event.received? := by
      rw [List.filterMap_append, List.append_assoc]
    refine ⟨events ++ later, ?_, ?_, ?_⟩
    all_goals try rw [laid]
    · rw [rerun, history, booked.history, List.append_assoc]
    · refine List.pairwise_append.mpr ⟨within, ordered, fun first early last late => ?_⟩
      exact (reached first early _ (List.mem_singleton_self _)).trans (holds last late).1
    · intro ledger member
      rw [received]
      rcases List.mem_append.mp member with early | late
      · rcases List.mem_cons.mp early with rfl | inside
        · exact ⟨.refl _, sound.mono (List.append_assoc got _ _ ▸ List.subset_append_left _ _)⟩
        · have up := (List.pairwise_cons.mp within).1 ledger inside
          have holdsThen := booked.found ledger inside
          rw [sameCompiler] at holdsThen
          exact ⟨up, holdsThen.mono (List.subset_append_left _ _)⟩
      · obtain ⟨up, holdsLater⟩ := holds ledger late
        rw [sameCompiler] at holdsLater
        have across := reached session.state.ledger List.mem_cons_self _
          (List.mem_singleton_self _)
        exact ⟨across.trans up, holdsLater⟩

/-- The shared table of a session that was set up exists, and its size is the number of slots. -/
theorem start_table {source : String} {settings : Settings} {outside : Outside σ}
    (started : start service limits source settings outside = .ok session) :
    session.skeleton.inst.exportedTable? tableName = some session.skeleton.table ∧
      (session.machine.store.tables[session.skeleton.table]?).map Table.size =
        some session.slotCount := by
  obtain ⟨compiler, blob, prepared, loaded, _, found, machine, _⟩ := start_ok started
  obtain ⟨module, middle, _, _, _, ran, exported, count, rfl⟩ := Skeleton.load_ok found
  obtain ⟨laid, lasts⟩ := tables_last.instantiate (tables_last.call service limits) ran
  refine ⟨exported, ?_⟩
  have own : session.skeleton.table ∈ session.skeleton.inst.tables := by
    rw [laid] at exported ⊢
    exact mem_tables_of_exported exported
  have allotted : session.skeleton.table < module.tables.length := by
    rw [laid] at own
    simpa [Module.instanceAt, Module.addresses, Extern.table?, dispatchStore, Store.ofHost,
      Store.empty] using own
  have inside : session.skeleton.table < middle.store.tables.size := by
    refine Nat.lt_of_lt_of_le ?_ lasts
    simpa [Module.allocate, dispatchStore, Store.ofHost, Store.empty] using allotted
  rw [machine]
  change (middle.store.tables[session.skeleton.table]?).map Table.size =
    some session.skeleton.slotCount
  rw [count, Array.getElem?_eq_getElem inside]
  rfl

theorem fire_outside {run : Invoker HostFunc (HostState σ) Fault} {raw : Int32}
    {m : DispatchMachine σ} (ready : m.host.shared.isSome)
    (outside : raw.toInt < 0 ∨ (m.host.ledger.table.size : Int) ≤ raw.toInt) :
    (Trigger.fire service run raw m).1 =
      .error (.failed (.table (.outOfRange raw.toInt m.host.ledger.table.size))) := by
  have located : m.host.ledger.table.locate raw =
      .error (.outOfRange raw.toInt m.host.ledger.table.size) := if_pos outside
  obtain ⟨shared, opened⟩ := Option.isSome_iff_exists.mp ready
  rw [Trigger.fire_of_admitted run (.outOfRange opened located), Trigger.settle_eq]
  rfl

/-- The blobs that a session received answer the request for the skeleton and those for units, each
at most one. -/
theorem received_sublist {source : String} {settings : Settings} {outside : Outside σ}
    (started : start service limits source settings outside = .ok session) {runs : Nat}
    {events : List Event} (history : (session.rerun service limits runs).state.history =
      outside.world.history.toList ++ events) :
    ((events.filterMap Event.received?).map Prod.fst).Sublist
      (.skeleton session.state.compiler ::
        (firstCalls session.slotCount (events.filterMap Event.triggered?)).map
          (.unit session.state.compiler)) := by
  obtain ⟨_, blob, first, _, _, grown, asked, received, _⟩ := start_history started
  have fresh : Answered session.state.history session.state :=
    ⟨[], (List.append_nil _).symm, List.Sublist.refl _⟩
  obtain ⟨later, whole, answers⟩ :=
    rerun_kept (Answered.kept service session.state.history) limits runs fresh
  obtain ⟨_, same, _, _, all, requests⟩ := requests_of_rerun started runs
  obtain rfl := List.append_cancel_left (history.symm.trans all)
  obtain rfl : events = first ++ later := by
    rw [whole, grown, List.append_assoc] at history
    exact (List.append_cancel_left history).symm
  rw [List.filterMap_append, asked, (rerun_grows service limits runs session).compiler] at requests
  have units : later.filterMap Event.request? =
      (firstCalls session.slotCount ((first ++ later).filterMap Event.triggered?)).map
        (.unit session.state.compiler) :=
    (List.cons.inj (List.cons.inj (List.cons.inj requests).2).2).2
  rw [units] at answers
  rw [List.filterMap_append, List.map_append, received]
  exact answers.cons_cons _

theorem nodup_answerable {compiler : Service.Compiler} {funcs : List FuncId}
    (distinct : funcs.Nodup) :
    (Request.skeleton compiler :: funcs.map (.unit compiler)).Nodup := by
  have units : (funcs.map (Request.unit compiler)).Nodup :=
    distinct.map fun _ _ same => (Request.unit.inj same).2
  simpa using units

theorem received_once {source : String} {settings : Settings} {outside : Outside σ}
    (started : start service limits source settings outside = .ok session) {runs : Nat}
    {events : List Event} (history : (session.rerun service limits runs).state.history =
      outside.world.history.toList ++ events)
    {request : Request} {one other : Bytes} (first : .received request one ∈ events)
    (second : .received request other ∈ events) : other = one := by
  have distinct := (nodup_answerable (nodup_firstCalls _ _)).sublist
    (received_sublist started history)
  have equal := List.inj_on_of_nodup_map distinct (Event.mem_received_iff.mpr second)
    (Event.mem_received_iff.mpr first) rfl
  exact (Prod.mk.inj equal).2

/-- Whenever the ledger of a session can be looked at, before, between and after any number of runs
and in every call of the trigger, its parts agree, and it only moves forward. -/
theorem ledger_in_order {source : String} {settings : Settings} {outside : Outside σ}
    (started : start service limits source settings outside = .ok session) (runs : Nat) :
    ∃ events : List Event,
      (session.rerun service limits runs).state.history =
        outside.world.history.toList ++ events ∧
      (session.machine.store.tables[session.skeleton.table]?).map Table.size =
        some session.slotCount ∧
      (session.rerun service limits runs).slotCount = session.slotCount ∧
      (session.rerun service limits runs).state.ledger ∈ session.moments service limits runs ∧
      (session.moments service limits runs).Pairwise Ledger.Advances ∧
      ∀ ledger ∈ session.moments service limits runs,
        ledger.table.order.toList.Nodup ∧
        (∀ i, i ∈ ledger.table.order.toList ↔ ledger.table.slot? i = some .installed) ∧
        ledger.table.order.size ≤ session.slotCount ∧
        ledger.units.toList.map LoadedUnit.func = ledger.table.order.toList ∧
        (∀ unit ∈ ledger.units.toList, ∃ blob : Bytes, unit.size = blob.length ∧
          ∀ other : Bytes, other = blob ↔
            .received (.unit session.state.compiler unit.func) other ∈ events) ∧
        ledger.table.size = session.slotCount ∧
        (∀ i, (ledger.table.slot? i).isSome ↔ i.slot < session.slotCount) ∧
        ∀ (raw : Int32) (run : Invoker HostFunc (HostState σ) Fault) (m : DispatchMachine σ),
          m.host.ledger = ledger → m.host.shared.isSome →
          raw.toInt < 0 ∨ (session.slotCount : Int) ≤ raw.toInt →
            (Trigger.fire service run raw m).1 =
              .error (.failed (.table (.outOfRange raw.toInt session.slotCount))) := by
  obtain ⟨_, blob, first, _, _, grown, asked, received, _⟩ := start_history started
  obtain ⟨_, ledger⟩ := start_state started
  have fresh : session.state.ledger.Sound session.state.compiler session.slotCount
      (first.filterMap Event.received?) := by
    rw [ledger]
    exact .ofSize _ _ _
  obtain ⟨events, history, ordered, holds⟩ := moments_booked service limits runs fresh
  have whole : (session.rerun service limits runs).state.history =
      outside.world.history.toList ++ (first ++ events) := by
    rw [history, grown, List.append_assoc]
  refine ⟨first ++ events, whole, (start_table started).2, ?_, mem_moments_last runs session,
    ordered, fun ledger member => ?_⟩
  · unfold slotCount
    rw [rerun_skeleton]
  obtain ⟨_, sound⟩ := holds ledger member
  refine ⟨sound.distinct, sound.installed, sound.few, sound.units, fun unit kept => ?_, sound.size,
    sound.slot, ?_⟩
  · obtain ⟨blob, arrived, size⟩ := sound.blobs unit kept
    rw [← List.filterMap_append, Event.mem_received_iff] at arrived
    refine ⟨blob, size, fun other => ⟨fun equal => equal ▸ arrived, fun second => ?_⟩⟩
    exact received_once started whole arrived second
  · rintro raw run m rfl ready out
    rw [← sound.size] at out ⊢
    exact fire_outside ready out

/-- A function whose unit was refused is left as one that is being compiled. -/
theorem sample_ledgers :
    ∃ session : Session Unit,
      start Sample.script.service Sample.limits "" Settings.default ⟨(), Sample.world⟩ =
        .ok session ∧
      (session.moments Sample.script.service Sample.limits 1).map
          (fun ledger => (ledger.table.slots.toList, ledger.units.toList)) =
        [([.stub, .stub], []), ([.stub, .stub], []), ([.installed, .stub], [⟨⟨0⟩, 57⟩]),
          ([.installed, .compiling], [⟨⟨0⟩, 57⟩])] ∧
      (session.moments Sample.script.service Sample.limits 1).Pairwise Ledger.Advances := by
  have seen : ((start Sample.script.service Sample.limits "" Settings.default
      ⟨(), Sample.world⟩).toOption.map fun session =>
        (session.moments Sample.script.service Sample.limits 1).map
          fun ledger => (ledger.table.slots.toList, ledger.units.toList)) =
      some [([.stub, .stub], []), ([.stub, .stub], []), ([.installed, .stub], [⟨⟨0⟩, 57⟩]),
        ([.installed, .compiling], [⟨⟨0⟩, 57⟩])] := by
    decide +kernel
  obtain ⟨session, started, seen⟩ := exists_ok_of_seen seen
  obtain ⟨_, _, _, _, _, ordered, _⟩ := ledger_in_order started 1
  exact ⟨session, started, seen, ordered⟩

end Session

end FirstCall
