import FirstCall.Proofs.Course

/-!
# What lasts

Code and loading change a machine in few ways: an operator writes to the store, a module allocates
its items, a segment is written. The dispatcher itself changes only the host, and in few ways, too.
A relation between machines that holds of all these changes holds between the machine before and the
machine after a call of the trigger, if it holds of the code that the trigger runs. A relation
between stores needs to hold of the changes of a store only.
-/

namespace FirstCall

open Wasm

variable {σ α : Type}

/-- A discipline that does not look at the ending and that the steps satisfy which the dispatcher
takes on its own. -/
structure Regimen (service : Service σ)
    (P : DispatchMachine σ → Ending Session.Fault → DispatchMachine σ → Prop) : Prop
    extends Discipline P where
  regardless : ∀ {m one other after}, P m one after → P m other after
  admitted : ∀ {m : DispatchMachine σ} {raw answer host},
    Trigger.Admission service raw m.host answer host → P m (.ok ()) { m with host }
  recorded : ∀ (m : DispatchMachine σ) (event : Event), event.printed? = none →
    P m (.ok ()) { m with host := m.host.record event }
  changed : ∀ (m : DispatchMachine σ) (ledger : Ledger),
    P m (.ok ()) { m with host := { m.host with ledger } }

namespace Regimen

variable {service : Service σ}
  {P : DispatchMachine σ → Ending Session.Fault → DispatchMachine σ → Prop}
  {run : Invoker HostFunc (HostState σ) Session.Fault} (regimen : Regimen service P)

include regimen

theorem idle (m : DispatchMachine σ) (ended : Ending Session.Fault) : P m ended m :=
  regimen.regardless (regimen.quiet m)

theorem mapStop {action : Dispatch σ α} {change : Stop Session.Fault → Stop Session.Fault}
    (obeys : Obeys P action) : Obeys P (Action.mapStop change action) := by
  intro m
  have before := obeys m
  unfold Action.mapStop
  cases ran : action m with
  | mk result after =>
    rw [ran] at before
    cases result with
    | ok value => exact before
    | error why => exact regimen.regardless before

theorem loadUnit (calls : ∀ addr args, Obeys P (run addr args)) (i : FuncId) (shared : Nat)
    (blob : Bytes) : Obeys P (FunctionUnit.load run i shared blob) := by
  intro m
  obtain ⟨fault, _, turned⟩ | ⟨_, module, items, _, _, _, _, loaded⟩ :=
    FunctionUnit.load_cases run i shared blob m
  · rw [turned]
    exact regimen.idle m _
  · rw [loaded]
    exact regimen.regardless (regimen.instantiate calls module items m)

theorem loadSkeleton (calls : ∀ addr args, Obeys P (run addr args)) (blob : Bytes) :
    Obeys P (Skeleton.load run blob) := by
  unfold Skeleton.load
  split
  · exact fun m => regimen.idle m _
  · refine regimen.bind regimen.store fun store => ?_
    split
    · refine regimen.bind (regimen.mapStop (regimen.instantiate calls _ _)) fun inst => ?_
      split
      · exact fun m => regimen.idle m _
      · refine regimen.bind regimen.store fun store => ?_
        exact regimen.bind (fun m => regimen.recorded m (.notice _) rfl) fun _ => regimen.pure _
    · exact fun m => regimen.idle m _

theorem install (calls : ∀ addr args, Obeys P (run addr args)) (shared : Nat) (i : FuncId)
    (blob : Bytes) : Obeys P (Trigger.install run shared i blob) := by
  intro m
  have before := regimen.loadUnit calls i shared blob m
  rw [Trigger.install_apply]
  generalize FunctionUnit.load run i shared blob m = loaded at before
  obtain ⟨_ | unit, machine⟩ := loaded
  · exact before
  · have announced := regimen.trans before
      (regimen.recorded machine (.notice (.installed i unit.size)) rfl)
    dsimp only
    cases machine.host.ledger.install unit with
    | error refusal => exact regimen.regardless announced
    | ok ledger => exact regimen.trans announced (regimen.changed _ ledger)

/-- What the dispatcher satisfies on its own, and the code that it runs satisfies, a call of the
trigger satisfies. -/
theorem fire (calls : ∀ addr args, Obeys P (run addr args)) (raw : Int32) :
    Obeys P (Trigger.fire service run raw) := by
  intro m
  obtain ⟨answer, host, admitted, fired⟩ := Trigger.fire_admitted service run raw m
  have proceeded : Obeys P (Trigger.proceed run (m.host.shared.getD 0) answer) := by
    rcases answer with fault | (_ | ⟨i, blob⟩)
    · exact fun m => regimen.idle m _
    · exact regimen.pure ()
    · exact regimen.install calls _ i blob
  have weighed := regimen.trans (regimen.admitted admitted) (proceeded { m with host })
  rw [fired, Trigger.settle_eq]
  obtain same | ⟨result, same⟩ := HostState.settle_cases
    (Trigger.proceed run (m.host.shared.getD 0) answer { m with host }).2.host raw
    (ending (Trigger.proceed run (m.host.shared.getD 0) answer { m with host }).1)
  · rw [same]
    exact regimen.regardless weighed
  · rw [same]
    exact regimen.regardless
      (regimen.trans (regimen.regardless weighed) (regimen.recorded _ (.settled raw result) rfl))

end Regimen

/-- A relation between stores that every change of a store satisfies. -/
structure Lasting (R : Store HostFunc → Store HostFunc → Prop) : Prop where
  refl : ∀ store, R store store
  trans : ∀ {first middle last}, R first middle → R middle last → R first last
  performed : ∀ {store inst frame o after},
    (perform inst store frame o : Except (Stop Session.Fault) (Frame × Store HostFunc)) =
      .ok after → R store after.2
  allocated : ∀ (store) (module : Module) (items : List Extern),
    R store (module.allocate (module.instanceAt items store) store)
  filled : ∀ {store} {inst : Instance} {index start addr table refs changed},
    inst.table? store index = some (addr, table) → table.write? start refs = some changed →
      R store (store.setTable addr changed)
  written : ∀ {store} {inst : Instance} {index start addr memory bytes changed},
    inst.memory? store index = some (addr, memory) → memory.write? start bytes = some changed →
      R store (store.setMemory addr changed)

namespace Lasting

variable {R : Store HostFunc → Store HostFunc → Prop} (lasting : Lasting R)

/-- The stores of two machines are related, however the code between them ended. -/
def Link (R : Store HostFunc → Store HostFunc → Prop) (m : DispatchMachine σ)
    (_ : Ending Session.Fault) (after : DispatchMachine σ) : Prop :=
  R m.store after.store

include lasting

theorem discipline : Discipline (Link R : DispatchMachine σ → _ → _ → Prop) where
  quiet m := lasting.refl m.store
  halted m _ _ := lasting.refl m.store
  trans head tail := lasting.trans head tail
  performed done := lasting.performed done
  allocated m module items := lasting.allocated m.store module items
  filled found done := lasting.filled found done
  written found done := lasting.written found done

/-- The dispatcher does not touch the store on its own. -/
theorem regimen (service : Service σ) : Regimen service (Link R) where
  toDiscipline := lasting.discipline
  regardless related := related
  admitted {m} _ _ _ _ := lasting.refl m.store
  recorded m _ _ := lasting.refl m.store
  changed m _ := lasting.refl m.store

/-- What lasts through every change of a store lasts through every call of a program. -/
theorem call (service : Service σ) (limits : Limits) (addr : Nat) (args : List Value) :
    Obeys (Link R) (Session.call service limits addr args) := by
  have regimen := lasting.regimen service
  refine regimen.invoke (fun run calls name args => ?_) _ _ _ _ _
  unfold dispatchHost
  split
  · exact regimen.bind (regimen.fire calls _) fun _ => regimen.pure _
  · exact regimen.bind (fun m => lasting.refl m.store) fun _ => regimen.pure _
  · exact regimen.stop rfl

theorem instantiate {run : Invoker HostFunc (HostState σ) Session.Fault}
    {m after : DispatchMachine σ} {module : Module} {items : List Extern} {inst : Instance}
    (calls : ∀ addr args, Obeys (Link R) (run addr args))
    (ran : instantiate run module items m = (.ok inst, after)) :
    inst = module.instanceAt items m.store ∧ R (module.allocate inst m.store) after.store := by
  have d : Discipline (Link R : DispatchMachine σ → _ → _ → Prop) := lasting.discipline
  unfold Wasm.instantiate at ran
  obtain ⟨store, start, asked, ran⟩ := Action.bind_ok ran
  obtain ⟨found, rfl⟩ := Prod.mk.inj asked
  obtain rfl := Except.ok.inj found
  generalize module.instanceAt items m.store = found at ran ⊢
  obtain ⟨_, first, allocated, ran⟩ := Action.bind_ok ran
  have rest : Obeys (Link R) (do
      module.elems.forM (writeElem found)
      module.datas.forM (writeData found)
      runStart run found module.start
      pure found : Dispatch σ Instance) := by
    refine d.bind (d.forM (d.writeElem _)) fun _ => ?_
    refine d.bind (d.forM (d.writeData _)) fun _ => ?_
    refine d.bind ?_ fun _ => d.pure _
    unfold runStart
    split
    · exact d.pure _
    · split
      · exact d.bind (calls _ _) fun _ => d.pure _
      · exact d.stop rfl
  have lasts := rest first
  unfold Link at lasts
  rw [ran, ← (Prod.mk.inj allocated).2] at lasts
  obtain ⟨_, _, _, ran⟩ := Action.bind_ok ran
  obtain ⟨_, _, _, ran⟩ := Action.bind_ok ran
  obtain ⟨_, _, _, ran⟩ := Action.bind_ok ran
  obtain rfl := Except.ok.inj (Prod.mk.inj ran).1
  exact ⟨rfl, lasts⟩

end Lasting

theorem tables_last :
    Lasting fun store after : Store HostFunc => store.tables.size ≤ after.tables.size where
  refl store := Nat.le_refl _
  trans head tail := Nat.le_trans head tail
  performed {_ _ _ _ after} done := by
    obtain ⟨_, left⟩ := after
    cases perform_touches done with
    | tableSet top place written => exact Nat.le_of_eq Array.size_setIfInBounds.symm
    | tableGrow place grown => exact Nat.le_of_eq Array.size_setIfInBounds.symm
    | tableWrite top there taken written => exact Nat.le_of_eq Array.size_setIfInBounds.symm
    | _ => exact Nat.le_refl _
  allocated store module items := by simp [Module.allocate]
  filled _ _ := by simp [Store.setTable]
  written _ _ := Nat.le_refl _

section Exports

variable {κ : Type} {module : Module} {items : List Extern} {store : Store κ} {name : String}

theorem itemAt_of_exported {item : Extern}
    (named : (module.instanceAt items store).export? name = some item) :
    ∃ index, Module.itemAt? (module.instanceAt items store) index = some item := by
  unfold Instance.export? at named
  obtain ⟨before, after, split, _⟩ := List.lookup_eq_some_iff.mp named
  have listed : (name, item) ∈ (module.instanceAt items store).exports := by
    rw [split]
    exact List.mem_append_right _ List.mem_cons_self
  obtain ⟨e, _, found⟩ := List.mem_filterMap.mp listed
  obtain ⟨_, place, same⟩ := Option.map_eq_some_iff.mp found
  obtain ⟨_, rfl⟩ := Prod.mk.inj same
  exact ⟨e.item, place⟩

theorem mem_tables_of_exported {addr : Nat}
    (exported : (module.instanceAt items store).exportedTable? name = some addr) :
    addr ∈ (module.instanceAt items store).tables := by
  obtain ⟨item, named, isTable⟩ := Option.bind_eq_some_iff.mp exported
  obtain ⟨index, found⟩ := itemAt_of_exported named
  cases index
  all_goals
    obtain ⟨_, inside, rfl⟩ := Option.map_eq_some_iff.mp found
    cases isTable
  exact Array.mem_of_getElem? inside

theorem mem_funcs_of_exported {addr : Nat}
    (exported : (module.instanceAt items store).exportedFunc? name = some addr) :
    addr ∈ (module.instanceAt items store).funcs := by
  obtain ⟨item, named, isFunc⟩ := Option.bind_eq_some_iff.mp exported
  obtain ⟨index, found⟩ := itemAt_of_exported named
  cases index
  all_goals
    obtain ⟨_, inside, rfl⟩ := Option.map_eq_some_iff.mp found
    cases isFunc
  exact Array.mem_of_getElem? inside

end Exports

end FirstCall
