import FirstCall.Proofs.Abandonment
import FirstCall.Proofs.Keeping
import FirstCall.Proofs.Lockstep

/-!
# Slots and the shared table

The dispatcher never looks into the shared table, but what it notes about a slot is true of the
table. As long as code spares the table and every unit keeps to its slot, a slot changes only while
its unit is loaded, and this happens between the reservation and the installation of the slot. So a
stub is where the skeleton put it, and an installed slot holds the function of its own unit.
-/

namespace FirstCall

open Wasm

variable {σ : Type}

namespace Custody

def since (first m : DispatchMachine σ) : List Event :=
  m.host.history.drop first.host.history.length

/-- Every unit that was received since then keeps to the slot of its function. -/
def UnitsKeep (first m : DispatchMachine σ) : Prop :=
  ∀ (i : FuncId) (blob : Bytes) (module : Module),
    .received (.unit first.host.compiler i) blob ∈ since first m →
      Module.ofBlob blob = .ok module → module.KeepsTo i

/-- The reference leads to the function that the unit of the given function, received and loaded
since then, put into the shared table last. -/
def InstalledBy (first : DispatchMachine σ) (shared : Nat) (m : DispatchMachine σ) (i : FuncId)
    (ref : Ref) : Prop :=
  ∃ (blob : Bytes) (module : Module) (origin : Store HostFunc) (own : Nat),
    .received (.unit first.host.compiler i) blob ∈ since first m ∧
    Module.ofBlob blob = .ok module ∧ first.store.funcs.size ≤ origin.funcs.size ∧
    module.Installed shared origin m.store own ∧ ref = .func (origin.funcs.size + own)

/-- The machine comes after the first one, the trigger is open, and every slot has an entry. -/
structure Ready (first : DispatchMachine σ) (shared : Nat) (m : DispatchMachine σ) : Prop where
  grown : first.host.Grows m.host
  funcs : first.store.funcs.size ≤ m.store.funcs.size
  opened : m.host.shared = some shared
  printing : m.host.println = some printlnAddr
  entries : ∀ (i : FuncId) (state : Slot), m.host.ledger.table.slot? i = some state →
    (m.store.entry? shared i.slot).isSome

/-- What becomes of slots and entries. A slot changes only if it was a stub, and its entry only
together with it; if it was installed, its entry is the function of its unit. -/
structure Orderly (first : DispatchMachine σ) (shared : Nat) (m after : DispatchMachine σ) :
    Prop where
  slots : ∀ i, after.host.ledger.table.slot? i = m.host.ledger.table.slot? i ∨
    m.host.ledger.table.slot? i = some .stub ∧
      (after.host.ledger.table.slot? i = some .compiling ∨
        after.host.ledger.table.slot? i = some .installed)
  retains : m.store.Retains shared (fun k => ∀ i : FuncId, i.slot = k →
    after.host.ledger.table.slot? i = m.host.ledger.table.slot? i) after.store
  installed : ∀ i, m.host.ledger.table.slot? i = some .stub →
    after.host.ledger.table.slot? i = some .installed →
      ∃ ref, after.store.entry? shared i.slot = some ref ∧ InstalledBy first shared after i ref

variable {first m after middle last : DispatchMachine σ} {shared : Nat}

theorem since_grows (grown : m.host.Grows after.host) : since first m <+: since first after := by
  obtain ⟨more, same⟩ := grown.history
  unfold since
  rw [← same, List.drop_append]
  exact List.prefix_append _ _

theorem UnitsKeep.earlier (keep : UnitsKeep first after) (grown : m.host.Grows after.host) :
    UnitsKeep first m :=
  fun i blob module arrived => keep i blob module ((since_grows grown).subset arrived)

theorem InstalledBy.later {i : FuncId} {ref : Ref} {chosen : Nat → Prop}
    (installed : InstalledBy first shared m i ref) (grown : m.host.Grows after.host)
    (retains : m.store.Retains shared chosen after.store) :
    InstalledBy first shared after i ref := by
  obtain ⟨blob, module, origin, own, arrived, built, behind, done, same⟩ := installed
  exact ⟨blob, module, origin, own, (since_grows grown).subset arrived, built, behind,
    done.later retains, same⟩

namespace Orderly

theorem entry (orderly : Orderly first shared m after) {i : FuncId} {ref : Ref}
    (same : after.host.ledger.table.slot? i = m.host.ledger.table.slot? i)
    (found : m.store.entry? shared i.slot = some ref) :
    after.store.entry? shared i.slot = some ref := by
  refine orderly.retains.entry found fun j equal => ?_
  obtain rfl := FuncId.slot_injective equal
  exact same

theorem fixed (orderly : Orderly first shared m after) {i : FuncId}
    (started : m.host.ledger.table.slot? i ≠ some .stub) :
    after.host.ledger.table.slot? i = m.host.ledger.table.slot? i :=
  (orderly.slots i).resolve_right fun changed => started changed.1

/-- A slot that changed is no stub any more. -/
theorem started (orderly : Orderly first shared m after) {i : FuncId}
    (changed : after.host.ledger.table.slot? i ≠ m.host.ledger.table.slot? i) :
    after.host.ledger.table.slot? i ≠ some .stub := by
  rcases (orderly.slots i).resolve_left changed with ⟨_, moved | moved⟩
  · rw [moved]
    exact nofun
  · rw [moved]
    exact nofun

theorem kept (ledger : after.host.ledger = m.host.ledger)
    (retains : m.store.Retains shared (fun _ => True) after.store) :
    Orderly first shared m after where
  slots i := .inl (by rw [ledger])
  retains := retains.mono fun _ _ => trivial
  installed i stub installed := by
    rw [ledger, stub] at installed
    cases installed

/-- A slot is what it was in between if it is what it was in the end. -/
theorem unchanged (head : Orderly first shared m middle) (tail : Orderly first shared middle last)
    {i : FuncId} (same : last.host.ledger.table.slot? i = m.host.ledger.table.slot? i) :
    middle.host.ledger.table.slot? i = m.host.ledger.table.slot? i := by
  by_contra changed
  exact changed ((tail.fixed (head.started changed)).symm.trans same)

theorem trans (head : Orderly first shared m middle) (tail : Orderly first shared middle last)
    (grown : middle.host.Grows last.host) : Orderly first shared m last where
  slots i := by
    by_cases changed : middle.host.ledger.table.slot? i = m.host.ledger.table.slot? i
    · rw [← changed]
      exact tail.slots i
    · rw [tail.fixed (head.started changed)]
      exact head.slots i
  retains := by
    refine (head.retains.mono fun k same i here => ?_).trans
      (tail.retains.mono fun k same i here => ?_)
    · exact head.unchanged tail (same i here)
    · exact (same i here).trans (head.unchanged tail (same i here)).symm
  installed i stub installed := by
    by_cases waiting : middle.host.ledger.table.slot? i = some .stub
    · exact tail.installed i waiting installed
    · have same := tail.fixed waiting
      obtain ⟨ref, found, byUnit⟩ := head.installed i stub (same ▸ installed)
      exact ⟨ref, tail.entry same found, byUnit.later grown tail.retains⟩

theorem note (orderly : Orderly first shared m after) (store : last.store = after.store)
    (ledger : last.host.ledger = after.host.ledger) (grown : after.host.Grows last.host) :
    Orderly first shared m last :=
  orderly.trans (.kept ledger (.of_eq (by rw [store]) (by rw [store]))) grown

theorem reserved {i : FuncId} {ledger : Ledger} (reserved : m.host.ledger.reserve i = .ok ledger)
    (noted : after.host.ledger = ledger)
    (retains : m.store.Retains shared (· ≠ i.slot) after.store) : Orderly first shared m after := by
  obtain ⟨marked, _⟩ := Ledger.reserve_eq_ok_iff.mp reserved
  have stub := (DispatchTable.reserve_eq_ok_iff.mp marked).1
  have slots := DispatchTable.slot?_of_reserve marked
  rw [← noted] at slots
  constructor
  case slots =>
    intro j
    rw [slots j]
    by_cases same : j = i
    · subst same
      exact .inr ⟨stub, .inl (if_pos rfl)⟩
    · exact .inl (if_neg same)
  case retains =>
    refine retains.mono fun k same here => ?_
    have still := same i here.symm
    rw [slots i, if_pos rfl, stub] at still
    cases still
  case installed =>
    intro j stub installed
    rw [slots j, stub] at installed
    split at installed <;> cases installed

/-- A slot that was a stub may be marked as installed once its entry is the function of its unit. -/
theorem recorded (orderly : Orderly first shared m middle) {i : FuncId} {size : Nat}
    {ledger : Ledger}
    {ref : Ref} (stub : m.host.ledger.table.slot? i = some .stub)
    (found : middle.store.entry? shared i.slot = some ref)
    (byUnit : InstalledBy first shared middle i ref)
    (recorded : middle.host.ledger.install ⟨i, size⟩ = .ok ledger)
    (store : last.store = middle.store) (noted : last.host.ledger = ledger)
    (grown : middle.host.Grows last.host) : Orderly first shared m last := by
  have marked := (Ledger.install_eq_ok_iff.mp recorded).1
  have slots := DispatchTable.slot?_of_install marked
  have compiling := (DispatchTable.install_eq_ok_iff.mp marked).1
  rw [← noted] at slots
  have same : middle.store.Retains shared (fun _ => True) last.store :=
    .of_eq (by rw [store]) (by rw [store])
  constructor
  case slots =>
    intro j
    rw [slots j]
    by_cases equal : j = i
    · subst equal
      exact .inr ⟨stub, .inr (if_pos rfl)⟩
    · rw [if_neg equal]
      exact orderly.slots j
  case retains =>
    refine (orderly.retains.mono fun k unchanged j here => ?_).trans
      (same.mono fun _ _ => trivial)
    have still := unchanged j here
    rw [slots j] at still
    by_cases equal : j = i
    · subst equal
      rw [if_pos rfl, stub] at still
      cases still
    · rwa [if_neg equal] at still
  case installed =>
    intro j waiting installed
    rw [slots j] at installed
    by_cases equal : j = i
    · subst equal
      exact ⟨ref, same.entry found trivial, byUnit.later grown same⟩
    · rw [if_neg equal] at installed
      obtain ⟨other, there, done⟩ := orderly.installed j waiting installed
      exact ⟨other, same.entry there trivial, done.later grown same⟩

theorem admitted {service : Service σ} {raw : Int32} {host : HostState σ}
    {answer : Except Session.Fault (Option (FuncId × Bytes))}
    (admitted : Trigger.Admission service raw m.host answer host) :
    Orderly first shared m { m with host } := by
  obtain ⟨same, _⟩ | ⟨i, reserved, _⟩ := admitted.ledger
  · exact .kept same (.refl _)
  · exact .reserved reserved rfl (.refl _)

end Orderly

theorem Ready.next (ready : Ready first shared m) (grown : m.host.Grows after.host)
    (orderly : Orderly first shared m after) : Ready first shared after where
  grown := ready.grown.trans grown
  funcs := Nat.le_trans ready.funcs orderly.retains.size
  opened := grown.shared.trans ready.opened
  printing := grown.println.trans ready.printing
  entries i state found := by
    obtain ⟨earlier, before⟩ : ∃ earlier, m.host.ledger.table.slot? i = some earlier := by
      obtain same | ⟨stub, _⟩ := orderly.slots i
      · exact ⟨state, same ▸ found⟩
      · exact ⟨_, stub⟩
    obtain ⟨ref, there⟩ := Option.isSome_iff_exists.mp (ready.entries i earlier before)
    obtain ⟨next, here, _⟩ := orderly.retains.entries there
    rw [here]
    rfl

/-- Code follows a course, and minds the slots while every unit keeps to its own. -/
def Minds (service : Service σ) (first : DispatchMachine σ) (shared : Nat) (m : DispatchMachine σ)
    (ended : Ending Session.Fault) (after : DispatchMachine σ) : Prop :=
  Follows service m ended after ∧
    (Ready first shared m → UnitsKeep first after → Orderly first shared m after)

theorem minds_conduct (service : Service σ) (first : DispatchMachine σ) (shared : Nat) :
    Conduct (performSparing shared) (Minds service first shared) where
  quiet m := ⟨.quiet _, fun _ _ => .kept rfl (.refl _)⟩
  halted m _ own := ⟨.halted _ own, fun _ _ => .kept rfl (.refl _)⟩
  trans head tail := by
    refine ⟨.trans head.1 tail.1, fun ready keep => ?_⟩
    have one := head.2 ready (keep.earlier tail.1.grows)
    exact one.trans (tail.2 (ready.next head.1.grows one) keep) tail.1.grows
  performed done := ⟨.quiet _, fun _ _ => .kept rfl (performSparing_retains done)⟩
  refused := performSparing_error

/-- A call of the trigger that goes on to load a unit has received it since the first moment. -/
theorem Ready.received {service : Service σ} {raw : Int32} {i : FuncId} {blob : Bytes}
    {host : HostState σ} (ready : Ready first shared m)
    (admitted : Trigger.Admission service raw m.host (.ok (some (i, blob))) host) :
    .received (.unit first.host.compiler i) blob ∈ since first { m with host } := by
  obtain ⟨events, grown, inside⟩ := admitted.received
  rw [(ready.grown.trans admitted.grows).compiler] at inside
  unfold since
  rw [grown, List.drop_append_of_le_length ready.grown.history.length_le]
  exact List.mem_append_right _ inside

section Calls

variable {service : Service σ} {run : Invoker HostFunc (HostState σ) Session.Fault}
  (calls : ∀ addr args, Obeys (Minds service first shared) (run addr args))

include calls

/-- Loading a unit whose slot was just reserved: only this slot may be written, and if the unit is
loaded, it holds the function of the unit. -/
theorem load_orderly {raw : Int32} {i : FuncId} {blob : Bytes} {host : HostState σ}
    (admitted : Trigger.Admission service raw m.host (.ok (some (i, blob))) host)
    (ready : Ready first shared m)
    (keep : UnitsKeep first (FunctionUnit.load run i shared blob { m with host }).2) :
    Orderly first shared m (FunctionUnit.load run i shared blob { m with host }).2 ∧
      ∀ unit, (FunctionUnit.load run i shared blob { m with host }).1 = .ok unit →
        ∃ ref, (FunctionUnit.load run i shared blob { m with host }).2.store.entry? shared i.slot =
            some ref ∧
          InstalledBy first shared (FunctionUnit.load run i shared blob { m with host }).2 i
            ref := by
  obtain ⟨reserved, stub, compiling⟩ := admitted.reserves
  obtain ⟨fault, _, loaded⟩ | ⟨_, module, items, printing, built, wired, links, loaded⟩ :=
    FunctionUnit.load_cases run i shared blob { m with host }
  · rw [loaded]
    exact ⟨.admitted admitted, nofun⟩
  · -- The blob was received, so the unit keeps to its slot.
    have follows := (Course.discipline service).instantiate
      (fun addr args m => (calls addr args m).1)
      module items { m with host }
    rw [loaded] at keep ⊢
    dsimp only at keep ⊢
    have arrived := ready.received admitted
    have keeps : module.KeepsTo i := keep.earlier follows.grows i blob module arrived built
    obtain ⟨entry, there⟩ := Option.isSome_iff_exists.mp (ready.entries i _ stub)
    have made := admitted.grows.println.trans ready.printing
    obtain rfl := Option.some.inj (printing.symm.trans made)
    obtain ⟨rfl, loads⟩ := FunctionUnit.loads_of_links wired links
    obtain ⟨filled, retains, ⟨why, stopped⟩ | ⟨own, installed, slot, runs⟩⟩ :=
      FunctionUnit.Loads.instantiate_kept keeps loads (Store.lt_size_of_entry? there) run
    · rw [stopped] at keep ⊢
      exact ⟨.reserved reserved rfl retains, nofun⟩
    · have head : Orderly first shared m ⟨filled, host⟩ := .reserved reserved rfl retains
      obtain ⟨courses, orderly⟩ := (minds_conduct service first shared).bind
        ((minds_conduct service first shared).runStart calls
          (module.instanceAt (FunctionUnit.supplies module shared) m.store) module.start)
        (fun _ => (minds_conduct service first shared).pure
          (module.instanceAt (FunctionUnit.supplies module shared) m.store)) ⟨filled, host⟩
      rw [runs] at keep ⊢
      have tail := orderly (ready.next admitted.grows head) keep
      refine ⟨head.trans tail courses.grows, fun _ _ => ?_⟩
      have same : _ = host.ledger.table.slot? i := tail.fixed (by
        rw [compiling]
        exact nofun)
      refine ⟨_, tail.entry same slot, .later ?_ courses.grows tail.retains⟩
      exact ⟨blob, module, m.store, own, arrived, built, ready.funcs, installed, rfl⟩

theorem install_orderly {raw : Int32} {i : FuncId} {blob : Bytes} {host : HostState σ}
    (admitted : Trigger.Admission service raw m.host (.ok (some (i, blob))) host)
    (ready : Ready first shared m)
    (keep : UnitsKeep first (Trigger.install run shared i blob { m with host }).2) :
    Orderly first shared m (Trigger.install run shared i blob { m with host }).2 := by
  have load := load_orderly calls admitted ready
  rw [Trigger.install_apply] at keep ⊢
  cases loaded : FunctionUnit.load run i shared blob { m with host } with
  | mk result machine =>
    rw [loaded] at load keep
    cases result with
    | error why => exact (load keep).1
    | ok unit =>
      dsimp only at load keep ⊢
      have noted : machine.host.Grows (machine.host.record (.notice (.installed i unit.size))) :=
        .record _ _
      cases installed : machine.host.ledger.install unit with
      | error refusal =>
        rw [installed] at keep
        exact (load (keep.earlier noted)).1.note rfl rfl noted
      | ok ledger =>
        rw [installed] at keep
        have grown : machine.host.Grows
            { machine.host.record (.notice (.installed i unit.size)) with ledger } :=
          ⟨noted.history, rfl, rfl, rfl, rfl⟩
        obtain ⟨orderly, placed⟩ := load (keep.earlier grown)
        obtain ⟨ref, found, byUnit⟩ := placed unit rfl
        obtain rfl := FunctionUnit.load_answers (congrArg Prod.fst loaded)
        exact orderly.recorded admitted.reserves.2.1 found byUnit installed rfl rfl grown

/-- A call of the trigger minds the slots. -/
theorem fire_minds (raw : Int32) :
    Obeys (Minds service first shared) (Trigger.fire service run raw) := by
  intro m
  refine ⟨Trigger.fire_follows (fun addr args m => (calls addr args m).1) raw m,
    fun ready keep => ?_⟩
  obtain ⟨answer, host, admitted, fired⟩ := Trigger.fire_admitted service run raw m
  rw [ready.opened, Option.getD_some] at fired
  rw [Trigger.settle_eq] at fired
  have grown := HostState.Grows.settle (Trigger.proceed run shared answer { m with host }).2.host
    raw (ending (Trigger.proceed run shared answer { m with host }).1)
  rw [fired] at keep ⊢
  have earlier := keep.earlier grown
  have weighed : Orderly first shared m (Trigger.proceed run shared answer { m with host }).2 := by
    rcases answer with fault | (_ | ⟨i, blob⟩)
    · exact .admitted admitted
    · exact .admitted admitted
    · exact install_orderly calls admitted ready earlier
  exact weighed.note rfl (HostState.ledger_settle _ _ _) grown

theorem dispatchHost_minds (name : HostFunc) (args : List Value) :
    Obeys (Minds service first shared) (dispatchHost service run name args) := by
  have minds := minds_conduct service first shared
  unfold dispatchHost
  split
  · exact minds.bind (fire_minds calls _) fun _ => minds.pure _
  · refine minds.bind (fun m => ⟨.printed m.host _, fun _ _ => ?_⟩) fun _ => minds.pure _
    exact .kept rfl (.refl _)
  · exact minds.stop rfl

end Calls

end Custody

/-- Where an operator would overwrite an entry, the engine that spares the table gets stuck, and
otherwise it does the same. -/
theorem Wasm.performSparing_inStep (table : Nat) :
    OperateInStep (· = .stuck) (performSparing table)
      (perform : Operate HostFunc Session.Fault) := by
  intro inst store frame o
  unfold performSparing
  split
  · exact .inl ⟨.stuck, rfl, rfl⟩
  · exact .inr rfl

theorem Companions.equal (service : Service σ) : Companions service Eq (· = .stuck) where
  recorded _ _ same := by rw [same]
  printed _ same := by rw [same]
  shared same := by rw [same]
  println same := by rw [same]
  ledger same := by rw [same]
  changed _ same := by rw [same]
  obtained i same := by
    subst same
    exact .inr ⟨_, _, _, rfl, rfl, rfl⟩
  passed _ _ stuck := by
    subst stuck
    rfl

namespace Session

variable {service : Service σ} {limits : Limits} {first : DispatchMachine σ} {shared : Nat}

/-- Calls functions of the program, but stops before an operator writes to an entry that the shared
table has. -/
def callSparing (service : Service σ) (limits : Limits) (shared : Nat) :
    Invoker HostFunc (HostState σ) Session.Fault :=
  invokeBy (performSparing shared) (dispatchHost service) limits limits.fuel limits.stack

/-- No operator of the next run writes to an entry that the shared table has: the engine that would
stop before that makes the same of the run. -/
def Spares (service : Service σ) (limits : Limits) (session : Session σ) : Prop :=
  ∀ addr, session.skeleton.entry session.machine.store session.entry = .ok addr →
    callSparing service limits session.skeleton.table addr [] session.announced =
      call service limits addr [] session.announced

/-- A run spares the table unless the sparing engine gets stuck in it. -/
theorem spares_of_unstuck {session : Session σ}
    (unstuck : ∀ addr, session.skeleton.entry session.machine.store session.entry = .ok addr →
      (callSparing service limits session.skeleton.table addr [] session.announced).1 ≠
        .error .stuck) : session.Spares service limits := by
  intro addr found
  have matched := (Companions.equal service).call (performSparing_inStep session.skeleton.table)
    limits limits.fuel limits.stack addr [] session.announced.store
      (x := session.announced.host) rfl
  rw [invokeBy_perform] at matched
  have free := unstuck addr found
  change Matches Eq _ (callSparing service limits session.skeleton.table addr [] session.announced)
    (call service limits addr [] session.announced) at matched
  generalize callSparing service limits session.skeleton.table addr [] session.announced = one
    at matched free ⊢
  generalize call service limits addr [] session.announced = two at matched ⊢
  cases matched with
  | escaped stuck m => exact absurd (congrArg Except.error stuck) free
  | alike result store same => rw [same]

open Custody

/-- A run minds the slots if it spares the table and every unit keeps to its slot. -/
theorem run_orderly {session : Session σ} (spares : session.Spares service limits)
    (ready : Ready first session.skeleton.table session.machine)
    (keep : UnitsKeep first (session.run service limits).2.machine) :
    Orderly first session.skeleton.table session.machine
      (session.run service limits).2.machine := by
  cases found : session.skeleton.entry session.machine.store session.entry with
  | error fault =>
    rw [run_of_entry_error found]
    exact .kept rfl (.refl _)
  | ok addr =>
    obtain ⟨result, machine, ran, called, _⟩ := run_course service limits found
    have noted : session.machine.host.Grows session.announced.host := .record _ _
    have announced : Orderly first session.skeleton.table session.machine session.announced :=
      .kept rfl (.refl _)
    obtain ⟨course, orderly⟩ := (minds_conduct service first session.skeleton.table).invoke
      (fun _ calls => dispatchHost_minds calls) limits limits.fuel limits.stack addr []
      session.announced
    have same := (spares addr found).trans called
    unfold callSparing at same
    rw [same] at course orderly
    have whole : UnitsKeep first machine →
        Orderly first session.skeleton.table session.machine machine := fun earlier =>
      announced.trans (orderly (ready.next noted announced) earlier) course.grows
    rw [ran] at keep ⊢
    obtain ⟨raw, _, ends⟩ | ⟨why, _, ends⟩ := conclude_cases session result machine
    · rw [ends] at keep ⊢
      exact (whole (keep.earlier (.record _ _))).note rfl rfl (.record _ _)
    · rw [ends] at keep ⊢
      exact whole keep

theorem rerun_orderly {runs : Nat} {session : Session σ}
    (spares : ∀ k < runs, (session.rerun service limits k).Spares service limits)
    (ready : Ready first session.skeleton.table session.machine)
    (keep : UnitsKeep first (session.rerun service limits runs).machine) :
    Orderly first session.skeleton.table session.machine
      (session.rerun service limits runs).machine := by
  induction runs generalizing session with
  | zero => exact .kept rfl (.refl _)
  | succ runs ih =>
    have later := rerun_grows service limits runs (session.run service limits).2
    have grown := run_grows service limits session
    have head := run_orderly (spares 0 (Nat.zero_lt_succ _)) ready (keep.earlier later)
    have same := run_skeleton service limits session
    have between : Ready first (session.run service limits).2.skeleton.table
        (session.run service limits).2.machine := same ▸ ready.next grown head
    have tail := ih (fun k few => spares (k + 1) (Nat.succ_lt_succ few)) between keep
    exact head.trans (same ▸ tail) later

/-- After set-up every slot has an entry in the shared table. -/
theorem start_ready {source : String} {settings : Settings} {outside : Outside σ}
    {session : Session σ} (started : start service limits source settings outside = .ok session) :
    Ready session.machine session.skeleton.table session.machine where
  grown := .refl _
  funcs := Nat.le_refl _
  opened := (start_state started).1
  printing := start_println started
  entries i state found := by
    obtain ⟨_, size⟩ := start_table started
    obtain ⟨entries, there, count⟩ := Option.map_eq_some_iff.mp size
    have inside := DispatchTable.lt_size_of_slot? found
    change i.slot < session.state.ledger.table.size at inside
    rw [(start_state started).2] at inside
    change i.slot < (DispatchTable.ofSize session.slotCount).size at inside
    rw [DispatchTable.size_ofSize, ← count] at inside
    rw [Store.entry?_of_table there]
    exact (Array.getElem?_eq_getElem inside).symm ▸ rfl

/-- The slots agree with the shared table between any two runs. As long as no code writes to an
entry that the table has, and every unit keeps to its slot, a stub is the entry that set-up left
there, and an installed slot holds the function that its unit put there. It holds it for good. -/
theorem slots_agree_with_table {source : String} {settings : Settings} {outside : Outside σ}
    {session : Session σ} (started : start service limits source settings outside = .ok session)
    (runs : Nat) (spares : ∀ k < runs, (session.rerun service limits k).Spares service limits)
    (keep : UnitsKeep session.machine (session.rerun service limits runs).machine)
    (i : FuncId) (inside : i.slot < session.slotCount) :
    ∃ ref,
      (session.rerun service limits runs).machine.store.entry? session.skeleton.table i.slot =
        some ref ∧
      ((session.rerun service limits runs).slot? i = some .stub →
        session.machine.store.entry? session.skeleton.table i.slot = some ref) ∧
      ((session.rerun service limits runs).slot? i = some .installed →
        InstalledBy session.machine session.skeleton.table
          (session.rerun service limits runs).machine i ref) ∧
      ∀ earlier ≤ runs, (session.rerun service limits earlier).slot? i = some .installed →
        (session.rerun service limits runs).slot? i = some .installed ∧
          (session.rerun service limits earlier).machine.store.entry? session.skeleton.table
            i.slot = some ref := by
  have ready := start_ready started
  have fresh : session.machine.host.ledger.table.slot? i = some .stub := by
    have ledger := (start_state started).2
    change session.machine.host.ledger = _ at ledger
    rw [ledger]
    exact (DispatchTable.slot?_ofSize _ _).trans (if_pos inside)
  have since := rerun_orderly spares ready keep
  obtain ⟨entry, there⟩ := Option.isSome_iff_exists.mp (ready.entries i _ fresh)
  obtain ⟨ref, here, _⟩ := since.retains.entries there
  refine ⟨ref, here, fun stub => ?_, fun installed => ?_, fun earlier before installed => ?_⟩
  · rw [← here]
    exact there.trans (since.entry (stub.trans fresh.symm) there).symm
  · obtain ⟨other, found, byUnit⟩ := since.installed i fresh installed
    obtain rfl := Option.some.inj (found.symm.trans here)
    exact byUnit
  · obtain ⟨more, rfl⟩ := Nat.exists_eq_add_of_le before
    have later := rerun_grows service limits more (session.rerun service limits earlier)
    rw [rerun_add] at keep here ⊢
    have head := rerun_orderly (fun k few => spares k (by omega)) ready (keep.earlier later)
    have grown := rerun_grows service limits earlier session
    have skeleton := rerun_skeleton service limits earlier session
    have between : Ready session.machine (session.rerun service limits earlier).skeleton.table
        (session.rerun service limits earlier).machine := skeleton ▸ ready.next grown head
    have tail := rerun_orderly
      (fun k few => rerun_add service limits earlier k session ▸ spares _ (by omega)) between keep
    rw [skeleton] at tail
    have started : (session.rerun service limits earlier).machine.host.ledger.table.slot? i ≠
        some .stub := by
      intro stub
      cases stub.symm.trans installed
    have same := tail.fixed started
    obtain ⟨other, found, _⟩ := head.installed i fresh installed
    refine ⟨same.trans installed, ?_⟩
    rw [found, ← here]
    exact (tail.entry same found).symm

end Session

namespace Sample

/-- A unit that puts its first function into the slot of the function. -/
def unit (i : FuncId) (types : Array FuncType) (funcs : List Func) (start : Option Nat) :
    Module where
  types := types
  imports := [⟨"env", "_table", .table ⟨.func, ⟨2, none⟩⟩⟩]
  funcs := funcs
  tables := []
  memories := []
  globals := []
  exports := []
  start := start
  elems := [⟨.func, .active 0 [.const32 i.number], [[.refFunc 0]]⟩]
  datas := []
  dataCount := none

theorem unit_keeps (i : FuncId) (types : Array FuncType) (func : Func) (funcs : List Func)
    (start : Option Nat) : (unit i types (func :: funcs) start).KeepsTo i where
  segments segment inside index offset mode _ _ := by
    obtain rfl := List.mem_singleton.mp inside
    cases mode
    exact ⟨fun _ _ => rfl, 0, Nat.zero_lt_succ _, rfl⟩
  installs := List.cons_ne_nil _ _

theorem ahead_built : Module.ofBlob ahead = .ok (unit ⟨0⟩ #[⟨[], [.i32]⟩, ⟨[], []⟩]
    [⟨0, [], .op (.const32 1) (.op (.callIndirect 0 0) .done)⟩,
      ⟨1, [], .op (.const32 1) (.op (.callIndirect 0 0) (.op .drop .done))⟩] (some 1)) := by
  decide +kernel

theorem seven_built : Module.ofBlob seven = .ok (unit ⟨1⟩ #[⟨[], [.i32]⟩]
    [⟨0, [], .op (.const32 7) .done⟩] none) := by
  decide +kernel

end Sample

namespace Session

open Custody

/-- Both functions are in their slots although the second was installed while the unit of the first
was being loaded. -/
theorem sample_slots_agree :
    ∃ session : Session Unit,
      start Sample.nested.service Sample.limits "" Settings.default ⟨(), Sample.world⟩ =
        .ok session ∧
      session.Spares Sample.nested.service Sample.limits ∧
      UnitsKeep session.machine (session.rerun Sample.nested.service Sample.limits 1).machine ∧
      ∀ i : FuncId, i.slot < 2 → ∃ ref,
        (session.rerun Sample.nested.service Sample.limits 1).machine.store.entry?
          session.skeleton.table i.slot = some ref ∧
        InstalledBy session.machine session.skeleton.table
          (session.rerun Sample.nested.service Sample.limits 1).machine i ref := by
  have seen : ((start Sample.nested.service Sample.limits "" Settings.default
      ⟨(), Sample.world⟩).toOption.map fun session =>
        (session.state.compiler, session.slotCount,
          (session.rerun Sample.nested.service Sample.limits 1).state.ledger.table.slots.toList)) =
      some (⟨2⟩, 2, [.installed, .installed]) := by
    decide +kernel
  have ran : ((start Sample.nested.service Sample.limits "" Settings.default
      ⟨(), Sample.world⟩).toOption.map fun session =>
        ((since session.machine
            (session.rerun Sample.nested.service Sample.limits 1).machine).filterMap
              Event.received?,
          (session.skeleton.entry session.machine.store session.entry).toOption.map fun addr =>
            (callSparing Sample.nested.service Sample.limits session.skeleton.table addr []
              session.announced).1)) =
      some ([(.unit ⟨2⟩ ⟨0⟩, Sample.ahead), (.unit ⟨2⟩ ⟨1⟩, Sample.seven)],
        some (.ok [.i32 7])) := by
    decide +kernel
  obtain ⟨session, started, seen⟩ := exists_ok_of_seen seen
  obtain ⟨compiler, seen⟩ := Prod.mk.inj seen
  obtain ⟨count, slots⟩ := Prod.mk.inj seen
  rw [started] at ran
  obtain ⟨received, answer⟩ := Prod.mk.inj (Option.some.inj ran)
  have spares : session.Spares Sample.nested.service Sample.limits := by
    refine spares_of_unstuck fun addr found stuck => ?_
    rw [found] at answer
    cases stuck.symm.trans (Option.some.inj answer)
  have keep : UnitsKeep session.machine
      (session.rerun Sample.nested.service Sample.limits 1).machine := by
    intro i blob module arrived built
    change session.machine.host.compiler = _ at compiler
    rw [compiler] at arrived
    have among : (.unit ⟨2⟩ i, blob) ∈
        [(Request.unit ⟨2⟩ ⟨0⟩, Sample.ahead), (.unit ⟨2⟩ ⟨1⟩, Sample.seven)] :=
      received ▸ Event.mem_received_iff.mpr arrived
    rcases List.mem_cons.mp among with same | others
    · cases same
      obtain rfl := Except.ok.inj (built.symm.trans Sample.ahead_built)
      exact Sample.unit_keeps _ _ _ _ _
    · cases List.mem_singleton.mp others
      obtain rfl := Except.ok.inj (built.symm.trans Sample.seven_built)
      exact Sample.unit_keeps _ _ _ _ _
  have installed : ∀ i : FuncId, i.slot < 2 →
      (session.rerun Sample.nested.service Sample.limits 1).slot? i = some .installed := by
    intro i inside
    unfold slot? DispatchTable.slot?
    rw [← Array.getElem?_toList, slots]
    generalize i.slot = k at inside ⊢
    obtain rfl | rfl : k = 0 ∨ k = 1 := by omega
    · rfl
    · rfl
  refine ⟨session, started, spares, keep, fun i inside => ?_⟩
  obtain ⟨ref, found, _, byUnit, _⟩ := slots_agree_with_table started 1
    (fun k few => by
      obtain rfl := Nat.lt_one_iff.mp few
      exact spares) keep i (by rw [count]; exact inside)
  exact ⟨ref, found, byUnit (installed i inside)⟩

end Session

end FirstCall
