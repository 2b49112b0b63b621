import FirstCall.Proofs.Preload
import FirstCall.Service.Script

/-!
# Lazy installation is transparent

A program cannot tell whether its functions are installed when they are first called or before it is
run: run by run, a session and the eager one give the same answer and print the same values. Only
the stack shows, as a stub takes some of it while its function runs: the session that installs lazily
can run out of stack where the eager one does not, unless it is given more.
-/

namespace FirstCall

open Wasm

variable {σ : Type} {p : Plan σ} {ready : List FuncId → Outside σ → Prop} {service : Service σ}

theorem Alongside.noted {links : Links} {m m' : DispatchMachine σ}
    (rel : Alongside p ready links m m')
    (supply : Supply service p.origin.host.compiler p.origin.host.dump p.blob p.count ready)
    (notice other : Notice) :
    Alongside p ready links { m with host := m.host.record (.notice notice) }
      { m' with host := m'.host.record (.notice other) } := by
  apply rel.hosts (HostState.Stocked.record supply rel.left _)
    (HostState.Stocked.record supply rel.right _) (fun _ => rfl) (fun _ => rfl)
  rw [HostState.printed_record _ rfl, HostState.printed_record _ rfl]
  exact rel.printed

namespace Session

def runAfter (service : Service σ) (limits : Limits) (session : Session σ) (runs : Nat) :
    Except Fault Int32 × Session σ :=
  (session.rerun service limits runs).run service limits

/-- A run that ended so ran out of stack, or was not followed to its end. -/
def Exhausted (result : Except Fault Int32) : Prop :=
  ∃ entry, result = .error (.stopped entry (.trap .callStackExhausted)) ∨
    result = .error (.stopped entry .unfinished)

/-- A call of a function of the skeleton takes at most so many bytes of the stack. -/
def FramesWithin (session : Session σ) (limits : Limits) (most : Nat) : Prop :=
  ∀ f ∈ session.machine.store.funcs, ∀ inst func, f.body = .guest inst func →
    limits.frame func ≤ most

/-- The runs gave the same answer, and the same values were printed. -/
def Alike (first second : Except Fault Int32 × Session σ) : Prop :=
  first.1 = second.1 ∧ first.2.world.printed = second.2.world.printed

theorem entry_ok {skeleton : Skeleton} {store : Store HostFunc} {name : String} {addr : Nat}
    (found : skeleton.entry store name = .ok addr) :
    skeleton.inst.exportedFunc? name = some addr ∧
      (store.funcs[addr]?).map FuncInst.type = some ⟨[], [.i32]⟩ := by
  unfold Skeleton.entry at found
  split at found
  · cases found
  · next exported =>
    split at found
    · next typed =>
      obtain rfl := Except.ok.inj found
      exact ⟨exported, any_type_iff.mp typed⟩
    · cases found

/-- Two sessions of one program whose machines stand alongside each other. -/
structure Beside (p : Plan σ) (ready : List FuncId → Outside σ → Prop) (s t : Session σ) :
    Prop where
  machines : ∃ links, Alongside p ready links s.machine t.machine
  skeleton : t.skeleton = s.skeleton
  entry : t.entry = s.entry
  exports : ∀ {name addr}, s.skeleton.inst.exportedFunc? name = some addr →
    addr < p.origin.store.funcs.size

namespace Beside

variable {s t : Session σ}

/-- Both sessions find the same entry point, or none. -/
theorem entry_eq (beside : Beside p ready s t) :
    t.skeleton.entry t.machine.store t.entry = s.skeleton.entry s.machine.store s.entry := by
  obtain ⟨links, rel⟩ := beside.machines
  rw [beside.skeleton, beside.entry]
  unfold Skeleton.entry
  cases exported : s.skeleton.inst.exportedFunc? s.entry with
  | none => rfl
  | some addr =>
    obtain ⟨f, g, atF, atG, types⟩ := rel.stores.funcs (rel.base addr (beside.exports exported))
    dsimp only
    rw [atF, atG]
    simp [types]

theorem conclude (beside : Beside p ready s t) {links : Links}
    (supply : Supply service p.origin.host.compiler p.origin.host.dump p.blob p.count ready)
    {machine machine' : DispatchMachine σ} {result result' : Except (Stop Fault) (List Value)}
    (rel : Alongside p ready links machine machine')
    (ends : Together (Values links) result result') :
    (s.conclude (result, machine)).1 = (t.conclude (result', machine')).1 ∧
      Beside p ready (s.conclude (result, machine)).2 (t.conclude (result', machine')).2 := by
  have still : Beside p ready { s with machine } { t with machine := machine' } :=
    ⟨⟨links, rel⟩, beside.skeleton, beside.entry, beside.exports⟩
  have stops : ∀ why, Except.error (runFault s.entry why) = (.error (runFault t.entry why) :
      Except Fault Int32) := by
    intro why
    rw [beside.entry]
  cases ends with
  | error why => exact ⟨stops why, still⟩
  | ok related =>
    rcases related with _ | ⟨head, _ | ⟨next, below⟩⟩
    · exact ⟨stops .stuck, still⟩
    · cases head with
      | i32 raw =>
        exact ⟨rfl, ⟨links, rel.noted supply _ _⟩, beside.skeleton, beside.entry,
          beside.exports⟩
      | _ => exact ⟨stops .stuck, still⟩
    · cases head <;> exact ⟨stops .stuck, still⟩

theorem exhausted_of_spent {machine : DispatchMachine σ}
    {result : Except (Stop Fault) (List Value)} (spent : Spent (ending result)) :
    Exhausted (s.conclude (result, machine)).1 := by
  cases result with
  | ok values => rcases spent with out | out <;> cases out
  | error why =>
    rcases spent with out | out
    · cases out
      exact ⟨_, .inl rfl⟩
    · cases out
      exact ⟨_, .inr rfl⟩

section Runs

variable (sound : p.Sound) (opened : p.origin.host.shared = some p.shared)
  (supply : Supply service p.origin.host.compiler p.origin.host.dump p.blob p.count ready)
  {side : Side} {limits others : Limits} {extra : Nat} (suits : side.Suits limits others)
  (lopsided : side ≠ .neither) (narrow : side = .right → p.Narrow limits extra)
  (enough : side.Enough extra limits.fuel limits.stack others.fuel others.stack)

include sound opened supply suits lopsided narrow enough

/-- One run of both sessions: they end alike, or the side that may do so ran out of stack. -/
theorem run (beside : Beside p ready s t) :
    (side = .left ∧ Exhausted (s.run service limits).1) ∨
    (side = .right ∧ Exhausted (t.run service others).1) ∨
    (s.run service limits).1 = (t.run service others).1 ∧
      Beside p ready (s.run service limits).2 (t.run service others).2 := by
  cases found : s.skeleton.entry s.machine.store s.entry with
  | error fault =>
    rw [run_of_entry_error found, run_of_entry_error (beside.entry_eq.trans found)]
    exact .inr (.inr ⟨rfl, beside⟩)
  | ok addr =>
    obtain ⟨links, rel⟩ := beside.machines
    obtain ⟨exported, typed⟩ := entry_ok found
    have inside := beside.exports exported
    obtain ⟨f, atF, same⟩ := Option.map_eq_some_iff.mp typed
    have count : ([] : List Value).length = f.type.params.length := by
      rw [same]
      rfl
    have calls :
        CallsAgree (Alongside p ready) side (call service limits) (call service others) :=
      calls_agree sound opened supply suits lopsided narrow enough
    have announced : Alongside p ready links s.announced t.announced := rel.noted supply _ _
    have agrees := calls announced (rel.base addr inside) atF count .nil
    rw [run_of_entry found, run_of_entry (beside.entry_eq.trans found)]
    cases ranLeft : call service limits addr [] s.announced with
    | mk result machine =>
      cases ranRight : call service others addr [] t.announced with
      | mk result' machine' =>
        rw [ranLeft, ranRight] at agrees
        rcases agrees with out | ⟨more, _, rel, ends⟩
        · cases side with
          | left => exact .inl ⟨rfl, exhausted_of_spent out⟩
          | right => exact .inr (.inl ⟨rfl, exhausted_of_spent out⟩)
          | neither => exact absurd rfl lopsided
        · exact .inr (.inr (beside.conclude supply rel ends))

/-- Any number of runs of both sessions, of which none on the one side ran out of stack. -/
theorem runAfter (beside : Beside p ready s t) {runs : Nat}
    (left : side = .left → ∀ k ≤ runs, ¬ Exhausted (s.runAfter service limits k).1)
    (right : side = .right → ∀ k ≤ runs, ¬ Exhausted (t.runAfter service others k).1) :
    (s.runAfter service limits runs).1 = (t.runAfter service others runs).1 ∧
      Beside p ready (s.runAfter service limits runs).2 (t.runAfter service others runs).2 := by
  induction runs generalizing s t with
  | zero =>
    rcases run sound opened supply suits lopsided narrow enough beside with ⟨isLeft, out⟩ |
      ⟨isRight, out⟩ | ends
    · exact absurd out (left isLeft 0 (Nat.le_refl 0))
    · exact absurd out (right isRight 0 (Nat.le_refl 0))
    · exact ends
  | succ runs ih =>
    rcases run sound opened supply suits lopsided narrow enough beside with ⟨isLeft, out⟩ |
      ⟨isRight, out⟩ | ⟨_, beside⟩
    · exact absurd out (left isLeft 0 (Nat.zero_le _))
    · exact absurd out (right isRight 0 (Nat.zero_le _))
    · apply ih beside
      · intro isLeft k within
        exact left isLeft (k + 1) (Nat.succ_le_succ within)
      · intro isRight k within
        exact right isRight (k + 1) (Nat.succ_le_succ within)

end Runs

theorem printed (beside : Beside p ready s t) : s.world.printed = t.world.printed := by
  obtain ⟨_, rel⟩ := beside.machines
  exact rel.printed

end Beside

section

variable {units : FuncId → Bytes} {setUp : Limits} {source : String} {settings : Settings}
  {outside : Outside σ} {session : Session σ}
  (started : start service setUp source settings outside = .ok session)
  (installing : session.SelfInstalling units)
  (supply : Supply service session.state.compiler session.state.dump units session.slotCount ready)
  (able : ready [] session.state.outside)

include started installing supply able

theorem beside_eager :
    ∃ stub func unit own, (session.plan units stub func unit own).Sound ∧
      (∀ i : FuncId, i.slot < session.slotCount → i.slot < FuncId.reach →
        (unit i).Provided session.skeleton.table i (func i).type (own i)
          (session.preload units i.slot) (session.eager units).machine.store) ∧
      Beside (session.plan units stub func unit own) ready session (session.eager units) := by
  have : Nonempty Module := ⟨⟨#[], [], [], [], [], [], [], none, [], [], none⟩⟩
  have : Nonempty (FuncInst HostFunc) := ⟨⟨HostFunc.type, .host .println⟩⟩
  choose! stub func unit own installable using installing.stubs
  obtain ⟨links, closed⟩ := start_closed started
  obtain ⟨opened, ledger⟩ := start_state started
  have printing := start_println started
  have fresh : session.Fresh service units ready := ⟨opened, printing, ledger, supply, able⟩
  refine ⟨stub, func, unit, own, plan_sound closed printing installable,
    fun i inside small => eager_provided closed printing installable inside small,
    ⟨_, eager_alongside closed printing installable fresh installing.unwritten⟩, rfl, rfl, ?_⟩
  intro name addr exported
  obtain ⟨f, _, atF, _⟩ := closed.store.linked.funcs (closed.entry exported)
  exact (Array.getElem?_eq_some_iff.mp atF).1

/-- In the eager session each slot that the trigger can be asked for holds the function that the unit
puts there on the first call. As long as the lazy session does not run out of stack, its runs answer
what those of the eager one do on the same stack or a larger one, and the same values are printed.
The same holds as long as the eager session does not run out of stack, if the lazy one has room for
one stub more in each call. -/
theorem lazy_like_eager (limits : Limits) :
    (∀ i : FuncId, i.slot < session.slotCount → i.slot < FuncId.reach →
      (session.eager units).slot? i = some .installed ∧
        ∃ stub func m own,
          Installable session.machine session.skeleton.table i (units i) stub func m own ∧
          m.Provided session.skeleton.table i func.type own (session.preload units i.slot)
            (session.eager units).machine.store) ∧
    (∀ stack fuel runs, limits.stack ≤ stack → limits.fuel ≤ fuel →
      (∀ k ≤ runs, ¬ Exhausted (session.runAfter service limits k).1) →
      Alike (session.runAfter service limits runs)
        ((session.eager units).runAfter service { limits with stack, fuel } runs)) ∧
    ∀ extra stack fuel runs, session.FramesWithin limits extra →
      limits.stack + extra * limits.fuel ≤ stack → 2 * limits.fuel ≤ fuel →
      (∀ k ≤ runs, ¬ Exhausted ((session.eager units).runAfter service limits k).1) →
      Alike (session.runAfter service { limits with stack, fuel } runs)
        ((session.eager units).runAfter service limits runs) := by
  obtain ⟨stub, func, unit, own, sound, provided, beside⟩ :=
    beside_eager started installing supply able
  have opened := (start_state started).1
  refine ⟨fun i inside small => ⟨eager_installed units session inside small, _, _, _, _,
    sound.installable ⟨inside, small⟩, provided i inside small⟩, ?_, ?_⟩
  · intro stack fuel runs larger longer calm
    have suits : Side.left.Suits limits { limits with stack, fuel } := ⟨rfl, rfl, longer⟩
    have enough : Side.left.Enough 0 limits.fuel limits.stack fuel stack := ⟨longer, larger⟩
    obtain ⟨answers, after⟩ := Beside.runAfter sound opened supply suits nofun nofun enough beside
      (fun _ => calm) nofun
    exact ⟨answers, after.printed⟩
  · intro extra stack fuel runs frames larger longer calm
    have suits : Side.right.Suits { limits with stack, fuel } limits :=
      ⟨rfl, rfl, Nat.le_trans (Nat.le_mul_of_pos_left _ Nat.two_pos) longer⟩
    have enough : Side.right.Enough extra fuel stack limits.fuel limits.stack :=
      ⟨longer, .inr larger⟩
    have narrow : (session.plan units stub func unit own).Narrow { limits with stack, fuel } extra :=
      fun covered _ _ isGuest => frames _
        (Array.mem_of_getElem? (sound.installable covered).found) _ _ isGuest
    obtain ⟨answers, after⟩ := Beside.runAfter sound opened supply suits nofun (fun _ => narrow)
      enough beside nofun (fun _ => calm)
    exact ⟨answers, after.printed⟩

end

end Session

namespace Nesting

/-- A skeleton with two functions. The first, which takes nothing, is the entry point; the second
takes a function and three integers. -/
def skeleton : Bytes :=
  [0, 97, 115, 109, 1, 0, 0, 0, 1, 18, 3, 96, 1, 127, 1, 127, 96, 0, 1, 127, 96, 4, 112, 127,
   127, 127, 1, 127, 2, 20, 1, 3, 101, 110, 118, 12, 99, 111, 109, 112, 105, 108, 101, 95, 102,
   117, 110, 99, 0, 0, 3, 3, 2, 1, 2, 4, 4, 1, 112, 0, 2, 7, 17, 2, 4, 109, 97, 105, 110, 0, 1, 6,
   95, 116, 97, 98, 108, 101, 1, 0, 9, 8, 1, 0, 65, 0, 11, 2, 1, 2, 10, 35, 2, 12, 0, 65, 0, 16,
   0, 26, 65, 0, 17, 1, 0, 11, 20, 0, 65, 1, 16, 0, 26, 32, 0, 32, 1, 32, 2, 32, 3, 65, 1, 17, 2,
   0, 11]

/-- The unit of the entry point. It reads the entry of the second slot, and calls the second function
with that entry and with twelve. -/
def outer : Bytes :=
  [0, 97, 115, 109, 1, 0, 0, 0, 1, 13, 2, 96, 0, 1, 127, 96, 4, 112, 127, 127, 127, 1, 127, 2,
   16, 1, 3, 101, 110, 118, 6, 95, 116, 97, 98, 108, 101, 1, 112, 0, 2, 3, 2, 1, 0, 9, 7, 1, 0,
   65, 0, 11, 1, 0, 10, 19, 1, 17, 0, 65, 1, 37, 0, 65, 12, 65, 0, 65, 0, 65, 1, 17, 1, 0, 11]

/-- The unit of the second function. It counts down by calls of the function that it was handed,
through a table of its own. -/
def inner : Bytes :=
  [0, 97, 115, 109, 1, 0, 0, 0, 1, 9, 1, 96, 4, 112, 127, 127, 127, 1, 127, 2, 16, 1, 3, 101,
   110, 118, 6, 95, 116, 97, 98, 108, 101, 1, 112, 0, 2, 3, 2, 1, 0, 4, 4, 1, 112, 0, 1, 9, 7, 1,
   0, 65, 1, 11, 1, 0, 10, 37, 1, 35, 0, 32, 1, 4, 127, 65, 0, 32, 0, 38, 1, 32, 0, 32, 1, 65, 1,
   107, 65, 0, 65, 0, 65, 0, 17, 0, 1, 65, 1, 106, 5, 65, 0, 11, 11]

def blob (i : FuncId) : Bytes := if i = ⟨0⟩ then outer else inner

def script : Script where
  irModule := .ok ⟨1⟩
  compiler _ := .ok ⟨2⟩
  skeleton := .ok skeleton
  units := [(⟨0⟩, .ok outer), (⟨1⟩, .ok inner)]

/-- Room for twenty calls of a function. -/
def limits : Limits := ⟨800, fun _ => 40, fun _ => by decide, 40, 40⟩

def start : Except (Session.Fault × Outside Unit) (Session Unit) :=
  Session.start script.service limits "" Settings.default ⟨(), ⟨FileTree.empty, .kept #[], #[]⟩⟩

def noArgs : FuncType := ⟨[], [.i32]⟩

def handed : FuncType := ⟨[.ref .func, .i32, .i32, .i32], [.i32]⟩

/-- A unit as its blob describes it. -/
def unit (i : FuncId) (types : Array FuncType) (tables : List TableType) (code : Code) :
    Module where
  types := types
  imports := [⟨"env", "_table", .table ⟨.func, ⟨2, none⟩⟩⟩]
  funcs := [⟨0, [], code⟩]
  tables := tables
  memories := []
  globals := []
  exports := []
  start := none
  elems := [⟨.func, .active 0 [.const32 i.number], [[.refFunc 0]]⟩]
  datas := []
  dataCount := none

def zeros (rest : Code) : Code := .op (.const32 0) (.op (.const32 0) rest)

def outerCode : Code :=
  .op (.const32 1) <| .op (.tableGet 0) <| .op (.const32 12) <| zeros <| .op (.const32 1) <|
    .op (.callIndirect 1 0) .done

def innerCode : Code :=
  .op (.localGet 1) <| .ite (.value .i32)
    (.op (.const32 0) <| .op (.localGet 0) <| .op (.tableSet 1) <| .op (.localGet 0) <|
      .op (.localGet 1) <| .op (.const32 1) <| .op (.numeric (.binary .w32 .sub)) <| zeros <|
      .op (.const32 0) <| .op (.callIndirect 0 1) <| .op (.const32 1) <|
      .op (.numeric (.binary .w32 .add)) .done)
    (.op (.const32 0) .done) .done

theorem outer_built : Module.ofBlob outer = .ok (unit ⟨0⟩ #[noArgs, handed] [] outerCode) := by
  decide +kernel

theorem inner_built :
    Module.ofBlob inner = .ok (unit ⟨1⟩ #[handed] [⟨.func, ⟨1, none⟩⟩] innerCode) := by
  decide +kernel

/-- The skeleton as it is laid out. -/
def laid : Instance where
  types := #[HostFunc.type, noArgs, handed]
  funcs := #[0, 2, 3]
  tables := #[0]
  memories := #[]
  globals := #[]
  elems := #[0]
  datas := #[]
  exports := [("main", .func 2), ("_table", .table 0)]

def store : Store HostFunc where
  funcs := #[⟨HostFunc.type, .host .compileTrigger⟩, ⟨HostFunc.type, .host .println⟩,
    ⟨noArgs, .guest laid ⟨1, [], Stub.code ⟨0⟩ 0 1 0 0⟩⟩,
    ⟨handed, .guest laid ⟨2, [], Stub.code ⟨1⟩ 0 2 0 4⟩⟩]
  tables := #[⟨.func, none, #[.func 2, .func 3]⟩]
  memories := #[]
  globals := #[]
  segments := #[.empty]

theorem start_store :
    start.toOption.map (fun session =>
        (session.machine.store.funcs, session.machine.store.tables,
          session.machine.store.memories.size, session.machine.store.globals)) =
      some (store.funcs, store.tables, 0, store.globals) := by
  decide +kernel

theorem start_rest :
    start.toOption.map (fun session =>
        (session.skeleton.table, session.slotCount, session.state.dump.isNone,
          session.machine.store.segments)) =
      some (0, 2, true, store.segments) := by
  decide +kernel

theorem start_ok {session : Session Unit} (started : start = .ok session) :
    session.machine.store = store ∧ session.skeleton.table = 0 ∧ session.slotCount = 2 ∧
      session.state.dump = none := by
  have held := start_store
  have rest := start_rest
  rw [started] at held rest
  obtain ⟨funcs, held⟩ := Prod.mk.inj (Option.some.inj held)
  obtain ⟨tables, held⟩ := Prod.mk.inj held
  obtain ⟨memories, globals⟩ := Prod.mk.inj held
  obtain ⟨table, rest⟩ := Prod.mk.inj (Option.some.inj rest)
  obtain ⟨count, rest⟩ := Prod.mk.inj rest
  obtain ⟨dump, segments⟩ := Prod.mk.inj rest
  refine ⟨?_, table, count, Option.isNone_iff_eq_none.mp dump⟩
  have none : session.machine.store.memories = #[] := Array.eq_empty_of_size_eq_zero memories
  calc session.machine.store
      = ⟨session.machine.store.funcs, session.machine.store.tables,
          session.machine.store.memories, session.machine.store.globals,
          session.machine.store.segments⟩ := rfl
    _ = store := by rw [funcs, tables, none, globals, segments]; rfl

theorem unit_installs {i : FuncId} {types : Array FuncType} {tables : List TableType}
    {type : FuncType} {code : Code} (typed : types[0]? = some type)
    (unwritten : ∀ o ∈ code.ops, o.written? ≠ some 0) :
    (unit i types tables code).Installs i type 0 where
  imports wanted listed := by
    obtain rfl := List.mem_singleton.mp listed
    exact ⟨rfl, .inl rfl⟩
  start := rfl
  func := ⟨_, rfl, typed⟩
  segments := ⟨[], _, [], 0, _, rfl, rfl, Nat.one_pos, fun _ _ => rfl, rfl, nofun⟩
  unwritten func listed o inside k written := by
    obtain rfl := List.mem_singleton.mp listed
    exact Nat.one_le_iff_ne_zero.mpr fun shared => unwritten o inside (shared ▸ written)

/-- A unit of the program can be loaded into its slot. -/
theorem installable {c : DispatchMachine Unit} (held : c.store = store)
    (printing : c.host.println = some printlnAddr) {i : FuncId} {stub : Nat}
    {func : FuncInst HostFunc} {types : Array FuncType} {tables : List TableType} {code : Code}
    (slot : (#[.func 2, .func 3] : Array Ref)[i.slot]? = some (.func stub))
    (found : store.funcs[stub]? = some func) (isStub : IsStub 0 i func)
    (built : Module.ofBlob (blob i) = .ok (unit i types tables code))
    (typed : types[0]? = some func.type) (unwritten : ∀ o ∈ code.ops, o.written? ≠ some 0)
    (fits : ((unit i types tables code).place
      (FunctionUnit.supplies (unit i types tables code) 0) store).isSome = true) :
    Installable c 0 i (blob i) stub func (unit i types tables code) 0 where
  slot := by
    rw [held]
    exact ⟨_, rfl, slot⟩
  found := by
    rw [held]
    exact found
  isStub := isStub
  built := built
  installs := unit_installs typed unwritten
  loads := by
    obtain ⟨after, placed⟩ := Option.isSome_iff_exists.mp fits
    have installs : (unit i types tables code).Installs i func.type 0 :=
      unit_installs typed unwritten
    refine ⟨fun _ _ => Action.stop .stuck, _, _,
      (FunctionUnit.load_ok_iff installs built printing).mpr ⟨?_, rfl, after, ?_, rfl⟩⟩
    · rw [held]
      rfl
    · rw [held]
      exact placed

theorem first_or_second {i : FuncId} (inside : i.slot < 2) : i = ⟨0⟩ ∨ i = ⟨1⟩ := by
  obtain zero | one : i.slot = 0 ∨ i.slot = 1 := by omega
  · exact .inl (FuncId.slot_injective zero)
  · exact .inr (FuncId.slot_injective one)

theorem installing {session : Session Unit} (started : start = .ok session) :
    session.SelfInstalling blob := by
  obtain ⟨held, table, count, _⟩ := start_ok started
  constructor
  · intro i inside
    rw [table]
    rcases first_or_second (count ▸ inside) with rfl | rfl
    · refine ⟨_, _, _, _, installable held (Session.start_println started) rfl rfl
        ⟨laid, _, 0, 1, 0, rfl, rfl, rfl, rfl, rfl⟩ outer_built rfl ?_ ?_⟩
      · decide
      · decide +kernel
    · refine ⟨_, _, _, _, installable held (Session.start_println started) rfl rfl
        ⟨laid, _, 0, 2, 0, rfl, rfl, rfl, rfl, rfl⟩ inner_built rfl ?_ ?_⟩
      · decide
      · decide +kernel
  · intro f listed inst func isGuest o inside k a written
    rw [held] at listed
    simp only [store, List.mem_toArray, List.mem_cons, List.not_mem_nil, or_false] at listed
    have none : o.written? = none := by
      rcases listed with rfl | rfl | rfl | rfl
      · cases isGuest
      · cases isGuest
      · cases isGuest
        exact (by decide : ∀ o ∈ (Stub.code ⟨0⟩ 0 1 0 0).ops, o.written? = none) o inside
      · cases isGuest
        exact (by decide : ∀ o ∈ (Stub.code ⟨1⟩ 0 2 0 4).ops, o.written? = none) o inside
    cases none.symm.trans written

theorem supply (compiler : Service.Compiler) :
    Supply script.service compiler none blob 2 (fun _ _ => True) where
  answers := by
    intro asked outside i _ inside _
    rcases first_or_second inside with rfl | rfl
    · exact ⟨_, rfl, trivial⟩
    · exact ⟨_, rfl, trivial⟩
  records _ _ := trivial
  prints _ _ := trivial

end Nesting

namespace Session

/-- With room for the stubs, the lazy session counts down as the eager one does. -/
theorem sample_like_eager :
    ∃ session : Session Unit,
      Nesting.start = .ok session ∧
      (session.eager Nesting.blob).slot? ⟨1⟩ = some .installed ∧
      session.FramesWithin Nesting.limits 40 ∧
      (session.runAfter Nesting.script.service
          { Nesting.limits with stack := 2400, fuel := 80 } 0).1 = .ok 12 ∧
      (session.runAfter Nesting.script.service
          { Nesting.limits with stack := 2400, fuel := 80 } 0).2.world.printed =
        ((session.eager Nesting.blob).runAfter
          Nesting.script.service Nesting.limits 0).2.world.printed := by
  have eager : Nesting.start.toOption.map (fun session =>
      ((session.eager Nesting.blob).runAfter Nesting.script.service Nesting.limits 0).1) =
        some (.ok 12) := by
    decide +kernel
  obtain ⟨session, started, answer⟩ := exists_ok_of_seen eager
  obtain ⟨_, _, count, dump⟩ := Nesting.start_ok started
  have supply : Supply Nesting.script.service session.state.compiler session.state.dump
      Nesting.blob session.slotCount (fun _ _ => True) := by
    rw [count, dump]
    exact Nesting.supply _
  obtain ⟨present, _, roomy⟩ :=
    lazy_like_eager started (Nesting.installing started) supply trivial Nesting.limits
  have calm : ∀ k ≤ 0, ¬ Exhausted ((session.eager Nesting.blob).runAfter
      Nesting.script.service Nesting.limits k).1 := by
    intro k none
    obtain rfl := Nat.le_zero.mp none
    rintro ⟨entry, out | out⟩
    · cases answer.symm.trans out
    · cases answer.symm.trans out
  have frames : session.FramesWithin Nesting.limits 40 := fun _ _ _ _ _ => Nat.le_refl 40
  obtain ⟨same, printed⟩ := roomy 40 2400 80 0 frames (by decide) (by decide) calm
  refine ⟨session, started, (present ⟨1⟩ ?_ (by decide)).1, frames, same.trans answer, printed⟩
  rw [count]
  decide

/-- With the same stack the lazy session runs out of it where the eager one does not. -/
theorem sample_runs_out :
    ∃ session : Session Unit,
      Nesting.start = .ok session ∧ session.SelfInstalling Nesting.blob ∧
      Supply Nesting.script.service session.state.compiler session.state.dump Nesting.blob
        session.slotCount (fun _ _ => True) ∧
      (session.run Nesting.script.service Nesting.limits).1 =
        .error (.stopped "main" (.trap .callStackExhausted)) ∧
      ((session.eager Nesting.blob).run Nesting.script.service Nesting.limits).1 = .ok 12 := by
  have seen : Nesting.start.toOption.map (fun session =>
      ((session.run Nesting.script.service Nesting.limits).1,
        ((session.eager Nesting.blob).run Nesting.script.service Nesting.limits).1)) =
      some (.error (.stopped "main" (.trap .callStackExhausted)), .ok 12) := by
    decide +kernel
  obtain ⟨session, started, seen⟩ := exists_ok_of_seen seen
  obtain ⟨out, answer⟩ := Prod.mk.inj seen
  obtain ⟨_, _, count, dump⟩ := Nesting.start_ok started
  refine ⟨session, started, Nesting.installing started, ?_, out, answer⟩
  rw [count, dump]
  exact Nesting.supply _

end Session

end FirstCall
