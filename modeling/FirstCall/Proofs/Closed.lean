import FirstCall.Proofs.Loading
import FirstCall.Proofs.SetUp
import FirstCall.Proofs.Stores

/-!
# Closed stores

After set-up everything in the store of a program refers to things in that store only: the store is
linked to itself. The skeleton brings its items in like this, and its start function, which runs
before the trigger is open, agrees with itself.
-/

namespace FirstCall

open Wasm

variable {σ : Type}

namespace Wasm

variable {κ : Type}

/-- Every address is linked to itself at most. -/
structure Links.Diagonal (links : Links) : Prop where
  funcs : ∀ {a b}, links.funcs a b → a = b
  tables : ∀ {a b}, links.tables a b → a = b
  memories : ∀ {a b}, links.memories a b → a = b
  globals : ∀ {a b}, links.globals a b → a = b
  segments : ∀ {a b}, links.segments a b → a = b

theorem OneToOne.of_diagonal {R : Nat → Nat → Prop} (same : ∀ {a b}, R a b → a = b) :
    OneToOne R := by
  intro a b a' b' first second
  rw [same first, same second]

theorem Links.Diagonal.separate {links : Links} (diagonal : links.Diagonal) : links.Separate where
  tables := .of_diagonal diagonal.tables
  memories := .of_diagonal diagonal.memories
  globals := .of_diagonal diagonal.globals
  segments := .of_diagonal diagonal.segments

/-- The items of a store, each linked to itself. -/
def Store.self (s : Store κ) : Links where
  funcs a b := a = b ∧ a < s.funcs.size
  tables a b := a = b ∧ a < s.tables.size
  memories a b := a = b ∧ a < s.memories.size
  globals a b := a = b ∧ a < s.globals.size
  segments a b := a = b ∧ a < s.segments.size

theorem Store.self_diagonal (s : Store κ) : s.self.Diagonal :=
  ⟨fun h => h.1, fun h => h.1, fun h => h.1, fun h => h.1, fun h => h.1⟩

/-- The items of a store refer to linked items only, and all functions are linked. -/
structure Store.Closed (links : Links) (s : Store κ) : Prop where
  linked : s.Linked links s
  funcs : ∀ {a f}, s.funcs[a]? = some f → links.funcs a a ∧ f.Twin links (fun _ => False) f

end Wasm

/-- Calls of the trigger before it is open are refused. -/
theorem Trigger.fire_early (service : Service σ)
    (run : Invoker HostFunc (HostState σ) Session.Fault) {m : DispatchMachine σ}
    (unready : m.host.shared = none) (raw : Int32) :
    fire service run raw m = (.error (.failed .tooEarly),
      { m with host := (m.host.enter raw).record (.settled raw (.error .tooEarly)) }) := by
  rw [fire_of_admitted run (.tooEarly unready), settle_eq]
  rfl

section Hosts

variable {R : Links → DispatchMachine σ → DispatchMachine σ → Prop} {side : Side} {links : Links}
  {service : Service σ}

/-- The functions of the dispatcher agree with themselves if the trigger does and if printing keeps
the machines related. -/
theorem hosts_agree {callee other : Invoker HostFunc (HostState σ) Session.Fault}
    {name : HostFunc} (fires : ∀ raw, Agree R side links (fun _ _ _ => True)
      (Trigger.fire service callee raw) (Trigger.fire service other raw))
    (prints : name = .println → ∀ {m m'} (value : Int32), R links m m' →
      R links { m with host := m.host.print value } { m' with host := m'.host.print value })
    {args others : List Value} (same : Values links args others) :
    Agree R side links Values (dispatchHost service callee name args)
      (dispatchHost service other name others) := by
  intro m m' rel
  have zero : ∀ more : Links, Values more [.i32 0] [.i32 0] := fun _ => .cons (.i32 0) .nil
  match same with
  | .nil => cases name <;> exact Agrees.stop rel .stuck
  | .cons head (.cons _ _) =>
    cases head <;> cases name <;> exact Agrees.stop rel .stuck
  | .cons head .nil =>
    cases head with
    | i32 raw =>
      cases name with
      | compileTrigger =>
        apply Agrees.bind (fires raw.toInt32 m m' rel)
        intro more _ _ _ _ m m' rel
        exact Agrees.answer rel (zero more)
      | println => exact Agrees.answer (prints rfl raw.toInt32 rel) (zero links)
    | _ => cases name <;> exact Agrees.stop rel .stuck

end Hosts

/-- What a host keeps before the trigger is open, unless something is printed. -/
structure HostState.Early (kept : HostState σ → Prop) : Prop where
  unready : ∀ {host}, kept host → host.shared = none
  record : ∀ {host} (event : Event), event.printed? = none → kept host → kept (host.record event)

/-- Two machines with the same functions and linked stores, on which the trigger is not open. -/
structure Unopened (links : Links) (funcs : Array (FuncInst HostFunc))
    (kept : HostState σ → Prop) (more : Links) (m m' : DispatchMachine σ) : Prop where
  same : more = links
  stores : m.store.Linked links m'.store
  left : m.store.funcs = funcs
  right : m'.store.funcs = funcs
  keeps : kept m.host
  keeps' : kept m'.host

namespace Unopened

variable {links more : Links} {funcs : Array (FuncInst HostFunc)} {kept : HostState σ → Prop}
  {m m' : DispatchMachine σ} {side : Side}

theorem hosts (rel : Unopened links funcs kept more m m') {host host' : HostState σ}
    (keeps : kept host) (keeps' : kept host') :
    Unopened links funcs kept more { m with host } { m' with host := host' } :=
  ⟨rel.same, rel.stores, rel.left, rel.right, keeps, keeps'⟩

theorem outlasting (separate : links.Separate) :
    Outlasting (Unopened links funcs kept) (fun _ => False) where
  stores rel := rel.same ▸ rel.stores
  moved rel change := by
    obtain ⟨rfl, stores, left, right, keeps, keeps'⟩ := rel
    obtain ⟨sameFuncs, sameOthers⟩ := change.funcs
    exact ⟨rfl, change.linked separate stores, sameFuncs.trans left, sameOthers.trans right,
      keeps, keeps'⟩

section Calls

variable {service : Service σ} (early : HostState.Early kept) (diagonal : links.Diagonal)
  (twins : ∀ {a : Nat} {f : FuncInst HostFunc}, funcs[a]? = some f → links.funcs a a →
    f.Twin links (fun _ => False) f)
  (prints : ∀ {a : Nat} {type : FuncType}, funcs[a]? = some ⟨type, .host .println⟩ →
    links.funcs a a → ∀ {host : HostState σ} (value : Int32), kept host → kept (host.print value))

include early in
theorem fire_agrees (run other : Invoker HostFunc (HostState σ) Session.Fault) (raw : Int32) :
    Agree (Unopened links funcs kept) side more (fun _ _ _ => True) (Trigger.fire service run raw)
      (Trigger.fire service other raw) := by
  intro m m' rel
  have still : ∀ {host}, kept host →
      kept ((host.enter raw).record (.settled raw (.error .tooEarly))) :=
    fun keeps => early.record _ rfl (early.record _ rfl keeps)
  rw [Trigger.fire_early service run (early.unready rel.keeps),
    Trigger.fire_early service other (early.unready rel.keeps')]
  exact Agrees.stop (rel.hosts (still rel.keeps) (still rel.keeps')) _

include diagonal twins in
theorem twin_of_place (rel : Unopened links funcs kept more m m') {a b : Nat}
    (place : more.funcs a b) :
    ∃ f g, m.store.funcs[a]? = some f ∧ m'.store.funcs[b]? = some g ∧
      f.Twin more (fun _ => False) g := by
  obtain ⟨rfl, stores, left, right, _, _⟩ := rel
  obtain ⟨f, g, atF, atG, _⟩ := stores.funcs place
  obtain rfl := diagonal.funcs place
  rw [left] at atF
  rw [right] at atG
  obtain rfl := Option.some.inj (atF.symm.trans atG)
  exact ⟨f, f, left ▸ atF, right ▸ atF, twins atF place⟩

include early diagonal prints in
theorem hosts_agree :
    HostsAgree (Unopened links funcs kept) side (dispatchHost service) := by
  intro callee other _ more m m' a b type name args others rel place atA same
  refine FirstCall.hosts_agree (fun raw => fire_agrees early callee other raw) ?_ same m m' rel
  rintro rfl n n' value later
  obtain ⟨rfl, _, left, _⟩ := rel
  obtain rfl := diagonal.funcs place
  exact later.hosts (prints (left ▸ atA) place value later.keeps)
    (prints (left ▸ atA) place value later.keeps')

include early diagonal twins prints

/-- Before the trigger is open, every call agrees with itself. -/
theorem calls_agree {limits : Limits} {fuel room other otherRoom : Nat}
    (enough : Side.neither.Enough 0 fuel room other otherRoom) :
    CallsAgree (Unopened links funcs kept) .neither
      (invoke (dispatchHost service) limits fuel room)
      (invoke (dispatchHost service) limits other otherRoom) :=
  invoke_agrees (outlasting diagonal.separate) (.refl _ limits) (fun _ _ => False)
    (fun rel place => .inl (rel.twin_of_place diagonal twins place))
    (hosts_agree early diagonal prints) (fun _ _ _ _ _ _ _ _ _ _ _ absurd => absurd.elim) enough

variable (service) in
theorem runStart (limits : Limits) {inst : Instance} (start : Option Nat)
    (insts : inst.Linked links inst) (rel : Unopened links funcs kept links m m) :
    Unopened links funcs kept links (runStart (Session.call service limits) inst start m).2
      (Wasm.runStart (Session.call service limits) inst start m).2 := by
  unfold Wasm.runStart
  cases start with
  | none => exact rel
  | some index =>
    dsimp only
    obtain ⟨missing, _⟩ | ⟨a, b, found, _, place⟩ := option_rel_cases (insts.funcs index)
    · rw [missing]
      exact rel
    · obtain rfl := diagonal.funcs place
      rw [found]
      dsimp only
      rw [Action.bind_apply]
      have called : Unopened links funcs kept links (Session.call service limits a [] m).2
          (Session.call service limits a [] m).2 := by
        unfold Session.call
        cases limits.fuel with
        | zero => exact rel
        | succ fuel =>
          -- Calls agree if they get as many arguments as they take, but nothing here tells how many
          -- the start function takes. Twins agree on any arguments.
          obtain ⟨f, g, atF, atG, twin⟩ := rel.twin_of_place diagonal twins place
          have enough : Side.neither.Enough 0 fuel limits.stack fuel limits.stack := ⟨rfl, rfl⟩
          obtain out | ⟨more, _, after, _⟩ := twins_agree (outlasting diagonal.separate)
            (.refl _ limits) enough (calls_agree early diagonal twins prints)
            (hosts_agree early diagonal prints) rel place atF atG twin .nil
          · exact out.elim
          · exact after.same ▸ after
      cases ran : Session.call service limits a [] m with
      | mk result after =>
        rw [ran] at called
        cases result with
        | ok results => exact called
        | error why => exact called

end Calls

end Unopened

namespace Skeleton

variable {module : Module}

theorem func_of_links {s : Store HostFunc}
    (fits : s.links module (module.imports.map fun _ => .func triggerAddr) = true) :
    ∀ wanted ∈ module.imports, ∃ index, wanted.type = .func index := by
  intro wanted listed
  have paired : (wanted, Extern.func triggerAddr) ∈
      module.imports.zip (module.imports.map fun _ => .func triggerAddr) := by
    have both := List.zip_map' (l := module.imports) (f := id)
      (g := fun _ => Extern.func triggerAddr)
    rw [List.map_id] at both
    rw [both]
    exact List.mem_map.mpr ⟨wanted, listed, rfl⟩
  have fit := List.all_eq_true.mp (Bool.and_eq_true_iff.mp fits).2 _ paired
  unfold Store.fits at fit
  cases kind : wanted.type with
  | func index => exact ⟨index, rfl⟩
  | _ => simp [kind] at fit

theorem fixed_of_links {blob : Bytes} (built : Module.ofBlob blob = .ok module)
    {s : Store HostFunc}
    (fits : s.links module (module.imports.map fun _ => .func triggerAddr) = true) :
    module.Fixed := by
  apply Module.fixed_of_check (Module.check_of_ofBlob built)
  unfold Module.importedGlobals
  apply List.filterMap_eq_nil_iff.mpr
  intro wanted listed
  obtain ⟨index, kind⟩ := func_of_links fits wanted listed
  rw [kind]

abbrev triggers (module : Module) : List Extern := module.imports.map fun _ => .func triggerAddr

abbrev laid (module : Module) : Instance := module.instanceAt (triggers module) dispatchStore

/-- Each item of the store and of the skeleton, linked to itself. -/
abbrev links (module : Module) : Links := (module.allocate (laid module) dispatchStore).self

/-- The skeleton refers to linked items only, if its own are linked and the trigger is. -/
theorem laid_linked {more : Links} (fresh : Links.fresh module dispatchStore dispatchStore ≤ more)
    (trigger : more.funcs triggerAddr triggerAddr) :
    (laid module).Linked more (laid module) := by
  have only : ∀ item ∈ triggers module, item = .func triggerAddr := by
    intro item listed
    obtain ⟨_, _, rfl⟩ := List.mem_map.mp listed
    rfl
  refine instanceAt_linked fresh (fun a listed => ?_) (fun a listed => ?_)
    (fun a listed => ?_) (fun a listed => ?_)
  · cases only _ listed
    exact trigger
  · cases only _ listed
  · cases only _ listed
  · cases only _ listed

theorem fresh_le (module : Module) :
    Links.fresh module dispatchStore dispatchStore ≤ links module := by
  refine ⟨?_, ?_, ?_, ?_, ?_⟩
  · rintro a b ⟨k, inside, rfl, rfl⟩
    exact ⟨rfl, by simpa [Module.allocate] using inside⟩
  · rintro a b ⟨k, inside, rfl, rfl⟩
    exact ⟨rfl, by simpa [Module.allocate] using inside⟩
  · rintro a b ⟨k, inside, rfl, rfl⟩
    exact ⟨rfl, by simpa [Module.allocate] using inside⟩
  · rintro a b ⟨k, inside, rfl, rfl⟩
    exact ⟨rfl, by simpa [Module.allocate] using inside⟩
  · rintro a b ⟨k, inside, rfl, rfl⟩
    exact ⟨rfl, by simpa [Module.allocate] using inside⟩

theorem trigger_linked (module : Module) : (links module).funcs triggerAddr triggerAddr := by
  refine ⟨rfl, ?_⟩
  simp [Module.allocate, dispatchStore, Store.ofHost, triggerAddr]

theorem tables_offset : Offset (laid module).tables 0 0 module.tables.length := by
  have none : (triggers module).filterMap Extern.table? = [] := by simp [Extern.table?]
  have offset := Module.addresses_offset ((triggers module).filterMap Extern.table?)
    dispatchStore.tables.size module.tables.length
  change Offset (Module.addresses ((triggers module).filterMap Extern.table?) _ _) _ _ _
  rw [none] at offset ⊢
  exact offset

theorem memories_offset : Offset (laid module).memories 0 0 module.memories.length := by
  have none : (triggers module).filterMap Extern.memory? = [] := by simp [Extern.memory?]
  have offset := Module.addresses_offset ((triggers module).filterMap Extern.memory?)
    dispatchStore.memories.size module.memories.length
  change Offset (Module.addresses ((triggers module).filterMap Extern.memory?) _ _) _ _ _
  rw [none] at offset ⊢
  exact offset

theorem place_linked (fixed : module.Fixed) {more : Links} (small : more ≤ links module)
    (insts : (laid module).Linked more (laid module)) {store : Store HostFunc}
    (placed : module.place (triggers module) dispatchStore = some store) :
    store.Linked more store ∧
      store.funcs = (module.allocate (laid module) dispatchStore).funcs := by
  obtain ⟨tables, filled, placed⟩ := Option.bind_eq_some_iff.mp placed
  obtain ⟨memories, written, same⟩ := Option.bind_eq_some_iff.mp placed
  obtain rfl := Option.some.inj same
  have ownTables := option_rel_some (elems_filled (s := module.allocate (laid module) dispatchStore)
    (t := module.allocate (laid module) dispatchStore) fixed.elems
    (fun _ _ index _ _ => Nat.zero_le index) insts.funcs tables_offset tables_offset
    (newTables_owned module.tables dispatchStore.tables dispatchStore.tables)) filled filled
  have ownMemories := option_rel_some (datas_filled
    (s := module.allocate (laid module) dispatchStore)
    (t := module.allocate (laid module) dispatchStore) fixed.datas insts.funcs memories_offset
    memories_offset
    (newMemories_owned module.memories dispatchStore.memories dispatchStore.memories))
    written written
  have ownGlobals := newGlobals_owned (s := dispatchStore) (t := dispatchStore) fixed.globals
    insts.funcs dispatchStore.globals dispatchStore.globals
  have ownSegments := newSegments_owned (s := dispatchStore) (t := dispatchStore) fixed
    insts.funcs dispatchStore.segments dispatchStore.segments
  obtain ⟨smallFuncs, smallTables, smallMemories, smallGlobals, smallSegments⟩ := small
  refine ⟨⟨fun {a b} place => ?_, fun {a b} place => ?_, fun {a b} place => ?_,
    fun {a b} place => ?_, fun {a b} place => ?_⟩, rfl⟩
  · obtain ⟨rfl, inside⟩ := smallFuncs a b place
    exact ⟨_, _, Array.getElem?_eq_getElem inside, Array.getElem?_eq_getElem inside, rfl⟩
  · obtain ⟨rfl, inside⟩ := smallTables a b place
    have below : a < module.tables.length := by
      simpa [Module.allocate, dispatchStore, Store.ofHost, Store.empty] using inside
    obtain ⟨x, y, atX, atY, same⟩ := ownTables.owned a below
    rw [Nat.zero_add] at atX atY
    exact ⟨x, y, atX, atY, same⟩
  · obtain ⟨rfl, inside⟩ := smallMemories a b place
    have below : a < module.memories.length := by
      simpa [Module.allocate, dispatchStore, Store.ofHost, Store.empty] using inside
    obtain ⟨z, _, atZ, _, rfl⟩ := ownMemories.owned a below
    rw [Nat.zero_add] at atZ
    exact ⟨z, atZ, atZ⟩
  · obtain ⟨rfl, inside⟩ := smallGlobals a b place
    have below : a < module.globals.length := by
      simpa [Module.allocate, dispatchStore, Store.ofHost, Store.empty] using inside
    obtain ⟨x, y, atX, atY, same⟩ := ownGlobals a below
    have start : dispatchStore.globals.size = 0 := rfl
    rw [start, Nat.zero_add] at atX atY
    exact ⟨x, y, atX, atY, same⟩
  · obtain ⟨rfl, inside⟩ := smallSegments a b place
    have below : a < module.elems.length + module.datas.length := by
      simpa [Module.allocate, dispatchStore, Store.ofHost, Store.empty] using inside
    obtain ⟨x, y, atX, atY, same⟩ := ownSegments a below
    have start : dispatchStore.segments.size = 0 := rfl
    rw [start, Nat.zero_add] at atX atY
    exact ⟨x, y, atX, atY, same⟩

theorem allocated_twin {more : Links} (insts : (laid module).Linked more (laid module)) {a : Nat}
    {f : FuncInst HostFunc}
    (found : (module.allocate (laid module) dispatchStore).funcs[a]? = some f) :
    f.Twin more (fun _ => False) f := by
  rcases Array.mem_append.mp (Array.mem_of_getElem? found) with given | made
  · obtain ⟨⟨type, name⟩, _, rfl⟩ := List.mem_map.mp (List.mem_toArray.mp given)
    exact .host type name
  · obtain ⟨func, _, rfl⟩ := List.mem_map.mp (List.mem_toArray.mp made)
    exact .guest _ insts fun _ _ _ _ _ _ h => h

/-- Placing the skeleton makes a closed store. -/
theorem place_closed (fixed : module.Fixed) {store : Store HostFunc}
    (placed : module.place (triggers module) dispatchStore = some store) :
    store.Closed (links module) ∧
      store.funcs = (module.allocate (laid module) dispatchStore).funcs := by
  have insts := laid_linked (fresh_le module) (trigger_linked module)
  obtain ⟨linked, funcs⟩ := place_linked fixed (links module).le_refl insts placed
  refine ⟨⟨linked, fun found => ?_⟩, funcs⟩
  rw [funcs] at found
  exact ⟨⟨rfl, (Array.getElem?_eq_some_iff.mp found).1⟩, allocated_twin insts found⟩

theorem exported_table_linked {name : String} {addr : Nat}
    (exported : (laid module).exportedTable? name = some addr) :
    (links module).tables addr addr := by
  obtain ⟨k, inside⟩ := Array.mem_iff_getElem?.mp (mem_tables_of_exported exported)
  exact option_rel_some ((laid_linked (fresh_le module) (trigger_linked module)).tables k)
    inside inside

theorem exported_func_linked {name : String} {addr : Nat}
    (exported : (laid module).exportedFunc? name = some addr) :
    (links module).funcs addr addr := by
  obtain ⟨k, inside⟩ := Array.mem_iff_getElem?.mp (mem_funcs_of_exported exported)
  exact option_rel_some ((laid_linked (fresh_le module) (trigger_linked module)).funcs k)
    inside inside

end Skeleton

namespace Session

/-- Everything in the store of the session refers to things in that store, among it the
functions of the dispatcher, the shared table and whatever function is the entry point. -/
structure Closed (session : Session σ) (links : Links) : Prop where
  diagonal : links.Diagonal
  store : session.machine.store.Closed links
  table : links.tables session.skeleton.table session.skeleton.table
  entry : ∀ {name addr}, session.skeleton.inst.exportedFunc? name = some addr →
    links.funcs addr addr
  trigger : session.machine.store.funcs[triggerAddr]? =
    some ⟨HostFunc.type, .host .compileTrigger⟩
  println : session.machine.store.funcs[printlnAddr]? = some ⟨HostFunc.type, .host .println⟩

theorem start_closed {service : Service σ} {limits : Limits} {source : String}
    {settings : Settings} {outside : Outside σ} {session : Session σ}
    (started : start service limits source settings outside = .ok session) :
    ∃ links, session.Closed links := by
  obtain ⟨compiler, blob, prepared, loaded, _, found, machine, _⟩ := start_ok started
  obtain ⟨module, middle, built, _, fits, ran, exported, _, rfl⟩ := Skeleton.load_ok found
  have fixed := Skeleton.fixed_of_links built fits
  obtain ⟨store, placed, isLaid, started⟩ := (Module.instantiate_ok_iff fixed).mp ran
  obtain ⟨closed, funcs⟩ := Skeleton.place_closed fixed placed
  have diagonal := Store.self_diagonal (module.allocate (Skeleton.laid module) dispatchStore)
  have insts := Skeleton.laid_linked (Skeleton.fresh_le module) (Skeleton.trigger_linked module)
  rw [isLaid] at exported started
  have before : Unopened (Skeleton.links module) store.funcs (fun host => host.shared = none)
      (Skeleton.links module)
      ⟨store, HostState.fresh prepared compiler (settings.dump.map DumpDir.mk)⟩
      ⟨store, HostState.fresh prepared compiler (settings.dump.map DumpDir.mk)⟩ :=
    ⟨rfl, closed.linked, rfl, rfl, rfl, rfl⟩
  have early : HostState.Early fun host : HostState σ => host.shared = none :=
    ⟨fun unready => unready, fun _ _ unready => unready⟩
  have after : Unopened (Skeleton.links module) store.funcs (fun host => host.shared = none)
      (Skeleton.links module) middle middle := by
    have leaves := Unopened.runStart service early diagonal
      (fun found _ => (closed.funcs found).2) (fun _ _ _ _ unready => unready) limits module.start
      insts before
    rw [started] at leaves
    exact leaves
  have known : ∀ a < dispatchStore.funcs.size, store.funcs[a]? = dispatchStore.funcs[a]? := by
    intro a below
    rw [funcs]
    exact Array.getElem?_append_left below
  refine ⟨Skeleton.links module, diagonal, ⟨?_, ?_⟩, Skeleton.exported_table_linked exported,
    fun called => Skeleton.exported_func_linked (isLaid ▸ called), ?_, ?_⟩
  · rw [machine]
    exact after.stores
  · rw [machine]
    intro a f found
    exact closed.funcs (after.left ▸ found)
  · rw [machine]
    dsimp only
    rw [after.left, known _ (by decide)]
    rfl
  · rw [machine]
    dsimp only
    rw [after.left, known _ (by decide)]
    rfl

end Session

end FirstCall
