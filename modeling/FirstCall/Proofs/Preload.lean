import FirstCall.Proofs.Detours
import FirstCall.Proofs.Sparing

/-!
# Preloading

The eager session has the unit of every function instantiated before it is run. Neither the trigger
nor the service takes part in that: the units are placed in the store one after the other. Each one
puts its function into its slot and adds its items behind all others; everything else in the store
stays as it was.
-/

namespace FirstCall

open Wasm

variable {σ : Type}

def FuncId.ofNat (number : Nat) : FuncId := ⟨UInt32.ofNat number⟩

theorem FuncId.slot_ofNat {number : Nat} (small : number < reach) :
    (ofNat number).slot = number := by
  unfold reach at small
  unfold ofNat slot
  rw [UInt32.toNat_ofNat']
  omega

/-- The store once the module in a blob was instantiated in it, with the shared table and the
printing function for its imports. No code runs. -/
def FunctionUnit.embed (shared : Nat) (blob : Bytes) (store : Store HostFunc) : Store HostFunc :=
  match Module.ofBlob blob with
  | .error _ => store
  | .ok m =>
    let idle : Invoker HostFunc Unit Empty := fun _ _ => Action.stop .stuck
    (instantiate idle m (supplies m shared) ⟨store, ()⟩).2.store

/-- The slot in the table leads to the function `own` of the module, of the given type, in the
instance that was placed behind what the early store holds. -/
structure Wasm.Module.Provided (m : Module) (shared : Nat) (i : FuncId) (type : FuncType)
    (own : Nat) (early store : Store HostFunc) : Prop where
  entry : store.entry? shared i.slot = some (.func (early.funcs.size + own))
  func : ∃ body, m.funcs[own]? = some body ∧ store.funcs[early.funcs.size + own]? =
    some ⟨type, .guest (m.instanceAt (FunctionUnit.supplies m shared) early) body⟩

/-- The ledger of a program with so many functions, the first of which are installed. -/
def Ledger.preloaded (units : FuncId → Bytes) (size installed : Nat) : Ledger where
  table := ⟨Array.replicate installed .installed ++ Array.replicate (size - installed) .stub,
    (Array.range installed).map .ofNat⟩
  units := (Array.range installed).map fun k => ⟨.ofNat k, (units (.ofNat k)).length⟩

theorem Ledger.slot?_preloaded (units : FuncId → Bytes) {size installed : Nat}
    (within : installed ≤ size) (i : FuncId) :
    (preloaded units size installed).table.slot? i =
      if i.slot < installed then some .installed else if i.slot < size then some .stub else none := by
  unfold preloaded DispatchTable.slot?
  dsimp only
  rw [Array.getElem?_append, Array.getElem?_replicate, Array.getElem?_replicate,
    Array.size_replicate]
  split
  · rfl
  · congr 1
    exact propext (by omega)

theorem Ledger.size_preloaded (units : FuncId → Bytes) {size installed : Nat}
    (within : installed ≤ size) : (preloaded units size installed).table.size = size := by
  simp [preloaded, DispatchTable.size, within]

namespace Session

/-- The store of the session with the units of so many functions, the first one first. -/
def preload (units : FuncId → Bytes) (session : Session σ) : Nat → Store HostFunc
  | 0 => session.machine.store
  | count + 1 => FunctionUnit.embed session.skeleton.table (units (.ofNat count))
      (session.preload units count)

/-- The session with the unit of every function that the trigger can be asked for. -/
def eager (units : FuncId → Bytes) (session : Session σ) : Session σ :=
  let installed := min session.slotCount FuncId.reach
  let ledger := Ledger.preloaded units session.slotCount installed
  { session with machine := ⟨session.preload units installed, { session.state with ledger }⟩ }

end Session

/-- The later store holds what the first one held, at the same addresses, but for the shared
table. -/
structure Wasm.Store.Later (shared : Nat) (s t : Store HostFunc) : Prop where
  within : s.Within t
  funcs : ∀ a < s.funcs.size, t.funcs[a]? = s.funcs[a]?
  tables : ∀ a < s.tables.size, a ≠ shared → t.tables[a]? = s.tables[a]?
  memories : ∀ a < s.memories.size, t.memories[a]? = s.memories[a]?
  globals : ∀ a < s.globals.size, t.globals[a]? = s.globals[a]?
  segments : ∀ a < s.segments.size, t.segments[a]? = s.segments[a]?

namespace Wasm.Store

variable {shared : Nat} {s t u : Store HostFunc}

theorem Within.trans (head : s.Within t) (tail : t.Within u) : s.Within u :=
  ⟨Nat.le_trans head.funcs tail.funcs, Nat.le_trans head.tables tail.tables,
    Nat.le_trans head.memories tail.memories, Nat.le_trans head.globals tail.globals,
    Nat.le_trans head.segments tail.segments⟩

theorem Later.refl (shared : Nat) (s : Store HostFunc) : s.Later shared s :=
  ⟨⟨Nat.le_refl _, Nat.le_refl _, Nat.le_refl _, Nat.le_refl _, Nat.le_refl _⟩, fun _ _ => rfl,
    fun _ _ _ => rfl, fun _ _ => rfl, fun _ _ => rfl, fun _ _ => rfl⟩

theorem Later.trans (head : s.Later shared t) (tail : t.Later shared u) : s.Later shared u where
  within := head.within.trans tail.within
  funcs a below :=
    (tail.funcs a (Nat.lt_of_lt_of_le below head.within.funcs)).trans (head.funcs a below)
  tables a below other :=
    (tail.tables a (Nat.lt_of_lt_of_le below head.within.tables) other).trans
      (head.tables a below other)
  memories a below :=
    (tail.memories a (Nat.lt_of_lt_of_le below head.within.memories)).trans (head.memories a below)
  globals a below :=
    (tail.globals a (Nat.lt_of_lt_of_le below head.within.globals)).trans (head.globals a below)
  segments a below :=
    (tail.segments a (Nat.lt_of_lt_of_le below head.within.segments)).trans (head.segments a below)

theorem Later.of_placed {m : Module} {i : FuncId} {own : Nat}
    (placed : FunctionUnit.Placed m i own shared s t) : s.Later shared t where
  within := by
    refine ⟨?_, ?_, ?_, ?_, ?_⟩
    · simp [placed.funcs]
    · simp [placed.tables.size]
    · simp [placed.memories.size]
    · simp [placed.globals]
    · simp [placed.segments]
  funcs a below := by rw [placed.funcs, Array.getElem?_append_left below]
  tables := placed.tables.others
  memories a below := by
    rw [placed.memories.items a below, Array.getElem?_append_left below]
  globals a below := by rw [placed.globals, Array.getElem?_append_left below]
  segments a below := by rw [placed.segments, Array.getElem?_append_left below]

end Wasm.Store

theorem FunctionUnit.embed_of_place {m : Module} {shared : Nat} {blob : Bytes}
    {s store : Store HostFunc} (built : Module.ofBlob blob = .ok m) (fixed : m.Fixed)
    (idle : m.start = none) (placed : m.place (supplies m shared) s = some store) :
    embed shared blob s = store := by
  unfold embed
  rw [built]
  dsimp only
  rw [Module.instantiate_of_place (c := ⟨s, ()⟩) fixed placed, idle]
  rfl

/-- The slots with a smaller number hold the functions of their units; otherwise the store is as it
was. -/
structure Preloaded (p : Plan σ) (number : Nat) (s : Store HostFunc) : Prop where
  later : p.origin.store.Later p.shared s
  shared : ∃ x y, p.origin.store.tables[p.shared]? = some x ∧ s.tables[p.shared]? = some y ∧
    x.Grows y ∧
    (∀ i, p.Covers i → i.slot < number → y.entries[i.slot]? = some (.func (p.body i))) ∧
    ∀ k, number ≤ k → y.entries[k]? = x.entries[k]?

namespace Preloaded

variable {p : Plan σ} {number : Nat} {s : Store HostFunc}

theorem serves (done : Preloaded p number s) (println : printlnAddr < p.origin.store.funcs.size) :
    p.origin.store.Serves p.shared s := by
  obtain ⟨x, y, atX, atY, grows, _⟩ := done.shared
  exact ⟨done.later.funcs _ println, x, y, atX, atY, grows⟩

theorem next (println : printlnAddr < p.origin.store.funcs.size)
    (printing : p.origin.host.println = some printlnAddr) (done : Preloaded p number s)
    {i : FuncId} (here : i.slot = number)
    (able : Installable p.origin p.shared i (p.blob i) (p.stub i) (p.func i) (p.unit i) (p.own i)) :
    (p.unit i).place (FunctionUnit.supplies (p.unit i) p.shared) s =
        some (FunctionUnit.embed p.shared (p.blob i) s) ∧
      FunctionUnit.Placed (p.unit i) i (p.own i) p.shared s
        (FunctionUnit.embed p.shared (p.blob i) s) ∧
      (s = p.before i → Preloaded p (number + 1) (FunctionUnit.embed p.shared (p.blob i) s)) := by
  obtain ⟨once, unit, middle, loaded⟩ := able.loads
  obtain ⟨x, atX, slot⟩ := able.slot
  have inside := (Array.getElem?_eq_some_iff.mp slot).1
  obtain ⟨store, found, placed⟩ := FunctionUnit.place_again able.installs able.built printing
    loaded (done.serves println) atX inside
  have links := ((FunctionUnit.load_ok_iff able.installs able.built printing).mp loaded).1
  obtain rfl := FunctionUnit.embed_of_place able.built
    (FunctionUnit.fixed_of_links able.built links) able.installs.start found
  refine ⟨found, placed, fun start => ⟨done.later.trans (.of_placed placed), ?_⟩⟩
  obtain ⟨_, y, atFirst, atY, grows, bodies, rest⟩ := done.shared
  obtain rfl := Option.some.inj (atX.symm.trans atFirst)
  obtain ⟨_, z, atMiddle, atZ, grows', body, others⟩ := placed.tables.slot
  obtain rfl := Option.some.inj (atY.symm.trans atMiddle)
  refine ⟨x, z, atX, atZ, ⟨grows'.elem.trans grows.elem, grows'.most.trans grows.most,
    Nat.le_trans grows.size grows'.size⟩, fun j others' before => ?_, fun k beyond => ?_⟩
  · by_cases same : j = i
    · subst same
      rw [body, start]
      rfl
    · have apart : j.slot ≠ i.slot := fun equal => same (FuncId.slot_injective equal)
      rw [others _ apart]
      exact bodies j others' (by omega)
  · rw [others k (by omega)]
    exact rest k (by omega)

end Preloaded

namespace Plan

/-- The links with which a session and the eager one start: stubs and functions, and otherwise each
item of the program and itself. -/
def startLinks (p : Plan σ) (links : Links) : Links where
  funcs a b := links.funcs a b ∨ p.Detour a b
  tables := links.tables
  memories := links.memories
  globals := links.globals
  segments := links.segments

theorem le_startLinks (p : Plan σ) (links : Links) : links ≤ p.startLinks links :=
  ⟨fun _ _ => .inl, fun _ _ => id, fun _ _ => id, fun _ _ => id, fun _ _ => id⟩

section Start

variable {p : Plan σ} {ready : List FuncId → Outside σ → Prop} {links : Links}
  {s : Store HostFunc} (sound : p.Sound) (diagonal : links.Diagonal)
  (closed : p.origin.store.Closed links) (table : links.tables p.shared p.shared)

include sound

/-- The function of a unit is there as soon as the unit is, and it has the type of the stub. -/
theorem found_body {i : FuncId} (covered : p.Covers i) :
    ∃ body, (p.unit i).funcs[p.own i]? = some body ∧
      (p.after i).funcs[p.body i]? = some ⟨(p.func i).type,
        .guest ((p.unit i).instanceAt (FunctionUnit.supplies (p.unit i) p.shared) (p.before i))
          body⟩ := by
  obtain ⟨body, atBody, typed⟩ := (sound.installable covered).installs.func
  obtain ⟨inside, same⟩ := List.getElem?_eq_some_iff.mp atBody
  refine ⟨body, atBody, ?_⟩
  rw [(sound.made covered).funcs]
  simp [Plan.body, inside, same, Module.newFunc, typed]

include closed table

/-- The shared table holds a stub on the left where it holds the function on the right. -/
theorem start_shared (done : Preloaded p (min p.count FuncId.reach) s) :
    ∃ x y, p.origin.store.tables[p.shared]? = some x ∧ s.tables[p.shared]? = some y ∧
      x.Linked (p.startLinks links) y := by
  obtain ⟨x, y, atX, atY, grows, bodies, rest⟩ := done.shared
  obtain ⟨z, _, atZ, atZ', same⟩ := closed.linked.tables table
  obtain rfl := Option.some.inj (atX.symm.trans atZ)
  obtain rfl := Option.some.inj (atX.symm.trans atZ')
  refine ⟨x, y, atX, atY, grows.elem.symm, grows.most.symm, fun k => ?_⟩
  by_cases inside : k < min p.count FuncId.reach
  · -- Every such slot has a function, by whose number the trigger was called.
    have slot : (FuncId.ofNat k).slot = k := FuncId.slot_ofNat (by omega)
    have covered : p.Covers (.ofNat k) := by
      rw [Plan.Covers, slot]
      exact Nat.lt_min.mp inside
    obtain ⟨w, atW, isStub⟩ := (sound.installable covered).slot
    obtain rfl := Option.some.inj (atX.symm.trans atW)
    have body := bodies _ covered (by rw [slot]; exact inside)
    rw [slot] at isStub body
    rw [isStub, body]
    exact .some (.func (.inr ⟨_, covered, rfl, rfl⟩))
  · rw [rest k (Nat.le_of_not_lt inside)]
    exact option_rel_mono (fun _ _ => Ref.Linked.mono (le_startLinks _ _)) (same.entries k)

theorem start_waiting {i : FuncId} (covered : p.Covers i)
    (later : (p.after i).Later p.shared s) :
    Waiting p (p.startLinks links) i p.origin.store s := by
  have made := sound.made covered
  have within := sound.within covered
  obtain ⟨x, y, atX, _⟩ := closed.linked.tables table
  have shared := (Array.getElem?_eq_some_iff.mp atX).1
  have sizeTables := made.tables.size
  refine ⟨(sound.installable covered).slot, fun k inside => ?_, fun k inside => ⟨?_, ?_⟩,
    fun k inside => ⟨?_, ?_⟩, fun k inside => ⟨?_, ?_⟩, fun k inside => ⟨?_, ?_⟩⟩
  · apply later.funcs
    rw [made.funcs]
    simpa using inside
  · have bound := within.tables
    exact later.tables _ (by omega) (by omega)
  · intro a place
    obtain ⟨_, z, _, atZ, _⟩ := closed.linked.tables place
    have bound := (Array.getElem?_eq_some_iff.mp atZ).1
    have least := within.tables
    omega
  · apply later.memories
    rw [made.memories.size]
    simpa using inside
  · intro a place
    obtain ⟨z, _, atZ⟩ := closed.linked.memories place
    have bound := (Array.getElem?_eq_some_iff.mp atZ).1
    have least := within.memories
    omega
  · apply later.globals
    rw [made.globals]
    simpa using inside
  · intro a place
    obtain ⟨_, z, _, atZ, _⟩ := closed.linked.globals place
    have bound := (Array.getElem?_eq_some_iff.mp atZ).1
    have least := within.globals
    omega
  · apply later.segments
    rw [made.segments]
    simpa using inside
  · intro a place
    obtain ⟨_, z, _, atZ, _⟩ := closed.linked.segments place
    have bound := (Array.getElem?_eq_some_iff.mp atZ).1
    have least := within.segments
    omega

include diagonal

theorem start_stores (done : Preloaded p (min p.count FuncId.reach) s)
    (later : ∀ {i}, p.Covers i → (p.after i).Later p.shared s) :
    p.origin.store.Linked (p.startLinks links) s where
  funcs := by
    rintro a b (own | ⟨i, covered, rfl, rfl⟩)
    · obtain ⟨f, g, atF, atG, same⟩ := closed.linked.funcs own
      refine ⟨f, g, atF, ?_, same⟩
      exact (done.later.funcs b (Array.getElem?_eq_some_iff.mp atG).1).trans atG
    · obtain ⟨_, _, atF⟩ := found_body sound covered
      have kept := ((later covered).funcs _ (Array.getElem?_eq_some_iff.mp atF).1).trans atF
      exact ⟨_, _, (sound.installable covered).found, kept, rfl⟩
  tables := by
    intro a b place
    obtain ⟨x, y, atX, atY, same⟩ := closed.linked.tables place
    obtain rfl := diagonal.tables place
    by_cases here : a = p.shared
    · subst here
      exact start_shared sound closed table done
    · refine ⟨x, y, atX, ?_, same.mono (le_startLinks _ _)⟩
      exact (done.later.tables a (Array.getElem?_eq_some_iff.mp atY).1 here).trans atY
  memories := by
    intro a b place
    obtain ⟨z, atA, atB⟩ := closed.linked.memories place
    exact ⟨z, atA, (done.later.memories b (Array.getElem?_eq_some_iff.mp atB).1).trans atB⟩
  globals := by
    intro a b place
    obtain ⟨x, y, atX, atY, same⟩ := closed.linked.globals place
    refine ⟨x, y, atX, ?_, same.type, same.value.mono (le_startLinks _ _)⟩
    exact (done.later.globals b (Array.getElem?_eq_some_iff.mp atY).1).trans atY
  segments := by
    intro a b place
    obtain ⟨x, y, atX, atY, same⟩ := closed.linked.segments place
    refine ⟨x, y, atX, ?_, same.mono (le_startLinks _ _)⟩
    exact (done.later.segments b (Array.getElem?_eq_some_iff.mp atY).1).trans atY

omit sound table in
/-- Linked functions are twins, or a stub and the function for which it stands. -/
theorem start_codes (done : Preloaded p (min p.count FuncId.reach) s)
    (unwritten : ∀ f ∈ p.origin.store.funcs, ∀ inst func, f.body = .guest inst func →
      ∀ o ∈ func.body.ops, o.Safe (· = p.shared) inst)
    {a b : Nat} (place : (p.startLinks links).funcs a b) :
    (∃ f g, p.origin.store.funcs[a]? = some f ∧ s.funcs[b]? = some g ∧
      f.Twin (p.startLinks links) (· = p.shared) g) ∨ p.Detour a b := by
  rcases place with own | detour
  · obtain rfl := diagonal.funcs own
    obtain ⟨f, _, atF, _⟩ := closed.linked.funcs own
    have twin := (closed.funcs atF).2.mono (p.le_startLinks links)
    refine .inl ⟨f, f, atF, ?_, ?_⟩
    · exact (done.later.funcs a (Array.getElem?_eq_some_iff.mp atF).1).trans atF
    · cases twin with
      | host type name => exact .host type name
      | guest type insts _ =>
        exact .guest type insts (unwritten _ (Array.mem_of_getElem? atF) _ _ rfl)
  · exact .inr detour

/-- A program stands alongside its eager one from the start. -/
theorem start_alongside (done : Preloaded p (min p.count FuncId.reach) s)
    (later : ∀ {i}, p.Covers i → (p.after i).Later p.shared s)
    (unwritten : ∀ f ∈ p.origin.store.funcs, ∀ inst func, f.body = .guest inst func →
      ∀ o ∈ func.body.ops, o.Safe (· = p.shared) inst)
    (left : p.origin.host.Stocked ready p.count p.origin.host)
    (stubs : ∀ i : FuncId, i.slot < p.count → p.origin.host.ledger.table.slot? i = some .stub)
    {host : HostState σ} (right : host.Stocked ready p.count p.origin.host)
    (present : ∀ {i}, p.Covers i → host.ledger.table.slot? i = some .installed)
    (printed : p.origin.host.printed = host.printed) :
    Alongside p ready (p.startLinks links) p.origin ⟨s, host⟩ where
  separate := ⟨diagonal.separate.tables, diagonal.separate.memories, diagonal.separate.globals,
    diagonal.separate.segments⟩
  stores := start_stores sound diagonal closed table done later
  codes place := start_codes diagonal closed done unwritten place
  table := table
  base a inside := .inl (closed.funcs (Array.getElem?_eq_getElem inside)).1
  funcs _ _ := rfl
  serves := by
    obtain ⟨x, _, atX, _⟩ := closed.linked.tables table
    exact ⟨rfl, x, x, atX, atX, rfl, rfl, Nat.le_refl _⟩
  left := left
  right := right
  present := present
  printed := printed
  bodies {i} covered := by
    obtain ⟨_, y, _, atY, _, bodies, _⟩ := done.shared
    exact ⟨y, atY, bodies i covered (Nat.lt_min.mpr covered)⟩
  waiting covered _ := start_waiting sound closed table covered (later covered)
  settled {i} covered installed := by
    rw [stubs i covered.1] at installed
    cases installed

end Start

end Plan

namespace Session

/-- Every slot of the program holds a stub; no code writes an entry of the shared table; the unit of
a function, once it is loaded, has put a function of the type of the stub into the slot. -/
structure SelfInstalling (session : Session σ) (units : FuncId → Bytes) : Prop where
  stubs : ∀ i : FuncId, i.slot < session.slotCount → ∃ stub func m own,
    Installable session.machine session.skeleton.table i (units i) stub func m own
  unwritten : ∀ f ∈ session.machine.store.funcs, ∀ inst func, f.body = .guest inst func →
    ∀ o ∈ func.body.ops, o.Safe (· = session.skeleton.table) inst

/-- Nothing was loaded yet, the trigger is open, and the service has every unit. -/
structure Fresh (session : Session σ) (service : Service σ) (units : FuncId → Bytes)
    (ready : List FuncId → Outside σ → Prop) : Prop where
  opened : session.state.shared = some session.skeleton.table
  printing : session.state.println = some printlnAddr
  ledger : session.state.ledger = Ledger.ofSize session.slotCount
  supply : Supply service session.state.compiler session.state.dump units session.slotCount ready
  able : ready [] session.state.outside

/-- The plan of a session in which the functions are installed in the order of their numbers. -/
def plan (session : Session σ) (units : FuncId → Bytes) (stub : FuncId → Nat)
    (func : FuncId → FuncInst HostFunc) (unit : FuncId → Module) (own : FuncId → Nat) : Plan σ where
  origin := session.machine
  shared := session.skeleton.table
  count := session.slotCount
  blob := units
  stub := stub
  func := func
  unit := unit
  own := own
  before i := session.preload units i.slot
  after i := session.preload units (i.slot + 1)

theorem slot?_eager (units : FuncId → Bytes) (session : Session σ) (i : FuncId) :
    (session.eager units).slot? i =
      if i.slot < min session.slotCount FuncId.reach then some .installed
      else if i.slot < session.slotCount then some .stub else none :=
  Ledger.slot?_preloaded units (Nat.min_le_left _ _) i

section Plan

variable {service : Service σ} {session : Session σ} {units : FuncId → Bytes}
  {stub : FuncId → Nat} {func : FuncId → FuncInst HostFunc} {unit : FuncId → Module}
  {own : FuncId → Nat} {ready : List FuncId → Outside σ → Prop}

section Stocked

variable (fresh : session.Fresh service units ready)

include fresh

theorem Fresh.slot?_eq (i : FuncId) (inside : i.slot < session.slotCount) :
    session.state.ledger.table.slot? i = some .stub := by
  rw [fresh.ledger]
  exact (DispatchTable.slot?_ofSize _ _).trans (if_pos inside)

theorem Fresh.stocked : session.state.Stocked ready session.slotCount session.state where
  shared := rfl
  println := fresh.printing
  compiler := rfl
  dump := rfl
  size := by rw [fresh.ledger]; exact DispatchTable.size_ofSize _
  slots i inside := .inl (fresh.slot?_eq i inside)
  supply := ⟨[], fresh.able, fun _ _ => List.not_mem_nil⟩

/-- The eager session has not asked for any unit, and has a function in every slot that the trigger
can be asked for. -/
theorem Fresh.eager_stocked :
    (session.eager units).state.Stocked ready session.slotCount session.state where
  shared := rfl
  println := fresh.printing
  compiler := rfl
  dump := rfl
  size := Ledger.size_preloaded units (Nat.min_le_left _ _)
  slots i inside := by
    have held := slot?_eager units session i
    change (session.eager units).slot? i = _ ∨ (session.eager units).slot? i = _
    rw [held, if_pos inside]
    split
    · exact .inr rfl
    · exact .inl rfl
  supply := ⟨[], fresh.able, fun _ _ => List.not_mem_nil⟩

end Stocked

theorem eager_installed (units : FuncId → Bytes) (session : Session σ) {i : FuncId}
    (inside : i.slot < session.slotCount) (small : i.slot < FuncId.reach) :
    (session.eager units).slot? i = some .installed :=
  (slot?_eager units session i).trans (if_pos (Nat.lt_min.mpr ⟨inside, small⟩))

variable {links : Links} (closed : session.Closed links)
  (printing : session.state.println = some printlnAddr)
  (installable : ∀ i : FuncId, i.slot < session.slotCount →
    Installable session.machine session.skeleton.table i (units i) (stub i) (func i) (unit i)
      (own i))

include closed printing installable

theorem preloaded (number : Nat) (within : number ≤ min session.slotCount FuncId.reach) :
    Preloaded (session.plan units stub func unit own) number (session.preload units number) ∧
      ∀ i : FuncId, i.slot < number →
        (unit i).place (FunctionUnit.supplies (unit i) session.skeleton.table)
            (session.preload units i.slot) = some (session.preload units (i.slot + 1)) ∧
        FunctionUnit.Placed (unit i) i (own i) session.skeleton.table
          (session.preload units i.slot) (session.preload units (i.slot + 1)) := by
  induction number with
  | zero =>
    obtain ⟨x, y, atX, _⟩ := closed.store.linked.tables closed.table
    exact ⟨⟨.refl _ _, x, x, atX, atX, ⟨rfl, rfl, Nat.le_refl _⟩, fun _ _ => nofun,
      fun _ _ => rfl⟩, fun _ => nofun⟩
  | succ number ih =>
    -- The units before were placed in the same stores as they are now.
    obtain ⟨done, placed⟩ := ih (by omega)
    have slot : (FuncId.ofNat number).slot = number := FuncId.slot_ofNat (by omega)
    have println := (Array.getElem?_eq_some_iff.mp closed.println).1
    have able := installable (.ofNat number) (by omega)
    obtain ⟨found, made, later⟩ := done.next println printing slot able
    constructor
    · exact later (by change _ = session.preload units _; rw [slot])
    · intro i before
      by_cases last : i.slot = number
      · obtain rfl : i = FuncId.ofNat number := FuncId.slot_injective (last.trans slot.symm)
        rw [last]
        exact ⟨found, made⟩
      · exact placed i (by omega)

theorem preload_later {early late : Nat} (le : early ≤ late)
    (within : late ≤ min session.slotCount FuncId.reach) :
    (session.preload units early).Later session.skeleton.table (session.preload units late) := by
  induction le with
  | refl => exact .refl _ _
  | @step late le ih =>
    have slot : (FuncId.ofNat late).slot = late := FuncId.slot_ofNat (by omega)
    obtain ⟨_, placed⟩ := preloaded closed printing installable (late + 1) within
    have last := (placed (FuncId.ofNat late) (by omega)).2
    rw [slot] at last
    exact (ih (by omega)).trans (.of_placed last)

theorem plan_sound : (session.plan units stub func unit own).Sound where
  hosts := ⟨closed.trigger, closed.println⟩
  printing := printing
  installable covered := installable _ covered.1
  placed {i} covered := by
    obtain ⟨_, placed⟩ := preloaded closed printing installable (i.slot + 1)
      (Nat.le_min.mpr covered)
    exact (placed i (Nat.lt_succ_self _)).1
  serves {i} covered := by
    obtain ⟨done, _⟩ := preloaded closed printing installable i.slot
      (Nat.le_of_lt (Nat.lt_min.mpr covered))
    exact done.serves (Array.getElem?_eq_some_iff.mp closed.println).1
  within {i} covered := by
    obtain ⟨done, _⟩ := preloaded closed printing installable i.slot
      (Nat.le_of_lt (Nat.lt_min.mpr covered))
    exact done.later.within
  ordered {i j} covered others first :=
    (preload_later closed printing installable first
      (Nat.le_of_lt (Nat.lt_min.mpr others))).within

/-- Every slot that the trigger can be asked for holds the function of its unit. -/
theorem eager_provided {i : FuncId} (inside : i.slot < session.slotCount)
    (small : i.slot < FuncId.reach) :
    (unit i).Provided session.skeleton.table i (func i).type (own i) (session.preload units i.slot)
      (session.eager units).machine.store := by
  have covered : (session.plan units stub func unit own).Covers i := ⟨inside, small⟩
  obtain ⟨body, atBody, atF⟩ :=
    Plan.found_body (plan_sound closed printing installable) covered
  obtain ⟨⟨_, _, y, _, atY, _, bodies, _⟩, _⟩ :=
    preloaded closed printing installable _ (Nat.le_refl _)
  have later := preload_later closed printing installable (Nat.le_min.mpr covered) (Nat.le_refl _)
  refine ⟨?_, body, atBody, ?_⟩
  · exact (Store.entry?_of_table atY).trans (bodies i covered (Nat.lt_min.mpr covered))
  · exact (later.funcs _ (Array.getElem?_eq_some_iff.mp atF).1).trans atF

/-- A session that was set up stands alongside its eager one. -/
theorem eager_alongside (fresh : session.Fresh service units ready)
    (unwritten : ∀ f ∈ session.machine.store.funcs, ∀ inst func, f.body = .guest inst func →
      ∀ o ∈ func.body.ops, o.Safe (· = session.skeleton.table) inst) :
    Alongside (session.plan units stub func unit own) ready
      ((session.plan units stub func unit own).startLinks links) session.machine
      (session.eager units).machine := by
  obtain ⟨done, _⟩ := preloaded closed printing installable _ (Nat.le_refl _)
  exact Plan.start_alongside (plan_sound closed printing installable) closed.diagonal closed.store
    closed.table done
    (fun covered => preload_later closed printing installable (Nat.le_min.mpr covered)
      (Nat.le_refl _))
    unwritten fresh.stocked fresh.slot?_eq fresh.eager_stocked
    (fun covered => eager_installed units session covered.1 covered.2) rfl

end Plan

end Session

end FirstCall
