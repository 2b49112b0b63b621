import FirstCall.Proofs.Loading
import FirstCall.Session.Unit

/-!
# Units that install themselves

A unit that imports the shared table and the printing function only, has no start function, and
writes one function of its own into one slot of the shared table. Loading it runs no code, so it
can be told in advance what loading does, and it does the same in every store.
-/

namespace FirstCall

open Wasm

variable {σ : Type}

/-- What stands for an import of such a unit. -/
def FunctionUnit.supply (shared : Nat) (wanted : Import) : Extern :=
  if wanted.name = tableName then .table shared else .func printlnAddr

/-- The module imports the shared table and the printing function only, has no start function, and
its only write to the shared table puts its function `own`, of the given type, into the slot `i`. -/
structure Wasm.Module.Installs (m : Module) (i : FuncId) (type : FuncType) (own : Nat) : Prop where
  imports : ∀ wanted ∈ m.imports, wanted.module = importModule ∧
    (wanted.name = tableName ∨ wanted.name = printlnImport)
  start : m.start = none
  func : ∃ func, m.funcs[own]? = some func ∧ m.types[func.type]? = some type
  segments : ∃ before segment after index offset, m.elems = before ++ segment :: after ∧
    segment.mode = .active index offset ∧ index < m.importedTables.length ∧
    (∀ (inst : Instance) (store : Store HostFunc), constIndex inst store offset = i.slot) ∧
    segment.items = [[.refFunc (m.importedFuncs.length + own)]] ∧
    ∀ other ∈ before ++ after, other.Own m.importedTables.length
  unwritten : ∀ func ∈ m.funcs, ∀ o ∈ func.body.ops, ∀ k, o.written? = some k →
    m.importedTables.length ≤ k

/-- What a unit can import from one store, it can import from the other. -/
structure Wasm.Store.Serves (shared : Nat) (s t : Store HostFunc) : Prop where
  println : t.funcs[printlnAddr]? = s.funcs[printlnAddr]?
  table : ∃ x y, s.tables[shared]? = some x ∧ t.tables[shared]? = some y ∧ x.Grows y

namespace FunctionUnit

variable {m : Module} {i : FuncId} {type : FuncType} {own shared : Nat}

/-- The items that a unit is loaded with. -/
abbrev supplies (m : Module) (shared : Nat) : List Extern := m.imports.map (supply shared)

theorem items_of_imports {imports : List Import}
    (offered : ∀ wanted ∈ imports, wanted.module = importModule ∧
      (wanted.name = tableName ∨ wanted.name = printlnImport)) :
    imports.mapM (item i shared printlnAddr) = .ok (imports.map (supply shared)) := by
  induction imports with
  | nil => rfl
  | cons wanted rest ih =>
    rw [List.mapM_cons, ih fun other inside => offered other (List.mem_cons_of_mem _ inside)]
    obtain ⟨module, isTable | isPrint⟩ := offered wanted List.mem_cons_self
    · simp [item, supply, module, isTable]
      rfl
    · simp [item, supply, module, isPrint, tableName, printlnImport]
      rfl

theorem links_iff {s : Store HostFunc} :
    s.links m (supplies m shared) = true ↔
      ∀ wanted ∈ m.imports, s.fits m.types wanted.type (supply shared wanted) = true := by
  have paired : m.imports.zip (m.imports.map (supply shared)) =
      m.imports.map fun wanted => (wanted, supply shared wanted) := by
    have both := List.zip_map' (l := m.imports) (f := id) (g := supply shared)
    rwa [List.map_id] at both
  unfold Store.links
  rw [paired, List.all_map]
  simp

theorem fits_serves {s t : Store HostFunc} (serves : s.Serves shared t) {types : Array FuncType}
    {wanted : Import} (fits : s.fits types wanted.type (supply shared wanted) = true) :
    t.fits types wanted.type (supply shared wanted) = true := by
  obtain ⟨x, y, atX, atY, grows⟩ := serves.table
  unfold supply at fits ⊢
  split
  · next isTable =>
    rw [if_pos isTable] at fits
    unfold Store.fits at fits ⊢
    cases kind : wanted.type with
    | table type =>
      rw [kind] at fits
      dsimp only at fits ⊢
      rw [atX] at fits
      rw [atY]
      dsimp only at fits ⊢
      unfold Store.within at fits ⊢
      rw [grows.elem, grows.most]
      simp only [Bool.and_eq_true, decide_eq_true_eq] at fits ⊢
      exact ⟨fits.1, Nat.le_trans fits.2.1 grows.size, fits.2.2⟩
    | _ => simp [kind] at fits
  · next notTable =>
    rw [if_neg notTable] at fits
    unfold Store.fits at fits ⊢
    cases kind : wanted.type with
    | func index =>
      rw [kind] at fits
      dsimp only at fits ⊢
      rw [serves.println]
      exact fits
    | _ => simp [kind] at fits

theorem kind_of_fits {s : Store HostFunc} {types : Array FuncType} {wanted : Import}
    (fits : s.fits types wanted.type (supply shared wanted) = true) :
    (∃ type, wanted.type = .table type ∧ supply shared wanted = .table shared) ∨
      ∃ index, wanted.type = .func index ∧ supply shared wanted = .func printlnAddr := by
  unfold supply at fits ⊢
  split
  · next isTable =>
    rw [if_pos isTable] at fits
    cases kind : wanted.type with
    | table type => exact .inl ⟨type, rfl, rfl⟩
    | _ => simp [kind, Store.fits] at fits
  · next notTable =>
    rw [if_neg notTable] at fits
    cases kind : wanted.type with
    | func index => exact .inr ⟨index, rfl, rfl⟩
    | _ => simp [kind, Store.fits] at fits

/-- What the imports of a unit that links amount to. -/
structure Linking (m : Module) (shared : Nat) : Prop where
  funcs : (supplies m shared).filterMap Extern.func? =
    List.replicate m.importedFuncs.length printlnAddr
  tables : (supplies m shared).filterMap Extern.table? =
    List.replicate m.importedTables.length shared
  memories : (supplies m shared).filterMap Extern.memory? = []
  globals : (supplies m shared).filterMap Extern.global? = []
  closed : m.importedGlobals = []

theorem linking_of_fits {s : Store HostFunc}
    (fits : ∀ wanted ∈ m.imports, s.fits m.types wanted.type (supply shared wanted) = true) :
    Linking m shared := by
  have kinds : ∀ wanted ∈ m.imports,
      (∃ type, wanted.type = .table type ∧ supply shared wanted = .table shared) ∨
        ∃ index, wanted.type = .func index ∧ supply shared wanted = .func printlnAddr :=
    fun wanted inside => kind_of_fits (fits wanted inside)
  refine ⟨?_, ?_, ?_, ?_, ?_⟩
  all_goals
    simp only [supplies, Module.importedFuncs, Module.importedTables, Module.importedGlobals]
    generalize m.imports = imports at kinds
    induction imports with
    | nil => rfl
    | cons wanted rest ih =>
      have later := ih fun other inside => kinds other (List.mem_cons_of_mem _ inside)
      obtain ⟨type, isTable, given⟩ | ⟨index, isFunc, given⟩ := kinds wanted List.mem_cons_self
      · simp [given, isTable, later, List.filterMap_cons, Extern.func?, Extern.table?,
          Extern.memory?, Extern.global?, List.replicate_succ]
      · simp [given, isFunc, later, List.filterMap_cons, Extern.func?, Extern.table?,
          Extern.memory?, Extern.global?, List.replicate_succ]

theorem constRef_refFunc {inst : Instance} {f addr : Nat} (found : inst.funcs[f]? = some addr)
    (store : Store HostFunc) : constRef inst store [.refFunc f] = .func addr := by
  have run : (perform inst store ⟨[], []⟩ (.refFunc f) :
      Except (Stop Empty) (Frame × Store HostFunc)) =
        .ok (⟨[], [.ref (.func addr)]⟩, store) := by
    unfold perform
    dsimp only
    rw [found]
    rfl
  unfold constRef evalConst
  rw [run]
  rfl

theorem slot_fill {inst : Instance} (base : Store HostFunc) {tables : Array Table}
    {segment : ElemSegment} {index f addr : Nat} {offset : ConstExpr} {x : Table}
    (mode : segment.mode = .active index offset)
    (place : ∀ (inst : Instance) (store : Store HostFunc), constIndex inst store offset = i.slot)
    (items : segment.items = [[.refFunc f]]) (target : inst.tables[index]? = some shared)
    (func : inst.funcs[f]? = some addr) (found : tables[shared]? = some x)
    (inside : i.slot < x.size) :
    ∃ y, ElemSegment.fill inst base tables segment = some (tables.setIfInBounds shared y) ∧
      x.Grows y ∧ y.entries[i.slot]? = some (.func addr) ∧
        ∀ k, k ≠ i.slot → y.entries[k]? = x.entries[k]? := by
  have fits : i.slot + [Ref.func addr].length ≤ x.size := inside
  have written : x.write? i.slot [.func addr] =
      some { x with entries := Table.store x.entries i.slot [.func addr] } := if_pos fits
  refine ⟨{ x with entries := Table.store x.entries i.slot [.func addr] }, ?_, ?_, ?_, ?_⟩
  · unfold ElemSegment.fill fillAt
    rw [mode]
    dsimp only
    rw [target, items, place]
    simp [found, constRef_refFunc func, written]
  · exact ⟨rfl, rfl, Nat.le_of_eq (Table.size_store _ _ _).symm⟩
  · rw [Table.getElem?_store _ _ _ _ fits, if_pos (by simp), Nat.sub_self]
    rfl
  · intro k other
    rw [Table.getElem?_store _ _ _ _ fits, if_neg]
    simp only [List.length_singleton]
    omega

/-- In these tables only the slot was set, and new tables were added. -/
structure Slotted (shared : Nat) (i : FuncId) (addr count : Nat) (before after : Array Table) :
    Prop where
  size : after.size = before.size + count
  others : ∀ a < before.size, a ≠ shared → after[a]? = before[a]?
  slot : ∃ x y, before[shared]? = some x ∧ after[shared]? = some y ∧ x.Grows y ∧
    y.entries[i.slot]? = some (.func addr) ∧ ∀ k, k ≠ i.slot → y.entries[k]? = x.entries[k]?

theorem Slotted.intro {addr : Nat} {before new first last : Array Table} {x y : Table}
    (head : KeepsBelow before.size (before ++ new) first)
    (tail : KeepsBelow before.size (first.setIfInBounds shared y) last)
    (found : before[shared]? = some x) (grows : x.Grows y)
    (slot : y.entries[i.slot]? = some (.func addr))
    (rest : ∀ k, k ≠ i.slot → y.entries[k]? = x.entries[k]?) :
    Slotted shared i addr new.size before last := by
  have inside := (Array.getElem?_eq_some_iff.mp found).1
  have early : ∀ a < before.size, first[a]? = before[a]? := by
    intro a below
    rw [head.items a below, Array.getElem?_append_left below]
  have atFirst : first[shared]? = some x := (early shared inside).trans found
  have insideFirst := (Array.getElem?_eq_some_iff.mp atFirst).1
  refine ⟨?_, fun a below apart => ?_, x, y, found, ?_, grows, slot, rest⟩
  · rw [tail.size, Array.size_setIfInBounds, head.size, Array.size_append]
  · rw [tail.items a below, Array.getElem?_setIfInBounds_ne (Ne.symm apart), early a below]
  · rw [tail.items shared inside, Array.getElem?_setIfInBounds_self_of_lt insideFirst]

namespace Linking

variable (linking : Linking m shared) (s : Store HostFunc)

include linking

theorem tables_offset : Offset (m.instanceAt (supplies m shared) s).tables
    m.importedTables.length s.tables.size m.tables.length := by
  have laid := Module.addresses_offset ((supplies m shared).filterMap Extern.table?)
    s.tables.size m.tables.length
  have count : ((supplies m shared).filterMap Extern.table?).length = m.importedTables.length := by
    rw [linking.tables, List.length_replicate]
  rw [count] at laid
  exact laid

theorem funcs_offset : Offset (m.instanceAt (supplies m shared) s).funcs
    m.importedFuncs.length s.funcs.size m.funcs.length := by
  have laid := Module.addresses_offset ((supplies m shared).filterMap Extern.func?)
    s.funcs.size m.funcs.length
  have count : ((supplies m shared).filterMap Extern.func?).length = m.importedFuncs.length := by
    rw [linking.funcs, List.length_replicate]
  rw [count] at laid
  exact laid

theorem memories_offset : Offset (m.instanceAt (supplies m shared) s).memories 0
    s.memories.size m.memories.length := by
  have laid := Module.addresses_offset ((supplies m shared).filterMap Extern.memory?)
    s.memories.size m.memories.length
  rw [linking.memories] at laid
  change Offset (Module.addresses ((supplies m shared).filterMap Extern.memory?) _ _) _ _ _
  rw [linking.memories]
  exact laid

theorem table_imported {index : Nat} (imported : index < m.importedTables.length) :
    (m.instanceAt (supplies m shared) s).tables[index]? = some shared := by
  change (Module.addresses ((supplies m shared).filterMap Extern.table?) _ _)[index]? = _
  unfold Module.addresses
  rw [linking.tables, List.getElem?_toArray, List.getElem?_append_left (by simpa using imported),
    List.getElem?_replicate, if_pos imported]

end Linking

section Twice

variable {s t : Store HostFunc} {x y : Table} {links : Links}

/-- Writing the segments of a unit sets its slot on both sides and leaves its own tables linked, or
fails on both sides. -/
theorem elems_placed (installs : m.Installs i type own) (fixed : m.Fixed)
    (linking : Linking m shared) (atX : s.tables[shared]? = some x)
    (atY : t.tables[shared]? = some y) (inX : i.slot < x.size) (inY : i.slot < y.size)
    (insts : (m.instanceAt (supplies m shared) s).Linked links
      (m.instanceAt (supplies m shared) t)) (base other : Store HostFunc) :
    Option.Rel (fun tables others =>
        Owned (Table.Linked links) s.tables.size t.tables.size m.tables.length tables others ∧
        Slotted shared i (s.funcs.size + own) m.tables.length s.tables tables ∧
        Slotted shared i (t.funcs.size + own) m.tables.length t.tables others)
      (m.elems.foldlM (ElemSegment.fill (m.instanceAt (supplies m shared) s) base)
        (s.tables ++ (m.tables.map Module.newTable).toArray))
      (m.elems.foldlM (ElemSegment.fill (m.instanceAt (supplies m shared) t) other)
        (t.tables ++ (m.tables.map Module.newTable).toArray)) := by
  obtain ⟨before, segment, after, index, offset, split, mode, imported, place, items, ours⟩ :=
    installs.segments
  obtain ⟨func, atOwn, _⟩ := installs.func
  have known : own < m.funcs.length := (List.getElem?_eq_some_iff.mp atOwn).1
  have fixedAll := fixed.elems
  rw [split] at fixedAll
  have fixedFirst : ∀ seg ∈ before, seg.Fixed :=
    fun seg inside => fixedAll seg (List.mem_append_left _ inside)
  have fixedLast : ∀ seg ∈ after, seg.Fixed :=
    fun seg inside => fixedAll seg (List.mem_append_right _ (List.mem_cons_of_mem _ inside))
  have oursFirst : ∀ seg ∈ before, seg.Own m.importedTables.length :=
    fun seg inside => ours seg (List.mem_append_left _ inside)
  have oursLast : ∀ seg ∈ after, seg.Own m.importedTables.length :=
    fun seg inside => ours seg (List.mem_append_right _ inside)
  have atFunc : ∀ u : Store HostFunc,
      (m.instanceAt (supplies m shared) u).funcs[m.importedFuncs.length + own]? =
        some (u.funcs.size + own) := by
    intro u
    rw [linking.funcs_offset u own, if_pos known]
  have insideS := (Array.getElem?_eq_some_iff.mp atX).1
  have insideT := (Array.getElem?_eq_some_iff.mp atY).1
  -- The segments before and after the one for the slot are for new tables only, so on the way the
  -- shared table is as it was.
  rw [split, List.foldlM_append, List.foldlM_append]
  obtain ⟨left, right⟩ | ⟨x₁, y₁, left, right, first⟩ := option_rel_cases
    (elems_filled (s := base) (t := other) fixedFirst oursFirst insts.funcs
      (linking.tables_offset s) (linking.tables_offset t)
      (newTables_owned m.tables s.tables t.tables))
  · rw [left, right]
    exact .none
  · have foundX : x₁[shared]? = some x := by
      rw [first.left.items shared insideS, Array.getElem?_append_left insideS, atX]
    have foundY : y₁[shared]? = some y := by
      rw [first.right.items shared insideT, Array.getElem?_append_left insideT, atY]
    obtain ⟨x₂, leftSlot, growsX, slotX, restX⟩ := slot_fill base mode place items
      (linking.table_imported s imported) (atFunc s) foundX inX
    obtain ⟨y₂, rightSlot, growsY, slotY, restY⟩ := slot_fill other mode place items
      (linking.table_imported t imported) (atFunc t) foundY inY
    have owned : Owned (Table.Linked links) s.tables.size t.tables.size m.tables.length
        (x₁.setIfInBounds shared x₂) (y₁.setIfInBounds shared y₂) := by
      intro k inside
      rw [Array.getElem?_setIfInBounds_ne (by omega), Array.getElem?_setIfInBounds_ne (by omega)]
      exact first.owned k inside
    rw [left, right]
    simp only [Option.bind_eq_bind, Option.bind_some, List.foldlM_cons, leftSlot, rightSlot]
    refine option_rel_mono (fun tables others last => ?_)
      (elems_filled (s := base) (t := other) fixedLast oursLast insts.funcs
        (linking.tables_offset s) (linking.tables_offset t) owned)
    have setX := Slotted.intro first.left last.left atX growsX slotX restX
    have setY := Slotted.intro first.right last.right atY growsY slotY restY
    have count : (m.tables.map Module.newTable).toArray.size = m.tables.length := by simp
    rw [count] at setX setY
    exact ⟨last.owned, setX, setY⟩

/-- What loading a unit made of a store. -/
structure Placed (m : Module) (i : FuncId) (own shared : Nat) (s after : Store HostFunc) :
    Prop where
  funcs : after.funcs = s.funcs ++
    (m.funcs.map (Module.newFunc m (m.instanceAt (supplies m shared) s))).toArray
  tables : Slotted shared i (s.funcs.size + own) m.tables.length s.tables after.tables
  memories : KeepsBelow s.memories.size (s.memories ++ (m.memories.map Module.newMemory).toArray)
    after.memories
  globals : after.globals = s.globals ++
    (m.globals.map (Module.newGlobal (m.instanceAt (supplies m shared) s) s)).toArray
  segments : after.segments = s.segments ++
    (m.elems.map (Module.newElem (m.instanceAt (supplies m shared) s) s) ++
      m.datas.map Module.newData).toArray

/-- The new items of two stores are linked. -/
structure Fresh (links : Links) (m : Module) (s t after other : Store HostFunc) : Prop where
  tables : Owned (Table.Linked links) s.tables.size t.tables.size m.tables.length
    after.tables other.tables
  memories : Owned Eq s.memories.size t.memories.size m.memories.length
    after.memories other.memories
  globals : Owned (GlobalInst.Linked links) s.globals.size t.globals.size m.globals.length
    after.globals other.globals
  segments : Owned (Segment.Linked links) s.segments.size t.segments.size
    (m.elems.length + m.datas.length) after.segments other.segments

/-- A unit is placed in two stores alike, or in neither. -/
theorem place_twice (installs : m.Installs i type own) (fixed : m.Fixed)
    (linking : Linking m shared) (atX : s.tables[shared]? = some x)
    (atY : t.tables[shared]? = some y) (inX : i.slot < x.size) (inY : i.slot < y.size)
    (insts : (m.instanceAt (supplies m shared) s).Linked links
      (m.instanceAt (supplies m shared) t)) :
    Option.Rel (fun after other => Placed m i own shared s after ∧ Placed m i own shared t other ∧
        Fresh links m s t after other)
      (m.place (supplies m shared) s) (m.place (supplies m shared) t) := by
  unfold Module.place
  dsimp only
  obtain ⟨left, right⟩ | ⟨tables, others, left, right, owned, setS, setT⟩ := option_rel_cases
    (elems_placed installs fixed linking atX atY inX inY insts
      (m.allocate (m.instanceAt (supplies m shared) s) s)
      (m.allocate (m.instanceAt (supplies m shared) t) t))
  · simp only [Module.allocate] at left right ⊢
    rw [left, right]
    exact .none
  · simp only [Module.allocate] at left right ⊢
    rw [left, right]
    simp only [Option.bind_eq_bind, Option.bind_some]
    obtain ⟨leftData, rightData⟩ | ⟨memories, rest, leftData, rightData, filled⟩ :=
      option_rel_cases (datas_filled (s := m.allocate (m.instanceAt (supplies m shared) s) s)
        (t := m.allocate (m.instanceAt (supplies m shared) t) t) fixed.datas insts.funcs
        (linking.memories_offset s) (linking.memories_offset t)
        (newMemories_owned m.memories s.memories t.memories))
    · simp only [Module.allocate] at leftData rightData
      rw [leftData, rightData]
      exact .none
    · simp only [Module.allocate] at leftData rightData
      rw [leftData, rightData]
      refine .some ⟨⟨rfl, setS, filled.left, rfl, rfl⟩, ⟨rfl, setT, filled.right, rfl, rfl⟩,
        owned, filled.owned, ?_, ?_⟩
      · exact newGlobals_owned fixed.globals insts.funcs s.globals t.globals
      · exact newSegments_owned fixed insts.funcs s.segments t.segments

end Twice

section Load

variable {run : Invoker HostFunc (HostState σ) Session.Fault} {blob : Bytes}
  {c after : DispatchMachine σ}

theorem fixed_of_links (built : Module.ofBlob blob = .ok m) {s : Store HostFunc}
    (links : s.links m (supplies m shared) = true) : m.Fixed :=
  Module.fixed_of_check (Module.check_of_ofBlob built) (linking_of_fits (links_iff.mp links)).closed

/-- Loading such a unit is placing it, whatever runs the code of the program. -/
theorem load_ok_iff (installs : m.Installs i type own) (built : Module.ofBlob blob = .ok m)
    (printing : c.host.println = some printlnAddr) {unit : LoadedUnit} :
    load run i shared blob c = (.ok unit, after) ↔
      c.store.links m (supplies m shared) = true ∧ unit = ⟨i, blob.length⟩ ∧
        ∃ store, m.place (supplies m shared) c.store = some store ∧ after = { c with store } := by
  rw [load_of_module run i shared built printing, items_of_imports installs.imports]
  dsimp only
  by_cases links : c.store.links m (supplies m shared) = true
  · rw [if_pos links]
    have fixed := fixed_of_links built links
    constructor
    · intro loaded
      cases ran : instantiate run m (supplies m shared) c with
      | mk result middle =>
        rw [ran] at loaded
        cases result with
        | error why => cases loaded
        | ok inst =>
          obtain ⟨answer, rfl⟩ := Prod.mk.inj loaded
          obtain rfl := Except.ok.inj answer
          obtain ⟨store, placed, _, started⟩ := (Module.instantiate_ok_iff fixed).mp ran
          rw [installs.start] at started
          exact ⟨links, rfl, store, placed, (Prod.mk.inj started).2.symm⟩
    · rintro ⟨_, rfl, store, placed, rfl⟩
      have ran : instantiate run m (supplies m shared) c =
          (.ok (m.instanceAt (supplies m shared) c.store), { c with store }) := by
        refine (Module.instantiate_ok_iff fixed).mpr ⟨store, placed, rfl, ?_⟩
        rw [installs.start]
        rfl
      rw [ran]
      rfl
  · rw [if_neg links]
    constructor
    · intro loaded
      cases loaded
    · intro held
      exact absurd held.1 links

section Again

variable (installs : m.Installs i type own) (built : Module.ofBlob blob = .ok m)
  (printing : c.host.println = some printlnAddr) {unit : LoadedUnit}
  (loaded : load run i shared blob c = (.ok unit, after)) {t : Store HostFunc}
  (serves : c.store.Serves shared t) {x : Table} (atX : c.store.tables[shared]? = some x)
  (inside : i.slot < x.size)

include installs built printing loaded serves atX inside

/-- A unit that can be loaded once can be placed in every later store. -/
theorem place_again :
    ∃ store, m.place (supplies m shared) t = some store ∧ Placed m i own shared t store := by
  obtain ⟨links, _, store, placed, _⟩ := (load_ok_iff installs built printing).mp loaded
  have linking := linking_of_fits (links_iff.mp links)
  obtain ⟨x', y, atX', atY, grows⟩ := serves.table
  obtain rfl := Option.some.inj (atX.symm.trans atX')
  have insts : (m.instanceAt (supplies m shared) c.store).Linked Links.all
      (m.instanceAt (supplies m shared) t) :=
    instanceAt_linked (Links.le_all _) (fun _ _ => trivial) (fun _ _ => trivial)
      (fun _ _ => trivial) fun _ _ => trivial
  have twice := place_twice installs (fixed_of_links built links) linking atX atY inside
    (Nat.lt_of_lt_of_le inside grows.size) insts
  rw [placed] at twice
  obtain ⟨none, _⟩ | ⟨_, next, _, found, _, put, _⟩ := option_rel_cases twice
  · cases none
  · exact ⟨next, found, put⟩

theorem load_again :
    ∃ store, m.place (supplies m shared) t = some store ∧ Placed m i own shared t store ∧
      ∀ (again : Invoker HostFunc (HostState σ) Session.Fault) (host : HostState σ),
        host.println = some printlnAddr →
          load again i shared blob ⟨t, host⟩ = (.ok ⟨i, blob.length⟩, ⟨store, host⟩) := by
  obtain ⟨links, _⟩ := (load_ok_iff installs built printing).mp loaded
  have later : t.links m (supplies m shared) = true :=
    links_iff.mpr fun wanted listed => fits_serves serves (links_iff.mp links wanted listed)
  obtain ⟨store, found, put⟩ := place_again installs built printing loaded serves atX inside
  exact ⟨store, found, put, fun again host printing =>
    (load_ok_iff installs built printing).mpr ⟨later, rfl, store, found, rfl⟩⟩

end Again

end Load

end FunctionUnit

end FirstCall
