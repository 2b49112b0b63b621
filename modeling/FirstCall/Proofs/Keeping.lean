import FirstCall.Proofs.Sparing
import FirstCall.Proofs.Units

/-!
# Units that keep to their slots

A unit that writes its own functions into the slot of its function, and nothing else into the
shared table. Unlike a unit that installs itself, it may write the slot more than once and may have
a start function, so it can be stopped after any of its segments. Up to its start function, loading
it leaves every other slot alone; if it comes that far, the slot holds the last function that was
written.
-/

namespace FirstCall

open Wasm

def Wasm.Import.isTable (wanted : Import) : Bool :=
  match wanted.type with
  | .table _ => true
  | _ => false

namespace Wasm.Module

def isShared (m : Module) (index : Nat) : Bool :=
  ((m.imports.filter Import.isTable)[index]?).any fun wanted =>
    wanted.module == importModule && wanted.name == tableName

/-- What a segment puts into the shared table when the unit is loaded. -/
def share (m : Module) (segment : ElemSegment) : List ConstExpr :=
  match segment.mode with
  | .active index _ => if m.isShared index then segment.items else []
  | _ => []

/-- What the unit puts into the shared table when it is loaded, in this order. -/
def installs (m : Module) : List ConstExpr := m.elems.flatMap m.share

theorem share_of_active {m : Module} {segment : ElemSegment} {index : Nat} {offset : ConstExpr}
    (mode : segment.mode = .active index offset) :
    m.share segment = if m.isShared index then segment.items else [] := by
  unfold share
  rw [mode]

theorem share_of_inactive {m : Module} {segment : ElemSegment}
    (inactive : ∀ index offset, segment.mode ≠ .active index offset) : m.share segment = [] := by
  unfold share
  split
  · next mode => exact absurd mode (inactive _ _)
  · rfl

/-- Each segment for the shared table writes only the slot of the function, with a function of the
unit, and there is such a segment. -/
structure KeepsTo (m : Module) (i : FuncId) : Prop where
  segments : ∀ segment ∈ m.elems, ∀ index offset, segment.mode = .active index offset →
    m.isShared index → segment.items ≠ [] →
      (∀ (inst : Instance) (store : Store HostFunc), constIndex inst store offset = i.slot) ∧
      ∃ own < m.funcs.length, segment.items = [[.refFunc (m.importedFuncs.length + own)]]
  installs : m.installs ≠ []

/-- What the unit put last into the shared table is its function `own`, which is where it was placed
behind the functions of the store into which the unit was loaded. -/
structure Installed (m : Module) (shared : Nat) (origin store : Store HostFunc) (own : Nat) :
    Prop where
  last : m.installs.getLast? = some [.refFunc (m.importedFuncs.length + own)]
  func : ∃ func, m.funcs[own]? = some func ∧ store.funcs[origin.funcs.size + own]? =
    some (m.newFunc (m.instanceAt (FunctionUnit.supplies m shared) origin) func)

theorem KeepsTo.last {m : Module} {i : FuncId} (keeps : m.KeepsTo i) :
    ∃ own < m.funcs.length,
      m.installs.getLast? = some [.refFunc (m.importedFuncs.length + own)] := by
  obtain ⟨item, last⟩ := Option.ne_none_iff_exists'.mp
    fun none => keeps.installs (List.getLast?_eq_none_iff.mp none)
  obtain ⟨segment, inside, put⟩ := List.mem_flatMap.mp (List.mem_of_getLast? last)
  unfold share at put
  split at put
  · next index offset mode =>
    split at put
    · next imported =>
      obtain ⟨_, own, known, items⟩ :=
        keeps.segments segment inside index offset mode imported (List.ne_nil_of_mem put)
      rw [items, List.mem_singleton] at put
      exact ⟨own, known, put ▸ last⟩
    · cases put
  · cases put

theorem Installed.of_allocate {m : Module} {shared own : Nat} (known : own < m.funcs.length)
    (last : m.installs.getLast? = some [.refFunc (m.importedFuncs.length + own)])
    (origin : Store HostFunc) :
    m.Installed shared origin
      (m.allocate (m.instanceAt (FunctionUnit.supplies m shared) origin) origin) own := by
  refine ⟨last, m.funcs[own], List.getElem?_eq_getElem known, ?_⟩
  unfold Module.allocate
  rw [Array.getElem?_append_right (Nat.le_add_right _ _)]
  simp [known]

theorem Installed.later {m : Module} {shared table own : Nat} {chosen : Nat → Prop}
    {origin s t : Store HostFunc} (installed : m.Installed shared origin s own)
    (retains : s.Retains table chosen t) : m.Installed shared origin t own := by
  obtain ⟨func, known, placed⟩ := installed.func
  exact ⟨installed.last, func, known, retains.func placed⟩

end Wasm.Module

namespace FunctionUnit

variable {m : Module} {i : FuncId} {shared : Nat}

theorem offered_of_items {imports : List Import} {items : List Extern}
    (wired : imports.mapM (item i shared printlnAddr) = .ok items) :
    ∀ wanted ∈ imports, wanted.module = importModule ∧
      (wanted.name = tableName ∨ wanted.name = printlnImport) := by
  induction imports generalizing items with
  | nil => exact nofun
  | cons wanted rest ih =>
    rw [List.mapM_cons] at wired
    obtain ⟨found, first, wired⟩ := Wasm.bind_ok_iff.mp wired
    obtain ⟨others, later, _⟩ := Wasm.bind_ok_iff.mp wired
    intro other inside
    rcases List.mem_cons.mp inside with rfl | among
    · unfold item at first
      split at first
      · next isTable => exact ⟨isTable.1, .inl isTable.2⟩
      · split at first
        · next isPrint => exact ⟨isPrint.1, .inr isPrint.2⟩
        · cases first
    · exact ih later other among

theorem items_eq {items : List Extern} (wired : m.imports.mapM (item i shared printlnAddr) = .ok items) :
    items = supplies m shared :=
  Except.ok.inj (wired.symm.trans (items_of_imports (offered_of_items wired)))

/-- A unit that can be loaded: its imports are offered, and what is offered fits. -/
structure Loads (m : Module) (shared : Nat) (s : Store HostFunc) : Prop where
  offered : ∀ wanted ∈ m.imports, wanted.module = importModule ∧
    (wanted.name = tableName ∨ wanted.name = printlnImport)
  fits : ∀ wanted ∈ m.imports, s.fits m.types wanted.type (supply shared wanted) = true

theorem loads_of_links {items : List Extern} {s : Store HostFunc}
    (wired : m.imports.mapM (item i shared printlnAddr) = .ok items)
    (links : s.links m items = true) : items = supplies m shared ∧ Loads m shared s := by
  obtain rfl := items_eq wired
  exact ⟨rfl, offered_of_items wired, links_iff.mp links⟩

namespace Loads

variable {s : Store HostFunc} (loads : Loads m shared s)

include loads

theorem linking : Linking m shared := linking_of_fits loads.fits

theorem isShared_iff {index : Nat} : m.isShared index = true ↔ index < m.importedTables.length := by
  have named : ∀ wanted ∈ m.imports.filter Import.isTable,
      (wanted.module == importModule && wanted.name == tableName) = true := by
    intro wanted inside
    obtain ⟨listed, isTable⟩ := List.mem_filter.mp inside
    obtain ⟨_, _, given⟩ | ⟨_, kind, _⟩ := kind_of_fits (loads.fits wanted listed)
    · unfold supply at given
      split at given
      · next name => simp [(loads.offered wanted listed).1, name]
      · cases given
    · simp [Import.isTable, kind] at isTable
  have count : m.importedTables.length = (m.imports.filter Import.isTable).length := by
    unfold Module.importedTables
    rw [List.length_filterMap_eq_countP, List.countP_eq_length_filter]
    congr 2
    funext wanted
    unfold Import.isTable
    cases wanted.type <;> rfl
  unfold Module.isShared
  rw [count]
  constructor
  · intro found
    refine Nat.lt_of_not_le fun past => ?_
    rw [List.getElem?_eq_none past] at found
    cases found
  · intro inside
    rw [List.getElem?_eq_getElem inside]
    exact named _ (List.getElem_mem inside)

/-- A segment for a table of the unit itself writes behind the tables that were there before. -/
theorem own_table {index addr : Nat} (own : ¬ m.isShared index)
    (found : (m.instanceAt (supplies m shared) s).tables[index]? = some addr) :
    s.tables.size ≤ addr := by
  have past : m.importedTables.length ≤ index :=
    Nat.le_of_not_lt fun inside => own (loads.isShared_iff.mpr inside)
  obtain ⟨k, rfl⟩ := Nat.exists_eq_add_of_le past
  rw [loads.linking.tables_offset s k] at found
  split at found
  · obtain rfl := Option.some.inj found
    exact Nat.le_add_right _ _
  · cases found

theorem shared_table {index addr : Nat} (imported : m.isShared index)
    (found : (m.instanceAt (supplies m shared) s).tables[index]? = some addr) : addr = shared := by
  rw [loads.linking.table_imported s (loads.isShared_iff.mp imported)] at found
  exact (Option.some.inj found).symm

theorem constRef_own {own : Nat} (known : own < m.funcs.length) (store : Store HostFunc) :
    constRef (m.instanceAt (supplies m shared) s) store [.refFunc (m.importedFuncs.length + own)] =
      .func (s.funcs.size + own) := by
  refine constRef_refFunc ?_ store
  rw [loads.linking.funcs_offset s own, if_pos known]

variable (keeps : m.KeepsTo i)

include keeps

/-- A segment for the shared table puts its last item into the slot, and leaves all other entries.
The store may have changed since the unit was laid out. -/
theorem getElem?_of_share {segment : ElemSegment} (inside : segment ∈ m.elems) {index : Nat}
    {offset : ConstExpr} (mode : segment.mode = .active index offset)
    (imported : m.isShared index) {store : Store HostFunc} {table changed : Table}
    (written : table.write? (constIndex (m.instanceAt (supplies m shared) s) store offset)
      (segment.items.map (constRef (m.instanceAt (supplies m shared) s) store)) = some changed)
    (k : Nat) :
    changed.entries[k]? =
      if k = i.slot then
        (segment.items.getLast?.map (constRef (m.instanceAt (supplies m shared) s) s)).or
          table.entries[k]?
      else table.entries[k]? := by
  -- An empty segment writes nothing at all, any other one function into the slot.
  by_cases empty : segment.items = []
  · rw [empty] at written ⊢
    rw [Table.eq_of_write?_nil written]
    exact (ite_self _).symm
  · obtain ⟨place, own, known, items⟩ :=
      keeps.segments segment inside index offset mode imported empty
    rw [items, place, List.map_singleton, loads.constRef_own known] at written
    rw [Table.getElem?_of_write?_one written k, items, List.getLast?_singleton, Option.map_some,
      loads.constRef_own known, Option.some_or]

variable {η ε : Type} {c after : Machine HostFunc η} (here : shared < s.tables.size)

include here

/-- What writing a segment does to the shared table: the slot gets what the segment puts there, and
nothing else changes. -/
theorem writeElem_kept {segment : ElemSegment} (inside : segment ∈ m.elems)
    {ended : Except (Stop ε) Unit}
    (ran : ElemWrite (m.instanceAt (supplies m shared) s) segment c (ended, after)) :
    (after.host = c.host ∧ c.store.Retains shared (· ≠ i.slot) after.store) ∧
      (ended = .ok () → after.store.entry? shared i.slot =
        ((m.share segment).getLast?.map (constRef (m.instanceAt (supplies m shared) s) s)).or
          (c.store.entry? shared i.slot)) := by
  cases ran with
  | refused why => exact ⟨⟨rfl, .refl _⟩, nofun⟩
  | idle inactive =>
    refine ⟨⟨rfl, .refl _⟩, fun _ => ?_⟩
    rw [Module.share_of_inactive inactive]
    rfl
  | @wrote index addr offset table changed mode named there written =>
    rw [Module.share_of_active mode]
    by_cases imported : m.isShared index = true
    · obtain rfl : addr = shared := loads.shared_table imported named
      rw [if_pos imported]
      have entries := loads.getElem?_of_share keeps inside mode imported written
      refine ⟨⟨rfl, .setTable there fun _ k ref found => ?_⟩, fun _ => ?_⟩
      · rw [entries k, found]
        by_cases same : k = i.slot
        · rw [if_pos same, Option.or_some]
          exact ⟨_, rfl, fun apart => absurd same apart⟩
        · rw [if_neg same]
          exact ⟨ref, rfl, fun _ => rfl⟩
      · rw [Store.entry?_of_table there]
        exact (Store.entry?_setTable_self there).trans ((entries i.slot).trans (if_pos rfl))
    · have other : addr ≠ shared := by
        have behind := loads.own_table imported named
        omega
      rw [if_neg imported]
      refine ⟨⟨rfl, .setTable there fun same => absurd same other⟩, fun _ => ?_⟩
      exact Store.entry?_setTable_ne other

/-- What writing segments does to the shared table, also if one of them is refused. -/
theorem writeElems_kept {segments : List ElemSegment}
    (among : ∀ segment ∈ segments, segment ∈ m.elems)
    {ended : Except (Stop ε) Unit}
    (ran : segments.forM (writeElem (m.instanceAt (supplies m shared) s)) c = (ended, after)) :
    (after.host = c.host ∧ c.store.Retains shared (· ≠ i.slot) after.store) ∧
      (ended = .ok () → after.store.entry? shared i.slot =
        ((segments.flatMap m.share).getLast?.map
          (constRef (m.instanceAt (supplies m shared) s) s)).or
            (c.store.entry? shared i.slot)) := by
  induction segments generalizing c with
  | nil =>
    obtain ⟨rfl, rfl⟩ := Prod.mk.inj ran
    exact ⟨⟨rfl, .refl _⟩, fun _ => rfl⟩
  | cons segment rest ih =>
    have writes : ElemWrite _ segment c (writeElem (m.instanceAt (supplies m shared) s) segment c :
        Except (Stop ε) Unit × _) := writeElem_writes _ _ _
    change (writeElem (m.instanceAt (supplies m shared) s) segment >>= fun _ =>
      rest.forM (writeElem (m.instanceAt (supplies m shared) s))) c = (ended, after) at ran
    rw [Action.bind_apply] at ran
    cases wrote : (writeElem (m.instanceAt (supplies m shared) s) segment c :
        Except (Stop ε) Unit × _) with
    | mk result middle =>
      rw [wrote] at ran writes
      obtain ⟨⟨host, retains⟩, entry⟩ :=
        loads.writeElem_kept keeps here (among segment List.mem_cons_self) writes
      cases result with
      | error why =>
        obtain ⟨rfl, rfl⟩ := Prod.mk.inj ran
        exact ⟨⟨host, retains⟩, nofun⟩
      | ok _ =>
        obtain ⟨⟨later, more⟩, last⟩ :=
          ih (fun segment inside => among segment (List.mem_cons_of_mem _ inside)) ran
        refine ⟨⟨later.trans host, retains.trans more⟩, fun good => ?_⟩
        rw [last good, entry rfl, List.flatMap_cons, List.getLast?_append, Option.map_or,
          Option.or_assoc]

omit loads here keeps in
theorem writeDatas_kept (shared : Nat) (inst : Instance) {datas : List DataSegment}
    {ended : Except (Stop ε) Unit} (ran : datas.forM (writeData inst) c = (ended, after)) :
    after.host = c.host ∧ c.store.Retains shared (fun _ => True) after.store := by
  have untouched : Obeys (fun (m : Machine HostFunc η) _ after =>
      after.host = m.host ∧ m.store.Retains shared (fun _ => True) after.store)
      (datas.forM (writeData inst) : Action HostFunc η ε Unit) :=
    (sparing_conduct shared _).forM (writeData_retains shared _ inst)
  have kept := untouched c
  rw [ran] at kept
  exact kept

omit loads here in
/-- Loading a unit is stopped before any code runs, or its function is in the slot and its start
function decides. Either way, the other slots are as they were. -/
theorem instantiate_kept {c : Machine HostFunc η} (loads : Loads m shared c.store)
    (here : shared < c.store.tables.size) (run : Invoker HostFunc η ε) :
    ∃ filled, c.store.Retains shared (· ≠ i.slot) filled ∧
      ((∃ why, instantiate run m (supplies m shared) c = (.error why, { c with store := filled })) ∨
        ∃ own, m.Installed shared c.store filled own ∧
          filled.entry? shared i.slot = some (.func (c.store.funcs.size + own)) ∧
          instantiate run m (supplies m shared) c =
            (do runStart run (m.instanceAt (supplies m shared) c.store) m.start
                pure (m.instanceAt (supplies m shared) c.store)) { c with store := filled }) := by
  obtain ⟨own, known, last⟩ := keeps.last
  have allocated : c.store.Retains shared (· ≠ i.slot)
      (m.allocate (m.instanceAt (supplies m shared) c.store) c.store) := .allocate m _ here
  have placed : m.Installed shared c.store
      (m.allocate (m.instanceAt (supplies m shared) c.store) c.store) own :=
    .of_allocate known last c.store
  unfold instantiate
  rw [Action.bind_apply]
  dsimp only [Action.store]
  rw [Action.bind_apply]
  dsimp only [Action.setStore]
  generalize m.allocate (m.instanceAt (supplies m shared) c.store) c.store = base
    at allocated placed ⊢
  rw [Action.bind_apply]
  cases elems : m.elems.forM (writeElem (m.instanceAt (supplies m shared) c.store))
      { c with store := base } with
  | mk result first =>
    obtain ⟨store, host⟩ := first
    obtain ⟨⟨sameHost, wrote⟩, entry⟩ :=
      loads.writeElems_kept keeps here (fun _ inside => inside) elems
    dsimp only at sameHost wrote entry
    obtain rfl := sameHost
    cases result with
    | error why => exact ⟨store, allocated.trans wrote, .inl ⟨why, rfl⟩⟩
    | ok _ =>
      have slot : store.entry? shared i.slot = some (.func (c.store.funcs.size + own)) := by
        change m.installs.getLast? = _ at last
        rw [entry rfl]
        change (m.installs.getLast?.map _).or _ = _
        rw [last, Option.map_some, loads.constRef_own known]
        rfl
      dsimp only
      rw [Action.bind_apply]
      cases datas : (m.datas.forM (writeData (m.instanceAt (supplies m shared) c.store)) :
          Action HostFunc η ε Unit) ⟨store, c.host⟩ with
      | mk result second =>
        obtain ⟨filled, host⟩ := second
        obtain ⟨sameHost, same⟩ := writeDatas_kept shared _ datas
        dsimp only at sameHost same
        obtain rfl := sameHost
        refine ⟨filled, (allocated.trans wrote).trans (same.mono fun _ _ => trivial), ?_⟩
        cases result with
        | error why => exact .inl ⟨why, rfl⟩
        | ok _ => exact .inr ⟨own, (placed.later wrote).later same, same.entry slot trivial, rfl⟩

end Loads

end FunctionUnit

end FirstCall
