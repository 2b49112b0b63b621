import FirstCall.Proofs.Stubs
import FirstCall.Proofs.Supply

/-!
# Lazy alongside eager

Two machines of one program run side by side. On the right every unit is installed; on the left a
slot can still hold its stub, and the unit on the right then waits, untouched since it was loaded.
Linked functions are twins, or a stub on the left and the function on the right for which it
stands. Code keeps the machines in this relation, and so does the loading of a unit on the left.
-/

namespace FirstCall

open Wasm

variable {σ : Type}

/-- On this machine the slot holds a stub, and the blob is a unit that can be loaded there and then
puts its function `own`, of the type of the stub, into the slot. -/
structure Installable (c : DispatchMachine σ) (shared : Nat) (i : FuncId) (blob : Bytes)
    (stub : Nat) (func : FuncInst HostFunc) (m : Module) (own : Nat) : Prop where
  slot : ∃ x, c.store.tables[shared]? = some x ∧ x.entries[i.slot]? = some (.func stub)
  found : c.store.funcs[stub]? = some func
  isStub : IsStub shared i func
  built : Module.ofBlob blob = .ok m
  installs : m.Installs i func.type own
  loads : ∃ run unit after, FunctionUnit.load run i shared blob c = (.ok unit, after)

/-- How many functions a program can have compiled. The trigger takes a signed number, so a slot
from here on is out of its reach. -/
def FuncId.reach : Nat := 0x80000000

/-- No item of the first store has an address beyond those of the second. -/
structure Wasm.Store.Within (s t : Store HostFunc) : Prop where
  funcs : s.funcs.size ≤ t.funcs.size
  tables : s.tables.size ≤ t.tables.size
  memories : s.memories.size ≤ t.memories.size
  globals : s.globals.size ≤ t.globals.size
  segments : s.segments.size ≤ t.segments.size

/-- What is known in advance of a program: its machine after set-up, the stub and the unit of every
function, and the stores on the right before and after the unit was loaded. -/
structure Plan (σ : Type) where
  origin : DispatchMachine σ
  shared : Nat
  count : Nat
  blob : FuncId → Bytes
  stub : FuncId → Nat
  func : FuncId → FuncInst HostFunc
  unit : FuncId → Module
  own : FuncId → Nat
  before : FuncId → Store HostFunc
  after : FuncId → Store HostFunc

namespace Plan

variable (p : Plan σ)

/-- The function has a slot that the trigger can be called with. -/
def Covers (i : FuncId) : Prop := i.slot < p.count ∧ i.slot < FuncId.reach

/-- Where the function of a unit is on the right. -/
def body (i : FuncId) : Nat := (p.before i).funcs.size + p.own i

/-- A stub on the left stands for the function of its unit on the right. -/
def Detour (a b : Nat) : Prop := ∃ i, p.Covers i ∧ a = p.stub i ∧ b = p.body i

/-- A stub takes at most so many bytes of the stack. -/
def Narrow (limits : Limits) (extra : Nat) : Prop :=
  ∀ {i}, p.Covers i → ∀ {inst body}, (p.func i).body = .guest inst body →
    limits.frame body ≤ extra

/-- What the plan says is so. -/
structure Sound : Prop where
  hosts : p.origin.store.funcs[triggerAddr]? = some ⟨HostFunc.type, .host .compileTrigger⟩ ∧
    p.origin.store.funcs[printlnAddr]? = some ⟨HostFunc.type, .host .println⟩
  printing : p.origin.host.println = some printlnAddr
  installable : ∀ {i}, p.Covers i → Installable p.origin p.shared i (p.blob i) (p.stub i)
    (p.func i) (p.unit i) (p.own i)
  placed : ∀ {i}, p.Covers i →
    (p.unit i).place (FunctionUnit.supplies (p.unit i) p.shared) (p.before i) = some (p.after i)
  serves : ∀ {i}, p.Covers i → p.origin.store.Serves p.shared (p.before i)
  within : ∀ {i}, p.Covers i → p.origin.store.Within (p.before i)
  ordered : ∀ {i j}, p.Covers i → p.Covers j → i.slot < j.slot → (p.after i).Within (p.before j)

namespace Sound

variable {p : Plan σ} (sound : p.Sound) {i : FuncId} (covered : p.Covers i)

include sound covered

theorem linking : FunctionUnit.Linking (p.unit i) p.shared ∧ (p.unit i).Fixed := by
  have able := sound.installable covered
  obtain ⟨run, unit, after, loaded⟩ := able.loads
  have links :=
    ((FunctionUnit.load_ok_iff able.installs able.built sound.printing).mp loaded).1
  exact ⟨FunctionUnit.linking_of_fits (FunctionUnit.links_iff.mp links),
    FunctionUnit.fixed_of_links able.built links⟩

theorem slot_inside {s : Store HostFunc} (serves : p.origin.store.Serves p.shared s) :
    ∃ x, s.tables[p.shared]? = some x ∧ i.slot < x.size := by
  obtain ⟨x, atX, slot⟩ := (sound.installable covered).slot
  obtain ⟨x', y, atX', atY, grows⟩ := serves.table
  obtain rfl := Option.some.inj (atX.symm.trans atX')
  exact ⟨y, atY, Nat.lt_of_lt_of_le (Array.getElem?_eq_some_iff.mp slot).1 grows.size⟩

theorem made : FunctionUnit.Placed (p.unit i) i (p.own i) p.shared (p.before i) (p.after i) := by
  obtain ⟨linking, fixed⟩ := sound.linking covered
  obtain ⟨y, atY, inside⟩ := sound.slot_inside covered (sound.serves covered)
  have twice := FunctionUnit.place_twice (sound.installable covered).installs fixed linking atY atY
    inside inside (instanceAt_linked (Links.le_all _) (fun _ _ => trivial) (fun _ _ => trivial)
      (fun _ _ => trivial) fun _ _ => trivial)
  rw [sound.placed covered] at twice
  obtain ⟨none, _⟩ | ⟨_, _, same, _, placed, _⟩ := option_rel_cases twice
  · cases none
  · obtain rfl := Option.some.inj same
    exact placed

theorem apart {j : FuncId} (others : p.Covers j) (different : j ≠ i) :
    ((p.after i).Within (p.before j) ∨ (p.after j).Within (p.before i)) := by
  rcases Nat.lt_or_gt_of_ne fun same => different (FuncId.slot_injective same) with first | first
  · exact .inr (sound.ordered others covered first)
  · exact .inl (sound.ordered covered others first)

end Sound

end Plan

/-- The unit of a function has not been loaded on the left, and on the right its items are as they
were made, without links. -/
structure Waiting (p : Plan σ) (links : Links) (i : FuncId) (s t : Store HostFunc) : Prop where
  slot : ∃ x, s.tables[p.shared]? = some x ∧ x.entries[i.slot]? = some (.func (p.stub i))
  funcs : ∀ k < (p.unit i).funcs.length,
    t.funcs[(p.before i).funcs.size + k]? = (p.after i).funcs[(p.before i).funcs.size + k]?
  tables : ∀ k < (p.unit i).tables.length,
    t.tables[(p.before i).tables.size + k]? = (p.after i).tables[(p.before i).tables.size + k]? ∧
      ∀ a, ¬ links.tables a ((p.before i).tables.size + k)
  memories : ∀ k < (p.unit i).memories.length,
    t.memories[(p.before i).memories.size + k]? =
        (p.after i).memories[(p.before i).memories.size + k]? ∧
      ∀ a, ¬ links.memories a ((p.before i).memories.size + k)
  globals : ∀ k < (p.unit i).globals.length,
    t.globals[(p.before i).globals.size + k]? =
        (p.after i).globals[(p.before i).globals.size + k]? ∧
      ∀ a, ¬ links.globals a ((p.before i).globals.size + k)
  segments : ∀ k < (p.unit i).elems.length + (p.unit i).datas.length,
    t.segments[(p.before i).segments.size + k]? =
        (p.after i).segments[(p.before i).segments.size + k]? ∧
      ∀ a, ¬ links.segments a ((p.before i).segments.size + k)

/-- The slot on the left holds a twin of the function of the unit. -/
structure Settled (p : Plan σ) (links : Links) (i : FuncId) (s t : Store HostFunc) : Prop where
  twin : ∃ x a inst twin body, s.tables[p.shared]? = some x ∧
    x.entries[i.slot]? = some (.func a) ∧
    s.funcs[a]? = some ⟨(p.func i).type, .guest inst body⟩ ∧
    t.funcs[p.body i]? = some ⟨(p.func i).type, .guest twin body⟩ ∧
    inst.Linked links twin ∧ ∀ o ∈ body.body.ops, o.Safe (· = p.shared) inst

/-- The left machine, on which units are loaded when they are called, alongside the right one. -/
structure Alongside (p : Plan σ) (ready : List FuncId → Outside σ → Prop) (links : Links)
    (m m' : DispatchMachine σ) : Prop where
  separate : links.Separate
  stores : m.store.Linked links m'.store
  codes : ∀ {a b}, links.funcs a b →
    (∃ f g, m.store.funcs[a]? = some f ∧ m'.store.funcs[b]? = some g ∧
      f.Twin links (· = p.shared) g) ∨ p.Detour a b
  table : links.tables p.shared p.shared
  base : ∀ a < p.origin.store.funcs.size, links.funcs a a
  funcs : ∀ a < p.origin.store.funcs.size, m.store.funcs[a]? = p.origin.store.funcs[a]?
  serves : p.origin.store.Serves p.shared m.store
  left : m.host.Stocked ready p.count p.origin.host
  right : m'.host.Stocked ready p.count p.origin.host
  present : ∀ {i}, p.Covers i → m'.host.ledger.table.slot? i = some .installed
  printed : m.host.printed = m'.host.printed
  bodies : ∀ {i}, p.Covers i →
    ∃ y, m'.store.tables[p.shared]? = some y ∧ y.entries[i.slot]? = some (.func (p.body i))
  waiting : ∀ {i}, p.Covers i → m.host.ledger.table.slot? i = some .stub →
    Waiting p links i m.store m'.store
  settled : ∀ {i}, p.Covers i → m.host.ledger.table.slot? i = some .installed →
    Settled p links i m.store m'.store

section Moved

variable {p : Plan σ} {links : Links} {i : FuncId} {s t s' t' : Store HostFunc} {x x' : Table}
  (change : Store.Moved links (· = p.shared) s t s' t') (atX : s.tables[p.shared]? = some x)
  (atX' : s'.tables[p.shared]? = some x') (keeps : x.Keeps x')

include change atX atX' keeps

/-- Nothing that code does to linked stores reaches what is waiting. -/
theorem Waiting.moved (waiting : Waiting p links i s t) : Waiting p links i s' t' where
  slot := by
    obtain ⟨w, atW, slot⟩ := waiting.slot
    obtain rfl := Option.some.inj (atX.symm.trans atW)
    exact ⟨x', atX', (keeps.entries _ (Array.getElem?_eq_some_iff.mp slot).1).trans slot⟩
  funcs := by
    rw [change.funcs.2]
    exact waiting.funcs
  tables k inside := by
    obtain ⟨same, free⟩ := waiting.tables k inside
    exact ⟨(change.unlinked_table free).trans same, free⟩
  memories k inside := by
    obtain ⟨same, free⟩ := waiting.memories k inside
    exact ⟨(change.unlinked_memory free).trans same, free⟩
  globals k inside := by
    obtain ⟨same, free⟩ := waiting.globals k inside
    exact ⟨(change.unlinked_global free).trans same, free⟩
  segments k inside := by
    obtain ⟨same, free⟩ := waiting.segments k inside
    exact ⟨(change.unlinked_segment free).trans same, free⟩

theorem Settled.moved (settled : Settled p links i s t) : Settled p links i s' t' := by
  obtain ⟨w, a, inst, twin, body, atW, slot, left, right, insts, safe⟩ := settled.twin
  obtain rfl := Option.some.inj (atX.symm.trans atW)
  obtain ⟨sameFuncs, sameOthers⟩ := change.funcs
  rw [← sameFuncs] at left
  rw [← sameOthers] at right
  exact ⟨x', a, inst, twin, body, atX',
    (keeps.entries _ (Array.getElem?_eq_some_iff.mp slot).1).trans slot, left, right, insts, safe⟩

end Moved

namespace Alongside

variable {p : Plan σ} {ready : List FuncId → Outside σ → Prop} {links : Links}
  {m m' : DispatchMachine σ}

/-- What code does to linked stores leaves the machines alongside each other. -/
theorem moved {s t : Store HostFunc} (rel : Alongside p ready links m m')
    (change : Store.Moved links (· = p.shared) m.store m'.store s t) :
    Alongside p ready links { m with store := s } { m' with store := t } := by
  obtain ⟨sameFuncs, sameOthers⟩ := change.funcs
  obtain ⟨x, y, atX, atY, linked⟩ := rel.stores.tables rel.table
  obtain ⟨x', y', atX', atY', keepsX, keepsY⟩ :=
    change.kept_table rel.separate rel.table rfl atX atY
  refine ⟨rel.separate, change.linked rel.separate rel.stores, ?_, rel.table, rel.base, ?_,
    ⟨?_, ?_⟩, rel.left, rel.right, rel.present, rel.printed, ?_, ?_, ?_⟩
  · intro a b place
    dsimp only
    rw [sameFuncs, sameOthers]
    exact rel.codes place
  · dsimp only
    rw [sameFuncs]
    exact rel.funcs
  · dsimp only
    rw [sameFuncs]
    exact rel.serves.println
  · obtain ⟨z, w, atZ, atW, grows⟩ := rel.serves.table
    obtain rfl := Option.some.inj (atX.symm.trans atW)
    exact ⟨z, x', atZ, atX', ⟨keepsX.elem.trans grows.elem, keepsX.most.trans grows.most,
      Nat.le_trans grows.size keepsX.size⟩⟩
  · intro i covered
    obtain ⟨w, atW, slot⟩ := rel.bodies covered
    obtain rfl := Option.some.inj (atY.symm.trans atW)
    exact ⟨y', atY', (keepsY.entries _ (Array.getElem?_eq_some_iff.mp slot).1).trans slot⟩
  · exact fun covered stub => (rel.waiting covered stub).moved change atX atX' keepsX
  · exact fun covered installed => (rel.settled covered installed).moved change atX atX' keepsX

theorem outlasting : Outlasting (Alongside p ready) (· = p.shared) where
  stores rel := rel.stores
  moved rel change := rel.moved change

section Load

variable {i : FuncId} {store : Store HostFunc}

/-- The links after the unit of a function was loaded on the left. -/
abbrev linked (p : Plan σ) (links : Links) (i : FuncId) (s : Store HostFunc) : Links :=
  links.join (Links.fresh (p.unit i) s (p.before i))

theorem separate_linked (rel : Alongside p ready links m m')
    (waiting : Waiting p links i m.store m'.store) :
    (linked p links i m.store).Separate where
  tables := by
    refine rel.separate.tables.join (fun place => ?_) fun a k inside =>
      (waiting.tables k inside).2 a
    obtain ⟨x, _, atX, _⟩ := rel.stores.tables place
    exact (Array.getElem?_eq_some_iff.mp atX).1
  memories := by
    refine rel.separate.memories.join (fun place => ?_) fun a k inside =>
      (waiting.memories k inside).2 a
    obtain ⟨z, atZ, _⟩ := rel.stores.memories place
    exact (Array.getElem?_eq_some_iff.mp atZ).1
  globals := by
    refine rel.separate.globals.join (fun place => ?_) fun a k inside =>
      (waiting.globals k inside).2 a
    obtain ⟨x, _, atX, _⟩ := rel.stores.globals place
    exact (Array.getElem?_eq_some_iff.mp atX).1
  segments := by
    refine rel.separate.segments.join (fun place => ?_) fun a k inside =>
      (waiting.segments k inside).2 a
    obtain ⟨x, _, atX, _⟩ := rel.stores.segments place
    exact (Array.getElem?_eq_some_iff.mp atX).1

/-- What the unit calls its own is linked to what the unit on the right calls its own. -/
theorem insts_linked (rel : Alongside p ready links m m') (sound : p.Sound) :
    ((p.unit i).instanceAt (FunctionUnit.supplies (p.unit i) p.shared) m.store).Linked
      (linked p links i m.store)
      ((p.unit i).instanceAt (FunctionUnit.supplies (p.unit i) p.shared) (p.before i)) := by
  have println : printlnAddr < p.origin.store.funcs.size :=
    (Array.getElem?_eq_some_iff.mp sound.hosts.2).1
  have given : ∀ item ∈ FunctionUnit.supplies (p.unit i) p.shared,
      item = .table p.shared ∨ item = .func printlnAddr := by
    intro item listed
    obtain ⟨wanted, _, rfl⟩ := List.mem_map.mp listed
    unfold FunctionUnit.supply
    split
    · exact .inl rfl
    · exact .inr rfl
  refine instanceAt_linked (Links.le_join_right _ _) (fun a listed => ?_) (fun a listed => ?_)
    (fun a listed => ?_) (fun a listed => ?_)
  · obtain other | same := given _ listed
    · cases other
    · cases same
      exact .inl (rel.base _ println)
  · obtain same | other := given _ listed
    · cases same
      exact .inl rel.table
    · cases other
  · obtain other | other := given _ listed <;> cases other
  · obtain other | other := given _ listed <;> cases other

theorem new_func {k : Nat}
    (placed : FunctionUnit.Placed (p.unit i) i (p.own i) p.shared m.store store)
    (made : FunctionUnit.Placed (p.unit i) i (p.own i) p.shared (p.before i) (p.after i))
    (waiting : Waiting p links i m.store m'.store) (inside : k < (p.unit i).funcs.length) :
    store.funcs[m.store.funcs.size + k]? = some (Module.newFunc (p.unit i)
        ((p.unit i).instanceAt (FunctionUnit.supplies (p.unit i) p.shared) m.store)
        (p.unit i).funcs[k]) ∧
      m'.store.funcs[(p.before i).funcs.size + k]? = some (Module.newFunc (p.unit i)
        ((p.unit i).instanceAt (FunctionUnit.supplies (p.unit i) p.shared) (p.before i))
        (p.unit i).funcs[k]) := by
  constructor
  · rw [placed.funcs]
    simp [inside]
  · rw [waiting.funcs k inside, made.funcs]
    simp [inside]

theorem unit_safe (sound : p.Sound) (covered : p.Covers i) {s : Store HostFunc}
    (shared : p.shared < s.tables.size)
    (linking : FunctionUnit.Linking (p.unit i) p.shared) :
    ∀ func ∈ (p.unit i).funcs, ∀ o ∈ func.body.ops, o.Safe (· = p.shared)
      ((p.unit i).instanceAt (FunctionUnit.supplies (p.unit i) p.shared) s) := by
  intro func listed o inside k a written found
  have imported := (sound.installable covered).installs.unwritten func listed o inside k written
  obtain ⟨j, rfl⟩ := Nat.exists_eq_add_of_le imported
  rw [linking.tables_offset s j] at found
  split at found
  · obtain rfl := Option.some.inj found
    dsimp only
    omega
  · cases found

/-- The slot in the shared table now stands for the same function on both sides. -/
theorem shared_linked {x y z : Table} (linkedTables : x.Linked links z) (grows : x.Grows y)
    (slot : y.entries[i.slot]? = some (.func (m.store.funcs.size + p.own i)))
    (rest : ∀ k, k ≠ i.slot → y.entries[k]? = x.entries[k]?)
    (body : z.entries[i.slot]? = some (.func (p.body i)))
    (inside : p.own i < (p.unit i).funcs.length) : y.Linked (linked p links i m.store) z where
  elem := grows.elem.trans linkedTables.elem
  most := grows.most.trans linkedTables.most
  entries k := by
    by_cases here : k = i.slot
    · rw [here, slot, body]
      exact .some (.func (.inr ⟨p.own i, inside, rfl, rfl⟩))
    · rw [rest k here]
      exact option_rel_mono (fun _ _ => Ref.Linked.mono (Links.le_join_left _ _))
        (linkedTables.entries k)

theorem stores_linked (rel : Alongside p ready links m m') (sound : p.Sound)
    (covered : p.Covers i) (waiting : Waiting p links i m.store m'.store)
    (placed : FunctionUnit.Placed (p.unit i) i (p.own i) p.shared m.store store)
    (made : FunctionUnit.Placed (p.unit i) i (p.own i) p.shared (p.before i) (p.after i))
    (fresh : FunctionUnit.Fresh (linked p links i m.store) (p.unit i) m.store (p.before i) store
      (p.after i)) :
    store.Linked (linked p links i m.store) m'.store where
  funcs := by
    rintro a b (old | ⟨k, inside, rfl, rfl⟩)
    · obtain ⟨f, g, atF, atG, types⟩ := rel.stores.funcs old
      refine ⟨f, g, ?_, atG, types⟩
      rw [placed.funcs, Array.getElem?_append_left (Array.getElem?_eq_some_iff.mp atF).1]
      exact atF
    · obtain ⟨left, right⟩ := new_func placed made waiting inside
      exact ⟨_, _, left, right, rfl⟩
  tables := by
    obtain ⟨_, own, _⟩ := (sound.installable covered).installs.func
    have known : p.own i < (p.unit i).funcs.length := (List.getElem?_eq_some_iff.mp own).1
    rintro a b (old | ⟨k, inside, rfl, rfl⟩)
    · -- Of the old tables only the shared one changed, and it only in the slot.
      obtain ⟨x, z, atX, atZ, same⟩ := rel.stores.tables old
      by_cases here : a = p.shared
      · subst here
        obtain rfl := (rel.separate.tables old rel.table).mp rfl
        obtain ⟨x', y, atX', atY, grows, slot, rest⟩ := placed.tables.slot
        obtain rfl := Option.some.inj (atX.symm.trans atX')
        obtain ⟨z', atZ', body⟩ := rel.bodies covered
        obtain rfl := Option.some.inj (atZ.symm.trans atZ')
        exact ⟨y, z, atY, atZ, shared_linked same grows slot rest body known⟩
      · have below := (Array.getElem?_eq_some_iff.mp atX).1
        exact ⟨x, z, (placed.tables.others a below here).trans atX, atZ,
          same.mono (Links.le_join_left _ _)⟩
    · obtain ⟨x, z, atX, atZ, same⟩ := fresh.tables k inside
      exact ⟨x, z, atX, (waiting.tables k inside).1.trans atZ, same⟩
  memories := by
    rintro a b (old | ⟨k, inside, rfl, rfl⟩)
    · obtain ⟨z, atA, atB⟩ := rel.stores.memories old
      have below := (Array.getElem?_eq_some_iff.mp atA).1
      refine ⟨z, ?_, atB⟩
      rw [placed.memories.items a below, Array.getElem?_append_left below]
      exact atA
    · obtain ⟨z, _, atA, atB, rfl⟩ := fresh.memories k inside
      exact ⟨z, atA, (waiting.memories k inside).1.trans atB⟩
  globals := by
    rintro a b (old | ⟨k, inside, rfl, rfl⟩)
    · obtain ⟨x, z, atX, atZ, same⟩ := rel.stores.globals old
      have below := (Array.getElem?_eq_some_iff.mp atX).1
      refine ⟨x, z, ?_, atZ, same.type, same.value.mono (Links.le_join_left _ _)⟩
      rw [placed.globals, Array.getElem?_append_left below]
      exact atX
    · obtain ⟨x, z, atX, atZ, same⟩ := fresh.globals k inside
      exact ⟨x, z, atX, (waiting.globals k inside).1.trans atZ, same⟩
  segments := by
    rintro a b (old | ⟨k, inside, rfl, rfl⟩)
    · obtain ⟨x, z, atX, atZ, same⟩ := rel.stores.segments old
      have below := (Array.getElem?_eq_some_iff.mp atX).1
      refine ⟨x, z, ?_, atZ, same.mono (Links.le_join_left _ _)⟩
      rw [placed.segments, Array.getElem?_append_left below]
      exact atX
    · obtain ⟨x, z, atX, atZ, same⟩ := fresh.segments k inside
      exact ⟨x, z, atX, (waiting.segments k inside).1.trans atZ, same⟩

theorem codes_linked (rel : Alongside p ready links m m') (sound : p.Sound)
    (covered : p.Covers i) (waiting : Waiting p links i m.store m'.store)
    (linking : FunctionUnit.Linking (p.unit i) p.shared)
    (placed : FunctionUnit.Placed (p.unit i) i (p.own i) p.shared m.store store)
    (made : FunctionUnit.Placed (p.unit i) i (p.own i) p.shared (p.before i) (p.after i))
    {a b : Nat} (place : (linked p links i m.store).funcs a b) :
    (∃ f g, store.funcs[a]? = some f ∧ m'.store.funcs[b]? = some g ∧
      f.Twin (linked p links i m.store) (· = p.shared) g) ∨ p.Detour a b := by
  rcases place with old | ⟨k, inside, rfl, rfl⟩
  · obtain ⟨f, g, atF, atG, twin⟩ | detour := rel.codes old
    · left
      refine ⟨f, g, ?_, atG, twin.mono (Links.le_join_left _ _)⟩
      rw [placed.funcs, Array.getElem?_append_left (Array.getElem?_eq_some_iff.mp atF).1]
      exact atF
    · exact .inr detour
  · left
    obtain ⟨left, right⟩ := new_func placed made waiting inside
    obtain ⟨x, _, atX, _⟩ := rel.stores.tables rel.table
    exact ⟨_, _, left, right, .guest _ (rel.insts_linked sound)
      (unit_safe sound covered (Array.getElem?_eq_some_iff.mp atX).1 linking _
        (List.getElem_mem inside))⟩

theorem waiting_others (sound : p.Sound) (covered : p.Covers i) {j : FuncId} (others : p.Covers j)
    (different : j ≠ i) (waiting : Waiting p links j m.store m'.store)
    (placed : FunctionUnit.Placed (p.unit i) i (p.own i) p.shared m.store store) :
    Waiting p (linked p links i m.store) j store m'.store := by
  have madeI := sound.made covered
  have madeJ := sound.made others
  have apart := sound.apart covered others different
  obtain ⟨⟨x, atX, slot⟩, funcs, tables, memories, globals, segments⟩ := waiting
  refine ⟨?_, funcs, fun k inside => ⟨(tables k inside).1, ?_⟩,
    fun k inside => ⟨(memories k inside).1, ?_⟩, fun k inside => ⟨(globals k inside).1, ?_⟩,
    fun k inside => ⟨(segments k inside).1, ?_⟩⟩
  · obtain ⟨x', y, atX', atY, _, _, rest⟩ := placed.tables.slot
    obtain rfl := Option.some.inj (atX.symm.trans atX')
    exact ⟨y, atY, (rest _ fun same => different (FuncId.slot_injective same)).trans slot⟩
  · rintro a (old | ⟨k', inside', _, same⟩)
    · exact (tables k inside).2 a old
    · have sizeI := madeI.tables.size
      have sizeJ := madeJ.tables.size
      rcases apart with first | first
      · have bound := first.tables
        omega
      · have bound := first.tables
        omega
  · rintro a (old | ⟨k', inside', _, same⟩)
    · exact (memories k inside).2 a old
    · have sizeI := madeI.memories.size
      have sizeJ := madeJ.memories.size
      simp only [Array.size_append, List.size_toArray, List.length_map] at sizeI sizeJ
      rcases apart with first | first
      · have bound := first.memories
        omega
      · have bound := first.memories
        omega
  · rintro a (old | ⟨k', inside', _, same⟩)
    · exact (globals k inside).2 a old
    · have sizeI := congrArg Array.size madeI.globals
      have sizeJ := congrArg Array.size madeJ.globals
      simp only [Array.size_append, List.size_toArray, List.length_map] at sizeI sizeJ
      rcases apart with first | first
      · have bound := first.globals
        omega
      · have bound := first.globals
        omega
  · rintro a (old | ⟨k', inside', _, same⟩)
    · exact (segments k inside).2 a old
    · have sizeI := congrArg Array.size madeI.segments
      have sizeJ := congrArg Array.size madeJ.segments
      simp only [Array.size_append, List.size_toArray, List.length_append, List.length_map]
        at sizeI sizeJ
      rcases apart with first | first
      · have bound := first.segments
        omega
      · have bound := first.segments
        omega

theorem settled_here (rel : Alongside p ready links m m') (sound : p.Sound)
    (covered : p.Covers i) (waiting : Waiting p links i m.store m'.store)
    (placed : FunctionUnit.Placed (p.unit i) i (p.own i) p.shared m.store store) :
    Settled p (linked p links i m.store) i store m'.store := by
  obtain ⟨func, own, typed⟩ := (sound.installable covered).installs.func
  obtain ⟨known, same⟩ := List.getElem?_eq_some_iff.mp own
  obtain ⟨left, right⟩ := new_func placed (sound.made covered) waiting known
  obtain ⟨_, y, _, atY, _, slot, _⟩ := placed.tables.slot
  obtain ⟨x, _, atX, _⟩ := rel.stores.tables rel.table
  have safe := unit_safe sound covered (Array.getElem?_eq_some_iff.mp atX).1
    (sound.linking covered).1 func (same ▸ List.getElem_mem known)
  unfold Module.newFunc at left right
  rw [same, typed] at left right
  exact ⟨y, _, _, _, func, atY, slot, left, right, rel.insts_linked sound, safe⟩

theorem settled_others {j : FuncId} (different : j ≠ i)
    (settled : Settled p links j m.store m'.store)
    (placed : FunctionUnit.Placed (p.unit i) i (p.own i) p.shared m.store store) :
    Settled p (linked p links i m.store) j store m'.store := by
  obtain ⟨x, a, inst, twin, body, atX, slot, left, right, insts, safe⟩ := settled.twin
  obtain ⟨x', y, atX', atY, _, _, rest⟩ := placed.tables.slot
  obtain rfl := Option.some.inj (atX.symm.trans atX')
  refine ⟨y, a, inst, twin, body, atY,
    (rest _ fun same => different (FuncId.slot_injective same)).trans slot, ?_, right,
    insts.mono (Links.le_join_left _ _), safe⟩
  rw [placed.funcs, Array.getElem?_append_left (Array.getElem?_eq_some_iff.mp left).1]
  exact left

end Load

/-- Loading the unit of a function on the left gives both machines the function. -/
theorem load {i : FuncId} (rel : Alongside p ready links m m') (sound : p.Sound)
    (covered : p.Covers i) (stub : m.host.ledger.table.slot? i = some .stub) :
    ∃ store more, links ≤ more ∧
      (∀ (run : Invoker HostFunc (HostState σ) Session.Fault) (host : HostState σ),
        host.println = some printlnAddr →
          FunctionUnit.load run i p.shared (p.blob i) { m with host } =
            (.ok ⟨i, (p.blob i).length⟩, ⟨store, host⟩)) ∧
      ∀ {host host' : HostState σ}, host.Stocked ready p.count p.origin.host →
        host'.Stocked ready p.count p.origin.host →
        (∀ j, host.ledger.table.slot? j =
          if j = i then some .installed else m.host.ledger.table.slot? j) →
        host'.ledger = m'.host.ledger → host.printed = host'.printed →
        Alongside p ready more ⟨store, host⟩ { m' with host := host' } := by
  have able := sound.installable covered
  have waiting := rel.waiting covered stub
  obtain ⟨linking, fixed⟩ := sound.linking covered
  have made := sound.made covered
  obtain ⟨run, unit, after, loaded⟩ := able.loads
  obtain ⟨x, atX, slot⟩ := able.slot
  have inside := (Array.getElem?_eq_some_iff.mp slot).1
  obtain ⟨store, found, placed, loads⟩ := FunctionUnit.load_again able.installs able.built
    sound.printing loaded rel.serves atX inside
  obtain ⟨z, atZ, inLeft⟩ := sound.slot_inside covered rel.serves
  obtain ⟨y, atY, inRight⟩ := sound.slot_inside covered (sound.serves covered)
  obtain ⟨_, _, fresh⟩ := option_rel_some (FunctionUnit.place_twice able.installs fixed linking atZ
    atY inLeft inRight (rel.insts_linked sound)) found (sound.placed covered)
  refine ⟨store, linked p links i m.store, Links.le_join_left _ _, loads,
    fun {host host'} left right slots ledger printed => ?_⟩
  have kept : ∀ a < m.store.funcs.size, store.funcs[a]? = m.store.funcs[a]? := by
    intro a below
    rw [placed.funcs, Array.getElem?_append_left below]
  have early : ∀ a < p.origin.store.funcs.size, a < m.store.funcs.size := by
    intro a below
    obtain ⟨f, _, atF, _⟩ := rel.stores.funcs (rel.base a below)
    exact (Array.getElem?_eq_some_iff.mp atF).1
  have println := (Array.getElem?_eq_some_iff.mp sound.hosts.2).1
  refine ⟨rel.separate_linked waiting, rel.stores_linked sound covered waiting placed made fresh,
    fun place => rel.codes_linked sound covered waiting linking placed made place, .inl rel.table,
    fun a below => .inl (rel.base a below), fun a below => ?_, ⟨?_, ?_⟩, left, right, ?_, printed,
    rel.bodies, ?_, ?_⟩
  · exact (kept a (early a below)).trans (rel.funcs a below)
  · exact (kept _ (early _ println)).trans rel.serves.println
  · obtain ⟨first, middle, atFirst, atMiddle, grows⟩ := rel.serves.table
    obtain ⟨middle', last, atMiddle', atLast, grows', _⟩ := placed.tables.slot
    obtain rfl := Option.some.inj (atMiddle.symm.trans atMiddle')
    exact ⟨first, last, atFirst, atLast, grows'.elem.trans grows.elem,
      grows'.most.trans grows.most, Nat.le_trans grows.size grows'.size⟩
  · intro j others
    dsimp only
    rw [ledger]
    exact rel.present others
  · intro j others isStub
    dsimp only at isStub
    rw [slots j] at isStub
    split at isStub
    · cases isStub
    · next different =>
      exact waiting_others sound covered others different (rel.waiting others isStub) placed
  · intro j others installed
    dsimp only at installed
    rw [slots j] at installed
    split at installed
    · next same =>
      subst same
      exact rel.settled_here sound covered waiting placed
    · next different => exact settled_others different (rel.settled others installed) placed

end Alongside

end FirstCall
