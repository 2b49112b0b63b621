import Mathlib.Data.List.Forall2
import Mathlib.Data.Option.Basic
import FirstCall.Wasm.Instantiate

/-!
# Linked stores

Two stores can hold the same things at different addresses. Links say which addresses correspond;
values, frames, tables and stores are linked if they agree up to these addresses. Stores in which one
pair of linked items changes alike stay linked.
-/

namespace FirstCall.Wasm

variable {κ : Type}

/-- Which addresses of two stores correspond. -/
structure Links where
  funcs : Nat → Nat → Prop
  tables : Nat → Nat → Prop
  memories : Nat → Nat → Prop
  globals : Nat → Nat → Prop
  segments : Nat → Nat → Prop

/-- Links are extended by more of them. -/
instance : LE Links where
  le links more :=
    (∀ a b, links.funcs a b → more.funcs a b) ∧ (∀ a b, links.tables a b → more.tables a b) ∧
      (∀ a b, links.memories a b → more.memories a b) ∧
      (∀ a b, links.globals a b → more.globals a b) ∧
      ∀ a b, links.segments a b → more.segments a b

/-- A relation that links each address to at most one, in both directions. -/
def OneToOne (R : Nat → Nat → Prop) : Prop :=
  ∀ ⦃a b a' b'⦄, R a b → R a' b' → (a = a' ↔ b = b')

namespace Links

theorem le_refl (links : Links) : links ≤ links :=
  ⟨fun _ _ h => h, fun _ _ h => h, fun _ _ h => h, fun _ _ h => h, fun _ _ h => h⟩

theorem le_trans {first middle last : Links} (head : first ≤ middle) (tail : middle ≤ last) :
    first ≤ last := by
  obtain ⟨funcs, tables, memories, globals, segments⟩ := head
  obtain ⟨moreFuncs, moreTables, moreMemories, moreGlobals, moreSegments⟩ := tail
  exact ⟨fun a b h => moreFuncs a b (funcs a b h), fun a b h => moreTables a b (tables a b h),
    fun a b h => moreMemories a b (memories a b h), fun a b h => moreGlobals a b (globals a b h),
    fun a b h => moreSegments a b (segments a b h)⟩

/-- All addresses correspond. -/
def all : Links :=
  ⟨fun _ _ => True, fun _ _ => True, fun _ _ => True, fun _ _ => True, fun _ _ => True⟩

theorem le_all (links : Links) : links ≤ all :=
  ⟨fun _ _ _ => trivial, fun _ _ _ => trivial, fun _ _ _ => trivial, fun _ _ _ => trivial,
    fun _ _ _ => trivial⟩

/-- Both sorts of links together. -/
def join (links more : Links) : Links where
  funcs a b := links.funcs a b ∨ more.funcs a b
  tables a b := links.tables a b ∨ more.tables a b
  memories a b := links.memories a b ∨ more.memories a b
  globals a b := links.globals a b ∨ more.globals a b
  segments a b := links.segments a b ∨ more.segments a b

theorem le_join_left (links more : Links) : links ≤ links.join more :=
  ⟨fun _ _ => .inl, fun _ _ => .inl, fun _ _ => .inl, fun _ _ => .inl, fun _ _ => .inl⟩

theorem le_join_right (links more : Links) : more ≤ links.join more :=
  ⟨fun _ _ => .inr, fun _ _ => .inr, fun _ _ => .inr, fun _ _ => .inr, fun _ _ => .inr⟩

/-- Items that can change are linked one to one. -/
structure Separate (links : Links) : Prop where
  tables : OneToOne links.tables
  memories : OneToOne links.memories
  globals : OneToOne links.globals
  segments : OneToOne links.segments

end Links

/-- New addresses on the left can be linked to free ones on the right, one after the other. -/
theorem OneToOne.join {R : Nat → Nat → Prop} {base other count : Nat} (single : OneToOne R)
    (below : ∀ {a b}, R a b → a < base) (free : ∀ a, ∀ k < count, ¬ R a (other + k)) :
    OneToOne fun a b => R a b ∨ ∃ k < count, a = base + k ∧ b = other + k := by
  rintro a b c d (old | ⟨k, inside, rfl, rfl⟩) (old' | ⟨j, inside', rfl, rfl⟩)
  · exact single old old'
  · have apart := below old
    refine iff_of_false (by omega) ?_
    rintro rfl
    exact free a j inside' old
  · have apart := below old'
    refine iff_of_false (by omega) ?_
    rintro rfl
    exact free c k inside old'
  · omega

inductive Ref.Linked (links : Links) : Ref → Ref → Prop where
  | null : Linked links .null .null
  | func {a b : Nat} (at' : links.funcs a b) : Linked links (.func a) (.func b)

/-- Values that agree up to their references. -/
inductive Value.Linked (links : Links) : Value → Value → Prop where
  | i32 (x : UInt32) : Linked links (.i32 x) (.i32 x)
  | i64 (x : UInt64) : Linked links (.i64 x) (.i64 x)
  | f32 (x : UInt32) : Linked links (.f32 x) (.f32 x)
  | f64 (x : UInt64) : Linked links (.f64 x) (.f64 x)
  | v128 (x : BitVec 128) : Linked links (.v128 x) (.v128 x)
  | ref {r q : Ref} (linked : r.Linked links q) : Linked links (.ref r) (.ref q)

abbrev Values (links : Links) : List Value → List Value → Prop :=
  List.Forall₂ (Value.Linked links)

theorem Value.ofBits_linked {links : Links} (type : ValType) (bits : Nat) :
    (Value.ofBits type bits).Linked links (Value.ofBits type bits) := by
  cases type with
  | ref kind => exact .ref .null
  | i32 => exact .i32 _
  | i64 => exact .i64 _
  | f32 => exact .f32 _
  | f64 => exact .f64 _
  | v128 => exact .v128 _

theorem ValType.zero_linked {links : Links} (type : ValType) :
    type.zero.Linked links type.zero := Value.ofBits_linked type 0

theorem Value.bits?_linked {links : Links} {v w : Value} (linked : v.Linked links w)
    (type : ValType) : v.bits? type = w.bits? type := by
  cases linked with
  | ref refs => cases type <;> rfl
  | _ => rfl

structure Frame.Linked (links : Links) (f g : Frame) : Prop where
  locals : Values links f.locals g.locals
  stack : Values links f.stack g.stack

/-- Instances whose indices stand for linked addresses. -/
structure Instance.Linked (links : Links) (inst other : Instance) : Prop where
  types : inst.types = other.types
  funcs : ∀ k : Nat, Option.Rel links.funcs inst.funcs[k]? other.funcs[k]?
  tables : ∀ k : Nat, Option.Rel links.tables inst.tables[k]? other.tables[k]?
  memories : ∀ k : Nat, Option.Rel links.memories inst.memories[k]? other.memories[k]?
  globals : ∀ k : Nat, Option.Rel links.globals inst.globals[k]? other.globals[k]?
  elems : ∀ k : Nat, Option.Rel links.segments inst.elems[k]? other.elems[k]?
  datas : ∀ k : Nat, Option.Rel links.segments inst.datas[k]? other.datas[k]?

structure Table.Linked (links : Links) (x y : Table) : Prop where
  elem : x.elem = y.elem
  most : x.most = y.most
  entries : ∀ k : Nat, Option.Rel (Ref.Linked links) x.entries[k]? y.entries[k]?

structure GlobalInst.Linked (links : Links) (x y : GlobalInst) : Prop where
  type : x.type = y.type
  value : x.value.Linked links y.value

structure Segment.Linked (links : Links) (x y : Segment) : Prop where
  refs : List.Forall₂ (Ref.Linked links) x.refs y.refs
  bytes : x.bytes = y.bytes

/-- Linked addresses hold items that agree. -/
structure Store.Linked (links : Links) (s t : Store κ) : Prop where
  funcs : ∀ {a b}, links.funcs a b →
    ∃ f g, s.funcs[a]? = some f ∧ t.funcs[b]? = some g ∧ f.type = g.type
  tables : ∀ {a b}, links.tables a b →
    ∃ x y, s.tables[a]? = some x ∧ t.tables[b]? = some y ∧ x.Linked links y
  memories : ∀ {a b}, links.memories a b →
    ∃ z, s.memories[a]? = some z ∧ t.memories[b]? = some z
  globals : ∀ {a b}, links.globals a b →
    ∃ x y, s.globals[a]? = some x ∧ t.globals[b]? = some y ∧ x.Linked links y
  segments : ∀ {a b}, links.segments a b →
    ∃ x y, s.segments[a]? = some x ∧ t.segments[b]? = some y ∧ x.Linked links y

theorem option_rel_mono {α β : Type} {R S : α → β → Prop} (imp : ∀ a b, R a b → S a b)
    {x : Option α} {y : Option β} (rel : Option.Rel R x y) : Option.Rel S x y := by
  cases rel with
  | none => exact .none
  | some h => exact .some (imp _ _ h)

theorem option_rel_cases {α β : Type} {R : α → β → Prop} {x : Option α} {y : Option β}
    (rel : Option.Rel R x y) : x = none ∧ y = none ∨ ∃ a b, x = some a ∧ y = some b ∧ R a b := by
  cases rel with
  | none => exact .inl ⟨rfl, rfl⟩
  | some h => exact .inr ⟨_, _, rfl, rfl, h⟩

theorem option_rel_some {α β : Type} {R : α → β → Prop} {x : Option α} {y : Option β} {a : α}
    {b : β} (rel : Option.Rel R x y) (left : x = some a) (right : y = some b) : R a b := by
  subst left right
  cases rel with
  | some h => exact h

section Mono

variable {links more : Links} (le : links ≤ more)

include le

theorem Ref.Linked.mono {r q : Ref} (linked : r.Linked links q) : r.Linked more q := by
  cases linked with
  | null => exact .null
  | func place => exact .func (le.1 _ _ place)

theorem Value.Linked.mono {v w : Value} (linked : v.Linked links w) : v.Linked more w := by
  cases linked with
  | i32 x => exact .i32 x
  | i64 x => exact .i64 x
  | f32 x => exact .f32 x
  | f64 x => exact .f64 x
  | v128 x => exact .v128 x
  | ref refs => exact .ref (refs.mono le)

theorem Values.mono {vs ws : List Value} (linked : Values links vs ws) : Values more vs ws :=
  List.Forall₂.imp (fun _ _ => Value.Linked.mono le) linked

theorem Instance.Linked.mono {inst other : Instance} (linked : inst.Linked links other) :
    inst.Linked more other where
  types := linked.types
  funcs k := option_rel_mono le.1 (linked.funcs k)
  tables k := option_rel_mono le.2.1 (linked.tables k)
  memories k := option_rel_mono le.2.2.1 (linked.memories k)
  globals k := option_rel_mono le.2.2.2.1 (linked.globals k)
  elems k := option_rel_mono le.2.2.2.2 (linked.elems k)
  datas k := option_rel_mono le.2.2.2.2 (linked.datas k)

theorem Table.Linked.mono {x y : Table} (linked : x.Linked links y) : x.Linked more y where
  elem := linked.elem
  most := linked.most
  entries k := option_rel_mono (fun _ _ => Ref.Linked.mono le) (linked.entries k)

theorem Segment.Linked.mono {x y : Segment} (linked : x.Linked links y) : x.Linked more y :=
  ⟨List.Forall₂.imp (fun _ _ => Ref.Linked.mono le) linked.refs, linked.bytes⟩

end Mono

theorem Segment.empty_linked (links : Links) : Segment.empty.Linked links .empty := ⟨.nil, rfl⟩

theorem Table.Linked.size {links : Links} {x y : Table} (linked : x.Linked links y) :
    x.size = y.size := by
  have ends : ∀ k, x.size ≤ k ↔ y.size ≤ k := by
    intro k
    unfold Table.size
    rw [← Array.getElem?_eq_none_iff, ← Array.getElem?_eq_none_iff]
    obtain ⟨left, right⟩ | ⟨_, _, left, right, _⟩ := option_rel_cases (linked.entries k)
    · rw [left, right]
    · rw [left, right]
      exact iff_of_false nofun nofun
  exact Nat.le_antisymm ((ends y.size).mpr (Nat.le_refl _)) ((ends x.size).mp (Nat.le_refl _))

section Lookup

variable {links : Links} {inst other : Instance} {s t : Store κ}
  (insts : inst.Linked links other) (stores : s.Linked links t)

include insts stores

theorem table?_linked (k : Nat) :
    inst.table? s k = none ∧ other.table? t k = none ∨
      ∃ a b x y, inst.table? s k = some (a, x) ∧ other.table? t k = some (b, y) ∧
        inst.tables[k]? = some a ∧ links.tables a b ∧ s.tables[a]? = some x ∧
        t.tables[b]? = some y ∧ x.Linked links y := by
  unfold Instance.table?
  obtain ⟨left, right⟩ | ⟨a, b, left, right, place⟩ := option_rel_cases (insts.tables k)
  · exact .inl ⟨by rw [left]; rfl, by rw [right]; rfl⟩
  · obtain ⟨x, y, atX, atY, linked⟩ := stores.tables place
    refine .inr ⟨a, b, x, y, ?_, ?_, left, place, atX, atY, linked⟩
    · simp [left, atX]
    · simp [right, atY]

theorem memory?_linked (k : Nat) :
    inst.memory? s k = none ∧ other.memory? t k = none ∨
      ∃ a b z, inst.memory? s k = some (a, z) ∧ other.memory? t k = some (b, z) ∧
        links.memories a b ∧ s.memories[a]? = some z ∧ t.memories[b]? = some z := by
  unfold Instance.memory?
  obtain ⟨left, right⟩ | ⟨a, b, left, right, place⟩ := option_rel_cases (insts.memories k)
  · exact .inl ⟨by rw [left]; rfl, by rw [right]; rfl⟩
  · obtain ⟨z, atA, atB⟩ := stores.memories place
    refine .inr ⟨a, b, z, ?_, ?_, place, atA, atB⟩
    · simp [left, atA]
    · simp [right, atB]

theorem global?_linked (k : Nat) :
    inst.global? s k = none ∧ other.global? t k = none ∨
      ∃ a b x y, inst.global? s k = some (a, x) ∧ other.global? t k = some (b, y) ∧
        links.globals a b ∧ x.value.Linked links y.value := by
  unfold Instance.global?
  obtain ⟨left, right⟩ | ⟨a, b, left, right, place⟩ := option_rel_cases (insts.globals k)
  · exact .inl ⟨by rw [left]; rfl, by rw [right]; rfl⟩
  · obtain ⟨x, y, atX, atY, linked⟩ := stores.globals place
    refine .inr ⟨a, b, x, y, ?_, ?_, place, linked.value⟩
    · simp [left, atX]
    · simp [right, atY]

end Lookup

theorem segment?_linked {links : Links} {s t : Store κ} {addresses others : Array Nat}
    (linked : ∀ k : Nat, Option.Rel links.segments addresses[k]? others[k]?)
    (stores : s.Linked links t) (k : Nat) :
    addresses[k]? = none ∧ others[k]? = none ∨
      ∃ a b x y, addresses[k]? = some a ∧ others[k]? = some b ∧ links.segments a b ∧
        s.segments[a]? = some x ∧ t.segments[b]? = some y ∧ x.Linked links y := by
  obtain ⟨left, right⟩ | ⟨a, b, left, right, place⟩ := option_rel_cases (linked k)
  · exact .inl ⟨left, right⟩
  · obtain ⟨x, y, atX, atY, same⟩ := stores.segments place
    exact .inr ⟨a, b, x, y, left, right, place, atX, atY, same⟩

theorem forall₂_getElem? {α β : Type} {R : α → β → Prop} {l : List α} {m : List β}
    (linked : List.Forall₂ R l m) (k : Nat) : Option.Rel R l[k]? m[k]? := by
  induction linked generalizing k with
  | nil => exact .none
  | cons head tail ih =>
    cases k with
    | zero => exact .some head
    | succ k => exact ih k

theorem forall₂_of_getElem? {α β : Type} {R : α → β → Prop} {l : List α} {m : List β}
    (linked : ∀ k : Nat, Option.Rel R l[k]? m[k]?) : List.Forall₂ R l m := by
  induction l generalizing m with
  | nil =>
    cases m with
    | nil => exact .nil
    | cons y m => cases linked 0
  | cons x l ih =>
    cases m with
    | nil => cases linked 0
    | cons y m => exact .cons (option_rel_some (linked 0) rfl rfl) (ih fun k => linked (k + 1))

structure Table.Grows (x y : Table) : Prop where
  elem : y.elem = x.elem
  most : y.most = x.most
  size : x.size ≤ y.size

structure Table.Keeps (x y : Table) : Prop extends Table.Grows x y where
  entries : ∀ k < x.size, y.entries[k]? = x.entries[k]?

namespace Table

theorem Grows.of_write? {x y : Table} {start : Nat} {refs : List Ref}
    (written : x.write? start refs = some y) : x.Grows y := by
  unfold write? at written
  split at written
  · cases written
    exact ⟨rfl, rfl, Nat.le_of_eq (size_store _ _ _).symm⟩
  · cases written

theorem Keeps.of_grow? {x y : Table} {more : Nat} {entry : Ref}
    (grown : x.grow? more entry = some y) : x.Keeps y := by
  unfold grow? at grown
  split at grown
  · cases grown
    refine ⟨⟨rfl, rfl, ?_⟩, fun k inside => ?_⟩
    · simp [size]
    · rw [Array.getElem?_append_left inside]
  · cases grown

variable {links : Links} {x y : Table}

theorem Linked.write? {refs others : List Ref} (linked : x.Linked links y)
    (same : List.Forall₂ (Ref.Linked links) refs others) (start : Nat) :
    Option.Rel (Table.Linked links) (x.write? start refs) (y.write? start others) := by
  have lengths := same.length_eq
  have sizes := linked.size
  unfold Table.write?
  by_cases fits : start + refs.length ≤ x.size
  · rw [if_pos fits, if_pos (by omega)]
    refine .some ⟨linked.elem, linked.most, fun k => ?_⟩
    rw [getElem?_store _ _ _ _ fits, getElem?_store _ _ _ _ (by unfold Table.size at *; omega),
      ← lengths]
    split
    · exact forall₂_getElem? same _
    · exact linked.entries k
  · rw [if_neg fits, if_neg (by omega)]
    exact .none

theorem Linked.toList (linked : x.Linked links y) :
    List.Forall₂ (Ref.Linked links) x.entries.toList y.entries.toList := by
  apply forall₂_of_getElem?
  intro k
  rw [Array.getElem?_toList, Array.getElem?_toList]
  exact linked.entries k

theorem Linked.grow? {r q : Ref} (linked : x.Linked links y) (same : r.Linked links q)
    (more : Nat) : Option.Rel (Table.Linked links) (x.grow? more r) (y.grow? more q) := by
  have sizes := linked.size
  unfold Table.grow?
  rw [← sizes, ← linked.most]
  split
  · refine .some ⟨linked.elem, rfl, fun k => ?_⟩
    unfold Table.size at sizes
    simp only [Array.getElem?_append, sizes]
    split
    · exact linked.entries k
    · simp only [Array.getElem?_replicate]
      split
      · exact .some same
      · exact .none
  · exact .none

end Table

/-- How code changes linked stores: not at all, or one pair of linked items, after which these are
still linked. Tables in `kept` keep their entries. -/
inductive Store.Moved (links : Links) (kept : Nat → Prop) (s t : Store κ) :
    Store κ → Store κ → Prop where
  | same : Moved links kept s t s t
  | table {a b : Nat} {x y x' y' : Table} (place : links.tables a b) (atX : s.tables[a]? = some x)
      (atY : t.tables[b]? = some y) (left : x.Grows x') (right : y.Grows y')
      (keeps : kept a → x.Keeps x' ∧ y.Keeps y') (linked : x'.Linked links y') :
      Moved links kept s t (s.setTable a x') (t.setTable b y')
  | memory {a b : Nat} (place : links.memories a b) (z : Memory) :
      Moved links kept s t (s.setMemory a z) (t.setMemory b z)
  | global {a b : Nat} {v w : Value} (place : links.globals a b) (linked : v.Linked links w) :
      Moved links kept s t (s.setGlobal a v) (t.setGlobal b w)
  | segment {a b : Nat} (place : links.segments a b) :
      Moved links kept s t (s.dropSegment a) (t.dropSegment b)

namespace Store.Moved

variable {links : Links} {kept : Nat → Prop} {s t s' t' : Store κ}
  (moved : Store.Moved links kept s t s' t')

include moved

theorem funcs : s'.funcs = s.funcs ∧ t'.funcs = t.funcs := by
  cases moved <;> exact ⟨rfl, rfl⟩

/-- Stores that change together stay linked. -/
theorem linked (separate : links.Separate) (stores : s.Linked links t) : s'.Linked links t' := by
  cases moved with
  | same => exact stores
  | @table a b x y x' y' place atX atY left right keeps after =>
    refine ⟨stores.funcs, fun {c d} other => ?_, stores.memories, stores.globals,
      stores.segments⟩
    obtain ⟨z, w, atC, atD, linked⟩ := stores.tables other
    have insideS := (Array.getElem?_eq_some_iff.mp atX).1
    have insideT := (Array.getElem?_eq_some_iff.mp atY).1
    dsimp only [Store.setTable]
    rw [Array.getElem?_setIfInBounds, Array.getElem?_setIfInBounds]
    by_cases here : a = c
    · have there := (separate.tables place other).mp here
      rw [if_pos here, if_pos there, if_pos insideS, if_pos insideT]
      exact ⟨x', y', rfl, rfl, after⟩
    · have there := fun same => here ((separate.tables place other).mpr same)
      rw [if_neg here, if_neg there]
      exact ⟨z, w, atC, atD, linked⟩
  | @memory a b place z =>
    refine ⟨stores.funcs, stores.tables, fun {c d} other => ?_, stores.globals,
      stores.segments⟩
    obtain ⟨old, atA, atB⟩ := stores.memories place
    obtain ⟨w, atC, atD⟩ := stores.memories other
    have insideS := (Array.getElem?_eq_some_iff.mp atA).1
    have insideT := (Array.getElem?_eq_some_iff.mp atB).1
    dsimp only [Store.setMemory]
    rw [Array.getElem?_setIfInBounds, Array.getElem?_setIfInBounds]
    by_cases here : a = c
    · have there := (separate.memories place other).mp here
      rw [if_pos here, if_pos there, if_pos insideS, if_pos insideT]
      exact ⟨z, rfl, rfl⟩
    · have there := fun same => here ((separate.memories place other).mpr same)
      rw [if_neg here, if_neg there]
      exact ⟨w, atC, atD⟩
  | @global a b v w place linked =>
    refine ⟨stores.funcs, stores.tables, stores.memories, fun {c d} other => ?_,
      stores.segments⟩
    obtain ⟨x, y, atC, atD, same⟩ := stores.globals other
    dsimp only [Store.setGlobal]
    rw [Array.getElem?_modify, Array.getElem?_modify, atC, atD]
    by_cases here : a = c
    · have there := (separate.globals place other).mp here
      rw [if_pos here, if_pos there]
      exact ⟨_, _, rfl, rfl, same.type, linked⟩
    · have there := fun same => here ((separate.globals place other).mpr same)
      rw [if_neg here, if_neg there]
      exact ⟨x, y, rfl, rfl, same⟩
  | @segment a b place =>
    refine ⟨stores.funcs, stores.tables, stores.memories, stores.globals, fun {c d} other => ?_⟩
    obtain ⟨_, _, atA, atB, _⟩ := stores.segments place
    obtain ⟨x, y, atC, atD, linked⟩ := stores.segments other
    have insideS := (Array.getElem?_eq_some_iff.mp atA).1
    have insideT := (Array.getElem?_eq_some_iff.mp atB).1
    dsimp only [Store.dropSegment]
    rw [Array.getElem?_setIfInBounds, Array.getElem?_setIfInBounds]
    by_cases here : a = c
    · have there := (separate.segments place other).mp here
      rw [if_pos here, if_pos there, if_pos insideS, if_pos insideT]
      exact ⟨.empty, .empty, rfl, rfl, Segment.empty_linked links⟩
    · have there := fun same => here ((separate.segments place other).mpr same)
      rw [if_neg here, if_neg there]
      exact ⟨x, y, atC, atD, linked⟩

theorem unlinked_table {d : Nat} (free : ∀ c, ¬ links.tables c d) :
    t'.tables[d]? = t.tables[d]? := by
  cases moved with
  | @table a b x y x' y' place =>
    have apart : b ≠ d := fun same => free a (same ▸ place)
    exact Array.getElem?_setIfInBounds_ne apart
  | _ => rfl

theorem unlinked_memory {d : Nat} (free : ∀ c, ¬ links.memories c d) :
    t'.memories[d]? = t.memories[d]? := by
  cases moved with
  | @memory a b place z =>
    have apart : b ≠ d := fun same => free a (same ▸ place)
    exact Array.getElem?_setIfInBounds_ne apart
  | _ => rfl

theorem unlinked_global {d : Nat} (free : ∀ c, ¬ links.globals c d) :
    t'.globals[d]? = t.globals[d]? := by
  cases moved with
  | @global a b v w place =>
    have apart : b ≠ d := fun same => free a (same ▸ place)
    dsimp only [Store.setGlobal]
    rw [Array.getElem?_modify, if_neg apart]
  | _ => rfl

theorem unlinked_segment {d : Nat} (free : ∀ c, ¬ links.segments c d) :
    t'.segments[d]? = t.segments[d]? := by
  cases moved with
  | @segment a b place =>
    have apart : b ≠ d := fun same => free a (same ▸ place)
    exact Array.getElem?_setIfInBounds_ne apart
  | _ => rfl

theorem kept_table {c d : Nat} {x y : Table} (separate : links.Separate)
    (shared : links.tables c d) (keep : kept c) (atX : s.tables[c]? = some x)
    (atY : t.tables[d]? = some y) :
    ∃ x' y', s'.tables[c]? = some x' ∧ t'.tables[d]? = some y' ∧ x.Keeps x' ∧ y.Keeps y' := by
  have still : ∀ z : Table, z.Keeps z := fun z => ⟨⟨rfl, rfl, Nat.le_refl _⟩, fun _ _ => rfl⟩
  cases moved with
  | @table a b z w z' w' place atZ atW left right keeps linked =>
    by_cases here : a = c
    · have there := (separate.tables place shared).mp here
      subst here
      subst there
      obtain rfl := Option.some.inj (atX.symm.trans atZ)
      obtain rfl := Option.some.inj (atY.symm.trans atW)
      have insideS := (Array.getElem?_eq_some_iff.mp atX).1
      have insideT := (Array.getElem?_eq_some_iff.mp atY).1
      exact ⟨z', w', Array.getElem?_setIfInBounds_self_of_lt insideS,
        Array.getElem?_setIfInBounds_self_of_lt insideT, (keeps keep).1, (keeps keep).2⟩
    · have there := fun same => here ((separate.tables place shared).mpr same)
      refine ⟨x, y, ?_, ?_, still x, still y⟩
      · exact (Array.getElem?_setIfInBounds_ne here).trans atX
      · exact (Array.getElem?_setIfInBounds_ne there).trans atY
  | _ => exact ⟨x, y, atX, atY, still x, still y⟩

end Store.Moved

end FirstCall.Wasm
