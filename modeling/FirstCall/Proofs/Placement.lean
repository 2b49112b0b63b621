import FirstCall.Proofs.Loading

/-!
# Segments that fit

Whether the segments of a module fit can be told before any of them is written: they have to lie
inside the tables and memories as these are made.
-/

namespace FirstCall.Wasm

variable {κ α β γ : Type}

/-- Where the segment is due on instantiation, it lies inside the table that it fills. -/
def ElemSegment.Fits (inst : Instance) (store : Store κ) (segment : ElemSegment) : Prop :=
  ∀ index offset, segment.mode = .active index offset → ∃ addr table,
    inst.tables[index]? = some addr ∧ store.tables[addr]? = some table ∧
      constIndex inst store offset + segment.items.length ≤ table.size

/-- Where the segment is due on instantiation, it lies inside the memory that it fills. -/
def DataSegment.Fits (inst : Instance) (store : Store κ) (segment : DataSegment) : Prop :=
  ∀ index offset, segment.mode = .active index offset → ∃ addr memory,
    inst.memories[index]? = some addr ∧ store.memories[addr]? = some memory ∧
      constIndex inst store offset + segment.bytes.length ≤ memory.size

/-- The items of two arrays are as large as each other. -/
def SameSizes (size : α → Nat) (x y : Array α) : Prop :=
  ∀ k : Nat, x[k]?.map size = y[k]?.map size

section Fill

variable {size : α → Nat} {addresses : Array Nat} {index need : Nat} {change : α → Option α}
  {items next : Array α}

theorem fillAt_isSome_iff (changes : ∀ item, (change item).isSome ↔ need ≤ size item) :
    (fillAt addresses index change items).isSome ↔
      ∃ (addr : Nat) (item : α), addresses[index]? = some addr ∧ items[addr]? = some item ∧
        need ≤ size item := by
  unfold fillAt
  cases addresses[index]? with
  | none => simp
  | some addr =>
    cases found : items[addr]? with
    | none => simp [found]
    | some item =>
      have fillable := changes item
      cases done : change item <;> simp_all

theorem SameSizes.of_fillAt (keeps : ∀ {item changed}, change item = some changed →
      size changed = size item) (filled : fillAt addresses index change items = some next) :
    SameSizes size items next := by
  obtain ⟨addr, _, filled⟩ := Option.bind_eq_some_iff.mp filled
  obtain ⟨item, found, filled⟩ := Option.bind_eq_some_iff.mp filled
  obtain ⟨changed, done, same⟩ := Option.bind_eq_some_iff.mp filled
  obtain rfl := Option.some.inj same
  intro k
  rw [Array.getElem?_setIfInBounds]
  split
  · next here =>
    subst here
    rw [if_pos (Array.getElem?_eq_some_iff.mp found).1, found]
    exact congrArg some (keeps done).symm
  · rfl

theorem SameSizes.exists_iff {x y : Array α} (same : SameSizes size x y) :
    (∃ (addr : Nat) (item : α), addresses[index]? = some addr ∧ x[addr]? = some item ∧
        need ≤ size item) ↔
      ∃ (addr : Nat) (item : α), addresses[index]? = some addr ∧ y[addr]? = some item ∧
        need ≤ size item := by
  have place : ∀ addr : Nat, (∃ item, x[addr]? = some item ∧ need ≤ size item) ↔
      ∃ item, y[addr]? = some item ∧ need ≤ size item := by
    intro addr
    have sizes := same addr
    cases left : x[addr]? <;> cases right : y[addr]? <;> simp_all
  simp only [exists_and_left, place]

end Fill

/-- Steps in a row can all be made if each can be made on what is alike to the beginning. -/
theorem foldlM_isSome_iff {fill : γ → β → Option γ} {Alike : γ → γ → Prop} {P : β → Prop}
    (trans : ∀ {x y z}, Alike x y → Alike y z → Alike x z) {items : List β} {start : γ}
    (keeps : ∀ item ∈ items, ∀ {x y}, fill x item = some y → Alike x y)
    (each : ∀ item ∈ items, ∀ x, Alike start x → ((fill x item).isSome ↔ P item)) {first : γ}
    (alike : Alike start first) : (items.foldlM fill first).isSome ↔ ∀ item ∈ items, P item := by
  induction items generalizing first with
  | nil => simp
  | cons item rest ih =>
    have here := each item List.mem_cons_self first alike
    rw [List.foldlM_cons, List.forall_mem_cons, ← here]
    cases filled : fill first item with
    | none => simp
    | some next =>
      have later := ih (fun item inside => keeps item (List.mem_cons_of_mem _ inside))
        (fun item inside => each item (List.mem_cons_of_mem _ inside))
        (trans alike (keeps item List.mem_cons_self filled))
      simpa using later

section Segments

variable {inst : Instance} {store : Store κ}

theorem Table.write?_isSome_iff {table : Table} {start : Nat} {refs : List Ref} :
    (table.write? start refs).isSome ↔ start + refs.length ≤ table.size := by
  unfold write?
  split
  · next inside => simp [inside]
  · next outside => simp [outside]

theorem Table.size_of_write? {table changed : Table} {start : Nat} {refs : List Ref}
    (done : table.write? start refs = some changed) : changed.size = table.size := by
  unfold write? at done
  split at done
  · cases done
    exact size_store _ _ _
  · cases done

theorem Memory.write?_isSome_iff {memory : Memory} {addr : Nat} {bytes : Bytes} :
    (memory.write? addr bytes).isSome ↔ addr + bytes.length ≤ memory.size := by
  unfold write?
  split
  · next inside => simp [inside]
  · next outside => simp [outside]

/-- A segment can be written if it fits, whatever was written before it. -/
theorem ElemSegment.fill_isSome_iff {segment : ElemSegment} {tables : Array Table}
    (same : SameSizes Table.size store.tables tables) :
    (segment.fill inst store tables).isSome ↔ segment.Fits inst store := by
  unfold ElemSegment.fill ElemSegment.Fits
  cases segment.mode with
  | active index offset =>
    dsimp only
    rw [fillAt_isSome_iff fun table => Table.write?_isSome_iff, ← same.exists_iff]
    simp
  | passive => simp
  | declarative => simp

theorem DataSegment.fill_isSome_iff {segment : DataSegment} {memories : Array Memory}
    (same : SameSizes Memory.size store.memories memories) :
    (segment.fill inst store memories).isSome ↔ segment.Fits inst store := by
  unfold DataSegment.fill DataSegment.Fits
  cases segment.mode with
  | active index offset =>
    dsimp only
    rw [fillAt_isSome_iff fun memory => Memory.write?_isSome_iff, ← same.exists_iff]
    simp
  | passive => simp

theorem ElemSegment.sizes_of_fill {segment : ElemSegment} {tables next : Array Table}
    (filled : segment.fill inst store tables = some next) : SameSizes Table.size tables next := by
  unfold ElemSegment.fill at filled
  split at filled
  · exact .of_fillAt Table.size_of_write? filled
  · obtain rfl := Option.some.inj filled
    exact fun _ => rfl

theorem DataSegment.sizes_of_fill {segment : DataSegment} {memories next : Array Memory}
    (filled : segment.fill inst store memories = some next) :
    SameSizes Memory.size memories next := by
  unfold DataSegment.fill at filled
  split at filled
  · exact .of_fillAt Memory.size_of_write? filled
  · obtain rfl := Option.some.inj filled
    exact fun _ => rfl

end Segments

theorem SameSizes.trans {size : α → Nat} {x y z : Array α} (head : SameSizes size x y)
    (tail : SameSizes size y z) : SameSizes size x z := fun k => (head k).trans (tail k)

namespace Module

variable {m : Module} {items : List Extern}

/-- A module can be placed in a store if its segments fit what it brings into it. -/
theorem place_isSome_iff {store : Store κ} :
    (m.place items store).isSome ↔
      (∀ segment ∈ m.elems,
        segment.Fits (m.instanceAt items store) (m.allocate (m.instanceAt items store) store)) ∧
      ∀ segment ∈ m.datas,
        segment.Fits (m.instanceAt items store) (m.allocate (m.instanceAt items store) store) := by
  unfold place
  dsimp only
  generalize m.instanceAt items store = inst
  generalize m.allocate inst store = base
  have elems : (m.elems.foldlM (ElemSegment.fill inst base) base.tables).isSome ↔
      ∀ segment ∈ m.elems, segment.Fits inst base := by
    have each : ∀ segment ∈ m.elems, ∀ tables, SameSizes Table.size base.tables tables →
        ((segment.fill inst base tables).isSome ↔ segment.Fits inst base) :=
      fun _ _ _ => ElemSegment.fill_isSome_iff
    refine foldlM_isSome_iff SameSizes.trans ?_ each fun _ => rfl
    intro segment _ x y filled
    exact ElemSegment.sizes_of_fill filled
  have datas : (m.datas.foldlM (DataSegment.fill inst base) base.memories).isSome ↔
      ∀ segment ∈ m.datas, segment.Fits inst base := by
    have each : ∀ segment ∈ m.datas, ∀ memories, SameSizes Memory.size base.memories memories →
        ((segment.fill inst base memories).isSome ↔ segment.Fits inst base) :=
      fun _ _ _ => DataSegment.fill_isSome_iff
    refine foldlM_isSome_iff SameSizes.trans ?_ each fun _ => rfl
    intro segment _ x y filled
    exact DataSegment.sizes_of_fill filled
  rw [← elems, ← datas]
  cases m.elems.foldlM (ElemSegment.fill inst base) base.tables with
  | none => simp
  | some tables =>
    cases m.datas.foldlM (DataSegment.fill inst base) base.memories <;> simp

end Module

end FirstCall.Wasm
