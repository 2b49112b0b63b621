import FirstCall.Proofs.Guest

/-!
# Sparing a table

An engine that stops before any operator writes to an entry that a chosen table already has.
Whatever it runs, the entries of this table stay what they are: other operators leave them alone,
and growing the table adds entries behind them. Loading a module does so too, except for what its
segments write.
-/

namespace FirstCall.Wasm

variable {κ η ε : Type}

/-- An entry of a table, if the store has the table and the table has the entry. -/
def Store.entry? (store : Store κ) (table k : Nat) : Option Ref :=
  (store.tables[table]?).bind (·.entries[k]?)

/-- In the later store every function is where it was, and the table has every entry that it had;
the chosen entries are unchanged. -/
structure Store.Retains (table : Nat) (chosen : Nat → Prop) (s t : Store κ) : Prop where
  funcs : ∃ more, t.funcs = s.funcs ++ more
  entries : ∀ {k ref}, s.entry? table k = some ref →
    ∃ next, t.entry? table k = some next ∧ (chosen k → next = ref)

namespace Store

variable {table : Nat} {chosen : Nat → Prop} {s t u : Store κ}

theorem lt_size_of_entry? {k : Nat} {ref : Ref} (found : s.entry? table k = some ref) :
    table < s.tables.size := by
  obtain ⟨entries, there, _⟩ := Option.bind_eq_some_iff.mp found
  exact (Array.getElem?_eq_some_iff.mp there).1

theorem entry?_of_table {k : Nat} {entries : Table} (there : s.tables[table]? = some entries) :
    s.entry? table k = entries.entries[k]? := by
  unfold entry?
  rw [there]
  rfl

theorem entry?_setTable_self {k : Nat} {old new : Table} (there : s.tables[table]? = some old) :
    entry? (s.setTable table new) table k = new.entries[k]? := by
  refine entry?_of_table ?_
  exact Array.getElem?_setIfInBounds_self_of_lt (Array.getElem?_eq_some_iff.mp there).1

theorem entry?_setTable_ne {addr k : Nat} {new : Table} (other : addr ≠ table) :
    entry? (s.setTable addr new) table k = s.entry? table k := by
  unfold entry? setTable
  rw [Array.getElem?_setIfInBounds_ne other]

namespace Retains

theorem of_eq (funcs : t.funcs = s.funcs) (tables : t.tables[table]? = s.tables[table]?) :
    s.Retains table chosen t := by
  refine ⟨⟨#[], by rw [funcs, Array.append_empty]⟩, fun {k ref} found => ⟨ref, ?_, fun _ => rfl⟩⟩
  unfold entry? at found ⊢
  rw [tables]
  exact found

theorem refl (s : Store κ) : s.Retains table chosen s := of_eq rfl rfl

theorem trans (head : s.Retains table chosen t) (tail : t.Retains table chosen u) :
    s.Retains table chosen u := by
  obtain ⟨more, first⟩ := head.funcs
  obtain ⟨others, second⟩ := tail.funcs
  refine ⟨⟨more ++ others, by rw [second, first, Array.append_assoc]⟩, fun found => ?_⟩
  obtain ⟨next, there, same⟩ := head.entries found
  obtain ⟨last, here, equal⟩ := tail.entries there
  exact ⟨last, here, fun among => (equal among).trans (same among)⟩

theorem mono {fewer : Nat → Prop} (retains : s.Retains table chosen t)
    (less : ∀ k, fewer k → chosen k) : s.Retains table fewer t := by
  refine ⟨retains.funcs, fun found => ?_⟩
  obtain ⟨next, there, same⟩ := retains.entries found
  exact ⟨next, there, fun among => same (less _ among)⟩

theorem entry {k : Nat} {ref : Ref} (retains : s.Retains table chosen t)
    (found : s.entry? table k = some ref) (among : chosen k) : t.entry? table k = some ref := by
  obtain ⟨next, there, same⟩ := retains.entries found
  exact same among ▸ there

theorem func {a : Nat} {func : FuncInst κ} (retains : s.Retains table chosen t)
    (found : s.funcs[a]? = some func) : t.funcs[a]? = some func := by
  obtain ⟨more, grown⟩ := retains.funcs
  obtain ⟨inside, _⟩ := Array.getElem?_eq_some_iff.mp found
  rw [grown, Array.getElem?_append_left inside]
  exact found

theorem size (retains : s.Retains table chosen t) : s.funcs.size ≤ t.funcs.size := by
  obtain ⟨more, grown⟩ := retains.funcs
  rw [grown, Array.size_append]
  exact Nat.le_add_right _ _

theorem setTable {addr : Nat} {old new : Table} (there : s.tables[addr]? = some old)
    (kept : addr = table → ∀ {k ref}, old.entries[k]? = some ref →
      ∃ next, new.entries[k]? = some next ∧ (chosen k → next = ref)) :
    s.Retains table chosen (s.setTable addr new) := by
  refine ⟨⟨#[], by simp [Store.setTable]⟩, fun {k ref} found => ?_⟩
  by_cases same : addr = table
  · subst same
    rw [entry?_of_table there] at found
    rw [entry?_setTable_self there]
    exact kept rfl found
  · rw [entry?_setTable_ne same]
    exact ⟨ref, found, fun _ => rfl⟩

theorem setMemory (addr : Nat) (memory : Memory) :
    s.Retains table chosen (s.setMemory addr memory) := of_eq rfl rfl

theorem allocate (module : Module) (inst : Instance) (here : table < s.tables.size) :
    s.Retains table chosen (module.allocate inst s) := by
  refine ⟨⟨_, rfl⟩, fun {k ref} found => ⟨ref, ?_, fun _ => rfl⟩⟩
  unfold entry? Module.allocate at *
  rw [Array.getElem?_append_left here]
  exact found

end Retains

end Store

namespace Table

variable {table changed : Table} {k : Nat} {ref : Ref}

theorem getElem?_of_grow? {more : Nat} {entry : Ref}
    (done : table.grow? more entry = some changed) (found : table.entries[k]? = some ref) :
    changed.entries[k]? = some ref := by
  unfold grow? at done
  split at done
  · obtain rfl := Option.some.inj done
    rw [Array.getElem?_append_left (Array.getElem?_eq_some_iff.mp found).1]
    exact found
  · cases done

theorem getElem?_of_write? {start : Nat} {refs : List Ref}
    (done : table.write? start refs = some changed) (k : Nat) :
    changed.entries[k]? =
      if start ≤ k ∧ k < start + refs.length then refs[k - start]? else table.entries[k]? := by
  unfold write? at done
  split at done
  · next inside =>
    obtain rfl := Option.some.inj done
    exact getElem?_store _ _ _ _ inside
  · cases done

/-- Writing one reference changes one entry. -/
theorem getElem?_of_write?_one {start : Nat} (done : table.write? start [ref] = some changed)
    (k : Nat) : changed.entries[k]? = if k = start then some ref else table.entries[k]? := by
  rw [getElem?_of_write? done]
  by_cases same : k = start
  · subst same
    rw [if_pos rfl, if_pos (by simp), Nat.sub_self]
    rfl
  · rw [if_neg same, if_neg (by simp only [List.length_singleton]; omega)]

theorem fits_of_write? {start : Nat} {refs : List Ref}
    (done : table.write? start refs = some changed) : start + refs.length ≤ table.size := by
  unfold write? at done
  split at done
  · assumption
  · cases done

theorem eq_of_write?_nil {start : Nat} (done : table.write? start [] = some changed) :
    changed = table := by
  unfold write? at done
  split at done
  · exact (Option.some.inj done).symm
  · cases done

end Table

theorem length_of_slice? {α : Type} {items taken : List α} {start count : Nat}
    (found : slice? items start count = some taken) : taken.length = count := by
  unfold slice? at found
  split at found
  · obtain rfl := Option.some.inj found
    rw [List.length_take, List.length_drop]
    omega
  · cases found

theorem RefSource.length_of_refs? {source : RefSource} {inst : Instance} {store : Store κ}
    {room count : Nat} {start : Value} {refs : List Ref}
    (taken : source.refs? inst store room count start = some refs) : refs.length = count := by
  unfold refs? at taken
  split at taken
  · split at taken
    · obtain rfl := Option.some.inj taken
      exact List.length_replicate
    · cases taken
  · obtain ⟨_, _, sliced⟩ := Option.bind_eq_some_iff.mp taken
    exact length_of_slice? sliced
  · obtain ⟨_, _, more⟩ := Option.bind_eq_some_iff.mp taken
    obtain ⟨_, _, sliced⟩ := Option.bind_eq_some_iff.mp more
    exact length_of_slice? sliced
  · cases taken

/-- Whether the operator is about to write to an entry that the table at the address has. -/
def Op.overwrites (table : Nat) (inst : Instance) (store : Store κ) (frame : Frame) : Op → Bool
  | .tableSet index =>
    match frame.stack, inst.table? store index with
    | .ref _ :: .i32 k :: _, some (addr, found) => addr == table && decide (k.toNat < found.size)
    | _, _ => false
  | .tableWrite index _ =>
    match frame.stack, inst.table? store index with
    | .i32 count :: _ :: .i32 place :: _, some (addr, found) =>
      addr == table && decide (0 < count.toNat ∧ place.toNat + count.toNat ≤ found.size)
    | _, _ => false
  | _ => false

/-- The operators of the engine, but for those that would write to an entry of the table. -/
def performSparing (table : Nat) : Operate κ ε := fun inst store frame o =>
  if o.overwrites table inst store frame then .error .stuck else perform inst store frame o

section Operators

variable {table : Nat} {chosen : Nat → Prop} {inst : Instance} {store : Store κ} {frame : Frame}
  {o : Op} {after : Frame × Store κ}

/-- An operator that spares the table leaves its entries as they are. -/
theorem performSparing_retains
    (done : (performSparing table inst store frame o : Except (Stop ε) _) = .ok after) :
    store.Retains table chosen after.2 := by
  unfold performSparing at done
  split at done
  · cases done
  · next spares =>
    obtain ⟨_, left⟩ := after
    cases perform_touches done with
    | @tableSet index addr entry k below found changed top place written =>
      unfold Op.overwrites at spares
      dsimp only at spares
      rw [top, place] at spares
      dsimp only at spares
      refine .setTable (Instance.place_of_table? place).2 fun same k ref there => ?_
      simp only [same, beq_self_eq_true, Bool.true_and, decide_eq_true_eq, Nat.not_lt] at spares
      have inside := (Array.getElem?_eq_some_iff.mp there).1
      refine ⟨ref, ?_, fun _ => rfl⟩
      rw [Table.getElem?_of_write? written, if_neg]
      · exact there
      · have : found.size = found.entries.size := rfl
        omega
    | @tableWrite index addr source count place start below refs found changed top there taken
        written =>
      unfold Op.overwrites at spares
      dsimp only at spares
      rw [top, there] at spares
      dsimp only at spares
      refine .setTable (Instance.place_of_table? there).2 fun same k ref entry => ?_
      simp only [same, beq_self_eq_true, Bool.true_and, decide_eq_true_eq] at spares
      have inside := Table.fits_of_write? written
      have length := RefSource.length_of_refs? taken
      obtain rfl : refs = [] := List.length_eq_zero_iff.mp (by omega)
      obtain rfl := Table.eq_of_write?_nil written
      exact ⟨ref, entry, fun _ => rfl⟩
    | tableGrow place grown =>
      exact .setTable (Instance.place_of_table? place).2 fun _ _ ref there =>
        ⟨ref, Table.getElem?_of_grow? grown there, fun _ => rfl⟩
    | _ => exact .of_eq rfl rfl

theorem performSparing_error {why : Stop ε}
    (failed : performSparing table inst store frame o = .error why) : why.fault? = none := by
  unfold performSparing at failed
  split at failed
  · obtain rfl := Except.error.inj failed
    rfl
  · exact perform_error failed

end Operators

/-- What writing an element segment can do. -/
inductive ElemWrite (inst : Instance) (segment : ElemSegment) (c : Machine κ η) :
    Except (Stop ε) Unit × Machine κ η → Prop where
  | refused (why : Stop ε) : ElemWrite inst segment c (.error why, c)
  | idle (inactive : ∀ index offset, segment.mode ≠ .active index offset) :
      ElemWrite inst segment c (.ok (), c)
  | wrote {index addr : Nat} {offset : ConstExpr} {table changed : Table}
      (mode : segment.mode = .active index offset) (named : inst.tables[index]? = some addr)
      (there : c.store.tables[addr]? = some table)
      (written : table.write? (constIndex inst c.store offset)
        (segment.items.map (constRef inst c.store)) = some changed) :
      ElemWrite inst segment c (.ok (), { c with store := c.store.setTable addr changed })

theorem writeElem_writes (inst : Instance) (segment : ElemSegment) (c : Machine κ η) :
    ElemWrite inst segment c (writeElem inst segment c : Except (Stop ε) Unit × _) := by
  unfold writeElem
  cases mode : segment.mode with
  | passive => exact .idle (by rw [mode]; exact nofun)
  | declarative => exact .idle (by rw [mode]; exact nofun)
  | active index offset =>
    dsimp only
    rw [Action.bind_apply]
    dsimp only [Action.store]
    cases place : inst.table? c.store index with
    | none => exact .refused _
    | some found =>
      obtain ⟨addr, table⟩ := found
      obtain ⟨named, there⟩ := Instance.place_of_table? place
      dsimp only
      cases written : table.write? (constIndex inst c.store offset)
          (segment.items.map (constRef inst c.store)) with
      | none => exact .refused _
      | some changed => exact .wrote mode named there written

/-- The entries of the table are retained, as the host is, by everything but host functions. -/
theorem sparing_conduct (table : Nat) (chosen : Nat → Prop) :
    Conduct (performSparing table : Operate κ ε) fun (m : Machine κ η) _ after =>
      after.host = m.host ∧ m.store.Retains table chosen after.store where
  quiet _ := ⟨rfl, .refl _⟩
  halted _ _ _ := ⟨rfl, .refl _⟩
  trans head tail := ⟨tail.1.trans head.1, head.2.trans tail.2⟩
  performed done := ⟨rfl, performSparing_retains done⟩
  refused := performSparing_error

theorem writeData_retains (table : Nat) (chosen : Nat → Prop) (inst : Instance)
    (segment : DataSegment) :
    Obeys (fun (m : Machine κ η) _ after =>
      after.host = m.host ∧ m.store.Retains table chosen after.store)
      (writeData inst segment : Action κ η ε Unit) := by
  unfold writeData
  split
  · exact (sparing_conduct table chosen).pure _
  · next index offset _ =>
    intro m
    rw [Action.bind_apply]
    dsimp only [Action.store]
    cases inst.memory? m.store index with
    | none => exact ⟨rfl, .refl _⟩
    | some place =>
      dsimp only
      cases place.2.write? (constIndex inst m.store offset) segment.bytes with
      | none => exact ⟨rfl, .refl _⟩
      | some changed => exact ⟨rfl, .setMemory _ _⟩

end FirstCall.Wasm
