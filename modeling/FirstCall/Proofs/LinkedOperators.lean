import FirstCall.Proofs.Links

/-!
# Operators on linked stores

No operator can tell linked stores apart: performed on both sides it leaves linked results, or it
stops on both sides for the same reason.
-/

namespace FirstCall.Wasm

variable {κ ε : Type}

/-- What an operator leaves on both sides. -/
inductive Performed (links : Links) (kept : Nat → Prop) (s t : Store κ) :
    Except (Stop ε) (Frame × Store κ) → Except (Stop ε) (Frame × Store κ) → Prop where
  | ok {f g : Frame} {s' t' : Store κ} (frames : f.Linked links g)
      (moved : Store.Moved links kept s t s' t') :
      Performed links kept s t (.ok (f, s')) (.ok (g, t'))
  | error (why : Stop ε) : Performed links kept s t (.error why) (.error why)

def Op.written? : Op → Option Nat
  | .tableSet table => some table
  | .tableWrite table _ => some table
  | _ => none

/-- The operator does not write entries of the tables in `kept`. -/
def Op.Safe (kept : Nat → Prop) (inst : Instance) (o : Op) : Prop :=
  ∀ k a, o.written? = some k → inst.tables[k]? = some a → ¬ kept a

section Sources

theorem value?_linked {links : Links} (access : Access) (answer : Option Nat) :
    Values links (access.value? answer).toList (access.value? answer).toList := by
  unfold Access.value?
  cases access.result? with
  | none => exact .nil
  | some type =>
    cases answer with
    | none => exact .nil
    | some bits => exact .cons (Value.ofBits_linked type bits) .nil

variable {links : Links} {s t : Store κ} {inst other : Instance}

theorem forall₂_replicate {α β : Type} {R : α → β → Prop} {x : α} {y : β} (same : R x y)
    (count : Nat) : List.Forall₂ R (List.replicate count x) (List.replicate count y) := by
  induction count with
  | zero => exact .nil
  | succ count ih => exact .cons same ih

theorem slice?_linked {α β : Type} {R : α → β → Prop} {l : List α} {m : List β}
    (linked : List.Forall₂ R l m) (start count : Nat) :
    Option.Rel (List.Forall₂ R) (slice? l start count) (slice? m start count) := by
  unfold slice?
  rw [← linked.length_eq]
  split
  · exact .some (List.forall₂_take _ (List.forall₂_drop _ linked))
  · exact .none

theorem take?_linked (types : List ValType) {vs ws : List Value} (linked : Values links vs ws) :
    Value.take? types vs = none ∧ Value.take? types ws = none ∨
      ∃ operands below others, Value.take? types vs = some (operands, below) ∧
        Value.take? types ws = some (operands, others) ∧ Values links below others := by
  induction types generalizing vs ws with
  | nil => exact .inr ⟨[], vs, ws, rfl, rfl, linked⟩
  | cons type above ih =>
    unfold Value.take?
    obtain ⟨left, right⟩ | ⟨upper, below, others, left, right, rest⟩ := ih linked
    · exact .inl ⟨by rw [left], by rw [right]⟩
    · rw [left, right]
      cases rest with
      | nil => exact .inl ⟨rfl, rfl⟩
      | cons head rest =>
        dsimp only
        rw [Value.bits?_linked head type]
        cases Value.bits? type _ with
        | none => exact .inl ⟨rfl, rfl⟩
        | some bits => exact .inr ⟨bits :: upper, _, _, rfl, rfl, rest⟩

variable (insts : inst.Linked links other) (stores : s.Linked links t)

include insts stores

theorem bytes?_linked (source : ByteSource) (room count : Nat) (start : UInt32) :
    source.bytes? inst s room count start = source.bytes? other t room count start := by
  cases source with
  | fill => rfl
  | memory index =>
    unfold ByteSource.bytes?
    dsimp only
    obtain ⟨left, right⟩ | ⟨a, b, z, left, right, _⟩ := memory?_linked insts stores index
    · rw [left, right]
    · rw [left, right]
      rfl
  | segment index =>
    unfold ByteSource.bytes?
    dsimp only
    obtain ⟨left, right⟩ | ⟨a, b, x, y, left, right, _, atX, atY, linked⟩ :=
      segment?_linked insts.datas stores index
    · rw [left, right]
      rfl
    · simp [left, right, atX, atY, linked.bytes]

theorem refs?_linked (source : RefSource) (room count : Nat) {v w : Value}
    (start : v.Linked links w) :
    Option.Rel (List.Forall₂ (Ref.Linked links)) (source.refs? inst s room count v)
      (source.refs? other t room count w) := by
  cases source with
  | fill =>
    cases start with
    | ref refs =>
      unfold RefSource.refs?
      dsimp only
      split
      · exact .some (forall₂_replicate refs count)
      · exact .none
    | _ => exact .none
  | table index =>
    cases start with
    | i32 first =>
      unfold RefSource.refs?
      dsimp only
      obtain ⟨left, right⟩ | ⟨_, _, x, y, left, right, _, _, _, _, linked⟩ :=
        table?_linked insts stores index
      · rw [left, right]
        exact .none
      · rw [left, right]
        exact slice?_linked linked.toList _ _
    | _ => exact .none
  | segment index =>
    cases start with
    | i32 first =>
      unfold RefSource.refs?
      obtain ⟨left, right⟩ | ⟨a, b, x, y, left, right, _, atX, atY, linked⟩ :=
        segment?_linked insts.elems stores index
      · simp only [left, right]
        exact .none
      · simp only [left, right, atX, atY, Option.bind_eq_bind, Option.bind_some]
        exact slice?_linked linked.refs _ _
    | _ => exact .none

end Sources

section Perform

variable {links : Links} {kept : Nat → Prop} {s t : Store κ} {inst other : Instance} {f g : Frame}

theorem Values.set {vs ws : List Value} {v w : Value} (linked : Values links vs ws)
    (same : v.Linked links w) (k : Nat) : Values links (vs.set k v) (ws.set k w) := by
  induction linked generalizing k with
  | nil => exact .nil
  | cons head tail ih =>
    cases k with
    | zero => exact .cons same tail
    | succ k => exact .cons head (ih k)

/-- Linked references are written to linked tables, or do not fit on either side. -/
theorem Performed.write {a b : Nat} {x y : Table} {refs twins : List Ref} (free : ¬ kept a)
    (place : links.tables a b) (atX : s.tables[a]? = some x) (atY : t.tables[b]? = some y)
    (linked : x.Linked links y) (pairs : List.Forall₂ (Ref.Linked links) refs twins)
    (frames : f.Linked links g) (k : Nat) :
    Performed links kept s t
      (match x.write? k refs with
        | some changed => .ok (f, s.setTable a changed)
        | none => .error (.trap .tableOutOfBounds) : Except (Stop ε) _)
      (match y.write? k twins with
        | some changed => .ok (g, t.setTable b changed)
        | none => .error (.trap .tableOutOfBounds)) := by
  obtain ⟨toX, toY⟩ | ⟨x', y', toX, toY, after⟩ := option_rel_cases (linked.write? pairs k)
  · simp only [toX, toY]
    exact .error _
  · simp only [toX, toY]
    exact .ok frames (.table place atX atY (Table.Grows.of_write? toX) (Table.Grows.of_write? toY)
      (fun keep => absurd keep free) after)

variable (insts : inst.Linked links other) (stores : s.Linked links t)
  {locals others vs ws : List Value} (sameLocals : Values links locals others)
  (sameStack : Values links vs ws)

include sameLocals sameStack

theorem select_linked (inst other : Instance) :
    Performed links kept s t (perform inst s ⟨locals, vs⟩ .select : Except (Stop ε) _)
      (perform other t ⟨others, ws⟩ .select) := by
  unfold perform
  rcases sameStack with _ | ⟨head, _ | ⟨no, _ | ⟨yes, below⟩⟩⟩
  · exact .error _
  · cases head <;> exact .error _
  · cases head <;> exact .error _
  · cases head with
    | i32 choice =>
      refine .ok ⟨sameLocals, .cons ?_ below⟩ .same
      split
      · exact yes
      · exact no
    | _ => exact .error _

theorem numeric_linked (op : Numeric) :
    Performed links kept s t (perform inst s ⟨locals, vs⟩ (.numeric op) : Except (Stop ε) _)
      (perform other t ⟨others, ws⟩ (.numeric op)) := by
  unfold perform
  obtain ⟨left, right⟩ | ⟨operands, below, rest, left, right, same⟩ :=
    take?_linked op.params sameStack
  · simp only [left, right]
    exact .error _
  · simp only [left, right]
    cases op.compute operands with
    | ok bits => exact .ok ⟨sameLocals, .cons (Value.ofBits_linked _ _) same⟩ .same
    | error why => exact .error why

theorem refFunc_linked {index : Nat}
    (found : Option.Rel links.funcs inst.funcs[index]? other.funcs[index]?) :
    Performed links kept s t (perform inst s ⟨locals, vs⟩ (.refFunc index) : Except (Stop ε) _)
      (perform other t ⟨others, ws⟩ (.refFunc index)) := by
  unfold perform
  obtain ⟨left, right⟩ | ⟨a, b, left, right, place⟩ := option_rel_cases found
  · simp only [left, right]
    exact .error _
  · simp only [left, right]
    exact .ok ⟨sameLocals, .cons (.ref (.func place)) sameStack⟩ .same

theorem refIsNull_linked :
    Performed links kept s t (perform inst s ⟨locals, vs⟩ .refIsNull : Except (Stop ε) _)
      (perform other t ⟨others, ws⟩ .refIsNull) := by
  unfold perform
  rcases sameStack with _ | ⟨head, below⟩
  · exact .error _
  · cases head with
    | ref refs =>
      cases refs with
      | null => exact .ok ⟨sameLocals, .cons (.i32 _) below⟩ .same
      | func place => exact .ok ⟨sameLocals, .cons (.i32 _) below⟩ .same
    | _ => exact .error _

include insts stores

theorem globalSet_linked (index : Nat) :
    Performed links kept s t (perform inst s ⟨locals, vs⟩ (.globalSet index) : Except (Stop ε) _)
      (perform other t ⟨others, ws⟩ (.globalSet index)) := by
  unfold perform
  obtain ⟨left, right⟩ | ⟨a, b, x, y, left, right, place, _⟩ := global?_linked insts stores index
  · simp only [left, right]
    cases sameStack <;> exact .error _
  · simp only [left, right]
    cases sameStack with
    | nil => exact .error _
    | cons head below => exact .ok ⟨sameLocals, below⟩ (.global place head)

theorem tableGet_linked (index : Nat) :
    Performed links kept s t (perform inst s ⟨locals, vs⟩ (.tableGet index) : Except (Stop ε) _)
      (perform other t ⟨others, ws⟩ (.tableGet index)) := by
  unfold perform
  obtain ⟨left, right⟩ | ⟨a, b, x, y, left, right, _, _, _, _, linked⟩ :=
    table?_linked insts stores index
  · simp only [left, right]
    rcases sameStack with _ | ⟨head, below⟩
    · exact .error _
    · cases head <;> exact .error _
  · simp only [left, right]
    rcases sameStack with _ | ⟨head, below⟩
    · exact .error _
    · cases head with
      | i32 k =>
        obtain ⟨atX, atY⟩ | ⟨r, q, atX, atY, refs⟩ := option_rel_cases (linked.entries k.toNat)
        · simp only [atX, atY]
          exact .error _
        · simp only [atX, atY]
          exact .ok ⟨sameLocals, .cons (.ref refs) below⟩ .same
      | _ => exact .error _

theorem tableSet_linked {index : Nat} (safe : (Op.tableSet index).Safe kept inst) :
    Performed links kept s t (perform inst s ⟨locals, vs⟩ (.tableSet index) : Except (Stop ε) _)
      (perform other t ⟨others, ws⟩ (.tableSet index)) := by
  unfold perform
  obtain ⟨left, right⟩ | ⟨a, b, x, y, left, right, own, place, atX, atY, linked⟩ :=
    table?_linked insts stores index
  · simp only [left, right]
    rcases sameStack with _ | ⟨head, _ | ⟨next, below⟩⟩
    · exact .error _
    · cases head <;> exact .error _
    · cases head with
      | ref refs => cases next <;> exact .error _
      | _ => exact .error _
  · simp only [left, right]
    rcases sameStack with _ | ⟨head, _ | ⟨next, below⟩⟩
    · exact .error _
    · cases head <;> exact .error _
    · cases head with
      | ref refs =>
        cases next with
        | i32 k =>
          exact .write (safe index a rfl own) place atX atY linked (.cons refs .nil)
            ⟨sameLocals, below⟩ k.toNat
        | _ => exact .error _
      | _ => exact .error _

theorem tableWrite_linked {index : Nat} {source : RefSource}
    (safe : (Op.tableWrite index source).Safe kept inst) :
    Performed links kept s t
      (perform inst s ⟨locals, vs⟩ (.tableWrite index source) : Except (Stop ε) _)
      (perform other t ⟨others, ws⟩ (.tableWrite index source)) := by
  rcases sameStack with _ | ⟨head, _ | ⟨start, _ | ⟨last, below⟩⟩⟩
  · exact .error _
  · cases head <;> exact .error _
  · cases head <;> exact .error _
  · cases head with
    | i32 count =>
      cases last with
      | i32 place =>
        unfold perform
        obtain ⟨left, right⟩ | ⟨a, b, x, y, left, right, own, linked, atX, atY, same⟩ :=
          table?_linked insts stores index
        · simp only [left, right]
          exact .error _
        · simp only [left, right, ← same.size]
          obtain ⟨noX, noY⟩ | ⟨refs, twins, toX, toY, pairs⟩ := option_rel_cases
            (refs?_linked insts stores source (x.size - place.toNat) count.toNat start)
          · simp only [noX, noY]
            exact .error _
          · simp only [toX, toY]
            exact .write (safe index a rfl own) linked atX atY same pairs ⟨sameLocals, below⟩
              place.toNat
      | _ => exact .error _
    | _ => exact .error _

theorem tableSize_linked (index : Nat) :
    Performed links kept s t (perform inst s ⟨locals, vs⟩ (.tableSize index) : Except (Stop ε) _)
      (perform other t ⟨others, ws⟩ (.tableSize index)) := by
  unfold perform
  obtain ⟨left, right⟩ | ⟨a, b, x, y, left, right, _, _, _, _, linked⟩ :=
    table?_linked insts stores index
  · simp only [left, right]
    exact .error _
  · simp only [left, right, linked.size]
    exact .ok ⟨sameLocals, .cons (.i32 _) sameStack⟩ .same

theorem tableGrow_linked (index : Nat) :
    Performed links kept s t (perform inst s ⟨locals, vs⟩ (.tableGrow index) : Except (Stop ε) _)
      (perform other t ⟨others, ws⟩ (.tableGrow index)) := by
  unfold perform
  obtain ⟨left, right⟩ | ⟨a, b, x, y, left, right, own, place, atX, atY, linked⟩ :=
    table?_linked insts stores index
  · simp only [left, right]
    rcases sameStack with _ | ⟨head, _ | ⟨next, below⟩⟩
    · exact .error _
    · cases head <;> exact .error _
    · cases head with
      | i32 more => cases next <;> exact .error _
      | _ => exact .error _
  · simp only [left, right]
    rcases sameStack with _ | ⟨head, _ | ⟨next, below⟩⟩
    · exact .error _
    · cases head <;> exact .error _
    · cases head with
      | i32 more =>
        cases next with
        | ref refs =>
          obtain ⟨toX, toY⟩ | ⟨x', y', toX, toY, after⟩ :=
            option_rel_cases (linked.grow? refs more.toNat)
          · simp only [toX, toY]
            exact .ok ⟨sameLocals, .cons (.i32 _) below⟩ .same
          · simp only [toX, toY, linked.size]
            have keepX := Table.Keeps.of_grow? toX
            have keepY := Table.Keeps.of_grow? toY
            exact .ok ⟨sameLocals, .cons (.i32 _) below⟩ (.table place atX atY keepX.toGrows
              keepY.toGrows (fun _ => ⟨keepX, keepY⟩) after)
        | _ => exact .error _
      | _ => exact .error _

theorem access_linked (access : Access) (arg : MemArg) :
    Performed links kept s t (perform inst s ⟨locals, vs⟩ (.access access arg) : Except (Stop ε) _)
      (perform other t ⟨others, ws⟩ (.access access arg)) := by
  unfold perform
  obtain ⟨left, right⟩ | ⟨operands, below, rest, left, right, same⟩ :=
    take?_linked access.operands sameStack
  · simp only [left, right]
    exact .error _
  · simp only [left, right]
    obtain ⟨left, right⟩ | ⟨a, b, z, left, right, place, _⟩ :=
      memory?_linked insts stores arg.memory
    · simp only [left, right]
      rcases same with _ | ⟨head, below⟩
      · exact .error _
      · cases head <;> exact .error _
    · simp only [left, right]
      rcases same with _ | ⟨head, below⟩
      · exact .error _
      · cases head with
        | i32 base =>
          dsimp only
          cases access.run z (base.toNat + arg.offset) operands with
          | error why => exact .error why
          | ok moved =>
            obtain ⟨answer, changed⟩ := moved
            refine .ok ⟨sameLocals, List.rel_append ?_ below⟩ (.memory place changed)
            exact value?_linked access answer
        | _ => exact .error _

theorem memorySize_linked (index : Nat) :
    Performed links kept s t (perform inst s ⟨locals, vs⟩ (.memorySize index) : Except (Stop ε) _)
      (perform other t ⟨others, ws⟩ (.memorySize index)) := by
  unfold perform
  obtain ⟨left, right⟩ | ⟨a, b, z, left, right, _⟩ := memory?_linked insts stores index
  · simp only [left, right]
    exact .error _
  · simp only [left, right]
    exact .ok ⟨sameLocals, .cons (.i32 _) sameStack⟩ .same

theorem memoryGrow_linked (index : Nat) :
    Performed links kept s t (perform inst s ⟨locals, vs⟩ (.memoryGrow index) : Except (Stop ε) _)
      (perform other t ⟨others, ws⟩ (.memoryGrow index)) := by
  unfold perform
  obtain ⟨left, right⟩ | ⟨a, b, z, left, right, place, _⟩ := memory?_linked insts stores index
  · simp only [left, right]
    rcases sameStack with _ | ⟨head, below⟩
    · exact .error _
    · cases head <;> exact .error _
  · simp only [left, right]
    rcases sameStack with _ | ⟨head, below⟩
    · exact .error _
    · cases head with
      | i32 more =>
        dsimp only
        cases z.grow? more.toNat with
        | none => exact .ok ⟨sameLocals, .cons (.i32 _) below⟩ .same
        | some changed =>
          exact .ok ⟨sameLocals, .cons (.i32 _) below⟩ (.memory place changed)
      | _ => exact .error _

theorem memoryWrite_linked (index : Nat) (source : ByteSource) :
    Performed links kept s t
      (perform inst s ⟨locals, vs⟩ (.memoryWrite index source) : Except (Stop ε) _)
      (perform other t ⟨others, ws⟩ (.memoryWrite index source)) := by
  rcases sameStack with _ | ⟨head, _ | ⟨next, _ | ⟨last, below⟩⟩⟩
  · exact .error _
  · cases head <;> exact .error _
  · cases head with
    | i32 count => cases next <;> exact .error _
    | _ => exact .error _
  · cases head with
    | i32 count =>
      cases next with
      | i32 start =>
        cases last with
        | i32 place =>
          unfold perform
          obtain ⟨left, right⟩ | ⟨a, b, z, left, right, linked, _⟩ :=
            memory?_linked insts stores index
          · simp only [left, right]
            exact .error _
          · simp only [left, right, bytes?_linked insts stores source]
            cases source.bytes? other t (z.size - place.toNat) count.toNat start with
            | none => exact .error _
            | some bytes =>
              dsimp only
              cases z.write? place.toNat bytes with
              | none => exact .error _
              | some changed => exact .ok ⟨sameLocals, below⟩ (.memory linked changed)
        | _ => exact .error _
      | _ => exact .error _
    | _ => exact .error _

omit sameLocals sameStack

/-- No operator can tell linked stores apart. -/
theorem perform_linked (frames : f.Linked links g) {o : Op} (safe : o.Safe kept inst) :
    Performed links kept s t (perform inst s f o : Except (Stop ε) _) (perform other t g o) := by
  obtain ⟨locals, stack⟩ := f
  obtain ⟨others, below⟩ := g
  obtain ⟨sameLocals, sameStack⟩ := frames
  dsimp only at sameLocals sameStack
  cases o with
  | unreachable => exact .error _
  | nop => exact .ok ⟨sameLocals, sameStack⟩ .same
  | drop =>
    cases sameStack with
    | nil => exact .error _
    | cons head below => exact .ok ⟨sameLocals, below⟩ .same
  | select => exact select_linked sameLocals sameStack inst other
  | selectTyped type => exact select_linked sameLocals sameStack inst other
  | localGet index =>
    unfold perform
    obtain ⟨left, right⟩ | ⟨v, w, left, right, linked⟩ :=
      option_rel_cases (forall₂_getElem? sameLocals index)
    · simp only [left, right]
      exact .error _
    · simp only [left, right]
      exact .ok ⟨sameLocals, .cons linked sameStack⟩ .same
  | localSet index =>
    cases sameStack with
    | nil => exact .error _
    | cons head below => exact .ok ⟨Values.set sameLocals head index, below⟩ .same
  | localTee index =>
    cases sameStack with
    | nil => exact .error _
    | cons head below => exact .ok ⟨Values.set sameLocals head index, .cons head below⟩ .same
  | globalGet index =>
    unfold perform
    obtain ⟨left, right⟩ | ⟨a, b, x, y, left, right, _, linked⟩ :=
      global?_linked insts stores index
    · simp only [left, right]
      exact .error _
    · simp only [left, right]
      exact .ok ⟨sameLocals, .cons linked sameStack⟩ .same
  | globalSet index => exact globalSet_linked insts stores sameLocals sameStack index
  | tableGet index => exact tableGet_linked insts stores sameLocals sameStack index
  | tableSet index => exact tableSet_linked insts stores sameLocals sameStack safe
  | tableSize index => exact tableSize_linked insts stores sameLocals sameStack index
  | tableGrow index => exact tableGrow_linked insts stores sameLocals sameStack index
  | tableWrite index source => exact tableWrite_linked insts stores sameLocals sameStack safe
  | elemDrop index =>
    unfold perform
    obtain ⟨left, right⟩ | ⟨a, b, left, right, place⟩ := option_rel_cases (insts.elems index)
    · simp only [left, right]
      exact .error _
    · simp only [left, right]
      exact .ok ⟨sameLocals, sameStack⟩ (.segment place)
  | access access arg => exact access_linked insts stores sameLocals sameStack access arg
  | memorySize index => exact memorySize_linked insts stores sameLocals sameStack index
  | memoryGrow index => exact memoryGrow_linked insts stores sameLocals sameStack index
  | memoryWrite index source =>
    exact memoryWrite_linked insts stores sameLocals sameStack index source
  | dataDrop index =>
    unfold perform
    obtain ⟨left, right⟩ | ⟨a, b, left, right, place⟩ := option_rel_cases (insts.datas index)
    · simp only [left, right]
      exact .error _
    · simp only [left, right]
      exact .ok ⟨sameLocals, sameStack⟩ (.segment place)
  | const32 value => exact .ok ⟨sameLocals, .cons (.i32 _) sameStack⟩ .same
  | const64 value => exact .ok ⟨sameLocals, .cons (.i64 _) sameStack⟩ .same
  | constF32 bits => exact .ok ⟨sameLocals, .cons (.f32 _) sameStack⟩ .same
  | constF64 bits => exact .ok ⟨sameLocals, .cons (.f64 _) sameStack⟩ .same
  | constV128 bits => exact .ok ⟨sameLocals, .cons (.v128 _) sameStack⟩ .same
  | numeric op => exact numeric_linked sameLocals sameStack op
  | refNull type => exact .ok ⟨sameLocals, .cons (.ref .null) sameStack⟩ .same
  | refIsNull => exact refIsNull_linked sameLocals sameStack
  | refFunc index => exact refFunc_linked sameLocals sameStack (insts.funcs index)
  | br label => exact .error _
  | brIf label => exact .error _
  | ret => exact .error _
  | call func => exact .error _
  | callIndirect type table => exact .error _
  | brTable labels otherwise => exact .error _
  | tailCall func => exact .error _
  | tailCallIndirect type table => exact .error _

/-- An indirect call reaches linked functions, or fails on both sides for the same reason. -/
theorem target_linked (type table index : Nat) :
    (∃ why : Stop ε, target inst s type table index = .error why ∧
      target other t type table index = .error why) ∨
    ∃ a b, (target inst s type table index : Except (Stop ε) Nat) = .ok a ∧
      (target other t type table index : Except (Stop ε) Nat) = .ok b ∧ links.funcs a b := by
  unfold target
  rw [← insts.types]
  obtain ⟨left, right⟩ | ⟨_, _, x, y, left, right, _, _, _, _, linked⟩ :=
    table?_linked insts stores table
  · rw [left, right]
    exact .inl ⟨.stuck, rfl, rfl⟩
  · rw [left, right]
    cases inst.types[type]? with
    | none => exact .inl ⟨.stuck, rfl, rfl⟩
    | some wanted =>
      dsimp only
      obtain ⟨atX, atY⟩ | ⟨r, q, atX, atY, refs⟩ := option_rel_cases (linked.entries index)
      · rw [atX, atY]
        exact .inl ⟨.trap .tableOutOfBounds, rfl, rfl⟩
      · rw [atX, atY]
        cases refs with
        | null => exact .inl ⟨.trap .nullCall, rfl, rfl⟩
        | @func a b place =>
          obtain ⟨f, g, atA, atB, types⟩ := stores.funcs place
          dsimp only
          rw [atA, atB]
          dsimp only
          rw [← types]
          by_cases same : f.type = wanted
          · exact .inr ⟨a, b, if_pos same, if_pos same, place⟩
          · exact .inl ⟨.trap .signatureMismatch, if_neg same, if_neg same⟩

end Perform

end FirstCall.Wasm
