import FirstCall.Proofs.Agreement
import FirstCall.Wasm.Check

/-!
# Loading

A module brings its own items into a store, at new addresses, and fills them from its segments.
Where the constants of a module read nothing but its instance, the items come out the same in every
store, up to the addresses.
-/

namespace FirstCall.Wasm

variable {κ η ε α β : Type}

/-- An operator of a constant expression that reads nothing but the instance. -/
def Op.isFixed : Op → Bool
  | .const32 _ => true
  | .const64 _ => true
  | .constF32 _ => true
  | .constF64 _ => true
  | .constV128 _ => true
  | .refNull _ => true
  | .refFunc _ => true
  | .numeric _ => true
  | _ => false

section Constants

variable {links : Links} {s t : Store κ} {inst twin : Instance}

theorem perform_fixed {ε : Type} {o : Op} (fixed : o.isFixed) {frame after : Frame} {left : Store κ}
    (done : (perform inst s frame o : Except (Stop ε) (Frame × Store κ)) = .ok (after, left)) :
    left = s ∧ (perform inst t frame o : Except (Stop ε) (Frame × Store κ)) = .ok (after, t) := by
  unfold perform at done ⊢
  cases o
  all_goals cases fixed
  all_goals dsimp only at done ⊢
  all_goals repeat' split at done
  all_goals cases done
  all_goals simp_all

theorem fixed_linked {ε : Type} {o : Op} (fixed : o.isFixed)
    (funcs : ∀ k : Nat, Option.Rel links.funcs inst.funcs[k]? twin.funcs[k]?) {f g : Frame}
    (frames : f.Linked links g) :
    Performed links (fun _ => False) s t (perform inst s f o : Except (Stop ε) _)
      (perform twin t g o) := by
  obtain ⟨locals, stack⟩ := f
  obtain ⟨others, below⟩ := g
  obtain ⟨sameLocals, sameStack⟩ := frames
  dsimp only at sameLocals sameStack
  cases o with
  | const32 value => exact .ok ⟨sameLocals, .cons (.i32 _) sameStack⟩ .same
  | const64 value => exact .ok ⟨sameLocals, .cons (.i64 _) sameStack⟩ .same
  | constF32 bits => exact .ok ⟨sameLocals, .cons (.f32 _) sameStack⟩ .same
  | constF64 bits => exact .ok ⟨sameLocals, .cons (.f64 _) sameStack⟩ .same
  | constV128 bits => exact .ok ⟨sameLocals, .cons (.v128 _) sameStack⟩ .same
  | refNull type => exact .ok ⟨sameLocals, .cons (.ref .null) sameStack⟩ .same
  | numeric op => exact numeric_linked sameLocals sameStack op
  | refFunc index => exact refFunc_linked sameLocals sameStack (funcs index)
  | _ => cases fixed

theorem evalConst_linked {expr : ConstExpr} (fixed : ∀ o ∈ expr, o.isFixed)
    (funcs : ∀ k : Nat, Option.Rel links.funcs inst.funcs[k]? twin.funcs[k]?)
    {vs ws : List Value} (same : Values links vs ws) :
    Values links (evalConst inst s expr vs) (evalConst twin t expr ws) := by
  induction expr generalizing vs ws with
  | nil => exact same
  | cons first rest ih =>
    have head := fixed first List.mem_cons_self
    have frames : Frame.Linked links ⟨[], vs⟩ ⟨[], ws⟩ := ⟨.nil, same⟩
    have done := fixed_linked (ε := Empty) (s := s) (t := t) head funcs frames
    unfold evalConst
    generalize (perform inst s ⟨[], vs⟩ first : Except (Stop Empty) _) = x at done ⊢
    generalize (perform twin t ⟨[], ws⟩ first : Except (Stop Empty) _) = y at done ⊢
    cases done with
    | ok frames moved =>
      exact ih (fun o inside => fixed o (List.mem_cons_of_mem _ inside)) frames.stack
    | error why => exact same

theorem constIndex_linked {expr : ConstExpr} (fixed : ∀ o ∈ expr, o.isFixed)
    (funcs : ∀ k : Nat, Option.Rel links.funcs inst.funcs[k]? twin.funcs[k]?) :
    constIndex inst s expr = constIndex twin t expr := by
  have same : Values links (evalConst inst s expr []) (evalConst twin t expr []) :=
    evalConst_linked fixed funcs .nil
  unfold constIndex
  generalize evalConst inst s expr [] = vs at same ⊢
  generalize evalConst twin t expr [] = ws at same ⊢
  cases same with
  | nil => rfl
  | cons head below => cases head <;> rfl

theorem constRef_linked {expr : ConstExpr} (fixed : ∀ o ∈ expr, o.isFixed)
    (funcs : ∀ k : Nat, Option.Rel links.funcs inst.funcs[k]? twin.funcs[k]?) :
    (constRef inst s expr).Linked links (constRef twin t expr) := by
  have same : Values links (evalConst inst s expr []) (evalConst twin t expr []) :=
    evalConst_linked fixed funcs .nil
  unfold constRef
  generalize evalConst inst s expr [] = vs at same ⊢
  generalize evalConst twin t expr [] = ws at same ⊢
  cases same with
  | nil => exact .null
  | cons head below =>
    cases head with
    | ref refs => exact refs
    | _ => exact .null

/-- A fixed constant has the same value in every store. -/
theorem evalConst_store {expr : ConstExpr} (fixed : ∀ o ∈ expr, o.isFixed) (s t : Store κ)
    (vs : List Value) : evalConst inst s expr vs = evalConst inst t expr vs := by
  induction expr generalizing vs with
  | nil => rfl
  | cons first rest ih =>
    have head := fixed first List.mem_cons_self
    have tail := ih fun o inside => fixed o (List.mem_cons_of_mem _ inside)
    unfold evalConst
    cases left : (perform inst s ⟨[], vs⟩ first : Except (Stop Empty) (Frame × Store κ)) with
    | ok after =>
      obtain ⟨_, right⟩ := perform_fixed (t := t) head left
      rw [right]
      exact tail _
    | error why =>
      cases right : (perform inst t ⟨[], vs⟩ first : Except (Stop Empty) (Frame × Store κ)) with
      | ok after =>
        obtain ⟨_, found⟩ := perform_fixed (t := s) head right
        rw [left] at found
        cases found
      | error other => rfl

theorem constIndex_store {expr : ConstExpr} (fixed : ∀ o ∈ expr, o.isFixed) (s t : Store κ) :
    constIndex inst s expr = constIndex inst t expr := by
  unfold constIndex
  rw [evalConst_store fixed s t]

theorem constRef_store {expr : ConstExpr} (fixed : ∀ o ∈ expr, o.isFixed) (s t : Store κ) :
    constRef inst s expr = constRef inst t expr := by
  unfold constRef
  rw [evalConst_store fixed s t]

end Constants

/-- Changes the item that an index stands for. -/
def fillAt (addresses : Array Nat) (index : Nat) (change : α → Option α) (items : Array α) :
    Option (Array α) := do
  let addr ← addresses[index]?
  let item ← items[addr]?
  let changed ← change item
  some (items.setIfInBounds addr changed)

def ElemSegment.fill (inst : Instance) (store : Store κ) (tables : Array Table)
    (segment : ElemSegment) : Option (Array Table) :=
  match segment.mode with
  | .active index offset =>
    fillAt inst.tables index
      (·.write? (constIndex inst store offset) (segment.items.map (constRef inst store))) tables
  | _ => some tables

def DataSegment.fill (inst : Instance) (store : Store κ) (memories : Array Memory)
    (segment : DataSegment) : Option (Array Memory) :=
  match segment.mode with
  | .active index offset =>
    fillAt inst.memories index (·.write? (constIndex inst store offset) segment.bytes) memories
  | _ => some memories

structure ElemSegment.Fixed (segment : ElemSegment) : Prop where
  offset : ∀ {index offset}, segment.mode = .active index offset → ∀ o ∈ offset, o.isFixed
  items : ∀ item ∈ segment.items, ∀ o ∈ item, o.isFixed

def DataSegment.Fixed (segment : DataSegment) : Prop :=
  ∀ {index offset}, segment.mode = .active index offset → ∀ o ∈ offset, o.isFixed

/-- Every constant of the module is fixed. -/
structure Module.Fixed (m : Module) : Prop where
  globals : ∀ g ∈ m.globals, ∀ o ∈ g.start, o.isFixed
  elems : ∀ segment ∈ m.elems, segment.Fixed
  datas : ∀ segment ∈ m.datas, segment.Fixed

section Segments

variable {inst : Instance} {c after : Machine κ η}

theorem writeElem_ok_iff {segment : ElemSegment} (fixed : segment.Fixed) (store : Store κ) :
    (writeElem inst segment : Action κ η ε Unit) c = (.ok (), after) ↔
      ∃ tables, segment.fill inst store c.store.tables = some tables ∧
        after = { c with store := { c.store with tables } } := by
  unfold writeElem ElemSegment.fill
  cases mode : segment.mode with
  | passive =>
    constructor
    · intro ran
      obtain rfl := (Prod.mk.inj ran).2
      exact ⟨_, rfl, rfl⟩
    · rintro ⟨_, same, rfl⟩
      obtain rfl := Option.some.inj same
      rfl
  | declarative =>
    constructor
    · intro ran
      obtain rfl := (Prod.mk.inj ran).2
      exact ⟨_, rfl, rfl⟩
    · rintro ⟨_, same, rfl⟩
      obtain rfl := Option.some.inj same
      rfl
  | active index offset =>
    dsimp only
    have refs : segment.items.map (constRef inst c.store) =
        segment.items.map (constRef inst store) := by
      apply List.map_congr_left
      intro item inside
      exact constRef_store (fixed.items item inside) _ _
    rw [Action.bind_apply]
    dsimp only [Action.store]
    rw [refs, constIndex_store (fixed.offset mode) c.store store]
    unfold fillAt Instance.table?
    cases inst.tables[index]? with
    | none => simp [Action.stop]
    | some addr =>
      cases found : c.store.tables[addr]? with
      | none => simp [Action.stop, found]
      | some table =>
        simp only [Option.bind_eq_bind, Option.bind_some, Option.pure_def, found]
        cases table.write? (constIndex inst store offset)
            (segment.items.map (constRef inst store)) with
        | none => simp [Action.stop]
        | some changed => simp [Action.setStore, Store.setTable, eq_comm]

theorem writeData_ok_iff {segment : DataSegment} (fixed : segment.Fixed) (store : Store κ) :
    (writeData inst segment : Action κ η ε Unit) c = (.ok (), after) ↔
      ∃ memories, segment.fill inst store c.store.memories = some memories ∧
        after = { c with store := { c.store with memories } } := by
  unfold writeData DataSegment.fill
  cases mode : segment.mode with
  | passive =>
    constructor
    · intro ran
      obtain rfl := (Prod.mk.inj ran).2
      exact ⟨_, rfl, rfl⟩
    · rintro ⟨_, same, rfl⟩
      obtain rfl := Option.some.inj same
      rfl
  | active index offset =>
    dsimp only
    rw [Action.bind_apply]
    dsimp only [Action.store]
    rw [constIndex_store (fixed mode) c.store store]
    unfold fillAt Instance.memory?
    cases inst.memories[index]? with
    | none => simp [Action.stop]
    | some addr =>
      cases found : c.store.memories[addr]? with
      | none => simp [Action.stop, found]
      | some memory =>
        simp only [Option.bind_eq_bind, Option.bind_some, Option.pure_def, found]
        cases memory.write? (constIndex inst store offset) segment.bytes with
        | none => simp [Action.stop]
        | some changed => simp [Action.setStore, Store.setMemory, eq_comm]

/-- Actions in a row answer if each changes one part of the machine as a function says. -/
theorem forM_ok_iff {γ : Type} {act : β → Action κ η ε Unit} {fill : γ → β → Option γ}
    (get : Machine κ η → γ) (put : γ → Machine κ η → Machine κ η)
    (getPut : ∀ x c, get (put x c) = x) (putGet : ∀ c, put (get c) c = c)
    (putPut : ∀ x y c, put y (put x c) = put y c) {items : List β}
    (each : ∀ item ∈ items, ∀ c after, act item c = (.ok (), after) ↔
      ∃ x, fill (get c) item = some x ∧ after = put x c) (c after : Machine κ η) :
    items.forM act c = (.ok (), after) ↔
      ∃ x, items.foldlM fill (get c) = some x ∧ after = put x c := by
  induction items generalizing c with
  | nil =>
    constructor
    · intro ran
      obtain rfl := (Prod.mk.inj ran).2
      exact ⟨get c, rfl, (putGet c).symm⟩
    · rintro ⟨_, same, rfl⟩
      obtain rfl := Option.some.inj same
      rw [putGet]
      rfl
  | cons item rest ih =>
    have first := each item List.mem_cons_self
    have later := ih fun item inside => each item (List.mem_cons_of_mem _ inside)
    rw [List.foldlM_cons]
    constructor
    · intro ran
      obtain ⟨_, middle, head, tail⟩ := Action.bind_ok ran
      obtain ⟨x, filled, rfl⟩ := (first c middle).mp head
      obtain ⟨y, more, rfl⟩ := (later _).mp tail
      rw [getPut] at more
      exact ⟨y, by simpa [filled] using more, putPut x y c⟩
    · rintro ⟨y, filled, rfl⟩
      obtain ⟨x, head, tail⟩ := Option.bind_eq_some_iff.mp filled
      have ran := (first c (put x c)).mpr ⟨x, head, rfl⟩
      refine (Action.bind_of_ok ran).trans ((later _).mpr ⟨y, ?_, ?_⟩)
      · rw [getPut]
        exact tail
      · exact (putPut x y c).symm

theorem writeElems_ok_iff {segments : List ElemSegment}
    (fixed : ∀ segment ∈ segments, segment.Fixed)
    (base : Store κ) (c after : Machine κ η) :
    segments.forM (writeElem inst) c = ((.ok (), after) : Except (Stop ε) Unit × Machine κ η) ↔
      ∃ tables, segments.foldlM (ElemSegment.fill inst base) c.store.tables = some tables ∧
        after = { c with store := { c.store with tables } } :=
  forM_ok_iff (·.store.tables) (fun tables c => { c with store := { c.store with tables } })
    (fun _ _ => rfl) (fun _ => rfl) (fun _ _ _ => rfl)
    (fun segment inside _ _ => writeElem_ok_iff (fixed segment inside) base) c after

theorem writeDatas_ok_iff {segments : List DataSegment}
    (fixed : ∀ segment ∈ segments, segment.Fixed) (base : Store κ) (c after : Machine κ η) :
    segments.forM (writeData inst) c = ((.ok (), after) : Except (Stop ε) Unit × Machine κ η) ↔
      ∃ memories, segments.foldlM (DataSegment.fill inst base) c.store.memories = some memories ∧
        after = { c with store := { c.store with memories } } :=
  forM_ok_iff (·.store.memories)
    (fun memories c => { c with store := { c.store with memories } })
    (fun _ _ => rfl) (fun _ => rfl) (fun _ _ _ => rfl)
    (fun segment inside _ _ => writeData_ok_iff (fixed segment inside) base) c after

end Segments

namespace Module

/-- The store with the items of a module and with its segments written, if all of them fit. -/
def place (m : Module) (items : List Extern) (store : Store κ) : Option (Store κ) := do
  let inst := m.instanceAt items store
  let base := m.allocate inst store
  let tables ← m.elems.foldlM (ElemSegment.fill inst base) base.tables
  let memories ← m.datas.foldlM (DataSegment.fill inst base) base.memories
  some { base with tables, memories }

variable {m : Module} {items : List Extern} {run : Invoker κ η ε} {c : Machine κ η}

/-- Once a module is placed, its start function decides how its loading ends. -/
theorem instantiate_of_place (fixed : m.Fixed) {store : Store κ}
    (placed : m.place items c.store = some store) :
    instantiate run m items c =
      (do runStart run (m.instanceAt items c.store) m.start
          pure (m.instanceAt items c.store)) { c with store } := by
  unfold instantiate
  rw [Action.bind_apply]
  dsimp only [Action.store]
  rw [Action.bind_apply]
  dsimp only [Action.setStore]
  obtain ⟨tables, filled, placed⟩ := Option.bind_eq_some_iff.mp placed
  obtain ⟨memories, written, same⟩ := Option.bind_eq_some_iff.mp placed
  obtain rfl := Option.some.inj same
  have first := (writeElems_ok_iff (ε := ε) fixed.elems
    (m.allocate (m.instanceAt items c.store) c.store)
    { c with store := m.allocate (m.instanceAt items c.store) c.store } _).mpr ⟨tables, filled, rfl⟩
  have second := (writeDatas_ok_iff (ε := ε) fixed.datas
    (m.allocate (m.instanceAt items c.store) c.store)
    { c with store := { m.allocate (m.instanceAt items c.store) c.store with tables } } _).mpr
      ⟨memories, written, rfl⟩
  rw [Action.bind_of_ok first, Action.bind_of_ok second]

theorem alone_discipline : Discipline fun (m : Machine κ η) (ended : Ending ε) after =>
    after.host = m.host ∧ ∀ why, ended = .error why → why.fault? = none where
  quiet m := ⟨rfl, nofun⟩
  halted m why own := ⟨rfl, by rintro _ ⟨rfl⟩; exact own⟩
  trans head tail := ⟨tail.1.trans head.1, tail.2⟩
  performed _ := ⟨rfl, nofun⟩
  allocated _ _ _ := ⟨rfl, nofun⟩
  filled _ _ := ⟨rfl, nofun⟩
  written _ _ := ⟨rfl, nofun⟩

variable (run) in
/-- A module that cannot be placed is not loaded, and no code runs. -/
theorem instantiate_of_unplaced (fixed : m.Fixed) (unplaced : m.place items c.store = none) :
    ∃ why after, instantiate run m items c = (.error why, after) ∧ after.host = c.host ∧
      why.fault? = none := by
  unfold place at unplaced
  unfold instantiate
  rw [Action.bind_apply]
  dsimp only [Action.store]
  rw [Action.bind_apply]
  dsimp only [Action.setStore] at unplaced ⊢
  generalize m.instanceAt items c.store = inst at unplaced ⊢
  generalize m.allocate inst c.store = base at unplaced ⊢
  have d : Discipline fun (m : Machine κ η) (ended : Ending ε) after =>
      after.host = m.host ∧ ∀ why, ended = .error why → why.fault? = none := alone_discipline
  obtain ⟨sameHost, own⟩ := d.forM (d.writeElem inst) { c with store := base }
  rw [Action.bind_apply]
  cases elems : m.elems.forM (writeElem inst) { c with store := base } with
  | mk result middle =>
    rw [elems] at sameHost own
    cases result with
    | error why => exact ⟨why, middle, rfl, sameHost, own why rfl⟩
    | ok _ =>
      obtain ⟨tables, filled, rfl⟩ := (writeElems_ok_iff fixed.elems base _ _).mp elems
      dsimp only at filled ⊢
      rw [filled] at unplaced
      obtain ⟨sameHost, own⟩ := d.forM (d.writeData inst) { c with store := { base with tables } }
      rw [Action.bind_apply]
      cases datas : m.datas.forM (writeData inst) { c with store := { base with tables } } with
      | mk result last =>
        rw [datas] at sameHost own
        cases result with
        | error why => exact ⟨why, last, rfl, sameHost, own why rfl⟩
        | ok _ =>
          obtain ⟨memories, written, rfl⟩ := (writeDatas_ok_iff fixed.datas base _ _).mp datas
          dsimp only at written
          rw [Option.bind_eq_bind, Option.bind_some, written] at unplaced
          cases unplaced

/-- A module is loaded if its segments fit and its start function answers. -/
theorem instantiate_ok_iff (fixed : m.Fixed) {inst : Instance} {after : Machine κ η} :
    instantiate run m items c = (.ok inst, after) ↔
      ∃ store, m.place items c.store = some store ∧ inst = m.instanceAt items c.store ∧
        runStart run inst m.start { c with store } = (.ok (), after) := by
  cases placed : m.place items c.store with
  | none =>
    obtain ⟨why, _, failed, _⟩ := instantiate_of_unplaced run fixed placed
    rw [failed]
    simp
  | some store =>
    rw [instantiate_of_place fixed placed]
    constructor
    · intro ran
      obtain ⟨_, last, started, ran⟩ := Action.bind_ok ran
      obtain ⟨same, rfl⟩ := Prod.mk.inj ran
      obtain rfl := Except.ok.inj same
      exact ⟨store, rfl, rfl, started⟩
    · rintro ⟨_, same, rfl, started⟩
      obtain rfl := Option.some.inj same
      exact Action.bind_of_ok started

end Module

/-- Behind the imported ones, indices stand for so many addresses in a row. -/
def Offset (addresses : Array Nat) (imported base count : Nat) : Prop :=
  ∀ k, addresses[imported + k]? = if k < count then some (base + k) else none

theorem Module.addresses_offset (imported : List Nat) (base count : Nat) :
    Offset (Module.addresses imported base count) imported.length base count := by
  intro k
  unfold Module.addresses
  rw [List.getElem?_toArray, List.getElem?_append_right (Nat.le_add_right _ _),
    Nat.add_sub_cancel_left]
  split
  · next inside => rw [List.getElem?_range' inside, Nat.one_mul]
  · next outside =>
    rw [List.getElem?_eq_none_iff, List.length_range']
    exact Nat.le_of_not_lt outside

/-- Two arrays hold related items at so many places, each from a base of its own on. -/
def Owned (S : α → α → Prop) (base other count : Nat) (x y : Array α) : Prop :=
  ∀ k < count, ∃ v w, x[base + k]? = some v ∧ y[other + k]? = some w ∧ S v w

structure KeepsBelow (base : Nat) (x y : Array α) : Prop where
  size : y.size = x.size
  items : ∀ a < base, y[a]? = x[a]?

theorem KeepsBelow.refl (base : Nat) (x : Array α) : KeepsBelow base x x := ⟨rfl, fun _ _ => rfl⟩

theorem KeepsBelow.trans {base : Nat} {x y z : Array α} (head : KeepsBelow base x y)
    (tail : KeepsBelow base y z) : KeepsBelow base x z :=
  ⟨tail.size.trans head.size, fun a below => (tail.items a below).trans (head.items a below)⟩

section Own

variable {S : α → α → Prop} {base other count : Nat}

/-- Items of both arrays are still related, and nothing below them has changed. -/
structure Filled (S : α → α → Prop) (base other count : Nat) (x y x' y' : Array α) : Prop where
  owned : Owned S base other count x' y'
  left : KeepsBelow base x x'
  right : KeepsBelow other y y'

theorem fillAt_filled {addresses others : Array Nat} {imported index : Nat}
    (laid : Offset addresses imported base count) (twin : Offset others imported other count)
    (own : imported ≤ index) {x y : Array α} (owned : Owned S base other count x y)
    {change adjust : α → Option α} (changes : ∀ v w, S v w → Option.Rel S (change v) (adjust w)) :
    Option.Rel (Filled S base other count x y) (fillAt addresses index change x)
      (fillAt others index adjust y) := by
  obtain ⟨k, rfl⟩ := Nat.exists_eq_add_of_le own
  unfold fillAt
  rw [laid k, twin k]
  split
  · next inside =>
    obtain ⟨v, w, atX, atY, related⟩ := owned k inside
    have insideX := (Array.getElem?_eq_some_iff.mp atX).1
    have insideY := (Array.getElem?_eq_some_iff.mp atY).1
    simp only [Option.bind_eq_bind, Option.bind_some, atX, atY]
    obtain ⟨left, right⟩ | ⟨v', w', left, right, after⟩ := option_rel_cases (changes v w related)
    · rw [left, right]
      exact .none
    · rw [left, right]
      refine .some ⟨fun j within => ?_, ⟨Array.size_setIfInBounds, fun a below => ?_⟩,
        ⟨Array.size_setIfInBounds, fun a below => ?_⟩⟩
      · by_cases same : k = j
        · subst same
          exact ⟨v', w', Array.getElem?_setIfInBounds_self_of_lt insideX,
            Array.getElem?_setIfInBounds_self_of_lt insideY, after⟩
        · rw [Array.getElem?_setIfInBounds_ne (by omega),
            Array.getElem?_setIfInBounds_ne (by omega)]
          exact owned j within
      · exact Array.getElem?_setIfInBounds_ne (by omega)
      · exact Array.getElem?_setIfInBounds_ne (by omega)
  · exact .none

theorem foldlM_filled {fill fill' : Array α → β → Option (Array α)} {items : List β}
    (each : ∀ item ∈ items, ∀ x y, Owned S base other count x y →
      Option.Rel (Filled S base other count x y) (fill x item) (fill' y item))
    {x y : Array α} (owned : Owned S base other count x y) :
    Option.Rel (Filled S base other count x y) (items.foldlM fill x) (items.foldlM fill' y) := by
  induction items generalizing x y with
  | nil => exact .some ⟨owned, .refl _ _, .refl _ _⟩
  | cons item rest ih =>
    rw [List.foldlM_cons, List.foldlM_cons]
    obtain ⟨left, right⟩ | ⟨x', y', left, right, first⟩ :=
      option_rel_cases (each item List.mem_cons_self x y owned)
    · rw [left, right]
      exact .none
    · rw [left, right]
      have later := ih (fun item inside => each item (List.mem_cons_of_mem _ inside)) first.owned
      exact option_rel_mono (fun _ _ done =>
        ⟨done.owned, first.left.trans done.left, first.right.trans done.right⟩) later

end Own

/-- The segment is not for an imported table. -/
def ElemSegment.Own (imported : Nat) (segment : ElemSegment) : Prop :=
  ∀ index offset, segment.mode = .active index offset → imported ≤ index

section Twice

variable {links : Links} {s t : Store κ} {inst twin : Instance} {imported base other count : Nat}

theorem elems_filled {segments : List ElemSegment} (fixed : ∀ segment ∈ segments, segment.Fixed)
    (own : ∀ segment ∈ segments, segment.Own imported)
    (funcs : ∀ k : Nat, Option.Rel links.funcs inst.funcs[k]? twin.funcs[k]?)
    (laid : Offset inst.tables imported base count)
    (opposite : Offset twin.tables imported other count)
    {x y : Array Table} (owned : Owned (Table.Linked links) base other count x y) :
    Option.Rel (Filled (Table.Linked links) base other count x y)
      (segments.foldlM (ElemSegment.fill inst s) x)
      (segments.foldlM (ElemSegment.fill twin t) y) := by
  -- Offsets and items are linked constants, and a segment for an own table reaches no other.
  refine foldlM_filled (fun segment inside x y owned => ?_) owned
  unfold ElemSegment.fill
  cases mode : segment.mode with
  | active index offset =>
    refine fillAt_filled laid opposite (own segment inside index offset mode) owned
      fun v w linked => ?_
    rw [constIndex_linked (s := s) (t := t) ((fixed segment inside).offset mode) funcs]
    refine linked.write? ?_ _
    rw [List.forall₂_map_left_iff, List.forall₂_map_right_iff, List.forall₂_same]
    intro item listed
    exact constRef_linked ((fixed segment inside).items item listed) funcs
  | _ => exact .some ⟨owned, .refl _ _, .refl _ _⟩

theorem datas_filled {segments : List DataSegment} (fixed : ∀ segment ∈ segments, segment.Fixed)
    (funcs : ∀ k : Nat, Option.Rel links.funcs inst.funcs[k]? twin.funcs[k]?)
    (laid : Offset inst.memories 0 base count) (opposite : Offset twin.memories 0 other count)
    {x y : Array Memory} (owned : Owned Eq base other count x y) :
    Option.Rel (Filled Eq base other count x y)
      (segments.foldlM (DataSegment.fill inst s) x)
      (segments.foldlM (DataSegment.fill twin t) y) := by
  refine foldlM_filled (fun segment inside x y owned => ?_) owned
  unfold DataSegment.fill
  cases mode : segment.mode with
  | active index offset =>
    refine fillAt_filled laid opposite (Nat.zero_le _) owned fun v w same => ?_
    obtain rfl := same
    rw [constIndex_linked (s := s) (t := t) (fixed segment inside mode) funcs]
    cases v.write? (constIndex twin t offset) segment.bytes with
    | none => exact .none
    | some changed => exact .some rfl
  | _ => exact .some ⟨owned, .refl _ _, .refl _ _⟩

end Twice

/-- The links between the items that loading the module makes in two stores. -/
def Links.fresh (m : Module) (s t : Store κ) : Links where
  funcs a b := ∃ k < m.funcs.length, a = s.funcs.size + k ∧ b = t.funcs.size + k
  tables a b := ∃ k < m.tables.length, a = s.tables.size + k ∧ b = t.tables.size + k
  memories a b := ∃ k < m.memories.length, a = s.memories.size + k ∧ b = t.memories.size + k
  globals a b := ∃ k < m.globals.length, a = s.globals.size + k ∧ b = t.globals.size + k
  segments a b := ∃ k < m.elems.length + m.datas.length,
    a = s.segments.size + k ∧ b = t.segments.size + k

theorem addresses_linked {R : Nat → Nat → Prop} {imported : List Nat} {base other count : Nat}
    (shared : ∀ a ∈ imported, R a a) (fresh : ∀ k < count, R (base + k) (other + k)) (k : Nat) :
    Option.Rel R (Module.addresses imported base count)[k]?
      (Module.addresses imported other count)[k]? := by
  by_cases below : k < imported.length
  · unfold Module.addresses
    rw [List.getElem?_toArray, List.getElem?_toArray, List.getElem?_append_left below,
      List.getElem?_append_left below, List.getElem?_eq_getElem below]
    exact .some (shared _ (List.getElem_mem below))
  · obtain ⟨j, rfl⟩ := Nat.exists_eq_add_of_le (Nat.le_of_not_lt below)
    rw [Module.addresses_offset imported base count j,
      Module.addresses_offset imported other count j]
    split
    · next inside => exact .some (fresh j inside)
    · exact .none

/-- What the indices of a module stand for in two stores is linked, if what it imports is. -/
theorem instanceAt_linked {m : Module} {items : List Extern} {s t : Store κ} {links : Links}
    (fresh : Links.fresh m s t ≤ links) (funcs : ∀ a, .func a ∈ items → links.funcs a a)
    (tables : ∀ a, .table a ∈ items → links.tables a a)
    (memories : ∀ a, .memory a ∈ items → links.memories a a)
    (globals : ∀ a, .global a ∈ items → links.globals a a) :
    (m.instanceAt items s).Linked links (m.instanceAt items t) where
  types := rfl
  funcs := by
    refine addresses_linked (fun a inside => ?_) fun k below => fresh.1 _ _ ⟨k, below, rfl, rfl⟩
    obtain ⟨item, listed, same⟩ := List.mem_filterMap.mp inside
    cases item <;> cases same
    exact funcs a listed
  tables := by
    refine addresses_linked (fun a inside => ?_) fun k below => fresh.2.1 _ _ ⟨k, below, rfl, rfl⟩
    obtain ⟨item, listed, same⟩ := List.mem_filterMap.mp inside
    cases item <;> cases same
    exact tables a listed
  memories := by
    refine addresses_linked (fun a inside => ?_) fun k below => fresh.2.2.1 _ _ ⟨k, below, rfl, rfl⟩
    obtain ⟨item, listed, same⟩ := List.mem_filterMap.mp inside
    cases item <;> cases same
    exact memories a listed
  globals := by
    refine addresses_linked (fun a inside => ?_) fun k below => fresh.2.2.2.1 _ _ ⟨k, below, rfl, rfl⟩
    obtain ⟨item, listed, same⟩ := List.mem_filterMap.mp inside
    cases item <;> cases same
    exact globals a listed
  elems := by
    refine addresses_linked nofun fun k below => fresh.2.2.2.2 _ _ ⟨k, ?_, rfl, rfl⟩
    omega
  datas := by
    refine addresses_linked nofun fun k below =>
      fresh.2.2.2.2 _ _ ⟨m.elems.length + k, ?_, ?_, ?_⟩
    all_goals omega

section Fresh

variable {links : Links} {s t : Store κ} {inst twin : Instance}

theorem newTables_owned (types : List TableType) (x y : Array Table) :
    Owned (Table.Linked links) x.size y.size types.length
      (x ++ (types.map Module.newTable).toArray) (y ++ (types.map Module.newTable).toArray) := by
  intro k inside
  refine ⟨Module.newTable types[k], Module.newTable types[k], by simp [inside], by simp [inside],
    rfl, rfl, fun j => ?_⟩
  unfold Module.newTable
  rw [Array.getElem?_replicate]
  split
  · exact .some .null
  · exact .none

theorem newMemories_owned (types : List MemoryType) (x y : Array Memory) :
    Owned Eq x.size y.size types.length
      (x ++ (types.map Module.newMemory).toArray) (y ++ (types.map Module.newMemory).toArray) := by
  intro k inside
  exact ⟨Module.newMemory types[k], Module.newMemory types[k], by simp [inside],
    by simp [inside], rfl⟩

theorem newGlobals_owned {globals : List Global} (fixed : ∀ g ∈ globals, ∀ o ∈ g.start, o.isFixed)
    (funcs : ∀ k : Nat, Option.Rel links.funcs inst.funcs[k]? twin.funcs[k]?)
    (x y : Array GlobalInst) :
    Owned (GlobalInst.Linked links) x.size y.size globals.length
      (x ++ (globals.map (Module.newGlobal inst s)).toArray)
      (y ++ (globals.map (Module.newGlobal twin t)).toArray) := by
  intro k inside
  refine ⟨Module.newGlobal inst s globals[k], Module.newGlobal twin t globals[k],
    by simp [inside], by simp [inside], rfl, ?_⟩
  unfold Module.newGlobal
  have same : Values links (evalConst inst s globals[k].start [])
      (evalConst twin t globals[k].start []) :=
    evalConst_linked (fixed _ (List.getElem_mem inside)) funcs .nil
  generalize evalConst inst s globals[k].start [] = vs at same ⊢
  generalize evalConst twin t globals[k].start [] = ws at same ⊢
  cases same with
  | nil => exact ValType.zero_linked _
  | cons head below => exact head

theorem newSegments_owned {m : Module} (fixed : m.Fixed)
    (funcs : ∀ k : Nat, Option.Rel links.funcs inst.funcs[k]? twin.funcs[k]?)
    (x y : Array Segment) :
    Owned (Segment.Linked links) x.size y.size (m.elems.length + m.datas.length)
      (x ++ (m.elems.map (Module.newElem inst s) ++ m.datas.map Module.newData).toArray)
      (y ++ (m.elems.map (Module.newElem twin t) ++ m.datas.map Module.newData).toArray) := by
  have elems : ∀ segment ∈ m.elems,
      (Module.newElem inst s segment).Linked links (Module.newElem twin t segment) := by
    intro segment listed
    unfold Module.newElem
    cases segment.mode with
    | passive =>
      refine ⟨?_, rfl⟩
      rw [List.forall₂_map_left_iff, List.forall₂_map_right_iff, List.forall₂_same]
      intro item inside
      exact constRef_linked ((fixed.elems segment listed).items item inside) funcs
    | _ => exact Segment.empty_linked links
  have datas : ∀ segment : DataSegment,
      (Module.newData segment).Linked links (Module.newData segment) :=
    fun segment => ⟨by unfold Module.newData; cases segment.mode <;> exact .nil, rfl⟩
  have behind : ∀ (x : Array Segment) (new : List Segment) (k : Nat),
      (x ++ new.toArray)[x.size + k]? = new[k]? := by
    intro x new k
    rw [Array.getElem?_append_right (Nat.le_add_right _ _), Nat.add_sub_cancel_left,
      List.getElem?_toArray]
  intro k inside
  by_cases isElem : k < m.elems.length
  · refine ⟨_, _, ?_, ?_, elems m.elems[k] (List.getElem_mem isElem)⟩
    · rw [behind, List.getElem?_append_left (by simpa using isElem)]
      simp [isElem]
    · rw [behind, List.getElem?_append_left (by simpa using isElem)]
      simp [isElem]
  · obtain ⟨j, rfl⟩ := Nat.exists_eq_add_of_le (Nat.le_of_not_lt isElem)
    have isData : j < m.datas.length := by omega
    refine ⟨_, _, ?_, ?_, datas m.datas[j]⟩
    · rw [behind, List.getElem?_append_right (by simp)]
      simp [isData]
    · rw [behind, List.getElem?_append_right (by simp)]
      simp [isData]

end Fresh

namespace Check

variable {δ : Type}

theorem ok_of_forM {act : α → Except δ Unit} {items : List α} (passed : items.forM act = .ok ()) :
    ∀ item ∈ items, act item = .ok () := by
  induction items with
  | nil => exact nofun
  | cons first rest ih =>
    obtain ⟨_, head, tail⟩ := bind_ok_iff.mp passed
    intro item inside
    rcases List.mem_cons.mp inside with rfl | later
    · exact head
    · exact ih tail item later

theorem require_ok {condition : Bool} {defect : Defect}
    (passed : require condition defect = .ok ()) :
    condition = true := by
  unfold require at passed
  split at passed
  · next holds => exact holds
  · cases passed

theorem fixed_of_constExpr {context : Context} (closed : context.importedGlobals = 0)
    {type : ValType} {expr : ConstExpr} (passed : constExpr context type expr = .ok ()) :
    ∀ o ∈ expr, o.isFixed := by
  obtain ⟨_, constant, _⟩ := bind_ok_iff.mp passed
  intro o inside
  have allowed := List.all_eq_true.mp (require_ok constant) o inside
  cases o with
  | globalGet index =>
    have below := of_decide_eq_true (Bool.and_eq_true_iff.mp allowed).1
    omega
  | const32 value => rfl
  | const64 value => rfl
  | constF32 bits => rfl
  | constF64 bits => rfl
  | constV128 bits => rfl
  | refNull type => rfl
  | refFunc index => rfl
  | numeric op => rfl
  | _ => cases allowed

end Check

theorem Module.fixed_of_check {m : Module} (passed : m.check = .ok ())
    (closed : m.importedGlobals = []) : m.Fixed := by
  unfold Module.check at passed
  obtain ⟨context, built, passed⟩ := Wasm.bind_ok_iff.mp passed
  have none : context.importedGlobals = 0 := by
    unfold Module.context at built
    obtain ⟨funcs, _, same⟩ := Wasm.bind_ok_iff.mp built
    obtain rfl := Except.ok.inj same
    rw [closed]
    rfl
  obtain ⟨_, _, passed⟩ := Wasm.bind_ok_iff.mp passed
  obtain ⟨_, _, passed⟩ := Wasm.bind_ok_iff.mp passed
  obtain ⟨_, _, passed⟩ := Wasm.bind_ok_iff.mp passed
  obtain ⟨_, _, passed⟩ := Wasm.bind_ok_iff.mp passed
  obtain ⟨_, globals, passed⟩ := Wasm.bind_ok_iff.mp passed
  obtain ⟨_, _, passed⟩ := Wasm.bind_ok_iff.mp passed
  obtain ⟨_, _, passed⟩ := Wasm.bind_ok_iff.mp passed
  obtain ⟨_, _, passed⟩ := Wasm.bind_ok_iff.mp passed
  obtain ⟨_, elems, passed⟩ := Wasm.bind_ok_iff.mp passed
  obtain ⟨_, datas, _⟩ := Wasm.bind_ok_iff.mp passed
  refine ⟨fun g inside => ?_, fun segment inside => ?_, fun segment inside => ?_⟩
  · exact Check.fixed_of_constExpr none (Check.ok_of_forM globals g inside)
  · have checked := Check.ok_of_forM elems segment inside
    unfold Check.elem at checked
    refine ⟨fun {index offset} mode => ?_, fun item listed => ?_⟩
    · rw [mode] at checked
      obtain ⟨_, _, checked⟩ := Wasm.bind_ok_iff.mp checked
      obtain ⟨_, _, checked⟩ := Wasm.bind_ok_iff.mp checked
      obtain ⟨_, constant, _⟩ := Wasm.bind_ok_iff.mp checked
      exact Check.fixed_of_constExpr none constant
    · have exprs : segment.items.forM (Check.constExpr context (.ref segment.type)) = .ok () := by
        cases mode : segment.mode with
        | active index offset =>
          rw [mode] at checked
          obtain ⟨_, _, checked⟩ := Wasm.bind_ok_iff.mp checked
          obtain ⟨_, _, checked⟩ := Wasm.bind_ok_iff.mp checked
          obtain ⟨_, _, checked⟩ := Wasm.bind_ok_iff.mp checked
          exact checked
        | passive =>
          rw [mode] at checked
          exact checked
        | declarative =>
          rw [mode] at checked
          exact checked
      exact Check.fixed_of_constExpr none (Check.ok_of_forM exprs item listed)
  · intro index offset mode
    have checked := Check.ok_of_forM datas segment inside
    unfold Check.data at checked
    rw [mode] at checked
    obtain ⟨_, _, constant⟩ := Wasm.bind_ok_iff.mp checked
    exact Check.fixed_of_constExpr none constant

theorem Module.check_of_ofBlob {blob : Bytes} {m : Module} (built : Module.ofBlob blob = .ok m) :
    m.check = .ok () := by
  unfold Module.ofBlob at built
  obtain ⟨found, _, built⟩ := Wasm.bind_ok_iff.mp built
  obtain ⟨_, passed, same⟩ := Wasm.bind_ok_iff.mp built
  obtain rfl := Except.ok.inj same
  exact passed

end FirstCall.Wasm
