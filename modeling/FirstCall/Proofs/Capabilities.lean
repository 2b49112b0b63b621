import FirstCall.Proofs.Closed
import FirstCall.Proofs.Defenses
import FirstCall.Proofs.Failure
import FirstCall.Proofs.Keeping
import FirstCall.Proofs.Printing

/-!
# What a unit can import

A unit can import two things under fixed names: the shared table and the printing function. Any
other name turns the unit away, and so does an import under one of these names that asks for
another kind or type. A unit that is turned away leaves no trace. A unit that is loaded reaches
these two things and what it brings itself.
-/

namespace FirstCall

open Wasm

variable {σ : Type}

/-- The import has one of the two names that are offered to units. -/
def Wasm.Import.Offered (wanted : Import) : Prop :=
  wanted.module = importModule ∧ (wanted.name = tableName ∨ wanted.name = printlnImport)

instance (wanted : Import) : Decidable wanted.Offered :=
  inferInstanceAs (Decidable (_ ∧ _))

/-- The later store has every function of the earlier one and every table, which may have grown. -/
structure Wasm.Store.Extends (s t : Store HostFunc) : Prop where
  funcs : ∀ {a : Nat} {func}, s.funcs[a]? = some func → t.funcs[a]? = some func
  tables : ∀ {a : Nat} {x}, s.tables[a]? = some x → ∃ y, t.tables[a]? = some y ∧ x.Grows y

namespace Wasm.Store.Extends

variable {s t u : Store HostFunc}

theorem of_eq (funcs : t.funcs = s.funcs) (tables : t.tables = s.tables) : s.Extends t where
  funcs found := funcs ▸ found
  tables {_ x} found := ⟨x, tables ▸ found, rfl, rfl, Nat.le_refl _⟩

theorem refl (s : Store HostFunc) : s.Extends s := of_eq rfl rfl

theorem trans (head : s.Extends t) (tail : t.Extends u) : s.Extends u where
  funcs found := tail.funcs (head.funcs found)
  tables found := by
    obtain ⟨y, middle, first⟩ := head.tables found
    obtain ⟨z, last, second⟩ := tail.tables middle
    exact ⟨z, last, second.elem.trans first.elem, second.most.trans first.most,
      Nat.le_trans first.size second.size⟩

theorem setTable {addr : Nat} {old new : Table} (there : s.tables[addr]? = some old)
    (grows : old.Grows new) : s.Extends (s.setTable addr new) where
  funcs found := found
  tables {a x} found := by
    by_cases same : addr = a
    · subst same
      obtain rfl := Option.some.inj (there.symm.trans found)
      have inside := (Array.getElem?_eq_some_iff.mp there).1
      exact ⟨new, Array.getElem?_setIfInBounds_self_of_lt inside, grows⟩
    · exact ⟨x, (Array.getElem?_setIfInBounds_ne same).trans found, rfl, rfl, Nat.le_refl _⟩

theorem allocate (module : Module) (inst : Instance) (s : Store HostFunc) :
    s.Extends (module.allocate inst s) where
  funcs found :=
    (Array.getElem?_append_left (Array.getElem?_eq_some_iff.mp found).1).trans found
  tables {_ x} found :=
    ⟨x, (Array.getElem?_append_left (Array.getElem?_eq_some_iff.mp found).1).trans found, rfl, rfl,
      Nat.le_refl _⟩

/-- No operator takes a function or a table away. -/
theorem perform {inst : Instance} {store : Store HostFunc} {frame : Frame} {o : Op}
    {after : Frame × Store HostFunc}
    (done : (Wasm.perform inst store frame o : Except (Stop Session.Fault) _) = .ok after) :
    store.Extends after.2 := by
  obtain ⟨_, left⟩ := after
  cases perform_touches done with
  | tableSet top place written =>
    exact .setTable (Instance.place_of_table? place).2 (.of_write? written)
  | tableGrow place grown =>
    exact .setTable (Instance.place_of_table? place).2 (Table.Keeps.of_grow? grown).toGrows
  | tableWrite top place taken written =>
    exact .setTable (Instance.place_of_table? place).2 (.of_write? written)
  | _ => exact .of_eq rfl rfl

theorem lasting : Lasting Wasm.Store.Extends where
  refl := refl
  trans := trans
  performed done := perform done
  allocated store module _ := .allocate module _ store
  filled found written := .setTable (Instance.place_of_table? found).2 (.of_write? written)
  written _ _ := .of_eq rfl rfl

end Wasm.Store.Extends

/-- The shared table and the printing function are where units are given them from. -/
structure Wasm.Store.Equipped (shared : Nat) (table : Table) (s : Store HostFunc) : Prop where
  table : s.tables[shared]? = some table
  println : s.funcs[printlnAddr]? = some ⟨HostFunc.type, .host .println⟩

theorem Wasm.Store.Equipped.later {shared : Nat} {table : Table} {s t : Store HostFunc}
    (equipped : s.Equipped shared table) (grown : s.Extends t) :
    ∃ larger, table.Grows larger ∧ t.Equipped shared larger := by
  obtain ⟨larger, found, grows⟩ := grown.tables equipped.table
  exact ⟨larger, grows, found, grown.funcs equipped.println⟩

namespace Session

theorem rerun_lasts {R : Store HostFunc → Store HostFunc → Prop} (lasting : Lasting R)
    (service : Service σ) (limits : Limits) (runs : Nat) (session : Session σ) :
    R session.machine.store (session.rerun service limits runs).machine.store := by
  induction runs generalizing session with
  | zero => exact lasting.refl _
  | succ runs ih =>
    refine lasting.trans ?_ (ih (session.run service limits).2)
    cases found : session.skeleton.entry session.machine.store session.entry with
    | error fault =>
      rw [run_of_entry_error found]
      exact lasting.refl _
    | ok addr =>
      have called := lasting.call service limits addr [] session.announced
      rw [run_of_entry found]
      cases ran : call service limits addr [] session.announced with
      | mk result machine =>
        rw [ran] at called
        obtain ⟨raw, _, ends⟩ | ⟨why, _, ends⟩ := conclude_cases session result machine
        · rw [ends]
          exact called
        · rw [ends]
          exact called

/-- A session that was set up is equipped for units, before and after any runs. -/
theorem rerun_equipped {service : Service σ} {limits : Limits} {source : String}
    {settings : Settings} {outside : Outside σ} {session : Session σ}
    (started : start service limits source settings outside = .ok session) (runs : Nat) :
    ∃ table,
      (session.rerun service limits runs).machine.store.Equipped session.skeleton.table table := by
  obtain ⟨_, closed⟩ := start_closed started
  obtain ⟨table, there, _⟩ := Option.map_eq_some_iff.mp (start_table started).2
  have equipped : session.machine.store.Equipped session.skeleton.table table :=
    ⟨there, closed.println⟩
  obtain ⟨larger, _, later⟩ :=
    equipped.later (rerun_lasts Store.Extends.lasting service limits runs session)
  exact ⟨larger, later⟩

end Session

namespace FunctionUnit

/-- What the import asks for is what is offered under its name, by kind and type. -/
inductive Granted (types : Array FuncType) (table : Table) : Import → Prop where
  | table {type : TableType} (elem : table.elem = type.elem)
      (least : type.bounds.least ≤ table.size)
      (most : ∀ bound, type.bounds.most = some bound → ∃ own, table.most = some own ∧ own ≤ bound) :
      Granted types table ⟨importModule, tableName, .table type⟩
  | println {index : Nat} (type : types[index]? = some HostFunc.type) :
      Granted types table ⟨importModule, printlnImport, .func index⟩

/-- Why a blob is not loaded as the unit of a function: it is no valid module, or one of its imports
is not offered, or one of them is offered as something else. The first import that is not offered
is named. -/
inductive Turned (i : FuncId) (table : Table) (blob : Bytes) : Session.Fault → Prop where
  | invalid {defect : Defect} (refused : Module.ofBlob blob = .error defect) :
      Turned i table blob (.unloadable (unitName i) (.defect defect))
  | unknown {module : Module} {before after : List Import} {wanted : Import}
      (built : Module.ofBlob blob = .ok module)
      (imports : module.imports = before ++ wanted :: after)
      (known : ∀ other ∈ before, other.Offered) (unoffered : ¬ wanted.Offered) :
      Turned i table blob (.unknownImport i wanted.module wanted.name)
  | mismatched {module : Module} {wanted : Import} (built : Module.ofBlob blob = .ok module)
      (offered : ∀ other ∈ module.imports, other.Offered) (listed : wanted ∈ module.imports)
      (other : ¬ Granted module.types table wanted) :
      Turned i table blob (.unloadable (unitName i) .unlinkable)

section Imports

variable {i : FuncId} {shared : Nat} {table : Table} {s : Store HostFunc} {module : Module}

theorem within_iff {size : Nat} {most : Option Nat} {wanted : Bounds} :
    Store.within size most wanted = true ↔ wanted.least ≤ size ∧
      ∀ bound, wanted.most = some bound → ∃ own, most = some own ∧ own ≤ bound := by
  unfold Store.within
  cases wanted.most <;> cases most <;> simp

theorem granted_iff (equipped : s.Equipped shared table) {types : Array FuncType}
    {wanted : Import} :
    Granted types table wanted ↔
      wanted.Offered ∧ s.fits types wanted.type (supply shared wanted) = true := by
  constructor
  · intro granted
    cases granted with
    | @table type elem least most =>
      refine ⟨⟨rfl, .inl rfl⟩, ?_⟩
      unfold supply Store.fits
      rw [if_pos rfl]
      dsimp only
      rw [equipped.table]
      dsimp only
      rw [Bool.and_eq_true, within_iff, beq_iff_eq]
      exact ⟨elem, least, most⟩
    | @println index type =>
      refine ⟨⟨rfl, .inr rfl⟩, ?_⟩
      unfold supply Store.fits
      rw [if_neg (show printlnImport ≠ tableName by decide)]
      dsimp only
      rw [type, equipped.println]
      exact beq_iff_eq.mpr rfl
  · obtain ⟨module, name, kind⟩ := wanted
    rintro ⟨⟨rfl, rfl | rfl⟩, fits⟩
    · unfold supply at fits
      rw [if_pos rfl] at fits
      cases kind with
      | table type =>
        unfold Store.fits at fits
        dsimp only at fits
        rw [equipped.table] at fits
        dsimp only at fits
        rw [Bool.and_eq_true, within_iff, beq_iff_eq] at fits
        exact .table fits.1 fits.2.1 fits.2.2
      | _ => cases fits
    · unfold supply at fits
      rw [if_neg (show printlnImport ≠ tableName by decide)] at fits
      cases kind with
      | func index =>
        unfold Store.fits at fits
        dsimp only at fits
        rw [equipped.println] at fits
        cases known : types[index]? with
        | none =>
          rw [known] at fits
          cases fits
        | some type =>
          rw [known] at fits
          refine .println (known.trans ?_)
          rw [← beq_iff_eq.mp fits]
      | _ => cases fits

/-- A unit can be loaded if all its imports are granted. -/
theorem loads_iff (equipped : s.Equipped shared table) :
    Loads module shared s ↔ ∀ wanted ∈ module.imports, Granted module.types table wanted := by
  constructor
  · intro loads wanted listed
    exact (granted_iff equipped).mpr ⟨loads.offered wanted listed, loads.fits wanted listed⟩
  · intro granted
    constructor
    · intro wanted listed
      exact ((granted_iff equipped).mp (granted wanted listed)).1
    · intro wanted listed
      exact ((granted_iff equipped).mp (granted wanted listed)).2

theorem items_unknown {before after : List Import} {wanted : Import}
    (known : ∀ other ∈ before, other.Offered) (unoffered : ¬ wanted.Offered) :
    (before ++ wanted :: after).mapM (item i shared printlnAddr) =
      .error (.unknownImport i wanted.module wanted.name) := by
  have refused : item i shared printlnAddr wanted = .error (.unknownImport i wanted.module wanted.name) := by
    unfold item
    rw [if_neg fun isTable => unoffered ⟨isTable.1, .inl isTable.2⟩,
      if_neg fun isPrint => unoffered ⟨isPrint.1, .inr isPrint.2⟩]
  rw [List.mapM_append, items_of_imports known, List.mapM_cons, refused]
  rfl

theorem exists_first_unoffered {imports : List Import}
    (some : ∃ wanted ∈ imports, ¬ wanted.Offered) :
    ∃ before wanted after, imports = before ++ wanted :: after ∧
      (∀ other ∈ before, other.Offered) ∧ ¬ wanted.Offered := by
  have found : (imports.find? fun wanted => !decide wanted.Offered).isSome := by
    simpa using some
  obtain ⟨wanted, first⟩ := Option.isSome_iff_exists.mp found
  obtain ⟨unoffered, before, after, split, known⟩ := List.find?_eq_some_iff_append.mp first
  exact ⟨before, wanted, after, split, by simpa using known, by simpa using unoffered⟩

/-- A blob is turned away, or it is a module whose imports are all granted. -/
theorem turned_or_granted (i : FuncId) (table : Table) (blob : Bytes) :
    (∃ fault, Turned i table blob fault) ∨
      ∃ module, Module.ofBlob blob = .ok module ∧
        ∀ wanted ∈ module.imports, Granted module.types table wanted := by
  cases built : Module.ofBlob blob with
  | error defect => exact .inl ⟨_, .invalid built⟩
  | ok module =>
    by_cases offered : ∀ wanted ∈ module.imports, wanted.Offered
    · by_cases granted : ∀ wanted ∈ module.imports, Granted module.types table wanted
      · exact .inr ⟨module, rfl, granted⟩
      · push Not at granted
        obtain ⟨wanted, listed, other⟩ := granted
        exact .inl ⟨_, .mismatched built offered listed other⟩
    · push Not at offered
      obtain ⟨before, wanted, after, split, known, unoffered⟩ := exists_first_unoffered offered
      exact .inl ⟨_, .unknown built split known unoffered⟩

end Imports

section Loading

variable {run : Invoker HostFunc (HostState σ) Session.Fault} {i : FuncId} {shared : Nat}
  {table : Table} {blob : Bytes} {module : Module} {m : DispatchMachine σ}

/-- A blob that is turned away leaves the machine as it was. -/
theorem load_turned (equipped : m.store.Equipped shared table)
    (printing : m.host.println = some printlnAddr) {fault : Session.Fault}
    (turned : Turned i table blob fault) :
    load run i shared blob m = (.error (.failed fault), m) := by
  cases turned with
  | invalid refused =>
    unfold load
    rw [refused]
    rfl
  | unknown built imports known unoffered =>
    rw [load_of_module run i shared built printing, imports, items_unknown known unoffered]
  | mismatched built offered listed other =>
    rw [load_of_module run i shared built printing, items_of_imports offered]
    dsimp only
    rw [if_neg]
    intro links
    exact other ((loads_iff equipped).mp ⟨offered, links_iff.mp links⟩ _ listed)

theorem load_granted (printing : m.host.println = some printlnAddr)
    (built : Module.ofBlob blob = .ok module) (loads : Loads module shared m.store) :
    load run i shared blob m =
      (((instantiate run module (supplies module shared) m).1.map
          fun _ => (⟨i, blob.length⟩ : LoadedUnit)).mapError (Dispatch.loadStop (unitName i)),
        (instantiate run module (supplies module shared) m).2) := by
  rw [load_of_module run i shared built printing, items_of_imports loads.offered]
  exact if_pos (links_iff.mpr loads.fits)

end Loading

/-- What an instance can reach: the shared table and the printing function wherever it imports a
table or a function, and otherwise what the store did not have before. -/
structure Confined (module : Module) (shared : Nat) (s : Store HostFunc) (inst : Instance) :
    Prop where
  tables : ∀ k < module.importedTables.length, inst.tables[k]? = some shared
  funcs : ∀ k < module.importedFuncs.length, inst.funcs[k]? = some printlnAddr
  ownTables : ∀ k addr, module.importedTables.length ≤ k → inst.tables[k]? = some addr →
    s.tables.size ≤ addr
  ownFuncs : ∀ k addr, module.importedFuncs.length ≤ k → inst.funcs[k]? = some addr →
    s.funcs.size ≤ addr
  ownMemories : ∀ (k : Nat) addr, inst.memories[k]? = some addr → s.memories.size ≤ addr
  ownGlobals : ∀ (k : Nat) addr, inst.globals[k]? = some addr → s.globals.size ≤ addr

/-- Where all imported addresses are the same, an index stands for that one or for a new one. -/
theorem addresses_replicate (addr base fresh imported k : Nat) :
    (k < imported →
      (Module.addresses (List.replicate imported addr) base fresh)[k]? = some addr) ∧
    ∀ found, imported ≤ k →
      (Module.addresses (List.replicate imported addr) base fresh)[k]? = some found →
        base ≤ found := by
  constructor
  · intro inside
    unfold Module.addresses
    rw [List.getElem?_toArray, List.getElem?_append_left (by simpa using inside),
      List.getElem?_replicate, if_pos inside]
  · intro found past there
    obtain ⟨k, rfl⟩ := Nat.exists_eq_add_of_le past
    have laid := Module.addresses_offset (List.replicate imported addr) base fresh k
    rw [List.length_replicate, there] at laid
    split at laid
    · exact Option.some.inj laid ▸ Nat.le_add_right _ _
    · cases laid

theorem Loads.confined {module : Module} {shared : Nat} {s : Store HostFunc}
    (loads : Loads module shared s) :
    Confined module shared s (module.instanceAt (supplies module shared) s) := by
  have linking := loads.linking
  have none : ∀ addr : Nat, ([] : List Nat) = List.replicate 0 addr := fun _ => rfl
  constructor
  · intro k inside
    exact linking.table_imported s inside
  · intro k inside
    change (Module.addresses ((supplies module shared).filterMap Extern.func?) _ _)[k]? = _
    rw [linking.funcs]
    exact (addresses_replicate _ _ _ _ k).1 inside
  · intro k addr past found
    change (Module.addresses ((supplies module shared).filterMap Extern.table?) _ _)[k]? = _ at found
    rw [linking.tables] at found
    exact (addresses_replicate _ _ _ _ k).2 addr past found
  · intro k addr past found
    change (Module.addresses ((supplies module shared).filterMap Extern.func?) _ _)[k]? = _ at found
    rw [linking.funcs] at found
    exact (addresses_replicate _ _ _ _ k).2 addr past found
  · intro k addr found
    change (Module.addresses ((supplies module shared).filterMap Extern.memory?) _ _)[k]? = _ at found
    rw [linking.memories, none 0] at found
    exact (addresses_replicate _ _ _ _ k).2 addr (Nat.zero_le k) found
  · intro k addr found
    change (Module.addresses ((supplies module shared).filterMap Extern.global?) _ _)[k]? = _ at found
    rw [linking.globals, none 0] at found
    exact (addresses_replicate _ _ _ _ k).2 addr (Nat.zero_le k) found

end FunctionUnit

theorem Trigger.Admission.importless {service : Service σ} {raw : Int32}
    {state after : HostState σ} {fault : Session.Fault}
    (admitted : Trigger.Admission service raw state (.error fault) after) (i : FuncId)
    (module name : String) : fault ≠ .unknownImport i module name := by
  generalize sought : (Except.error fault : Except Session.Fault (Option (FuncId × Bytes))) = answer
    at admitted
  rintro rfl
  cases admitted with
  | requested ready located reserved obtained =>
    next result outside =>
    cases result with
    | ok blob => cases sought
    | error other =>
      obtain rfl := Except.error.inj sought
      obtain ⟨_, same⟩ | ⟨_, _, same⟩ := obtain_error obtained
      · cases same
      · cases same
  | _ => cases sought

/-- While a function is being compiled, code does not fail for an import of its unit: such failures
are those of the units of other functions. -/
theorem Course.unknownImport_ne {service : Service σ} {first last : HostState σ}
    {ended : Ending Session.Fault} (course : Course service first ended last) {i j : FuncId}
    (compiling : first.ledger.table.slot? i = some .compiling) {module name : String}
    (failed : ended = .error (.failed (.unknownImport j module name))) : j ≠ i := by
  induction course with
  | quiet state => cases failed
  | halted state own =>
    obtain rfl := Except.error.inj failed
    cases own
  | trans head tail ihHead ihTail =>
    exact ihTail ((kept_compiling service i).course head compiling) failed
  | printed state value => cases failed
  | refused admitted =>
    cases failed
    exact absurd rfl (admitted.importless j module name)
  | present admitted => cases failed
  | turnedAway admitted turns =>
    cases failed
    obtain rfl : j = _ := turns
    rintro rfl
    cases compiling.symm.trans admitted.reserves.2.1
  | @broken _ _ _ _ _ _ why admitted loading ih =>
    cases why with
    | failed inner =>
      cases failed
      exact ih ((kept_compiling service i).admitted admitted compiling) rfl
    | _ => cases failed
  | installed admitted loading recorded ih => cases failed
  | unrecorded admitted loading refused ih => cases failed

namespace FunctionUnit

section Verdict

variable {service : Service σ} {limits : Limits} {i : FuncId} {shared : Nat} {table : Table}
  {blob : Bytes} {module : Module} {m : DispatchMachine σ}

/-- A unit whose imports are granted fails for an import only if that is an import of another unit,
which the trigger was to load in the meantime. -/
theorem passed_on (printing : m.host.println = some printlnAddr)
    (built : Module.ofBlob blob = .ok module) (loads : Loads module shared m.store)
    (compiling : m.host.ledger.table.slot? i = some .compiling) {j : FuncId} {name other : String}
    (failed : (load (Session.call service limits) i shared blob m).1 =
      .error (.failed (.unknownImport j name other))) :
    j ≠ i ∧ ∃ events,
      (load (Session.call service limits) i shared blob m).2.host.history =
        m.host.history ++ events ∧
      FailedWith (.unknownImport j name other) events := by
  have follows := (Course.discipline service).instantiate (Session.call_follows service limits)
    module (supplies module shared) m
  rw [load_granted printing built loads] at failed ⊢
  generalize instantiate (Session.call service limits) module (supplies module shared) m = ran
    at failed follows ⊢
  obtain ⟨result, after⟩ := ran
  cases result with
  | ok inst => cases failed
  | error why =>
    have same : Dispatch.loadStop (unitName i) why = .failed (.unknownImport j name other) :=
      Except.error.inj failed
    cases why with
    | failed fault =>
      cases same
      refine ⟨Course.unknownImport_ne follows compiling rfl, ?_⟩
      obtain ⟨events, grown, fate⟩ := Course.fate follows
      cases fate with
      | clean _ own => cases own _ rfl
      | failed passed => exact ⟨events, grown, passed⟩
    | _ => cases same

/-- A valid module fails for an import of its own exactly if one of its imports is not offered. -/
theorem unknown_iff (equipped : m.store.Equipped shared table)
    (printing : m.host.println = some printlnAddr) (built : Module.ofBlob blob = .ok module)
    (compiling : m.host.ledger.table.slot? i = some .compiling) :
    (∃ name other, (load (Session.call service limits) i shared blob m).1 =
        .error (.failed (.unknownImport i name other))) ↔
      ∃ wanted ∈ module.imports, ¬ wanted.Offered := by
  constructor
  · rintro ⟨name, other, failed⟩
    obtain ⟨fault, turned⟩ | ⟨found, same, granted⟩ := turned_or_granted i table blob
    · rw [load_turned equipped printing turned] at failed
      cases turned with
      | invalid refused => cases failed
      | @unknown found before after wanted same imports known unoffered =>
        obtain rfl := Except.ok.inj (built.symm.trans same)
        exact ⟨wanted, imports ▸ List.mem_append_right _ List.mem_cons_self, unoffered⟩
      | mismatched same offered listed other => cases failed
    · obtain rfl := Except.ok.inj (built.symm.trans same)
      have loads := (loads_iff equipped).mpr granted
      exact absurd rfl (passed_on printing built loads compiling failed).1
  · intro some
    obtain ⟨before, wanted, after, split, known, unoffered⟩ := exists_first_unoffered some
    exact ⟨_, _, congrArg Prod.fst
      (load_turned equipped printing (.unknown built split known unoffered))⟩

/-- How the imports of a valid module decide what becomes of it as the unit of a function. -/
structure Decided (service : Service σ) (limits : Limits) (i : FuncId) (shared : Nat)
    (table : Table) (blob : Bytes) (module : Module) (m : DispatchMachine σ) : Prop where
  unknown : m.host.ledger.table.slot? i = some .compiling →
    ((∃ name other, (load (Session.call service limits) i shared blob m).1 =
        .error (.failed (.unknownImport i name other))) ↔
      ∃ wanted ∈ module.imports, ¬ wanted.Offered)
  first : ∀ before wanted after, module.imports = before ++ wanted :: after →
    (∀ other ∈ before, other.Offered) → ¬ wanted.Offered →
      load (Session.call service limits) i shared blob m =
        (.error (.failed (.unknownImport i wanted.module wanted.name)), m)
  mismatched : (∀ wanted ∈ module.imports, wanted.Offered) →
    (∃ wanted ∈ module.imports, ¬ Granted module.types table wanted) →
      load (Session.call service limits) i shared blob m =
        (.error (.failed (.unloadable (unitName i) .unlinkable)), m)
  granted : (∀ wanted ∈ module.imports, Granted module.types table wanted) →
    load (Session.call service limits) i shared blob m =
        (((instantiate (Session.call service limits) module (supplies module shared) m).1.map
            fun _ => (⟨i, blob.length⟩ : LoadedUnit)).mapError (Dispatch.loadStop (unitName i)),
          (instantiate (Session.call service limits) module (supplies module shared) m).2) ∧
      Confined module shared m.store (module.instanceAt (supplies module shared) m.store)
  passed : m.host.ledger.table.slot? i = some .compiling →
    (∀ wanted ∈ module.imports, Granted module.types table wanted) → ∀ j name other,
    (load (Session.call service limits) i shared blob m).1 =
        .error (.failed (.unknownImport j name other)) →
      j ≠ i ∧ ∃ events,
        (load (Session.call service limits) i shared blob m).2.host.history =
          m.host.history ++ events ∧
        FailedWith (.unknownImport j name other) events

theorem decided (equipped : m.store.Equipped shared table)
    (printing : m.host.println = some printlnAddr) (built : Module.ofBlob blob = .ok module) :
    Decided service limits i shared table blob module m where
  unknown := unknown_iff equipped printing built
  first _ _ _ split known unoffered :=
    load_turned equipped printing (.unknown built split known unoffered)
  mismatched := fun offered ⟨_, listed, other⟩ =>
    load_turned equipped printing (.mismatched built offered listed other)
  granted granted := by
    have loads := (loads_iff equipped).mpr granted
    exact ⟨load_granted printing built loads, loads.confined⟩
  passed compiling granted _ _ _ :=
    passed_on printing built ((loads_iff equipped).mpr granted) compiling

end Verdict

/-- Units can import two things. In every session, before, between and during its runs, the shared
table and the printing function are there for them. A blob that is no valid module is turned away,
whatever it imports. A valid module fails for an import of its own exactly if one of its imports has
neither of the two names, and the first such one is named; it fails to load if an import with one of
the names is not of the kind and type that is offered. Each time the machine is as it was before:
nothing was written, run or printed. If all imports are granted, the module is instantiated, and its
instance reaches the shared table, the printing function and nothing else that was there before. -/
theorem imports_confined (service : Service σ) :
    (∀ (limits : Limits) (source : String) (settings : Settings) (outside : Outside σ)
        (session : Session σ),
      Session.start service limits source settings outside = .ok session → ∀ runs, ∃ table,
        (session.rerun service limits runs).machine.store.Equipped session.skeleton.table table ∧
        (session.rerun service limits runs).state.println = some printlnAddr) ∧
    ∀ (limits : Limits) (m : DispatchMachine σ) (shared : Nat) (table : Table),
      m.store.Equipped shared table → m.host.println = some printlnAddr →
      (∀ addr args, ∃ larger, table.Grows larger ∧
        (Session.call service limits addr args m).2.store.Equipped shared larger ∧
        (Session.call service limits addr args m).2.host.println = some printlnAddr) ∧
      (0 < limits.fuel → ∀ value : UInt32,
        Session.call service limits printlnAddr [.i32 value] m =
          (.ok [.i32 0], { m with host := m.host.print value.toInt32 })) ∧
      ∀ (i : FuncId) (blob : Bytes),
        (∀ defect, Module.ofBlob blob = .error defect →
          load (Session.call service limits) i shared blob m =
            (.error (.failed (.unloadable (unitName i) (.defect defect))), m)) ∧
        ∀ module, Module.ofBlob blob = .ok module →
          Decided service limits i shared table blob module m := by
  constructor
  · intro limits source settings outside session started runs
    obtain ⟨table, equipped⟩ := Session.rerun_equipped started runs
    exact ⟨table, equipped, Session.rerun_println started runs⟩
  intro limits m shared table equipped printing
  refine ⟨fun addr args => ?_, fun some value => ?_, fun i blob => ⟨?_, ?_⟩⟩
  · obtain ⟨larger, grows, still⟩ :=
      equipped.later (Store.Extends.lasting.call service limits addr args m)
    have same := (Course.grows (Session.call_follows service limits addr args m)).println
    exact ⟨larger, grows, still, same.trans printing⟩
  · obtain ⟨fuel, more⟩ := Nat.exists_eq_add_one_of_ne_zero (Nat.pos_iff_ne_zero.mp some)
    unfold Session.call
    rw [more]
    exact invoke_println service limits fuel limits.stack value equipped.println rfl
  · intro defect refused
    exact load_turned equipped printing (.invalid refused)
  · intro module built
    exact decided equipped printing built

end FunctionUnit

namespace Sample

/-- A module that imports a function under the name of the shared table. -/
def crossed : Bytes :=
  [0, 97, 115, 109, 1, 0, 0, 0, 1, 4, 1, 96, 0, 0, 2, 14, 1, 3, 101, 110, 118, 6, 95, 116, 97, 98,
   108, 101, 0, 0]

end Sample

namespace FunctionUnit

/-- A skeleton, which imports the trigger, a module that takes the table for a function, and no
module at all are turned away; a unit that prints gets the table and the printing function. -/
theorem sample_imports_confined :
    ∃ (session : Session Unit) (m : DispatchMachine Unit),
      Session.start Sample.script.service Sample.limits "" Settings.default ⟨(), Sample.world⟩ =
        .ok session ∧
      m = (session.rerun Sample.script.service Sample.limits 1).machine ∧
      load (Session.call Sample.script.service Sample.limits) ⟨1⟩ session.skeleton.table
        Sample.skeleton m =
          (.error (.failed (.unknownImport ⟨1⟩ "env" "compile_func")), m) ∧
      load (Session.call Sample.script.service Sample.limits) ⟨1⟩ session.skeleton.table
        Sample.crossed m = (.error (.failed (.unloadable (unitName ⟨1⟩) .unlinkable)), m) ∧
      (∃ defect, load (Session.call Sample.script.service Sample.limits) ⟨1⟩
        session.skeleton.table [] m =
          (.error (.failed (.unloadable (unitName ⟨1⟩) (.defect defect))), m)) ∧
      ∃ module, Module.ofBlob Sample.outspoken = .ok module ∧
        Confined module session.skeleton.table m.store
          (module.instanceAt (supplies module session.skeleton.table) m.store) ∧
        ¬ ∃ name other, (load (Session.call Sample.script.service Sample.limits) ⟨1⟩
          session.skeleton.table Sample.outspoken m).1 =
            .error (.failed (.unknownImport ⟨1⟩ name other)) := by
  have seen : ((Session.start Sample.script.service Sample.limits "" Settings.default
      ⟨(), Sample.world⟩).toOption.map fun session =>
        ((session.rerun Sample.script.service Sample.limits 1).slot? ⟨1⟩,
          ((session.rerun Sample.script.service Sample.limits 1).machine.store.tables[
            session.skeleton.table]?).map fun table : Table => (table.elem, table.size))) =
      some (some .compiling, some (.func, 2)) := by
    decide +kernel
  obtain ⟨session, started, seen⟩ := exists_ok_of_seen seen
  obtain ⟨compiling, shape⟩ := Prod.mk.inj seen
  obtain ⟨sessions, units⟩ := imports_confined Sample.script.service
  obtain ⟨table, equipped, printing⟩ := sessions _ _ _ _ session started 1
  rw [equipped.table] at shape
  obtain ⟨elem, size⟩ := Prod.mk.inj (Option.some.inj shape)
  have judged := (units Sample.limits _ _ table equipped printing).2.2 ⟨1⟩
  refine ⟨session, _, started, rfl, ?_, ?_, ?_, ?_⟩
  · have imports : ((Module.ofBlob Sample.skeleton).toOption.map Module.imports) =
        some [⟨"env", "compile_func", .func 0⟩] := by decide +kernel
    obtain ⟨module, built, only⟩ := exists_ok_of_seen imports
    exact ((judged _).2 module built).first [] _ [] only (List.forall_mem_nil _) (by decide)
  · have imports : ((Module.ofBlob Sample.crossed).toOption.map Module.imports) =
        some [⟨"env", "_table", .func 0⟩] := by decide +kernel
    obtain ⟨module, built, only⟩ := exists_ok_of_seen imports
    refine ((judged _).2 module built).mismatched ?_ ⟨⟨"env", "_table", .func 0⟩, ?_, ?_⟩
    · rw [only]
      decide
    · rw [only]
      exact List.mem_singleton_self _
    · intro granted
      have fits := ((granted_iff equipped).mp granted).2
      simp [supply, tableName, Store.fits] at fits
  · cases built : Module.ofBlob [] with
    | error defect => exact ⟨defect, (judged []).1 defect built⟩
    | ok module =>
      have refused : (Module.ofBlob []).toOption = none := by decide +kernel
      rw [built] at refused
      cases refused
  · have imports : ((Module.ofBlob Sample.outspoken).toOption.map fun module =>
        (module.imports, module.types)) =
        some ([⟨"env", "_table", .table ⟨.func, ⟨2, none⟩⟩⟩, ⟨"env", "println", .func 2⟩],
          #[⟨[], [.i32]⟩, ⟨[], []⟩, ⟨[.i32], [.i32]⟩]) := by decide +kernel
    obtain ⟨module, built, read⟩ := exists_ok_of_seen imports
    obtain ⟨only, types⟩ := Prod.mk.inj read
    have decided := (judged _).2 module built
    refine ⟨module, built, (decided.granted ?_).2, ?_⟩
    · rw [only, types]
      intro wanted listed
      rcases List.mem_cons.mp listed with rfl | listed
      · exact .table elem (Nat.le_of_eq size.symm) fun _ bounded => by cases bounded
      · obtain rfl := List.mem_singleton.mp listed
        exact .println rfl
    · rw [decided.unknown compiling, only]
      decide

end FunctionUnit

end FirstCall
