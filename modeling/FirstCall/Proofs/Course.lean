import FirstCall.Proofs.Guest
import FirstCall.Session.Basic

/-!
# Courses

The code of a program reaches the host of its session in two ways: it prints a value, or it calls
the compile trigger. A course lists what this does to the host, with the loading of a unit nested
inside the call of the trigger that asked for it. Everything that runs code follows a course, so a
law of sessions needs a proof for the few kinds of steps that a course can take.
-/

namespace FirstCall

open Wasm

variable {σ α β : Type}

theorem World.printed_record (world : World) {event : Event} (silent : event.printed? = none) :
    (world.record event).printed = world.printed := by
  unfold printed record
  rw [Array.toList_push, List.filterMap_append]
  simp [silent]

namespace HostState

def history (state : HostState σ) : List Event := state.outside.world.history.toList

def record (state : HostState σ) (event : Event) : HostState σ :=
  state.updateWorld (·.record event)

def print (state : HostState σ) (value : Int32) : HostState σ :=
  state.updateWorld (·.print value)

/-- The state in which a call of the trigger is weighed. -/
def enter (state : HostState σ) (raw : Int32) : HostState σ :=
  state.record (.triggered raw state.ledger)

/-- The state in which the unit of a function that was just reserved is requested. -/
def reserved (state : HostState σ) (raw : Int32) (i : FuncId) (ledger : Ledger) : HostState σ :=
  { state.enter raw with ledger }.record (.notice (.compiling i))

/-- Writes down how a call of the trigger ended; code that never came to an end leaves no mark. -/
def settle (state : HostState σ) (raw : Int32) : Ending Session.Fault → HostState σ
  | .ok () => state.record (.settled raw (.ok ()))
  | .error (.failed fault) => state.record (.settled raw (.error fault))
  | .error _ => state

@[simp] theorem history_record (state : HostState σ) (event : Event) :
    (state.record event).history = state.history ++ [event] := by
  simp [history, record, updateWorld, World.record]

@[simp] theorem history_print (state : HostState σ) (value : Int32) :
    (state.print value).history = state.history ++ [Event.printed value] := by
  simp [history, print, updateWorld, World.print, World.record]

@[simp] theorem history_ledger (state : HostState σ) (ledger : Ledger) :
    { state with ledger }.history = state.history := rfl

@[simp] theorem ledger_record (state : HostState σ) (event : Event) :
    (state.record event).ledger = state.ledger := rfl

@[simp] theorem compiler_record (state : HostState σ) (event : Event) :
    (state.record event).compiler = state.compiler := rfl

@[simp] theorem shared_record (state : HostState σ) (event : Event) :
    (state.record event).shared = state.shared := rfl

@[simp] theorem println_record (state : HostState σ) (event : Event) :
    (state.record event).println = state.println := rfl

@[simp] theorem dump_record (state : HostState σ) (event : Event) :
    (state.record event).dump = state.dump := rfl

@[simp] theorem history_enter (state : HostState σ) (raw : Int32) :
    (state.enter raw).history = state.history ++ [Event.triggered raw state.ledger] :=
  history_record _ _

/-- What a call of the trigger that installs its function leaves at the end of the history. -/
theorem history_installed (state : HostState σ) (ledger : Ledger) (notice : Notice) (raw : Int32) :
    HostState.history ({ state.record (.notice notice) with ledger }.settle raw (.ok ())) =
      state.history ++ [Event.notice notice, .settled raw (.ok ())] := by
  refine (history_record _ _).trans ?_
  change (state.record _).history ++ _ = _
  rw [history_record, List.append_assoc]
  rfl

@[simp] theorem ledger_enter (state : HostState σ) (raw : Int32) :
    (state.enter raw).ledger = state.ledger := rfl

@[simp] theorem compiler_enter (state : HostState σ) (raw : Int32) :
    (state.enter raw).compiler = state.compiler := rfl

@[simp] theorem ledger_print (state : HostState σ) (value : Int32) :
    (state.print value).ledger = state.ledger := rfl

@[simp] theorem compiler_print (state : HostState σ) (value : Int32) :
    (state.print value).compiler = state.compiler := rfl

@[simp] theorem shared_print (state : HostState σ) (value : Int32) :
    (state.print value).shared = state.shared := rfl

@[simp] theorem println_print (state : HostState σ) (value : Int32) :
    (state.print value).println = state.println := rfl

@[simp] theorem dump_print (state : HostState σ) (value : Int32) :
    (state.print value).dump = state.dump := rfl

theorem settle_cases (state : HostState σ) (raw : Int32) (ended : Ending Session.Fault) :
    state.settle raw ended = state ∨
      ∃ result, state.settle raw ended = state.record (.settled raw result) := by
  unfold settle
  split
  · exact .inr ⟨_, rfl⟩
  · exact .inr ⟨_, rfl⟩
  · exact .inl rfl

@[simp] theorem ledger_settle (state : HostState σ) (raw : Int32) (ended : Ending Session.Fault) :
    (state.settle raw ended).ledger = state.ledger := by
  obtain same | ⟨result, same⟩ := settle_cases state raw ended
  · rw [same]
  · rw [same, ledger_record]

def printed (state : HostState σ) : List Int32 := state.outside.world.printed

theorem printed_eq (state : HostState σ) :
    state.printed = state.history.filterMap Event.printed? := rfl

theorem printed_record (state : HostState σ) {event : Event} (silent : event.printed? = none) :
    (state.record event).printed = state.printed :=
  World.printed_record state.outside.world silent

theorem printed_print (state : HostState σ) (value : Int32) :
    (state.print value).printed = state.printed ++ [value] := by
  rw [printed_eq, printed_eq, history_print, List.filterMap_append]
  rfl

end HostState

namespace Effect

theorem bind_apply (first : Effect σ α) (next : α → Effect σ β) (outside : Outside σ) :
    (first >>= next) outside =
      match first outside with
      | (.ok value, outside) => next value outside
      | (.error fault, outside) => (.error fault, outside) := rfl

end Effect

namespace Trigger

/-- Requests the unit of a function, and dumps it if blobs are dumped. -/
def obtain (service : Service σ) (compiler : Service.Compiler) (dump : Option DumpDir)
    (i : FuncId) : Effect σ Bytes := do
  let blob ← Effect.fetch (.unit compiler i) (service.unit compiler i)
  Effect.dumpFunction dump i blob
  pure blob

def install (run : Invoker HostFunc (HostState σ) Session.Fault) (shared : Nat) (i : FuncId)
    (blob : Bytes) : Dispatch σ Unit := do
  let unit ← FunctionUnit.load run i shared blob
  Dispatch.say (.installed i unit.size)
  Dispatch.updateLedger (·.install unit)

/-- How a call of the trigger goes before anything is loaded: it is refused, there is nothing to
do, or the unit of a function is at hand. -/
inductive Admission (service : Service σ) (raw : Int32) (state : HostState σ) :
    Except Session.Fault (Option (FuncId × Bytes)) → HostState σ → Prop where
  | tooEarly (unready : state.shared = none) :
      Admission service raw state (.error .tooEarly) (state.enter raw)
  | outOfRange {shared : Nat} {refusal : DispatchTable.Fault} (ready : state.shared = some shared)
      (refused : state.ledger.table.locate raw = .error refusal) :
      Admission service raw state (.error (.table refusal)) (state.enter raw)
  | present {shared : Nat} {i : FuncId} (ready : state.shared = some shared)
      (located : state.ledger.table.locate raw = .ok i)
      (installed : state.ledger.table.slot? i = some .installed) :
      Admission service raw state (.ok none)
        ((state.enter raw).record (.notice (.alreadyInstalled i)))
  | reentered {shared : Nat} {i : FuncId} {refusal : DispatchTable.Fault}
      (ready : state.shared = some shared) (located : state.ledger.table.locate raw = .ok i)
      (notInstalled : state.ledger.table.slot? i ≠ some .installed)
      (refused : state.ledger.reserve i = .error refusal) :
      Admission service raw state (.error (.table refusal)) (state.enter raw)
  | requested {shared : Nat} {i : FuncId} {ledger : Ledger} {result : Except Session.Fault Bytes}
      {outside : Outside σ} (ready : state.shared = some shared)
      (located : state.ledger.table.locate raw = .ok i)
      (reserved : state.ledger.reserve i = .ok ledger)
      (obtained : obtain service state.compiler state.dump i (state.reserved raw i ledger).outside =
        (result, outside)) :
      Admission service raw state (result.map fun blob => some (i, blob))
        { state.reserved raw i ledger with outside }

end Trigger

/-- Failures with which the unit of a function is turned away before any of it takes effect. -/
def HostState.TurnsAway (state : HostState σ) (i : FuncId) : Session.Fault → Prop
  | .unloadable unit _ => unit = unitName i
  | .unknownImport j _ _ => j = i
  | .tooEarly => state.println = none
  | _ => False

/-- What happens to the host while code runs, from one state to another, and how it ends. -/
inductive Course (service : Service σ) :
    HostState σ → Ending Session.Fault → HostState σ → Prop where
  | quiet (state : HostState σ) : Course service state (.ok ()) state
  | halted (state : HostState σ) {why : Stop Session.Fault} (own : why.fault? = none) :
      Course service state (.error why) state
  | trans {first middle last : HostState σ} {ended : Ending Session.Fault}
      (head : Course service first (.ok ()) middle) (tail : Course service middle ended last) :
      Course service first ended last
  | printed (state : HostState σ) (value : Int32) :
      Course service state (.ok ()) (state.print value)
  | refused {state after : HostState σ} {raw : Int32} {fault : Session.Fault}
      (admitted : Trigger.Admission service raw state (.error fault) after) :
      Course service state (.error (.failed fault)) (after.settle raw (.error (.failed fault)))
  | present {state after : HostState σ} {raw : Int32}
      (admitted : Trigger.Admission service raw state (.ok none) after) :
      Course service state (.ok ()) (after.settle raw (.ok ()))
  | turnedAway {state after : HostState σ} {raw : Int32} {i : FuncId} {blob : Bytes}
      {fault : Session.Fault}
      (admitted : Trigger.Admission service raw state (.ok (some (i, blob))) after)
      (turns : after.TurnsAway i fault) :
      Course service state (.error (.failed fault)) (after.settle raw (.error (.failed fault)))
  | broken {state after last : HostState σ} {raw : Int32} {i : FuncId} {blob : Bytes}
      {why : Stop Session.Fault}
      (admitted : Trigger.Admission service raw state (.ok (some (i, blob))) after)
      (loading : Course service after (.error why) last) :
      Course service state (.error (Dispatch.loadStop (unitName i) why))
        (last.settle raw (.error (Dispatch.loadStop (unitName i) why)))
  | installed {state after last : HostState σ} {raw : Int32} {i : FuncId} {blob : Bytes}
      {ledger : Ledger}
      (admitted : Trigger.Admission service raw state (.ok (some (i, blob))) after)
      (loading : Course service after (.ok ()) last)
      (recorded : last.ledger.install ⟨i, blob.length⟩ = .ok ledger) :
      Course service state (.ok ())
        ({ last.record (.notice (.installed i blob.length)) with ledger }.settle raw (.ok ()))
  | unrecorded {state after last : HostState σ} {raw : Int32} {i : FuncId} {blob : Bytes}
      {refusal : DispatchTable.Fault}
      (admitted : Trigger.Admission service raw state (.ok (some (i, blob))) after)
      (loading : Course service after (.ok ()) last)
      (refused : last.ledger.install ⟨i, blob.length⟩ = .error refusal) :
      Course service state (.error (.failed (.table refusal)))
        ((last.record (.notice (.installed i blob.length))).settle raw
          (.error (.failed (.table refusal))))

/-- The host of one machine comes to that of another by a course. -/
def Follows (service : Service σ) (m : DispatchMachine σ) (ended : Ending Session.Fault)
    (after : DispatchMachine σ) : Prop :=
  Course service m.host ended after.host

theorem Course.discipline (service : Service σ) : Discipline (Follows service) where
  quiet m := .quiet m.host
  halted m _ own := .halted m.host own
  trans head tail := .trans head tail
  performed _ := .quiet _
  allocated _ _ _ := .quiet _
  filled _ _ := .quiet _
  written _ _ := .quiet _

namespace FunctionUnit

variable {service : Service σ} {run : Invoker HostFunc (HostState σ) Session.Fault}

variable {i : FuncId} {shared println : Nat}

theorem item_turnsAway {wanted : Import} {fault : Session.Fault}
    (refused : item i shared println wanted = .error fault) (state : HostState σ) :
    state.TurnsAway i fault := by
  unfold item at refused
  split at refused
  · cases refused
  · split at refused
    · cases refused
    · cases refused
      rfl

theorem items_turnsAway {imports : List Import} {fault : Session.Fault}
    (refused : imports.mapM (item i shared println) = .error fault) (state : HostState σ) :
    state.TurnsAway i fault := by
  induction imports generalizing fault with
  | nil => cases refused
  | cons wanted rest ih =>
    rw [List.mapM_cons] at refused
    cases first : item i shared println wanted with
    | error early =>
      rw [first] at refused
      cases refused
      exact item_turnsAway first state
    | ok found =>
      rw [first] at refused
      cases later : rest.mapM (item i shared println) with
      | error late =>
        rw [later] at refused
        cases refused
        exact ih later
      | ok found =>
        rw [later] at refused
        cases refused

/-- A unit is turned away before it touches the machine, or it is a module that links, which is then
instantiated. -/
theorem load_cases (run : Invoker HostFunc (HostState σ) Session.Fault) (i : FuncId) (shared : Nat)
    (blob : Bytes) (m : DispatchMachine σ) :
    (∃ fault : Session.Fault, m.host.TurnsAway i fault ∧
      load run i shared blob m = (.error (.failed fault), m)) ∨
    ∃ println module items, m.host.println = some println ∧ Module.ofBlob blob = .ok module ∧
      module.imports.mapM (item i shared println) = .ok items ∧
      m.store.links module items = true ∧
      load run i shared blob m =
        (((instantiate run module items m).1.map fun _ => ⟨i, blob.length⟩).mapError
          (Dispatch.loadStop (unitName i)), (instantiate run module items m).2) := by
  cases built : Module.ofBlob blob with
  | error defect =>
    refine .inl ⟨.unloadable (unitName i) (.defect defect), rfl, ?_⟩
    unfold load
    rw [built]
    rfl
  | ok module =>
    cases printing : m.host.println with
    | none =>
      refine .inl ⟨.tooEarly, printing, ?_⟩
      unfold load
      rw [built]
      dsimp only
      rw [Action.bind_apply]
      dsimp only [Action.host]
      rw [printing]
      rfl
    | some println =>
      have loaded := load_of_module run i shared built printing
      cases wired : module.imports.mapM (item i shared println) with
      | error fault =>
        rw [wired] at loaded
        exact .inl ⟨fault, items_turnsAway wired m.host, loaded⟩
      | ok items =>
        rw [wired] at loaded
        dsimp only at loaded
        by_cases links : m.store.links module items = true
        · rw [if_pos links] at loaded
          exact .inr ⟨println, module, items, rfl, rfl, wired, links, loaded⟩
        · rw [if_neg links] at loaded
          exact .inl ⟨.unloadable (unitName i) .unlinkable, rfl, loaded⟩

theorem load_answers {run : Invoker HostFunc (HostState σ) Session.Fault} {i : FuncId}
    {shared : Nat} {blob : Bytes} {m : DispatchMachine σ} {unit : LoadedUnit}
    (loaded : (load run i shared blob m).1 = .ok unit) : unit = ⟨i, blob.length⟩ := by
  obtain ⟨_, _, turned⟩ | ⟨_, module, items, _, _, _, _, same⟩ := load_cases run i shared blob m
  · rw [turned] at loaded
    cases loaded
  · rw [same] at loaded
    cases made : (instantiate run module items m).1 with
    | error why =>
      rw [made] at loaded
      cases loaded
    | ok inst =>
      rw [made] at loaded
      exact (Except.ok.inj loaded).symm

theorem load_follows (calls : ∀ addr args, Obeys (Follows service) (run addr args)) (i : FuncId)
    (shared : Nat) (blob : Bytes) (m : DispatchMachine σ) :
    (∃ fault : Session.Fault, m.host.TurnsAway i fault ∧
      load run i shared blob m = (.error (.failed fault), m)) ∨
    ∃ ended machine, Course service m.host ended machine.host ∧
      load run i shared blob m =
        ((ended.map fun _ => ⟨i, blob.length⟩).mapError (Dispatch.loadStop (unitName i)),
          machine) := by
  obtain turned | ⟨_, module, items, _, _, _, _, loaded⟩ := load_cases run i shared blob m
  · exact .inl turned
  · refine .inr ⟨ending (instantiate run module items m).1, (instantiate run module items m).2,
      (Course.discipline service).instantiate calls module items m, ?_⟩
    rw [loaded]
    cases (instantiate run module items m).1 <;> rfl

end FunctionUnit

namespace Trigger

variable {service : Service σ} {run : Invoker HostFunc (HostState σ) Session.Fault}

theorem act_apply (effect : Effect σ α) (m : DispatchMachine σ) :
    Dispatch.act effect m =
      ((effect m.host.outside).1.mapError .failed,
        { m with host := { m.host with outside := (effect m.host.outside).2 } }) := by
  unfold Dispatch.act
  cases effect m.host.outside with
  | mk result outside => cases result <;> rfl

/-- A call of the trigger is weighed, and then its end is written down. -/
theorem fire_apply (raw : Int32) (m : DispatchMachine σ) :
    fire service run raw m =
      settle raw (resolve service run raw) { m with host := m.host.enter raw } := rfl

theorem settle_eq (raw : Int32) (call : Dispatch σ Unit) (m : DispatchMachine σ) :
    settle raw call m =
      ((call m).1,
        { (call m).2 with host := (call m).2.host.settle raw (ending (call m).1) }) := by
  unfold settle
  cases call m with
  | mk result machine =>
    cases result with
    | ok value => rfl
    | error why => cases why <;> rfl

theorem install_apply (run : Invoker HostFunc (HostState σ) Session.Fault) (shared : Nat)
    (i : FuncId) (blob : Bytes) (m : DispatchMachine σ) :
    install run shared i blob m =
      match FunctionUnit.load run i shared blob m with
      | (.error why, machine) => (.error why, machine)
      | (.ok unit, machine) =>
        match machine.host.ledger.install unit with
        | .error refusal => (.error (.failed (.table refusal)),
            { machine with host := machine.host.record (.notice (.installed i unit.size)) })
        | .ok ledger => (.ok (), { machine with host :=
            { machine.host.record (.notice (.installed i unit.size)) with ledger } }) := by
  unfold install
  rw [Action.bind_apply]
  cases FunctionUnit.load run i shared blob m with
  | mk result machine =>
    cases result with
    | error why => rfl
    | ok unit =>
      dsimp only
      rw [Action.bind_apply]
      dsimp only [Dispatch.say, Dispatch.updateLedger, Action.modifyHost]
      rw [Action.bind_apply]
      dsimp only [Action.host]
      rw [Action.bind_apply]
      have same : (machine.host.updateWorld (·.say (.installed i unit.size))).ledger.install unit =
          machine.host.ledger.install unit := rfl
      rw [same]
      cases machine.host.ledger.install unit <;> rfl

theorem install_follows (calls : ∀ addr args, Obeys (Follows service) (run addr args))
    {raw : Int32} {state : HostState σ} {i : FuncId} {blob : Bytes} (shared : Nat)
    (m : DispatchMachine σ) (admitted : Admission service raw state (.ok (some (i, blob))) m.host) :
    Course service state (ending (install run shared i blob m).1)
      ((install run shared i blob m).2.host.settle raw (ending (install run shared i blob m).1)) := by
  rw [install_apply]
  obtain ⟨fault, turns, loaded⟩ | ⟨ended, machine, loading, loaded⟩ :=
    FunctionUnit.load_follows calls i shared blob m
  · rw [loaded]
    exact .turnedAway admitted turns
  · rw [loaded]
    cases ended with
    | error why => exact .broken admitted loading
    | ok value =>
      dsimp only [Except.map, Except.mapError]
      cases recorded : machine.host.ledger.install ⟨i, blob.length⟩ with
      | ok ledger => exact .installed admitted loading recorded
      | error refusal => exact .unrecorded admitted loading recorded

theorem obtain_apply (service : Service σ) (compiler : Service.Compiler) (dump : Option DumpDir)
    (i : FuncId) (outside : Outside σ) :
    obtain service compiler dump i outside =
      match Effect.fetch (.unit compiler i) (service.unit compiler i) outside with
      | (.error fault, outside) => (.error fault, outside)
      | (.ok blob, outside) =>
        ((Effect.dumpFunction dump i blob outside).1.map fun _ => blob,
          (Effect.dumpFunction dump i blob outside).2) := by
  unfold obtain
  rw [Effect.bind_apply]
  cases Effect.fetch (.unit compiler i) (service.unit compiler i) outside with
  | mk fetched outside =>
    cases fetched with
    | error fault => rfl
    | ok blob =>
      dsimp only
      rw [Effect.bind_apply]
      cases Effect.dumpFunction dump i blob outside with
      | mk dumped outside => cases dumped <;> rfl

theorem compile_apply (shared : Nat) (raw : Int32) (i : FuncId) (m : DispatchMachine σ)
    {ledger : Ledger} (reserved : m.host.ledger.reserve i = .ok ledger) :
    compile service run shared i { m with host := m.host.enter raw } =
      match obtain service m.host.compiler m.host.dump i
          (m.host.reserved raw i ledger).outside with
      | (.error fault, outside) =>
        (.error (.failed fault), { m with host := { m.host.reserved raw i ledger with outside } })
      | (.ok blob, outside) =>
        install run shared i blob
          { m with host := { m.host.reserved raw i ledger with outside } } := by
  have sameLedger : (m.host.enter raw).ledger = m.host.ledger := rfl
  unfold compile
  rw [Action.bind_apply]
  dsimp only [Dispatch.updateLedger]
  rw [Action.bind_apply]
  dsimp only [Action.host]
  rw [Action.bind_apply, sameLedger, reserved]
  dsimp only [Dispatch.tableAnswer, Action.pure_apply, Action.modifyHost]
  rw [Action.bind_apply]
  dsimp only [Dispatch.say, Action.modifyHost]
  rw [Action.bind_apply]
  dsimp only [Action.host]
  rw [Action.bind_apply, act_apply, obtain_apply]
  dsimp only [HostState.reserved, HostState.enter, HostState.record, HostState.updateWorld,
    World.say]
  cases Effect.fetch _ (service.unit m.host.compiler i) _ with
  | mk fetched outside =>
    cases fetched with
    | error fault => rfl
    | ok blob =>
      dsimp only [Except.mapError]
      rw [Action.bind_apply, act_apply]
      dsimp only
      cases Effect.dumpFunction m.host.dump i blob outside with
      | mk dumped outside => cases dumped <;> rfl

/-- What a call of the trigger does once it has been weighed. -/
def proceed (run : Invoker HostFunc (HostState σ) Session.Fault) (shared : Nat) :
    Except Session.Fault (Option (FuncId × Bytes)) → Dispatch σ Unit
  | .error fault => Action.fail fault
  | .ok none => pure ()
  | .ok (some (i, blob)) => install run shared i blob

/-- A call of the trigger is weighed, and goes on as that came out. -/
theorem fire_admitted (service : Service σ) (run : Invoker HostFunc (HostState σ) Session.Fault)
    (raw : Int32) (m : DispatchMachine σ) :
    ∃ answer after, Admission service raw m.host answer after ∧
      fire service run raw m =
        settle raw (proceed run (m.host.shared.getD 0) answer) { m with host := after } := by
  rw [fire_apply]
  unfold settle resolve
  rw [Action.bind_apply]
  dsimp only [Action.host]
  cases ready : m.host.shared with
  | none =>
    have unready : (m.host.enter raw).shared = none := ready
    rw [unready]
    exact ⟨_, _, .tooEarly ready, rfl⟩
  | some shared =>
    have readied : (m.host.enter raw).shared = some shared := ready
    rw [readied]
    dsimp only
    rw [Action.bind_apply]
    have sameTable : (m.host.enter raw).ledger.table = m.host.ledger.table := rfl
    rw [sameTable]
    cases located : m.host.ledger.table.locate raw with
    | error refusal => exact ⟨_, _, .outOfRange ready located, rfl⟩
    | ok i =>
      dsimp only [Dispatch.tableAnswer, Action.pure_apply]
      by_cases installed : m.host.ledger.table.slot? i = some .installed
      · rw [if_pos installed]
        exact ⟨_, _, .present ready located installed, rfl⟩
      · rw [if_neg installed]
        cases reserved : m.host.ledger.reserve i with
        | error refusal =>
          refine ⟨_, _, .reentered ready located installed reserved, ?_⟩
          unfold compile
          rw [Action.bind_apply]
          dsimp only [Dispatch.updateLedger]
          rw [Action.bind_apply]
          dsimp only [Action.host]
          rw [Action.bind_apply]
          have sameLedger : (m.host.enter raw).ledger = m.host.ledger := rfl
          rw [sameLedger, reserved]
          rfl
        | ok ledger =>
          rw [compile_apply shared raw i m reserved]
          cases obtained : obtain service m.host.compiler m.host.dump i
              (m.host.reserved raw i ledger).outside with
          | mk result outside =>
            refine ⟨_, _, .requested ready located reserved obtained, ?_⟩
            cases result with
            | error fault => rfl
            | ok blob => rfl

/-- A call of the trigger is weighed in one way only. -/
theorem Admission.unique {raw : Int32} {state after last : HostState σ}
    {answer reply : Except Session.Fault (Option (FuncId × Bytes))}
    (one : Admission service raw state answer after)
    (other : Admission service raw state reply last) : answer = reply ∧ after = last := by
  have reservable : ∀ {i ledger}, state.ledger.reserve i = .ok ledger →
      state.ledger.table.slot? i = some .stub := fun reserved =>
    (DispatchTable.reserve_eq_ok_iff.mp (Ledger.reserve_eq_ok_iff.mp reserved).1).1
  cases one with
  | tooEarly unready => cases other <;> simp_all
  | outOfRange _ refused => cases other <;> simp_all
  | present _ located installed =>
    cases other with
    | requested _ found reserved _ =>
      obtain rfl := Except.ok.inj (located.symm.trans found)
      cases installed.symm.trans (reservable reserved)
    | _ => simp_all
  | reentered _ located _ refused => cases other <;> simp_all
  | requested _ located reserved obtained =>
    cases other with
    | present _ found installed =>
      obtain rfl := Except.ok.inj (located.symm.trans found)
      cases installed.symm.trans (reservable reserved)
    | _ => simp_all

/-- What a call of the trigger does follows from how it is weighed. -/
theorem fire_of_admitted (run : Invoker HostFunc (HostState σ) Session.Fault) {raw : Int32}
    {m : DispatchMachine σ} {answer : Except Session.Fault (Option (FuncId × Bytes))}
    {host : HostState σ} (admitted : Admission service raw m.host answer host) :
    fire service run raw m =
      settle raw (proceed run (m.host.shared.getD 0) answer) { m with host } := by
  obtain ⟨found, after, same, fired⟩ := fire_admitted service run raw m
  obtain ⟨rfl, rfl⟩ := same.unique admitted
  exact fired

/-- A call of the compile trigger follows a course. -/
theorem fire_follows (calls : ∀ addr args, Obeys (Follows service) (run addr args))
    (raw : Int32) : Obeys (Follows service) (fire service run raw) := by
  intro m
  obtain ⟨answer, after, admitted, fired⟩ := fire_admitted service run raw m
  rw [fired, settle_eq]
  rcases answer with fault | (_ | ⟨i, blob⟩)
  · exact .refused admitted
  · exact .present admitted
  · exact install_follows calls _ _ admitted

end Trigger

theorem dispatchHost_follows {service : Service σ}
    (run : Invoker HostFunc (HostState σ) Session.Fault)
    (calls : ∀ addr args, Obeys (Follows service) (run addr args)) (name : HostFunc)
    (args : List Value) : Obeys (Follows service) (dispatchHost service run name args) := by
  have follows := Course.discipline service
  unfold dispatchHost
  split
  · exact follows.bind (Trigger.fire_follows calls _) fun _ => follows.pure _
  · exact follows.bind (fun m => .printed m.host _) fun _ => follows.pure _
  · exact follows.stop rfl

namespace Session

/-- Every call of a function of a program follows a course. -/
theorem call_follows (service : Service σ) (limits : Limits) (addr : Nat) (args : List Value) :
    Obeys (Follows service) (call service limits addr args) :=
  (Course.discipline service).invoke dispatchHost_follows _ _ _ _ _

end Session

end FirstCall
