import Mathlib.Data.List.Induction
import Mathlib.Data.List.TakeWhile
import FirstCall.Proofs.Dumps
import FirstCall.Proofs.Failure

/-!
# Open calls

The calls of the compile trigger that have begun and not ended form a stack, and the functions that
they have begun to compile are the slots that are being compiled, next to those that earlier runs
left behind when they failed. The stack is nowhere in the state of a session; it is read off the
history.
-/

namespace FirstCall

open Wasm

variable {σ : Type}

/-- What an event does to the stack of open calls. A call stands on it with the function that it has
begun to compile, if it has come so far. -/
def Event.nest (stack : List (Option FuncId)) : Event → List (Option FuncId)
  | .triggered _ _ => none :: stack
  | .request (.unit _ i) => some i :: stack.tail
  | .settled _ _ => stack.tail
  | _ => stack

/-- The calls of the trigger that have begun and not ended, the innermost first. -/
def openCalls (events : List Event) : List (Option FuncId) := events.foldl Event.nest []

/-- The functions that calls of the trigger have begun to compile and not come to an end with. -/
def openFuncs (events : List Event) : List FuncId := (openCalls events).filterMap id

/-- What happens before a call of the trigger fails. -/
def untilFailure (events : List Event) : List Event :=
  events.takeWhile fun event => event.failure?.isNone

theorem openCalls_append (events more : List Event) :
    openCalls (events ++ more) = more.foldl Event.nest (openCalls events) :=
  List.foldl_append

theorem untilFailure_of_unfailed {events : List Event} (unfailed : Unfailed events) :
    untilFailure events = events :=
  List.takeWhile_eq_self_iff.mpr fun event member => by simp [unfailed event member]

theorem untilFailure_concat (events : List Event) {event : Event}
    (failed : event.failure?.isSome) : untilFailure (events ++ [event]) = untilFailure events := by
  have last : [event].takeWhile (fun event => event.failure?.isNone) = [] := by
    simp [Option.isSome_iff_ne_none.mp failed]
  unfold untilFailure
  rw [List.takeWhile_append, last, List.append_nil]
  split
  · next whole => exact ((List.takeWhile_prefix _).eq_of_length whole).symm
  · rfl

/-- An event that leaves the open calls alone. -/
def Event.IsStill (event : Event) : Prop :=
  (∀ stack, event.nest stack = stack) ∧ event.triggered? = none ∧ event.failure? = none

theorem Event.IsReply.still {event : Event} (reply : event.IsReply) : event.IsStill := by
  cases event with
  | notice notice => exact ⟨fun _ => rfl, rfl, rfl⟩
  | received request blob => exact ⟨fun _ => rfl, rfl, rfl⟩
  | wrote path contents => exact ⟨fun _ => rfl, rfl, rfl⟩
  | _ => cases reply

/-- Functions of the program that can be open at the same time. -/
def Distinct (abandoned : List FuncId) (count : Nat) (funcs : List FuncId) : Prop :=
  funcs.Nodup ∧ ∀ i ∈ funcs, i.slot < count ∧ i ∉ abandoned

/-- What a call of the trigger finds: the functions being compiled are the open ones and those left
behind, and it is turned back by its own guard if its function is one of them. -/
structure Found (abandoned : List FuncId) (count : Nat) (earlier : List Event) (raw : Int32)
    (ledger : Ledger) (later : List Event) : Prop where
  unfailed : Unfailed earlier
  compiling : ∀ i, ledger.table.slot? i = some .compiling ↔ i ∈ openFuncs earlier ∨ i ∈ abandoned
  goes : later ≠ []
  guarded : ∀ i, later.head? = some (.settled raw (.error (.table (.reentered i)))) ↔
    FuncId.ofRaw? count raw = some i ∧ (i ∈ openFuncs earlier ∨ i ∈ abandoned)

/-- At all times the open functions are distinct, and every call finds them being compiled. -/
structure Steady (abandoned : List FuncId) (count : Nat) (events : List Event) : Prop where
  distinct : ∀ earlier, earlier <+: events → Distinct abandoned count (openFuncs earlier)
  found : ∀ earlier raw ledger later, events = earlier ++ .triggered raw ledger :: later →
    Found abandoned count earlier raw ledger later

namespace Steady

variable {abandoned : List FuncId} {count : Nat} {events : List Event}

theorem nil : Steady abandoned count [] where
  distinct earlier start := by
    rw [List.prefix_nil.mp start]
    exact ⟨List.nodup_nil, nofun⟩
  found earlier raw ledger later split := by simp at split

theorem append {more : List Event} (steady : Steady abandoned count events)
    (distinct : ∀ part, part <+: more → Distinct abandoned count (openFuncs (events ++ part)))
    (found : ∀ part raw ledger later, more = part ++ .triggered raw ledger :: later →
      Found abandoned count (events ++ part) raw ledger later) :
    Steady abandoned count (events ++ more) where
  distinct earlier start := by
    obtain ⟨rest, split⟩ := start
    rcases List.append_eq_append_iff.mp split with ⟨part, rfl, _⟩ | ⟨part, rfl, same⟩
    · exact steady.distinct earlier (List.prefix_append _ _)
    · exact distinct part ⟨rest, same.symm⟩
  found earlier raw ledger later split := by
    rcases List.append_eq_append_iff.mp split with ⟨part, rfl, same⟩ | ⟨part, rfl, same⟩
    · exact found part raw ledger later same
    · rcases List.cons_eq_append_iff.mp same with ⟨rfl, here⟩ | ⟨part, rfl, rfl⟩
      · simpa using found [] raw ledger later here
      · obtain ⟨unfailed, compiling, goes, guarded⟩ := steady.found earlier raw ledger part rfl
        refine ⟨unfailed, compiling, by simp [goes], fun i => ?_⟩
        rw [List.head?_append_of_ne_nil _ goes]
        exact guarded i

theorem concat {event : Event} (steady : Steady abandoned count events)
    (uncalled : event.triggered? = none)
    (distinct : Distinct abandoned count (openFuncs (events ++ [event]))) :
    Steady abandoned count (events ++ [event]) := by
  refine steady.append (fun part start => ?_) fun part raw ledger later same => ?_
  · rcases List.prefix_cons_iff.mp start with rfl | ⟨rest, rfl, none⟩
    · rw [List.append_nil]
      exact steady.distinct events (List.prefix_refl _)
    · rw [List.prefix_nil.mp none]
      exact distinct
  · have inside : Event.triggered raw ledger ∈ [event] := by simp [same]
    rw [← List.mem_singleton.mp inside] at uncalled
    cases uncalled

theorem still {event : Event} (steady : Steady abandoned count events) (still : event.IsStill) :
    Steady abandoned count (events ++ [event]) := by
  refine steady.concat still.2.1 ?_
  have same : openFuncs (events ++ [event]) = openFuncs events := by
    unfold openFuncs
    rw [openCalls_append]
    exact congrArg _ (still.1 _)
  rw [same]
  exact steady.distinct events (List.prefix_refl _)

theorem settled (steady : Steady abandoned count events) (raw : Int32)
    (result : Except Session.Fault Unit) :
    Steady abandoned count (events ++ [Event.settled raw result]) := by
  refine steady.concat rfl ?_
  obtain ⟨distinct, inside⟩ := steady.distinct events (List.prefix_refl _)
  have fewer : (openFuncs (events ++ [Event.settled raw result])).Sublist (openFuncs events) := by
    unfold openFuncs
    rw [openCalls_append]
    exact (List.tail_sublist _).filterMap id
  exact ⟨distinct.sublist fewer, fun i member => inside i (fewer.subset member)⟩

theorem called {raw : Int32} {ledger : Ledger} {next : Event}
    (steady : Steady abandoned count events) (uncalled : next.triggered? = none)
    (found : Found abandoned count events raw ledger [next])
    (nests : openFuncs (events ++ [Event.triggered raw ledger, next]) = openFuncs events) :
    Steady abandoned count (events ++ [Event.triggered raw ledger, next]) := by
  have distinct := steady.distinct events (List.prefix_refl _)
  have entered : openFuncs (events ++ [Event.triggered raw ledger]) = openFuncs events := by
    unfold openFuncs
    rw [openCalls_append]
    rfl
  refine steady.append (fun part start => ?_) fun part other seen later same => ?_
  · rcases List.prefix_cons_iff.mp start with rfl | ⟨rest, rfl, behind⟩
    · rw [List.append_nil]
      exact distinct
    rcases List.prefix_cons_iff.mp behind with rfl | ⟨none, rfl, last⟩
    · rw [entered]
      exact distinct
    · rw [List.prefix_nil.mp last, nests]
      exact distinct
  · rcases part with _ | ⟨first, part⟩
    · obtain ⟨first, rfl⟩ := List.cons.inj same
      obtain ⟨rfl, rfl⟩ := Event.triggered.inj first
      rw [List.append_nil]
      exact found
    · have inside : Event.triggered other seen ∈ [next] := by
        rw [(List.cons.inj same).2]
        exact List.mem_append_right _ List.mem_cons_self
      rw [← List.mem_singleton.mp inside] at uncalled
      cases uncalled

end Steady

theorem Ledger.reserve_refused {ledger : Ledger} {i : FuncId} {refusal : DispatchTable.Fault}
    (inside : i.slot < ledger.table.size) (notInstalled : ledger.table.slot? i ≠ some .installed)
    (refused : ledger.reserve i = .error refusal) :
    refusal = .reentered i ∧ ledger.table.slot? i = some .compiling := by
  unfold reserve DispatchTable.reserve at refused
  cases found : ledger.table.slot? i with
  | none =>
    have missing : ledger.table.slots[i.slot]? = none := found
    have inside : i.slot < ledger.table.slots.size := inside
    rw [Array.getElem?_eq_getElem inside] at missing
    cases missing
  | some slot =>
    rw [found] at refused
    cases slot with
    | stub => cases refused
    | compiling =>
      cases refused
      exact ⟨rfl, rfl⟩
    | installed => exact absurd found notInstalled

/-- The session is among calls of the trigger that are open, and none of them failed. -/
structure Amid (past : List Event) (abandoned : List FuncId) (count : Nat)
    (stack : List (Option FuncId)) (state : HostState σ) (events : List Event) : Prop where
  ready : state.shared.isSome
  size : state.ledger.table.size = count
  history : state.history = past ++ events
  unfailed : Unfailed events
  nested : openCalls events = stack
  compiling : ∀ i, state.ledger.table.slot? i = some .compiling ↔
    i ∈ openFuncs events ∨ i ∈ abandoned
  steady : Steady abandoned count events

/-- What is being compiled was open when the first call failed, or was left behind before. -/
structure Halted (past : List Event) (abandoned : List FuncId) (count : Nat)
    (state : HostState σ) (events : List Event) : Prop where
  history : state.history = past ++ events
  compiling : ∀ i, state.ledger.table.slot? i = some .compiling ↔
    i ∈ openFuncs (untilFailure events) ∨ i ∈ abandoned
  steady : Steady abandoned count events

theorem Halted.settle {past : List Event} {abandoned : List FuncId} {count : Nat}
    {state : HostState σ} {events : List Event} (halted : Halted past abandoned count state events)
    (raw : Int32) (why : Stop Session.Fault) :
    ∃ more, Halted past abandoned count (state.settle raw (.error why)) (events ++ more) := by
  unfold HostState.settle
  split
  · next same => cases same
  · next fault _ =>
    refine ⟨[.settled raw (.error fault)], ?_, ?_, halted.steady.settled raw _⟩
    · rw [HostState.history_record, halted.history, List.append_assoc]
    · rw [untilFailure_concat events rfl]
      exact halted.compiling
  · exact ⟨[], by simpa using halted⟩

namespace Amid

variable {service : Service σ} {past events : List Event} {abandoned : List FuncId} {count : Nat}
  {stack : List (Option FuncId)} {state : HostState σ}

theorem halt (amid : Amid past abandoned count stack state events) :
    Halted past abandoned count state events where
  history := amid.history
  compiling := by
    rw [untilFailure_of_unfailed amid.unfailed]
    exact amid.compiling
  steady := amid.steady

theorem openFuncs_eq (amid : Amid past abandoned count stack state events) :
    openFuncs events = stack.filterMap id := by
  unfold openFuncs
  rw [amid.nested]

theorem still {event : Event} {next : HostState σ}
    (amid : Amid past abandoned count stack state events)
    (still : event.IsStill) (shared : next.shared = state.shared)
    (ledger : next.ledger = state.ledger) (history : next.history = state.history ++ [event]) :
    Amid past abandoned count stack next (events ++ [event]) := by
  have nested : openCalls (events ++ [event]) = stack := by
    rw [openCalls_append, amid.nested]
    exact still.1 stack
  constructor
  case ready => exact shared ▸ amid.ready
  case size => exact ledger ▸ amid.size
  case history => rw [history, amid.history, List.append_assoc]
  case unfailed => exact amid.unfailed.append (.singleton still.2.2)
  case nested => exact nested
  case compiling =>
    rw [ledger]
    unfold openFuncs
    rw [nested, ← amid.openFuncs_eq]
    exact amid.compiling
  case steady => exact amid.steady.still still

theorem stills {more : List Event} {next : HostState σ}
    (amid : Amid past abandoned count stack state events)
    (still : ∀ event ∈ more, event.IsStill) (shared : next.shared = state.shared)
    (ledger : next.ledger = state.ledger) (history : next.history = state.history ++ more) :
    Amid past abandoned count stack next (events ++ more) := by
  induction more generalizing state events with
  | nil =>
    rw [List.append_nil] at history ⊢
    refine ⟨shared ▸ amid.ready, ledger ▸ amid.size, history.trans amid.history, amid.unfailed,
      amid.nested, ?_, amid.steady⟩
    rw [ledger]
    exact amid.compiling
  | cons event rest ih =>
    have first : Amid past abandoned count stack (state.record event) (events ++ [event]) :=
      amid.still (still event List.mem_cons_self) rfl rfl (HostState.history_record state event)
    have behind : next.history = (state.record event).history ++ rest := by
      rw [history, HostState.history_record, List.append_assoc]
      rfl
    have whole := ih first (fun later member => still later (List.mem_cons_of_mem _ member))
      shared ledger behind
    rw [List.append_assoc] at whole
    exact whole

theorem settle {call : Option FuncId} {next : HostState σ}
    (amid : Amid past abandoned count (call :: stack) state events) (raw : Int32)
    (shared : next.shared = state.shared) (size : next.ledger.table.size = count)
    (history : next.history = state.history ++ [Event.settled raw (.ok ())])
    (compiling : ∀ i, next.ledger.table.slot? i = some .compiling ↔
      i ∈ stack.filterMap id ∨ i ∈ abandoned) :
    Amid past abandoned count stack next (events ++ [Event.settled raw (.ok ())]) := by
  have nested : openCalls (events ++ [Event.settled raw (.ok ())]) = stack := by
    rw [openCalls_append, amid.nested]
    rfl
  constructor
  case ready => exact shared ▸ amid.ready
  case size => exact size
  case history => rw [history, amid.history, List.append_assoc]
  case unfailed => exact amid.unfailed.append (.singleton rfl)
  case nested => exact nested
  case compiling =>
    unfold openFuncs
    rw [nested]
    exact compiling
  case steady => exact amid.steady.settled raw _

theorem installed {unit : LoadedUnit} {ledger : Ledger} {next : HostState σ}
    (amid : Amid past abandoned count (some unit.func :: stack) state events) (raw : Int32)
    (recorded : state.ledger.install unit = .ok ledger) (shared : next.shared = state.shared)
    (sameLedger : next.ledger = ledger)
    (history : next.history = state.history ++ [Event.settled raw (.ok ())]) :
    Amid past abandoned count stack next (events ++ [Event.settled raw (.ok ())]) := by
  obtain ⟨marked, _⟩ := Ledger.install_eq_ok_iff.mp recorded
  have opened : openFuncs events = unit.func :: stack.filterMap id := amid.openFuncs_eq
  obtain ⟨distinct, inside⟩ := amid.steady.distinct events (List.prefix_refl _)
  rw [opened] at distinct inside
  refine amid.settle raw shared ?_ history fun j => ?_
  · rw [sameLedger]
    exact (DispatchTable.size_of_install marked).trans amid.size
  · rw [sameLedger, DispatchTable.slot?_of_install marked j]
    by_cases same : j = unit.func
    · subst same
      have outside := (List.nodup_cons.mp distinct).1
      have new := (inside _ List.mem_cons_self).2
      rw [if_pos rfl]
      exact iff_of_false (by simp) (not_or.mpr ⟨outside, new⟩)
    · rw [if_neg same, amid.compiling j, opened, List.mem_cons]
      simp [same]

theorem called {raw : Int32} {next : Event} (amid : Amid past abandoned count stack state events)
    (uncalled : next.triggered? = none)
    (nests : openFuncs (events ++ [Event.triggered raw state.ledger, next]) = openFuncs events)
    (guarded : ∀ i, next = .settled raw (.error (.table (.reentered i))) ↔
      FuncId.ofRaw? count raw = some i ∧ state.ledger.table.slot? i = some .compiling) :
    Steady abandoned count (events ++ [Event.triggered raw state.ledger, next]) := by
  refine amid.steady.called uncalled ⟨amid.unfailed, amid.compiling, by simp, fun i => ?_⟩ nests
  rw [← amid.compiling i, ← guarded i]
  simp

/-- A call of the trigger is turned back before it begins to compile anything. -/
theorem turnedBack {raw : Int32} {fault : Session.Fault}
    (amid : Amid past abandoned count stack state events)
    (guarded : ∀ i, fault = .table (.reentered i) ↔
      FuncId.ofRaw? count raw = some i ∧ state.ledger.table.slot? i = some .compiling) :
    Halted past abandoned count ((state.enter raw).settle raw (.error (.failed fault)))
      (events ++ [Event.triggered raw state.ledger, .settled raw (.error fault)]) := by
  have entered : Unfailed (events ++ [Event.triggered raw state.ledger]) :=
    amid.unfailed.append (.singleton rfl)
  have before : untilFailure
      (events ++ [Event.triggered raw state.ledger, .settled raw (.error fault)]) =
      events ++ [Event.triggered raw state.ledger] := by
    have failed := untilFailure_concat (events ++ [Event.triggered raw state.ledger])
      (show (Event.settled raw (.error fault)).failure?.isSome from rfl)
    rw [untilFailure_of_unfailed entered, List.append_assoc] at failed
    exact failed
  constructor
  case history =>
    refine (HostState.history_record _ _).trans ?_
    rw [HostState.history_enter, amid.history]
    simp
  case compiling =>
    have nests : openFuncs (events ++ [Event.triggered raw state.ledger]) = openFuncs events := by
      unfold openFuncs
      rw [openCalls_append]
      rfl
    rw [before, nests]
    exact amid.compiling
  case steady =>
    refine amid.called rfl ?_ fun i => ?_
    · unfold openFuncs
      rw [openCalls_append]
      rfl
    · rw [← guarded i]
      simp

theorem noted {raw : Int32} {notice : Notice}
    (amid : Amid past abandoned count stack state events)
    (free : ∀ i, FuncId.ofRaw? count raw = some i →
      state.ledger.table.slot? i ≠ some .compiling) :
    Amid past abandoned count (none :: stack) ((state.enter raw).record (.notice notice))
      (events ++ [Event.triggered raw state.ledger, .notice notice]) := by
  have nested : openCalls (events ++ [Event.triggered raw state.ledger, .notice notice]) =
      none :: stack := by
    rw [openCalls_append, amid.nested]
    rfl
  have nests : openFuncs (events ++ [Event.triggered raw state.ledger, .notice notice]) =
      openFuncs events := by
    unfold openFuncs
    rw [nested, amid.nested]
    rfl
  constructor
  case ready => exact amid.ready
  case size => exact amid.size
  case history =>
    rw [HostState.history_record, HostState.history_enter, amid.history]
    simp
  case unfailed => exact amid.unfailed.append ((Unfailed.singleton rfl).append (.singleton rfl))
  case nested => exact nested
  case compiling =>
    rw [nests]
    exact amid.compiling
  case steady =>
    refine amid.called rfl nests fun i => ?_
    simp only [reduceCtorEq, false_iff, not_and]
    exact free i

theorem reserved {i : FuncId} {ledger : Ledger} {next : HostState σ}
    {compiler : Service.Compiler} (amid : Amid past abandoned count (none :: stack) state events)
    (reserved : state.ledger.reserve i = .ok ledger) (shared : next.shared = state.shared)
    (sameLedger : next.ledger = ledger)
    (history : next.history = state.history ++ [Event.request (.unit compiler i)]) :
    Amid past abandoned count (some i :: stack) next
      (events ++ [Event.request (.unit compiler i)]) := by
  obtain ⟨marked, _⟩ := Ledger.reserve_eq_ok_iff.mp reserved
  obtain ⟨stub, _⟩ := DispatchTable.reserve_eq_ok_iff.mp marked
  have fresh : ¬ (i ∈ openFuncs events ∨ i ∈ abandoned) := by
    rw [← amid.compiling i, stub]
    simp
  have nested : openCalls (events ++ [Event.request (.unit compiler i)]) = some i :: stack := by
    rw [openCalls_append, amid.nested]
    rfl
  have nests : openFuncs (events ++ [Event.request (.unit compiler i)]) = i :: openFuncs events := by
    unfold openFuncs
    rw [nested, amid.nested]
    rfl
  constructor
  case ready => exact shared ▸ amid.ready
  case size =>
    rw [sameLedger]
    exact (DispatchTable.size_of_reserve marked).trans amid.size
  case history => rw [history, amid.history, List.append_assoc]
  case unfailed => exact amid.unfailed.append (.singleton rfl)
  case nested => exact nested
  case compiling =>
    intro j
    rw [sameLedger, DispatchTable.slot?_of_reserve marked j, nests, List.mem_cons]
    by_cases same : j = i
    · simp [same]
    · simp [same, amid.compiling j]
  case steady =>
    obtain ⟨distinct, inside⟩ := amid.steady.distinct events (List.prefix_refl _)
    refine amid.steady.concat rfl ?_
    rw [nests]
    refine ⟨List.nodup_cons.mpr ⟨fun old => fresh (.inl old), distinct⟩, ?_⟩
    intro j member
    rcases List.mem_cons.mp member with rfl | old
    · refine ⟨?_, fun old => fresh (.inr old)⟩
      rw [← amid.size]
      exact DispatchTable.lt_size_of_slot? stub
    · exact inside j old

theorem named {raw : Int32} {i : FuncId} (amid : Amid past abandoned count stack state events)
    (located : state.ledger.table.locate raw = .ok i) (j : FuncId) :
    FuncId.ofRaw? count raw = some j ↔ j = i := by
  rw [← amid.size, FuncId.ofRaw?_of_located located, Option.some.injEq, eq_comm]

/-- A call of the trigger that asks for a unit is the innermost open one from then on. -/
theorem requested {raw : Int32} {i : FuncId} {ledger : Ledger} {outside : Outside σ}
    {result : Except Session.Fault Bytes}
    (amid : Amid past abandoned count stack state events)
    (located : state.ledger.table.locate raw = .ok i)
    (reserved : state.ledger.reserve i = .ok ledger)
    (obtained : Trigger.obtain service state.compiler state.dump i
      (state.reserved raw i ledger).outside = (result, outside)) :
    ∃ more, Amid past abandoned count (some i :: stack)
      { state.reserved raw i ledger with outside } (events ++ more) := by
  obtain ⟨replies, replied, grown, _⟩ := Trigger.requested_history obtained
  obtain ⟨marked, _⟩ := Ledger.reserve_eq_ok_iff.mp reserved
  obtain ⟨stub, _⟩ := DispatchTable.reserve_eq_ok_iff.mp marked
  have noted : Amid past abandoned count (none :: stack)
      ((state.enter raw).record (.notice (.compiling i))) _ :=
    amid.noted fun j named => by
      rw [(amid.named located j).mp named, stub]
      simp
  have asking : Amid past abandoned count (some i :: stack)
      ((state.reserved raw i ledger).record (.request (.unit state.compiler i))) _ :=
    noted.reserved reserved rfl rfl (HostState.history_record _ _)
  have before : ((state.reserved raw i ledger).record
      (.request (.unit state.compiler i))).history =
      (state.enter raw).history ++
        [Event.notice (.compiling i), .request (.unit state.compiler i)] := by
    rw [HostState.history_record, HostState.reserved, HostState.history_record,
      HostState.history_ledger, List.append_assoc]
    rfl
  have begun : Amid past abandoned count (some i :: stack)
      { state.reserved raw i ledger with outside }
      (events ++ [Event.triggered raw state.ledger, .notice (.compiling i)] ++
        [Event.request (.unit state.compiler i)] ++ replies) := by
    refine asking.stills (fun event member => (replied event member).still) rfl rfl ?_
    rw [grown, before, List.append_assoc]
    rfl
  rw [List.append_assoc, List.append_assoc] at begun
  exact ⟨_, begun⟩

/-- A call of the trigger is weighed: it is turned back, there is nothing to do, or it has begun to
compile its function. -/
theorem admitted {raw : Int32} {after : HostState σ}
    {answer : Except Session.Fault (Option (FuncId × Bytes))}
    (amid : Amid past abandoned count stack state events)
    (admitted : Trigger.Admission service raw state answer after) :
    ∃ more,
      (∃ fault, answer = .error fault ∧ Halted past abandoned count
        (after.settle raw (.error (.failed fault))) (events ++ more)) ∨
      (answer = .ok none ∧ Amid past abandoned count (none :: stack) after (events ++ more)) ∨
      ∃ i blob, answer = .ok (some (i, blob)) ∧
        Amid past abandoned count (some i :: stack) after (events ++ more) := by
  cases admitted with
  | tooEarly unready =>
    have ready := amid.ready
    simp [unready] at ready
  | @outOfRange shared refusal ready refused =>
    have outside := FuncId.ofRaw?_of_refused refused
    rw [amid.size] at outside
    refine ⟨_, .inl ⟨_, rfl, amid.turnedBack fun i => ?_⟩⟩
    rw [DispatchTable.locate_eq, amid.size, outside] at refused
    cases refused
    simp [outside]
  | present ready located installed =>
    refine ⟨_, .inr (.inl ⟨rfl, amid.noted fun j named => ?_⟩)⟩
    rw [(amid.named located j).mp named, installed]
    simp
  | @reentered shared i refusal ready located notInstalled refused =>
    obtain ⟨_, bounded⟩ := DispatchTable.locate_eq_ok_iff.mp located
    obtain ⟨rfl, compiling⟩ := Ledger.reserve_refused bounded notInstalled refused
    refine ⟨_, .inl ⟨_, rfl, amid.turnedBack fun j => ?_⟩⟩
    rw [amid.named located j]
    constructor
    · rintro ⟨rfl⟩
      exact ⟨rfl, compiling⟩
    · rintro ⟨rfl, _⟩
      rfl
  | @requested shared i ledger result outside ready located reserved obtained =>
    obtain ⟨more, begun⟩ := amid.requested located reserved obtained
    cases result with
    | error fault =>
      obtain ⟨last, halted⟩ := begun.halt.settle raw (.failed fault)
      rw [List.append_assoc] at halted
      exact ⟨_, .inl ⟨fault, rfl, halted⟩⟩
    | ok blob => exact ⟨_, .inr (.inr ⟨i, blob, rfl, begun⟩)⟩

/-- Every step keeps count of the open calls. -/
theorem nests (service : Service σ) (past : List Event) (abandoned : List FuncId) (count : Nat) :
    Nests service (fun stack state => ∃ events, Amid past abandoned count stack state events)
      fun state => ∃ events, Halted past abandoned count state events where
  halt := fun ⟨events, amid⟩ => ⟨events, amid.halt⟩
  failed := by
    rintro state raw why ⟨events, halted⟩
    obtain ⟨more, settled⟩ := halted.settle raw why
    exact ⟨_, settled⟩
  notice notice := fun ⟨_, amid⟩ =>
    ⟨_, amid.still ⟨fun _ => rfl, rfl, rfl⟩ rfl rfl (HostState.history_record _ _)⟩
  printed value := fun ⟨_, amid⟩ =>
    ⟨_, amid.still ⟨fun _ => rfl, rfl, rfl⟩ rfl rfl (HostState.history_print _ value)⟩
  refused := by
    rintro stack raw state fault after admitted ⟨events, amid⟩
    obtain ⟨more, ⟨_, same, halted⟩ | ⟨refused, _⟩ | ⟨_, _, refused, _⟩⟩ := amid.admitted admitted
    · cases same
      exact ⟨_, halted⟩
    · cases refused
    · cases refused
  present := by
    rintro stack raw state after admitted ⟨events, amid⟩
    obtain ⟨more, ⟨_, refused, _⟩ | ⟨_, begun⟩ | ⟨_, _, refused, _⟩⟩ := amid.admitted admitted
    · cases refused
    · exact ⟨_, begun.settle raw rfl begun.size (HostState.history_record _ _) fun i =>
        (begun.compiling i).trans (by rw [begun.openFuncs_eq]; rfl)⟩
    · cases refused
  begun := by
    rintro stack raw state after i blob admitted ⟨events, amid⟩
    obtain ⟨more, ⟨_, refused, _⟩ | ⟨refused, _⟩ | ⟨_, _, same, begun⟩⟩ := amid.admitted admitted
    · cases refused
    · cases refused
    · cases same
      refine ⟨some i, ⟨_, begun⟩, fun ⟨_, loaded⟩ recorded => ?_⟩
      exact ⟨_, loaded.installed raw recorded rfl rfl (HostState.history_record _ _)⟩

end Amid

theorem requested_of_open {events : List Event} {i : FuncId} (opened : i ∈ openFuncs events) :
    ∃ compiler, .request (.unit compiler i) ∈ events := by
  have member : some i ∈ openCalls events := by
    simpa [openFuncs] using opened
  clear opened
  induction events using List.reverseRecOn with
  | nil => cases member
  | append_singleton events event ih =>
    have before : some i ∈ openCalls events →
        ∃ compiler, .request (.unit compiler i) ∈ events ++ [event] := fun earlier => by
      obtain ⟨compiler, member⟩ := ih earlier
      exact ⟨compiler, List.mem_append_left _ member⟩
    rw [openCalls_append] at member
    change some i ∈ event.nest (openCalls events) at member
    cases event with
    | triggered raw ledger =>
      rcases List.mem_cons.mp member with same | earlier
      · cases same
      · exact before earlier
    | settled raw result => exact before (List.mem_of_mem_tail member)
    | request request =>
      cases request with
      | unit compiler j =>
        rcases List.mem_cons.mp member with same | earlier
        · obtain rfl := Option.some.inj same
          exact ⟨compiler, List.mem_append_right _ (List.mem_singleton_self _)⟩
        · exact before (List.mem_of_mem_tail earlier)
      | _ => exact before member
    | _ => exact before member

namespace Session

variable {service : Service σ} {limits : Limits} {session : Session σ}

/-- What happens during one run. -/
def happened (service : Service σ) (limits : Limits) (session : Session σ) : List Event :=
  (session.run service limits).2.state.history.drop session.state.history.length

/-- The functions that a run leaves behind: those that were open when it failed. -/
def leftBehind (service : Service σ) (limits : Limits) (session : Session σ) : List FuncId :=
  match (session.run service limits).1 with
  | .ok _ => []
  | .error _ => openFuncs (untilFailure (session.happened service limits))

/-- The functions that so many runs leave behind. -/
def abandoned (service : Service σ) (limits : Limits) : Nat → Session σ → List FuncId
  | 0, _ => []
  | runs + 1, session =>
    session.leftBehind service limits ++ abandoned service limits runs (session.run service limits).2

/-- What one run does to the functions that are being compiled. -/
theorem run_amid (service : Service σ) (limits : Limits) {abandoned : List FuncId}
    (ready : session.state.shared.isSome)
    (compiling : ∀ i, session.slot? i = some .compiling ↔ i ∈ abandoned) :
    ∃ events, Halted session.state.history abandoned session.state.ledger.table.size
        (session.run service limits).2.state events ∧
      ∀ value, (session.run service limits).1 = .ok value →
        Unfailed events ∧ openFuncs events = [] := by
  have fresh : Amid session.state.history abandoned session.state.ledger.table.size []
      session.state [] := by
    refine ⟨ready, rfl, (List.append_nil _).symm, .nil, rfl, fun i => ?_, .nil⟩
    exact (compiling i).trans (by simp [openFuncs, openCalls])
  obtain ⟨⟨events, halted⟩, inside⟩ := run_nests
    (Amid.nests service session.state.history abandoned session.state.ledger.table.size) limits
    ⟨[], fresh⟩
  refine ⟨events, halted, fun value answer => ?_⟩
  obtain ⟨others, amid⟩ := inside value answer
  obtain rfl := List.append_cancel_left (halted.history.symm.trans amid.history)
  exact ⟨amid.unfailed, amid.openFuncs_eq⟩

theorem happened_eq {events : List Event}
    (history : (session.run service limits).2.state.history = session.state.history ++ events) :
    session.happened service limits = events := by
  unfold happened
  rw [history, List.drop_left]

/-- Between two runs, what is being compiled was left behind by a run that failed. -/
theorem rerun_abandoned (service : Service σ) (limits : Limits) (runs : Nat) {left : List FuncId}
    (ready : session.state.shared.isSome)
    (compiling : ∀ i, session.slot? i = some .compiling ↔ i ∈ left) (i : FuncId) :
    (session.rerun service limits runs).slot? i = some .compiling ↔
      i ∈ session.abandoned service limits runs ∨ i ∈ left := by
  induction runs generalizing session left with
  | zero => simpa [rerun, abandoned] using compiling i
  | succ runs ih =>
    obtain ⟨events, halted, completed⟩ := run_amid service limits ready compiling
    have readyAfter : (session.run service limits).2.state.shared.isSome := by
      rw [(run_grows service limits session).shared]
      exact ready
    have after : ∀ j, (session.run service limits).2.slot? j = some .compiling ↔
        j ∈ session.leftBehind service limits ++ left := by
      intro j
      rw [List.mem_append]
      unfold leftBehind
      rw [happened_eq halted.history]
      cases answer : (session.run service limits).1 with
      | error fault => exact halted.compiling j
      | ok value =>
        obtain ⟨unfailed, closed⟩ := completed value answer
        have same := halted.compiling j
        rw [untilFailure_of_unfailed unfailed, closed] at same
        exact same
    rw [rerun, ih readyAfter after, abandoned, List.mem_append, List.mem_append]
    grind

theorem rerun_add (service : Service σ) (limits : Limits) (runs more : Nat) (session : Session σ) :
    session.rerun service limits (runs + more) =
      (session.rerun service limits runs).rerun service limits more := by
  induction runs generalizing session with
  | zero => rw [Nat.zero_add, rerun]
  | succ runs ih =>
    rw [Nat.succ_add, rerun, rerun]
    exact ih _

end Session

end FirstCall
