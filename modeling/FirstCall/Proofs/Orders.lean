import FirstCall.Proofs.Abandonment
import FirstCall.Proofs.Forest

/-!
# Orders of compilation

The functions of a program are requested in the order in which calls of the trigger begin, and they
are compiled in the order in which these calls end. Both are orders of one forest, that of the calls
that begin to compile something inside the loading of each other.
-/

namespace FirstCall

open Wasm

variable {σ : Type}

/-- What was requested and compiled since some moment, in the orders of the forest. -/
structure Grown (past : List Event) (earlier : List FuncId) (compiler : Service.Compiler)
    (state : HostState σ) (events : List Event) : Prop where
  history : state.history = past ++ events
  requests : events.filterMap Event.request? = (forestOf events).preorder.map (.unit compiler)
  order : state.ledger.table.order.toList = earlier ++ (forestOf events).postorder
  upright : (forestOf events).Upright

/-- Inside calls of the trigger that have begun and not ended, none of which failed. -/
structure Growing (past : List Event) (earlier : List FuncId) (compiler : Service.Compiler)
    (around : List (Option FuncId × Forest)) (state : HostState σ) (events : List Event) : Prop
    extends Grown past earlier compiler state events where
  ready : state.shared.isSome
  compiler : state.compiler = compiler
  opened : (reading events).around = around
  grown : (reading events).grown.Done
  before : ∀ frame ∈ around, frame.2.Done

/-- An event that neither begins nor ends a call and asks for nothing. -/
def Event.IsMute (event : Event) : Prop :=
  (∀ reading, event.read reading = reading) ∧ event.request? = none

theorem Event.IsReply.mute {event : Event} (reply : event.IsReply) : event.IsMute := by
  cases event with
  | notice notice => exact ⟨fun _ => rfl, rfl⟩
  | received request blob => exact ⟨fun _ => rfl, rfl⟩
  | wrote path contents => exact ⟨fun _ => rfl, rfl⟩
  | _ => cases reply

theorem read_mute {events : List Event} (mute : ∀ event ∈ events, event.IsMute)
    (reading : Reading) : events.foldl Event.read reading = reading := by
  induction events with
  | nil => rfl
  | cons event rest ih =>
    rw [List.foldl_cons, (mute event List.mem_cons_self).1]
    exact ih fun other member => mute other (List.mem_cons_of_mem _ member)

theorem requests_mute {events : List Event} (mute : ∀ event ∈ events, event.IsMute) :
    events.filterMap Event.request? = [] :=
  List.filterMap_eq_nil_iff.mpr fun event member => (mute event member).2

namespace Ledger

variable {ledger next : Ledger} {raw : Int32} {i : FuncId} {refusal : DispatchTable.Fault}

theorem begins?_of_refused (refused : ledger.table.locate raw = .error refusal) :
    ledger.begins? raw = none := by
  simp only [begins?, refused]

theorem begins?_of_unreserved (located : ledger.table.locate raw = .ok i)
    (refused : ledger.reserve i = .error refusal) : ledger.begins? raw = none := by
  simp only [begins?, located, refused]

theorem begins?_of_reserved (located : ledger.table.locate raw = .ok i)
    (reserved : ledger.reserve i = .ok next) : ledger.begins? raw = some i := by
  simp only [begins?, located, reserved]

theorem begins?_of_installed (located : ledger.table.locate raw = .ok i)
    (installed : ledger.table.slot? i = some .installed) : ledger.begins? raw = none := by
  cases reserved : ledger.reserve i with
  | error refusal => exact begins?_of_unreserved located reserved
  | ok next =>
    have marked := (reserve_eq_ok_iff.mp reserved).1
    have stub := (DispatchTable.reserve_eq_ok_iff.mp marked).1
    cases installed.symm.trans stub

end Ledger

namespace Trigger.Admission

variable {service : Service σ} {raw : Int32} {state after : HostState σ}

/-- How a call of the trigger begins: if its function is one to compile, the unit is requested. -/
theorem begun {answer : Except Session.Fault (Option (FuncId × Bytes))}
    (admitted : Admission service raw state answer after) (ready : state.shared.isSome) :
    ∃ more, after.history = state.history ++ .triggered raw state.ledger :: more ∧
      (∀ reading, more.foldl Event.read reading = reading) ∧
      more.filterMap Event.request? =
        (state.ledger.begins? raw).toList.map (.unit state.compiler) ∧
      after.ledger.table.order = state.ledger.table.order := by
  cases admitted with
  | tooEarly unready => simp [unready] at ready
  | outOfRange ready refused =>
    refine ⟨[], HostState.history_enter _ _, fun _ => rfl, ?_, rfl⟩
    rw [Ledger.begins?_of_refused refused]
    rfl
  | @present shared i ready located installed =>
    refine ⟨[.notice (.alreadyInstalled i)], ?_, fun _ => rfl, ?_, rfl⟩
    · rw [HostState.history_record, HostState.history_enter, List.append_assoc]
      rfl
    · rw [Ledger.begins?_of_installed located installed]
      rfl
  | reentered ready located notInstalled refused =>
    refine ⟨[], HostState.history_enter _ _, fun _ => rfl, ?_, rfl⟩
    rw [Ledger.begins?_of_unreserved located refused]
    rfl
  | @requested shared i ledger result outside ready located reserved obtained =>
    obtain ⟨replies, replied, grown, _⟩ := Trigger.requested_history obtained
    have marked := (Ledger.reserve_eq_ok_iff.mp reserved).1
    refine ⟨.notice (.compiling i) :: .request (.unit state.compiler i) :: replies, ?_, ?_, ?_, ?_⟩
    · rw [grown, HostState.history_enter, List.append_assoc]
      rfl
    · exact fun reading => read_mute (fun event member => (replied event member).mute) reading
    · rw [Ledger.begins?_of_reserved located reserved]
      exact congrArg (Request.unit state.compiler i :: ·)
        (requests_mute fun event member => (replied event member).mute)
    · have same : ledger.table.order = state.ledger.table.order := by
        rw [(DispatchTable.reserve_eq_ok_iff.mp marked).2]
      exact same

/-- A call of the trigger that is not refused begins to compile what it obtained the unit of. -/
theorem begins_of_ok {wanted : Option (FuncId × Bytes)}
    (admitted : Admission service raw state (.ok wanted) after) :
    state.ledger.begins? raw = wanted.map Prod.fst := by
  generalize sought : (Except.ok wanted : Except Session.Fault (Option (FuncId × Bytes))) = answer
    at admitted
  cases admitted with
  | tooEarly unready => cases sought
  | outOfRange ready refused => cases sought
  | present ready located installed =>
    cases sought
    exact Ledger.begins?_of_installed located installed
  | reentered ready located notInstalled refused => cases sought
  | @requested shared i ledger result outside ready located reserved obtained =>
    cases result with
    | error fault => cases sought
    | ok blob =>
      cases sought
      exact Ledger.begins?_of_reserved located reserved

end Trigger.Admission

variable {past events : List Event} {earlier : List FuncId} {compiler : Service.Compiler}
  {around : List (Option FuncId × Forest)} {state next : HostState σ}

namespace Grown

theorem mute {event : Event} (grown : Grown past earlier compiler state events)
    (mute : event.IsMute) (order : next.ledger.table.order = state.ledger.table.order)
    (history : next.history = state.history ++ [event]) :
    Grown past earlier compiler next (events ++ [event]) := by
  have same : forestOf (events ++ [event]) = forestOf events := by
    unfold forestOf
    rw [reading_append]
    exact congrArg Reading.whole (mute.1 _)
  constructor
  case history => rw [history, grown.history, List.append_assoc]
  case requests => simp [same, grown.requests, mute.2]
  case order => rw [order, same, grown.order]
  case upright => rw [same]; exact grown.upright

theorem settle (grown : Grown past earlier compiler state events) (raw : Int32)
    (why : Stop Session.Fault) :
    ∃ more, Grown past earlier compiler (state.settle raw (.error why)) (events ++ more) := by
  unfold HostState.settle
  split
  · next same => cases same
  · next fault _ =>
    have same : forestOf (events ++ [Event.settled raw (.error fault)]) = forestOf events := by
      unfold forestOf
      rw [reading_append]
      exact Reading.whole_leave_failed _
    refine ⟨[.settled raw (.error fault)], ?_, ?_, ?_, ?_⟩
    · rw [HostState.history_record, grown.history, List.append_assoc]
    · rw [same, List.filterMap_append, grown.requests]
      exact List.append_nil _
    · rw [same]
      exact grown.order
    · rw [same]
      exact grown.upright
  · exact ⟨[], by simpa using grown⟩

end Grown

namespace Growing

theorem mute {event : Event} (growing : Growing past earlier compiler around state events)
    (mute : event.IsMute) (shared : next.shared = state.shared)
    (same : next.compiler = state.compiler)
    (order : next.ledger.table.order = state.ledger.table.order)
    (history : next.history = state.history ++ [event]) :
    Growing past earlier compiler around next (events ++ [event]) := by
  have read : reading (events ++ [event]) = reading events := by
    rw [reading_append]
    exact mute.1 _
  constructor
  case toGrown => exact growing.toGrown.mute mute order history
  case ready => exact shared ▸ growing.ready
  case compiler => exact same.trans growing.compiler
  case opened => rw [read]; exact growing.opened
  case grown => rw [read]; exact growing.grown
  case before => exact growing.before

/-- A call of the trigger begins, and the unit of its function is requested if it has one to
compile. -/
theorem called {raw : Int32} {more : List Event}
    (growing : Growing past earlier compiler around state events)
    (read : ∀ reading, more.foldl Event.read reading = reading)
    (requests : more.filterMap Event.request? =
      (state.ledger.begins? raw).toList.map (.unit compiler))
    (shared : next.shared = state.shared) (same : next.compiler = state.compiler)
    (order : next.ledger.table.order = state.ledger.table.order)
    (history : next.history = state.history ++ .triggered raw state.ledger :: more) :
    Growing past earlier compiler
      ((state.ledger.begins? raw, (reading events).grown) :: around) next
      (events ++ .triggered raw state.ledger :: more) := by
  have entered : reading (events ++ .triggered raw state.ledger :: more) =
      (reading events).enter (state.ledger.begins? raw) := by
    rw [reading_append]
    exact read _
  constructor
  case toGrown =>
    constructor
    case history => rw [history, growing.history, List.append_assoc]
    case requests =>
      unfold forestOf
      rw [entered, Reading.preorder_enter, List.map_append, List.filterMap_append, growing.requests]
      exact congrArg _ requests
    case order =>
      unfold forestOf
      rw [order, entered, Reading.postorder_enter]
      exact growing.order
    case upright =>
      unfold forestOf
      rw [entered]
      refine Reading.upright_enclosed (fun frame member => ?_) trivial
      rcases List.mem_cons.mp member with rfl | outer
      · exact growing.grown.upright
      · exact (growing.before frame (growing.opened ▸ outer)).upright
  case ready => exact shared ▸ growing.ready
  case compiler => exact same.trans growing.compiler
  case opened => rw [entered, ← growing.opened]; rfl
  case grown => rw [entered]; trivial
  case before =>
    intro frame member
    rcases List.mem_cons.mp member with rfl | outer
    · exact growing.grown
    · exact growing.before frame outer

/-- A call of the trigger ends well, and its function is compiled if it had one to compile. -/
theorem settled {raw : Int32} {call : Option FuncId} {before : Forest}
    (growing : Growing past earlier compiler ((call, before) :: around) state events)
    (shared : next.shared = state.shared) (same : next.compiler = state.compiler)
    (order : next.ledger.table.order.toList =
      state.ledger.table.order.toList ++ call.toList)
    (history : next.history = state.history ++ [Event.settled raw (.ok ())]) :
    Growing past earlier compiler around next (events ++ [Event.settled raw (.ok ())]) := by
  have left : reading (events ++ [Event.settled raw (.ok ())]) = (reading events).leave true :=
    reading_append _ _
  have ended : (reading events).leave true =
      ⟨before ++ .enclose call true (reading events).grown, around⟩ := by
    unfold Reading.leave
    rw [growing.opened]
  have done : (before ++ .enclose call true (reading events).grown).Done :=
    (growing.before _ List.mem_cons_self).append (growing.grown.enclose call)
  have outer : ∀ frame ∈ around, frame.2.Done := fun frame member =>
    growing.before frame (List.mem_cons_of_mem _ member)
  constructor
  case toGrown =>
    constructor
    case history => rw [history, growing.history, List.append_assoc]
    case requests =>
      unfold forestOf
      rw [left, Reading.preorder_leave, List.filterMap_append, growing.requests]
      exact List.append_nil _
    case order =>
      unfold forestOf
      rw [order, growing.order, left, Reading.postorder_leave growing.opened, List.append_assoc]
      rfl
    case upright =>
      unfold forestOf
      rw [left, ended]
      exact Reading.upright_enclosed (fun frame member => (outer frame member).upright) done.upright
  case ready => exact shared ▸ growing.ready
  case compiler => exact same.trans growing.compiler
  case opened => rw [left, ended]
  case grown => rw [left, ended]; exact done
  case before => exact outer

theorem admitted {service : Service σ} {raw : Int32}
    {answer : Except Session.Fault (Option (FuncId × Bytes))}
    (growing : Growing past earlier compiler around state events)
    (admitted : Trigger.Admission service raw state answer next) :
    ∃ more, Growing past earlier compiler
      ((state.ledger.begins? raw, (reading events).grown) :: around) next (events ++ more) := by
  obtain ⟨more, history, read, requests, order⟩ := admitted.begun growing.ready
  rw [growing.compiler] at requests
  have grows := admitted.grows
  exact ⟨_, growing.called read requests grows.shared grows.compiler order history⟩

/-- Every step requests and compiles in the orders of the forest. -/
theorem nests (service : Service σ) (past : List Event) (earlier : List FuncId)
    (compiler : Service.Compiler) :
    Nests service
      (fun around state => ∃ events, Growing past earlier compiler around state events)
      fun state => ∃ events, Grown past earlier compiler state events where
  halt := fun ⟨events, growing⟩ => ⟨events, growing.toGrown⟩
  failed := by
    rintro state raw why ⟨events, grown⟩
    obtain ⟨more, settled⟩ := grown.settle raw why
    exact ⟨_, settled⟩
  notice notice := fun ⟨_, growing⟩ =>
    ⟨_, growing.mute ⟨fun _ => rfl, rfl⟩ rfl rfl rfl (HostState.history_record _ _)⟩
  printed value := fun ⟨_, growing⟩ =>
    ⟨_, growing.mute ⟨fun _ => rfl, rfl⟩ rfl rfl rfl (HostState.history_print _ value)⟩
  refused := by
    rintro around raw state fault after admitted ⟨events, growing⟩
    obtain ⟨more, begun⟩ := growing.admitted admitted
    obtain ⟨others, grown⟩ := begun.toGrown.settle raw (.failed fault)
    exact ⟨_, grown⟩
  present := by
    rintro around raw state after admitted ⟨events, growing⟩
    obtain ⟨more, begun⟩ := growing.admitted admitted
    rw [admitted.begins_of_ok] at begun
    exact ⟨_, begun.settled rfl rfl (List.append_nil _).symm (HostState.history_record _ _)⟩
  begun := by
    rintro around raw state after i blob admitted ⟨events, growing⟩
    obtain ⟨more, begun⟩ := growing.admitted admitted
    rw [admitted.begins_of_ok] at begun
    refine ⟨_, ⟨_, begun⟩, fun {last ledger} ⟨_, loaded⟩ recorded => ?_⟩
    have added : ledger.table.order.toList = last.ledger.table.order.toList ++ [i] := by
      rw [(DispatchTable.install_eq_ok_iff.mp (Ledger.install_eq_ok_iff.mp recorded).1).2,
        Array.toList_push]
    exact ⟨_, loaded.settled rfl rfl added (HostState.history_record _ _)⟩

end Growing

namespace Session

variable {service : Service σ} {limits : Limits} {session : Session σ} {source : String}
  {settings : Settings} {outside : Outside σ}

/-- The calls of the trigger that began to compile something in so many runs, as a forest. -/
def compileForest (service : Service σ) (limits : Limits) : Nat → Session σ → Forest
  | 0, _ => .empty
  | runs + 1, session => forestOf (session.happened service limits) ++
      compileForest service limits runs (session.run service limits).2

/-- One run requests and compiles in the orders of its forest. -/
theorem run_grown (service : Service σ) (limits : Limits) (ready : session.state.shared.isSome) :
    ∃ events, Grown session.state.history session.compiled session.state.compiler
      (session.run service limits).2.state events := by
  have fresh : Growing session.state.history session.compiled session.state.compiler []
      session.state [] := by
    constructor
    case toGrown =>
      exact ⟨(List.append_nil _).symm, rfl, (List.append_nil _).symm, trivial⟩
    case ready => exact ready
    case compiler => rfl
    case opened => rfl
    case grown => trivial
    case before => exact nofun
  exact (run_nests (Growing.nests service _ _ _) limits ⟨[], fresh⟩).1

/-- Any number of runs request and compile in the orders of their forest. -/
theorem rerun_forest (service : Service σ) (limits : Limits) (runs : Nat)
    (ready : session.state.shared.isSome) :
    ∃ events, (session.rerun service limits runs).state.history =
        session.state.history ++ events ∧
      events.filterMap Event.request? = (session.compileForest service limits runs).preorder.map
        (.unit session.state.compiler) ∧
      (session.rerun service limits runs).compiled =
        session.compiled ++ (session.compileForest service limits runs).postorder ∧
      (session.compileForest service limits runs).Upright := by
  induction runs generalizing session with
  | zero => exact ⟨[], (List.append_nil _).symm, rfl, (List.append_nil _).symm, trivial⟩
  | succ runs ih =>
    obtain ⟨first, grown⟩ := run_grown service limits ready
    have grows := run_grows service limits session
    have readyAfter : (session.run service limits).2.state.shared.isSome := by
      rw [grows.shared]
      exact ready
    obtain ⟨later, history, requests, order, upright⟩ := ih readyAfter
    rw [compileForest, happened_eq grown.history]
    refine ⟨first ++ later, ?_, ?_, ?_, grown.upright.append upright⟩
    · rw [rerun, history, grown.history, List.append_assoc]
    · rw [List.filterMap_append, grown.requests, requests, grows.compiler, Forest.preorder_append,
        List.map_append]
    · have compiled : (session.run service limits).2.compiled =
          session.compiled ++ (forestOf first).postorder := grown.order
      rw [rerun, order, compiled, Forest.postorder_append, List.append_assoc]

theorem nodup_compileForest
    (started : start service limits source settings outside = .ok session) (runs : Nat) :
    (session.compileForest service limits runs).preorder.Nodup := by
  obtain ⟨_, _, first, _, _, before, asked, _, _⟩ := start_history started
  have ready : session.state.shared.isSome := by
    rw [(start_state started).1]
    rfl
  obtain ⟨later, history, requests, _⟩ := rerun_forest service limits runs ready
  obtain ⟨_, events, _, _, whole, units⟩ := requests_of_rerun started runs
  rw [history, before, List.append_assoc] at whole
  obtain rfl := List.append_cancel_left whole
  rw [List.filterMap_append, asked, requests, (rerun_grows service limits runs session).compiler]
    at units
  have tail := (List.cons.inj (List.cons.inj (List.cons.inj units).2).2).2
  have injective : Function.Injective (Request.unit session.state.compiler) :=
    fun _ _ same => (Request.unit.inj same).2
  rw [List.map_injective_iff.mpr injective tail]
  exact nodup_firstCalls _ _

/-- Units are requested in the order in which the calls of the trigger begin, and functions are
compiled in the order in which these calls end well. -/
theorem requests_and_compiled (started : start service limits source settings outside = .ok session)
    (runs : Nat) :
    ∃ (ir : Service.Parsed) (events : List Event) (forest : Forest),
      forest = session.compileForest service limits runs ∧
      (session.rerun service limits runs).state.history =
        outside.world.history.toList ++ events ∧
      events.filterMap Event.request? =
        .parse source :: .build ir :: .skeleton session.state.compiler ::
          forest.preorder.map (.unit session.state.compiler) ∧
      forest.preorder.Nodup ∧
      (session.rerun service limits runs).compiled = forest.postorder ∧
      (session.rerun service limits runs).state.ledger.units.toList.map LoadedUnit.func =
        forest.postorder ∧
      (∀ i j, forest.Within i j → j ∈ (session.rerun service limits runs).compiled →
        [i, j].Sublist (session.rerun service limits runs).compiled) ∧
      (∀ i j, forest.Before i j → i ∈ (session.rerun service limits runs).compiled →
        j ∈ (session.rerun service limits runs).compiled →
        [i, j].Sublist (session.rerun service limits runs).compiled) ∧
      ((∀ i j, ¬ forest.Within i j) → (session.rerun service limits runs).compiled =
        forest.preorder.filter fun i =>
          (session.rerun service limits runs).slot? i = some .installed) := by
  obtain ⟨ir, _, first, _, _, before, asked, _, _⟩ := start_history started
  obtain ⟨shared, ledger⟩ := start_state started
  have ready : session.state.shared.isSome := by
    rw [shared]
    rfl
  obtain ⟨events, history, requests, order, upright⟩ := rerun_forest service limits runs ready
  have nothing : session.compiled = [] := by
    unfold compiled
    rw [ledger]
    rfl
  rw [nothing, List.nil_append] at order
  obtain ⟨_, sound⟩ := rerun_sound started runs
  have distinct := nodup_compileForest started runs
  refine ⟨ir, first ++ events, _, rfl, ?_, ?_, distinct, order, ?_, ?_, ?_, ?_⟩
  · rw [history, before, List.append_assoc]
  · rw [List.filterMap_append, asked, requests]
    rfl
  · rw [sound.units]
    exact order
  · intro i j within compiled
    rw [order] at compiled ⊢
    exact within.order upright distinct compiled
  · intro i j apart first second
    rw [order] at first second ⊢
    exact apart.order distinct first second
  · intro flat
    have same : ∀ i, i ∈ (session.compileForest service limits runs).postorder ↔
        (session.rerun service limits runs).slot? i = some .installed := fun i => by
      rw [← order]
      exact sound.installed i
    have listed := Forest.postorder_sublist flat
    rw [order]
    refine (distinct.perm_iff_eq_of_sublist listed List.filter_sublist).mp ?_
    refine (List.perm_ext_iff_of_nodup (listed.nodup distinct) (distinct.filter _)).mpr fun i => ?_
    rw [List.mem_filter, decide_eq_true_iff, ← same i]
    exact ⟨fun member => ⟨Forest.postorder_subset _ member, member⟩, And.right⟩

/-- A function that the loading of the first unit calls is requested second and compiled first. -/
theorem sample_requests_and_compiled :
    ∃ session : Session Unit,
      start Sample.nested.service Sample.limits "" Settings.default ⟨(), Sample.world⟩ =
        .ok session ∧
      session.compileForest Sample.nested.service Sample.limits 1 =
        .tree ⟨0⟩ true (.tree ⟨1⟩ true .empty .empty) .empty ∧
      (session.rerun Sample.nested.service Sample.limits 1).compiled = [⟨1⟩, ⟨0⟩] := by
  have seen : ((start Sample.nested.service Sample.limits "" Settings.default
      ⟨(), Sample.world⟩).toOption.map fun session =>
        session.compileForest Sample.nested.service Sample.limits 1) =
      some (.tree ⟨0⟩ true (.tree ⟨1⟩ true .empty .empty) .empty) := by
    decide +kernel
  obtain ⟨session, started, seen⟩ := exists_ok_of_seen seen
  obtain ⟨_, _, forest, rfl, _, _, _, compiled, _⟩ := requests_and_compiled started 1
  refine ⟨session, started, seen, ?_⟩
  rw [compiled, seen]
  rfl

end Session

end FirstCall
