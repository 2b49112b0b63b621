import Mathlib.Data.List.Induction
import Mathlib.Data.List.Nodup
import Mathlib.Data.List.Perm.Subperm
import FirstCall.Proofs.SetUp
import FirstCall.Service.Script

/-!
# Requests

The compiler service sees a session as one request for each of parsing, building and the skeleton,
and then one request for each function that was called, in the order of the first calls. The slots
of the dispatch table remember which functions were requested, so a request is never repeated,
whatever became of it.
-/

namespace FirstCall

open Wasm

variable {σ α : Type}

namespace FuncId

/-- The function that a raw index names among so many, if it names one. -/
def ofRaw? (count : Nat) (raw : Int32) : Option FuncId :=
  if 0 ≤ raw.toInt ∧ raw.toInt < count then some ⟨raw.toUInt32⟩ else none

end FuncId

/-- The functions that raw indices name among so many, each where it is named first. -/
def firstCalls (count : Nat) (raws : List Int32) : List FuncId :=
  (raws.filterMap (FuncId.ofRaw? count)).eraseDups

theorem DispatchTable.locate_eq (table : DispatchTable) (raw : Int32) :
    table.locate raw =
      match FuncId.ofRaw? table.size raw with
      | some i => .ok i
      | none => .error (.outOfRange raw.toInt table.size) := by
  unfold locate FuncId.ofRaw?
  split
  · next outside => rw [if_neg (by omega)]
  · next inside => rw [if_pos (by omega)]

namespace FuncId

theorem ofRaw?_of_located {table : DispatchTable} {raw : Int32} {i : FuncId}
    (located : table.locate raw = .ok i) : ofRaw? table.size raw = some i := by
  rw [DispatchTable.locate_eq] at located
  split at located
  · next named =>
    cases located
    exact named
  · cases located

theorem ofRaw?_of_refused {table : DispatchTable} {raw : Int32}
    {refusal : DispatchTable.Fault} (refused : table.locate raw = .error refusal) :
    ofRaw? table.size raw = none := by
  rw [DispatchTable.locate_eq] at refused
  split at refused
  · cases refused
  · next unnamed => exact unnamed

theorem slot_of_ofRaw? {count : Nat} {raw : Int32} {i : FuncId}
    (named : ofRaw? count raw = some i) : (i.slot : Int) = raw.toInt ∧ i.slot < count := by
  have located : (DispatchTable.ofSize count).locate raw = .ok i := by
    rw [DispatchTable.locate_eq, DispatchTable.size_ofSize, named]
  rw [DispatchTable.locate_eq_ok_iff, DispatchTable.size_ofSize] at located
  exact located

end FuncId

theorem FuncId.length_le_of_nodup {count : Nat} {funcs : List FuncId} (distinct : funcs.Nodup)
    (bounded : ∀ i ∈ funcs, i.slot < count) : funcs.length ≤ count := by
  have slots : (funcs.map slot).Nodup := distinct.map fun _ _ => slot_injective
  have inside : funcs.map slot ⊆ List.range count := by
    intro place found
    obtain ⟨i, member, rfl⟩ := List.mem_map.mp found
    exact List.mem_range.mpr (bounded i member)
  have short := (slots.subperm inside).length_le
  rwa [List.length_map, List.length_range] at short

theorem eraseDups_concat {α : Type} [DecidableEq α] (l : List α) (a : α) :
    (l ++ [a]).eraseDups = if a ∈ l then l.eraseDups else l.eraseDups ++ [a] := by
  rw [List.eraseDups_append]
  by_cases known : a ∈ l
  · simp [List.removeAll, known]
  · simp [List.removeAll, known, List.eraseDups_cons]

section FirstCalls

variable {count : Nat} {raws : List Int32} {raw : Int32} {i : FuncId}

theorem mem_firstCalls_iff :
    i ∈ firstCalls count raws ↔ ∃ raw ∈ raws, FuncId.ofRaw? count raw = some i := by
  unfold firstCalls
  rw [List.mem_eraseDups, List.mem_filterMap]

theorem firstCalls_concat_none (unnamed : FuncId.ofRaw? count raw = none) :
    firstCalls count (raws ++ [raw]) = firstCalls count raws := by
  unfold firstCalls
  simp [unnamed]

theorem firstCalls_concat_some (named : FuncId.ofRaw? count raw = some i) :
    firstCalls count (raws ++ [raw]) =
      if i ∈ firstCalls count raws then firstCalls count raws
      else firstCalls count raws ++ [i] := by
  have last : (raws ++ [raw]).filterMap (FuncId.ofRaw? count) =
      raws.filterMap (FuncId.ofRaw? count) ++ [i] := by
    simp [named]
  unfold firstCalls
  rw [last, eraseDups_concat]
  simp only [List.mem_eraseDups]

theorem nodup_firstCalls (count : Nat) (raws : List Int32) : (firstCalls count raws).Nodup := by
  induction raws using List.reverseRecOn with
  | nil => exact List.nodup_nil
  | append_singleton raws raw ih =>
    cases named : FuncId.ofRaw? count raw with
    | none =>
      rw [firstCalls_concat_none named]
      exact ih
    | some i =>
      rw [firstCalls_concat_some named]
      split
      · exact ih
      · next new => exact List.nodup_append.mpr ⟨ih, List.nodup_singleton i, by grind⟩

theorem length_firstCalls_le (count : Nat) (raws : List Int32) :
    (firstCalls count raws).length ≤ count := by
  refine FuncId.length_le_of_nodup (nodup_firstCalls count raws) fun i called => ?_
  obtain ⟨raw, _, named⟩ := mem_firstCalls_iff.mp called
  exact (FuncId.slot_of_ofRaw? named).2

end FirstCalls

/-- Since set-up, the functions called first were requested in order, and a slot is left as a stub
exactly if its function was not called. -/
structure Asked (past : List Event) (count : Nat) (state : HostState σ) (events : List Event) :
    Prop where
  ready : state.shared.isSome
  history : state.history = past ++ events
  size : state.ledger.table.size = count
  requests : events.filterMap Event.request? =
    (firstCalls count (events.filterMap Event.triggered?)).map (.unit state.compiler)
  stubs : ∀ i, state.ledger.table.slot? i = some .stub ↔
    i.slot < count ∧ i ∉ firstCalls count (events.filterMap Event.triggered?)

/-- An event that is neither a request nor a call of the trigger. -/
def Event.IsIdle (event : Event) : Prop := event.request? = none ∧ event.triggered? = none

theorem Event.IsReply.idle {event : Event} (reply : event.IsReply) : event.IsIdle := by
  cases event with
  | notice n => exact ⟨rfl, rfl⟩
  | received asked blob => exact ⟨rfl, rfl⟩
  | wrote path contents => exact ⟨rfl, rfl⟩
  | request r => cases reply
  | triggered raw ledger => cases reply
  | settled raw result => cases reply
  | printed value => cases reply

namespace Asked

variable {past events : List Event} {count : Nat} {state : HostState σ}

theorem idle {event : Event} (asked : Asked past count state events) (idle : event.IsIdle) :
    Asked past count (state.record event) (events ++ [event]) where
  ready := asked.ready
  history := by
    rw [HostState.history_record, asked.history, List.append_assoc]
  size := asked.size
  requests := by
    simpa [idle.1, idle.2] using asked.requests
  stubs := by
    simpa [idle.2] using asked.stubs

/-- A call with an index that is outside, or whose function was called before, asks nothing. -/
theorem known {raw : Int32} (asked : Asked past count state events)
    (old : firstCalls count (events.filterMap Event.triggered? ++ [raw]) =
      firstCalls count (events.filterMap Event.triggered?)) :
    Asked past count (state.enter raw) (events ++ [Event.triggered raw state.ledger]) where
  ready := asked.ready
  history := by
    rw [HostState.history_enter, asked.history, List.append_assoc]
  size := asked.size
  requests := by
    simpa [Event.request?, Event.triggered?, List.filterMap_cons, old] using asked.requests
  stubs := by
    simpa [Event.triggered?, old] using asked.stubs

theorem mem_of_slot {i : FuncId} {slot : Slot} (asked : Asked past count state events)
    (found : state.ledger.table.slot? i = some slot) (real : slot ≠ .stub) :
    i ∈ firstCalls count (events.filterMap Event.triggered?) := by
  have inside := DispatchTable.lt_size_of_slot? found
  rw [asked.size] at inside
  by_contra uncalled
  rw [(asked.stubs i).mpr ⟨inside, uncalled⟩] at found
  exact real (Option.some.inj found).symm

theorem mem_of_refused {i : FuncId} {refusal : DispatchTable.Fault}
    (asked : Asked past count state events) (inside : i.slot < count)
    (refused : state.ledger.reserve i = .error refusal) :
    i ∈ firstCalls count (events.filterMap Event.triggered?) := by
  by_contra uncalled
  have stub := (asked.stubs i).mpr ⟨inside, uncalled⟩
  unfold Ledger.reserve DispatchTable.reserve at refused
  rw [stub] at refused
  cases refused

theorem requested {raw : Int32} {i : FuncId} {ledger : Ledger} {outside : Outside σ}
    {replies : List Event} (asked : Asked past count state events)
    (located : state.ledger.table.locate raw = .ok i) (reserved : state.ledger.reserve i = .ok ledger)
    (idle : ∀ event ∈ replies, event.IsReply)
    (grown : HostState.history { state.reserved raw i ledger with outside } =
      (state.enter raw).history ++
        .notice (.compiling i) :: .request (.unit state.compiler i) :: replies) :
    Asked past count { state.reserved raw i ledger with outside }
      (events ++ .triggered raw state.ledger ::
        .notice (.compiling i) :: .request (.unit state.compiler i) :: replies) := by
  have named := FuncId.ofRaw?_of_located located
  rw [asked.size] at named
  obtain ⟨marked, _⟩ := Ledger.reserve_eq_ok_iff.mp reserved
  obtain ⟨stub, _⟩ := DispatchTable.reserve_eq_ok_iff.mp marked
  have new : i ∉ firstCalls count (events.filterMap Event.triggered?) := ((asked.stubs i).mp stub).2
  have unasked : replies.filterMap Event.request? = [] :=
    List.filterMap_eq_nil_iff.mpr fun event inside => (idle event inside).idle.1
  have uncalled : replies.filterMap Event.triggered? = [] :=
    List.filterMap_eq_nil_iff.mpr fun event inside => (idle event inside).idle.2
  have called : firstCalls count (events.filterMap Event.triggered? ++ [raw]) =
      firstCalls count (events.filterMap Event.triggered?) ++ [i] := by
    rw [firstCalls_concat_some named, if_neg new]
  have raws : (events ++ Event.triggered raw state.ledger ::
      .notice (.compiling i) :: .request (.unit state.compiler i) :: replies).filterMap
        Event.triggered? = events.filterMap Event.triggered? ++ [raw] := by
    simp [Event.triggered?, List.filterMap_cons, uncalled]
  refine ⟨asked.ready, ?_, ?_, ?_, ?_⟩
  · rw [grown, HostState.history_enter, asked.history]
    simp
  · exact (DispatchTable.size_of_reserve marked).trans asked.size
  · change _ = List.map (Request.unit state.compiler) _
    rw [raws, called, List.map_append, ← asked.requests]
    simp [Event.request?, List.filterMap_cons, unasked]
  · intro j
    change ledger.table.slot? j = some .stub ↔ _
    rw [DispatchTable.slot?_of_reserve marked j]
    rw [raws, called]
    by_cases same : j = i
    · simp [same]
    · simp [same, asked.stubs j]

end Asked

/-- The requests of a session are kept in step with the calls of the trigger. -/
theorem Asked.kept (service : Service σ) (past : List Event) (count : Nat) :
    Kept service fun state => ∃ events, Asked past count state events where
  notice notice := fun ⟨events, asked⟩ => ⟨_, asked.idle ⟨rfl, rfl⟩⟩
  printed {state} value := by
    rintro ⟨events, asked⟩
    have noted :
        Asked past count (state.record (.printed value)) (events ++ [Event.printed value]) :=
      asked.idle ⟨rfl, rfl⟩
    exact ⟨_, noted.ready, noted.history, noted.size, noted.requests, noted.stubs⟩
  settled raw result := fun ⟨events, asked⟩ => ⟨_, asked.idle ⟨rfl, rfl⟩⟩
  admitted := by
    rintro raw state answer after admitted ⟨events, asked⟩
    cases admitted with
    | tooEarly unready =>
      have ready := asked.ready
      simp [unready] at ready
    | outOfRange ready refused =>
      have unnamed := FuncId.ofRaw?_of_refused refused
      rw [asked.size] at unnamed
      exact ⟨_, asked.known (firstCalls_concat_none unnamed)⟩
    | present ready located installed =>
      have named := FuncId.ofRaw?_of_located located
      rw [asked.size] at named
      have called := asked.mem_of_slot installed nofun
      have old := (firstCalls_concat_some named).trans (if_pos called)
      exact ⟨_, (asked.known old).idle ⟨rfl, rfl⟩⟩
    | reentered ready located notInstalled refused =>
      have named := FuncId.ofRaw?_of_located located
      rw [asked.size] at named
      have called := asked.mem_of_refused (FuncId.slot_of_ofRaw? named).2 refused
      have old := (firstCalls_concat_some named).trans (if_pos called)
      exact ⟨_, asked.known old⟩
    | requested ready located reserved obtained =>
      obtain ⟨replies, idle, grown, _⟩ := Trigger.requested_history obtained
      exact ⟨_, asked.requested located reserved idle grown⟩
  installed := by
    rintro _ _ _ state ledger i blob _ _ _ recorded ⟨events, asked⟩
    have noted : Asked past count (state.record (.notice (.installed i blob.length)))
        (events ++ [Event.notice (.installed i blob.length)]) := asked.idle ⟨rfl, rfl⟩
    obtain ⟨marked, _⟩ := Ledger.install_eq_ok_iff.mp recorded
    obtain ⟨compiling, _⟩ := DispatchTable.install_eq_ok_iff.mp marked
    refine ⟨_, noted.ready, noted.history, ?_, noted.requests, ?_⟩
    · exact (DispatchTable.size_of_install marked).trans asked.size
    · intro j
      rw [← noted.stubs j]
      change ledger.table.slot? j = some .stub ↔ state.ledger.table.slot? j = some .stub
      rw [DispatchTable.slot?_of_install marked j]
      by_cases same : j = i
      · subst same
        simp [compiling]
      · rw [if_neg same]

namespace Session

/-- After set-up and any number of runs, the requests since set-up are those for the functions that
were called, each once. -/
theorem requests_of_rerun {service : Service σ} {limits : Limits} {source : String}
    {settings : Settings} {outside : Outside σ} {session : Session σ}
    (started : start service limits source settings outside = .ok session) (runs : Nat) :
    ∃ (ir : Service.Parsed) (events : List Event),
      (service.parse source outside.service).result = .ok ir ∧
      (service.build ir (service.parse source outside.service).state).result =
        .ok (session.rerun service limits runs).state.compiler ∧
      (session.rerun service limits runs).state.history =
        outside.world.history.toList ++ events ∧
      events.filterMap Event.request? =
        .parse source :: .build ir ::
          .skeleton (session.rerun service limits runs).state.compiler ::
          (firstCalls session.slotCount (events.filterMap Event.triggered?)).map
            (.unit (session.rerun service limits runs).state.compiler) := by
  obtain ⟨ir, blob, first, parsed, built, grown, asked, _, untriggered⟩ := start_history started
  obtain ⟨shared, ledger⟩ := start_state started
  have uncalled : first.filterMap Event.triggered? = [] := List.filterMap_eq_nil_iff.mpr untriggered
  have fresh : Asked session.state.history session.slotCount session.state [] := by
    refine ⟨by simp [shared], by simp, by simp [ledger, Ledger.ofSize], rfl, fun i => ?_⟩
    simp [ledger, Ledger.ofSize, DispatchTable.slot?_ofSize, firstCalls]
  obtain ⟨events, later⟩ :=
    rerun_kept (Asked.kept service session.state.history session.slotCount) limits runs ⟨[], fresh⟩
  have same := (rerun_grows service limits runs session).compiler
  refine ⟨ir, first ++ events, parsed, ?_, ?_, ?_⟩
  · rw [same]
    exact built
  · rw [later.history, grown, List.append_assoc]
  · rw [List.filterMap_append, asked, List.filterMap_append, uncalled, later.requests, same]
    rfl

end Session

namespace Effect

/-- The effect keeps a property of what is outside a session, however it ends. -/
def Keeps (I : Outside σ → Prop) (effect : Effect σ α) : Prop :=
  ∀ outside, I outside → I (effect outside).2

namespace Keeps

variable {β : Type} {I : Outside σ → Prop}

theorem pure (value : α) : Keeps I (pure value : Effect σ α) := fun _ holds => holds

theorem bind {first : Effect σ α} {next : α → Effect σ β} (head : Keeps I first)
    (tail : ∀ value, Keeps I (next value)) : Keeps I (first >>= next) := by
  intro outside holds
  have before := head outside holds
  rw [bind_apply]
  cases ran : first outside with
  | mk result middle =>
    rw [ran] at before
    cases result with
    | error fault => exact before
    | ok value => exact tail value middle before

end Keeps

/-- Everything that set-up and the trigger do outside a session keeps a property of what is
there. -/
structure Upheld (service : Service σ) (I : Outside σ → Prop) : Prop where
  recorded : ∀ event : Event, event.request? = none → event.printed? = none →
    Keeps I (record event : Effect σ Unit)
  refiled : ∀ {outside : Outside σ} (files : FileTree), I outside →
    I { outside with world := { outside.world with files } }
  parsed : ∀ source, Keeps I (ask (.parse source) (service.parse source))
  built : ∀ ir, Keeps I (ask (.build ir) (service.build ir))
  made : ∀ compiler, Keeps I (ask (.skeleton compiler) (service.skeleton compiler))
  obtained : ∀ compiler i, Keeps I (ask (.unit compiler i) (service.unit compiler i))

namespace Upheld

variable {service : Service σ} {I : Outside σ → Prop} (upheld : Upheld service I)

include upheld

theorem fetch {request : Request} {exchange : Exchange σ Bytes}
    (asked : Keeps I (ask request exchange)) : Keeps I (fetch request exchange) :=
  asked.bind fun blob => (upheld.recorded _ rfl rfl).bind fun _ => .pure blob

theorem writeBlob (path : String) (blob : Bytes) :
    Keeps I (writeBlob path blob : Effect σ Unit) := by
  intro outside holds
  unfold Effect.writeBlob
  split
  · exact holds
  · next files _ =>
    have written := upheld.recorded (.wrote path blob) rfl rfl _ (upheld.refiled files holds)
    exact upheld.recorded (.notice (.dumped blob.length path)) rfl rfl _ written

theorem prepare (source : String) (dump : Option DumpDir) :
    Keeps I (Session.prepare service source dump) := by
  unfold Session.prepare
  refine (upheld.parsed source).bind fun ir => ?_
  refine (upheld.built ir).bind fun compiler => ?_
  refine (upheld.fetch (upheld.made compiler)).bind fun blob => ?_
  refine (upheld.recorded _ rfl rfl).bind fun _ => ?_
  refine Keeps.bind ?_ fun _ => .pure _
  cases dump with
  | none => exact .pure ()
  | some dump => exact upheld.writeBlob _ _

theorem obtain (compiler : Service.Compiler) (dump : Option DumpDir) (i : FuncId) :
    Keeps I (Trigger.obtain service compiler dump i) := by
  unfold Trigger.obtain
  refine (upheld.fetch (upheld.obtained compiler i)).bind fun blob => ?_
  refine Keeps.bind ?_ fun _ => .pure _
  cases dump with
  | none => exact .pure ()
  | some dump => exact upheld.writeBlob _ _

theorem admitted {raw : Int32} {state after : HostState σ}
    {answer : Except Session.Fault (Option (FuncId × Bytes))}
    (admitted : Trigger.Admission service raw state answer after) (holds : I state.outside) :
    I after.outside := by
  have record : ∀ {state : HostState σ} {event : Event}, event.request? = none →
      event.printed? = none → I state.outside → I (state.record event).outside :=
    fun unasked unprinted before => upheld.recorded _ unasked unprinted _ before
  have entered : I (state.enter raw).outside := record rfl rfl holds
  cases admitted with
  | tooEarly unready => exact entered
  | outOfRange ready refused => exact entered
  | present ready located installed => exact record rfl rfl entered
  | reentered ready located notInstalled refused => exact entered
  | @requested _ i ledger _ _ ready located reserved obtained =>
    have asking : I (state.reserved raw i ledger).outside := record rfl rfl entered
    have answered := upheld.obtain state.compiler state.dump i _ asking
    rw [obtained] at answered
    exact answered

end Upheld

end Effect

/-- A service that keeps its requests has seen what the world lists, apart from the requests that
were there before. -/
def Heard (skipped : List Request) (outside : Outside (σ × List Request)) : Prop :=
  outside.world.requests = skipped ++ outside.service.2

namespace Heard

variable {skipped : List Request}

theorem record {event : Event} {outside : Outside (σ × List Request)}
    (heard : Heard skipped outside) (unasked : event.request? = none) :
    Heard skipped { outside with world := outside.world.record event } := by
  unfold Heard World.requests at heard ⊢
  simpa [World.record, unasked] using heard

theorem ask (request : Request) (exchange : Exchange σ α) :
    Effect.Keeps (Heard skipped) (Effect.ask request (Service.noting request exchange)) := by
  intro outside heard
  unfold Heard World.requests at heard ⊢
  unfold Effect.ask Service.noting
  dsimp only
  rw [World.history_say, ← List.append_assoc, ← heard]
  simp [World.record, Event.request?]

theorem upheld (service : Service σ) (skipped : List Request) :
    Effect.Upheld service.recorded (Heard skipped) where
  recorded _ unasked _ _ heard := heard.record unasked
  refiled _ heard := heard
  parsed _ := ask _ _
  built _ := ask _ _
  made _ := ask _ _
  obtained _ _ := ask _ _

theorem kept (service : Service σ) (skipped : List Request) :
    Kept service.recorded fun state => Heard skipped state.outside where
  notice _ heard := heard.record rfl
  printed {state} value heard := by
    have shown : Heard skipped { state.outside with
      world := { state.outside.world with sink := state.outside.world.sink.print value } } := heard
    exact shown.record rfl
  settled _ _ heard := heard.record rfl
  installed _ _ _ _ heard := heard.record rfl
  admitted admitted heard := (upheld service skipped).admitted admitted heard

theorem start {service : Service σ} {limits : Limits} {source : String} {settings : Settings}
    {outside : Outside (σ × List Request)} {session : Session (σ × List Request)}
    (started : Session.start service.recorded limits source settings outside = .ok session)
    (heard : Heard skipped outside) : Heard skipped session.state.outside := by
  obtain ⟨compiler, blob, prepared, loaded, ready, found, machine, _⟩ := Session.start_ok started
  obtain ⟨module, middle, _, _, _, ran, _, _, rfl⟩ := Skeleton.load_ok found
  have before : Heard skipped prepared := by
    have kept :=
      (upheld service skipped).prepare source (settings.dump.map DumpDir.mk) outside heard
    rw [ready] at kept
    exact kept
  have follows := (Course.discipline service.recorded).instantiate
    (Session.call_follows service.recorded limits) module
    (module.imports.map fun _ => .func triggerAddr)
    ⟨dispatchStore, HostState.fresh prepared compiler (settings.dump.map DumpDir.mk)⟩
  rw [ran] at follows
  have after : Heard skipped middle.host.outside := (kept service skipped).course follows before
  unfold Session.state
  rw [machine]
  exact after.record rfl

end Heard

namespace Session

/-- A service sees one request for parsing, building and the skeleton each, and then one request
for each function of the program that some code called, in the order of the first calls. -/
theorem service_sees_first_calls {service : Service σ} {limits : Limits} {source : String}
    {settings : Settings} {state : σ} {world : World} {session : Session (σ × List Request)}
    (started : start service.recorded limits source settings ⟨(state, []), world⟩ = .ok session)
    (runs : Nat) :
    ∃ (ir : Service.Parsed) (compiler : Service.Compiler) (events : List Event)
      (asked : List FuncId),
      (service.parse source state).result = .ok ir ∧
      (service.build ir (service.parse source state).state).result = .ok compiler ∧
      (session.rerun service.recorded limits runs).state.history =
        world.history.toList ++ events ∧
      asked = firstCalls session.slotCount (events.filterMap Event.triggered?) ∧
      (session.rerun service.recorded limits runs).state.outside.service.2 =
        .parse source :: .build ir :: .skeleton compiler :: asked.map (.unit compiler) ∧
      asked.Nodup ∧ asked.length ≤ session.slotCount ∧
      ∀ i ∈ asked, ∃ raw ∈ events.filterMap Event.triggered?,
        raw.toInt = i.slot ∧ i.slot < session.slotCount := by
  obtain ⟨ir, events, parsed, built, history, requests⟩ := requests_of_rerun started runs
  refine ⟨ir, _, events, _, parsed, built, history, rfl, ?_, nodup_firstCalls _ _,
    length_firstCalls_le _ _, ?_⟩
  · have before : Heard world.requests (⟨(state, []), world⟩ : Outside (σ × List Request)) := by
      simp [Heard]
    have after : Heard world.requests _ :=
      rerun_kept (Heard.kept service world.requests) limits runs (Heard.start started before)
    have listed : (session.rerun service.recorded limits runs).state.outside.world.requests =
        world.requests ++ events.filterMap Event.request? := by
      have split := congrArg (List.filterMap Event.request?) history
      rw [List.filterMap_append] at split
      exact split
    rw [after, requests] at listed
    exact List.append_cancel_left listed
  · intro i called
    obtain ⟨raw, triggered, named⟩ := mem_firstCalls_iff.mp called
    obtain ⟨same, inside⟩ := FuncId.slot_of_ofRaw? named
    exact ⟨raw, triggered, same.symm, inside⟩

end Session

namespace Sample

/-- A skeleton with two functions, each of which takes nothing and returns an integer. The first is
the entry point. -/
def skeleton : Bytes :=
  [0, 97, 115, 109, 1, 0, 0, 0, 1, 10, 2, 96, 1, 127, 1, 127, 96, 0, 1, 127, 2, 20, 1, 3, 101,
   110, 118, 12, 99, 111, 109, 112, 105, 108, 101, 95, 102, 117, 110, 99, 0, 0, 3, 3, 2, 1, 1,
   4, 4, 1, 112, 0, 2, 7, 17, 2, 4, 109, 97, 105, 110, 0, 1, 6, 95, 116, 97, 98, 108, 101, 1, 0,
   9, 8, 1, 0, 65, 0, 11, 2, 1, 2, 10, 27, 2, 12, 0, 65, 0, 16, 0, 26, 65, 0, 17, 1, 0, 11, 12,
   0, 65, 1, 16, 0, 26, 65, 1, 17, 1, 0, 11]

/-- The unit of a function that calls the second function and returns its answer. -/
def caller : Bytes :=
  [0, 97, 115, 109, 1, 0, 0, 0, 1, 5, 1, 96, 0, 1, 127, 2, 16, 1, 3, 101, 110, 118, 6, 95, 116,
   97, 98, 108, 101, 1, 112, 0, 2, 3, 2, 1, 0, 9, 7, 1, 0, 65, 0, 11, 1, 0, 10, 9, 1, 7, 0, 65,
   1, 17, 0, 0, 11]

/-- The unit of a function like that, but with a start function that calls the second function, too. -/
def ahead : Bytes :=
  [0, 97, 115, 109, 1, 0, 0, 0, 1, 8, 2, 96, 0, 1, 127, 96, 0, 0, 2, 16, 1, 3, 101, 110, 118, 6,
   95, 116, 97, 98, 108, 101, 1, 112, 0, 2, 3, 3, 2, 0, 1, 8, 1, 1, 9, 7, 1, 0, 65, 0, 11, 1, 0,
   10, 18, 2, 7, 0, 65, 1, 17, 0, 0, 11, 8, 0, 65, 1, 17, 0, 0, 26, 11]

def seven : Bytes :=
  [0, 97, 115, 109, 1, 0, 0, 0, 1, 5, 1, 96, 0, 1, 127, 2, 16, 1, 3, 101, 110, 118, 6, 95, 116,
   97, 98, 108, 101, 1, 112, 0, 2, 3, 2, 1, 0, 9, 7, 1, 0, 65, 1, 11, 1, 0, 10, 6, 1, 4, 0, 65, 7,
   11]

def script : Script where
  irModule := .ok ⟨1⟩
  compiler _ := .ok ⟨2⟩
  skeleton := .ok skeleton
  units := [(⟨0⟩, .ok caller)]

/-- A service that has both units, where loading the first one takes the second one. -/
def nested : Script := { script with units := [(⟨0⟩, .ok ahead), (⟨1⟩, .ok seven)] }

def limits : Limits := ⟨640, fun _ => 32, fun _ => by decide, 32, 40⟩

def world : World := ⟨FileTree.empty, .kept #[], #[]⟩

end Sample

namespace Session

/-- A function whose unit was refused is not asked for again in the next run. -/
theorem sample_sees_first_calls :
    ∃ session : Session (Unit × List Request),
      start Sample.script.service.recorded Sample.limits "" Settings.default
        ⟨((), []), Sample.world⟩ = .ok session ∧
      (session.rerun Sample.script.service.recorded Sample.limits 2).state.outside.service.2 =
        [.parse "", .build ⟨1⟩, .skeleton ⟨2⟩, .unit ⟨2⟩ ⟨0⟩, .unit ⟨2⟩ ⟨1⟩] ∧
      ∃ asked : List FuncId, asked.map (Request.unit ⟨2⟩) = [.unit ⟨2⟩ ⟨0⟩, .unit ⟨2⟩ ⟨1⟩] ∧
        asked.Nodup ∧ asked.length ≤ session.slotCount := by
  have seen : ((start Sample.script.service.recorded Sample.limits "" Settings.default
      ⟨((), []), Sample.world⟩).toOption.map fun session =>
        (session.rerun Sample.script.service.recorded Sample.limits 2).state.outside.service.2) =
      some [.parse "", .build ⟨1⟩, .skeleton ⟨2⟩, .unit ⟨2⟩ ⟨0⟩, .unit ⟨2⟩ ⟨1⟩] := by
    decide +kernel
  obtain ⟨session, started, seen⟩ := exists_ok_of_seen seen
  obtain ⟨ir, compiler, events, asked, _, _, _, _, listed, distinct, few, _⟩ :=
    service_sees_first_calls started 2
  have same := listed.symm.trans seen
  obtain ⟨_, rest⟩ := List.cons.inj same
  obtain ⟨_, rest⟩ := List.cons.inj rest
  obtain ⟨skeleton, units⟩ := List.cons.inj rest
  obtain rfl := Request.skeleton.inj skeleton
  exact ⟨session, started, seen, asked, units, distinct, few⟩

end Session

end FirstCall
