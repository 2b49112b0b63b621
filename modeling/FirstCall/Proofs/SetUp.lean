import FirstCall.Proofs.Preparation

/-!
# Set-up

A session that is set up has asked the service for three things, in a fixed order, and its
skeleton was loaded without a single call of the compile trigger: every such call ends set-up.
-/

namespace FirstCall

open Wasm

variable {σ α : Type}

theorem ok_of_toOption {ε β : Type} {answer : Except ε β} {value : β}
    (seen : answer.toOption = some value) : answer = .ok value := by
  cases answer with
  | error fault => cases seen
  | ok other => rw [Option.some.inj seen]

theorem exists_ok_of_seen {ε β γ : Type} {answer : Except ε β} {look : β → γ} {found : γ}
    (seen : answer.toOption.map look = some found) :
    ∃ value, answer = .ok value ∧ look value = found := by
  obtain ⟨value, answered, same⟩ := Option.map_eq_some_iff.mp seen
  exact ⟨value, ok_of_toOption answered, same⟩

/-- As long as the trigger is not open, code that gets to its end has not called it: all that it
can have done is to print. -/
theorem Course.untriggered {service : Service σ} {first last : HostState σ}
    {ended : Ending Session.Fault} (course : Course service first ended last)
    (unready : first.shared = none) (reached : ended = .ok ()) :
    ∃ values : List Int32, last.history = first.history ++ values.map .printed := by
  induction course with
  | quiet state => exact ⟨[], by simp⟩
  | halted state own => cases reached
  | trans head tail ihHead ihTail =>
    obtain ⟨before, grown⟩ := ihHead unready rfl
    obtain ⟨after, more⟩ := ihTail (head.grows.shared.trans unready) reached
    exact ⟨before ++ after, by simp [more, grown]⟩
  | printed state value => exact ⟨[value], by simp⟩
  | refused admitted => cases reached
  | present admitted => cases admitted.answer_of_unready unready
  | turnedAway admitted turns => cases reached
  | broken admitted loading ih => cases reached
  | installed admitted loading recorded ih => cases admitted.answer_of_unready unready
  | unrecorded admitted loading refused ih => cases reached

namespace Session

theorem prepare_ok {service : Service σ} {source : String} {dump : Option DumpDir}
    {outside after : Outside σ} {compiler : Service.Compiler} {blob : Bytes}
    (prepared : prepare service source dump outside = (.ok (compiler, blob), after)) :
    ∃ (ir : Service.Parsed) (events : List Event),
      (service.parse source outside.service).result = .ok ir ∧
      (service.build ir (service.parse source outside.service).state).result = .ok compiler ∧
      after.world.history.toList = outside.world.history.toList ++ events ∧
      events.filterMap Event.request? = [.parse source, .build ir, .skeleton compiler] ∧
      events.filterMap Event.received? = [(.skeleton compiler, blob)] ∧
      ∀ event ∈ events, event.triggered? = none := by
  have spoken := prepare_prepared service source outside dump
  rw [prepared] at spoken
  have arrives : ∀ {ir}, service.Answers source outside.service ir compiler blob →
      ∃ events : List Event,
        (arrived service source outside ir compiler blob).world.history.toList =
          outside.world.history.toList ++ events ∧
        events.filterMap Event.request? = [.parse source, .build ir, .skeleton compiler] ∧
        events.filterMap Event.received? = [(.skeleton compiler, blob)] ∧
        ∀ event ∈ events, event.triggered? = none := by
    intro ir answers
    obtain ⟨events, talks⟩ := made_talks service source outside ir compiler
    refine ⟨events ++ [Event.received (.skeleton compiler) blob,
      .notice (.skeletonCompiled blob.length)], ?_, ?_, ?_, ?_⟩
    · rw [history_arrived, talks.history, List.append_assoc]
    · rw [List.filterMap_append, talks.asked]
      rfl
    · rw [List.filterMap_append, talks.unreceived]
      rfl
    · simpa [or_imp, forall_and, Event.triggered?] using talks.untriggered
  cases spoken with
  | kept answers undumped =>
    obtain ⟨events, history, asked, received, untriggered⟩ := arrives answers
    exact ⟨_, events, answers.parse, answers.build, history, asked, received, untriggered⟩
  | @dumped ir _ _ dir files answers dumping written =>
    obtain ⟨events, history, asked, received, untriggered⟩ := arrives answers
    refine ⟨ir, events ++ [Event.wrote dir.pathOfSkeleton blob,
      .notice (.dumped blob.length dir.pathOfSkeleton)], answers.parse, answers.build, ?_, ?_, ?_,
      ?_⟩
    · refine (Outside.history_wrote _ _ _ _).trans ?_
      rw [history, List.append_assoc]
    · rw [List.filterMap_append, asked]
      rfl
    · rw [List.filterMap_append, received]
      rfl
    · simpa [or_imp, forall_and, Event.triggered?] using untriggered

end Session

/-- A skeleton that was loaded was instantiated, with the trigger for every import. -/
theorem Skeleton.load_ok {run : Invoker HostFunc (HostState σ) Session.Fault} {blob : Bytes}
    {m after : DispatchMachine σ} {skeleton : Skeleton}
    (loaded : load run blob m = (.ok skeleton, after)) :
    ∃ (module : Module) (middle : DispatchMachine σ),
      Module.ofBlob blob = .ok module ∧ module.imports.all isTrigger = true ∧
      m.store.links module (module.imports.map fun _ => .func triggerAddr) = true ∧
      instantiate run module (module.imports.map fun _ => .func triggerAddr) m =
        (.ok skeleton.inst, middle) ∧
      skeleton.inst.exportedTable? tableName = some skeleton.table ∧
      skeleton.slotCount = ((middle.store.tables[skeleton.table]?).map Table.size).getD 0 ∧
      after = { middle with
        host := middle.host.record (.notice (.skeletonLoaded skeleton.slotCount blob.length)) } := by
  have loading := load_loading run blob m
  rw [loaded] at loading
  cases loading with
  | loaded decoded triggers links ran shared counted =>
    exact ⟨_, _, decoded, triggers, links, ran, shared, counted, rfl⟩

namespace Session

/-- A session that was set up is what its preparation and its skeleton make of it. -/
theorem start_ok {service : Service σ} {limits : Limits} {source : String} {settings : Settings}
    {outside : Outside σ} {session : Session σ}
    (started : start service limits source settings outside = .ok session) :
    ∃ (compiler : Service.Compiler) (blob : Bytes) (prepared : Outside σ)
      (loaded : DispatchMachine σ),
      prepare service source (settings.dump.map DumpDir.mk) outside =
        (.ok (compiler, blob), prepared) ∧
      Skeleton.load (call service limits) blob
          ⟨dispatchStore, HostState.fresh prepared compiler (settings.dump.map DumpDir.mk)⟩ =
        (.ok session.skeleton, loaded) ∧
      session.machine = { loaded with host := { loaded.host with
        shared := some session.skeleton.table
        ledger := Ledger.ofSize session.slotCount } } ∧
      session.entry = settings.entry := by
  unfold start at started
  dsimp only at started
  split at started
  · cases started
  · next compiler blob prepared ready =>
    split at started
    · cases started
    · next skeleton loaded found =>
      cases started
      exact ⟨compiler, blob, prepared, loaded, ready, found, rfl, rfl⟩

theorem start_state {service : Service σ} {limits : Limits} {source : String}
    {settings : Settings} {outside : Outside σ} {session : Session σ}
    (started : start service limits source settings outside = .ok session) :
    session.state.shared = some session.skeleton.table ∧
      session.state.ledger = Ledger.ofSize session.slotCount := by
  obtain ⟨_, _, _, _, _, _, machine, _⟩ := start_ok started
  unfold state
  rw [machine]
  exact ⟨rfl, rfl⟩

theorem start_println {service : Service σ} {limits : Limits} {source : String}
    {settings : Settings} {outside : Outside σ} {session : Session σ}
    (started : start service limits source settings outside = .ok session) :
    session.state.println = some printlnAddr := by
  obtain ⟨compiler, _, prepared, _, _, found, machine, _⟩ := start_ok started
  obtain ⟨module, middle, _, _, _, ran, _, _, rfl⟩ := Skeleton.load_ok found
  have follows := (Course.discipline service).instantiate (call_follows service limits) module
    (module.imports.map fun _ => .func triggerAddr)
    ⟨dispatchStore, HostState.fresh prepared compiler (settings.dump.map DumpDir.mk)⟩
  rw [ran] at follows
  unfold state
  rw [machine]
  exact (Course.grows follows).println

theorem rerun_println {service : Service σ} {limits : Limits} {source : String}
    {settings : Settings} {outside : Outside σ} {session : Session σ}
    (started : start service limits source settings outside = .ok session) (runs : Nat) :
    (session.rerun service limits runs).state.println = some printlnAddr :=
  (rerun_grows service limits runs session).println.trans (start_println started)

theorem start_history {service : Service σ} {limits : Limits} {source : String}
    {settings : Settings} {outside : Outside σ} {session : Session σ}
    (started : start service limits source settings outside = .ok session) :
    ∃ (ir : Service.Parsed) (blob : Bytes) (events : List Event),
      (service.parse source outside.service).result = .ok ir ∧
      (service.build ir (service.parse source outside.service).state).result =
        .ok session.state.compiler ∧
      session.state.history = outside.world.history.toList ++ events ∧
      events.filterMap Event.request? =
        [.parse source, .build ir, .skeleton session.state.compiler] ∧
      events.filterMap Event.received? = [(.skeleton session.state.compiler, blob)] ∧
      ∀ event ∈ events, event.triggered? = none := by
  obtain ⟨compiler, blob, prepared, loaded, ready, found, machine, _⟩ := start_ok started
  obtain ⟨ir, events, parsed, built, grown, asked, received, untriggered⟩ := prepare_ok ready
  obtain ⟨module, middle, _, _, _, ran, _, _, rfl⟩ := Skeleton.load_ok found
  have follows := (Course.discipline service).instantiate (call_follows service limits) module
    (module.imports.map fun _ => .func triggerAddr)
    ⟨dispatchStore, HostState.fresh prepared compiler (settings.dump.map DumpDir.mk)⟩
  rw [ran] at follows
  obtain ⟨values, printed⟩ := Course.untriggered follows rfl rfl
  have sameCompiler : session.state.compiler = compiler := by
    unfold state
    rw [machine]
    exact Course.grows follows |>.compiler
  have sameHistory : session.state.history = outside.world.history.toList ++ (events ++
      (values.map .printed ++ [Event.notice (.skeletonLoaded session.slotCount blob.length)])) := by
    have notice := HostState.history_record middle.host
      (.notice (.skeletonLoaded session.slotCount blob.length))
    have before : middle.host.history =
        outside.world.history.toList ++ events ++ values.map .printed := by
      rw [← grown]
      exact printed
    unfold state
    rw [machine]
    exact notice.trans (by simp [before])
  rw [sameCompiler]
  refine ⟨ir, blob, _, parsed, built, sameHistory, ?_, ?_, ?_⟩
  · simp [asked, Event.request?]
  · simp [received, Event.received?]
  · intro event inside
    simp only [List.mem_append, List.mem_map, List.mem_singleton] at inside
    rcases inside with inside | ⟨_, _, rfl⟩ | rfl
    · exact untriggered event inside
    · rfl
    · rfl

end Session

end FirstCall
