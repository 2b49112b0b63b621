import FirstCall.Proofs.Life

/-!
# Ways of set-up

Set-up is a row of steps, and each of them can be the last. This module lists the ways in which
the preparation, the loading of the skeleton and set-up as a whole can go, with what each of them
leaves behind. Laws of set-up are then read off case by case.
-/

namespace FirstCall

open Wasm

variable {σ α : Type}

/-- The service answers the three requests of set-up. -/
structure Service.Answers (service : Service σ) (source : String) (state : σ)
    (ir : Service.Parsed) (compiler : Service.Compiler) (blob : Bytes) : Prop where
  parse : (service.parse source state).result = .ok ir
  build : (service.build ir (service.parse source state).state).result = .ok compiler
  skeleton : (service.skeleton compiler
    (service.build ir (service.parse source state).state).state).result = .ok blob

namespace Session

section Preparation

variable (service : Service σ) (source : String) (outside : Outside σ)

/-- What is outside once the service has replied to the source text. -/
def parsed : Outside σ := outside.hear (.parse source) (service.parse source outside.service)

/-- What is outside once the service has replied to the parsed program. -/
def built (ir : Service.Parsed) : Outside σ :=
  (parsed service source outside).hear (.build ir)
    (service.build ir (parsed service source outside).service)

/-- What is outside once the service has replied to the request for the skeleton. -/
def made (ir : Service.Parsed) (compiler : Service.Compiler) : Outside σ :=
  (built service source outside ir).hear (.skeleton compiler)
    (service.skeleton compiler (built service source outside ir).service)

/-- What is outside once the skeleton is at hand, and was not yet dumped. -/
def arrived (ir : Service.Parsed) (compiler : Service.Compiler) (blob : Bytes) : Outside σ :=
  ((made service source outside ir compiler).record (.received (.skeleton compiler) blob)).record
    (.notice (.skeletonCompiled blob.length))

/-- How the preparation of a session can end, and what is then outside. -/
inductive Prepared (dump : Option DumpDir) :
    Except Fault (Service.Compiler × Bytes) → Outside σ → Prop where
  | unparsed {fault : Service.Fault}
      (refused : (service.parse source outside.service).result = .error fault) :
      Prepared dump (.error (.service fault)) (parsed service source outside)
  | unbuilt {ir : Service.Parsed} {fault : Service.Fault}
      (parse : (service.parse source outside.service).result = .ok ir)
      (refused : (service.build ir (service.parse source outside.service).state).result =
        .error fault) :
      Prepared dump (.error (.service fault)) (built service source outside ir)
  | unmade {ir : Service.Parsed} {compiler : Service.Compiler} {fault : Service.Fault}
      (parse : (service.parse source outside.service).result = .ok ir)
      (build : (service.build ir (service.parse source outside.service).state).result =
        .ok compiler)
      (refused : (service.skeleton compiler
        (service.build ir (service.parse source outside.service).state).state).result =
          .error fault) :
      Prepared dump (.error (.service fault)) (made service source outside ir compiler)
  | undumped {ir : Service.Parsed} {compiler : Service.Compiler} {blob : Bytes} {dir : DumpDir}
      {cause : FileFault} (answers : service.Answers source outside.service ir compiler blob)
      (dumping : dump = some dir)
      (refused : outside.world.files.write dir.pathOfSkeleton blob = .error cause) :
      Prepared dump (.error (.unwritable dir.pathOfSkeleton cause))
        (arrived service source outside ir compiler blob)
  | dumped {ir : Service.Parsed} {compiler : Service.Compiler} {blob : Bytes} {dir : DumpDir}
      {files : FileTree} (answers : service.Answers source outside.service ir compiler blob)
      (dumping : dump = some dir)
      (written : outside.world.files.write dir.pathOfSkeleton blob = .ok files) :
      Prepared dump (.ok (compiler, blob))
        ((arrived service source outside ir compiler blob).wrote dir.pathOfSkeleton blob files)
  | kept {ir : Service.Parsed} {compiler : Service.Compiler} {blob : Bytes}
      (answers : service.Answers source outside.service ir compiler blob)
      (undumped : dump = none) :
      Prepared dump (.ok (compiler, blob)) (arrived service source outside ir compiler blob)

theorem parsed_talks :
    ∃ events, outside.Talks (parsed service source outside) [.parse source] events :=
  ⟨_, .hear _ _ _⟩

theorem built_talks (ir : Service.Parsed) :
    ∃ events, outside.Talks (built service source outside ir) [.parse source, .build ir] events := by
  obtain ⟨_, before⟩ := parsed_talks service source outside
  exact ⟨_, before.trans (.hear _ (.build ir) _)⟩

theorem made_talks (ir : Service.Parsed) (compiler : Service.Compiler) :
    ∃ events, outside.Talks (made service source outside ir compiler)
      [.parse source, .build ir, .skeleton compiler] events := by
  obtain ⟨_, before⟩ := built_talks service source outside ir
  exact ⟨_, before.trans (.hear _ (.skeleton compiler) _)⟩

theorem history_arrived (ir : Service.Parsed) (compiler : Service.Compiler) (blob : Bytes) :
    (arrived service source outside ir compiler blob).world.history.toList =
      (made service source outside ir compiler).world.history.toList ++
        [Event.received (.skeleton compiler) blob, .notice (.skeletonCompiled blob.length)] := by
  unfold arrived
  rw [Outside.history_record, Outside.history_record, List.append_assoc]
  rfl

@[simp] theorem files_arrived (ir : Service.Parsed) (compiler : Service.Compiler) (blob : Bytes) :
    (arrived service source outside ir compiler blob).world.files = outside.world.files := by
  simp [arrived, made, built, parsed]

theorem prepare_prepared (dump : Option DumpDir) :
    Prepared service source outside dump (prepare service source dump outside).1
      (prepare service source dump outside).2 := by
  unfold prepare
  rw [Effect.bind_apply, Effect.ask_apply]
  cases parse : (service.parse source outside.service).result with
  | error fault => exact .unparsed parse
  | ok ir =>
    dsimp only [Except.mapError]
    rw [Effect.bind_apply, Effect.ask_apply, Outside.service_hear]
    cases build : (service.build ir (service.parse source outside.service).state).result with
    | error fault => exact .unbuilt parse build
    | ok compiler =>
      dsimp only [Except.mapError]
      rw [Effect.bind_apply, Effect.fetch_apply, Outside.service_hear]
      cases skeleton : (service.skeleton compiler
          (service.build ir (service.parse source outside.service).state).state).result with
      | error fault => exact .unmade parse build skeleton
      | ok blob =>
        have answers : service.Answers source outside.service ir compiler blob :=
          ⟨parse, build, skeleton⟩
        dsimp only
        rw [Effect.bind_apply]
        change Prepared service source outside dump
          ((Effect.dumpSkeleton dump blob >>= fun _ => pure (compiler, blob))
            (arrived service source outside ir compiler blob)).1
          ((Effect.dumpSkeleton dump blob >>= fun _ => pure (compiler, blob))
            (arrived service source outside ir compiler blob)).2
        rw [Effect.bind_apply]
        cases dump with
        | none => exact .kept answers rfl
        | some dir =>
          unfold Effect.dumpSkeleton
          dsimp only
          rw [Effect.writeBlob_apply, files_arrived]
          cases written : outside.world.files.write dir.pathOfSkeleton blob with
          | error cause => exact .undumped answers rfl written
          | ok files => exact .dumped answers rfl written

end Preparation

theorem Prepared.prepare_eq {service : Service σ} {source : String} {outside after : Outside σ}
    {dump : Option DumpDir} {result : Except Fault (Service.Compiler × Bytes)}
    (prepared : Prepared service source outside dump result after) :
    prepare service source dump outside = (result, after) := by
  have answered : ∀ {ir : Service.Parsed} {compiler : Service.Compiler} {blob : Bytes},
      service.Answers source outside.service ir compiler blob →
      prepare service source dump outside =
        (Effect.dumpSkeleton dump blob >>= fun _ => pure (compiler, blob))
          (arrived service source outside ir compiler blob) := by
    intro ir compiler blob answers
    unfold prepare
    rw [Effect.bind_apply, Effect.ask_apply, answers.parse]
    dsimp only [Except.mapError]
    rw [Effect.bind_apply, Effect.ask_apply, Outside.service_hear, answers.build]
    dsimp only [Except.mapError]
    rw [Effect.bind_apply, Effect.fetch_apply, Outside.service_hear, answers.skeleton]
    rfl
  cases prepared with
  | unparsed refused =>
    unfold prepare
    rw [Effect.bind_apply, Effect.ask_apply, refused]
    rfl
  | unbuilt parse refused =>
    unfold prepare
    rw [Effect.bind_apply, Effect.ask_apply, parse]
    dsimp only [Except.mapError]
    rw [Effect.bind_apply, Effect.ask_apply, Outside.service_hear, refused]
    rfl
  | unmade parse build refused =>
    unfold prepare
    rw [Effect.bind_apply, Effect.ask_apply, parse]
    dsimp only [Except.mapError]
    rw [Effect.bind_apply, Effect.ask_apply, Outside.service_hear, build]
    dsimp only [Except.mapError]
    rw [Effect.bind_apply, Effect.fetch_apply, Outside.service_hear, refused]
    rfl
  | undumped answers dumping refused =>
    obtain rfl := dumping
    rw [answered answers, Effect.bind_apply]
    dsimp only [Effect.dumpSkeleton]
    rw [Effect.writeBlob_apply, files_arrived, refused]
  | dumped answers dumping written =>
    obtain rfl := dumping
    rw [answered answers, Effect.bind_apply]
    dsimp only [Effect.dumpSkeleton]
    rw [Effect.writeBlob_apply, files_arrived, written]
    rfl
  | kept answers undumped =>
    obtain rfl := undumped
    rw [answered answers]
    rfl

end Session

/-- How the loading of the skeleton can end, and on which machine. -/
inductive Skeleton.Loading (run : Invoker HostFunc (HostState σ) Session.Fault) (blob : Bytes)
    (m : DispatchMachine σ) :
    Except (Stop Session.Fault) Skeleton → DispatchMachine σ → Prop where
  | malformed {defect : Defect} (decoded : Module.ofBlob blob = .error defect) :
      Loading run blob m (.error (.failed (.unloadable skeletonName (.defect defect)))) m
  | unlinkable {module : Module} (decoded : Module.ofBlob blob = .ok module)
      (unfit : ¬ (module.imports.all isTrigger = true ∧
        m.store.links module (module.imports.map fun _ => .func triggerAddr) = true)) :
      Loading run blob m (.error (.failed (.unloadable skeletonName .unlinkable))) m
  | stopped {module : Module} {why : Stop Session.Fault} {after : DispatchMachine σ}
      (decoded : Module.ofBlob blob = .ok module)
      (triggers : module.imports.all isTrigger = true)
      (links : m.store.links module (module.imports.map fun _ => .func triggerAddr) = true)
      (ran : instantiate run module (module.imports.map fun _ => .func triggerAddr) m =
        (.error why, after)) :
      Loading run blob m (.error (Dispatch.loadStop skeletonName why)) after
  | tableless {module : Module} {inst : Instance} {after : DispatchMachine σ}
      (decoded : Module.ofBlob blob = .ok module)
      (triggers : module.imports.all isTrigger = true)
      (links : m.store.links module (module.imports.map fun _ => .func triggerAddr) = true)
      (ran : instantiate run module (module.imports.map fun _ => .func triggerAddr) m =
        (.ok inst, after))
      (hidden : inst.exportedTable? tableName = none) :
      Loading run blob m (.error (.failed (.missingExport skeletonName tableName))) after
  | loaded {module : Module} {inst : Instance} {after : DispatchMachine σ} {addr count : Nat}
      (decoded : Module.ofBlob blob = .ok module)
      (triggers : module.imports.all isTrigger = true)
      (links : m.store.links module (module.imports.map fun _ => .func triggerAddr) = true)
      (ran : instantiate run module (module.imports.map fun _ => .func triggerAddr) m =
        (.ok inst, after))
      (shared : inst.exportedTable? tableName = some addr)
      (counted : count = ((after.store.tables[addr]?).map Table.size).getD 0) :
      Loading run blob m (.ok ⟨inst, addr, count⟩)
        { after with host := after.host.record (.notice (.skeletonLoaded count blob.length)) }

theorem Skeleton.load_loading (run : Invoker HostFunc (HostState σ) Session.Fault) (blob : Bytes)
    (m : DispatchMachine σ) :
    Loading run blob m (load run blob m).1 (load run blob m).2 := by
  unfold load
  cases decoded : Module.ofBlob blob with
  | error defect => exact .malformed decoded
  | ok module =>
    dsimp only
    rw [Action.bind_apply]
    dsimp only [Action.store]
    split
    · next offered =>
      obtain ⟨triggers, links⟩ := Bool.and_eq_true_iff.mp offered
      rw [Action.bind_apply]
      dsimp only [Action.mapStop]
      cases ran : instantiate run module (module.imports.map fun _ => .func triggerAddr) m with
      | mk result after =>
        cases result with
        | error why => exact .stopped decoded triggers links ran
        | ok inst =>
          dsimp only
          cases shared : inst.exportedTable? tableName with
          | none => exact .tableless decoded triggers links ran shared
          | some addr => exact .loaded decoded triggers links ran shared rfl
    · next refused =>
      exact .unlinkable decoded fun offered => refused (Bool.and_eq_true_iff.mpr offered)

namespace Session

/-- How set-up can end: the preparation fails, the skeleton does not load, or there is a session. -/
inductive Started (service : Service σ) (limits : Limits) (source : String) (settings : Settings)
    (outside : Outside σ) : Except (Fault × Outside σ) (Session σ) → Prop where
  | unprepared {fault : Fault} {after : Outside σ}
      (prepared : Prepared service source outside (settings.dump.map DumpDir.mk)
        (.error fault) after) :
      Started service limits source settings outside (.error (fault, after))
  | unloaded {compiler : Service.Compiler} {blob : Bytes} {after : Outside σ}
      {why : Stop Fault} {m : DispatchMachine σ}
      (prepared : Prepared service source outside (settings.dump.map DumpDir.mk)
        (.ok (compiler, blob)) after)
      (loading : Skeleton.Loading (call service limits) blob
        ⟨dispatchStore, HostState.fresh after compiler (settings.dump.map DumpDir.mk)⟩
          (.error why) m) :
      Started service limits source settings outside (.error (startFault why, m.host.outside))
  | ready {compiler : Service.Compiler} {blob : Bytes} {after : Outside σ} {skeleton : Skeleton}
      {m : DispatchMachine σ}
      (prepared : Prepared service source outside (settings.dump.map DumpDir.mk)
        (.ok (compiler, blob)) after)
      (loading : Skeleton.Loading (call service limits) blob
        ⟨dispatchStore, HostState.fresh after compiler (settings.dump.map DumpDir.mk)⟩
          (.ok skeleton) m) :
      Started service limits source settings outside
        (.ok ⟨{ m with host := { m.host with
          shared := some skeleton.table
          ledger := Ledger.ofSize skeleton.slotCount } }, skeleton, settings.entry⟩)

theorem start_of_unprepared {service : Service σ} {limits : Limits} {source : String}
    {settings : Settings} {outside after : Outside σ} {fault : Fault}
    (prepared : Prepared service source outside (settings.dump.map DumpDir.mk) (.error fault)
      after) :
    start service limits source settings outside = .error (fault, after) := by
  unfold start
  dsimp only
  rw [prepared.prepare_eq]

/-- Set-up goes one of these ways. -/
theorem start_started (service : Service σ) (limits : Limits) (source : String)
    (settings : Settings) (outside : Outside σ) :
    Started service limits source settings outside
      (start service limits source settings outside) := by
  unfold start
  dsimp only
  have prepared := prepare_prepared service source outside (settings.dump.map DumpDir.mk)
  cases ready : prepare service source (settings.dump.map DumpDir.mk) outside with
  | mk result after =>
    rw [ready] at prepared
    cases result with
    | error fault => exact .unprepared prepared
    | ok found =>
      obtain ⟨compiler, blob⟩ := found
      dsimp only
      have loading := Skeleton.load_loading (call service limits) blob
        ⟨dispatchStore, HostState.fresh after compiler (settings.dump.map DumpDir.mk)⟩
      cases ran : Skeleton.load (call service limits) blob
          ⟨dispatchStore, HostState.fresh after compiler (settings.dump.map DumpDir.mk)⟩ with
      | mk result m =>
        rw [ran] at loading
        cases result with
        | error why => exact .unloaded prepared loading
        | ok skeleton => exact .ready prepared loading

end Session

theorem Trigger.Admission.host_of_unready {service : Service σ} {raw : Int32}
    {state after : HostState σ} {answer : Except Session.Fault (Option (FuncId × Bytes))}
    (admitted : Trigger.Admission service raw state answer after)
    (unready : state.shared = none) : after = state.enter raw := by
  cases admitted with
  | tooEarly unready => rfl
  | outOfRange ready refused => rfl
  | present ready located installed => simp [unready] at ready
  | reentered ready located notInstalled refused => rfl
  | requested ready located reserved obtained => simp [unready] at ready

/-- Before the trigger is open, code changes nothing but the output and the history. It prints, and
if it calls the trigger, it ends with that. -/
theorem Course.early {service : Service σ} {first last : HostState σ}
    {ended : Ending Session.Fault} (course : Course service first ended last)
    (unready : first.shared = none) :
    ∃ (world : World) (values : List Int32), last = first.updateWorld (fun _ => world) ∧
      world.files = first.outside.world.files ∧
      ((∀ fault, ended ≠ .error (.failed fault)) ∧
          world.history.toList = first.history ++ values.map .printed ∨
        ended = .error (.failed .tooEarly) ∧ ∃ raw, world.history.toList =
          first.history ++ values.map .printed ++
            [Event.triggered raw first.ledger, .settled raw (.error .tooEarly)]) := by
  induction course with
  | quiet state =>
    refine ⟨state.outside.world, [], rfl, rfl, .inl ⟨fun fault same => ?_, ?_⟩⟩
    · cases same
    · simp [HostState.history]
  | @halted state why own =>
    refine ⟨state.outside.world, [], rfl, rfl, .inl ⟨?_, by simp [HostState.history]⟩⟩
    rintro fault ⟨rfl⟩
    cases own
  | trans head tail ihHead ihTail =>
    obtain ⟨world, values, rfl, files, ⟨_, history⟩ | ⟨failed, _⟩⟩ := ihHead unready
    · obtain ⟨next, more, rfl, moreFiles, ends⟩ := ihTail unready
      refine ⟨next, values ++ more, rfl, moreFiles.trans files, ?_⟩
      change _ ∧ next.history.toList = world.history.toList ++ _ ∨ _ ∧ ∃ raw,
        next.history.toList = world.history.toList ++ _ ++ _ at ends
      rw [history] at ends
      rw [List.map_append, ← List.append_assoc]
      exact ends
    · cases failed
  | printed state value =>
    refine ⟨_, [value], rfl, rfl, .inl ⟨fun fault same => ?_, ?_⟩⟩
    · cases same
    · simp [World.print, World.record, HostState.history]
  | @refused state after raw fault admitted =>
    obtain rfl := Except.error.inj (admitted.answer_of_unready unready)
    obtain rfl := admitted.host_of_unready unready
    refine ⟨_, [], rfl, rfl, .inr ⟨rfl, raw, ?_⟩⟩
    change ((state.enter raw).record (.settled raw (.error .tooEarly))).history = _
    simp
  | present admitted => cases admitted.answer_of_unready unready
  | turnedAway admitted turns => cases admitted.answer_of_unready unready
  | broken admitted loading ih => cases admitted.answer_of_unready unready
  | installed admitted loading recorded ih => cases admitted.answer_of_unready unready
  | unrecorded admitted loading refused ih => cases admitted.answer_of_unready unready

/-- The loading of the skeleton follows a course, and is then noted if it came to its end. -/
theorem Skeleton.Loading.course {service : Service σ} {limits : Limits} {blob : Bytes}
    {m after : DispatchMachine σ} {result : Except (Stop Session.Fault) Skeleton}
    (loading : Skeleton.Loading (Session.call service limits) blob m result after) :
    ∃ ended last, Course service m.host ended last ∧
      ((∃ why, result = .error why) ∧ after.host = last ∨
        ∃ skeleton, result = .ok skeleton ∧ ended = .ok () ∧ after.host =
          last.record (.notice (.skeletonLoaded skeleton.slotCount blob.length))) := by
  have follows := (Course.discipline service).instantiate (Session.call_follows service limits)
  cases loading with
  | malformed decoded => exact ⟨_, _, .quiet m.host, .inl ⟨⟨_, rfl⟩, rfl⟩⟩
  | unlinkable decoded unfit => exact ⟨_, _, .quiet m.host, .inl ⟨⟨_, rfl⟩, rfl⟩⟩
  | @stopped module _ _ decoded triggers links ran =>
    have went := follows module (module.imports.map fun _ => .func triggerAddr) m
    rw [ran] at went
    exact ⟨_, _, went, .inl ⟨⟨_, rfl⟩, rfl⟩⟩
  | @tableless module _ _ decoded triggers links ran hidden =>
    have went := follows module (module.imports.map fun _ => .func triggerAddr) m
    rw [ran] at went
    exact ⟨_, _, went, .inl ⟨⟨_, rfl⟩, rfl⟩⟩
  | @loaded module _ _ _ _ decoded triggers links ran shared counted =>
    have went := follows module (module.imports.map fun _ => .func triggerAddr) m
    rw [ran] at went
    exact ⟨_, _, went, .inr ⟨_, rfl, rfl, rfl⟩⟩

/-- An event of the time before the trigger is open: nothing is asked, received or written. -/
def Event.IsEarly (event : Event) : Prop :=
  event.request? = none ∧ event.received? = none ∧ event.wrote? = none

theorem Skeleton.Loading.early {service : Service σ} {limits : Limits} {blob : Bytes}
    {outside : Outside σ} {compiler : Service.Compiler} {dump : Option DumpDir}
    {after : DispatchMachine σ} {result : Except (Stop Session.Fault) Skeleton}
    (loading : Skeleton.Loading (Session.call service limits) blob
      ⟨dispatchStore, HostState.fresh outside compiler dump⟩ result after) :
    ∃ (world : World) (events : List Event),
      after.host = HostState.fresh { outside with world } compiler dump ∧
      world.files = outside.world.files ∧
      world.history.toList = outside.world.history.toList ++ events ∧
      ∀ event ∈ events, event.IsEarly := by
  obtain ⟨ended, last, course, ends⟩ := loading.course
  obtain ⟨world, values, rfl, files, history⟩ := course.early rfl
  obtain ⟨events, grown, early⟩ : ∃ events : List Event,
      world.history.toList = outside.world.history.toList ++ events ∧
        ∀ event ∈ events, event.IsEarly := by
    obtain ⟨_, history⟩ | ⟨_, raw, history⟩ := history
    · refine ⟨_, history, ?_⟩
      simp [Event.IsEarly, Event.request?, Event.received?, Event.wrote?]
    · refine ⟨_, history.trans (List.append_assoc _ _ _), ?_⟩
      simp [Event.IsEarly, Event.request?, Event.received?, Event.wrote?, or_imp, forall_and]
  obtain ⟨_, same⟩ | ⟨skeleton, _, _, same⟩ := ends
  · exact ⟨world, events, same, files, grown, early⟩
  · refine ⟨world.record (.notice (.skeletonLoaded skeleton.slotCount blob.length)),
      events ++ [Event.notice (.skeletonLoaded skeleton.slotCount blob.length)], same, files,
      ?_, ?_⟩
    · simp [World.record, grown]
    · intro event member
      rcases List.mem_append.mp member with before | last
      · exact early event before
      · obtain rfl := List.mem_singleton.mp last
        exact ⟨rfl, rfl, rfl⟩

/-- What is outside once set-up has ended, with a session or without. -/
def Session.afterStart : Except (Session.Fault × Outside σ) (Session σ) → Outside σ
  | .ok session => session.state.outside
  | .error (_, outside) => outside

end FirstCall
