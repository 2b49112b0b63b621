import FirstCall.Proofs.Bookkeeping
import FirstCall.Proofs.Placement
import FirstCall.Proofs.Silence

/-!
# Success and failure of set-up

Set-up asks the service for three things, one after the other, and then loads the skeleton. This
module says when it succeeds, in terms of the answers and of the skeleton alone, and what it can
have done when it ends.
-/

namespace FirstCall

open Wasm

variable {σ : Type}

namespace Skeleton

variable {service : Service σ} {limits : Limits} {blob : Bytes} {module : Module}
  {host : HostState σ}

theorem isTrigger_iff {wanted : Import} :
    isTrigger wanted = true ↔ wanted.module = "env" ∧ wanted.name = "compile_func" := by
  unfold isTrigger importModule triggerImport
  simp

theorem links_iff :
    dispatchStore.links module (triggers module) = true ↔ ∀ wanted ∈ module.imports,
      ∃ index : Nat, wanted.type = .func index ∧ module.types[index]? = some ⟨[.i32], [.i32]⟩ := by
  have paired : module.imports.zip (triggers module) =
      module.imports.map fun wanted => (wanted, .func triggerAddr) := by
    have both := List.zip_map' (l := module.imports) (f := id)
      (g := fun _ => Extern.func triggerAddr)
    rw [List.map_id] at both
    exact both
  have fits : ∀ wanted : Import,
      dispatchStore.fits module.types wanted.type (.func triggerAddr) = true ↔
        ∃ index : Nat, wanted.type = .func index ∧
          module.types[index]? = some ⟨[.i32], [.i32]⟩ := by
    intro wanted
    have trigger : dispatchStore.funcs[triggerAddr]? =
      some ⟨⟨[.i32], [.i32]⟩, .host .compileTrigger⟩ := rfl
    unfold Store.fits
    cases wanted.type with
    | func index =>
      dsimp only
      rw [trigger]
      cases found : module.types[index]? with
      | none => simp [found]
      | some type =>
        constructor
        · intro same
          obtain rfl := eq_of_beq same
          exact ⟨index, rfl, found⟩
        · rintro ⟨_, ⟨rfl⟩, same⟩
          obtain rfl := Option.some.inj (found.symm.trans same)
          rfl
    | _ => simp
  unfold Store.links
  rw [paired]
  simp [triggers, fits]

/-- What a skeleton has to be for a session to start with it. -/
structure Loadable (service : Service σ) (limits : Limits) (host : HostState σ) (blob : Bytes)
    (module : Module) : Prop where
  valid : Module.ofBlob blob = .ok module
  imports : ∀ wanted ∈ module.imports, wanted.module = "env" ∧ wanted.name = "compile_func" ∧
    ∃ index : Nat, wanted.type = .func index ∧ module.types[index]? = some ⟨[.i32], [.i32]⟩
  elems : ∀ segment ∈ module.elems,
    segment.Fits (laid module) (module.allocate (laid module) dispatchStore)
  datas : ∀ segment ∈ module.datas,
    segment.Fits (laid module) (module.allocate (laid module) dispatchStore)
  starts : ∀ index, module.start = some index →
    ∀ store, module.place (triggers module) dispatchStore = some store →
      ∃ addr results after, (laid module).funcs[index]? = some addr ∧
        Session.call service limits addr [] ⟨store, host⟩ = (.ok results, after) ∧
        after.host.history.filterMap Event.triggered? = host.history.filterMap Event.triggered?
  shares : ∃ addr, (laid module).exportedTable? "_table" = some addr

theorem Loadable.runStart {store : Store HostFunc}
    (loadable : Loadable service limits host blob module)
    (placed : module.place (triggers module) dispatchStore = some store) :
    ∃ after, runStart (Session.call service limits) (laid module) module.start ⟨store, host⟩ =
      (.ok (), after) := by
  unfold Wasm.runStart
  cases start : module.start with
  | none => exact ⟨_, rfl⟩
  | some index =>
    obtain ⟨addr, results, after, found, called, _⟩ := loadable.starts index start store placed
    dsimp only
    rw [found]
    exact ⟨after, Action.bind_of_ok called⟩

/-- A skeleton is loaded before the trigger is open if it is loadable, and in no other case. -/
theorem loading_ok_iff (unready : host.shared = none) :
    (∃ skeleton after, Loading (Session.call service limits) blob ⟨dispatchStore, host⟩
      (.ok skeleton) after) ↔ ∃ module, Loadable service limits host blob module := by
  constructor
  · rintro ⟨skeleton, after, loading⟩
    cases loading with
    | @loaded module inst after addr count decoded onlyTriggers fits ran shared counted =>
      have fixed := fixed_of_links decoded fits
      obtain ⟨store, placed, rfl, started⟩ := (Module.instantiate_ok_iff fixed).mp ran
      obtain ⟨elems, datas⟩ := Module.place_isSome_iff.mp (Option.isSome_of_eq_some placed)
      refine ⟨module, decoded, fun wanted listed => ?_, elems, datas, ?_, addr, shared⟩
      · obtain ⟨env, trigger⟩ := isTrigger_iff.mp (List.all_eq_true.mp onlyTriggers wanted listed)
        exact ⟨env, trigger, links_iff.mp fits wanted listed⟩
      · intro index start store' placed'
        obtain rfl := Option.some.inj (placed.symm.trans placed')
        unfold Wasm.runStart at started
        rw [start] at started
        dsimp only at started
        cases found : (laid module).funcs[index]? with
        | none =>
          rw [found] at started
          cases started
        | some addr =>
          rw [found] at started
          obtain ⟨results, last, called, _⟩ := Action.bind_ok started
          have follows := Session.call_follows service limits addr [] ⟨store, host⟩
          rw [called] at follows
          obtain ⟨values, printed⟩ := Course.untriggered follows unready rfl
          refine ⟨addr, results, last, rfl, called, ?_⟩
          change last.host.history = host.history ++ values.map .printed at printed
          rw [printed]
          simp [Event.triggered?]
  · rintro ⟨module, loadable⟩
    have fits := links_iff.mpr fun wanted listed => (loadable.imports wanted listed).2.2
    have onlyTriggers : module.imports.all isTrigger = true := by
      refine List.all_eq_true.mpr fun wanted listed => isTrigger_iff.mpr ?_
      obtain ⟨env, trigger, _⟩ := loadable.imports wanted listed
      exact ⟨env, trigger⟩
    have fixed := fixed_of_links loadable.valid fits
    obtain ⟨store, placed⟩ := Option.isSome_iff_exists.mp
      (Module.place_isSome_iff.mpr ⟨loadable.elems, loadable.datas⟩)
    obtain ⟨after, started⟩ := loadable.runStart placed
    have ran : instantiate (Session.call service limits) module (triggers module)
        ⟨dispatchStore, host⟩ = (.ok (laid module), after) :=
      (Module.instantiate_ok_iff fixed).mpr ⟨store, placed, rfl, started⟩
    obtain ⟨addr, shared⟩ := loadable.shares
    exact ⟨_, _, .loaded loadable.valid onlyTriggers fits ran shared rfl⟩

/-- A skeleton is loaded under the conditions of its loading. -/
theorem Loading.load_eq {run : Invoker HostFunc (HostState σ) Session.Fault}
    {m after : DispatchMachine σ} {skeleton : Skeleton}
    (loading : Loading run blob m (.ok skeleton) after) :
    load run blob m = (.ok skeleton, after) := by
  cases loading with
  | loaded decoded onlyTriggers fits ran shared counted =>
    unfold load
    rw [decoded]
    dsimp only
    rw [Action.bind_apply]
    dsimp only [Action.store]
    rw [if_pos (Bool.and_eq_true_iff.mpr ⟨onlyTriggers, fits⟩), Action.bind_apply]
    unfold Action.mapStop
    rw [ran, counted]
    dsimp only
    rw [shared]
    rfl

/-- The trigger was called during the loading of the skeleton if that is why set-up fails. -/
theorem Loading.called_iff {outside : Outside σ} {compiler : Service.Compiler}
    {dump : Option DumpDir} {after : DispatchMachine σ}
    {result : Except (Stop Session.Fault) Skeleton} {events : List Event}
    (loading : Loading (Session.call service limits) blob
      ⟨dispatchStore, HostState.fresh outside compiler dump⟩ result after)
    (history : after.host.history = outside.world.history.toList ++ events) :
    (∃ raw ledger, .triggered raw ledger ∈ events) ↔
      ∃ why, result = .error why ∧ Session.startFault why = .tooEarly := by
  have uncalled : ∀ values : List Int32, ∀ raw ledger,
      .triggered raw ledger ∉ values.map Event.printed := by simp
  have none : HostState.history (HostState.fresh outside compiler dump) =
      outside.world.history.toList ++ events → events = [] := fun same =>
    List.append_cancel_left (same.symm.trans (List.append_nil _).symm)
  have course := (Course.discipline service).instantiate (Session.call_follows service limits)
  cases loading with
  | malformed decoded =>
    rw [none history]
    simp [Session.startFault]
  | unlinkable decoded unfit =>
    rw [none history]
    simp [Session.startFault]
  | @stopped module why _ decoded onlyTriggers fits ran =>
    have follows := course module (triggers module)
      ⟨dispatchStore, HostState.fresh outside compiler dump⟩
    rw [ran] at follows
    obtain ⟨world, values, same, _, ends⟩ := Course.early follows rfl
    rw [same] at history
    change world.history.toList = _ at history
    rw [history] at ends
    obtain ⟨own, printed⟩ | ⟨failed, raw, printed⟩ := ends
    · obtain rfl := List.append_cancel_left printed
      refine iff_of_false (by simp) ?_
      rintro ⟨_, ⟨rfl⟩, early⟩
      cases why with
      | failed fault => exact own fault rfl
      | _ => cases early
    · rw [List.append_assoc] at printed
      obtain rfl := List.append_cancel_left printed
      obtain rfl : why = .failed .tooEarly := Except.error.inj failed
      refine iff_of_true ⟨raw, _, List.mem_append_right _ List.mem_cons_self⟩ ⟨_, rfl, rfl⟩
  | @tableless module _ _ decoded onlyTriggers fits ran hidden =>
    have follows := course module (triggers module)
      ⟨dispatchStore, HostState.fresh outside compiler dump⟩
    rw [ran] at follows
    obtain ⟨values, printed⟩ := Course.untriggered follows rfl rfl
    obtain rfl := List.append_cancel_left (history.symm.trans printed)
    simp [Session.startFault]
  | @loaded module _ middle _ _ decoded onlyTriggers fits ran shared counted =>
    have follows := course module (triggers module)
      ⟨dispatchStore, HostState.fresh outside compiler dump⟩
    rw [ran] at follows
    obtain ⟨values, printed⟩ := Course.untriggered follows rfl rfl
    change middle.host.history = _ at printed
    rw [HostState.history_record, printed, List.append_assoc] at history
    obtain rfl := List.append_cancel_left history
    simp

end Skeleton

namespace Session

section Effects

variable {service : Service σ} {source : String} {dump : Option DumpDir}
  {outside after : Outside σ} {events : List Event}

/-- What set-up leaves behind, however it ends. Nothing is printed, no unit is requested, and if a
file is written, it is the one of the skeleton. The service is asked up to its first failure. -/
structure Effects (service : Service σ) (source : String) (dump : Option DumpDir)
    (outside after : Outside σ) (events : List Event) : Prop where
  history : after.world.history.toList = outside.world.history.toList ++ events
  sink : after.world.sink = outside.world.sink
  unprinted : ∀ event ∈ events, event.printed? = none
  written : ∀ path blob, .wrote path blob ∈ events →
    ∃ dir, dump = some dir ∧ path = dir.pathOfSkeleton
  files : after.world.files = outside.world.files ∨ ∃ dir blob, dump = some dir ∧
    outside.world.files.write dir.pathOfSkeleton blob = .ok after.world.files
  unparsed : ∀ fault, (service.parse source outside.service).result = .error fault →
    events.filterMap Event.request? = [.parse source]
  unbuilt : ∀ ir fault, (service.parse source outside.service).result = .ok ir →
    (service.build ir (service.parse source outside.service).state).result = .error fault →
      events.filterMap Event.request? = [.parse source, .build ir]
  asked : ∀ ir compiler, (service.parse source outside.service).result = .ok ir →
    (service.build ir (service.parse source outside.service).state).result = .ok compiler →
      events.filterMap Event.request? = [.parse source, .build ir, .skeleton compiler]

theorem Effects.unrequested (effects : Effects service source dump outside after events)
    (compiler : Service.Compiler) (i : FuncId) : .request (.unit compiler i) ∉ events := by
  intro member
  have asked : Request.unit compiler i ∈ events.filterMap Event.request? :=
    List.mem_filterMap.mpr ⟨_, member, rfl⟩
  cases parse : (service.parse source outside.service).result with
  | error fault =>
    rw [effects.unparsed fault parse] at asked
    simp at asked
  | ok ir =>
    cases build : (service.build ir (service.parse source outside.service).state).result with
    | error fault =>
      rw [effects.unbuilt ir fault parse build] at asked
      simp at asked
    | ok found =>
      rw [effects.asked ir found parse build] at asked
      simp at asked

/-- What happens later in set-up adds nothing to its effects but the file of the skeleton. -/
theorem Effects.later (effects : Effects service source dump outside after events)
    {last : Outside σ} {more : List Event}
    (history : last.world.history.toList = after.world.history.toList ++ more)
    (sink : last.world.sink = after.world.sink)
    (quiet : ∀ event ∈ more, event.request? = none ∧ event.printed? = none)
    (written : ∀ path blob, .wrote path blob ∈ more →
      ∃ dir, dump = some dir ∧ path = dir.pathOfSkeleton)
    (files : last.world.files = after.world.files ∨ ∃ dir blob, dump = some dir ∧
      outside.world.files.write dir.pathOfSkeleton blob = .ok last.world.files) :
    Effects service source dump outside last (events ++ more) := by
  have unasked : more.filterMap Event.request? = [] :=
    List.filterMap_eq_nil_iff.mpr fun event member => (quiet event member).1
  constructor
  case history => rw [history, effects.history, List.append_assoc]
  case sink => rw [sink, effects.sink]
  case unprinted =>
    intro event member
    exact (List.mem_append.mp member).elim (effects.unprinted event) fun later =>
      (quiet event later).2
  case written =>
    intro path blob member
    exact (List.mem_append.mp member).elim (effects.written path blob) (written path blob)
  case files =>
    rcases files with same | changed
    · rw [same]
      exact effects.files
    · exact .inr changed
  all_goals
    rw [List.filterMap_append, unasked, List.append_nil]
  case unparsed => exact effects.unparsed
  case unbuilt => exact effects.unbuilt
  case asked => exact effects.asked

theorem Effects.of_talks {requests : List Request} (talks : outside.Talks after requests events)
    (unparsed : ∀ fault, (service.parse source outside.service).result = .error fault →
      requests = [.parse source])
    (unbuilt : ∀ ir fault, (service.parse source outside.service).result = .ok ir →
      (service.build ir (service.parse source outside.service).state).result = .error fault →
        requests = [.parse source, .build ir])
    (asked : ∀ ir compiler, (service.parse source outside.service).result = .ok ir →
      (service.build ir (service.parse source outside.service).state).result = .ok compiler →
        requests = [.parse source, .build ir, .skeleton compiler]) :
    Effects service source dump outside after events where
  history := talks.history
  sink := talks.sink
  unprinted event member := (talks.talk event member).silent.2.2.2
  written path blob member := by cases (talks.talk _ member).silent.2.1
  files := .inl talks.files
  unparsed fault refused := talks.asked.trans (unparsed fault refused)
  unbuilt ir fault parse refused := talks.asked.trans (unbuilt ir fault parse refused)
  asked ir compiler parse build := talks.asked.trans (asked ir compiler parse build)

theorem made_effects {ir : Service.Parsed} {compiler : Service.Compiler}
    (parse : (service.parse source outside.service).result = .ok ir)
    (build : (service.build ir (service.parse source outside.service).state).result =
      .ok compiler) :
    ∃ events, Effects service source dump outside (made service source outside ir compiler)
      events ∧ ∀ event ∈ events, event.triggered? = none := by
  obtain ⟨events, talks⟩ := made_talks service source outside ir compiler
  refine ⟨events, .of_talks talks ?_ ?_ ?_, talks.untriggered⟩
  · intro fault unparsed
    cases unparsed.symm.trans parse
  · intro ir' fault parse' unbuilt
    obtain rfl := Except.ok.inj (parse'.symm.trans parse)
    cases unbuilt.symm.trans build
  · intro ir' compiler' parse' build'
    obtain rfl := Except.ok.inj (parse'.symm.trans parse)
    obtain rfl := Except.ok.inj (build'.symm.trans build)
    rfl

theorem arrived_effects {ir : Service.Parsed} {compiler : Service.Compiler} {blob : Bytes}
    (answers : service.Answers source outside.service ir compiler blob) :
    ∃ events, Effects service source dump outside (arrived service source outside ir compiler blob)
      events ∧ ∀ event ∈ events, event.triggered? = none := by
  obtain ⟨events, effects, untriggered⟩ := made_effects answers.parse answers.build
  refine ⟨_, effects.later (history_arrived service source outside ir compiler blob) rfl ?_ ?_
    (.inl rfl), ?_⟩
  · simp [Event.request?, Event.printed?]
  · simp
  · intro event member
    rcases List.mem_append.mp member with before | last
    · exact untriggered event before
    · rcases List.mem_pair.mp last with rfl | rfl <;> rfl

theorem Prepared.effects {result : Except Fault (Service.Compiler × Bytes)}
    (prepared : Prepared service source outside dump result after) :
    ∃ events, Effects service source dump outside after events ∧
      ∀ event ∈ events, event.triggered? = none := by
  cases prepared with
  | unparsed refused =>
    obtain ⟨events, talks⟩ := parsed_talks service source outside
    refine ⟨events, .of_talks talks (fun _ _ => rfl) ?_ ?_, talks.untriggered⟩
    · intro ir fault parse
      cases parse.symm.trans refused
    · intro ir compiler parse
      cases parse.symm.trans refused
  | @unbuilt ir fault parse refused =>
    obtain ⟨events, talks⟩ := built_talks service source outside ir
    refine ⟨events, .of_talks talks ?_ ?_ ?_, talks.untriggered⟩
    · intro fault unparsed
      cases unparsed.symm.trans parse
    · intro ir' fault' parse' refused'
      obtain rfl := Except.ok.inj (parse'.symm.trans parse)
      rfl
    · intro ir' compiler parse' build
      obtain rfl := Except.ok.inj (parse'.symm.trans parse)
      cases build.symm.trans refused
  | unmade parse build refused => exact made_effects parse build
  | undumped answers dumping refused => exact arrived_effects answers
  | @dumped ir compiler blob dir files answers dumping written =>
    obtain ⟨events, effects, untriggered⟩ := arrived_effects answers
    refine ⟨_, effects.later (Outside.history_wrote _ dir.pathOfSkeleton blob files) rfl ?_ ?_
      (.inr ⟨dir, blob, dumping, written⟩), ?_⟩
    · simp [Event.request?, Event.printed?]
    · simp only [List.mem_cons, Event.wrote.injEq, List.not_mem_nil, or_false, reduceCtorEq]
      rintro path blob ⟨rfl, rfl⟩
      exact ⟨dir, dumping, rfl⟩
    · intro event member
      rcases List.mem_append.mp member with before | last
      · exact untriggered event before
      · rcases List.mem_pair.mp last with rfl | rfl <;> rfl
  | kept answers undumped => exact arrived_effects answers

/-- The preparation succeeds if the service answers and the skeleton can be dumped. -/
theorem prepare_ok_iff {compiler : Service.Compiler} {blob : Bytes} :
    (∃ after, prepare service source dump outside = (.ok (compiler, blob), after)) ↔
      ∃ ir, service.Answers source outside.service ir compiler blob ∧
        ∀ dir, dump = some dir →
          ∃ files, outside.world.files.write dir.pathOfSkeleton blob = .ok files := by
  constructor
  · rintro ⟨after, ready⟩
    have prepared := prepare_prepared service source outside dump
    rw [ready] at prepared
    cases prepared with
    | dumped answers dumping written =>
      refine ⟨_, answers, fun dir same => ?_⟩
      obtain rfl := Option.some.inj (same.symm.trans dumping)
      exact ⟨_, written⟩
    | kept answers undumped =>
      refine ⟨_, answers, fun dir same => ?_⟩
      cases same.symm.trans undumped
  · rintro ⟨ir, answers, dumps⟩
    cases dump with
    | none => exact ⟨_, (Prepared.kept answers rfl).prepare_eq⟩
    | some dir =>
      obtain ⟨files, written⟩ := dumps dir rfl
      exact ⟨_, (Prepared.dumped answers rfl written).prepare_eq⟩

end Effects

variable {service : Service σ} {limits : Limits} {source : String} {settings : Settings}
  {outside : Outside σ}

/-- A session starts if its preparation succeeds and the skeleton that it brings is loadable. -/
theorem start_ok_iff :
    (∃ session, start service limits source settings outside = .ok session) ↔
      ∃ compiler blob after module,
        prepare service source (settings.dump.map DumpDir.mk) outside =
          (.ok (compiler, blob), after) ∧
        Skeleton.Loadable service limits
          (HostState.fresh after compiler (settings.dump.map DumpDir.mk)) blob module := by
  constructor
  · rintro ⟨session, ready⟩
    have started := start_started service limits source settings outside
    rw [ready] at started
    cases started with
    | ready prepared loading =>
      obtain ⟨module, loadable⟩ := (Skeleton.loading_ok_iff rfl).mp ⟨_, _, loading⟩
      exact ⟨_, _, _, module, prepared.prepare_eq, loadable⟩
  · rintro ⟨compiler, blob, after, module, ready, loadable⟩
    obtain ⟨skeleton, last, loading⟩ := (Skeleton.loading_ok_iff rfl).mpr ⟨module, loadable⟩
    refine ⟨⟨{ last with host := { last.host with
      shared := some skeleton.table
      ledger := Ledger.ofSize skeleton.slotCount } }, skeleton, settings.entry⟩, ?_⟩
    unfold start
    dsimp only
    rw [ready]
    dsimp only
    rw [loading.load_eq]

theorem Prepared.loading_effects {service : Service σ} {limits : Limits} {source : String}
    {dump : Option DumpDir} {outside after : Outside σ} {compiler : Service.Compiler}
    {blob : Bytes} {result : Except (Stop Session.Fault) Skeleton} {last : DispatchMachine σ}
    (prepared : Prepared service source outside dump (.ok (compiler, blob)) after)
    (loading : Skeleton.Loading (call service limits) blob
      ⟨dispatchStore, HostState.fresh after compiler dump⟩ result last) :
    ∃ events, Effects service source dump outside last.host.outside events ∧
      ((∃ raw ledger, .triggered raw ledger ∈ events) ↔
        ∃ why, result = .error why ∧ startFault why = .tooEarly) := by
  obtain ⟨events, effects, untriggered⟩ := prepared.effects
  obtain ⟨world, more, same, files, history, early⟩ := loading.early
  obtain ⟨_, sink, others, grown, unprinted⟩ := loading.silent
  have later : last.host.history = after.world.history.toList ++ more := by
    rw [same]
    exact history
  obtain rfl := List.append_cancel_left (grown.symm.trans later)
  refine ⟨events ++ others, effects.later grown sink ?_ ?_ (.inl ?_), ?_⟩
  · exact fun event member => ⟨(early event member).1, unprinted event member⟩
  · intro path blob member
    cases (early _ member).2.2
  · rw [same]
    exact files
  · rw [← loading.called_iff grown]
    constructor
    · rintro ⟨raw, ledger, member⟩
      rcases List.mem_append.mp member with before | after
      · cases untriggered _ before
      · exact ⟨raw, ledger, after⟩
    · rintro ⟨raw, ledger, member⟩
      exact ⟨raw, ledger, List.mem_append_right _ member⟩

/-- What set-up leaves behind, and whether the trigger was called in it. -/
theorem start_effects (service : Service σ) (limits : Limits) (source : String)
    (settings : Settings) (outside : Outside σ) :
    ∃ events, Effects service source (settings.dump.map DumpDir.mk) outside
        (afterStart (start service limits source settings outside)) events ∧
      ((∃ raw ledger, .triggered raw ledger ∈ events) ↔
        ∃ after, start service limits source settings outside = .error (.tooEarly, after)) := by
  have started := start_started service limits source settings outside
  generalize start service limits source settings outside = result at started ⊢
  cases started with
  | @unprepared fault after prepared =>
    obtain ⟨events, effects, untriggered⟩ := prepared.effects
    refine ⟨events, effects, iff_of_false ?_ ?_⟩
    · rintro ⟨raw, ledger, member⟩
      cases untriggered _ member
    · rintro ⟨_, same⟩
      obtain ⟨rfl, _⟩ := Prod.mk.inj (Except.error.inj same)
      cases prepared
  | unloaded prepared loading =>
    obtain ⟨events, effects, called⟩ := prepared.loading_effects loading
    refine ⟨events, effects, called.trans ?_⟩
    simp
  | ready prepared loading =>
    obtain ⟨events, effects, called⟩ := prepared.loading_effects loading
    refine ⟨events, effects, called.trans ?_⟩
    simp

/-- Set-up asks for three things in order and hands on the first refusal. Whatever the skeleton
does, it brings about no request and no output, and no file but its own is written. There is a
session in the end if and only if the three answers come, the skeleton can be dumped where it has to
be, and it is loadable; in a new session no function is compiled. If the trigger is called during
set-up, with whatever index, set-up fails for that reason. -/
theorem set_up (service : Service σ) (limits : Limits) (source : String) (settings : Settings)
    (outside : Outside σ) :
    (∃ events, Effects service source (settings.dump.map DumpDir.mk) outside
        (afterStart (start service limits source settings outside)) events ∧
      (∀ compiler i, .request (.unit compiler i) ∉ events) ∧
      ((∃ raw ledger, .triggered raw ledger ∈ events) ↔
        ∃ after, start service limits source settings outside = .error (.tooEarly, after))) ∧
    (∀ fault, (service.parse source outside.service).result = .error fault →
      ∃ after, start service limits source settings outside = .error (.service fault, after)) ∧
    (∀ ir fault, (service.parse source outside.service).result = .ok ir →
      (service.build ir (service.parse source outside.service).state).result = .error fault →
      ∃ after, start service limits source settings outside = .error (.service fault, after)) ∧
    (∀ ir compiler fault, (service.parse source outside.service).result = .ok ir →
      (service.build ir (service.parse source outside.service).state).result = .ok compiler →
      (service.skeleton compiler
        (service.build ir (service.parse source outside.service).state).state).result =
          .error fault →
      ∃ after, start service limits source settings outside = .error (.service fault, after)) ∧
    ((∃ session, start service limits source settings outside = .ok session) ↔
      ∃ ir compiler blob module, service.Answers source outside.service ir compiler blob ∧
        (∀ dir, settings.dump = some dir →
          ∃ files, outside.world.files.write (DumpDir.mk dir).pathOfSkeleton blob = .ok files) ∧
        Skeleton.Loadable service limits
          (HostState.fresh (prepare service source (settings.dump.map DumpDir.mk) outside).2 compiler
            (settings.dump.map DumpDir.mk)) blob module) ∧
    ∀ session, start service limits source settings outside = .ok session →
      (∀ i, session.slot? i = if i.slot < session.slotCount then some .stub else none) ∧
      session.compiled = [] ∧
      session.skeleton.inst.exportedTable? "_table" = some session.skeleton.table ∧
      (session.machine.store.tables[session.skeleton.table]?).map Table.size =
        some session.slotCount := by
  obtain ⟨events, effects, called⟩ := start_effects service limits source settings outside
  refine ⟨⟨events, effects, effects.unrequested, called⟩, ?_, ?_, ?_, ?_, ?_⟩
  · intro fault refused
    exact ⟨_, start_of_unprepared (.unparsed refused)⟩
  · intro ir fault parse refused
    exact ⟨_, start_of_unprepared (.unbuilt parse refused)⟩
  · intro ir compiler fault parse build refused
    exact ⟨_, start_of_unprepared (.unmade parse build refused)⟩
  · rw [start_ok_iff]
    constructor
    · rintro ⟨compiler, blob, after, module, ready, loadable⟩
      obtain ⟨ir, answers, dumps⟩ := prepare_ok_iff.mp ⟨after, ready⟩
      refine ⟨ir, compiler, blob, module, answers, ?_, ?_⟩
      · rintro dir same
        exact dumps ⟨dir⟩ (by rw [same]; rfl)
      · rw [ready]
        exact loadable
    · rintro ⟨ir, compiler, blob, module, answers, dumps, loadable⟩
      have dumpable : ∀ dir, settings.dump.map DumpDir.mk = some dir →
          ∃ files, outside.world.files.write dir.pathOfSkeleton blob = .ok files := by
        intro dir same
        obtain ⟨path, dumping, rfl⟩ := Option.map_eq_some_iff.mp same
        exact dumps path dumping
      obtain ⟨after, ready⟩ := prepare_ok_iff.mpr ⟨ir, answers, dumpable⟩
      rw [ready] at loadable
      exact ⟨compiler, blob, after, module, ready, loadable⟩
  · intro session started
    obtain ⟨_, ledger⟩ := start_state started
    obtain ⟨exported, counted⟩ := start_table started
    refine ⟨fun i => ?_, ?_, exported, counted⟩
    · unfold slot?
      rw [ledger]
      exact DispatchTable.slot?_ofSize session.slotCount i
    · unfold compiled
      rw [ledger]
      rfl

end Session

namespace Sample

/-- A skeleton that calls the trigger in its start function, with an index that is no slot. -/
def hasty : Bytes :=
  [0, 97, 115, 109, 1, 0, 0, 0, 1, 9, 2, 96, 1, 127, 1, 127, 96, 0, 0, 2, 20, 1, 3, 101, 110, 118,
   12, 99, 111, 109, 112, 105, 108, 101, 95, 102, 117, 110, 99, 0, 0, 3, 2, 1, 1, 4, 4, 1, 112, 0,
   1, 7, 10, 1, 6, 95, 116, 97, 98, 108, 101, 1, 0, 8, 1, 1, 10, 9, 1, 7, 0, 65, 7, 16, 0, 26, 11]

/-- A service with such a skeleton. -/
def rushed : Script := { script with skeleton := .ok hasty }

end Sample

namespace Session

/-- A sound skeleton leads to a session in which nothing is compiled. One that calls the trigger
while it is loaded does not. -/
theorem sample_set_up :
    (∃ session, start Sample.script.service Sample.limits "" Settings.default ⟨(), Sample.world⟩ =
        .ok session ∧ session.compiled = [] ∧
      ∃ module, Skeleton.Loadable Sample.script.service Sample.limits
        (HostState.fresh (prepare Sample.script.service "" none ⟨(), Sample.world⟩).2 ⟨2⟩ none)
          Sample.skeleton module) ∧
    ∃ after events, start Sample.rushed.service Sample.limits "" Settings.default
        ⟨(), Sample.world⟩ = .error (.tooEarly, after) ∧
      after.world.history.toList = Sample.world.history.toList ++ events ∧
      ∃ raw ledger, .triggered raw ledger ∈ events := by
  constructor
  · have ready : (start Sample.script.service Sample.limits "" Settings.default
        ⟨(), Sample.world⟩).isOk = true := by
      decide +kernel
    cases started : start Sample.script.service Sample.limits "" Settings.default
        ⟨(), Sample.world⟩ with
    | error fault =>
      rw [started] at ready
      cases ready
    | ok session =>
      obtain ⟨_, _, _, _, succeeds, fresh⟩ := set_up Sample.script.service Sample.limits ""
        Settings.default ⟨(), Sample.world⟩
      obtain ⟨ir, compiler, blob, module, answers, _, loadable⟩ := succeeds.mp ⟨session, started⟩
      obtain rfl := Except.ok.inj answers.parse
      obtain rfl := Except.ok.inj answers.build
      obtain rfl := Except.ok.inj answers.skeleton
      exact ⟨session, rfl, (fresh session started).2.1, module, loadable⟩
  · have refused : (match start Sample.rushed.service Sample.limits "" Settings.default
          ⟨(), Sample.world⟩ with
        | .error (fault, _) => some fault
        | .ok _ => none) = some .tooEarly := by
      decide +kernel
    cases started : start Sample.rushed.service Sample.limits "" Settings.default
        ⟨(), Sample.world⟩ with
    | ok session =>
      rw [started] at refused
      cases refused
    | error failure =>
      obtain ⟨fault, after⟩ := failure
      rw [started] at refused
      obtain rfl := Option.some.inj refused
      obtain ⟨⟨events, effects, _, called⟩, _⟩ := set_up Sample.rushed.service Sample.limits ""
        Settings.default ⟨(), Sample.world⟩
      rw [started] at effects
      exact ⟨after, events, rfl, effects.history, called.mpr ⟨after, started⟩⟩

end Session

end FirstCall
