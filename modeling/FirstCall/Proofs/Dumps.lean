import FirstCall.Proofs.Bookkeeping
import FirstCall.Proofs.Files
import FirstCall.Proofs.Preparation

/-!
# Dumped blobs

While blobs are dumped, each blob that the service hands out is written into a file of its own as
soon as it is received, before anything else is done with it. In a directory that nothing else
writes to, the files are then those blobs at every moment between two runs.
-/

namespace FirstCall

open Wasm

variable {σ α : Type}

def DumpDir.file? : Request → Option String
  | .skeleton _ => some skeletonFile
  | .unit _ i => some (unitFile i)
  | _ => none

theorem DumpDir.plain_of_file? {request : Request} {name : String}
    (named : DumpDir.file? request = some name) : Path.Plain name := by
  cases request with
  | skeleton compiler =>
    cases named
    exact plain_skeletonFile
  | unit compiler i =>
    cases named
    exact plain_unitFile i
  | parse source => cases named
  | build ir => cases named

/-- The name and the contents of the file that is to hold a blob that was received. -/
def Event.copy? (event : Event) : Option (String × Bytes) :=
  event.received?.bind fun answer => (DumpDir.file? answer.1).map (·, answer.2)

theorem Event.copy?_eq_some_iff {event : Event} {name : String} {blob : Bytes} :
    event.copy? = some (name, blob) ↔
      ∃ request, event = .received request blob ∧ DumpDir.file? request = some name := by
  cases event with
  | received request other =>
    cases named : DumpDir.file? request <;> simp [copy?, received?, named, and_comm]
  | _ => simp [copy?, received?]

/-- The files that are to hold the blobs received, in the order in which they arrived. -/
def copies (events : List Event) : List (String × Bytes) := events.filterMap Event.copy?

theorem mem_copies_iff {events : List Event} {name : String} {blob : Bytes} :
    (name, blob) ∈ copies events ↔
      ∃ request, .received request blob ∈ events ∧ DumpDir.file? request = some name := by
  simp [copies, List.mem_filterMap, Event.copy?_eq_some_iff]

theorem names_of_copies (events : List Event) :
    (copies events).map Prod.fst =
      ((events.filterMap Event.received?).map Prod.fst).filterMap DumpDir.file? := by
  unfold copies
  rw [List.map_filterMap, List.filterMap_map, List.filterMap_filterMap]
  congr 1
  funext event
  cases event with
  | received request blob => cases named : DumpDir.file? request <;> simp [Event.copy?, Event.received?, named]
  | _ => rfl

/-- The answers to the requests of a session go into files of different names. -/
theorem nodup_files {compiler : Service.Compiler} {asked : List FuncId} (distinct : asked.Nodup) :
    ((Request.skeleton compiler :: asked.map (.unit compiler)).filterMap DumpDir.file?).Nodup := by
  have files : (Request.skeleton compiler :: asked.map (.unit compiler)).filterMap DumpDir.file? =
      DumpDir.skeletonFile :: asked.map DumpDir.unitFile := by
    rw [List.filterMap_cons, List.filterMap_map]
    exact congrArg _ (congrFun (List.filterMap_eq_map (f := DumpDir.unitFile)) asked)
  rw [files, List.nodup_cons]
  refine ⟨?_, distinct.map fun _ _ same => DumpDir.unitFile_injective same⟩
  intro inside
  obtain ⟨i, _, same⟩ := List.mem_map.mp inside
  exact DumpDir.unitFile_ne_skeletonFile i same

/-- The directory of a dump was empty, and since then it received a file for every blob. -/
structure Copied (past : List Event) (dir : DumpDir) (place : Place) (world : World)
    (events : List Event) : Prop where
  history : world.history.toList = past ++ events
  lies : dir.At world.files place
  wrote : events.filterMap Event.wrote? =
    (copies events).map fun file => (Path.join dir.dir file.1, file.2)
  only : ∀ rest entry, rest ≠ [] → world.files.entry? (place ++ rest) = some entry →
    ∃ name blob, rest = [name] ∧ entry = .file blob ∧ (name, blob) ∈ copies events
  all : ((copies events).map Prod.fst).Nodup → ∀ name blob, (name, blob) ∈ copies events →
    world.files.entry? (place ++ [name]) = some (.file blob)

namespace Copied

variable {past events : List Event} {dir : DumpDir} {place : Place} {world next : World}
  {outside after : Outside σ}

theorem start {dir : DumpDir} {place : Place} {world : World}
    (lies : dir.At world.files place)
    (empty : ∀ rest, rest ≠ [] → world.files.entry? (place ++ rest) = none) :
    Copied world.history.toList dir place world [] where
  history := (List.append_nil _).symm
  lies := lies
  wrote := rfl
  only rest entry below found := by
    rw [empty rest below] at found
    cases found
  all _ name blob member := nomatch member

theorem move {more : List Event} (copied : Copied past dir place world events)
    (files : next.files = world.files)
    (history : next.history.toList = world.history.toList ++ more)
    (unreceived : more.filterMap Event.copy? = []) (unwritten : more.filterMap Event.wrote? = []) :
    Copied past dir place next (events ++ more) := by
  have sameCopies : copies (events ++ more) = copies events := by
    unfold copies
    rw [List.filterMap_append, unreceived, List.append_nil]
  constructor
  case history => rw [history, copied.history, List.append_assoc]
  case lies => exact files ▸ copied.lies
  case wrote =>
    rw [sameCopies, List.filterMap_append, unwritten, List.append_nil]
    exact copied.wrote
  case only =>
    rw [sameCopies, files]
    exact copied.only
  case all =>
    rw [sameCopies, files]
    exact copied.all

theorem free (copied : Copied past dir place world events) (name : String) :
    world.files.entry? (place ++ [name]) ≠ some .directory := by
  intro blocked
  obtain ⟨_, _, _, file, _⟩ := copied.only [name] _ (by simp) blocked
  cases file

theorem add {more : List Event} {name : String} {blob : Bytes}
    (copied : Copied past dir place world events)
    (files : next.files = world.files.put (place ++ [name]) (.file blob))
    (history : next.history.toList = world.history.toList ++ more)
    (received : more.filterMap Event.copy? = [(name, blob)])
    (written : more.filterMap Event.wrote? = [(Path.join dir.dir name, blob)]) :
    Copied past dir place next (events ++ more) := by
  have below : place ++ [name] ≠ [] := by simp
  have apart : place ≠ place ++ [name] := by simp
  have moreCopies : copies (events ++ more) = copies events ++ [(name, blob)] := by
    unfold copies
    rw [List.filterMap_append, received]
  constructor
  case history => rw [history, copied.history, List.append_assoc]
  case lies =>
    rw [files]
    refine ⟨FileTree.resolve_put below (copied.free name) copied.lies.leads, ?_⟩
    rw [FileTree.entry?_put below, if_neg apart]
    exact copied.lies.directory
  case wrote =>
    rw [moreCopies, List.map_append, ← copied.wrote, List.filterMap_append, written]
    rfl
  case only =>
    intro rest entry some
    rw [files, FileTree.entry?_put below, moreCopies]
    split
    · next same =>
      intro found
      obtain rfl := Option.some.inj found
      exact ⟨name, blob, List.append_cancel_left same, rfl, by simp⟩
    · intro found
      obtain ⟨other, contents, place, file, member⟩ := copied.only rest entry some found
      exact ⟨other, contents, place, file, List.mem_append_left _ member⟩
  case all =>
    rw [moreCopies, List.map_append, files]
    intro distinct other contents member
    obtain ⟨distinctBefore, _, new⟩ := List.nodup_append.mp distinct
    rw [FileTree.entry?_put below]
    rcases List.mem_append.mp member with before | last
    · have others : other ≠ name :=
        new other (List.mem_map_of_mem before) name (List.mem_singleton_self _)
      rw [if_neg fun same => others (List.singleton_inj.mp (List.append_cancel_left same))]
      exact copied.all distinctBefore other contents before
    · obtain ⟨rfl, rfl⟩ := Prod.mk.inj (List.mem_singleton.mp last)
      rw [if_pos rfl]

theorem write {name : String} {blob : Bytes} {more : List Event}
    (copied : Copied past dir place world events) (outside : Outside σ) (plain : Path.Plain name)
    (files : outside.world.files = world.files)
    (history : outside.world.history.toList = world.history.toList ++ more)
    (received : more.filterMap Event.copy? = [(name, blob)])
    (unwritten : more.filterMap Event.wrote? = []) :
    ∃ after, outside.world.files.write (Path.join dir.dir name) blob = .ok after ∧
      Copied past dir place (outside.wrote (Path.join dir.dir name) blob after).world
        (events ++ (more ++ [Event.wrote (Path.join dir.dir name) blob,
          .notice (.dumped blob.length (Path.join dir.dir name))])) := by
  refine ⟨world.files.put (place ++ [name]) (.file blob), ?_, copied.add rfl ?_ ?_ ?_⟩
  · rw [files]
    exact FileTree.write_join plain copied.lies.leads copied.lies.directory (copied.free name)
  · rw [Outside.history_wrote, history, List.append_assoc]
  · rw [List.filterMap_append, received]
    rfl
  · rw [List.filterMap_append, unwritten]
    rfl

theorem talk {first last : Outside σ} {requests : List Request} {more : List Event}
    (copied : Copied past dir place first.world events)
    (talks : first.Talks last requests more) :
    Copied past dir place last.world (events ++ more) := by
  refine copied.move talks.files talks.history ?_ talks.unwritten
  refine List.filterMap_eq_nil_iff.mpr fun event member => ?_
  rw [Event.copy?, (talks.talk event member).silent.1]
  rfl

theorem obtain {service : Service σ} {compiler : Service.Compiler} {i : FuncId} {result : Except Session.Fault Bytes}
    (copied : Copied past dir place outside.world events)
    (obtained : Trigger.obtain service compiler (some dir) i outside = (result, after)) :
    ∃ events, Copied past dir place after.world events := by
  have heard := copied.talk (Trigger.replied_talks service compiler i outside)
  have writes : ∀ blob, ∃ files events,
      outside.world.files.write (dir.pathOfUnit i) blob = .ok files ∧
      Copied past dir place ((Trigger.brought service compiler i outside blob).wrote
        (dir.pathOfUnit i) blob files).world events := by
    intro blob
    obtain ⟨files, written, later⟩ := heard.write (Trigger.brought service compiler i outside blob)
      (DumpDir.plain_unitFile i) rfl (Outside.history_record _ _) rfl rfl
    rw [Trigger.files_brought] at written
    exact ⟨files, _, written, later⟩
  cases Trigger.obtain_eq_iff.mp obtained with
  | refused answer => exact ⟨_, heard⟩
  | kept answer undumped => cases undumped
  | @undumped blob _ _ answer dumping refused =>
    cases dumping
    obtain ⟨_, _, written, _⟩ := writes blob
    cases refused.symm.trans written
  | @dumped blob _ _ answer dumping written =>
    cases dumping
    obtain ⟨_, events, same, later⟩ := writes blob
    obtain rfl := Except.ok.inj (written.symm.trans same)
    exact ⟨events, later⟩

theorem note (copied : Copied past dir place world events) (event : Event)
    (unreceived : event.copy? = none) (unwritten : event.wrote? = none) :
    Copied past dir place (world.record event) (events ++ [event]) :=
  copied.move rfl (by simp [World.record]) (by simp [unreceived]) (by simp [unwritten])

/-- While a program runs, every blob that is received goes into its file. -/
theorem kept (service : Service σ) (past : List Event) (dir : DumpDir) (place : Place) :
    Kept service fun state => state.dump = some dir ∧
      ∃ events, Copied past dir place state.outside.world events where
  notice notice := fun ⟨dumping, _, copied⟩ => ⟨dumping, _, copied.note _ rfl rfl⟩
  printed {state} value := by
    rintro ⟨dumping, events, copied⟩
    exact ⟨dumping, _, copied.move rfl (HostState.history_print state value) rfl rfl⟩
  settled raw result := fun ⟨dumping, _, copied⟩ => ⟨dumping, _, copied.note _ rfl rfl⟩
  installed _ _ _ _ := fun ⟨dumping, _, copied⟩ => ⟨dumping, _, copied.note _ rfl rfl⟩
  admitted := by
    rintro raw state answer after admitted ⟨dumping, events, copied⟩
    have entered := copied.note (.triggered raw state.ledger) rfl rfl
    cases admitted with
    | tooEarly unready => exact ⟨dumping, _, entered⟩
    | outOfRange ready refused => exact ⟨dumping, _, entered⟩
    | present ready located installed => exact ⟨dumping, _, entered.note _ rfl rfl⟩
    | reentered ready located notInstalled refused => exact ⟨dumping, _, entered⟩
    | @requested _ i ledger _ _ ready located reserved obtained =>
      rw [dumping] at obtained
      have asking : Copied past dir place (state.reserved raw i ledger).outside.world _ :=
        entered.note (.notice (.compiling i)) rfl rfl
      exact ⟨dumping, asking.obtain obtained⟩

theorem arrived (copied : Copied past dir place outside.world events) (service : Service σ)
    (source : String) (ir : Service.Parsed) (compiler : Service.Compiler) (blob : Bytes) :
    ∃ files more, outside.world.files.write dir.pathOfSkeleton blob = .ok files ∧
      Copied past dir place ((Session.arrived service source outside ir compiler blob).wrote
        dir.pathOfSkeleton blob files).world (events ++ more) ∧
      more.filterMap Event.received? = [(.skeleton compiler, blob)] := by
  obtain ⟨talk, talks⟩ := Session.made_talks service source outside ir compiler
  obtain ⟨files, written, later⟩ := (copied.talk talks).write
    (Session.arrived service source outside ir compiler blob) DumpDir.plain_skeletonFile (by simp [talks.files])
    (Session.history_arrived service source outside ir compiler blob) rfl rfl
  rw [Session.files_arrived] at written
  rw [List.append_assoc] at later
  refine ⟨files, _, written, later, ?_⟩
  rw [List.filterMap_append, talks.unreceived]
  rfl

theorem prepared {service : Service σ} {source : String}
    {result : Except Session.Fault (Service.Compiler × Bytes)}
    (copied : Copied past dir place outside.world events)
    (prepared : Session.Prepared service source outside (some dir) result after) :
    ∃ more, Copied past dir place after.world (events ++ more) ∧
      ((∃ fault, result = .error (.service fault) ∧ more.filterMap Event.received? = []) ∨
        ∃ ir compiler blob, result = .ok (compiler, blob) ∧
          service.Answers source outside.service ir compiler blob ∧
          more.filterMap Event.received? = [(.skeleton compiler, blob)]) := by
  cases prepared with
  | unparsed refused =>
    obtain ⟨talk, talks⟩ := Session.parsed_talks service source outside
    exact ⟨talk, copied.talk talks, .inl ⟨_, rfl, talks.unreceived⟩⟩
  | @unbuilt ir _ parse refused =>
    obtain ⟨talk, talks⟩ := Session.built_talks service source outside ir
    exact ⟨talk, copied.talk talks, .inl ⟨_, rfl, talks.unreceived⟩⟩
  | @unmade ir compiler _ parse build refused =>
    obtain ⟨talk, talks⟩ := Session.made_talks service source outside ir compiler
    exact ⟨talk, copied.talk talks, .inl ⟨_, rfl, talks.unreceived⟩⟩
  | kept answers undumped => cases undumped
  | @undumped ir compiler blob _ cause answers dumping refused =>
    obtain rfl := Option.some.inj dumping
    obtain ⟨files, more, written, _⟩ := copied.arrived service source ir compiler blob
    cases refused.symm.trans written
  | @dumped ir compiler blob _ files answers dumping written =>
    obtain rfl := Option.some.inj dumping
    obtain ⟨after, more, rewritten, later, received⟩ :=
      copied.arrived service source ir compiler blob
    obtain rfl := Except.ok.inj (written.symm.trans rewritten)
    exact ⟨more, later, .inr ⟨ir, compiler, blob, rfl, answers, received⟩⟩

/-- Exactly the copies are in the directory. -/
theorem found_iff (copied : Copied past dir place world events)
    (distinct : ((copies events).map Prod.fst).Nodup) {rest : Place} {entry : FileEntry}
    (below : rest ≠ []) :
    world.files.entry? (place ++ rest) = some entry ↔
      ∃ name blob, rest = [name] ∧ entry = .file blob ∧ (name, blob) ∈ copies events := by
  constructor
  · exact copied.only rest entry below
  · rintro ⟨name, blob, rfl, rfl, member⟩
    exact copied.all distinct name blob member

theorem distinct_places (copied : Copied past dir place world events)
    (distinct : ((copies events).map Prod.fst).Nodup) :
    ((events.filterMap Event.wrote?).map fun written =>
      (world.files.resolve written.1).toOption).Nodup := by
  have places : ((events.filterMap Event.wrote?).map fun written =>
      (world.files.resolve written.1).toOption) =
      ((copies events).map Prod.fst).map fun name => some (place ++ [name]) := by
    rw [copied.wrote, List.map_map, List.map_map]
    refine List.map_congr_left fun file member => ?_
    obtain ⟨request, _, named⟩ := mem_copies_iff.mp member
    have leads := FileTree.resolve_join (DumpDir.plain_of_file? named) copied.lies.leads
      copied.lies.directory
    simp only [Function.comp_apply, leads]
    rfl
  rw [places]
  exact distinct.map fun _ _ same =>
    List.singleton_inj.mp (List.append_cancel_left (Option.some.inj same))

theorem all_written (copied : Copied past dir place world events)
    (filed : ∀ request blob, .received request blob ∈ events →
      (DumpDir.file? request).isSome) :
    (events.filterMap Event.wrote?).map Prod.snd =
      (events.filterMap Event.received?).map Prod.snd := by
  rw [copied.wrote, List.map_map]
  unfold copies
  clear copied
  induction events with
  | nil => rfl
  | cons event rest ih =>
    have later := ih fun request blob member => filed request blob (List.mem_cons_of_mem _ member)
    rw [List.filterMap_cons, List.filterMap_cons]
    cases event with
    | received request blob =>
      obtain ⟨name, named⟩ := Option.isSome_iff_exists.mp (filed request blob List.mem_cons_self)
      simpa [Event.copy?, Event.received?, named] using later
    | _ => exact later

end Copied

/-- Since some moment nothing was written. -/
structure Unwritten (past : List Event) (files : FileTree) (world : World) : Prop where
  files : world.files = files
  history : ∃ events, world.history.toList = past ++ events ∧ events.filterMap Event.wrote? = []

namespace Unwritten

variable {past : List Event} {files : FileTree} {world next : World}

theorem start (world : World) : Unwritten world.history.toList world.files world :=
  ⟨rfl, [], (List.append_nil _).symm, rfl⟩

theorem written {first : World} (unwritten : Unwritten first.history.toList files world) :
    world.written = first.written := by
  obtain ⟨events, history, none⟩ := unwritten.history
  unfold World.written
  rw [history, List.filterMap_append, none, List.append_nil]

theorem move {more : List Event} (unwritten : Unwritten past files world)
    (kept : next.files = world.files)
    (history : next.history.toList = world.history.toList ++ more)
    (silent : more.filterMap Event.wrote? = []) : Unwritten past files next where
  files := kept.trans unwritten.files
  history := by
    obtain ⟨events, before, none⟩ := unwritten.history
    refine ⟨events ++ more, by rw [history, before, List.append_assoc], ?_⟩
    rw [List.filterMap_append, none, silent]
    rfl

theorem note (unwritten : Unwritten past files world) (event : Event)
    (silent : event.wrote? = none) : Unwritten past files (world.record event) := by
  have history : (world.record event).history.toList = world.history.toList ++ [event] := by
    simp [World.record]
  exact unwritten.move rfl history (by simp [silent])

theorem talk {first last : Outside σ} {requests : List Request} {more : List Event}
    (unwritten : Unwritten past files first.world) (talks : first.Talks last requests more) :
    Unwritten past files last.world :=
  unwritten.move talks.files talks.history talks.unwritten

theorem kept (service : Service σ) (past : List Event) (files : FileTree) :
    Kept service fun state => state.dump = none ∧ Unwritten past files state.outside.world where
  notice _ := fun ⟨undumped, unwritten⟩ => ⟨undumped, unwritten.note _ rfl⟩
  printed {state} value := fun ⟨undumped, unwritten⟩ =>
    ⟨undumped, unwritten.move rfl (HostState.history_print state value) rfl⟩
  settled _ _ := fun ⟨undumped, unwritten⟩ => ⟨undumped, unwritten.note _ rfl⟩
  installed _ _ _ _ := fun ⟨undumped, unwritten⟩ => ⟨undumped, unwritten.note _ rfl⟩
  admitted := by
    rintro raw state answer after admitted ⟨undumped, unwritten⟩
    have entered := unwritten.note (.triggered raw state.ledger) rfl
    cases admitted with
    | tooEarly unready => exact ⟨undumped, entered⟩
    | outOfRange ready refused => exact ⟨undumped, entered⟩
    | present ready located installed => exact ⟨undumped, entered.note _ rfl⟩
    | reentered ready located notInstalled refused => exact ⟨undumped, entered⟩
    | @requested _ i ledger _ _ ready located reserved obtained =>
      have asking : Unwritten past files (state.reserved raw i ledger).outside.world :=
        entered.note (.notice (.compiling i)) rfl
      have talked := asking.talk (Trigger.replied_talks service state.compiler i
        (state.reserved raw i ledger).outside)
      refine ⟨undumped, ?_⟩
      cases Trigger.obtain_eq_iff.mp obtained with
      | refused answer => exact talked
      | kept answer _ => exact talked.note _ rfl
      | undumped answer dumping _ => cases undumped.symm.trans dumping
      | dumped answer dumping _ => cases undumped.symm.trans dumping

theorem prepared {service : Service σ} {source : String} {outside after : Outside σ}
    {result : Except Session.Fault (Service.Compiler × Bytes)}
    (unwritten : Unwritten past files outside.world)
    (prepared : Session.Prepared service source outside none result after) :
    Unwritten past files after.world := by
  cases prepared with
  | unparsed refused =>
    obtain ⟨_, talks⟩ := Session.parsed_talks service source outside
    exact unwritten.talk talks
  | @unbuilt ir _ parse refused =>
    obtain ⟨_, talks⟩ := Session.built_talks service source outside ir
    exact unwritten.talk talks
  | @unmade ir compiler _ parse build refused =>
    obtain ⟨_, talks⟩ := Session.made_talks service source outside ir compiler
    exact unwritten.talk talks
  | undumped answers dumping refused => cases dumping
  | dumped answers dumping written => cases dumping
  | @kept ir compiler blob answers undumped =>
    obtain ⟨_, talks⟩ := Session.made_talks service source outside ir compiler
    exact ((unwritten.talk talks).note _ rfl).note _ rfl

end Unwritten

namespace Session

variable {service : Service σ} {limits : Limits} {source : String} {settings : Settings}
  {outside : Outside σ} {past : List Event} {dir : DumpDir} {place : Place}

/-- However set-up ends, the directory holds the skeleton as soon as there is one. -/
theorem Started.copied {result : Except (Fault × Outside σ) (Session σ)}
    (started : Started service limits source settings outside result)
    (dumping : settings.dump = some dir.dir) (copied : Copied past dir place outside.world []) :
    ∃ events, Copied past dir place (afterStart result).world events ∧
      ((∃ failure, result = .error failure) ∧ events.filterMap Event.received? = [] ∨
        ∃ ir compiler blob, service.Answers source outside.service ir compiler blob ∧
          events.filterMap Event.received? = [(.skeleton compiler, blob)] ∧
          ∀ session, result = .ok session →
            session.state.dump = some dir ∧ session.state.compiler = compiler) := by
  have dumps : settings.dump.map DumpDir.mk = some dir := by
    rw [dumping]
    rfl
  have loaded : ∀ {compiler : Service.Compiler} {blob : Bytes} {after : Outside σ}
      {found : Except (Stop Fault) Skeleton} {m : DispatchMachine σ},
      Prepared service source outside (some dir) (.ok (compiler, blob)) after →
      Skeleton.Loading (call service limits) blob
        ⟨dispatchStore, HostState.fresh after compiler (some dir)⟩ found m →
      ∃ ir events, Copied past dir place m.host.outside.world events ∧
        m.host.dump = some dir ∧ m.host.compiler = compiler ∧
        service.Answers source outside.service ir compiler blob ∧
        events.filterMap Event.received? = [(.skeleton compiler, blob)] := by
    intro compiler blob after found m prepared loading
    obtain ⟨events, copied, ⟨_, failed, _⟩ | ⟨ir, _, _, same, answers, received⟩⟩ :=
      copied.prepared prepared
    · cases failed
    obtain ⟨rfl, rfl⟩ := Prod.mk.inj (Except.ok.inj same)
    obtain ⟨world, more, host, files, history, early⟩ := loading.early
    have unreceived : more.filterMap Event.received? = [] :=
      List.filterMap_eq_nil_iff.mpr fun event member => (early event member).2.1
    rw [host]
    refine ⟨ir, _, copied.move files history ?_ ?_, rfl, rfl, answers, ?_⟩
    · refine List.filterMap_eq_nil_iff.mpr fun event member => ?_
      rw [Event.copy?, (early event member).2.1]
      rfl
    · exact List.filterMap_eq_nil_iff.mpr fun event member => (early event member).2.2
    · rw [List.filterMap_append, unreceived, List.append_nil]
      exact received
  cases started with
  | unprepared prepared =>
    rw [dumps] at prepared
    obtain ⟨events, copied, ⟨_, _, received⟩ | ⟨_, _, _, done, _⟩⟩ := copied.prepared prepared
    · exact ⟨events, copied, .inl ⟨⟨_, rfl⟩, received⟩⟩
    · cases done
  | unloaded prepared loading =>
    rw [dumps] at prepared loading
    obtain ⟨ir, events, copied, _, _, answers, received⟩ := loaded prepared loading
    exact ⟨events, copied, .inr ⟨ir, _, _, answers, received, nofun⟩⟩
  | ready prepared loading =>
    rw [dumps] at prepared loading
    obtain ⟨ir, events, copied, dump, compiler, answers, received⟩ := loaded prepared loading
    refine ⟨events, copied, .inr ⟨ir, _, _, answers, received, ?_⟩⟩
    rintro session ⟨rfl⟩
    exact ⟨dump, compiler⟩

theorem Started.unwritten {result : Except (Fault × Outside σ) (Session σ)}
    (started : Started service limits source settings outside result)
    (undumped : settings.dump = none) :
    Unwritten outside.world.history.toList outside.world.files (afterStart result).world ∧
      ∀ session, result = .ok session → session.state.dump = none := by
  have dumps : settings.dump.map DumpDir.mk = none := by
    rw [undumped]
    rfl
  have loaded : ∀ {compiler : Service.Compiler} {blob : Bytes} {after : Outside σ}
      {found : Except (Stop Fault) Skeleton} {m : DispatchMachine σ},
      Prepared service source outside none (.ok (compiler, blob)) after →
      Skeleton.Loading (call service limits) blob
        ⟨dispatchStore, HostState.fresh after compiler none⟩ found m →
      Unwritten outside.world.history.toList outside.world.files m.host.outside.world ∧
        m.host.dump = none := by
    intro compiler blob after found m prepared loading
    obtain ⟨world, more, host, files, history, early⟩ := loading.early
    rw [host]
    refine ⟨((Unwritten.start _).prepared prepared).move files history ?_, rfl⟩
    exact List.filterMap_eq_nil_iff.mpr fun event member => (early event member).2.2
  cases started with
  | unprepared prepared =>
    rw [dumps] at prepared
    exact ⟨(Unwritten.start _).prepared prepared, nofun⟩
  | unloaded prepared loading =>
    rw [dumps] at prepared loading
    exact ⟨(loaded prepared loading).1, nofun⟩
  | ready prepared loading =>
    rw [dumps] at prepared loading
    refine ⟨(loaded prepared loading).1, ?_⟩
    rintro session ⟨rfl⟩
    exact (loaded prepared loading).2

end Session

namespace Trigger

/-- If the blob of a function cannot be written, the call of the trigger fails with that, and
nothing of the blob is loaded. -/
theorem fire_undumped {service : Service σ} (run : Invoker HostFunc (HostState σ) Session.Fault)
    {raw : Int32} {m : DispatchMachine σ} {i : FuncId} {dir : DumpDir} {blob : Bytes}
    {cause : FileFault} (ready : m.host.shared.isSome) (dumping : m.host.dump = some dir)
    (located : m.host.ledger.table.locate raw = .ok i)
    (stub : m.host.ledger.table.slot? i = some .stub)
    (answered : (service.unit m.host.compiler i m.host.outside.service).result = .ok blob)
    (refused : m.host.outside.world.files.write (dir.pathOfUnit i) blob = .error cause) :
    ∃ (host : HostState σ) (notices : List Notice),
      fire service run raw m =
        (.error (.failed (.unwritable (dir.pathOfUnit i) cause)), { m with host }) ∧
      host.outside.world.files = m.host.outside.world.files ∧
      host.history = m.host.history ++ [Event.triggered raw m.host.ledger, .notice (.compiling i),
        .request (.unit m.host.compiler i)] ++ notices.map .notice ++
        [Event.received (.unit m.host.compiler i) blob,
          .settled raw (.error (.unwritable (dir.pathOfUnit i) cause))] := by
  obtain ⟨shared, opened⟩ := Option.isSome_iff_exists.mp ready
  obtain ⟨ledger, reserved, _⟩ := Ledger.reserve_of_stub stub
  have asked : (m.host.reserved raw i ledger).history =
      m.host.history ++ [Event.triggered raw m.host.ledger] ++ [Event.notice (.compiling i)] := by
    refine (HostState.history_record _ _).trans ?_
    rw [HostState.history_ledger, HostState.history_enter]
  have blocked : obtain service m.host.compiler m.host.dump i
      (m.host.reserved raw i ledger).outside = _ :=
    obtain_eq_iff.mpr (.undumped answered dumping refused)
  rw [fire_of_admitted run (.requested opened located reserved blocked), settle_eq]
  have history := history_brought service m.host.compiler i (m.host.reserved raw i ledger).outside
    blob
  change _ = (m.host.reserved raw i ledger).history ++ _ at history
  rw [asked] at history
  refine ⟨_, (service.unit m.host.compiler i m.host.outside.service).notices, rfl,
    files_brought service m.host.compiler i (m.host.reserved raw i ledger).outside blob,
    (HostState.history_record _ _).trans ?_⟩
  change Array.toList (World.history (Outside.world (brought _ _ _ _ _))) ++ _ = _
  rw [history]
  simp only [List.append_assoc, List.cons_append, List.nil_append]
  rfl

end Trigger

namespace Session

variable {service : Service σ} {limits : Limits} {source : String} {settings : Settings}
  {outside : Outside σ} {past : List Event} {dir : DumpDir} {place : Place}

/-- What is in the directory of a dump after any number of runs. -/
theorem rerun_copied {session : Session σ}
    (started : start service limits source settings outside = .ok session)
    (dumping : settings.dump = some dir.dir)
    (copied : Copied past dir place outside.world []) (runs : Nat) :
    ∃ ir skeleton events, service.Answers source outside.service ir session.state.compiler skeleton ∧
      Copied past dir place (session.rerun service limits runs).world events ∧
      .received (.skeleton session.state.compiler) skeleton ∈ events := by
  have way := start_started service limits source settings outside
  rw [started] at way
  obtain ⟨first, copied, ⟨⟨_, failed⟩, _⟩ | ⟨ir, _, skeleton, answers, received, same⟩⟩ :=
    way.copied dumping copied
  · cases failed
  obtain ⟨dump, rfl⟩ := same session rfl
  have before : session.state.dump = some dir ∧
      ∃ events, Copied past dir place session.state.outside.world events := ⟨dump, first, copied⟩
  obtain ⟨_, events, later⟩ := rerun_kept (Copied.kept service past dir place) limits runs before
  refine ⟨ir, skeleton, events, answers, later, ?_⟩
  obtain ⟨rest, grown⟩ := (rerun_grows service limits runs session).history
  have before : session.state.history = past ++ first := copied.history
  have after : (session.rerun service limits runs).state.history = past ++ events := later.history
  rw [before, after, List.append_assoc] at grown
  rw [← List.append_cancel_left grown]
  refine List.mem_append_left _ (Event.mem_received_iff.mp ?_)
  rw [received]
  exact List.mem_singleton_self _

/-- The blobs that a session received are the skeleton and units, all from one compiler, and they
go into different files. -/
theorem received_of_rerun {session : Session σ}
    (started : start service limits source settings outside = .ok session) {runs : Nat}
    {events : List Event} (history : (session.rerun service limits runs).state.history =
      outside.world.history.toList ++ events) :
    ((copies events).map Prod.fst).Nodup ∧
      ∀ request blob, .received request blob ∈ events →
        request = .skeleton session.state.compiler ∨
          ∃ i, request = .unit session.state.compiler i := by
  have answers := received_sublist started history
  refine ⟨?_, fun request blob member => ?_⟩
  · rw [names_of_copies]
    exact (nodup_files (nodup_firstCalls _ _)).sublist (answers.filterMap _)
  · have listed := answers.subset
      (List.mem_map.mpr ⟨(request, blob), Event.mem_received_iff.mpr member, rfl⟩)
    rcases List.mem_cons.mp listed with skeleton | unit
    · exact .inl skeleton
    · obtain ⟨i, _, same⟩ := List.mem_map.mp unit
      exact .inr ⟨i, same.symm⟩

/-- Blobs are dumped as they are received. Into an empty directory that only the session writes to,
each goes once, into a file of its own, whatever becomes of it later. If it cannot be written,
that is how set-up or the call of the trigger ends, and the blob is not loaded. Without a
directory nothing is written. -/
theorem dumped_as_received (service : Service σ) (limits : Limits) (source : String)
    (settings : Settings) (outside : Outside σ) :
    (∀ (dir : DumpDir) (place : Place), settings.dump = some dir.dir →
      dir.At outside.world.files place →
      (∀ rest, rest ≠ [] → outside.world.files.entry? (place ++ rest) = none) →
      (∀ session, start service limits source settings outside = .ok session → ∀ runs,
        ∃ (ir : Service.Parsed) (skeleton : Bytes) (events : List Event),
          service.Answers source outside.service ir session.state.compiler skeleton ∧
          (session.rerun service limits runs).state.history =
            outside.world.history.toList ++ events ∧
          .received (.skeleton session.state.compiler) skeleton ∈ events ∧
          (∀ rest entry, rest ≠ [] →
            ((session.rerun service limits runs).world.files.entry? (place ++ rest) = some entry ↔
              rest = [DumpDir.skeletonFile] ∧ entry = .file skeleton ∨
              ∃ i blob, rest = [DumpDir.unitFile i] ∧ entry = .file blob ∧
                .received (.unit session.state.compiler i) blob ∈ events)) ∧
          (events.filterMap Event.wrote?).map Prod.snd =
            (events.filterMap Event.received?).map Prod.snd ∧
          ((events.filterMap Event.wrote?).map fun written =>
            ((session.rerun service limits runs).world.files.resolve written.1).toOption).Nodup) ∧
      ∀ fault after, start service limits source settings outside = .error (fault, after) →
        ∃ events : List Event,
          after.world.history.toList = outside.world.history.toList ++ events ∧
          ∀ rest entry, rest ≠ [] →
            (after.world.files.entry? (place ++ rest) = some entry ↔
              ∃ compiler skeleton, rest = [DumpDir.skeletonFile] ∧ entry = .file skeleton ∧
                .received (.skeleton compiler) skeleton ∈ events)) ∧
    (∀ (dir : DumpDir) (ir : Service.Parsed) (compiler : Service.Compiler) (blob : Bytes)
      (cause : FileFault), settings.dump = some dir.dir →
      service.Answers source outside.service ir compiler blob →
      outside.world.files.write dir.pathOfSkeleton blob = .error cause →
      start service limits source settings outside =
        .error (.unwritable dir.pathOfSkeleton cause,
          arrived service source outside ir compiler blob)) ∧
    (∀ (run : Invoker HostFunc (HostState σ) Fault) (raw : Int32) (m : DispatchMachine σ)
      (i : FuncId) (dir : DumpDir) (blob : Bytes) (cause : FileFault),
      m.host.shared.isSome → m.host.dump = some dir → m.host.ledger.table.locate raw = .ok i →
      m.host.ledger.table.slot? i = some .stub →
      (service.unit m.host.compiler i m.host.outside.service).result = .ok blob →
      m.host.outside.world.files.write (dir.pathOfUnit i) blob = .error cause →
      ∃ (host : HostState σ) (notices : List Notice),
        Trigger.fire service run raw m =
          (.error (.failed (.unwritable (dir.pathOfUnit i) cause)), { m with host }) ∧
        host.outside.world.files = m.host.outside.world.files ∧
        host.history = m.host.history ++ [.triggered raw m.host.ledger, .notice (.compiling i),
          .request (.unit m.host.compiler i)] ++ notices.map .notice ++
          [.received (.unit m.host.compiler i) blob,
            .settled raw (.error (.unwritable (dir.pathOfUnit i) cause))]) ∧
    (settings.dump = none →
      (afterStart (start service limits source settings outside)).world.files =
        outside.world.files ∧
      (afterStart (start service limits source settings outside)).world.written =
        outside.world.written ∧
      ∀ session, start service limits source settings outside = .ok session → ∀ runs,
        (session.rerun service limits runs).world.files = outside.world.files ∧
        (session.rerun service limits runs).world.written = outside.world.written) := by
  refine ⟨?_, ?_, ?_, ?_⟩
  · intro dir place dumping lies empty
    have fresh := Copied.start lies empty
    refine ⟨fun session started runs => ?_, fun fault after failed => ?_⟩
    · obtain ⟨ir, skeleton, events, answers, copied, arrived⟩ :=
        rerun_copied started dumping fresh runs
      obtain ⟨distinct, kinds⟩ := received_of_rerun started copied.history
      refine ⟨ir, skeleton, events, answers, copied.history, arrived, ?_, copied.all_written ?_,
        copied.distinct_places distinct⟩
      · intro rest entry below
        rw [copied.found_iff distinct below]
        constructor
        · rintro ⟨name, blob, rfl, rfl, member⟩
          obtain ⟨request, received, named⟩ := mem_copies_iff.mp member
          obtain rfl | ⟨i, rfl⟩ := kinds request blob received
          · cases named
            obtain rfl := received_once started copied.history arrived received
            exact .inl ⟨rfl, rfl⟩
          · cases named
            exact .inr ⟨i, blob, rfl, rfl, received⟩
        · rintro (⟨rfl, rfl⟩ | ⟨i, blob, rfl, rfl, received⟩)
          · exact ⟨_, _, rfl, rfl, mem_copies_iff.mpr ⟨_, arrived, rfl⟩⟩
          · exact ⟨_, _, rfl, rfl, mem_copies_iff.mpr ⟨_, received, rfl⟩⟩
      · intro request blob received
        obtain rfl | ⟨i, rfl⟩ := kinds request blob received
        · rfl
        · rfl
    · obtain ⟨events, copied, received⟩ :=
        (failed ▸ start_started service limits source settings outside).copied dumping fresh
      obtain ⟨distinct, kinds⟩ : ((copies events).map Prod.fst).Nodup ∧
          ∀ request blob, .received request blob ∈ events →
            ∃ compiler, request = .skeleton compiler := by
        rw [names_of_copies]
        simp only [← Event.mem_received_iff]
        obtain ⟨_, none⟩ | ⟨_, compiler, blob, _, one, _⟩ := received
        · simp [none]
        · simp [one, DumpDir.file?]
      refine ⟨events, copied.history, fun rest entry below =>
        (copied.found_iff distinct below).trans ?_⟩
      constructor
      · rintro ⟨name, blob, rfl, rfl, member⟩
        obtain ⟨request, received, named⟩ := mem_copies_iff.mp member
        obtain ⟨compiler, rfl⟩ := kinds request blob received
        cases named
        exact ⟨compiler, blob, rfl, rfl, received⟩
      · rintro ⟨compiler, skeleton, rfl, rfl, received⟩
        exact ⟨_, _, rfl, rfl, mem_copies_iff.mpr ⟨_, received, rfl⟩⟩
  · intro dir ir compiler blob cause dumping answers refused
    refine start_of_unprepared ?_
    rw [dumping]
    exact .undumped answers rfl refused
  · intro run raw m i dir blob cause ready dumping located stub answered refused
    exact Trigger.fire_undumped run ready dumping located stub answered refused
  · intro undumped
    obtain ⟨unwritten, undumping⟩ :=
      (start_started service limits source settings outside).unwritten undumped
    refine ⟨unwritten.files, unwritten.written, fun session started runs => ?_⟩
    rw [started] at unwritten
    have later := rerun_kept (Unwritten.kept service outside.world.history.toList
      outside.world.files) limits runs ⟨undumping session started, unwritten⟩
    exact ⟨later.2.files, later.2.written⟩

end Session

namespace Sample

/-- A service whose unit of the second function is no module. -/
def faulty : Script := { script with units := [(⟨0⟩, .ok caller), (⟨1⟩, .ok [1, 2, 3])] }

def dumping : Settings := { Settings.default with dump := some "out" }

/-- A world with some directories and no files. -/
def shelves (places : List Place) : World :=
  ⟨⟨places.map (·, .directory), []⟩, .kept #[], #[]⟩

end Sample

namespace Session

/-- A unit that is no module is dumped all the same. A missing directory ends set-up, a directory in
the place of a file ends the call of the trigger, and without dumping no file appears. -/
theorem sample_dumped :
    (∃ session : Session Unit, start Sample.faulty.service Sample.limits "" Sample.dumping
        ⟨(), Sample.shelves [["out"]]⟩ = .ok session ∧
      (session.rerun Sample.faulty.service Sample.limits 1).world.files.entry? ["out", "1.wasm"] =
        some (.file [1, 2, 3]) ∧
      .received (.unit session.state.compiler ⟨1⟩) [1, 2, 3] ∈
        (session.rerun Sample.faulty.service Sample.limits 1).state.history) ∧
    (∃ after, start Sample.faulty.service Sample.limits "" Sample.dumping
        ⟨(), Sample.shelves []⟩ = .error (.unwritable "out/skeleton.wasm" .notFound, after)) ∧
    (∃ session : Session Unit, start Sample.faulty.service Sample.limits "" Sample.dumping
        ⟨(), Sample.shelves [["out"], ["out", "0.wasm"]]⟩ = .ok session ∧
      (Trigger.fire Sample.faulty.service (call Sample.faulty.service Sample.limits) 0
          session.machine).1 = .error (.failed (.unwritable "out/0.wasm" .isADirectory))) ∧
    (afterStart (start Sample.faulty.service Sample.limits "" Settings.default
      ⟨(), Sample.shelves []⟩)).world.files = ⟨[], []⟩ := by
  refine ⟨?_, ?_, ?_, ?_⟩
  · have seen : ((start Sample.faulty.service Sample.limits "" Sample.dumping
        ⟨(), Sample.shelves [["out"]]⟩).toOption.map fun session =>
          (session.rerun Sample.faulty.service Sample.limits 1).world.files.entry?
            ["out", "1.wasm"]) = some (some (.file [1, 2, 3])) := by
      decide +kernel
    obtain ⟨session, started, there⟩ := exists_ok_of_seen seen
    have empty : ∀ rest, rest ≠ [] →
        (Sample.shelves [["out"]]).files.entry? (["out"] ++ rest) = none := by
      intro rest below
      cases rest with
      | nil => exact absurd rfl below
      | cons name rest => simp [Sample.shelves, FileTree.entry?, List.lookup_cons]
    obtain ⟨_, _, events, _, history, _, found, _⟩ :=
      ((dumped_as_received Sample.faulty.service Sample.limits "" Sample.dumping
        ⟨(), Sample.shelves [["out"]]⟩).1 ⟨"out"⟩ ["out"] rfl ⟨by decide +kernel, by decide +kernel⟩
          empty).1 session started 1
    obtain ⟨skeleton, _⟩ | ⟨i, blob, name, contents, received⟩ :=
      (found ["1.wasm"] _ (by decide)).mp there
    · exact absurd skeleton (by decide)
    obtain rfl : i = ⟨1⟩ := DumpDir.unitFile_injective
      ((List.singleton_inj.mp name).symm.trans (by decide +kernel))
    obtain rfl := FileEntry.file.inj contents
    refine ⟨session, started, there, ?_⟩
    rw [history]
    exact List.mem_append_right _ received
  · obtain ⟨_, unwritten, _⟩ := dumped_as_received Sample.faulty.service Sample.limits ""
      Sample.dumping ⟨(), Sample.shelves []⟩
    exact ⟨_, unwritten ⟨"out"⟩ ⟨1⟩ ⟨2⟩ Sample.skeleton .notFound rfl ⟨rfl, rfl, rfl⟩
      (by decide +kernel)⟩
  · have seen : ((start Sample.faulty.service Sample.limits "" Sample.dumping
        ⟨(), Sample.shelves [["out"], ["out", "0.wasm"]]⟩).toOption.map fun session =>
          (session.state.shared.isSome, session.state.dump, session.state.ledger,
            session.world.files)) =
        some (true, some ⟨"out"⟩, Ledger.ofSize 2,
          (Sample.shelves [["out"], ["out", "0.wasm"]]).files.put ["out", "skeleton.wasm"]
            (.file Sample.skeleton)) := by
      decide +kernel
    obtain ⟨session, started, seen⟩ := exists_ok_of_seen seen
    obtain ⟨ready, rest⟩ := Prod.mk.inj seen
    obtain ⟨dump, rest⟩ := Prod.mk.inj rest
    obtain ⟨ledger, files⟩ := Prod.mk.inj rest
    have located : session.state.ledger.table.locate 0 = .ok ⟨0⟩ := by
      rw [ledger]
      decide +kernel
    have stub : session.state.ledger.table.slot? ⟨0⟩ = some .stub := by
      rw [ledger]
      decide +kernel
    have refused : session.world.files.write (DumpDir.pathOfUnit ⟨"out"⟩ ⟨0⟩) Sample.caller =
        .error .isADirectory := by
      rw [files]
      decide +kernel
    obtain ⟨host, _, fired, _⟩ := (dumped_as_received Sample.faulty.service Sample.limits ""
      Sample.dumping ⟨(), Sample.shelves [["out"], ["out", "0.wasm"]]⟩).2.2.1
        (call Sample.faulty.service Sample.limits) 0 session.machine ⟨0⟩ ⟨"out"⟩ Sample.caller
          .isADirectory ready dump located stub rfl refused
    have path : DumpDir.pathOfUnit ⟨"out"⟩ ⟨0⟩ = "out/0.wasm" := by
      decide +kernel
    refine ⟨session, started, ?_⟩
    rw [fired, path]
  · exact ((dumped_as_received Sample.faulty.service Sample.limits "" Settings.default
      ⟨(), Sample.shelves []⟩).2.2.2 rfl).1

end Session

end FirstCall
