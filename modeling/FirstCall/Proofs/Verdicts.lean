import FirstCall.CommandLine.Command
import FirstCall.Proofs.Defenses

/-!
# Verdicts

A command reads its source, loads the compiler service, sets up a session and runs it, and the first
of these steps that fails is the one that its diagnostic is about. The diagnostic is found by the
shape of the failure alone. It names the right party since no operation of a loaded service fails in
the way in which a service fails to load, and nothing on the way wraps a failure.
-/

namespace FirstCall

open Wasm

/-- The functions that a service has to export, with the numbers of their parameters, in the order
in which they are looked up. -/
def Service.Artifact.operations : List (String × Nat) :=
  [("alloc", 1), ("make_ir_module", 1), ("make_compiler", 1), ("compile_skeleton", 2),
    ("compile_func", 3)]

namespace Service.Artifact

/-- A service lacks something that it has to export, or exports a function under another type. -/
inductive Lacks (inst : Instance) (store : Store Empty) : Service.Fault → Prop where
  | memory (hidden : Heap.unsharedMemory? inst store "memory" = none) :
      Lacks inst store (.missingExport "memory")
  | missing {before after : List (String × Nat)} {name : String} {params : Nat}
      (memory : Heap.unsharedMemory? inst store "memory" ≠ none)
      (listed : operations = before ++ (name, params) :: after)
      (earlier : ∀ operation ∈ before, ∃ addr,
        Heap.typedExport inst store operation.1 operation.2 = .ok addr)
      (hidden : inst.exportedFunc? name = none) : Lacks inst store (.missingExport name)
  | mistyped {before after : List (String × Nat)} {name : String} {params addr : Nat}
      (memory : Heap.unsharedMemory? inst store "memory" ≠ none)
      (listed : operations = before ++ (name, params) :: after)
      (earlier : ∀ operation ∈ before, ∃ addr,
        Heap.typedExport inst store operation.1 operation.2 = .ok addr)
      (exported : inst.exportedFunc? name = some addr)
      (unlike : (store.funcs[addr]?).map FuncInst.type ≠ some (Heap.intType params)) :
      Lacks inst store (.unloadable .signature)

/-- The artifact at the path cannot be read, is no module, needs imports, stops while it is loaded,
or lacks an export. -/
inductive Unusable (limits : Limits) (files : FileTree) (path : String) : Service.Fault → Prop where
  | unread {cause : FileFault} (refused : files.read path = .error cause) :
      Unusable limits files path (.unreadable path cause)
  | malformed {blob : Bytes} {defect : Defect} (read : files.read path = .ok blob)
      (decoded : Module.ofBlob blob = .error defect) :
      Unusable limits files path (.unloadable (.defect defect))
  | needy {blob : Bytes} {m : Module} (read : files.read path = .ok blob)
      (decoded : Module.ofBlob blob = .ok m) (imports : m.imports ≠ []) :
      Unusable limits files path (.unloadable .unlinkable)
  | stopped {blob : Bytes} {m : Module} {why : Stop Empty} {machine : ServiceMachine}
      (read : files.read path = .ok blob) (decoded : Module.ofBlob blob = .ok m)
      (imports : m.imports = [])
      (ran : instantiate (ServiceMachine.call limits) m [] ServiceMachine.empty =
        (.error why, machine)) :
      Unusable limits files path (.unloadable (ServiceMachine.cause why))
  | lacking {blob : Bytes} {m : Module} {inst : Instance} {machine : ServiceMachine}
      {fault : Service.Fault} (read : files.read path = .ok blob)
      (decoded : Module.ofBlob blob = .ok m) (imports : m.imports = [])
      (ran : instantiate (ServiceMachine.call limits) m [] ServiceMachine.empty =
        (.ok inst, machine))
      (lacks : Lacks inst machine.store fault) : Unusable limits files path fault

section

variable {inst : Instance} {store : Store Empty} {fault : Service.Fault}

theorem typedExport_error_iff {name : String} {params : Nat} :
    Heap.typedExport inst store name params = .error fault ↔
      (inst.exportedFunc? name = none ∧ fault = .missingExport name) ∨
      ∃ addr, inst.exportedFunc? name = some addr ∧
        (store.funcs[addr]?).map FuncInst.type ≠ some (Heap.intType params) ∧
        fault = .unloadable .signature := by
  unfold Heap.typedExport
  cases inst.exportedFunc? name with
  | none => simp [eq_comm]
  | some addr =>
    simp only [Session.any_type_iff, Option.some.injEq, reduceCtorEq, false_and, false_or,
      exists_eq_left']
    by_cases typed : (store.funcs[addr]?).map FuncInst.type = some (Heap.intType params)
    · simp [typed]
    · simp [typed, eq_comm]

theorem mapM_error_iff {α β ε : Type} {items : List α} {find : α → Except ε β} {why : ε} :
    items.mapM find = .error why ↔
      ∃ before item after, items = before ++ item :: after ∧
        (∀ earlier ∈ before, ∃ value, find earlier = .ok value) ∧ find item = .error why := by
  induction items with
  | nil => simp [pure, Except.pure]
  | cons first rest ih =>
    rw [List.mapM_cons]
    constructor
    · intro failed
      cases found : find first with
      | error reason =>
        rw [found] at failed
        cases failed
        exact ⟨[], first, rest, rfl, nofun, found⟩
      | ok value =>
        rw [found] at failed
        have later : rest.mapM find = .error why := by
          cases others : rest.mapM find with
          | error reason =>
            rw [others] at failed
            cases failed
            rfl
          | ok values =>
            rw [others] at failed
            cases failed
        obtain ⟨before, item, after, rfl, earlier, missing⟩ := ih.mp later
        refine ⟨first :: before, item, after, rfl, fun other inside => ?_, missing⟩
        rcases List.mem_cons.mp inside with rfl | inside
        · exact ⟨value, found⟩
        · exact earlier other inside
    · rintro ⟨before, item, after, listed, earlier, missing⟩
      cases before with
      | nil =>
        obtain ⟨rfl, rfl⟩ := List.cons.inj listed
        rw [missing]
        rfl
      | cons other before =>
        rw [List.cons_append] at listed
        obtain ⟨rfl, same⟩ := List.cons.inj listed
        obtain ⟨value, found⟩ := earlier first List.mem_cons_self
        have later := ih.mpr ⟨before, item, after, same,
          fun other inside => earlier other (List.mem_cons_of_mem _ inside), missing⟩
        rw [found, later]
        rfl

theorem ofInstance_of_memory {addr : Nat}
    (memory : Heap.unsharedMemory? inst store "memory" = some addr) :
    ofInstance inst store = .error fault ↔
      operations.mapM (fun operation => Heap.typedExport inst store operation.1 operation.2) =
        .error fault := by
  unfold ofInstance Heap.ofInstance operations
  rw [memory]
  simp only [List.mapM_cons, List.mapM_nil]
  have same : ∀ reason, (.error reason : Except Service.Fault Service.Artifact) = .error fault ↔
      (.error reason : Except Service.Fault (List Nat)) = .error fault := by simp
  cases Heap.typedExport inst store "alloc" 1 with
  | error reason => exact same reason
  | ok alloc =>
    cases Heap.typedExport inst store "make_ir_module" 1 with
    | error reason => exact same reason
    | ok parse =>
      cases Heap.typedExport inst store "make_compiler" 1 with
      | error reason => exact same reason
      | ok build =>
        cases Heap.typedExport inst store "compile_skeleton" 2 with
        | error reason => exact same reason
        | ok skeleton =>
          cases Heap.typedExport inst store "compile_func" 3 with
          | error reason => exact same reason
          | ok unit => exact ⟨nofun, nofun⟩

theorem ofInstance_error_iff : ofInstance inst store = .error fault ↔ Lacks inst store fault := by
  cases memory : Heap.unsharedMemory? inst store "memory" with
  | none =>
    have missing : ofInstance inst store = .error (.missingExport "memory") := by
      unfold ofInstance Heap.ofInstance
      rw [memory]
      rfl
    rw [missing]
    constructor
    · intro same
      obtain rfl := Except.error.inj same
      exact .memory memory
    · intro lacks
      cases lacks with
      | memory hidden => rfl
      | missing there => exact absurd memory there
      | mistyped there => exact absurd memory there
  | some addr =>
    have there : Heap.unsharedMemory? inst store "memory" ≠ none := by
      rw [memory]
      exact nofun
    rw [ofInstance_of_memory memory, mapM_error_iff]
    constructor
    · rintro ⟨before, ⟨name, params⟩, after, listed, earlier, refused⟩
      obtain ⟨hidden, rfl⟩ | ⟨found, exported, unlike, rfl⟩ := typedExport_error_iff.mp refused
      · exact .missing there listed earlier hidden
      · exact .mistyped there listed earlier exported unlike
    · intro lacks
      cases lacks with
      | memory hidden => exact absurd hidden there
      | missing _ listed earlier hidden =>
        exact ⟨_, _, _, listed, earlier, typedExport_error_iff.mpr (.inl ⟨hidden, rfl⟩)⟩
      | mistyped _ listed earlier exported unlike =>
        exact ⟨_, _, _, listed, earlier,
          typedExport_error_iff.mpr (.inr ⟨_, exported, unlike, rfl⟩)⟩

end

section Loading

variable {limits : Limits} {files : FileTree} {path : String} {blob : Bytes} {m : Module}
  {fault : Service.Fault} {inst : Instance} {machine : ServiceMachine}

theorem instantiateAlone_of_needy (imports : m.imports ≠ []) :
    instantiateAlone limits m = (.error (.unloadable .unlinkable), ServiceMachine.empty) :=
  if_neg (by simpa using imports)

theorem instantiateAlone_of_stopped {why : Stop Empty} (imports : m.imports = [])
    (ran : instantiate (ServiceMachine.call limits) m [] ServiceMachine.empty =
      (.error why, machine)) :
    instantiateAlone limits m = (.error (.unloadable (ServiceMachine.cause why)), machine) := by
  unfold instantiateAlone
  rw [imports, ran]
  rfl

theorem instantiateAlone_of_ok (imports : m.imports = [])
    (ran : instantiate (ServiceMachine.call limits) m [] ServiceMachine.empty =
      (.ok inst, machine)) :
    instantiateAlone limits m = (.ok inst, machine) := by
  unfold instantiateAlone
  rw [imports, ran]
  rfl

theorem ofBlob_of_defect {defect : Defect} (decoded : Module.ofBlob blob = .error defect) :
    ofBlob limits blob = .error (.unloadable (.defect defect)) := by
  unfold ofBlob
  rw [decoded]

theorem ofBlob_of_refused (decoded : Module.ofBlob blob = .ok m)
    (alone : instantiateAlone limits m = (.error fault, machine)) :
    ofBlob limits blob = .error fault := by
  unfold ofBlob
  rw [decoded]
  dsimp only
  rw [alone]
  rfl

theorem ofBlob_of_alone (decoded : Module.ofBlob blob = .ok m)
    (alone : instantiateAlone limits m = (.ok inst, machine)) :
    ofBlob limits blob = (ofInstance inst machine.store).map fun service => (service, machine) := by
  unfold ofBlob
  rw [decoded]
  dsimp only
  rw [alone]
  cases found : ofInstance inst machine.store with
  | error reason => simp [found, bind, Except.bind, Except.map]
  | ok service => simp [found, bind, Except.bind, Except.map, pure, Except.pure]

theorem ofFile_of_unread {cause : FileFault} (refused : files.read path = .error cause) :
    ofFile limits files path = .error (.unreadable path cause) := by
  unfold ofFile
  rw [refused]

theorem ofFile_of_read (read : files.read path = .ok blob) :
    ofFile limits files path = ofBlob limits blob := by
  unfold ofFile
  rw [read]

theorem ofFile_error_iff :
    ofFile limits files path = .error fault ↔ Unusable limits files path fault := by
  constructor
  · intro failed
    cases read : files.read path with
    | error cause =>
      rw [ofFile_of_unread read] at failed
      obtain rfl := Except.error.inj failed
      exact .unread read
    | ok blob =>
      rw [ofFile_of_read read] at failed
      cases decoded : Module.ofBlob blob with
      | error defect =>
        rw [ofBlob_of_defect decoded] at failed
        obtain rfl := Except.error.inj failed
        exact .malformed read decoded
      | ok m =>
        by_cases imports : m.imports = []
        · cases ran : instantiate (ServiceMachine.call limits) m [] ServiceMachine.empty with
          | mk result machine =>
            cases result with
            | error why =>
              rw [ofBlob_of_refused decoded (instantiateAlone_of_stopped imports ran)] at failed
              obtain rfl := Except.error.inj failed
              exact .stopped read decoded imports ran
            | ok inst =>
              rw [ofBlob_of_alone decoded (instantiateAlone_of_ok imports ran)] at failed
              refine .lacking read decoded imports ran (ofInstance_error_iff.mp ?_)
              cases found : ofInstance inst machine.store with
              | error reason =>
                rw [found] at failed
                exact congrArg _ (Except.error.inj failed)
              | ok service =>
                rw [found] at failed
                cases failed
        · rw [ofBlob_of_refused decoded (instantiateAlone_of_needy imports)] at failed
          obtain rfl := Except.error.inj failed
          exact .needy read decoded imports
  · intro unusable
    cases unusable with
    | unread refused => exact ofFile_of_unread refused
    | malformed read decoded => exact (ofFile_of_read read).trans (ofBlob_of_defect decoded)
    | needy read decoded imports =>
      rw [ofFile_of_read read, ofBlob_of_refused decoded (instantiateAlone_of_needy imports)]
    | stopped read decoded imports ran =>
      rw [ofFile_of_read read, ofBlob_of_refused decoded (instantiateAlone_of_stopped imports ran)]
    | lacking read decoded imports ran lacks =>
      rw [ofFile_of_read read, ofBlob_of_alone decoded (instantiateAlone_of_ok imports ran),
        ofInstance_error_iff.mpr lacks]
      rfl

end Loading

/-- An artifact that cannot be loaded is blamed on the artifact. -/
theorem Unusable.ofSession {limits : Limits} {files : FileTree} {path : String}
    {fault : Service.Fault} (unusable : Unusable limits files path fault) :
    Command.Fault.ofSession path (.service fault) = .serviceUnavailable path fault := by
  cases unusable with
  | lacking _ _ _ _ lacks => cases lacks <;> rfl
  | _ => rfl

end Service.Artifact

namespace Session

variable {σ : Type}

def once (service : Service σ) (limits : Limits) (source : String) (settings : Settings)
    (outside : Outside σ) : Except Fault Int32 × World :=
  match start service limits source settings outside with
  | .error (fault, outside) => (.error fault, outside.world)
  | .ok session => ((session.run service limits).1, (session.run service limits).2.world)

variable (service : Service σ) (limits : Limits) (source : String) (settings : Settings)
  (outside : Outside σ)

theorem once_error_iff {fault : Fault} :
    (once service limits source settings outside).1 = .error fault ↔
      (∃ after, start service limits source settings outside = .error (fault, after)) ∨
      ∃ session, start service limits source settings outside = .ok session ∧
        (session.run service limits).1 = .error fault := by
  unfold once
  cases start service limits source settings outside with
  | error failure => simp [Prod.ext_iff]
  | ok session => simp

theorem once_ok_iff {value : Int32} :
    (once service limits source settings outside).1 = .ok value ↔
      ∃ session addr raw machine, start service limits source settings outside = .ok session ∧
        session.skeleton.entry session.machine.store session.entry = .ok addr ∧
        call service limits addr [] session.announced = (.ok [.i32 raw], machine) ∧
        value = raw.toInt32 := by
  unfold once
  cases start service limits source settings outside with
  | error failure => simp
  | ok session =>
    dsimp only
    constructor
    · intro answered
      cases found : session.skeleton.entry session.machine.store session.entry with
      | error fault =>
        rw [run_of_entry_error found] at answered
        cases answered
      | ok addr =>
        obtain ⟨result, machine, ran, called, _⟩ := run_course service limits found
        rw [ran] at answered
        obtain ⟨raw, rfl, ends⟩ | ⟨why, _, ends⟩ := conclude_cases session result machine
        · rw [ends] at answered
          exact ⟨session, addr, raw, machine, rfl, found, called, (Except.ok.inj answered).symm⟩
        · rw [ends] at answered
          cases answered
    · rintro ⟨other, addr, raw, machine, same, found, called, rfl⟩
      obtain rfl := Except.ok.inj same
      rw [run_of_entry found, called]
      rfl

/-- Set-up and the run fail by the service's doing exactly if a request was refused. -/
theorem once_replies :
    ∃ (asked : List Request) (refused : Option (Request × Service.Fault)),
      (once service limits source settings outside).2.requests = outside.world.requests ++ asked ∧
      (service.replay asked outside.service).1 = refused.toList ∧
      refused.map Prod.snd =
        refusalIn Fault.ofService? (once service limits source settings outside).1 := by
  obtain ⟨asked, refused, replies, same⟩ := start_replies service limits source settings outside
  unfold once
  cases started : start service limits source settings outside with
  | error failure =>
    rw [started] at replies same
    exact ⟨asked, refused, replies.requests, congrArg Prod.fst replies.replay, same⟩
  | ok session =>
    rw [started] at replies same
    obtain rfl := Option.map_eq_none_iff.mp same
    obtain ⟨more, denied, others, equal, _⟩ := run_replies service limits session
    have whole := replies.trans others
    exact ⟨_, denied, whole.requests, congrArg Prod.fst whole.replay, equal⟩

end Session

namespace Command

theorem Fault.ofSession_of_other (place : String) {fault : Session.Fault}
    (other : fault.ofService? = none) : ofSession place fault = .run fault := by
  cases fault with
  | service cause => cases other
  | _ => rfl

theorem Fault.ofSession_of_within (place : String) {stage : Service.Stage} {fault : Service.Fault}
    (within : fault.Within stage) : ofSession place (.service fault) = .compilation fault := by
  cases fault with
  | unreadable path cause => cases within
  | unloadable cause => cases within
  | missingExport name => cases within
  | _ => rfl

/-- What was logged before the artifact is loaded. -/
def prologue (settings : Settings) (path : String) (files : FileTree) (source : String) : World :=
  let world := (⟨files, .lines "", #[]⟩ : World).say (.sourceRead source.utf8ByteSize path)
  let world := match settings.dump with
    | none => world
    | some dir => world.say (.dumpingTo dir)
  (world.say (.running source.utf8ByteSize settings.service)).say (.loadingService settings.service)

/-- What is outside a session that a command sets up. -/
def ready (settings : Settings) (path : String) (files : FileTree) (source : String)
    (loaded : Service.Artifact) (machine : ServiceMachine) : Outside ServiceMachine :=
  ⟨machine, (prologue settings path files source).say (loaded.ready machine)⟩

section

variable (limits : Limits) (settings : Settings) (path : String) (files : FileTree)
  (source : String)

theorem prologue_quiet :
    (prologue settings path files source).requests = [] ∧
      (prologue settings path files source).files = files ∧
      (prologue settings path files source).sink = .lines "" ∧
      (prologue settings path files source).printed = [] ∧
      (prologue settings path files source).written = [] := by
  unfold prologue
  cases settings.dump <;>
    simp [World.requests, World.printed, World.written, World.say, World.record, Event.request?,
      Event.printed?, Event.wrote?]

theorem requests_ready (loaded : Service.Artifact) (machine : ServiceMachine) :
    (ready settings path files source loaded machine).world.requests = [] := by
  unfold ready
  change World.requests ((prologue settings path files source).record _) = []
  unfold World.requests World.record
  rw [Array.toList_push, List.filterMap_append]
  change World.requests (prologue settings path files source) ++ [] = []
  rw [(prologue_quiet settings path files source).1]
  rfl

variable {path files source}

theorem runFile_of_unread {cause : FileFault} (unread : files.readText path = .error cause) :
    runFile limits settings path files =
      (.error (.source path cause), ⟨files, .lines "", #[]⟩) := by
  unfold runFile
  rw [unread]

theorem runText_eq (world : World) :
    runText limits settings source world =
      match Service.Artifact.ofFile limits world.files settings.service with
      | .error fault => (.error (.service fault),
          (world.say (.running source.utf8ByteSize settings.service)).say
            (.loadingService settings.service))
      | .ok (loaded, machine) =>
        Session.once (loaded.toService limits) limits source settings
          ⟨machine, ((world.say (.running source.utf8ByteSize settings.service)).say
            (.loadingService settings.service)).say (loaded.ready machine)⟩ := by
  unfold runText
  change (match Service.Artifact.ofFile limits world.files settings.service with
    | .error fault => _
    | .ok (loaded, machine) => _) = _
  cases Service.Artifact.ofFile limits world.files settings.service with
  | error fault => rfl
  | ok found =>
    dsimp only [Session.once]
    cases Session.start (found.1.toService limits) limits source settings _ with
    | error failure => rfl
    | ok session => rfl

/-- What a command does with its source. -/
theorem runFile_of_read (read : files.readText path = .ok source) :
    runFile limits settings path files =
      match Service.Artifact.ofFile limits files settings.service with
      | .error fault => (.error (Fault.ofSession settings.service (.service fault)),
          prologue settings path files source)
      | .ok (loaded, machine) =>
        let (result, world) := Session.once (loaded.toService limits) limits source settings
          (ready settings path files source loaded machine)
        (result.mapError (Fault.ofSession settings.service), world) := by
  unfold runFile
  rw [read]
  dsimp only
  rw [runText_eq]
  unfold ready prologue
  cases dump : settings.dump with
  | none =>
    dsimp only [World.say, World.record]
    cases Service.Artifact.ofFile limits files settings.service with
    | error fault => rfl
    | ok found => rfl
  | some dir =>
    dsimp only [World.say, World.record]
    cases Service.Artifact.ofFile limits files settings.service with
    | error fault => rfl
    | ok found => rfl

/-- How a command whose artifact was loaded comes out, by the outcome of its session. -/
theorem served {loaded : Service.Artifact} {machine : ServiceMachine}
    (read : files.readText path = .ok source)
    (usable : Service.Artifact.ofFile limits files settings.service = .ok (loaded, machine)) :
    (∀ value, (runFile limits settings path files).1 = .ok value ↔
      (Session.once (loaded.toService limits) limits source settings
        (ready settings path files source loaded machine)).1 = .ok value) ∧
    (∀ fault, (runFile limits settings path files).1 = .error (.run fault) ↔
      (Session.once (loaded.toService limits) limits source settings
        (ready settings path files source loaded machine)).1 = .error fault ∧
        ∀ refusal, fault ≠ .service refusal) ∧
    (∀ fault, (runFile limits settings path files).1 = .error (.compilation fault) ↔
      ∃ request, (request, fault) ∈ ((loaded.toService limits).replay
        (runFile limits settings path files).2.requests machine).1) ∧
    (∀ place cause, (runFile limits settings path files).1 ≠ .error (.source place cause)) ∧
    ∀ place fault, (runFile limits settings path files).1 ≠
      .error (.serviceUnavailable place fault) := by
  obtain ⟨asked, refused, requests, replay, same⟩ := Session.once_replies (loaded.toService limits)
    limits source settings (ready settings path files source loaded machine)
  rw [requests_ready, List.nil_append] at requests
  change ((loaded.toService limits).replay asked machine).1 = _ at replay
  have ran := runFile_of_read limits settings read
  rw [usable] at ran
  rw [ran]
  dsimp only
  rw [requests, replay]
  generalize (Session.once (loaded.toService limits) limits source settings
    (ready settings path files source loaded machine)).1 = result at same ⊢
  cases result with
  | ok value =>
    obtain rfl := Option.map_eq_none_iff.mp same
    simp [Except.mapError]
  | error fault =>
    change refused.map Prod.snd = fault.ofService? at same
    cases refused with
    | none =>
      have other := Fault.ofSession_of_other settings.service same.symm
      have distinct : ∀ refusal, fault ≠ .service refusal := by
        rintro refusal rfl
        cases same
      simp only [Except.mapError, other, Except.error.injEq, Fault.run.injEq, reduceCtorEq,
        Option.toList_none, List.not_mem_nil, exists_false, ne_eq, not_false_eq_true,
        implies_true, and_self, and_true, true_and]
      rintro reason
      exact ⟨fun equal => ⟨equal, equal ▸ distinct⟩, And.left⟩
    | some denied =>
      obtain ⟨request, refusal⟩ := denied
      have given : (request, refusal) ∈ ((loaded.toService limits).replay asked machine).1 := by
        rw [replay]
        exact List.mem_singleton_self _
      obtain ⟨middle, put⟩ := Service.put_of_replay _ given
      obtain rfl : fault = .service refusal := by
        cases fault with
        | service other => exact congrArg _ (Option.some.inj same).symm
        | _ => cases same
      have within := Fault.ofSession_of_within settings.service (loaded.put_within limits put)
      simp only [Except.mapError, within, Except.error.injEq, Fault.compilation.injEq, reduceCtorEq,
        Option.toList_some, List.mem_singleton, Prod.mk.injEq, exists_eq_left, ne_eq,
        not_false_eq_true, implies_true, and_true, true_and, false_iff, not_and, not_forall]
      refine ⟨?_, fun fault => eq_comm⟩
      rintro _ rfl
      exact ⟨refusal, fun distinct => distinct rfl⟩

end

/-- The diagnostic of a command names the party that failed. It names the source if that cannot be
read, and then nothing else was done. It names the artifact of the service if the source was read,
but the artifact is unusable, and then the service was asked for nothing, no file was written and
nothing was printed. It is a failure to compile if the service refused one of the requests, however
deep inside the run, and then it is this refusal. Otherwise it is what set-up or the run failed
with, and a command that does not fail has the answer of the entry point. -/
theorem verdicts (limits : Limits) (settings : Settings) (path : String) (files : FileTree) :
    (∀ place cause, (runFile limits settings path files).1 = .error (.source place cause) ↔
      place = path ∧ files.readText path = .error cause) ∧
    (∀ cause, files.readText path = .error cause →
      (runFile limits settings path files).2 = ⟨files, .lines "", #[]⟩) ∧
    (∀ place fault,
      (runFile limits settings path files).1 = .error (.serviceUnavailable place fault) ↔
        place = settings.service ∧ (∃ source, files.readText path = .ok source) ∧
          Service.Artifact.Unusable limits files settings.service fault) ∧
    (∀ place fault,
      (runFile limits settings path files).1 = .error (.serviceUnavailable place fault) →
        (runFile limits settings path files).2.requests = [] ∧
        (runFile limits settings path files).2.files = files ∧
        (runFile limits settings path files).2.sink = .lines "" ∧
        (runFile limits settings path files).2.printed = [] ∧
        (runFile limits settings path files).2.written = []) ∧
    (∀ fault, (runFile limits settings path files).1 = .error (.compilation fault) ↔
      ∃ source loaded machine request, files.readText path = .ok source ∧
        Service.Artifact.ofFile limits files settings.service = .ok (loaded, machine) ∧
        (request, fault) ∈ ((loaded.toService limits).replay
          (runFile limits settings path files).2.requests machine).1) ∧
    (∀ fault, (runFile limits settings path files).1 = .error (.run fault) ↔
      ∃ source loaded machine, files.readText path = .ok source ∧
        Service.Artifact.ofFile limits files settings.service = .ok (loaded, machine) ∧
        (∀ refusal, fault ≠ .service refusal) ∧
        ((∃ after, Session.start (loaded.toService limits) limits source settings
            (ready settings path files source loaded machine) = .error (fault, after)) ∨
          ∃ session, Session.start (loaded.toService limits) limits source settings
              (ready settings path files source loaded machine) = .ok session ∧
            (session.run (loaded.toService limits) limits).1 = .error fault)) ∧
    ∀ value, (runFile limits settings path files).1 = .ok value ↔
      ∃ source loaded machine session addr raw after, files.readText path = .ok source ∧
        Service.Artifact.ofFile limits files settings.service = .ok (loaded, machine) ∧
        Session.start (loaded.toService limits) limits source settings
          (ready settings path files source loaded machine) = .ok session ∧
        session.skeleton.entry session.machine.store session.entry = .ok addr ∧
        Session.call (loaded.toService limits) limits addr [] session.announced =
          (.ok [.i32 raw], after) ∧
        value = raw.toInt32 := by
  cases read : files.readText path with
  | error unread =>
    rw [runFile_of_unread limits settings read]
    refine ⟨fun place cause => ?_, fun _ _ => rfl, ?_, ?_, ?_, ?_, ?_⟩
    · simp only [Except.error.injEq, Fault.source.injEq]
      exact and_congr eq_comm Iff.rfl
    all_goals simp
  | ok source =>
    cases usable : Service.Artifact.ofFile limits files settings.service with
    | error defect =>
      have unusable := Service.Artifact.ofFile_error_iff.mp usable
      have ran := runFile_of_read limits settings read
      rw [usable] at ran
      dsimp only at ran
      rw [unusable.ofSession] at ran
      rw [ran]
      obtain ⟨requests, kept, sink, printed, written⟩ := prologue_quiet settings path files source
      refine ⟨by simp, by simp, fun place fault => ?_, fun _ _ _ =>
        ⟨requests, kept, sink, printed, written⟩, by simp, by simp, by simp⟩
      simp only [Except.error.injEq, Fault.serviceUnavailable.injEq]
      constructor
      · rintro ⟨rfl, rfl⟩
        exact ⟨rfl, ⟨source, rfl⟩, unusable⟩
      · rintro ⟨rfl, _, other⟩
        have same := usable.symm.trans (Service.Artifact.ofFile_error_iff.mpr other)
        exact ⟨rfl, Except.error.inj same⟩
    | ok found =>
      obtain ⟨loaded, machine⟩ := found
      obtain ⟨returned, ran, compiled, noSource, noService⟩ := served limits settings read usable
      have usable' : ∀ fault, ¬ Service.Artifact.Unusable limits files settings.service fault := by
        intro fault unusable
        cases usable.symm.trans (Service.Artifact.ofFile_error_iff.mpr unusable)
      refine ⟨fun place cause => ?_, nofun, fun place fault => ?_, fun place fault failed => ?_,
        fun fault => ?_, fun fault => ?_, fun value => ?_⟩
      · exact iff_of_false (noSource place cause) (nofun ∘ And.right)
      · exact iff_of_false (noService place fault) fun unusable => usable' fault unusable.2.2
      · exact absurd failed (noService place fault)
      · rw [compiled]
        constructor
        · rintro ⟨request, refused⟩
          exact ⟨source, loaded, machine, request, rfl, rfl, refused⟩
        · rintro ⟨_, _, _, request, _, same, refused⟩
          obtain ⟨rfl, rfl⟩ := Prod.mk.inj (Except.ok.inj same)
          exact ⟨request, refused⟩
      · rw [ran, Session.once_error_iff]
        constructor
        · rintro ⟨failed, own⟩
          exact ⟨source, loaded, machine, rfl, rfl, own, failed⟩
        · rintro ⟨_, _, _, text, same, own, failed⟩
          obtain rfl := Except.ok.inj text
          obtain ⟨rfl, rfl⟩ := Prod.mk.inj (Except.ok.inj same)
          exact ⟨failed, own⟩
      · rw [returned, Session.once_ok_iff]
        constructor
        · rintro ⟨session, addr, raw, after, answered⟩
          exact ⟨source, loaded, machine, session, addr, raw, after, rfl, rfl, answered⟩
        · rintro ⟨_, _, _, session, addr, raw, after, text, same, answered⟩
          obtain rfl := Except.ok.inj text
          obtain ⟨rfl, rfl⟩ := Prod.mk.inj (Except.ok.inj same)
          exact ⟨session, addr, raw, after, answered⟩

end Command

namespace Sample

def project : FileTree := ⟨[(["a.src"], .file [102, 120]), (["s.wasm"], .file artifact)], []⟩

end Sample

namespace Command

/-- Without a source nothing is done, without an artifact nothing is asked, and a refusal in the
middle of the run is a failure to compile. -/
theorem sample_verdicts :
    (runFile Sample.limits Settings.default "b.src" Sample.project).2 =
      ⟨Sample.project, .lines "", #[]⟩ ∧
    (runFile Sample.limits Settings.default "a.src" Sample.project).2.requests = [] ∧
    ∃ loaded machine request,
      Service.Artifact.ofFile Sample.limits Sample.project "s.wasm" = .ok (loaded, machine) ∧
      (request, .stopped (.unit ⟨1⟩) (.trap .unreachable)) ∈
        ((loaded.toService Sample.limits).replay
          (runFile Sample.limits (Settings.default.servedBy "s.wasm") "a.src"
            Sample.project).2.requests machine).1 := by
  refine ⟨?_, ?_, ?_⟩
  · exact (verdicts Sample.limits Settings.default "b.src" Sample.project).2.1 .notFound
      (by decide +kernel)
  · exact ((verdicts Sample.limits Settings.default "a.src" Sample.project).2.2.2.1 standardService
      (.unreadable standardService .notFound) (by decide +kernel)).1
  · obtain ⟨_, loaded, machine, request, _, usable, refused⟩ := ((verdicts Sample.limits
      (Settings.default.servedBy "s.wasm") "a.src" Sample.project).2.2.2.2.1
        (.stopped (.unit ⟨1⟩) (.trap .unreachable))).mp (by decide +kernel)
    exact ⟨loaded, machine, request, usable, refused⟩

end Command

end FirstCall
