import FirstCall.Proofs.Dumps
import FirstCall.Proofs.Lockstep
import FirstCall.Proofs.Operators

/-!
# Sessions without a dump

Two sessions are set up alike, but one of them dumps blobs and the other does not. As long as every
blob can be written, they run in step: all that the dump adds is files, and the events of writing
them.
-/

namespace FirstCall

open Wasm

variable {σ : Type}

def DumpDir.Names (dir : DumpDir) (path : String) : Prop :=
  path = dir.pathOfSkeleton ∨ ∃ i, path = dir.pathOfUnit i

/-- What becomes of a world with a dump, and what becomes of it without. The same happens in both,
but for the writing of blobs, which happens in the first one only. -/
inductive Mirrored (dir : DumpDir) (first : World) : World → World → Prop where
  | start : Mirrored dir first first first
  | recorded {world mirror : World} (event : Event) (unwritten : event.wrote? = none)
      (before : Mirrored dir first world mirror) :
      Mirrored dir first (world.record event) (mirror.record event)
  | printed {world mirror : World} (value : Int32) (before : Mirrored dir first world mirror) :
      Mirrored dir first (world.print value) (mirror.print value)
  | wrote {world mirror : World} {path : String} {blob : Bytes} {files : FileTree}
      (named : dir.Names path) (written : world.files.write path blob = .ok files)
      (before : Mirrored dir first world mirror) :
      Mirrored dir first
        (({ world with files }.record (.wrote path blob)).say (.dumped blob.length path)) mirror

namespace Mirrored

variable {dir : DumpDir} {first world mirror : World}

theorem said (notices : List Notice) (before : Mirrored dir first world mirror) :
    Mirrored dir first (notices.foldl World.say world) (notices.foldl World.say mirror) := by
  induction notices generalizing world mirror with
  | nil => exact before
  | cons notice rest ih => exact ih (before.recorded (.notice notice) rfl)

theorem heard {α : Type} {outside other : Outside σ} (request : Request) (reply : Reply σ α)
    (before : Mirrored dir first outside.world other.world) :
    Mirrored dir first (outside.hear request reply).world (other.hear request reply).world :=
  (before.recorded (.request request) rfl).said reply.notices

theorem sink (mirrored : Mirrored dir first world mirror) : world.sink = mirror.sink := by
  induction mirrored with
  | start => rfl
  | recorded event unwritten before ih => exact ih
  | printed value before ih => exact congrArg (·.print value) ih
  | wrote named written before ih => exact ih

theorem files (mirrored : Mirrored dir first world mirror) : mirror.files = first.files := by
  induction mirrored with
  | start => rfl
  | recorded event unwritten before ih => exact ih
  | printed value before ih => exact ih
  | wrote named written before ih => exact ih

/-- What is read off the history, but for the files and the notices, does not depend on the dump. -/
theorem events {α : Type} (read : Event → Option α)
    (unwritten : ∀ path blob, read (.wrote path blob) = none)
    (unsaid : ∀ notice, read (.notice notice) = none) (mirrored : Mirrored dir first world mirror) :
    world.history.toList.filterMap read = mirror.history.toList.filterMap read := by
  induction mirrored with
  | start => rfl
  | recorded event unwritten before ih => simp [World.record, ih]
  | printed value before ih => simp [World.print, World.record, ih]
  | wrote named written before ih => simp [World.say, World.record, unwritten, unsaid, ih]

end Mirrored

/-- A session that dumps blobs and one that does not, at the same point of the same program. -/
structure HostState.Mirrors (dir : DumpDir) (first : World) (state mirror : HostState σ) :
    Prop where
  service : state.outside.service = mirror.outside.service
  world : Mirrored dir first state.outside.world mirror.outside.world
  compiler : state.compiler = mirror.compiler
  ledger : state.ledger = mirror.ledger
  shared : state.shared = mirror.shared
  println : state.println = mirror.println
  dumps : state.dump = some dir
  undumped : mirror.dump = none

def Session.Fault.Unwritten (fault : Session.Fault) : Prop :=
  ∃ path cause, fault = .unwritable path cause

def Wasm.Stop.Unwritten (why : Stop Session.Fault) : Prop :=
  ∃ fault : Session.Fault, why = .failed fault ∧ fault.Unwritten

variable {dir : DumpDir} {first : World}

theorem Trigger.obtain_mirrored (service : Service σ) (compiler : Service.Compiler) (i : FuncId)
    {outside mirror : Outside σ} (same : outside.service = mirror.service)
    (mirrored : Mirrored dir first outside.world mirror.world) :
    (∃ fault after, Trigger.obtain service compiler (some dir) i outside = (.error fault, after) ∧
      fault.Unwritten) ∨
    ∃ result after other,
      Trigger.obtain service compiler (some dir) i outside = (result, after) ∧
      Trigger.obtain service compiler none i mirror = (result, other) ∧
      after.service = other.service ∧ Mirrored dir first after.world other.world := by
  have heard := mirrored.heard (.unit compiler i) (service.unit compiler i mirror.service)
  rw [Trigger.obtain_apply, Trigger.obtain_apply, Effect.fetch_apply, Effect.fetch_apply, same]
  cases answer : (service.unit compiler i mirror.service).result with
  | error fault =>
    exact .inr ⟨_, _, _, rfl, rfl, rfl, heard⟩
  | ok blob =>
    have received := heard.recorded (.received (.unit compiler i) blob) rfl
    dsimp only [Effect.dumpFunction]
    rw [Effect.writeBlob_apply]
    split
    · exact .inl ⟨_, _, rfl, _, _, rfl⟩
    · next files written =>
      exact .inr ⟨_, _, _, rfl, rfl, rfl, received.wrote (.inr ⟨i, rfl⟩) written⟩

theorem HostState.Mirrors.companions (service : Service σ) (dir : DumpDir) (first : World) :
    Companions service (Mirrors dir first) Stop.Unwritten where
  recorded event unwritten mirrors :=
    { mirrors with world := mirrors.world.recorded event unwritten }
  printed value mirrors := { mirrors with world := mirrors.world.printed value }
  shared mirrors := mirrors.shared
  println mirrors := mirrors.println
  ledger mirrors := mirrors.ledger
  changed ledger mirrors := { mirrors with ledger := rfl }
  obtained {x y} i mirrors := by
    rw [mirrors.dumps, mirrors.undumped, mirrors.compiler]
    obtain ⟨fault, after, obtained, unwritten⟩ |
        ⟨result, after, other, obtained, plain, same, world⟩ :=
      Trigger.obtain_mirrored service y.compiler i mirrors.service mirrors.world
    · exact .inl ⟨fault, after, obtained, fault, rfl, unwritten⟩
    · exact .inr ⟨result, after, other, obtained, plain, same, world, rfl, mirrors.ledger,
        mirrors.shared, mirrors.println, rfl, rfl⟩
  passed unit why := by
    rintro ⟨fault, rfl, unwritten⟩
    exact ⟨fault, rfl, unwritten⟩

/-- Outside two sessions that differ in a dump only, all but the files and the notices of writing
them is the same, and without a dump nothing is written. -/
structure Outside.SameButDumps (dir : DumpDir) (first : World) (outside plain : Outside σ) :
    Prop where
  service : outside.service = plain.service
  requests : outside.world.requests = plain.world.requests
  received : outside.world.received = plain.world.received
  printed : outside.world.printed = plain.world.printed
  sink : outside.world.sink = plain.world.sink
  files : plain.world.files = first.files
  mirrored : Mirrored dir first outside.world plain.world

theorem Mirrored.sameButDumps {outside plain : Outside σ} (same : outside.service = plain.service)
    (mirrored : Mirrored dir first outside.world plain.world) :
    outside.SameButDumps dir first plain where
  service := same
  requests := mirrored.events Event.request? (fun _ _ => rfl) fun _ => rfl
  received := mirrored.events Event.received? (fun _ _ => rfl) fun _ => rfl
  printed := mirrored.events Event.printed? (fun _ _ => rfl) fun _ => rfl
  sink := mirrored.sink
  files := mirrored.files
  mirrored := mirrored

namespace Session

/-- Functions of the program run in step. -/
theorem call_mirrors (service : Service σ) (limits : Limits) (dir : DumpDir) (first : World)
    (addr : Nat) (args : List Value) :
    InStep (HostState.Mirrors dir first) Stop.Unwritten (call service limits addr args)
      (call service limits addr args) :=
  call_inStep (HostState.Mirrors.companions service dir first).partners limits addr args

theorem prepare_mirrored (service : Service σ) (source : String) (dir : DumpDir)
    (outside : Outside σ) :
    (∃ fault after, prepare service source (some dir) outside = (.error fault, after) ∧
      fault.Unwritten) ∨
    ∃ result after other, prepare service source (some dir) outside = (result, after) ∧
      prepare service source none outside = (result, other) ∧
      after.service = other.service ∧ Mirrored dir outside.world after.world other.world := by
  have early : Mirrored dir outside.world (parsed service source outside).world
      (parsed service source outside).world := Mirrored.start.heard _ _
  have later : ∀ ir, Mirrored dir outside.world (built service source outside ir).world
      (built service source outside ir).world := fun ir => early.heard _ _
  have last : ∀ ir compiler, Mirrored dir outside.world
      (made service source outside ir compiler).world
      (made service source outside ir compiler).world := fun ir compiler => (later ir).heard _ _
  have prepared := prepare_prepared service source outside (some dir)
  cases ready : prepare service source (some dir) outside with
  | mk result after =>
    rw [ready] at prepared
    cases prepared with
    | unparsed refused =>
      exact .inr ⟨_, _, _, rfl, Prepared.prepare_eq (.unparsed refused), rfl, early⟩
    | @unbuilt ir fault parse refused =>
      exact .inr ⟨_, _, _, rfl, Prepared.prepare_eq (.unbuilt parse refused), rfl, later ir⟩
    | @unmade ir compiler fault parse build refused =>
      exact .inr ⟨_, _, _, rfl, Prepared.prepare_eq (.unmade parse build refused), rfl,
        last ir compiler⟩
    | undumped answers dumping refused => exact .inl ⟨_, _, rfl, _, _, rfl⟩
    | @dumped ir compiler blob _ files answers dumping written =>
      obtain rfl := Option.some.inj dumping
      rw [← files_arrived service source outside ir compiler blob] at written
      have arrived := ((last ir compiler).recorded (.received (.skeleton compiler) blob)
        rfl).recorded (.notice (.skeletonCompiled blob.length)) rfl
      exact .inr ⟨_, _, _, rfl, Prepared.prepare_eq (.kept answers rfl), rfl,
        arrived.wrote (.inl rfl) written⟩
    | kept answers undumped => cases undumped

/-- A session that dumps blobs and one that does not, between two runs of the same program. -/
structure Mirrors (dir : DumpDir) (first : World) (session plain : Session σ) : Prop where
  store : session.machine.store = plain.machine.store
  host : session.state.Mirrors dir first plain.state
  skeleton : session.skeleton = plain.skeleton
  entry : session.entry = plain.entry

/-- Two sessions that differ in a dump only, and in what it writes. -/
structure SameButDumps (dir : DumpDir) (first : World) (session plain : Session σ) : Prop where
  outside : session.state.outside.SameButDumps dir first plain.state.outside
  slots : ∀ i, session.slot? i = plain.slot? i
  compiled : session.compiled = plain.compiled
  slotCount : session.slotCount = plain.slotCount
  units : session.state.ledger.units = plain.state.ledger.units
  store : session.machine.store = plain.machine.store
  dumps : session.state.dump = some dir
  undumped : plain.state.dump = none

theorem Mirrors.sameButDumps {dir : DumpDir} {first : World} {session plain : Session σ}
    (mirrors : session.Mirrors dir first plain) : session.SameButDumps dir first plain where
  outside := mirrors.host.world.sameButDumps mirrors.host.service
  slots i := congrArg (fun ledger : Ledger => ledger.table.slot? i) mirrors.host.ledger
  compiled := congrArg (fun ledger : Ledger => ledger.table.order.toList) mirrors.host.ledger
  slotCount := congrArg Skeleton.slotCount mirrors.skeleton
  units := congrArg Ledger.units mirrors.host.ledger
  store := mirrors.store
  dumps := mirrors.host.dumps
  undumped := mirrors.host.undumped

/-- Set-up goes alike, or the skeleton cannot be written. -/
theorem start_mirrored (service : Service σ) (limits : Limits) (source : String)
    (settings : Settings) (dir : String) (outside : Outside σ) :
    (∃ fault after, start service limits source { settings with dump := some dir } outside =
      .error (fault, after) ∧ fault.Unwritten) ∨
    (∃ fault after other, start service limits source { settings with dump := some dir } outside =
        .error (fault, after) ∧
      start service limits source { settings with dump := none } outside = .error (fault, other) ∧
      after.service = other.service ∧ Mirrored ⟨dir⟩ outside.world after.world other.world) ∨
    ∃ session plain, start service limits source { settings with dump := some dir } outside =
        .ok session ∧
      start service limits source { settings with dump := none } outside = .ok plain ∧
      session.Mirrors ⟨dir⟩ outside.world plain := by
  unfold start
  dsimp only [Option.map]
  obtain ⟨fault, after, prepared, unwritten⟩ |
      ⟨result, after, other, prepared, plain, same, world⟩ :=
    prepare_mirrored service source ⟨dir⟩ outside
  · rw [prepared]
    exact .inl ⟨fault, after, rfl, unwritten⟩
  · rw [prepared, plain]
    cases result with
    | error fault => exact .inr (.inl ⟨fault, after, other, rfl, rfl, same, world⟩)
    | ok found =>
      obtain ⟨compiler, blob⟩ := found
      have fresh : (HostState.fresh after compiler (some ⟨dir⟩)).Mirrors ⟨dir⟩ outside.world
          (HostState.fresh other compiler none) := ⟨same, world, rfl, rfl, rfl, rfl, rfl, rfl⟩
      have matched := (HostState.Mirrors.companions service ⟨dir⟩ outside.world).loadSkeleton
        (call_mirrors service limits ⟨dir⟩ outside.world) blob dispatchStore fresh
      dsimp only
      generalize Skeleton.load (call service limits) blob ⟨dispatchStore, .fresh after _ _⟩ = one
        at matched ⊢
      generalize Skeleton.load (call service limits) blob ⟨dispatchStore, .fresh other _ _⟩ = two
        at matched ⊢
      cases matched with
      | escaped escapes m =>
        obtain ⟨fault, rfl, unwritten⟩ := escapes
        exact .inl ⟨fault, m.host.outside, rfl, unwritten⟩
      | alike result store related =>
        cases result with
        | error why => exact .inr (.inl ⟨_, _, _, rfl, rfl, related.service, related.world⟩)
        | ok skeleton =>
          exact .inr (.inr ⟨_, _, rfl, rfl, rfl, { related with ledger := rfl, shared := rfl },
            rfl, rfl⟩)

/-- A run goes alike, or some blob cannot be written. -/
theorem run_mirrored {session plain : Session σ} {dir : DumpDir} {first : World}
    (service : Service σ) (limits : Limits) (mirrors : session.Mirrors dir first plain) :
    (∃ fault : Fault, (session.run service limits).1 = .error fault ∧ fault.Unwritten) ∨
    (session.run service limits).1 = (plain.run service limits).1 ∧
      (session.run service limits).2.Mirrors dir first (plain.run service limits).2 := by
  obtain ⟨why, ⟨fault, rfl, unwritten⟩, failed⟩ | ⟨same, store, host, skeleton, entry⟩ :=
    run_abreast (HostState.Mirrors.companions service dir first).partners limits
      ⟨mirrors.store, mirrors.host, mirrors.skeleton, mirrors.entry⟩
  · exact .inl ⟨fault, failed, unwritten⟩
  · exact .inr ⟨same, store, host, skeleton, entry⟩

/-- Any number of runs go alike, unless some blob cannot be written. -/
theorem rerun_mirrored {session plain : Session σ} {dir : DumpDir} {first : World}
    (service : Service σ) (limits : Limits) (mirrors : session.Mirrors dir first plain) (runs : Nat)
    (written : ∀ k < runs, ∀ path cause,
      ((session.rerun service limits k).run service limits).1 ≠ .error (.unwritable path cause)) :
    (session.rerun service limits runs).Mirrors dir first (plain.rerun service limits runs) := by
  induction runs generalizing session plain with
  | zero => exact mirrors
  | succ runs ih =>
    obtain ⟨_, failed, path, cause, rfl⟩ | ⟨_, after⟩ := run_mirrored service limits mirrors
    · exact absurd failed (written 0 (Nat.succ_pos runs) path cause)
    · exact ih after fun k bounded => written (k + 1) (Nat.succ_lt_succ bounded)

/-- If every blob can be written, a session that dumps blobs does what the same session does without
a dump. -/
theorem dumping_unobserved (service : Service σ) (limits : Limits) (source : String)
    (settings : Settings) (outside : Outside σ) (dir : String) (runs : Nat)
    (prepared : ∀ path cause after,
      start service limits source { settings with dump := some dir } outside ≠
        .error (.unwritable path cause, after))
    (written : ∀ session,
      start service limits source { settings with dump := some dir } outside = .ok session →
      ∀ k < runs, ∀ path cause,
        ((session.rerun service limits k).run service limits).1 ≠ .error (.unwritable path cause)) :
    (∀ fault after, start service limits source { settings with dump := some dir } outside =
        .error (fault, after) →
      ∃ other, start service limits source { settings with dump := none } outside =
          .error (fault, other) ∧
        after.SameButDumps ⟨dir⟩ outside.world other) ∧
    ∀ session, start service limits source { settings with dump := some dir } outside =
        .ok session →
      ∃ plain, start service limits source { settings with dump := none } outside = .ok plain ∧
        ∀ k ≤ runs,
          (k < runs → ((session.rerun service limits k).run service limits).1 =
            ((plain.rerun service limits k).run service limits).1) ∧
          (session.rerun service limits k).SameButDumps ⟨dir⟩ outside.world
            (plain.rerun service limits k) := by
  obtain ⟨_, after, failed, path, cause, rfl⟩ |
      ⟨fault, after, other, failed, plainly, same, world⟩ |
      ⟨session, plain, started, plainly, mirrors⟩ :=
    start_mirrored service limits source settings dir outside
  · exact absurd failed (prepared path cause after)
  · rw [failed, plainly]
    constructor
    · intro _ _ found
      cases found
      exact ⟨other, rfl, world.sameButDumps same⟩
    · intro _ found
      cases found
  · rw [started, plainly]
    constructor
    · intro _ _ found
      cases found
    intro _ found
    cases found
    refine ⟨plain, rfl, fun k bounded => ?_⟩
    have before := fun l (earlier : l < runs) => written session started l earlier
    have here := rerun_mirrored service limits mirrors k fun l earlier =>
      before l (Nat.lt_of_lt_of_le earlier bounded)
    refine ⟨fun more => ?_, here.sameButDumps⟩
    obtain ⟨_, failed, path, cause, rfl⟩ | ⟨alike, _⟩ := run_mirrored service limits here
    · exact absurd failed (before k more path cause)
    · exact alike

/-- A program with a unit that is no module fails with a dump as it does without one. -/
theorem sample_dumping_unobserved :
    ∃ session plain : Session Unit,
      start Sample.faulty.service Sample.limits "" { Settings.default with dump := some "out" }
        ⟨(), Sample.shelves [["out"]]⟩ = .ok session ∧
      start Sample.faulty.service Sample.limits "" { Settings.default with dump := none }
        ⟨(), Sample.shelves [["out"]]⟩ = .ok plain ∧
      (session.run Sample.faulty.service Sample.limits).1 =
        (plain.run Sample.faulty.service Sample.limits).1 ∧
      (session.rerun Sample.faulty.service Sample.limits 1).compiled =
        (plain.rerun Sample.faulty.service Sample.limits 1).compiled ∧
      (session.rerun Sample.faulty.service Sample.limits 1).world.files.entry? ["out", "1.wasm"] =
        some (.file [1, 2, 3]) ∧
      (plain.rerun Sample.faulty.service Sample.limits 1).world.files =
        (Sample.shelves [["out"]]).files := by
  have seen : ((start Sample.faulty.service Sample.limits ""
      { Settings.default with dump := some "out" }
      ⟨(), Sample.shelves [["out"]]⟩).toOption.map fun session =>
        ((session.run Sample.faulty.service Sample.limits).1,
          (session.rerun Sample.faulty.service Sample.limits 1).world.files.entry?
            ["out", "1.wasm"])) =
      some (.error (.unloadable (unitName ⟨1⟩) (.defect .unexpectedEnd)),
        some (.file [1, 2, 3])) := by
    decide +kernel
  obtain ⟨session, started, seen⟩ := exists_ok_of_seen seen
  obtain ⟨answer, file⟩ := Prod.mk.inj seen
  have written : ∀ k < 1, ∀ path cause, ((session.rerun Sample.faulty.service Sample.limits
      k).run Sample.faulty.service Sample.limits).1 ≠ .error (.unwritable path cause) := by
    intro k first path cause failed
    obtain rfl := Nat.lt_one_iff.mp first
    cases answer.symm.trans failed
  obtain ⟨_, alike⟩ := dumping_unobserved Sample.faulty.service Sample.limits ""
    Settings.default ⟨(), Sample.shelves [["out"]]⟩ "out" 1
    (by rw [started]; exact nofun)
    (fun other same => Except.ok.inj (started.symm.trans same) ▸ written)
  obtain ⟨plain, plainly, same⟩ := alike session started
  obtain ⟨results, _⟩ := same 0 (Nat.zero_le 1)
  obtain ⟨_, after⟩ := same 1 (Nat.le_refl 1)
  exact ⟨session, plain, started, plainly, results Nat.zero_lt_one, after.compiled, file,
    after.outside.files⟩

end Session

end FirstCall
