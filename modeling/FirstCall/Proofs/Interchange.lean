import FirstCall.Proofs.Accord
import FirstCall.Proofs.Defenses

/-!
# Interchangeable services

A session sees nothing of its compiler service but the answers. Two services may keep states of
different kinds and say different things to the log: as long as they give equal answers to equal
requests, the same program goes the same way over both of them.
-/

namespace FirstCall

open Wasm

variable {σ τ α : Type}

/-- From related states, both exchanges come to the same answer and leave related states. -/
def Exchange.Matches (R : σ → τ → Prop) (first : Exchange σ α) (second : Exchange τ α) : Prop :=
  ∀ ⦃state twin⦄, R state twin →
    (first state).result = (second twin).result ∧ R (first state).state (second twin).state

/-- Two services that give equal answers to equal requests as long as their states are related, and
whose states stay related. -/
structure Service.Interchangeable (R : σ → τ → Prop) (service : Service σ) (other : Service τ) :
    Prop where
  parse : ∀ source, (service.parse source).Matches R (other.parse source)
  build : ∀ ir, (service.build ir).Matches R (other.build ir)
  skeleton : ∀ compiler, (service.skeleton compiler).Matches R (other.skeleton compiler)
  unit : ∀ compiler i, (service.unit compiler i).Matches R (other.unit compiler i)

/-- A service that also keeps every request can take the place of the service itself. -/
theorem Service.recorded_interchangeable (service : Service σ) :
    service.Interchangeable (fun state kept => kept.1 = state) service.recorded where
  parse source := by
    rintro state ⟨_, seen⟩ rfl
    exact ⟨rfl, rfl⟩
  build ir := by
    rintro state ⟨_, seen⟩ rfl
    exact ⟨rfl, rfl⟩
  skeleton compiler := by
    rintro state ⟨_, seen⟩ rfl
    exact ⟨rfl, rfl⟩
  unit compiler i := by
    rintro state ⟨_, seen⟩ rfl
    exact ⟨rfl, rfl⟩

namespace World

def deeds (world : World) : List Event :=
  world.history.toList.filter fun event => event.notice?.isNone

theorem deeds_record (world : World) (event : Event) :
    (world.record event).deeds =
      world.deeds ++ [event].filter fun event => event.notice?.isNone := by
  simp only [deeds, record, Array.toList_push, List.filter_append]

theorem deeds_foldl_say (notices : List Notice) (world : World) :
    (notices.foldl say world).deeds = world.deeds := by
  induction notices generalizing world with
  | nil => rfl
  | cons notice rest ih => exact (ih _).trans ((deeds_record world _).trans (List.append_nil _))

/-- What is read off the history without regard to the notices is read off the deeds. -/
theorem filterMap_deeds {world : World} {read : Event → Option α}
    (unsaid : ∀ notice, read (.notice notice) = none) :
    world.deeds.filterMap read = world.history.toList.filterMap read := by
  unfold deeds
  rw [List.filterMap_filter]
  refine List.filterMap_congr fun event _ => ?_
  cases event with
  | notice notice => exact (unsaid notice).symm
  | _ => rfl

end World

/-- What is outside two sessions is the same, but for the services, which are in related states, and
for what was logged. -/
structure Outside.SameButNotices (R : σ → τ → Prop) (outside : Outside σ) (twin : Outside τ) :
    Prop where
  service : R outside.service twin.service
  files : outside.world.files = twin.world.files
  sink : outside.world.sink = twin.world.sink
  deeds : outside.world.deeds = twin.world.deeds

namespace Outside.SameButNotices

variable {R : σ → τ → Prop} {outside : Outside σ} {twin : Outside τ}

theorem recorded (event : Event) (same : outside.SameButNotices R twin) :
    (outside.record event).SameButNotices R (twin.record event) where
  service := same.service
  files := same.files
  sink := same.sink
  deeds := by
    have before := same.deeds
    change (outside.world.record event).deeds = (twin.world.record event).deeds
    rw [World.deeds_record, World.deeds_record, before]

theorem heard (request : Request) (reply : Reply σ α) (other : Reply τ α)
    (state : R reply.state other.state) (same : outside.SameButNotices R twin) :
    (outside.hear request reply).SameButNotices R (twin.hear request other) where
  service := state
  files := by
    rw [files_hear, files_hear]
    exact same.files
  sink := by
    rw [sink_hear, sink_hear]
    exact same.sink
  deeds := by
    unfold hear
    rw [World.deeds_foldl_say, World.deeds_foldl_say]
    exact (same.recorded (.request request)).deeds

theorem read (same : outside.SameButNotices R twin) {read : Event → Option α}
    (unsaid : ∀ notice, read (.notice notice) = none) :
    outside.world.history.toList.filterMap read = twin.world.history.toList.filterMap read := by
  rw [← World.filterMap_deeds unsaid, ← World.filterMap_deeds unsaid, same.deeds]

end Outside.SameButNotices

theorem Exchange.Matches.ask {R : σ → τ → Prop} {first : Exchange σ α} {second : Exchange τ α}
    (matching : first.Matches R second) (request : Request) :
    Effect.Alike (Outside.SameButNotices R) (.ask request first) (.ask request second) := by
  intro outside twin same
  obtain ⟨answer, state⟩ := matching same.service
  rw [Effect.ask_apply, Effect.ask_apply, answer]
  exact ⟨rfl, same.heard request _ _ state⟩

theorem Service.Interchangeable.accord {R : σ → τ → Prop} {service : Service σ}
    {other : Service τ} (interchangeable : service.Interchangeable R other) :
    Accord service other (Outside.SameButNotices R) where
  files same := same.files
  refiled _ same := { same with files := rfl }
  recorded event _ same := same.recorded event
  printed value same := { same.recorded (.printed value) with
    sink := congrArg (·.print value) same.sink }
  parsed source := (interchangeable.parse source).ask _
  built ir := (interchangeable.build ir).ask _
  made compiler := (interchangeable.skeleton compiler).ask _
  obtained compiler i := (interchangeable.unit compiler i).ask _

/-- The services are in related states, were asked the same things and gave the same blobs; the
trigger was called, values were printed and files were written in the same way. -/
structure Outside.Indistinct (R : σ → τ → Prop) (outside : Outside σ) (twin : Outside τ) :
    Prop where
  service : R outside.service twin.service
  requests : outside.world.requests = twin.world.requests
  received : outside.world.received = twin.world.received
  triggers : outside.world.triggers = twin.world.triggers
  printed : outside.world.printed = twin.world.printed
  written : outside.world.written = twin.world.written
  sink : outside.world.sink = twin.world.sink
  files : outside.world.files = twin.world.files
  deeds : outside.world.deeds = twin.world.deeds

theorem Outside.SameButNotices.indistinct {R : σ → τ → Prop} {outside : Outside σ}
    {twin : Outside τ} (same : outside.SameButNotices R twin) : outside.Indistinct R twin where
  service := same.service
  requests := same.read fun _ => rfl
  received := same.read fun _ => rfl
  triggers := same.read fun _ => rfl
  printed := same.read fun _ => rfl
  written := same.read fun _ => rfl
  sink := same.sink
  files := same.files
  deeds := same.deeds

namespace Session

/-- Two sessions that cannot be told apart but by their services and the log. -/
structure Indistinct (R : σ → τ → Prop) (session : Session σ) (twin : Session τ) : Prop where
  outside : session.state.outside.Indistinct R twin.state.outside
  slots : ∀ i, session.slot? i = twin.slot? i
  compiled : session.compiled = twin.compiled
  slotCount : session.slotCount = twin.slotCount
  units : session.state.ledger.units = twin.state.ledger.units
  compiler : session.state.compiler = twin.state.compiler
  store : session.machine.store = twin.machine.store

theorem Abreast.indistinct {R : σ → τ → Prop} {session : Session σ} {twin : Session τ}
    (abreast : session.Abreast (HostState.Paired (Outside.SameButNotices R)) twin) :
    session.Indistinct R twin where
  outside := abreast.host.outside.indistinct
  slots i := congrArg (fun ledger : Ledger => ledger.table.slot? i) abreast.host.ledger
  compiled := congrArg (fun ledger : Ledger => ledger.table.order.toList) abreast.host.ledger
  slotCount := congrArg Skeleton.slotCount abreast.skeleton
  units := congrArg Ledger.units abreast.host.ledger
  compiler := abreast.host.compiler
  store := abreast.store

/-- A session depends on its service through the answers only. Over two services that give equal
answers to equal requests, set-up fails for the same reason or succeeds for both, and every run
comes to the same result; no moment between two runs shows a difference. -/
theorem answers_suffice (service : Service σ) (other : Service τ) (R : σ → τ → Prop)
    (interchangeable : service.Interchangeable R other) (limits : Limits) (source : String)
    (settings : Settings) (world : World) (state : σ) (mate : τ) (related : R state mate) :
    (∃ fault after twin,
      start service limits source settings ⟨state, world⟩ = .error (fault, after) ∧
      start other limits source settings ⟨mate, world⟩ = .error (fault, twin) ∧
      after.Indistinct R twin) ∨
    ∃ session twin, start service limits source settings ⟨state, world⟩ = .ok session ∧
      start other limits source settings ⟨mate, world⟩ = .ok twin ∧
      ∀ runs, (session.rerun service limits runs).Indistinct R (twin.rerun other limits runs) ∧
        ((session.rerun service limits runs).run service limits).1 =
          ((twin.rerun other limits runs).run other limits).1 := by
  have first : Outside.SameButNotices R ⟨state, world⟩ ⟨mate, world⟩ := ⟨related, rfl, rfl, rfl⟩
  obtain ⟨fault, after, twin, failed, too, same⟩ | ⟨session, twin, started, too, paired⟩ :=
    start_paired interchangeable.accord limits source settings first
  · exact .inl ⟨fault, after, twin, failed, too, same.indistinct⟩
  · refine .inr ⟨session, twin, started, too, fun runs => ?_⟩
    have between := rerun_paired interchangeable.accord limits runs paired
    exact ⟨between.indistinct, (run_paired interchangeable.accord limits between).1⟩

/-- A service that was loaded from an artifact stops in the request for the second function. With a
record of its requests it does the same. -/
theorem sample_answers_suffice :
    ∃ (loaded : Service.Artifact) (machine : ServiceMachine) (session : Session ServiceMachine)
      (twin : Session (ServiceMachine × List Request)),
      Service.Artifact.ofBlob Sample.limits Sample.artifact = .ok (loaded, machine) ∧
      start (loaded.toService Sample.limits) Sample.limits "" Settings.default
        ⟨machine, Sample.world⟩ = .ok session ∧
      start (loaded.toService Sample.limits).recorded Sample.limits "" Settings.default
        ⟨(machine, []), Sample.world⟩ = .ok twin ∧
      (twin.run (loaded.toService Sample.limits).recorded Sample.limits).1 =
        .error (.service (.stopped (.unit ⟨1⟩) (.trap .unreachable))) ∧
      (session.rerun (loaded.toService Sample.limits) Sample.limits 1).compiled =
        (twin.rerun (loaded.toService Sample.limits).recorded Sample.limits 1).compiled ∧
      (twin.rerun (loaded.toService Sample.limits).recorded Sample.limits
          1).state.outside.service.1 =
        (session.rerun (loaded.toService Sample.limits) Sample.limits 1).state.outside.service := by
  have seen : ((Service.Artifact.ofBlob Sample.limits Sample.artifact).toOption.bind
      fun (loaded, machine) =>
        (start (loaded.toService Sample.limits) Sample.limits "" Settings.default
          ⟨machine, Sample.world⟩).toOption.map fun session =>
            (session.run (loaded.toService Sample.limits) Sample.limits).1) =
      some (.error (.service (.stopped (.unit ⟨1⟩) (.trap .unreachable)))) := by
    decide +kernel
  obtain ⟨⟨loaded, machine⟩, built, seen⟩ := Option.bind_eq_some_iff.mp seen
  obtain ⟨first, answered, answer⟩ := exists_ok_of_seen seen
  obtain ⟨_, _, _, failed, _⟩ | ⟨session, twin, started, too, alike⟩ :=
    answers_suffice (loaded.toService Sample.limits) (loaded.toService Sample.limits).recorded _
      (Service.recorded_interchangeable _) Sample.limits "" Settings.default Sample.world machine
      (machine, []) rfl
  · cases answered.symm.trans failed
  · obtain rfl := Except.ok.inj (answered.symm.trans started)
    exact ⟨loaded, machine, first, twin, ok_of_toOption built, started, too,
      (alike 0).2.symm.trans answer, (alike 1).1.compiled, (alike 1).1.outside.service⟩

end Session

end FirstCall
