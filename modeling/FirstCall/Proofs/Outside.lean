import FirstCall.Proofs.Course

/-!
# What is outside

The code of a session reaches what is outside by asking the service and by writing files, and all
of that goes into the history. This module says what is outside after each of these acts, and lists
the ways in which the unit of a function is obtained. Laws of the history are then read off case by
case.
-/

namespace FirstCall

open Wasm

variable {σ α : Type}

theorem World.history_say (notices : List Notice) (world : World) :
    (notices.foldl World.say world).history.toList =
      world.history.toList ++ notices.map .notice := by
  induction notices generalizing world with
  | nil => simp
  | cons notice rest ih => simp [ih, World.say, World.record]

@[simp] theorem Event.filterMap_request?_notices (notices : List Notice) :
    notices.filterMap (Event.request? ∘ Event.notice) = [] := by
  simp [Event.request?]

@[simp] theorem Event.filterMap_received?_notices (notices : List Notice) :
    notices.filterMap (Event.received? ∘ Event.notice) = [] := by
  simp [Event.received?]

theorem Event.mem_received_iff {events : List Event} {request : Request} {blob : Bytes} :
    (request, blob) ∈ events.filterMap Event.received? ↔ .received request blob ∈ events := by
  rw [List.mem_filterMap]
  constructor
  · rintro ⟨event, member, same⟩
    cases event with
    | received asked found =>
      obtain ⟨rfl, rfl⟩ := Prod.mk.inj (Option.some.inj same)
      exact member
    | _ => cases same
  · exact fun member => ⟨_, member, rfl⟩

namespace Outside

def hear (outside : Outside σ) (request : Request) (reply : Reply σ α) : Outside σ :=
  ⟨reply.state, reply.notices.foldl World.say (outside.world.record (.request request))⟩

def record (outside : Outside σ) (event : Event) : Outside σ :=
  { outside with world := outside.world.record event }

def wrote (outside : Outside σ) (path : String) (blob : Bytes) (files : FileTree) : Outside σ :=
  (record { outside with world := { outside.world with files } } (.wrote path blob)).record
    (.notice (.dumped blob.length path))

variable (outside : Outside σ) (request : Request) (reply : Reply σ α)

@[simp] theorem service_hear : (outside.hear request reply).service = reply.state := rfl

theorem history_hear :
    (outside.hear request reply).world.history.toList =
      outside.world.history.toList ++ .request request :: reply.notices.map .notice := by
  simp [hear, World.history_say, World.record]

theorem say_notices (notices : List Notice) (world : World) :
    (notices.foldl World.say world).files = world.files ∧
      (notices.foldl World.say world).sink = world.sink := by
  induction notices generalizing world with
  | nil => exact ⟨rfl, rfl⟩
  | cons notice rest ih => exact ih (world.say notice)

@[simp] theorem files_hear : (outside.hear request reply).world.files = outside.world.files :=
  (say_notices reply.notices _).1

@[simp] theorem sink_hear : (outside.hear request reply).world.sink = outside.world.sink :=
  (say_notices reply.notices _).2

@[simp] theorem service_record (event : Event) :
    (outside.record event).service = outside.service := rfl

@[simp] theorem files_record (event : Event) :
    (outside.record event).world.files = outside.world.files := rfl

@[simp] theorem sink_record (event : Event) :
    (outside.record event).world.sink = outside.world.sink := rfl

theorem history_record (event : Event) :
    (outside.record event).world.history.toList = outside.world.history.toList ++ [event] := by
  simp [record, World.record]

variable (path : String) (blob : Bytes) (files : FileTree)

@[simp] theorem service_wrote : (outside.wrote path blob files).service = outside.service := rfl

@[simp] theorem files_wrote : (outside.wrote path blob files).world.files = files := rfl

@[simp] theorem sink_wrote :
    (outside.wrote path blob files).world.sink = outside.world.sink := rfl

theorem history_wrote :
    (outside.wrote path blob files).world.history.toList =
      outside.world.history.toList ++
        [Event.wrote path blob, .notice (.dumped blob.length path)] := by
  simp [wrote, record, World.record]

end Outside

/-- An event of a conversation with the service that brings no blob. -/
def Event.IsTalk : Event → Prop
  | .notice _ => True
  | .request _ => True
  | _ => False

theorem Event.IsTalk.silent {event : Event} (talk : event.IsTalk) :
    event.received? = none ∧ event.wrote? = none ∧ event.triggered? = none ∧
      event.printed? = none := by
  cases event with
  | notice notice => exact ⟨rfl, rfl, rfl, rfl⟩
  | request request => exact ⟨rfl, rfl, rfl, rfl⟩
  | _ => cases talk

/-- From one moment to another, the service was asked for some things and brought no blob. -/
structure Outside.Talks (first last : Outside σ) (requests : List Request) (events : List Event) :
    Prop where
  files : last.world.files = first.world.files
  sink : last.world.sink = first.world.sink
  history : last.world.history.toList = first.world.history.toList ++ events
  asked : events.filterMap Event.request? = requests
  talk : ∀ event ∈ events, event.IsTalk

namespace Outside.Talks

theorem hear (outside : Outside σ) (request : Request) (reply : Reply σ α) :
    outside.Talks (outside.hear request reply) [request]
      (.request request :: reply.notices.map .notice) where
  files := outside.files_hear request reply
  sink := outside.sink_hear request reply
  history := outside.history_hear request reply
  asked := by simp [Event.request?]
  talk := by simp [Event.IsTalk]

theorem trans {first middle last : Outside σ} {requests more : List Request}
    {events others : List Event} (head : first.Talks middle requests events)
    (tail : middle.Talks last more others) :
    first.Talks last (requests ++ more) (events ++ others) where
  files := tail.files.trans head.files
  sink := tail.sink.trans head.sink
  history := by rw [tail.history, head.history, List.append_assoc]
  asked := by rw [List.filterMap_append, head.asked, tail.asked]
  talk event member := (List.mem_append.mp member).elim (head.talk event) (tail.talk event)

variable {first last : Outside σ} {requests : List Request} {events : List Event}

theorem unreceived (talks : first.Talks last requests events) :
    events.filterMap Event.received? = [] :=
  List.filterMap_eq_nil_iff.mpr fun event member => (talks.talk event member).silent.1

theorem unwritten (talks : first.Talks last requests events) :
    events.filterMap Event.wrote? = [] :=
  List.filterMap_eq_nil_iff.mpr fun event member => (talks.talk event member).silent.2.1

theorem untriggered (talks : first.Talks last requests events) :
    ∀ event ∈ events, event.triggered? = none :=
  fun event member => (talks.talk event member).silent.2.2.1

end Outside.Talks

namespace Effect

theorem ask_apply (request : Request) (exchange : Exchange σ α) (outside : Outside σ) :
    ask request exchange outside =
      ((exchange outside.service).result.mapError .service,
        outside.hear request (exchange outside.service)) := rfl

theorem fetch_apply (request : Request) (exchange : Exchange σ Bytes) (outside : Outside σ) :
    fetch request exchange outside =
      match (exchange outside.service).result with
      | .error fault =>
        (.error (.service fault), outside.hear request (exchange outside.service))
      | .ok blob =>
        (.ok blob,
          (outside.hear request (exchange outside.service)).record (.received request blob)) := by
  unfold fetch
  rw [bind_apply, ask_apply]
  cases (exchange outside.service).result with
  | error fault => rfl
  | ok blob => rfl

/-- Writing a blob changes the files, or nothing at all. -/
theorem writeBlob_apply (path : String) (blob : Bytes) (outside : Outside σ) :
    writeBlob path blob outside =
      match outside.world.files.write path blob with
      | .error cause => (.error (.unwritable path cause), outside)
      | .ok files => (.ok (), outside.wrote path blob files) := rfl

end Effect

namespace Trigger

section Obtaining

variable (service : Service σ) (compiler : Service.Compiler) (i : FuncId) (outside : Outside σ)

/-- What is outside once the service has replied to the request for a unit. -/
def replied : Outside σ :=
  outside.hear (.unit compiler i) (service.unit compiler i outside.service)

/-- What is outside once a unit is at hand, and was not yet dumped. -/
def brought (blob : Bytes) : Outside σ :=
  (replied service compiler i outside).record (.received (.unit compiler i) blob)

/-- The ways in which a unit is obtained or not, with what is outside afterwards. -/
inductive Obtaining (dump : Option DumpDir) : Except Session.Fault Bytes → Outside σ → Prop where
  | refused {fault : Service.Fault}
      (answer : (service.unit compiler i outside.service).result = .error fault) :
      Obtaining dump (.error (.service fault)) (replied service compiler i outside)
  | kept {blob : Bytes} (answer : (service.unit compiler i outside.service).result = .ok blob)
      (undumped : dump = none) :
      Obtaining dump (.ok blob) (brought service compiler i outside blob)
  | undumped {blob : Bytes} {dir : DumpDir} {cause : FileFault}
      (answer : (service.unit compiler i outside.service).result = .ok blob)
      (dumping : dump = some dir)
      (refused : outside.world.files.write (dir.pathOfUnit i) blob = .error cause) :
      Obtaining dump (.error (.unwritable (dir.pathOfUnit i) cause))
        (brought service compiler i outside blob)
  | dumped {blob : Bytes} {dir : DumpDir} {files : FileTree}
      (answer : (service.unit compiler i outside.service).result = .ok blob)
      (dumping : dump = some dir)
      (written : outside.world.files.write (dir.pathOfUnit i) blob = .ok files) :
      Obtaining dump (.ok blob)
        ((brought service compiler i outside blob).wrote (dir.pathOfUnit i) blob files)

theorem replied_talks :
    outside.Talks (replied service compiler i outside) [.unit compiler i]
      (.request (.unit compiler i) ::
        (service.unit compiler i outside.service).notices.map .notice) :=
  .hear _ _ _

@[simp] theorem files_brought (blob : Bytes) :
    (brought service compiler i outside blob).world.files = outside.world.files :=
  Outside.files_hear _ _ _

theorem history_brought (blob : Bytes) :
    (brought service compiler i outside blob).world.history.toList =
      outside.world.history.toList ++ .request (.unit compiler i) ::
        ((service.unit compiler i outside.service).notices.map .notice ++
          [Event.received (.unit compiler i) blob]) := by
  unfold brought
  rw [Outside.history_record, (replied_talks service compiler i outside).history,
    List.append_assoc]
  rfl

end Obtaining

/-- A unit is obtained in one of these ways, and each of them is the one under its conditions. -/
theorem obtain_eq_iff {service : Service σ} {compiler : Service.Compiler} {dump : Option DumpDir}
    {i : FuncId} {outside after : Outside σ} {result : Except Session.Fault Bytes} :
    obtain service compiler dump i outside = (result, after) ↔
      Obtaining service compiler i outside dump result after := by
  rw [obtain_apply, Effect.fetch_apply]
  constructor
  · intro obtained
    cases answer : (service.unit compiler i outside.service).result with
    | error fault =>
      rw [answer] at obtained
      cases obtained
      exact .refused answer
    | ok blob =>
      rw [answer] at obtained
      cases dump with
      | none =>
        cases obtained
        exact .kept answer rfl
      | some dir =>
        dsimp only [Effect.dumpFunction] at obtained
        rw [Effect.writeBlob_apply, Outside.files_record, Outside.files_hear] at obtained
        cases written : outside.world.files.write (dir.pathOfUnit i) blob with
        | error cause =>
          rw [written] at obtained
          cases obtained
          exact .undumped answer rfl written
        | ok files =>
          rw [written] at obtained
          cases obtained
          exact .dumped answer rfl written
  · intro obtaining
    cases obtaining with
    | refused answer => rw [answer]; rfl
    | kept answer undumped => rw [answer, undumped]; rfl
    | undumped answer dumping refused =>
      rw [answer, dumping]
      dsimp only [Effect.dumpFunction]
      rw [Effect.writeBlob_apply, Outside.files_record, Outside.files_hear, refused]
      rfl
    | dumped answer dumping written =>
      rw [answer, dumping]
      dsimp only [Effect.dumpFunction]
      rw [Effect.writeBlob_apply, Outside.files_record, Outside.files_hear, written]
      rfl

end Trigger

end FirstCall
