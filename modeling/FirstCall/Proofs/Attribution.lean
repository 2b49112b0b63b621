import FirstCall.Service.Artifact
import FirstCall.Session.World

/-!
# Who logs what

Both the dispatcher and the compiler service write into the log, and a service may say whatever it
likes. The service has the word from the moment at which it is asked something until something else
happens than that a line is logged; all other lines are the dispatcher's own. Among them are those
of the compile trace. A service that was loaded from an artifact says nothing that could be taken
for one of these.
-/

namespace FirstCall

open Wasm

/-- Whether a notice is a line of the compile trace: a unit is being requested, a unit was loaded,
or a run is finished. -/
def Notice.isTrace : Notice → Bool
  | .compiling _ => true
  | .installed .. => true
  | .finished .. => true
  | _ => false

/-- Who says what is logged. -/
inductive Speaker where
  | dispatcher
  | service
  deriving DecidableEq, Repr

/-- Who speaks after an event. Once the service was asked something, it has the word until something
else happens than that a line is logged. -/
def Event.next (speaker : Speaker) : Event → Speaker
  | .request _ => .service
  | .notice _ => speaker
  | _ => .dispatcher

/-- What one of the two said, if the given one has the word at first. -/
def saidFrom (who : Speaker) : Speaker → List Event → List Notice
  | _, [] => []
  | speaker, event :: rest =>
    (if speaker = who then event.notice?.toList else []) ++ saidFrom who (event.next speaker) rest

/-- What one of the two said. -/
def saidBy (who : Speaker) (events : List Event) : List Notice := saidFrom who .dispatcher events

/-- Who has the word in the end. -/
def speakerAfter (events : List Event) : Speaker := events.foldl Event.next .dispatcher

/-- The compile trace: the lines of its kinds that the dispatcher itself logged. -/
def traceOf (events : List Event) : List Notice :=
  (saidBy .dispatcher events).filter Notice.isTrace

section Lines

variable {who speaker : Speaker} {first more : List Event}

theorem saidFrom_append (who speaker : Speaker) (first more : List Event) :
    saidFrom who speaker (first ++ more) =
      saidFrom who speaker first ++ saidFrom who (first.foldl Event.next speaker) more := by
  induction first generalizing speaker with
  | nil => rfl
  | cons event rest ih => simp [saidFrom, ih]

theorem saidFrom_notices (who speaker : Speaker) (notices : List Notice) :
    saidFrom who speaker (notices.map .notice) = if speaker = who then notices else [] := by
  induction notices with
  | nil => simp [saidFrom]
  | cons notice rest ih =>
    rw [List.map_cons, saidFrom, Event.next, ih]
    split <;> rfl

theorem next_notices (speaker : Speaker) (notices : List Notice) :
    (notices.map Event.notice).foldl Event.next speaker = speaker := by
  induction notices with
  | nil => rfl
  | cons notice rest ih => exact ih

theorem saidFrom_cons_of_unlogged {event : Event} (unlogged : event.notice? = none)
    (who speaker : Speaker) (rest : List Event) :
    saidFrom who speaker (event :: rest) = saidBy who (event :: rest) := by
  cases event with
  | notice notice => cases unlogged
  | _ => cases speaker <;> cases who <;> rfl

theorem next_of_unlogged {event : Event} (unlogged : event.notice? = none) (speaker : Speaker) :
    event.next speaker = event.next .dispatcher := by
  cases event with
  | notice notice => cases unlogged
  | _ => rfl

theorem saidBy_append (settled : speakerAfter first = .dispatcher) (who : Speaker)
    (more : List Event) : saidBy who (first ++ more) = saidBy who first ++ saidBy who more := by
  unfold speakerAfter at settled
  unfold saidBy
  rw [saidFrom_append, settled]

theorem speakerAfter_append (settled : speakerAfter first = .dispatcher) (more : List Event) :
    speakerAfter (first ++ more) = speakerAfter more := by
  unfold speakerAfter at settled ⊢
  rw [List.foldl_append, settled]

theorem traceOf_append (settled : speakerAfter first = .dispatcher) (more : List Event) :
    traceOf (first ++ more) = traceOf first ++ traceOf more := by
  unfold traceOf
  rw [saidBy_append settled, List.filter_append]

/-- The lines of a kind that the service does not use are the dispatcher's own. -/
theorem filter_notices (kind : Notice → Bool) {speaker : Speaker} {events : List Event}
    (apart : ∀ notice ∈ saidFrom .service speaker events, kind notice = false) :
    (events.filterMap Event.notice?).filter kind =
      (saidFrom .dispatcher speaker events).filter kind := by
  induction events generalizing speaker with
  | nil => rfl
  | cons event rest ih =>
    have later := ih fun notice member => apart notice (List.mem_append_right _ member)
    rw [saidFrom, List.filter_append, ← later]
    cases said : event.notice? with
    | none =>
      rw [List.filterMap_cons_none said]
      cases speaker <;> rfl
    | some notice =>
      rw [List.filterMap_cons_some said]
      cases speaker with
      | dispatcher => cases own : kind notice <;> simp [own]
      | service =>
        have other := apart notice (by simp [saidFrom, said])
        simp [other]

end Lines

/-- What a service may say while it answers a request. -/
def Service.Utters {σ : Type} (service : Service σ) (notice : Notice) : Prop :=
  (∃ source state, notice ∈ (service.parse source state).notices) ∨
  (∃ ir state, notice ∈ (service.build ir state).notices) ∨
  (∃ compiler state, notice ∈ (service.skeleton compiler state).notices) ∨
  ∃ compiler i state, notice ∈ (service.unit compiler i state).notices

theorem saidBy_refused (who : Speaker) (request : Request) (notices : List Notice) :
    saidBy who (.request request :: notices.map .notice) =
      if .service = who then notices else [] := by
  rw [← saidFrom_notices]
  cases who <;> rfl

/-- A service that says nothing that could be taken for a line of the compile trace. -/
def Service.Discreet {σ : Type} (service : Service σ) : Prop :=
  ∀ notice, service.Utters notice → notice.isTrace = false

/-- An exchange in which nothing of that kind is said. -/
def Exchange.Discreet {σ α : Type} (exchange : Exchange σ α) : Prop :=
  ∀ state, ∀ notice ∈ (exchange state).notices, notice.isTrace = false

namespace Exchange.Discreet

variable {σ α β : Type}

theorem of_silent {exchange : Exchange σ α} (silent : ∀ state, (exchange state).notices = []) :
    exchange.Discreet := by
  intro state notice member
  rw [silent state] at member
  cases member

theorem say {notice : Notice} (other : notice.isTrace = false) :
    (Exchange.say notice : Exchange σ Unit).Discreet := by
  intro state said member
  obtain rfl := List.mem_singleton.mp member
  exact other

theorem bind {first : Exchange σ α} {next : α → Exchange σ β} (head : first.Discreet)
    (tail : ∀ value, (next value).Discreet) : (first >>= next).Discreet := by
  intro state notice member
  change notice ∈ (Exchange.andThen first next state).notices at member
  unfold Exchange.andThen at member
  have before := head state
  generalize first state = reply at member before
  obtain ⟨result, notices, middle⟩ := reply
  cases result with
  | error fault => exact before notice member
  | ok value => exact (List.mem_append.mp member).elim (before notice) (tail value middle notice)

theorem call (limits : Limits) (stage : Service.Stage) (addr : Nat) (args : List Int32) :
    (ServiceMachine.exchange limits stage addr args).Discreet := by
  refine of_silent fun state => ?_
  unfold ServiceMachine.exchange
  split <;> rfl

end Exchange.Discreet

namespace Service.Artifact

variable (loaded : Service.Artifact) (limits : Limits)

theorem writeText_discreet (mem : Service.Heap) (bytes : Bytes) :
    (mem.writeText limits bytes).Discreet := by
  unfold Service.Heap.writeText
  split
  · exact .of_silent fun _ => rfl
  · refine .bind (.bind (.call limits _ _ _) fun _ => .of_silent fun _ => rfl)
      fun addr => .bind (.of_silent fun _ => rfl) fun held => ?_
    split
    · exact .of_silent fun _ => rfl
    · exact .bind (.of_silent fun _ => rfl) fun _ =>
        .bind (.say rfl) fun _ => .of_silent fun _ => rfl

theorem compile_discreet (stage : Service.Stage) (addr : Nat) (args : List Int32) :
    (loaded.compile limits stage addr args).Discreet :=
  .bind (.bind (.call limits _ _ _) fun _ => .of_silent fun _ => rfl) fun _ =>
    .bind (.call limits _ _ _) fun _ => .of_silent fun _ => rfl

/-- A service that was loaded from an artifact is discreet. -/
theorem discreet : (loaded.toService limits).Discreet := by
  rintro notice (⟨source, state, said⟩ | ⟨ir, state, said⟩ | ⟨compiler, state, said⟩ |
    ⟨compiler, i, state, said⟩)
  · have parse : ((loaded.toService limits).parse source).Discreet :=
      .bind (writeText_discreet limits _ _) fun addr =>
        .bind (.call limits _ _ _) fun _ => .bind (.say rfl) fun _ => .of_silent fun _ => rfl
    exact parse state notice said
  · have build : ((loaded.toService limits).build ir).Discreet :=
      .bind (.call limits _ _ _) fun _ => .of_silent fun _ => rfl
    exact build state notice said
  · exact loaded.compile_discreet limits _ _ _ state notice said
  · exact loaded.compile_discreet limits _ _ _ state notice said

end Service.Artifact

/-- Events that leave no line of the trace, after which the dispatcher has the word. -/
structure Untraced {σ : Type} (service : Service σ) (events : List Event) : Prop where
  trace : traceOf events = []
  heard : ∀ notice ∈ saidBy .service events, service.Utters notice
  settled : speakerAfter events = .dispatcher

namespace Untraced

variable {σ : Type} {service : Service σ} {first more : List Event}

theorem of_unsaid (trace : traceOf first = []) (unsaid : saidBy .service first = [])
    (settled : speakerAfter first = .dispatcher) : Untraced service first where
  trace := trace
  heard := by simp [unsaid]
  settled := settled

theorem append (head : Untraced service first) (tail : Untraced service more) :
    Untraced service (first ++ more) where
  trace := by rw [traceOf_append head.settled, head.trace, tail.trace, List.append_nil]
  heard := by
    intro notice member
    rw [saidBy_append head.settled] at member
    exact (List.mem_append.mp member).elim (head.heard notice) (tail.heard notice)
  settled := by rw [speakerAfter_append head.settled, tail.settled]

theorem of_forall {events : List Event} (each : ∀ event ∈ events, Untraced service [event]) :
    Untraced service events := by
  induction events with
  | nil => exact .of_unsaid rfl rfl rfl
  | cons event rest ih =>
    have later := ih fun other member => each other (List.mem_cons_of_mem _ member)
    exact (each event List.mem_cons_self).append later

theorem reply {event : Event} {rest : List Event} (untraced : Untraced service (event :: rest))
    (unlogged : event.notice? = none) (request : Request) (notices : List Notice)
    (said : ∀ notice ∈ notices, service.Utters notice) :
    Untraced service (.request request :: notices.map .notice ++ event :: rest) := by
  have lines : ∀ who, saidBy who (.request request :: notices.map .notice ++ event :: rest) =
      (if .service = who then notices else []) ++ saidBy who (event :: rest) := by
    intro who
    have asked : saidBy who (.request request :: (notices.map .notice ++ event :: rest)) =
        saidFrom who .service (notices.map .notice ++ event :: rest) := by
      cases who <;> rfl
    rw [List.cons_append, asked, saidFrom_append, saidFrom_notices, next_notices,
      saidFrom_cons_of_unlogged unlogged]
  constructor
  case trace =>
    unfold traceOf
    rw [lines]
    exact untraced.trace
  case heard =>
    intro notice member
    rw [lines, if_pos rfl] at member
    exact (List.mem_append.mp member).elim (said notice) (untraced.heard notice)
  case settled =>
    have settled := untraced.settled
    unfold speakerAfter at settled ⊢
    rw [List.foldl_append, List.foldl_cons, List.foldl_cons, next_of_unlogged unlogged]
    exact settled

end Untraced

end FirstCall
