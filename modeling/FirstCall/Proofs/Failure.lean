import FirstCall.Proofs.Requests

/-!
# Failures

A failure that arises in a call of the compile trigger passes through all the code that is running,
through the loading of units and through the calls of the trigger that asked for them, and comes
out of the run as it is. On its way nothing happens but that those calls end with it.
-/

namespace FirstCall

open Wasm

variable {σ : Type}

def Event.failure? : Event → Option Session.Fault
  | .settled _ (.error fault) => some fault
  | _ => none

/-- No call of the trigger failed. -/
def Unfailed (events : List Event) : Prop := ∀ event ∈ events, event.failure? = none

/-- One call of the trigger failed first, and then at most those around it, with the same failure. -/
def FailedWith (fault : Session.Fault) (events : List Event) : Prop :=
  ∃ before raw after, events = before ++ .settled raw (.error fault) :: after ∧ Unfailed before ∧
    ∀ event ∈ after, ∃ outer, event = .settled outer (.error fault)

/-- What the events of a course say about its ending. -/
inductive Fate : List Event → Ending Session.Fault → Prop where
  | clean {events : List Event} {ended : Ending Session.Fault} (unfailed : Unfailed events)
      (own : ∀ why, ended = .error why → why.fault? = none) : Fate events ended
  | failed {events : List Event} {fault : Session.Fault} (failed : FailedWith fault events) :
      Fate events (.error (.failed fault))

namespace Unfailed

theorem nil : Unfailed [] := by
  intro event member
  cases member

theorem append {before after : List Event} (head : Unfailed before) (tail : Unfailed after) :
    Unfailed (before ++ after) := by
  intro event member
  rcases List.mem_append.mp member with early | late
  · exact head event early
  · exact tail event late

theorem singleton {event : Event} (unfailed : event.failure? = none) : Unfailed [event] := by
  intro other member
  obtain rfl := List.mem_singleton.mp member
  exact unfailed

theorem fails {events : List Event} (unfailed : Unfailed events) (raw : Int32)
    (fault : Session.Fault) : FailedWith fault (events ++ [Event.settled raw (.error fault)]) := by
  refine ⟨events, raw, [], rfl, unfailed, ?_⟩
  intro event member
  cases member

end Unfailed

theorem Event.IsReply.unfailed {event : Event} (reply : event.IsReply) : event.failure? = none := by
  cases event with
  | settled raw result => cases reply
  | _ => rfl

theorem HostState.grown_record {first last : HostState σ} {events : List Event}
    (grown : last.history = first.history ++ events) (event : Event) :
    (last.record event).history = first.history ++ (events ++ [event]) := by
  rw [history_record, grown, List.append_assoc]

theorem Trigger.Admission.unfailed {service : Service σ} {raw : Int32} {state after : HostState σ}
    {answer : Except Session.Fault (Option (FuncId × Bytes))}
    (admitted : Trigger.Admission service raw state answer after) :
    ∃ events, after.history = state.history ++ events ∧ Unfailed events := by
  have entered : Unfailed [.triggered raw state.ledger] := .singleton rfl
  cases admitted with
  | tooEarly unready => exact ⟨_, HostState.history_enter state raw, entered⟩
  | outOfRange ready refused => exact ⟨_, HostState.history_enter state raw, entered⟩
  | @present shared i ready located installed =>
    have noted : Unfailed [.notice (.alreadyInstalled i)] := .singleton rfl
    refine ⟨_, ?_, entered.append noted⟩
    exact HostState.grown_record (HostState.history_enter state raw) _
  | reentered ready located notInstalled refused =>
    exact ⟨_, HostState.history_enter state raw, entered⟩
  | @requested shared i ledger result outside ready located reserved obtained =>
    obtain ⟨replies, replied, grown, _⟩ := Trigger.requested_history obtained
    have asked : Unfailed (.notice (.compiling i) :: .request (.unit state.compiler i) ::
        replies) := by
      intro event member
      rcases List.mem_cons.mp member with rfl | member
      · rfl
      · rcases List.mem_cons.mp member with rfl | member
        · rfl
        · exact (replied event member).unfailed
    refine ⟨_, ?_, entered.append asked⟩
    rw [grown, HostState.history_enter, List.append_assoc]

namespace FailedWith

variable {fault : Session.Fault} {events : List Event}

theorem prepend {before : List Event} (unfailed : Unfailed before)
    (failed : FailedWith fault events) : FailedWith fault (before ++ events) := by
  obtain ⟨early, raw, after, rfl, clean, passes⟩ := failed
  exact ⟨before ++ early, raw, after, by simp, unfailed.append clean, passes⟩

/-- The failure passes through a call of the trigger. -/
theorem passes (failed : FailedWith fault events) (raw : Int32) :
    FailedWith fault (events ++ [Event.settled raw (.error fault)]) := by
  obtain ⟨before, inner, after, rfl, clean, passes⟩ := failed
  refine ⟨before, inner, after ++ [Event.settled raw (.error fault)], by simp, clean, ?_⟩
  intro event member
  rcases List.mem_append.mp member with early | last
  · exact passes event early
  · exact ⟨raw, List.mem_singleton.mp last⟩

end FailedWith

theorem Fate.ok {events : List Event} (unfailed : Unfailed events) : Fate events (.ok ()) :=
  .clean unfailed nofun

theorem Fate.unfailed {events : List Event} (fate : Fate events (.ok ())) : Unfailed events := by
  cases fate with
  | clean unfailed own => exact unfailed

theorem Fate.prepend {before events : List Event} {ended : Ending Session.Fault}
    (unfailed : Unfailed before) (fate : Fate events ended) : Fate (before ++ events) ended := by
  cases fate with
  | clean clean own => exact .clean (unfailed.append clean) own
  | failed failed => exact .failed (failed.prepend unfailed)

/-- A call of the trigger whose unit did not load ends with what stopped the loading, if that was a
failure, and with a failure to load the unit, if code of the unit trapped. -/
theorem Fate.broken {events : List Event} {why : Stop Session.Fault}
    (fate : Fate events (.error why)) (unit : String) (raw : Int32) (state : HostState σ) :
    ∃ more, (state.settle raw (.error (Dispatch.loadStop unit why))).history =
        state.history ++ more ∧
      Fate (events ++ more) (.error (Dispatch.loadStop unit why)) := by
  cases fate with
  | clean unfailed own =>
    cases why with
    | trap t => exact ⟨_, HostState.history_record _ _, .failed (unfailed.fails raw _)⟩
    | snag s => exact ⟨_, HostState.history_record _ _, .failed (unfailed.fails raw _)⟩
    | misplaced => exact ⟨_, HostState.history_record _ _, .failed (unfailed.fails raw _)⟩
    | failed fault => cases own _ rfl
    | unfinished =>
      refine ⟨[], (List.append_nil _).symm, ?_⟩
      rw [List.append_nil]
      exact .clean unfailed own
    | stuck =>
      refine ⟨[], (List.append_nil _).symm, ?_⟩
      rw [List.append_nil]
      exact .clean unfailed own
  | failed failed => exact ⟨_, HostState.history_record _ _, .failed (failed.passes raw)⟩

/-- The events of a course tell how it ended. -/
theorem Course.fate {service : Service σ} {first last : HostState σ} {ended : Ending Session.Fault}
    (course : Course service first ended last) :
    ∃ events, last.history = first.history ++ events ∧ Fate events ended := by
  induction course with
  | quiet state =>
    exact ⟨[], (List.append_nil _).symm, .ok .nil⟩
  | halted state own =>
    refine ⟨[], (List.append_nil _).symm, .clean .nil ?_⟩
    rintro why same
    cases same
    exact own
  | trans head tail ihHead ihTail =>
    obtain ⟨before, grown, fate⟩ := ihHead
    obtain ⟨after, more, ends⟩ := ihTail
    refine ⟨before ++ after, ?_, ends.prepend fate.unfailed⟩
    rw [more, grown, List.append_assoc]
  | printed state value =>
    exact ⟨_, HostState.history_print state value, .ok (.singleton rfl)⟩
  | refused admitted =>
    obtain ⟨events, grown, unfailed⟩ := admitted.unfailed
    exact ⟨_, HostState.grown_record grown _, .failed (unfailed.fails _ _)⟩
  | @present state after raw admitted =>
    obtain ⟨events, grown, unfailed⟩ := admitted.unfailed
    have ends : Unfailed [.settled raw (.ok ())] := .singleton rfl
    exact ⟨_, HostState.grown_record grown _, .ok (unfailed.append ends)⟩
  | turnedAway admitted turns =>
    obtain ⟨events, grown, unfailed⟩ := admitted.unfailed
    exact ⟨_, HostState.grown_record grown _, .failed (unfailed.fails _ _)⟩
  | @broken state after last raw i blob why admitted loading ih =>
    obtain ⟨events, grown, unfailed⟩ := admitted.unfailed
    obtain ⟨inner, further, fate⟩ := ih
    obtain ⟨more, ends, settled⟩ := (fate.prepend unfailed).broken (unitName i) raw last
    refine ⟨events ++ inner ++ more, ?_, settled⟩
    rw [ends, further, grown]
    simp only [List.append_assoc]
  | @installed state after last raw i blob ledger admitted loading recorded ih =>
    obtain ⟨events, grown, unfailed⟩ := admitted.unfailed
    obtain ⟨inner, further, fate⟩ := ih
    have loaded : last.history = state.history ++ (events ++ inner) := by
      rw [further, grown, List.append_assoc]
    have noted : Unfailed [.notice (.installed i blob.length)] := .singleton rfl
    have ends : Unfailed [.settled raw (.ok ())] := .singleton rfl
    exact ⟨_, HostState.grown_record (HostState.grown_record loaded _) _,
      .ok (((unfailed.append fate.unfailed).append noted).append ends)⟩
  | @unrecorded state after last raw i blob refusal admitted loading refused ih =>
    obtain ⟨events, grown, unfailed⟩ := admitted.unfailed
    obtain ⟨inner, further, fate⟩ := ih
    have loaded : last.history = state.history ++ (events ++ inner) := by
      rw [further, grown, List.append_assoc]
    have noted : Unfailed [.notice (.installed i blob.length)] := .singleton rfl
    refine ⟨_, HostState.grown_record (HostState.grown_record loaded _) _, .failed ?_⟩
    exact ((unfailed.append fate.unfailed).append noted).fails raw _

namespace Session

variable {session : Session σ} {addr : Nat}

/-- What the guest code of a run came to. -/
def outcome (service : Service σ) (limits : Limits) (addr : Nat) (session : Session σ) :
    Except (Stop Fault) (List Value) :=
  (call service limits addr [] session.announced).1

theorem run_fate (service : Service σ) (limits : Limits)
    (found : session.skeleton.entry session.machine.store session.entry = .ok addr) :
    ∃ events, (session.run service limits).2.state.history = session.state.history ++ events ∧
      Fate events (ending (session.outcome service limits addr)) := by
  obtain ⟨result, machine, ran, called, follows⟩ := run_course service limits found
  obtain ⟨events, grown, fate⟩ := follows.fate
  have same : session.outcome service limits addr = result := congrArg Prod.fst called
  have announced : Unfailed [.notice (.executing session.entry)] := .singleton rfl
  have whole : machine.host.history = session.state.history ++
      ([Event.notice (.executing session.entry)] ++ events) := by
    rw [grown, ← List.append_assoc]
    exact congrArg (· ++ events) (HostState.history_record _ _)
  rw [ran, same]
  obtain ⟨raw, rfl, ends⟩ | ⟨why, _, ends⟩ := conclude_cases session result machine
  · rw [ends]
    have finished : Unfailed [.notice (.finished raw.toInt32
        machine.host.ledger.table.countInstalled session.skeleton.slotCount)] := .singleton rfl
    exact ⟨_, HostState.grown_record whole _,
      .ok ((announced.append fate.unfailed).append finished)⟩
  · rw [ends]
    exact ⟨_, whole, fate.prepend announced⟩

/-- What a run answers, by what its guest code came to. -/
theorem run_answer (service : Service σ) (limits : Limits)
    (found : session.skeleton.entry session.machine.store session.entry = .ok addr) :
    (session.run service limits).1 =
      match session.outcome service limits addr with
      | .ok [.i32 raw] => .ok raw.toInt32
      | .ok _ => .error (runFault session.entry .stuck)
      | .error why => .error (runFault session.entry why) := by
  rw [run_of_entry found]
  unfold outcome
  cases call service limits addr [] session.announced with
  | mk result machine =>
    cases result with
    | error why => rfl
    | ok values =>
      rcases values with _ | ⟨value, _ | ⟨second, rest⟩⟩
      · rfl
      · cases value <;> rfl
      · cases value <;> rfl

/-- A run without an entry point of the right type does nothing. Any other run answers the first
failure of the trigger, after which nothing happens but that the calls around it end with it; if no
call of the trigger failed, the run answers what the guest code returned, or stops with its trap. -/
theorem run_answers_first_failure (service : Service σ) (limits : Limits) (session : Session σ) :
    (session.skeleton.inst.exportedFunc? session.entry = none →
      session.run service limits =
        (.error (.missingExport skeletonName session.entry), session)) ∧
    ∀ addr, session.skeleton.inst.exportedFunc? session.entry = some addr →
      ((session.machine.store.funcs[addr]?).map FuncInst.type ≠ some ⟨[], [.i32]⟩ →
        session.run service limits =
          (.error (.unloadable (entryPointName session.entry) .signature), session)) ∧
      ((session.machine.store.funcs[addr]?).map FuncInst.type = some ⟨[], [.i32]⟩ →
        ∃ events,
          (session.run service limits).2.state.history = session.state.history ++ events ∧
          ((∃ fault, FailedWith fault events ∧
              (session.run service limits).1 = .error fault) ∨
            Unfailed events ∧
              ((∃ raw, session.outcome service limits addr = .ok [.i32 raw] ∧
                  (session.run service limits).1 = .ok raw.toInt32) ∨
                (∃ t, session.outcome service limits addr = .error (.trap t) ∧
                  (session.run service limits).1 =
                    .error (.stopped session.entry (.trap t))) ∨
                (∃ s, session.outcome service limits addr = .error (.snag s) ∧
                  (session.run service limits).1 =
                    .error (.stopped session.entry (.snag s))) ∨
                (∀ raw, session.outcome service limits addr ≠ .ok [.i32 raw]) ∧
                  (∀ t, session.outcome service limits addr ≠ .error (.trap t)) ∧
                  (∀ s, session.outcome service limits addr ≠ .error (.snag s)) ∧
                  ∃ cause, (session.run service limits).1 =
                    .error (.stopped session.entry cause)))) := by
  constructor
  · intro missing
    apply run_of_entry_error
    unfold Skeleton.entry
    rw [missing]
  intro addr exported
  constructor
  · intro mistyped
    apply run_of_entry_error
    unfold Skeleton.entry
    rw [exported]
    dsimp only
    rw [if_neg fun fits => mistyped (any_type_iff.mp fits)]
  intro typed
  have found : session.skeleton.entry session.machine.store session.entry = .ok addr := by
    unfold Skeleton.entry
    rw [exported]
    dsimp only
    rw [if_pos (any_type_iff.mpr typed)]
  obtain ⟨events, grown, fate⟩ := run_fate service limits found
  have answer := run_answer service limits found
  refine ⟨events, grown, ?_⟩
  cases came : session.outcome service limits addr with
  | ok values =>
    rw [came] at fate answer
    refine .inr ⟨fate.unfailed, ?_⟩
    by_cases single : ∃ raw, values = [.i32 raw]
    · obtain ⟨raw, rfl⟩ := single
      exact .inl ⟨raw, rfl, answer⟩
    · have other : (session.run service limits).1 =
          .error (runFault session.entry .stuck) := by
        rw [answer]
        split
        · next raw same => exact absurd ⟨raw, Except.ok.inj same⟩ single
        · rfl
        · next same => cases same
      exact .inr (.inr (.inr ⟨fun raw same => single ⟨raw, Except.ok.inj same⟩, nofun, nofun, _,
        other⟩))
  | error why =>
    rw [came] at fate answer
    cases fate with
    | failed failed => exact .inl ⟨_, failed, answer⟩
    | clean unfailed own =>
      refine .inr ⟨unfailed, ?_⟩
      cases why with
      | trap t => exact .inr (.inl ⟨t, rfl, answer⟩)
      | snag s => exact .inr (.inr (.inl ⟨s, rfl, answer⟩))
      | failed fault => cases own _ rfl
      | misplaced => exact .inr (.inr (.inr ⟨nofun, nofun, nofun, _, answer⟩))
      | unfinished => exact .inr (.inr (.inr ⟨nofun, nofun, nofun, _, answer⟩))
      | stuck => exact .inr (.inr (.inr ⟨nofun, nofun, nofun, _, answer⟩))

/-- The refusal of a unit inside a run comes out of it. -/
theorem sample_answers_first_failure :
    ∃ (session : Session Unit) (events : List Event),
      start Sample.script.service Sample.limits "" Settings.default ⟨(), Sample.world⟩ =
        .ok session ∧
      (session.run Sample.script.service Sample.limits).2.state.history =
        session.state.history ++ events ∧
      FailedWith (.service (.stopped (.unit ⟨1⟩) (.told "no such function"))) events ∧
      (session.run Sample.script.service Sample.limits).1 =
        .error (.service (.stopped (.unit ⟨1⟩) (.told "no such function"))) := by
  have seen : ((start Sample.script.service Sample.limits "" Settings.default
      ⟨(), Sample.world⟩).toOption.map fun session =>
        (session.skeleton.inst.exportedFunc? session.entry,
          (session.machine.store.funcs[2]?).map FuncInst.type,
          (session.run Sample.script.service Sample.limits).1)) =
      some (some 2, some ⟨[], [.i32]⟩,
        .error (.service (.stopped (.unit ⟨1⟩) (.told "no such function")))) := by
    decide +kernel
  obtain ⟨session, started, seen⟩ := exists_ok_of_seen seen
  obtain ⟨exported, rest⟩ := Prod.mk.inj seen
  obtain ⟨typed, answered⟩ := Prod.mk.inj rest
  have reported := (run_answers_first_failure Sample.script.service Sample.limits session).2 2
    exported
  obtain ⟨events, grown, ⟨fault, failed, answer⟩ | ⟨_, ⟨_, _, answer⟩ | ⟨_, _, answer⟩ |
    ⟨_, _, answer⟩ | ⟨_, _, _, _, answer⟩⟩⟩ := reported.2 typed
  · rw [answer] at answered
    obtain rfl := Except.error.inj answered
    exact ⟨session, events, started, grown, failed, answer⟩
  · rw [answer] at answered
    cases answered
  · rw [answer] at answered
    cases answered
  · rw [answer] at answered
    cases answered
  · rw [answer] at answered
    cases answered

end Session

end FirstCall
