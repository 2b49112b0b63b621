import FirstCall.Proofs.Outside

/-!
# The life of a session

A session is set up once and then run any number of times. Its host only ever moves by the steps
of a course and by the notices around a run, so a property that each of these steps keeps holds
for the whole life of the session.
-/

namespace FirstCall

open Wasm

variable {σ : Type}

/-- What follows a request on its way to an answer: the service speaks, hands out a blob, and the
blob is written to a file. -/
def Event.IsReply : Event → Prop
  | .notice _ => True
  | .received .. => True
  | .wrote .. => True
  | _ => False

theorem Event.IsReply.unprinted {event : Event} (reply : event.IsReply) :
    event.printed? = none := by
  cases event with
  | printed value => cases reply
  | _ => rfl

namespace Trigger

/-- Obtaining a unit is one request and its reply; the reply brings one blob, or none when the
service refused. -/
theorem obtain_history {service : Service σ} {compiler : Service.Compiler}
    {dump : Option DumpDir} {i : FuncId} {outside after : Outside σ}
    {result : Except Session.Fault Bytes}
    (obtained : obtain service compiler dump i outside = (result, after)) :
    ∃ replies : List Event, (∀ event ∈ replies, event.IsReply) ∧
      after.world.history.toList =
        outside.world.history.toList ++ .request (.unit compiler i) :: replies ∧
      ((replies.filterMap Event.received? = [] ∧ ∀ blob, result ≠ .ok blob) ∨
        ∃ blob, replies.filterMap Event.received? = [(.unit compiler i, blob)] ∧
          ∀ other, result = .ok other → other = blob) := by
  cases obtain_eq_iff.mp obtained with
  | refused answer =>
    refine ⟨_, ?_, (replied_talks service compiler i outside).history, .inl ⟨?_, ?_⟩⟩
    · simp [Event.IsReply]
    · exact (replied_talks service compiler i outside).unreceived
    · intro blob same
      cases same
  | @kept blob answer undumped =>
    refine ⟨_, ?_, history_brought service compiler i outside blob, .inr ⟨blob, ?_, ?_⟩⟩
    · simp [Event.IsReply, or_imp, forall_and]
    · simp [Event.received?]
    · intro other same
      exact (Except.ok.inj same).symm
  | @undumped blob dir cause answer dumping refused =>
    refine ⟨_, ?_, history_brought service compiler i outside blob, .inr ⟨blob, ?_, ?_⟩⟩
    · simp [Event.IsReply, or_imp, forall_and]
    · simp [Event.received?]
    · intro other same
      cases same
  | @dumped blob dir files answer dumping written =>
    refine ⟨(service.unit compiler i outside.service).notices.map .notice ++
      [Event.received (.unit compiler i) blob, .wrote (dir.pathOfUnit i) blob,
        .notice (.dumped blob.length (dir.pathOfUnit i))], ?_, ?_, .inr ⟨blob, ?_, ?_⟩⟩
    · simp [Event.IsReply, or_imp, forall_and]
    · rw [Outside.history_wrote, history_brought]
      simp
    · simp [Event.received?]
    · intro other same
      exact (Except.ok.inj same).symm

theorem requested_history {service : Service σ} {state : HostState σ} {raw : Int32} {i : FuncId}
    {ledger : Ledger} {outside : Outside σ} {result : Except Session.Fault Bytes}
    (obtained : obtain service state.compiler state.dump i (state.reserved raw i ledger).outside =
      (result, outside)) :
    ∃ replies : List Event, (∀ event ∈ replies, event.IsReply) ∧
      HostState.history { state.reserved raw i ledger with outside } =
        (state.enter raw).history ++
          .notice (.compiling i) :: .request (.unit state.compiler i) :: replies ∧
      ((replies.filterMap Event.received? = [] ∧ ∀ blob, result ≠ .ok blob) ∨
        ∃ blob, replies.filterMap Event.received? = [(.unit state.compiler i, blob)] ∧
          ∀ other, result = .ok other → other = blob) := by
  obtain ⟨replies, idle, grown, brought⟩ := obtain_history obtained
  refine ⟨replies, idle, ?_, brought⟩
  have before : (state.reserved raw i ledger).outside.world.history.toList =
      (state.enter raw).history ++ [Event.notice (.compiling i)] := HostState.history_record _ _
  change outside.world.history.toList = _
  rw [grown, before, List.append_assoc]
  rfl

theorem requested_printed {service : Service σ} {state : HostState σ} {raw : Int32} {i : FuncId}
    {ledger : Ledger} {outside : Outside σ} {result : Except Session.Fault Bytes}
    (obtained : obtain service state.compiler state.dump i (state.reserved raw i ledger).outside =
      (result, outside)) :
    HostState.printed { state.reserved raw i ledger with outside } = state.printed := by
  obtain ⟨replies, idle, grown, _⟩ := requested_history obtained
  have unprinted : replies.filterMap Event.printed? = [] :=
    List.filterMap_eq_nil_iff.mpr fun event listed => (idle event listed).unprinted
  have entered : (state.enter raw).printed = state.printed := HostState.printed_record _ rfl
  rw [← entered, HostState.printed_eq, HostState.printed_eq, grown, List.filterMap_append]
  simp [unprinted, Event.printed?, List.filterMap_cons]

end Trigger

namespace HostState

/-- The later state of a host: its history goes on, and what was fixed at set-up is still there. -/
structure Grows (first last : HostState σ) : Prop where
  history : first.history <+: last.history
  compiler : last.compiler = first.compiler
  shared : last.shared = first.shared
  println : last.println = first.println
  dump : last.dump = first.dump

namespace Grows

theorem refl (state : HostState σ) : state.Grows state :=
  ⟨List.prefix_refl _, rfl, rfl, rfl, rfl⟩

theorem trans {first middle last : HostState σ} (head : first.Grows middle)
    (tail : middle.Grows last) : first.Grows last :=
  ⟨head.history.trans tail.history, tail.compiler.trans head.compiler,
    tail.shared.trans head.shared, tail.println.trans head.println, tail.dump.trans head.dump⟩

theorem record (state : HostState σ) (event : Event) : state.Grows (state.record event) := by
  refine ⟨?_, rfl, rfl, rfl, rfl⟩
  rw [history_record]
  exact List.prefix_append _ _

theorem settle (state : HostState σ) (raw : Int32) (ended : Ending Session.Fault) :
    state.Grows (state.settle raw ended) := by
  obtain same | ⟨result, same⟩ := settle_cases state raw ended
  · rw [same]
    exact refl state
  · rw [same]
    exact record state _

end Grows

end HostState

theorem Trigger.Admission.grows {service : Service σ} {raw : Int32} {state after : HostState σ}
    {answer : Except Session.Fault (Option (FuncId × Bytes))}
    (admitted : Trigger.Admission service raw state answer after) : state.Grows after := by
  have entered : state.Grows (state.enter raw) := .record state _
  cases admitted with
  | tooEarly unready => exact entered
  | outOfRange ready refused => exact entered
  | present ready located installed => exact entered.trans (.record _ _)
  | reentered ready located notInstalled refused => exact entered
  | requested ready located reserved obtained =>
    obtain ⟨replies, _, grown, _⟩ := Trigger.requested_history obtained
    refine ⟨entered.history.trans ?_, rfl, rfl, rfl, rfl⟩
    rw [grown]
    exact List.prefix_append _ _

/-- Weighing a call of the trigger changes the ledger only by reserving the slot of a function that
is then requested. -/
theorem Trigger.Admission.ledger {service : Service σ} {raw : Int32} {state after : HostState σ}
    {answer : Except Session.Fault (Option (FuncId × Bytes))}
    (admitted : Trigger.Admission service raw state answer after) :
    (after.ledger = state.ledger ∧ ∀ i blob, answer ≠ .ok (some (i, blob))) ∨
      ∃ i, state.ledger.reserve i = .ok after.ledger ∧
        ∀ j blob, answer = .ok (some (j, blob)) → j = i := by
  cases admitted with
  | tooEarly unready => exact .inl ⟨rfl, nofun⟩
  | outOfRange ready refused => exact .inl ⟨rfl, nofun⟩
  | present ready located installed => exact .inl ⟨rfl, nofun⟩
  | reentered ready located notInstalled refused => exact .inl ⟨rfl, nofun⟩
  | @requested _ i ledger result outside ready located reserved obtained =>
    refine .inr ⟨i, reserved, fun j blob same => ?_⟩
    cases result with
    | error fault => cases same
    | ok found =>
      cases same
      rfl

theorem Trigger.Admission.reserves {service : Service σ} {raw : Int32} {state after : HostState σ}
    {i : FuncId} {blob : Bytes}
    (admitted : Trigger.Admission service raw state (.ok (some (i, blob))) after) :
    state.ledger.reserve i = .ok after.ledger ∧ state.ledger.table.slot? i = some .stub ∧
      after.ledger.table.slot? i = some .compiling := by
  obtain ⟨j, reserved, only⟩ :=
    admitted.ledger.resolve_left fun unreserved => unreserved.2 i blob rfl
  obtain rfl := only i blob rfl
  have marked := (Ledger.reserve_eq_ok_iff.mp reserved).1
  refine ⟨reserved, (DispatchTable.reserve_eq_ok_iff.mp marked).1, ?_⟩
  rw [DispatchTable.slot?_of_reserve marked, if_pos rfl]

namespace Course

variable {service : Service σ} {first last : HostState σ} {ended : Ending Session.Fault}

theorem grows (course : Course service first ended last) : first.Grows last := by
  induction course with
  | quiet state => exact .refl state
  | halted state own => exact .refl state
  | trans head tail ihHead ihTail => exact ihHead.trans ihTail
  | printed state value =>
    refine ⟨?_, rfl, rfl, rfl, rfl⟩
    rw [HostState.history_print]
    exact List.prefix_append _ _
  | refused admitted => exact admitted.grows.trans (.settle _ _ _)
  | present admitted => exact admitted.grows.trans (.settle _ _ _)
  | turnedAway admitted turns => exact admitted.grows.trans (.settle _ _ _)
  | broken admitted loading ih => exact (admitted.grows.trans ih).trans (.settle _ _ _)
  | @installed _ _ last _ i blob ledger admitted loading recorded ih =>
    have noted : last.Grows { last.record (.notice (.installed i blob.length)) with ledger } :=
      ⟨(HostState.Grows.record last _).history, rfl, rfl, rfl, rfl⟩
    exact ((admitted.grows.trans ih).trans noted).trans (.settle _ _ _)
  | unrecorded admitted loading refused ih =>
    exact ((admitted.grows.trans ih).trans (.record _ _)).trans (.settle _ _ _)

end Course

/-- A property of host states that every step of a course keeps, and every notice. -/
structure Kept (service : Service σ) (I : HostState σ → Prop) : Prop where
  notice : ∀ {state} (notice : Notice), I state → I (state.record (.notice notice))
  printed : ∀ {state} (value : Int32), I state → I (state.print value)
  admitted : ∀ {raw state answer after}, Trigger.Admission service raw state answer after →
    I state → I after
  settled : ∀ {state} (raw : Int32) (result : Except Session.Fault Unit), I state →
    I (state.record (.settled raw result))
  installed : ∀ {raw before after state ledger} {i : FuncId} {blob : Bytes},
    Trigger.Admission service raw before (.ok (some (i, blob))) after → I before →
    after.Grows state → state.ledger.install ⟨i, blob.length⟩ = .ok ledger → I state →
    I ({ state.record (.notice (.installed i blob.length)) with ledger })

theorem Trigger.Admission.answer_of_unready {service : Service σ} {raw : Int32}
    {state after : HostState σ} {answer : Except Session.Fault (Option (FuncId × Bytes))}
    (admitted : Trigger.Admission service raw state answer after)
    (unready : state.shared = none) : answer = .error .tooEarly := by
  cases admitted with
  | tooEarly unready => rfl
  | outOfRange ready refused => simp [unready] at ready
  | present ready located installed => simp [unready] at ready
  | reentered ready located notInstalled refused => simp [unready] at ready
  | requested ready located reserved obtained => simp [unready] at ready

/-- A call of the trigger goes on to load a unit only after its blob was received. -/
theorem Trigger.Admission.received {service : Service σ} {raw : Int32} {state after : HostState σ}
    {i : FuncId} {blob : Bytes}
    (admitted : Trigger.Admission service raw state (.ok (some (i, blob))) after) :
    ∃ events, after.history = state.history ++ events ∧
      .received (.unit after.compiler i) blob ∈ events := by
  generalize sought : (Except.ok (some (i, blob)) :
    Except Session.Fault (Option (FuncId × Bytes))) = answer at admitted
  cases admitted with
  | tooEarly unready => cases sought
  | outOfRange ready refused => cases sought
  | present ready located installed => cases sought
  | reentered ready located notInstalled refused => cases sought
  | @requested _ j ledger result outside ready located reserved obtained =>
    obtain ⟨replies, _, grown, ⟨_, none⟩ | ⟨found, brought, only⟩⟩ :=
      Trigger.requested_history obtained
    · cases result with
      | error fault => cases sought
      | ok other => exact absurd rfl (none other)
    · cases result with
      | error fault => cases sought
      | ok other =>
        cases sought
        obtain rfl := only _ rfl
        have inside : .received (.unit state.compiler i) blob ∈ replies := by
          rw [← Event.mem_received_iff, brought]
          exact List.mem_singleton_self _
        refine ⟨[Event.triggered raw state.ledger] ++
          .notice (.compiling i) :: .request (.unit state.compiler i) :: replies, ?_, ?_⟩
        · rw [grown, HostState.history_enter, List.append_assoc]
        · exact List.mem_append_right _ (List.mem_cons_of_mem _ (List.mem_cons_of_mem _ inside))

namespace Kept

variable {service : Service σ} {I : HostState σ → Prop} (kept : Kept service I)

include kept

theorem settle {state : HostState σ} (raw : Int32) (ended : Ending Session.Fault)
    (holds : I state) : I (state.settle raw ended) := by
  obtain same | ⟨result, same⟩ := HostState.settle_cases state raw ended
  · rw [same]
    exact holds
  · rw [same]
    exact kept.settled raw result holds

/-- What every step keeps, a whole course keeps. -/
theorem course {first last : HostState σ} {ended : Ending Session.Fault}
    (course : Course service first ended last) (holds : I first) : I last := by
  induction course with
  | quiet state => exact holds
  | halted state own => exact holds
  | trans head tail ihHead ihTail => exact ihTail (ihHead holds)
  | printed state value => exact kept.printed value holds
  | refused admitted => exact kept.settle _ _ (kept.admitted admitted holds)
  | present admitted => exact kept.settle _ _ (kept.admitted admitted holds)
  | turnedAway admitted turns => exact kept.settle _ _ (kept.admitted admitted holds)
  | broken admitted loading ih => exact kept.settle _ _ (ih (kept.admitted admitted holds))
  | installed admitted loading recorded ih =>
    have loaded := ih (kept.admitted admitted holds)
    exact kept.settle _ _ (kept.installed admitted holds loading.grows recorded loaded)
  | unrecorded admitted loading refused ih =>
    exact kept.settle _ _ (kept.notice _ (ih (kept.admitted admitted holds)))

end Kept

/-- A property of host states inside calls of the trigger that have begun and not ended, with what
is known of each of them, the innermost first, and one of host states after a failure. Every step of
a course keeps them: calls begin and end well inside each other, and nothing goes on after a
failure. -/
structure Nests {φ : Type} (service : Service σ) (Inside : List φ → HostState σ → Prop)
    (Halted : HostState σ → Prop) : Prop where
  halt : ∀ {calls state}, Inside calls state → Halted state
  failed : ∀ {state} (raw : Int32) (why : Stop Session.Fault), Halted state →
    Halted (state.settle raw (.error why))
  notice : ∀ {calls state} (notice : Notice), Inside calls state →
    Inside calls (state.record (.notice notice))
  printed : ∀ {calls state} (value : Int32), Inside calls state → Inside calls (state.print value)
  refused : ∀ {calls raw state fault after},
    Trigger.Admission service raw state (.error fault) after → Inside calls state →
    Halted (after.settle raw (.error (.failed fault)))
  present : ∀ {calls raw state after}, Trigger.Admission service raw state (.ok none) after →
    Inside calls state → Inside calls (after.settle raw (.ok ()))
  begun : ∀ {calls raw state after} {i : FuncId} {blob : Bytes},
    Trigger.Admission service raw state (.ok (some (i, blob))) after → Inside calls state →
    ∃ call, Inside (call :: calls) after ∧ ∀ {last ledger}, Inside (call :: calls) last →
      last.ledger.install ⟨i, blob.length⟩ = .ok ledger →
        Inside calls ({ last with ledger }.settle raw (.ok ()))

/-- A course that gets to its end stays inside the calls that were open. -/
theorem Nests.course {φ : Type} {service : Service σ} {Inside : List φ → HostState σ → Prop}
    {Halted : HostState σ → Prop} (nests : Nests service Inside Halted) {first last : HostState σ}
    {ended : Ending Session.Fault} (course : Course service first ended last) {calls : List φ}
    (inside : Inside calls first) :
    (ended = .ok () ∧ Inside calls last) ∨ (∃ why, ended = .error why) ∧ Halted last := by
  induction course generalizing calls with
  | quiet state => exact .inl ⟨rfl, inside⟩
  | halted state own => exact .inr ⟨⟨_, rfl⟩, nests.halt inside⟩
  | trans head tail ihHead ihTail =>
    obtain ⟨_, middle⟩ | ⟨⟨_, failed⟩, _⟩ := ihHead inside
    · exact ihTail middle
    · cases failed
  | printed state value => exact .inl ⟨rfl, nests.printed value inside⟩
  | refused admitted => exact .inr ⟨⟨_, rfl⟩, nests.refused admitted inside⟩
  | present admitted => exact .inl ⟨rfl, nests.present admitted inside⟩
  | turnedAway admitted turns =>
    obtain ⟨call, begun, _⟩ := nests.begun admitted inside
    exact .inr ⟨⟨_, rfl⟩, nests.failed _ _ (nests.halt begun)⟩
  | broken admitted loading ih =>
    obtain ⟨call, begun, _⟩ := nests.begun admitted inside
    obtain ⟨done, _⟩ | ⟨_, halted⟩ := ih begun
    · cases done
    · exact .inr ⟨⟨_, rfl⟩, nests.failed _ _ halted⟩
  | installed admitted loading recorded ih =>
    obtain ⟨call, begun, ends⟩ := nests.begun admitted inside
    obtain ⟨_, loaded⟩ | ⟨⟨_, failed⟩, _⟩ := ih begun
    · exact .inl ⟨rfl, ends (nests.notice _ loaded) recorded⟩
    · cases failed
  | unrecorded admitted loading refused ih =>
    obtain ⟨call, begun, _⟩ := nests.begun admitted inside
    obtain ⟨_, loaded⟩ | ⟨⟨_, failed⟩, _⟩ := ih begun
    · exact .inr ⟨⟨_, rfl⟩, nests.failed _ _ (nests.halt (nests.notice _ loaded))⟩
    · cases failed

namespace Session

/-- The machine on which a run calls the entry point. -/
def announced (session : Session σ) : DispatchMachine σ :=
  { session.machine with
    host := session.machine.host.record (.notice (.executing session.entry)) }

/-- What a run makes of the end of the call. -/
def conclude (session : Session σ) :
    Except (Stop Fault) (List Value) × DispatchMachine σ → Except Fault Int32 × Session σ
  | (.ok [.i32 raw], machine) =>
    (.ok raw.toInt32, { session with machine := { machine with
      host := machine.host.record (.notice (.finished raw.toInt32
        machine.host.ledger.table.countInstalled session.skeleton.slotCount)) } })
  | (.ok _, machine) => (.error (runFault session.entry .stuck), { session with machine })
  | (.error why, machine) => (.error (runFault session.entry why), { session with machine })

theorem any_type_iff {κ : Type} {func : Option (FuncInst κ)} {type : FuncType} :
    func.any (·.type == type) = true ↔ func.map FuncInst.type = some type := by
  cases func with
  | none => simp
  | some func => simp

theorem run_of_entry_error {service : Service σ} {limits : Limits} {session : Session σ}
    {fault : Fault}
    (missing : session.skeleton.entry session.machine.store session.entry = .error fault) :
    session.run service limits = (.error fault, session) := by
  unfold run
  rw [missing]

theorem run_of_entry {service : Service σ} {limits : Limits} {session : Session σ} {addr : Nat}
    (found : session.skeleton.entry session.machine.store session.entry = .ok addr) :
    session.run service limits =
      session.conclude (call service limits addr [] session.announced) := by
  unfold run
  rw [found]
  dsimp only
  unfold callEntry
  rw [Action.bind_apply]
  dsimp only [Dispatch.say, Action.modifyHost]
  rw [Action.bind_apply]
  have sameMachine : session.announced = { session.machine with
    host := session.machine.host.updateWorld (·.say (.executing session.entry)) } := rfl
  rw [← sameMachine]
  cases call service limits addr [] session.announced with
  | mk result machine =>
    cases result with
    | error why => rfl
    | ok values =>
      rcases values with _ | ⟨value, _ | ⟨second, rest⟩⟩
      · rfl
      · cases value <;> rfl
      · cases value <;> rfl

theorem run_course (service : Service σ) (limits : Limits) {session : Session σ} {addr : Nat}
    (found : session.skeleton.entry session.machine.store session.entry = .ok addr) :
    ∃ result machine, session.run service limits = session.conclude (result, machine) ∧
      call service limits addr [] session.announced = (result, machine) ∧
      Course service session.announced.host (ending result) machine.host := by
  have follows := call_follows service limits addr [] session.announced
  cases called : call service limits addr [] session.announced with
  | mk result machine =>
    rw [called] at follows
    exact ⟨result, machine, (run_of_entry found).trans (congrArg _ called), rfl, follows⟩

/-- The end of a run leaves the host as the call left it, up to one notice. -/
theorem conclude_cases (session : Session σ) (result : Except (Stop Fault) (List Value))
    (machine : DispatchMachine σ) :
    (∃ raw : UInt32, result = .ok [.i32 raw] ∧
      session.conclude (result, machine) = (.ok raw.toInt32, { session with machine :=
        { machine with host := machine.host.record (.notice (.finished raw.toInt32
          machine.host.ledger.table.countInstalled session.skeleton.slotCount)) } })) ∨
    ∃ why, (result = .error why ∨ why = .stuck ∧ ∃ values, result = .ok values) ∧
      session.conclude (result, machine) =
        (.error (runFault session.entry why), { session with machine }) := by
  cases result with
  | error why => exact .inr ⟨why, .inl rfl, rfl⟩
  | ok values =>
    rcases values with _ | ⟨value, _ | ⟨second, rest⟩⟩
    · exact .inr ⟨.stuck, .inr ⟨rfl, _, rfl⟩, rfl⟩
    · cases value with
      | i32 raw => exact .inl ⟨raw, rfl, rfl⟩
      | _ => exact .inr ⟨.stuck, .inr ⟨rfl, _, rfl⟩, rfl⟩
    · refine .inr ⟨.stuck, .inr ⟨rfl, _, rfl⟩, ?_⟩
      cases value <;> rfl

/-- What every step of a course keeps, a run keeps. -/
theorem run_kept {service : Service σ} {I : HostState σ → Prop} (kept : Kept service I)
    (limits : Limits) {session : Session σ} (holds : I session.state) :
    I (session.run service limits).2.state := by
  cases found : session.skeleton.entry session.machine.store session.entry with
  | error fault =>
    rw [run_of_entry_error found]
    exact holds
  | ok addr =>
    obtain ⟨result, machine, ran, _, follows⟩ := run_course service limits found
    have after : I machine.host := kept.course follows (kept.notice _ holds)
    rw [ran]
    obtain ⟨raw, _, ends⟩ | ⟨why, _, ends⟩ := conclude_cases session result machine
    · rw [ends]
      exact kept.notice _ after
    · rw [ends]
      exact after

/-- A run that answers stays inside the calls that were open, and every run ends somewhere. -/
theorem run_nests {φ : Type} {service : Service σ} {Inside : List φ → HostState σ → Prop}
    {Halted : HostState σ → Prop} (nests : Nests service Inside Halted) (limits : Limits)
    {session : Session σ} {calls : List φ} (inside : Inside calls session.state) :
    Halted (session.run service limits).2.state ∧
      ∀ value, (session.run service limits).1 = .ok value →
        Inside calls (session.run service limits).2.state := by
  cases found : session.skeleton.entry session.machine.store session.entry with
  | error fault =>
    rw [run_of_entry_error found]
    exact ⟨nests.halt inside, nofun⟩
  | ok addr =>
    obtain ⟨result, machine, ran, _, follows⟩ := run_course service limits found
    have went := nests.course follows (nests.notice (.executing session.entry) inside)
    rw [ran]
    obtain ⟨raw, rfl, ends⟩ | ⟨why, _, ends⟩ := conclude_cases session result machine
    · rw [ends]
      obtain ⟨_, inside⟩ | ⟨⟨_, failed⟩, _⟩ := went
      · exact ⟨nests.halt (nests.notice _ inside), fun _ _ => nests.notice _ inside⟩
      · cases failed
    · rw [ends]
      refine ⟨?_, nofun⟩
      obtain ⟨_, inside⟩ | ⟨_, halted⟩ := went
      · exact nests.halt inside
      · exact halted

theorem run_skeleton (service : Service σ) (limits : Limits) (session : Session σ) :
    (session.run service limits).2.skeleton = session.skeleton := by
  unfold run
  split
  · rfl
  · dsimp only
    split <;> rfl

def rerun (service : Service σ) (limits : Limits) : Nat → Session σ → Session σ
  | 0, session => session
  | runs + 1, session => rerun service limits runs (session.run service limits).2

theorem rerun_kept {service : Service σ} {I : HostState σ → Prop} (kept : Kept service I)
    (limits : Limits) (runs : Nat) {session : Session σ} (holds : I session.state) :
    I (session.rerun service limits runs).state := by
  induction runs generalizing session with
  | zero => exact holds
  | succ runs ih => exact ih (run_kept kept limits holds)

theorem run_grows (service : Service σ) (limits : Limits) (session : Session σ) :
    session.state.Grows (session.run service limits).2.state := by
  cases found : session.skeleton.entry session.machine.store session.entry with
  | error fault =>
    rw [run_of_entry_error found]
    exact .refl _
  | ok addr =>
    obtain ⟨result, machine, ran, _, follows⟩ := run_course service limits found
    have called := (HostState.Grows.record session.state _).trans follows.grows
    rw [ran]
    obtain ⟨raw, _, ends⟩ | ⟨why, _, ends⟩ := conclude_cases session result machine
    · rw [ends]
      exact called.trans (.record _ _)
    · rw [ends]
      exact called

theorem rerun_grows (service : Service σ) (limits : Limits) (runs : Nat) (session : Session σ) :
    session.state.Grows (session.rerun service limits runs).state := by
  induction runs generalizing session with
  | zero => exact .refl _
  | succ runs ih => exact (run_grows service limits session).trans (ih _)

theorem rerun_skeleton (service : Service σ) (limits : Limits) (runs : Nat) (session : Session σ) :
    (session.rerun service limits runs).skeleton = session.skeleton := by
  induction runs generalizing session with
  | zero => rfl
  | succ runs ih => exact (ih _).trans (run_skeleton service limits session)

end Session

end FirstCall
