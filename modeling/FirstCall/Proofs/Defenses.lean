import FirstCall.Proofs.Abandonment
import FirstCall.Proofs.Refusals
import FirstCall.Proofs.ServiceMemory
import FirstCall.Proofs.Supply

/-!
# Defences that nothing reaches

Between the reservation of a slot and its installation the code of a unit runs, and it can call the
trigger again. Each such call for a slot that is being compiled fails, and code cannot catch a
failure. So the guards behind the first one never fire: a slot is still being compiled when its unit
comes to be recorded. A service that was loaded from an artifact has its own such guards: once it is
loaded, it fails only inside its operations.
-/

namespace FirstCall

open Wasm

variable {σ α β : Type}

/-- Failures that guards would answer if a slot were compiled twice, recorded without being
compiled or addressed past the end, or if the trigger were called before it is open. -/
def Session.Fault.IsDefensive : Session.Fault → Prop
  | .tooEarly => True
  | .table (.repeated _) => True
  | .table (.unreserved _) => True
  | .table (.noSlot _) => True
  | _ => False

namespace DispatchTable

variable {table : DispatchTable} {i : FuncId}

theorem isSome_slot?_iff : (table.slot? i).isSome = true ↔ i.slot < table.size := by
  unfold slot? size
  rw [Option.isSome_iff_ne_none, Ne, Array.getElem?_eq_none_iff, Nat.not_le]

theorem slot?_of_located {raw : Int32} (located : table.locate raw = .ok i) :
    (table.slot? i).isSome = true :=
  isSome_slot?_iff.mpr (locate_eq_ok_iff.mp located).2

theorem refusal_of_locate {raw : Int32} {refusal : Fault}
    (refused : table.locate raw = .error refusal) :
    refusal = .outOfRange raw.toInt table.size := by
  unfold locate at refused
  split at refused
  · exact (Except.error.inj refused).symm
  · cases refused

/-- Reserving a slot that is there and is not installed fails only if it is being compiled. -/
theorem refusal_of_reserve {refusal : Fault} (there : (table.slot? i).isSome = true)
    (notInstalled : table.slot? i ≠ some .installed) (refused : table.reserve i = .error refusal) :
    refusal = .reentered i := by
  unfold reserve at refused
  split at refused
  · cases refused
  · exact (Except.error.inj refused).symm
  · next installed => exact absurd installed notInstalled
  · next none =>
    rw [none] at there
    cases there

end DispatchTable

theorem Ledger.refusal_of_reserve {ledger : Ledger} {i : FuncId} {refusal : DispatchTable.Fault}
    (refused : ledger.reserve i = .error refusal) : ledger.table.reserve i = .error refusal := by
  unfold reserve at refused
  cases marked : ledger.table.reserve i with
  | error found =>
    rw [marked] at refused
    exact congrArg _ (Except.error.inj refused)
  | ok table =>
    rw [marked] at refused
    cases refused

theorem Trigger.obtain_error {service : Service σ} {compiler : Service.Compiler}
    {dump : Option DumpDir} {i : FuncId} {outside after : Outside σ} {fault : Session.Fault}
    (obtained : obtain service compiler dump i outside = (.error fault, after)) :
    (∃ refusal, fault = .service refusal) ∨ ∃ path cause, fault = .unwritable path cause := by
  cases obtain_eq_iff.mp obtained with
  | refused answer => exact .inl ⟨_, rfl⟩
  | undumped answer dumping refused => exact .inr ⟨_, _, rfl⟩

theorem Trigger.Admission.undefended {service : Service σ} {raw : Int32} {state after : HostState σ}
    {fault : Session.Fault} (ready : state.shared.isSome = true)
    (admitted : Trigger.Admission service raw state (.error fault) after) :
    ¬ fault.IsDefensive := by
  generalize sought : (Except.error fault : Except Session.Fault (Option (FuncId × Bytes))) = answer
    at admitted
  cases admitted with
  | tooEarly unready =>
    rw [unready] at ready
    cases ready
  | outOfRange _ refused =>
    obtain rfl := Except.error.inj sought
    obtain rfl := DispatchTable.refusal_of_locate refused
    exact id
  | present _ located installed => cases sought
  | reentered _ located notInstalled refused =>
    obtain rfl := Except.error.inj sought
    obtain rfl := DispatchTable.refusal_of_reserve (DispatchTable.slot?_of_located located)
      notInstalled (Ledger.refusal_of_reserve refused)
    exact id
  | @requested _ i ledger result outside _ located reserved obtained =>
    cases result with
    | ok blob => cases sought
    | error other =>
      obtain rfl := Except.error.inj sought
      obtain ⟨refusal, rfl⟩ | ⟨path, cause, rfl⟩ := obtain_error obtained
      · exact id
      · exact id

namespace Course

variable {service : Service σ} {first last : HostState σ} {ended : Ending Session.Fault}

/-- What is being compiled stays so while code runs: a call of the trigger changes other slots. -/
theorem kept_compiling (service : Service σ) (i : FuncId) :
    Kept service fun state => state.ledger.table.slot? i = some .compiling where
  notice _ here := here
  printed _ here := here
  settled _ _ here := here
  admitted := by
    intro raw state answer after admitted here
    obtain ⟨same, _⟩ | ⟨j, reserved, _⟩ := admitted.ledger
    · rw [same]
      exact here
    · have marked := (Ledger.reserve_eq_ok_iff.mp reserved).1
      rw [DispatchTable.slot?_of_reserve marked, here, ite_self]
  installed := by
    intro raw before after state ledger j blob admitted early grown recorded here
    have other : i ≠ j := by
      rintro rfl
      cases early.symm.trans admitted.reserves.2.1
    have marked := (Ledger.install_eq_ok_iff.mp recorded).1
    change ledger.table.slot? i = _
    rw [DispatchTable.slot?_of_install marked, if_neg other]
    exact here

theorem recordable {raw : Int32} {i : FuncId} {blob : Bytes} {state : HostState σ}
    (admitted : Trigger.Admission service raw state (.ok (some (i, blob))) first)
    (loading : Course service first ended last) (size : Nat) :
    ∃ ledger, last.ledger.install ⟨i, size⟩ = .ok ledger := by
  have still := (kept_compiling service i).course loading admitted.reserves.2.2
  obtain ⟨ledger, recorded, _⟩ :=
    Ledger.install_of_compiling (⟨i, size⟩ : LoadedUnit) still
  exact ⟨ledger, recorded⟩

/-- Once the trigger is open, code does not fail for a defensive reason. -/
theorem undefended (course : Course service first ended last) (ready : first.shared.isSome = true)
    (printing : first.println.isSome = true) {fault : Session.Fault} (failed : ended = .error (.failed fault)) : ¬ fault.IsDefensive := by
  induction course generalizing fault with
  | quiet state => cases failed
  | halted state own =>
    obtain rfl := Except.error.inj failed
    cases own
  | trans head tail ihHead ihTail =>
    refine ihTail ?_ ?_ failed
    · rw [head.grows.shared]
      exact ready
    · rw [head.grows.println]
      exact printing
  | printed state value => cases failed
  | refused admitted =>
    cases failed
    exact admitted.undefended ready
  | present admitted => cases failed
  | @turnedAway _ _ _ _ _ reason admitted turns =>
    cases failed
    rw [← admitted.grows.println] at printing
    cases reason with
    | tooEarly =>
      have missing : _ = none := turns
      rw [missing] at printing
      cases printing
    | unloadable unit cause => exact id
    | unknownImport j module name => exact id
    | _ => cases turns
  | @broken _ _ _ _ _ _ why admitted loading ih =>
    cases why with
    | failed inner =>
      cases failed
      rw [← admitted.grows.shared] at ready
      rw [← admitted.grows.println] at printing
      exact ih ready printing rfl
    | trap t =>
      cases failed
      exact id
    | snag s =>
      cases failed
      exact id
    | misplaced =>
      cases failed
      exact id
    | unfinished => cases failed
    | stuck => cases failed
  | installed admitted loading recorded ih => cases failed
  | @unrecorded _ _ _ _ _ blob _ admitted loading refused ih =>
    obtain ⟨ledger, recorded⟩ := recordable admitted loading blob.length
    cases refused.symm.trans recorded

end Course

/-- The operation that answers a request. -/
def Request.stage : Request → Service.Stage
  | .parse _ => .parse
  | .build _ => .build
  | .skeleton _ => .skeleton
  | .unit _ i => .unit i

/-- Failures from inside an operation: the code of the service stopped in it or while it allocated
memory for it, an address that it gave lies outside its memory, or a length is negative. -/
def Service.Fault.Within (stage : Service.Stage) : Service.Fault → Prop
  | .stopped other _ => other = .allocate ∨ other = stage
  | .outsideMemory .. => True
  | .negativeLength other _ => other = stage
  | _ => False

/-- An exchange that fails only from inside the operation. -/
def Exchange.Confined (stage : Service.Stage) (exchange : Exchange σ α) : Prop :=
  ∀ state fault, (exchange state).result = .error fault → fault.Within stage

namespace Exchange.Confined

variable {stage : Service.Stage}

theorem of_ok {exchange : Exchange σ α}
    (answers : ∀ state, ∃ value, (exchange state).result = .ok value) :
    exchange.Confined stage := by
  intro state fault refused
  obtain ⟨value, answer⟩ := answers state
  cases answer.symm.trans refused

theorem fail {fault : Service.Fault} (within : fault.Within stage) :
    (Exchange.fail fault : Exchange σ α).Confined stage := by
  intro state other refused
  obtain rfl := Except.error.inj refused
  exact within

theorem bind {first : Exchange σ α} {next : α → Exchange σ β} (head : first.Confined stage)
    (tail : ∀ value, (next value).Confined stage) : (first >>= next).Confined stage := by
  intro state fault refused
  change (Exchange.andThen first next state).result = .error fault at refused
  unfold Exchange.andThen at refused
  have before := head state
  generalize first state = reply at refused before
  obtain ⟨result, notices, middle⟩ := reply
  cases result with
  | error other =>
    obtain rfl := Except.error.inj refused
    exact before other rfl
  | ok value => exact tail value middle fault refused

theorem call (limits : Limits) {other : Service.Stage} (own : other = .allocate ∨ other = stage)
    (addr : Nat) (args : List Int32) :
    (ServiceMachine.exchange limits other addr args).Confined stage := by
  intro state fault refused
  unfold ServiceMachine.exchange at refused
  split at refused
  · cases refused
  · obtain rfl := Except.error.inj refused
    exact own

end Exchange.Confined

namespace Service.Artifact

variable (loaded : Service.Artifact) (limits : Limits) (stage : Service.Stage)

theorem writeText_confined (mem : Service.Heap) (bytes : Bytes) :
    (mem.writeText limits bytes).Confined stage := by
  unfold Service.Heap.writeText
  split
  · exact .fail trivial
  · refine .bind (.bind (.call limits (.inl rfl) _ _) fun _ => .of_ok fun _ => ⟨_, rfl⟩)
      fun addr => .bind (.of_ok fun _ => ⟨_, rfl⟩) fun held => ?_
    split
    · exact .fail trivial
    · exact .bind (.of_ok fun _ => ⟨_, rfl⟩) fun _ =>
        .bind (.of_ok fun _ => ⟨_, rfl⟩) fun _ => .of_ok fun _ => ⟨_, rfl⟩

theorem readBlob_confined (start : Int32) (lenOut : Service.Address) :
    (loaded.readBlob stage start lenOut).Confined stage := by
  intro state fault refused
  have readInt : ∀ {addr other}, loaded.memory.readInt state addr = .error other →
      other.Within stage := by
    intro addr other unread
    rw [Service.Heap.readInt_def] at unread
    dsimp only at unread
    split at unread
    · cases unread
    · obtain rfl := Except.error.inj unread
      trivial
  have read : ∀ {span other}, loaded.memory.read state span = .error other →
      other.Within stage := by
    intro span other unread
    unfold Service.Heap.read at unread
    split at unread
    · cases unread
    · obtain rfl := Except.error.inj unread
      trivial
  cases length : loaded.memory.readInt state lenOut with
  | error other =>
    rw [readBlob_of_error length] at refused
    obtain rfl := Except.error.inj refused
    exact readInt length
  | ok len =>
    rw [readBlob_of_length length] at refused
    dsimp only at refused
    split at refused
    · obtain rfl := Except.error.inj refused
      rfl
    · exact read refused

theorem compile_confined (addr : Nat) (args : List Int32) :
    (loaded.compile limits stage addr args).Confined stage :=
  .bind (.bind (.call limits (.inl rfl) _ _) fun _ => .of_ok fun _ => ⟨_, rfl⟩) fun lenOut =>
    .bind (.call limits (.inr rfl) _ _) fun start => loaded.readBlob_confined stage start lenOut

theorem put_within {request : Request} {state : ServiceMachine} {fault : Service.Fault}
    (refused : ((loaded.toService limits).put request state).1 = some fault) :
    fault.Within request.stage := by
  have within : ∀ {γ : Type} {exchange : Exchange ServiceMachine γ} {stage : Service.Stage},
      exchange.Confined stage → (exchange state).refusal? = some fault → fault.Within stage := by
    intro γ exchange stage confined given
    unfold Reply.refusal? at given
    split at given
    · cases given
    · next other denied =>
      obtain rfl := Option.some.inj given
      exact confined state other denied
  cases request with
  | parse source =>
    refine within (.bind (writeText_confined limits .parse _ _) fun addr => ?_) refused
    exact .bind (.call limits (.inr rfl) _ _) fun _ =>
      .bind (.of_ok fun _ => ⟨_, rfl⟩) fun _ => .of_ok fun _ => ⟨_, rfl⟩
  | build ir =>
    exact within (.bind (.call limits (.inr rfl) _ _) fun _ => .of_ok fun _ => ⟨_, rfl⟩) refused
  | skeleton compiler => exact within (loaded.compile_confined limits .skeleton _ _) refused
  | unit compiler i => exact within (loaded.compile_confined limits (.unit i) _ _) refused

end Service.Artifact

namespace Session

variable {service : Service σ} {limits : Limits} {source : String} {settings : Settings}
  {outside : Outside σ} {session : Session σ}

/-- No run fails for a defensive reason. -/
theorem run_undefended (started : start service limits source settings outside = .ok session)
    (runs : Nat) {fault : Fault}
    (failed : ((session.rerun service limits runs).run service limits).1 = .error fault) :
    ¬ fault.IsDefensive := by
  have ready : (session.rerun service limits runs).state.shared.isSome = true := by
    rw [(rerun_grows service limits runs session).shared, (start_state started).1]
    rfl
  have printing : (session.rerun service limits runs).state.println.isSome = true := by
    rw [(rerun_grows service limits runs session).println, start_println started]
    rfl
  generalize session.rerun service limits runs = between at failed ready printing
  cases found : between.skeleton.entry between.machine.store between.entry with
  | error missing =>
    rw [run_of_entry_error found] at failed
    obtain rfl := Except.error.inj failed
    unfold Skeleton.entry at found
    split at found
    · cases found
      exact id
    · split at found
      · cases found
      · cases found
        exact id
  | ok addr =>
    obtain ⟨result, machine, ran, _, course⟩ := run_course service limits found
    rw [ran] at failed
    obtain ⟨raw, rfl, ends⟩ | ⟨why, stopped, ends⟩ := conclude_cases between result machine
    · rw [ends] at failed
      cases failed
    · rw [ends] at failed
      obtain rfl := Except.error.inj failed
      cases why with
      | failed inner =>
        obtain rfl | ⟨stuck, _⟩ := stopped
        · exact course.undefended ready printing rfl
        · cases stuck
      | _ => exact id

/-- After any number of runs the slots are those of the functions of the program. -/
theorem isSome_slot?_iff (started : start service limits source settings outside = .ok session)
    (runs : Nat) (i : FuncId) :
    ((session.rerun service limits runs).slot? i).isSome = true ↔ i.slot < session.slotCount := by
  obtain ⟨_, sound⟩ := rerun_sound started runs
  rw [← sound.size]
  exact DispatchTable.isSome_slot?_iff

/-- A run over a loaded service fails by the service's doing only from inside the operation that was
last asked for. -/
theorem run_within {loaded : Service.Artifact} {inner : Limits} {session : Session ServiceMachine}
    {fault : Service.Fault}
    (failed : (session.run (loaded.toService inner) limits).1 = .error (.service fault)) :
    ∃ i, (session.run (loaded.toService inner) limits).2.world.requests.getLast? =
        some (.unit session.state.compiler i) ∧ fault.Within (.unit i) := by
  obtain ⟨asked, refused, replies, same, units⟩ :=
    run_replies (loaded.toService inner) limits session
  rw [failed] at same
  obtain ⟨⟨request, denied⟩, rfl, rfl⟩ := Option.map_eq_some_iff.mp same
  obtain ⟨last, middle, given⟩ := replies.refusal
  obtain ⟨i, rfl⟩ := units request (List.mem_of_getLast? (replies.last request _ rfl))
  exact ⟨i, last, loaded.put_within inner given⟩

/-- Set-up over a loaded service fails by the service's doing only from inside the operation that
was last asked for. -/
theorem start_within {loaded : Service.Artifact} {inner : Limits}
    {outside after : Outside ServiceMachine} {fault : Service.Fault}
    (failed : start (loaded.toService inner) limits source settings outside =
      .error (.service fault, after)) :
    ∃ request, after.world.requests.getLast? = some request ∧ fault.Within request.stage := by
  obtain ⟨asked, refused, replies, same⟩ :=
    start_replies (loaded.toService inner) limits source settings outside
  rw [failed] at replies same
  obtain ⟨⟨request, denied⟩, rfl, rfl⟩ := Option.map_eq_some_iff.mp same
  obtain ⟨last, middle, given⟩ := replies.refusal
  exact ⟨request, last, loaded.put_within inner given⟩

/-- What the guards guard against does not happen. No run answers that a function was compiled
twice, was recorded without being compiled or has no slot, or that the trigger was called too early:
a unit that the trigger loaded can be recorded, whatever its code did meanwhile, and an index is
looked up only if it has a slot. A service that was loaded from an artifact fails only from inside
its operations, and under the name of the one that was last asked for. -/
theorem defences_unreached :
    (∀ (service : Service σ) (limits : Limits) (source : String) (settings : Settings)
        (outside : Outside σ) (session : Session σ),
      start service limits source settings outside = .ok session → ∀ runs : Nat,
        (∀ fault, ((session.rerun service limits runs).run service limits).1 = .error fault →
          ¬ fault.IsDefensive) ∧
        ∀ i, ((session.rerun service limits runs).slot? i).isSome = true ↔
          i.slot < session.slotCount) ∧
    (∀ (service : Service σ) (limits : Limits) (raw : Int32) (m : DispatchMachine σ) (i : FuncId)
        (blob : Bytes) (host : HostState σ) (shared : Nat) (unit : LoadedUnit)
        (after : DispatchMachine σ),
      Trigger.Admission service raw m.host (.ok (some (i, blob))) host →
      FunctionUnit.load (call service limits) i shared blob { m with host } = (.ok unit, after) →
        ∃ ledger, after.host.ledger.install unit = .ok ledger) ∧
    (∀ (table : DispatchTable) (raw : Int32) (i : FuncId), table.locate raw = .ok i →
      (table.slot? i).isSome = true) ∧
    ∀ (loaded : Service.Artifact) (inner limits : Limits) (source : String) (settings : Settings)
        (outside : Outside ServiceMachine),
      (∀ fault after, start (loaded.toService inner) limits source settings outside =
          .error (.service fault, after) →
        ∃ request, after.world.requests.getLast? = some request ∧ fault.Within request.stage) ∧
      ∀ session, start (loaded.toService inner) limits source settings outside = .ok session →
        ∀ (runs : Nat) (fault : Service.Fault),
          ((session.rerun (loaded.toService inner) limits runs).run
              (loaded.toService inner) limits).1 = .error (.service fault) →
            ∃ i, ((session.rerun (loaded.toService inner) limits runs).run
                (loaded.toService inner) limits).2.world.requests.getLast? =
                some (.unit session.state.compiler i) ∧ fault.Within (.unit i) := by
  refine ⟨?_, ?_, fun table raw i => DispatchTable.slot?_of_located, ?_⟩
  · intro service limits source settings outside session started runs
    exact ⟨fun fault => run_undefended started runs, isSome_slot?_iff started runs⟩
  · intro service limits raw m i blob host shared unit after admitted loaded
    obtain ⟨fault, _, turned⟩ | ⟨ended, machine, loading, went⟩ :=
      FunctionUnit.load_follows (call_follows service limits) i shared blob { m with host }
    · cases turned.symm.trans loaded
    · obtain ⟨answer, rfl⟩ := Prod.mk.inj (went.symm.trans loaded)
      cases ended with
      | error why => cases answer
      | ok value =>
        obtain rfl := Except.ok.inj answer
        exact loading.recordable admitted blob.length
  · intro loaded inner limits source settings outside
    refine ⟨fun fault after => start_within, fun session _ runs fault failed => ?_⟩
    obtain ⟨i, last, within⟩ := run_within failed
    rw [(rerun_grows (loaded.toService inner) limits runs session).compiler] at last
    exact ⟨i, last, within⟩

end Session

namespace Sample

/-- A service as a module: it has the skeleton and the unit of the first function, and stops when it
is asked for another function. -/
def artifact : Bytes :=
  [0, 97, 115, 109, 1, 0, 0, 0, 1, 19, 3, 96, 1, 127, 1, 127, 96, 2, 127, 127, 1, 127, 96, 3, 127,
   127, 127, 1, 127, 3, 6, 5, 0, 0, 0, 1, 2, 5, 3, 1, 0, 1, 7, 85, 6, 6, 109, 101, 109, 111, 114,
   121, 2, 0, 5, 97, 108, 108, 111, 99, 0, 0, 14, 109, 97, 107, 101, 95, 105, 114, 95, 109, 111,
   100, 117, 108, 101, 0, 1, 13, 109, 97, 107, 101, 95, 99, 111, 109, 112, 105, 108, 101, 114, 0,
   2, 16, 99, 111, 109, 112, 105, 108, 101, 95, 115, 107, 101, 108, 101, 116, 111, 110, 0, 3, 12,
   99, 111, 109, 112, 105, 108, 101, 95, 102, 117, 110, 99, 0, 4, 10, 50, 5, 4, 0, 65, 16, 11, 4,
   0, 32, 0, 11, 4, 0, 32, 0, 11, 13, 0, 32, 1, 65, 239, 0, 54, 2, 0, 65, 192, 0, 11, 19, 0, 32,
   1, 4, 64, 0, 11, 32, 2, 65, 201, 0, 54, 2, 0, 65, 175, 1, 11, 11, 192, 1, 1, 0, 65, 192, 0, 11,
   184, 1] ++ skeleton ++ ahead

end Sample

namespace Session

/-- The trigger is called while a unit is being loaded, and the run fails for that reason. A service
stops in the request for the second function, and the failure says so. -/
theorem sample_defences_unreached :
    (∃ session : Session Unit,
      start Sample.reentrant.service Sample.limits "" Settings.default ⟨(), Sample.world⟩ =
        .ok session ∧
      (session.run Sample.reentrant.service Sample.limits).1 =
        .error (.table (.reentered ⟨0⟩)) ∧
      ¬ Fault.IsDefensive (.table (.reentered ⟨0⟩))) ∧
    ∃ (loaded : Service.Artifact) (machine : ServiceMachine) (session : Session ServiceMachine),
      Service.Artifact.ofBlob Sample.limits Sample.artifact = .ok (loaded, machine) ∧
      start (loaded.toService Sample.limits) Sample.limits "" Settings.default
        ⟨machine, Sample.world⟩ = .ok session ∧
      (session.run (loaded.toService Sample.limits) Sample.limits).1 =
        .error (.service (.stopped (.unit ⟨1⟩) (.trap .unreachable))) ∧
      (session.run (loaded.toService Sample.limits) Sample.limits).2.world.requests.getLast? =
        some (.unit session.state.compiler ⟨1⟩) := by
  constructor
  · have seen : ((start Sample.reentrant.service Sample.limits "" Settings.default
        ⟨(), Sample.world⟩).toOption.map fun session =>
          (session.run Sample.reentrant.service Sample.limits).1) =
        some (.error (.table (.reentered ⟨0⟩))) := by
      decide +kernel
    obtain ⟨session, started, failed⟩ := exists_ok_of_seen seen
    exact ⟨session, started, failed,
      ((defences_unreached.1 _ _ _ _ _ session started 0).1 _ failed)⟩
  · have seen : ((Service.Artifact.ofBlob Sample.limits Sample.artifact).toOption.bind
        fun (loaded, machine) =>
          (start (loaded.toService Sample.limits) Sample.limits "" Settings.default
            ⟨machine, Sample.world⟩).toOption.map fun session =>
              (session.run (loaded.toService Sample.limits) Sample.limits).1) =
        some (.error (.service (.stopped (.unit ⟨1⟩) (.trap .unreachable)))) := by
      decide +kernel
    obtain ⟨⟨loaded, machine⟩, built, seen⟩ := Option.bind_eq_some_iff.mp seen
    obtain ⟨session, started, failed⟩ := exists_ok_of_seen seen
    obtain ⟨i, last, own | same⟩ := ((defences_unreached (σ := Unit)).2.2.2 loaded Sample.limits
      Sample.limits "" Settings.default ⟨machine, Sample.world⟩).2 session started 0 _ failed
    · cases own
    · obtain rfl := Service.Stage.unit.inj same
      exact ⟨loaded, machine, session, ok_of_toOption built, started, failed, last⟩

end Session

end FirstCall
