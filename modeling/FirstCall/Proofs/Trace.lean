import FirstCall.Proofs.Attribution
import FirstCall.Proofs.Defenses
import FirstCall.Proofs.Marks
import FirstCall.Proofs.Orders

/-!
# The compile trace

While a program runs, the dispatcher logs which unit it requests, which unit it loaded, and that a
run is finished. These lines agree with what was requested and with what the ledger keeps, and they
are nested as the calls of the trigger were. The line about a unit that was loaded comes before the
unit is recorded; that it is never wrong rests on the recording of a loaded unit, which cannot fail.
-/

namespace FirstCall

open Wasm

namespace Notice

/-- The line of the compile trace, if it is one. -/
def mark? : Notice → Option Mark
  | .compiling i => some (.asked i)
  | .installed i _ => some (.installed i)
  | _ => none

def compiling? : Notice → Option FuncId
  | .compiling i => some i
  | _ => none

def unit? : Notice → Option LoadedUnit
  | .installed i bytes => some ⟨i, bytes⟩
  | _ => none

def value? : Notice → Option Int32
  | .finished value _ _ => some value
  | _ => none

theorem compiling?_eq (notice : Notice) : notice.compiling? = notice.mark?.bind Mark.asked? := by
  cases notice <;> rfl

theorem isSome_compiling? (notice : Notice) :
    notice.compiling?.isSome ↔ notice.source = "lazyjit_rt::resolver" ∧ notice.level = .info := by
  cases notice <;> simp [compiling?, source, level]

theorem isSome_unit? (notice : Notice) :
    notice.unit?.isSome ↔ notice.source = "lazyjit_rt::resolver" ∧ notice.level = .debug := by
  cases notice <;> simp [unit?, source, level]

end Notice

variable {σ : Type}

namespace DispatchTable

variable {table next : DispatchTable} {i : FuncId}

/-- As many slots hold a real function as functions were installed. -/
def Counted (table : DispatchTable) : Prop :=
  table.countInstalled = table.slots.toList.count .installed

theorem count_set {slot : Slot} (found : table.slot? i = some slot) (other : slot ≠ .installed)
    (changed : Slot) :
    (table.slots.setIfInBounds i.slot changed).toList.count .installed =
      table.slots.toList.count .installed + if changed = .installed then 1 else 0 := by
  obtain ⟨inside, same⟩ := Array.getElem?_eq_some_iff.mp found
  rw [Array.toList_setIfInBounds, List.count_set (by simpa using inside)]
  simp [same, other]

theorem Counted.reserve (counted : table.Counted) (reserved : table.reserve i = .ok next) :
    next.Counted := by
  obtain ⟨stub, rfl⟩ := reserve_eq_ok_iff.mp reserved
  unfold Counted at counted ⊢
  rw [count_set stub nofun]
  exact counted

theorem Counted.install (counted : table.Counted) (installed : table.install i = .ok next) :
    next.Counted := by
  obtain ⟨compiling, rfl⟩ := install_eq_ok_iff.mp installed
  unfold Counted countInstalled at counted ⊢
  rw [count_set compiling nofun, ← counted]
  simp

end DispatchTable

/-- Every step of a session keeps the count. -/
theorem counted_kept (service : Service σ) :
    Kept service fun state => state.ledger.table.Counted where
  notice _ counted := counted
  printed _ counted := counted
  settled _ _ counted := counted
  admitted := by
    intro raw state answer after admitted counted
    obtain ⟨same, _⟩ | ⟨i, reserved, _⟩ := admitted.ledger
    · rw [same]
      exact counted
    · exact counted.reserve (Ledger.reserve_eq_ok_iff.mp reserved).1
  installed := by
    intro raw before after state ledger i blob admitted early grown recorded counted
    exact counted.install (Ledger.install_eq_ok_iff.mp recorded).1

/-- What the log says of the time since some moment: the lines of the trace about functions, the
units that came into the ledger, and of all else only what the service may say. -/
structure Told (service : Service σ) (past : List Event) (earlier : List LoadedUnit)
    (marks : List Mark) (state : HostState σ) (events : List Event) : Prop where
  history : state.history = past ++ events
  marks : (traceOf events).filterMap Notice.mark? = marks
  units : state.ledger.units.toList = earlier ++ (traceOf events).filterMap Notice.unit?
  heard : ∀ notice ∈ saidBy .service events, service.Utters notice

/-- Inside a run the lines about functions are those of the forest of its calls. -/
structure Traced (service : Service σ) (past : List Event) (earlier : List LoadedUnit)
    (state : HostState σ) (events : List Event) : Prop
    extends Told service past earlier (forestOf events).marks state events where
  unfinished : ∀ notice ∈ traceOf events, notice.value? = none

structure Resting (service : Service σ) (past : List Event) (earlier : List LoadedUnit)
    (state : HostState σ) (events : List Event) : Prop
    extends Traced service past earlier state events where
  settled : speakerAfter events = .dispatcher

variable {service : Service σ} {past events more : List Event} {earlier : List LoadedUnit}
  {state next : HostState σ} {marks added : List Mark}

theorem Told.trans (first : Told service past earlier marks state events)
    (settled : speakerAfter events = .dispatcher)
    (second : Told service state.history state.ledger.units.toList added next more) :
    Told service past earlier (marks ++ added) next (events ++ more) where
  history := by rw [second.history, first.history, List.append_assoc]
  marks := by
    rw [traceOf_append settled, List.filterMap_append, first.marks, second.marks]
  units := by
    rw [second.units, first.units, traceOf_append settled, List.filterMap_append,
      List.append_assoc]
  heard := by
    intro notice member
    rw [saidBy_append settled] at member
    exact (List.mem_append.mp member).elim (first.heard notice) (second.heard notice)

/-- Where nothing is said that belongs to the trace, no unit may come into the ledger. -/
theorem Untraced.told (untraced : Untraced service more) (history : next.history = past ++ more)
    (units : next.ledger.units.toList = earlier) :
    Told service past earlier [] next more where
  history := history
  marks := by
    rw [untraced.trace]
    rfl
  units := by
    rw [untraced.trace, units]
    exact (List.append_nil _).symm
  heard := untraced.heard

namespace Trigger

theorem obtain_lines {compiler : Service.Compiler} {dump : Option DumpDir} {i : FuncId}
    {outside after : Outside σ} {result : Except Session.Fault Bytes}
    (obtained : obtain service compiler dump i outside = (result, after)) :
    ∃ more : List Event,
      after.world.history.toList = outside.world.history.toList ++ more ∧
      traceOf more = [] ∧ (∀ notice ∈ saidBy .service more, service.Utters notice) ∧
      ∀ blob, result = .ok blob → speakerAfter more = .dispatcher := by
  have said : ∀ notice ∈ (service.unit compiler i outside.service).notices,
      service.Utters notice :=
    fun notice member => .inr (.inr (.inr ⟨compiler, i, outside.service, member⟩))
  -- What follows the words of the service begins with the blob, which logs nothing.
  have arrived : ∀ (blob : Bytes) (rest : List Event),
      Untraced service (.received (.unit compiler i) blob :: rest) →
      after.world.history.toList = outside.world.history.toList ++
        (.request (.unit compiler i) ::
          (service.unit compiler i outside.service).notices.map .notice ++
            .received (.unit compiler i) blob :: rest) →
      ∃ more : List Event,
        after.world.history.toList = outside.world.history.toList ++ more ∧
        traceOf more = [] ∧ (∀ notice ∈ saidBy .service more, service.Utters notice) ∧
        ∀ blob, result = .ok blob → speakerAfter more = .dispatcher := by
    intro blob rest untraced history
    obtain ⟨trace, uttered, settled⟩ := untraced.reply rfl (.unit compiler i) _ said
    exact ⟨_, history, trace, uttered, fun _ _ => settled⟩
  cases obtain_eq_iff.mp obtained with
  | refused answer =>
    refine ⟨_, (replied_talks service compiler i outside).history, ?_, ?_, nofun⟩
    · unfold traceOf
      rw [saidBy_refused]
      rfl
    · rw [saidBy_refused]
      exact said
  | @kept blob answer undumped =>
    exact arrived blob [] (.of_unsaid rfl rfl rfl) (history_brought service compiler i outside blob)
  | @undumped blob _ _ answer dumping refused =>
    exact arrived blob [] (.of_unsaid rfl rfl rfl) (history_brought service compiler i outside blob)
  | @dumped blob dir _ answer dumping written =>
    refine arrived blob [.wrote (dir.pathOfUnit i) blob,
      .notice (.dumped blob.length (dir.pathOfUnit i))] (.of_unsaid rfl rfl rfl) ?_
    rw [Outside.history_wrote, history_brought]
    simp

/-- What is logged while a call of the trigger is weighed: that a unit is being requested, if the
call begins to compile its function. -/
theorem Admission.lines {raw : Int32} {state after : HostState σ}
    {answer : Except Session.Fault (Option (FuncId × Bytes))}
    (admitted : Admission service raw state answer after) (ready : state.shared.isSome) :
    ∃ more : List Event, after.history = state.history ++ .triggered raw state.ledger :: more ∧
      traceOf more = (state.ledger.begins? raw).toList.map .compiling ∧
      (∀ notice ∈ saidBy .service more, service.Utters notice) ∧
      ∀ wanted, answer = .ok wanted → speakerAfter more = .dispatcher := by
  cases admitted with
  | tooEarly unready => simp [unready] at ready
  | outOfRange ready refused =>
    refine ⟨[], HostState.history_enter _ _, ?_, nofun, nofun⟩
    rw [Ledger.begins?_of_refused refused]
    rfl
  | @present shared i ready located installed =>
    refine ⟨[.notice (.alreadyInstalled i)], ?_, ?_, nofun, fun _ _ => rfl⟩
    · rw [HostState.history_record, HostState.history_enter, List.append_assoc]
      rfl
    · rw [Ledger.begins?_of_installed located installed]
      rfl
  | reentered ready located notInstalled refused =>
    refine ⟨[], HostState.history_enter _ _, ?_, nofun, nofun⟩
    rw [Ledger.begins?_of_unreserved located refused]
    rfl
  | @requested shared i ledger result outside ready located reserved obtained =>
    obtain ⟨more, history, untraced, heard, settled⟩ := obtain_lines obtained
    have asking : (state.reserved raw i ledger).outside.world.history.toList =
        (state.enter raw).history ++ [Event.notice (.compiling i)] := HostState.history_record _ _
    have first : speakerAfter [.notice (.compiling i)] = .dispatcher := rfl
    refine ⟨[Event.notice (.compiling i)] ++ more, ?_, ?_, ?_, fun wanted ended => ?_⟩
    · change outside.world.history.toList = _
      rw [history, asking, HostState.history_enter]
      simp
    · rw [Ledger.begins?_of_reserved located reserved, traceOf_append first, untraced]
      rfl
    · rw [saidBy_append first]
      exact heard
    · rw [speakerAfter_append first]
      cases result with
      | error fault => cases ended
      | ok blob => exact settled blob rfl

theorem Admission.units {raw : Int32} {state after : HostState σ}
    {answer : Except Session.Fault (Option (FuncId × Bytes))}
    (admitted : Admission service raw state answer after) :
    after.ledger.units = state.ledger.units := by
  obtain ⟨same, _⟩ | ⟨i, reserved, _⟩ := admitted.ledger
  · rw [same]
  · exact (Ledger.reserve_eq_ok_iff.mp reserved).2

end Trigger

namespace Resting

theorem extend (resting : Resting service past earlier state events)
    (later : Told service state.history state.ledger.units.toList added next more)
    (marks : (forestOf (events ++ more)).marks = (forestOf events).marks ++ added)
    (unfinished : ∀ notice ∈ traceOf more, notice.value? = none) :
    Traced service past earlier next (events ++ more) where
  toTold := marks ▸ resting.toTold.trans resting.settled later
  unfinished := by
    intro notice member
    rw [traceOf_append resting.settled] at member
    exact (List.mem_append.mp member).elim (resting.unfinished notice) (unfinished notice)

theorem mute {event : Event} (resting : Resting service past earlier state events)
    (untraced : Untraced service [event]) (read : ∀ reading, event.read reading = reading)
    (history : next.history = state.history ++ [event])
    (units : next.ledger.units = state.ledger.units) :
    Resting service past earlier next (events ++ [event]) ∧
      (reading (events ++ [event])).around = (reading events).around := by
  have same : reading (events ++ [event]) = reading events := by
    rw [reading_append]
    exact read _
  have later := untraced.told history (congrArg Array.toList units)
  refine ⟨⟨resting.extend later ?_ ?_, ?_⟩, by rw [same]⟩
  · unfold forestOf
    rw [same, List.append_nil]
  · rw [untraced.trace]
    exact nofun
  · rw [speakerAfter_append resting.settled, untraced.settled]

theorem admitted {raw : Int32} {answer : Except Session.Fault (Option (FuncId × Bytes))}
    (resting : Resting service past earlier state events) (ready : state.shared.isSome)
    (admitted : Trigger.Admission service raw state answer next) :
    ∃ more, Traced service past earlier next (events ++ more) ∧
      reading (events ++ more) = (reading events).enter (state.ledger.begins? raw) ∧
      ∀ wanted, answer = .ok wanted → speakerAfter (events ++ more) = .dispatcher := by
  obtain ⟨more, history, trace, heard, settled⟩ := admitted.lines ready
  obtain ⟨_, begun, read, _, _⟩ := admitted.begun ready
  obtain rfl := (List.cons.inj (List.append_cancel_left (history.symm.trans begun))).2
  have start : speakerAfter [.triggered raw state.ledger] = .dispatcher := rfl
  have lines : traceOf (.triggered raw state.ledger :: more) =
      (state.ledger.begins? raw).toList.map .compiling := (traceOf_append start more).trans trace
  have later : Told service state.history state.ledger.units.toList
      ((state.ledger.begins? raw).toList.map .asked) next
      (.triggered raw state.ledger :: more) := by
    refine ⟨history, ?_, ?_, heard⟩
    · rw [lines]
      cases state.ledger.begins? raw <;> rfl
    · rw [lines, admitted.units]
      cases state.ledger.begins? raw <;> exact (List.append_nil _).symm
  have entered : reading (events ++ .triggered raw state.ledger :: more) =
      (reading events).enter (state.ledger.begins? raw) := by
    rw [reading_append]
    exact read _
  refine ⟨_, resting.extend later ?_ ?_, entered, fun wanted ended => ?_⟩
  · unfold forestOf
    rw [entered, Reading.marks_enter]
  · intro notice member
    rw [lines] at member
    obtain ⟨i, _, rfl⟩ := List.mem_map.mp member
    rfl
  · rw [speakerAfter_append resting.settled]
    exact settled wanted ended

/-- A call of the trigger ends well. If a unit was installed in it, a line says so. -/
theorem left {raw : Int32} {before : Forest} {around : List (Option FuncId × Forest)}
    (resting : Resting service past earlier state events) (unit : Option LoadedUnit)
    (innermost : (reading events).around = (unit.map LoadedUnit.func, before) :: around)
    (history : next.history = state.history ++
      ((unit.toList.map fun unit => .notice (.installed unit.func unit.size)) ++
        [Event.settled raw (.ok ())]))
    (units : next.ledger.units.toList = state.ledger.units.toList ++ unit.toList) :
    ∃ more, Resting service past earlier next (events ++ more) ∧
      (reading (events ++ more)).around = around := by
  generalize happened : (unit.toList.map fun unit =>
    Event.notice (.installed unit.func unit.size)) ++ [Event.settled raw (.ok ())] = more at history
  have lines : traceOf more = unit.toList.map fun unit => .installed unit.func unit.size := by
    rw [← happened]
    cases unit <;> rfl
  have later : Told service state.history state.ledger.units.toList
      ((unit.map LoadedUnit.func).toList.map .installed) next more := by
    refine ⟨history, ?_, ?_, ?_⟩
    · rw [lines]
      cases unit <;> rfl
    · rw [lines, units]
      cases unit <;> rfl
    · rw [← happened]
      cases unit <;> exact nofun
  have ended : reading (events ++ more) = (reading events).leave true := by
    rw [reading_append, ← happened]
    cases unit <;> rfl
  refine ⟨more, ⟨resting.extend later ?_ ?_, ?_⟩, ?_⟩
  · unfold forestOf
    rw [ended, Reading.marks_leave innermost]
  · rw [lines]
    cases unit <;> simp [Notice.value?]
  · rw [speakerAfter_append resting.settled, ← happened]
    cases unit <;> rfl
  · rw [ended]
    unfold Reading.leave
    rw [innermost]

end Resting

/-- A call that fails leaves the log as it is, and the word with the dispatcher. A request that was
refused leaves it with the service until then. -/
theorem Traced.settle (traced : Traced service past earlier state events) (raw : Int32)
    {why : Stop Session.Fault}
    (settled : speakerAfter events = .dispatcher ∨ ∃ fault, why = .failed fault) :
    ∃ more, Resting service past earlier (state.settle raw (.error why)) (events ++ more) := by
  unfold HostState.settle
  split
  · next same => cases same
  · next fault _ =>
    have lines : ∀ who,
        saidBy who (events ++ [Event.settled raw (.error fault)]) = saidBy who events := by
      intro who
      unfold saidBy
      rw [saidFrom_append, saidFrom_cons_of_unlogged rfl]
      cases who <;> exact List.append_nil _
    have trace : traceOf (events ++ [Event.settled raw (.error fault)]) = traceOf events :=
      congrArg (List.filter Notice.isTrace) (lines .dispatcher)
    have same : forestOf (events ++ [Event.settled raw (.error fault)]) = forestOf events := by
      unfold forestOf
      rw [reading_append]
      exact Reading.whole_leave_failed _
    refine ⟨[.settled raw (.error fault)], ⟨⟨⟨?_, ?_, ?_, ?_⟩, ?_⟩, ?_⟩⟩
    · rw [HostState.history_record, traced.history, List.append_assoc]
    · rw [trace, same]
      exact traced.marks
    · rw [trace]
      exact traced.units
    · rw [lines]
      exact traced.heard
    · rw [trace]
      exact traced.unfinished
    · unfold speakerAfter
      rw [List.foldl_append]
      rfl
  · next reason unmarked same =>
    refine ⟨[], ?_⟩
    rw [List.append_nil]
    refine ⟨traced, settled.resolve_right ?_⟩
    rintro ⟨fault, rfl⟩
    exact unmarked fault (Except.error.inj same).symm

/-- What code leaves in the log. If it gets to its end, all calls of the trigger have ended that
began in it. No property that every notice keeps would do here, for not every notice may come. -/
theorem Course.traced {first last : HostState σ} {ended : Ending Session.Fault}
    (course : Course service first ended last) (ready : first.shared.isSome)
    (resting : Resting service past earlier first events) :
    ∃ more, Resting service past earlier last (events ++ more) ∧
      (ended = .ok () → (reading (events ++ more)).around = (reading events).around) := by
  induction course generalizing events with
  | quiet state => exact ⟨[], by simpa using resting⟩
  | halted state own => exact ⟨[], by simpa using resting, nofun⟩
  | trans head tail ihHead ihTail =>
    obtain ⟨more, middle, kept⟩ := ihHead ready resting
    rw [← head.grows.shared] at ready
    obtain ⟨others, last, keptLast⟩ := ihTail ready middle
    refine ⟨more ++ others, ?_, fun reached => ?_⟩
    · rw [← List.append_assoc]
      exact last
    · rw [← List.append_assoc, keptLast reached, kept rfl]
  | printed state value =>
    have untraced : Untraced service [.printed value] := .of_unsaid rfl rfl rfl
    obtain ⟨after, kept⟩ :=
      resting.mute untraced (fun _ => rfl) (HostState.history_print state value) rfl
    exact ⟨_, after, fun _ => kept⟩
  | @refused state after raw fault admitted =>
    obtain ⟨more, traced, _⟩ := resting.admitted ready admitted
    obtain ⟨others, last⟩ := traced.settle raw (.inr ⟨fault, rfl⟩)
    rw [List.append_assoc] at last
    exact ⟨_, last, nofun⟩
  | @present state after raw admitted =>
    obtain ⟨more, traced, entered, settled⟩ := resting.admitted ready admitted
    rw [admitted.begins_of_ok] at entered
    have begun : Resting service past earlier after (events ++ more) :=
      ⟨traced, settled _ rfl⟩
    have innermost : (reading (events ++ more)).around =
        (none, (reading events).grown) :: (reading events).around := congrArg _ entered
    have history :
        (after.settle raw (.ok ())).history = after.history ++ [Event.settled raw (.ok ())] :=
      HostState.history_record _ _
    obtain ⟨others, last, left⟩ := begun.left none innermost history (List.append_nil _).symm
    rw [List.append_assoc] at last left
    exact ⟨_, last, fun _ => left⟩
  | @turnedAway state after raw i blob fault admitted turns =>
    obtain ⟨more, traced, _⟩ := resting.admitted ready admitted
    obtain ⟨others, last⟩ := traced.settle raw (.inr ⟨fault, rfl⟩)
    rw [List.append_assoc] at last
    exact ⟨_, last, nofun⟩
  | @broken state after last raw i blob why admitted loading ih =>
    obtain ⟨more, traced, _, settled⟩ := resting.admitted ready admitted
    rw [← admitted.grows.shared] at ready
    obtain ⟨inner, stopped, _⟩ := ih ready ⟨traced, settled _ rfl⟩
    obtain ⟨others, last⟩ := stopped.toTraced.settle raw (.inl stopped.settled)
    rw [List.append_assoc, List.append_assoc] at last
    exact ⟨_, last, nofun⟩
  | @installed state after last raw i blob ledger admitted loading recorded ih =>
    obtain ⟨more, traced, entered, settled⟩ := resting.admitted ready admitted
    rw [admitted.begins_of_ok] at entered
    rw [← admitted.grows.shared] at ready
    obtain ⟨inner, loaded, kept⟩ := ih ready ⟨traced, settled _ rfl⟩
    have innermost : (reading (events ++ more ++ inner)).around =
        (some i, (reading events).grown) :: (reading events).around :=
      (kept rfl).trans (congrArg Reading.around entered)
    have units : ledger.units.toList = last.ledger.units.toList ++ [⟨i, blob.length⟩] := by
      rw [(Ledger.install_eq_ok_iff.mp recorded).2, Array.toList_push]
    have history := last.history_installed ledger (.installed i blob.length) raw
    obtain ⟨others, reached, left⟩ := loaded.left (some ⟨i, blob.length⟩) innermost history units
    rw [List.append_assoc, List.append_assoc] at reached left
    exact ⟨_, reached, fun _ => left⟩
  | @unrecorded state after last raw i blob refusal admitted loading refused ih =>
    -- The line about the unit was said already, so this end would belie it.
    obtain ⟨ledger, recorded⟩ := Course.recordable admitted loading blob.length
    cases refused.symm.trans recorded

namespace Session

variable {limits : Limits} {session : Session σ}

/-- What one run leaves in the log: the trace of its calls, and if it answers, one line more. -/
theorem run_traced (service : Service σ) (limits : Limits) (ready : session.state.shared.isSome) :
    ∃ (last : HostState σ) (events : List Event),
      Resting service session.state.history session.state.ledger.units.toList last events ∧
      ((∃ fault, (session.run service limits).1 = .error fault ∧
          (session.run service limits).2.state = last) ∨
        ∃ value, (session.run service limits).1 = .ok value ∧
          (session.run service limits).2.state = last.record (.notice (.finished value
            last.ledger.table.countInstalled session.slotCount))) := by
  have fresh : Resting service session.state.history session.state.ledger.units.toList
      session.state [] :=
    ⟨⟨⟨(List.append_nil _).symm, rfl, (List.append_nil _).symm, nofun⟩, nofun⟩, rfl⟩
  cases found : session.skeleton.entry session.machine.store session.entry with
  | error fault =>
    rw [run_of_entry_error found]
    exact ⟨session.state, [], fresh, .inl ⟨fault, rfl, rfl⟩⟩
  | ok addr =>
    obtain ⟨result, machine, ran, _, follows⟩ := run_course service limits found
    have untraced : Untraced service [.notice (.executing session.entry)] := .of_unsaid rfl rfl rfl
    have history : session.announced.host.history =
        session.state.history ++ [Event.notice (.executing session.entry)] :=
      HostState.history_record _ _
    obtain ⟨announced, _⟩ := fresh.mute untraced (fun _ => rfl) history rfl
    obtain ⟨more, after, _⟩ := follows.traced ready announced
    refine ⟨machine.host, _, after, ?_⟩
    rw [ran]
    obtain ⟨raw, _, ends⟩ | ⟨why, _, ends⟩ := conclude_cases session result machine
    · rw [ends]
      exact .inr ⟨raw.toInt32, rfl, rfl⟩
    · rw [ends]
      exact .inl ⟨_, rfl, rfl⟩

/-- What one run leaves in the log, of which one line says how it ended. -/
theorem run_told (service : Service σ) (limits : Limits) (ready : session.state.shared.isSome) :
    ∃ events : List Event,
      Told service session.state.history session.state.ledger.units.toList
        (forestOf events).marks (session.run service limits).2.state events ∧
      speakerAfter events = .dispatcher ∧
      (∀ fault, (session.run service limits).1 = .error fault →
        ∀ notice ∈ traceOf events, notice.value? = none) ∧
      ∀ value, (session.run service limits).1 = .ok value → ∃ before line,
        events = before ++ [Event.notice line] ∧ traceOf events = traceOf before ++ [line] ∧
        (∀ notice ∈ traceOf before, notice.value? = none) ∧
        line = .finished value
          (session.run service limits).2.state.ledger.table.countInstalled session.slotCount := by
  obtain ⟨last, events, resting, ⟨fault, failed, state⟩ | ⟨value, answered, state⟩⟩ :=
    run_traced service limits ready
  · refine ⟨events, ?_, resting.settled, fun _ _ => resting.unfinished, fun value answered => ?_⟩
    · rw [state]
      exact resting.toTold
    · cases answered.symm.trans failed
  · generalize said : Notice.finished value last.ledger.table.countInstalled session.slotCount =
      line at state
    have closing : traceOf [.notice line] = [line] := by
      rw [← said]
      rfl
    have told : Told service last.history last.ledger.units.toList []
        (session.run service limits).2.state [.notice line] := by
      rw [state]
      refine ⟨HostState.history_record _ _, ?_, ?_, nofun⟩
      · rw [closing, ← said]
        rfl
      · rw [closing, ← said]
        exact (List.append_nil _).symm
    have same : forestOf (events ++ [Event.notice line]) = forestOf events := by
      unfold forestOf
      rw [reading_append]
      rfl
    refine ⟨events ++ [Event.notice line], ?_, ?_, fun fault failed => ?_, fun other again => ?_⟩
    · rw [same, ← List.append_nil (forestOf events).marks]
      exact resting.toTold.trans resting.settled told
    · rw [speakerAfter_append resting.settled]
      rfl
    · cases answered.symm.trans failed
    · obtain rfl := Except.ok.inj (answered.symm.trans again)
      refine ⟨events, line, rfl, ?_, resting.unfinished, ?_⟩
      · rw [traceOf_append resting.settled, closing]
      · rw [state, ← said]
        rfl

/-- What any number of runs leaves in the log. -/
theorem rerun_told (service : Service σ) (limits : Limits) (runs : Nat)
    (ready : session.state.shared.isSome) :
    ∃ events, Told service session.state.history session.state.ledger.units.toList
        (session.compileForest service limits runs).marks
        (session.rerun service limits runs).state events ∧
      speakerAfter events = .dispatcher := by
  induction runs generalizing session with
  | zero =>
    exact ⟨[], ⟨(List.append_nil _).symm, rfl, (List.append_nil _).symm, nofun⟩, rfl⟩
  | succ runs ih =>
    obtain ⟨first, told, settled, _⟩ := run_told service limits ready
    have readyAfter : (session.run service limits).2.state.shared.isSome := by
      rw [(run_grows service limits session).shared]
      exact ready
    obtain ⟨later, after, settledAfter⟩ := ih readyAfter
    refine ⟨first ++ later, ?_, ?_⟩
    · rw [compileForest, happened_eq told.history, Forest.marks_append]
      exact told.trans settled after
    · rw [speakerAfter_append settled, settledAfter]

theorem Prepared.untraced {source : String} {outside after : Outside σ} {dump : Option DumpDir}
    {compiler : Service.Compiler} {blob : Bytes}
    (prepared : Prepared service source outside dump (.ok (compiler, blob)) after) :
    ∃ events, after.world.history.toList = outside.world.history.toList ++ events ∧
      Untraced service events := by
  have arrived : ∀ (ir : Service.Parsed) (rest : List Event),
      Untraced service (.received (.skeleton compiler) blob ::
        .notice (.skeletonCompiled blob.length) :: rest) →
      ∃ events, (arrived service source outside ir compiler blob).world.history.toList ++ rest =
          outside.world.history.toList ++ events ∧ Untraced service events := by
    intro ir rest last
    have made := last.reply rfl (.skeleton compiler)
      (service.skeleton compiler (built service source outside ir).service).notices
      fun notice member => .inr (.inr (.inl ⟨_, _, member⟩))
    have built := made.reply rfl (.build ir)
      (service.build ir (parsed service source outside).service).notices
      fun notice member => .inr (.inl ⟨_, _, member⟩)
    have parsed := built.reply rfl (.parse source)
      (service.parse source outside.service).notices
      fun notice member => .inl ⟨_, _, member⟩
    refine ⟨_, ?_, parsed⟩
    rw [history_arrived]
    unfold Session.made Session.built Session.parsed
    rw [Outside.history_hear, Outside.history_hear, Outside.history_hear]
    simp
  generalize answer : (Except.ok (compiler, blob) : Except Fault _) = result at prepared
  cases prepared with
  | unparsed refused => cases answer
  | unbuilt parse refused => cases answer
  | unmade parse build refused => cases answer
  | undumped answers dumping refused => cases answer
  | @dumped ir _ _ dir files answers dumping written =>
    cases answer
    rw [Outside.history_wrote]
    exact arrived ir _ (.of_unsaid rfl rfl rfl)
  | @kept ir _ _ answers undumped =>
    cases answer
    have whole := arrived ir [] (.of_unsaid rfl rfl rfl)
    rw [List.append_nil] at whole
    exact whole

theorem start_told {source : String} {settings : Settings} {outside : Outside σ}
    (started : start service limits source settings outside = .ok session) :
    ∃ events, Told service outside.world.history.toList [] [] session.state events ∧
      speakerAfter events = .dispatcher := by
  obtain ⟨compiler, blob, prepared, loaded, ready, found, machine, _⟩ := start_ok started
  have ways := prepare_prepared service source outside (settings.dump.map DumpDir.mk)
  rw [ready] at ways
  obtain ⟨events, grown, untraced⟩ := ways.untraced
  obtain ⟨module, middle, _, _, _, ran, _, _, rfl⟩ := Skeleton.load_ok found
  have follows := (Course.discipline service).instantiate (call_follows service limits) module
    (module.imports.map fun _ => .func triggerAddr)
    ⟨dispatchStore, HostState.fresh prepared compiler (settings.dump.map DumpDir.mk)⟩
  rw [ran] at follows
  obtain ⟨values, printed⟩ := Course.untriggered follows rfl rfl
  have rest : Untraced service (values.map .printed ++
      [Event.notice (.skeletonLoaded session.slotCount blob.length)]) := by
    refine .of_forall fun event member => ?_
    rcases List.mem_append.mp member with output | last
    · obtain ⟨value, _, rfl⟩ := List.mem_map.mp output
      exact .of_unsaid rfl rfl rfl
    · obtain rfl := List.mem_singleton.mp last
      exact .of_unsaid rfl rfl rfl
  have whole := untraced.append rest
  refine ⟨_, whole.told ?_ ?_, whole.settled⟩
  · have before : middle.host.history =
        outside.world.history.toList ++ events ++ values.map .printed := by
      rw [← grown]
      exact printed
    have notice := HostState.history_record middle.host
      (.notice (.skeletonLoaded session.slotCount blob.length))
    unfold state
    rw [machine]
    exact notice.trans (by simp [before])
  · rw [(start_state started).2]
    rfl

theorem loaded_from {source : String} {settings : Settings} {outside : Outside σ}
    (started : start service limits source settings outside = .ok session) {runs : Nat}
    {events : List Event} (history : (session.rerun service limits runs).state.history =
      outside.world.history.toList ++ events) {unit : LoadedUnit}
    (kept : unit ∈ (session.rerun service limits runs).state.ledger.units.toList) :
    ∃ blob : Bytes, unit.size = blob.length ∧ ∀ other : Bytes, other = blob ↔
      .received (.unit session.state.compiler unit.func) other ∈ events := by
  obtain ⟨_, _, first, _, _, grown, _⟩ := start_history started
  have fresh : session.state.ledger.Sound session.state.compiler session.slotCount
      (first.filterMap Event.received?) := by
    rw [(start_state started).2]
    exact .ofSize _ _ _
  obtain ⟨later, after, _, holds⟩ := moments_booked service limits runs fresh
  obtain rfl : events = first ++ later := by
    rw [after, grown, List.append_assoc] at history
    exact (List.append_cancel_left history).symm
  obtain ⟨blob, arrived, size⟩ := (holds _ (mem_moments_last runs session)).2.blobs unit kept
  rw [← List.filterMap_append, Event.mem_received_iff] at arrived
  refine ⟨blob, size, fun other => ⟨fun equal => equal ▸ arrived, fun second => ?_⟩⟩
  exact received_once started history arrived second

theorem rerun_counted {source : String} {settings : Settings} {outside : Outside σ}
    (started : start service limits source settings outside = .ok session) (runs : Nat) :
    (session.rerun service limits runs).state.ledger.table.Counted := by
  refine rerun_kept (counted_kept service) limits runs ?_
  rw [(start_state started).2]
  unfold DispatchTable.Counted
  simp [Ledger.ofSize, DispatchTable.ofSize, DispatchTable.countInstalled, List.count_replicate]

/-- The compile trace in the log is faithful. Its lines name the units that were requested and the
functions that were compiled, in these orders, nested as the calls were; and a run that answers, and
no other, ends with a line that says so. If the service is discreet, as one that was loaded from an
artifact is, no other line of the log could be taken for one of these. -/
theorem trace_faithful {source : String} {settings : Settings} {outside : Outside σ}
    (started : start service limits source settings outside = .ok session) (runs : Nat) :
    ∃ (ir : Service.Parsed) (events more : List Event) (forest : Forest),
      forest = session.compileForest service limits runs ∧
      (session.rerun service limits runs).state.history =
        outside.world.history.toList ++ events ∧
      events.filterMap Event.request? =
        .parse source :: .build ir :: .skeleton session.state.compiler ::
          ((traceOf events).filterMap Notice.compiling?).map (.unit session.state.compiler) ∧
      (traceOf events).filterMap Notice.unit? =
        (session.rerun service limits runs).state.ledger.units.toList ∧
      ((traceOf events).filterMap Notice.unit?).map LoadedUnit.func =
        (session.rerun service limits runs).compiled ∧
      (∀ unit ∈ (traceOf events).filterMap Notice.unit?, ∃ blob : Bytes,
        unit.size = blob.length ∧ ∀ other : Bytes, other = blob ↔
          .received (.unit session.state.compiler unit.func) other ∈ events) ∧
      (traceOf events).filterMap Notice.mark? = forest.marks ∧
      forest.marks.Nodup ∧
      (∀ i, .installed i ∈ forest.marks → [.asked i, .installed i].Sublist forest.marks) ∧
      (∀ j mark, forest.Within mark.func j → mark ∈ forest.marks →
        [.asked j, mark].Sublist forest.marks ∧
          (.installed j ∈ forest.marks → [mark, .installed j].Sublist forest.marks)) ∧
      (session.rerun service limits (runs + 1)).state.history =
        outside.world.history.toList ++ (events ++ more) ∧
      traceOf (events ++ more) = traceOf events ++ traceOf more ∧
      (∀ fault, ((session.rerun service limits runs).run service limits).1 = .error fault →
        ∀ notice ∈ traceOf more, notice.value? = none) ∧
      (∀ value, ((session.rerun service limits runs).run service limits).1 = .ok value →
        ∃ before line, more = before ++ [.notice line] ∧
          traceOf more = traceOf before ++ [line] ∧
          (∀ notice ∈ traceOf before, notice.value? = none) ∧
          line = .finished value
            ((session.rerun service limits (runs + 1)).state.ledger.table.slots.toList.count
              .installed) session.slotCount) ∧
      (service.Discreet →
        ((events ++ more).filterMap Event.notice?).filter Notice.isTrace =
          traceOf (events ++ more)) ∧
      (∀ (loaded : Service.Artifact) (inner : Limits), (loaded.toService inner).Discreet) ∧
      (∀ notice : Notice, notice.compiling?.isSome ↔
        notice.source = "lazyjit_rt::resolver" ∧ notice.level = .info) ∧
      (∀ notice : Notice, notice.unit?.isSome ↔
        notice.source = "lazyjit_rt::resolver" ∧ notice.level = .debug) := by
  obtain ⟨first, early, settledEarly⟩ := start_told started
  obtain ⟨ir, _, _, _, _, before, asked, _, _⟩ := start_history started
  obtain rfl := List.append_cancel_left (early.history.symm.trans before)
  obtain ⟨shared, _⟩ := start_state started
  have ready : session.state.shared.isSome := by
    rw [shared]
    rfl
  obtain ⟨later, late, settledLate⟩ := rerun_told service limits runs ready
  obtain ⟨_, history, requests, _⟩ := rerun_forest service limits runs ready
  obtain rfl := List.append_cancel_left (late.history.symm.trans history)
  have told := early.trans settledEarly late
  rw [List.nil_append] at told
  have settled : speakerAfter (first ++ later) = .dispatcher := by
    rw [speakerAfter_append settledEarly, settledLate]
  have readyAfter : (session.rerun service limits runs).state.shared.isSome := by
    rw [(rerun_grows service limits runs session).shared]
    exact ready
  obtain ⟨more, next, settledNext, unfinished, finished⟩ := run_told service limits readyAfter
  have whole := told.trans settled next
  rw [← rerun_succ] at whole finished
  have distinct := nodup_compileForest started runs
  have units := told.units.symm
  rw [List.nil_append] at units
  have compiling : (traceOf (first ++ later)).filterMap Notice.compiling? =
      (session.compileForest service limits runs).preorder := by
    have kinds : Notice.compiling? = fun notice => notice.mark?.bind Mark.asked? :=
      funext Notice.compiling?_eq
    rw [kinds, ← List.filterMap_filterMap, told.marks, Forest.filterMap_marks]
  obtain ⟨_, sound⟩ := rerun_sound started runs
  refine ⟨ir, first ++ later, more, _, rfl, told.history, ?_, units, ?_, ?_, told.marks,
    Forest.nodup_marks distinct, fun i => Forest.asked_before_installed,
    fun j mark within => within.marks distinct, whole.history, traceOf_append settled more,
    unfinished, ?_, ?_, Service.Artifact.discreet, Notice.isSome_compiling?,
    Notice.isSome_unit?⟩
  · rw [List.filterMap_append, asked, requests, compiling]
    rfl
  · rw [units]
    exact sound.units
  · rw [units]
    exact fun unit kept => loaded_from started told.history kept
  · intro value answered
    obtain ⟨past, line, split, trace, silent, said⟩ := finished value answered
    refine ⟨past, line, split, trace, silent, ?_⟩
    rw [said, ← rerun_counted started (runs + 1)]
    unfold slotCount
    rw [rerun_skeleton]
  · intro discreet
    exact filter_notices _ fun notice member => discreet notice (whole.heard notice member)

/-- The unit of the first function calls the second one while it is loaded: the lines about the
second one stand between the two about the first. -/
theorem sample_trace_faithful :
    ∃ (session : Session Unit) (events : List Event),
      start Sample.nested.service Sample.limits "" Settings.default ⟨(), Sample.world⟩ =
        .ok session ∧
      (session.rerun Sample.nested.service Sample.limits 1).state.history = events ∧
      traceOf events = [.compiling ⟨0⟩, .compiling ⟨1⟩, .installed ⟨1⟩ 54, .installed ⟨0⟩ 73,
        .finished 7 2 2] ∧
      (session.rerun Sample.nested.service Sample.limits 1).state.ledger.units.toList =
        [⟨⟨1⟩, 54⟩, ⟨⟨0⟩, 73⟩] := by
  have seen : ((start Sample.nested.service Sample.limits "" Settings.default
      ⟨(), Sample.world⟩).toOption.map fun session =>
        traceOf (session.rerun Sample.nested.service Sample.limits 1).state.history) =
      some [.compiling ⟨0⟩, .compiling ⟨1⟩, .installed ⟨1⟩ 54, .installed ⟨0⟩ 73,
        .finished 7 2 2] := by
    decide +kernel
  obtain ⟨session, started, seen⟩ := exists_ok_of_seen seen
  obtain ⟨_, events, _, _, _, history, _, units, _⟩ := trace_faithful started 1
  obtain rfl : _ = events := history
  refine ⟨session, _, started, rfl, seen, ?_⟩
  rw [← units]
  exact congrArg (List.filterMap Notice.unit?) seen

end Session

end FirstCall
