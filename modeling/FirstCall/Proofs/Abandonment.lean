import Mathlib.Data.List.Induction
import FirstCall.Proofs.Bookkeeping
import FirstCall.Proofs.Dumps
import FirstCall.Proofs.OpenCalls

/-!
# Abandoned functions

A function that a failed run left behind while it was being compiled is never requested again, and
since a blob arrives and is written directly after its request, it is neither received nor dumped
nor loaded again. Each call of the trigger for it is turned back.
-/

namespace FirstCall

open Wasm

variable {σ : Type}

/-- A blob comes directly after its request, but for what the service says, and it is written
directly after it came. -/
def Event.IsPrompt (dump : Option DumpDir) (before : List Event) : Event → Prop
  | .received asked _ =>
    ∃ earlier notices, before = earlier ++ .request asked :: List.map .notice notices
  | .wrote path blob => ∃ earlier compiler i dir,
    before = earlier ++ [Event.received (.unit compiler i) blob] ∧ dump = some dir ∧
      path = dir.pathOfUnit i
  | _ => True

/-- No answer of the service and no file comes late. -/
def Prompt (dump : Option DumpDir) (events : List Event) : Prop :=
  ∀ before event after, events = before ++ event :: after → event.IsPrompt dump before

namespace Prompt

variable {dump : Option DumpDir} {events : List Event}

theorem nil : Prompt dump [] := by
  intro before event after split
  simp at split

theorem concat {event : Event} (prompt : Prompt dump events) (next : event.IsPrompt dump events) :
    Prompt dump (events ++ [event]) := by
  intro before other after split
  rcases List.eq_nil_or_concat after with rfl | ⟨after, last, rfl⟩
  · obtain ⟨rfl, same⟩ := List.append_inj' split rfl
    obtain rfl := List.singleton_inj.mp same
    exact next
  · rw [List.concat_eq_append, ← List.cons_append, ← List.append_assoc] at split
    exact prompt before other after (List.append_inj' split rfl).1

theorem notices (prompt : Prompt dump events) (said : List Notice) :
    Prompt dump (events ++ said.map .notice) := by
  induction said generalizing events with
  | nil => simpa using prompt
  | cons notice rest ih =>
    have told : Event.IsPrompt dump events (.notice notice) := trivial
    have whole := ih (prompt.concat told)
    rw [List.append_assoc] at whole
    exact whole

theorem written {dir : DumpDir} {compiler : Service.Compiler} {i : FuncId} {blob : Bytes}
    (prompt : Prompt (some dir) (events ++ [Event.received (.unit compiler i) blob])) :
    Prompt (some dir) (events ++ [Event.received (.unit compiler i) blob] ++
      [Event.wrote (dir.pathOfUnit i) blob] ++
      [Event.notice (.dumped blob.length (dir.pathOfUnit i))]) := by
  refine Prompt.concat (prompt.concat ?_) ?_
  · exact ⟨events, compiler, i, dir, rfl, rfl, rfl⟩
  · trivial

end Prompt

theorem Event.isPrompt_of {event : Event} {dump : Option DumpDir} {before : List Event}
    (unreceived : event.received? = none) (unwritten : event.wrote? = none) :
    event.IsPrompt dump before := by
  cases event with
  | received request blob => cases unreceived
  | wrote path blob => cases unwritten
  | _ => trivial

/-- Since some moment no answer of the service and no file came late. -/
def Prompted (past : List Event) (dump : Option DumpDir) (world : World) : Prop :=
  ∃ events, world.history.toList = past ++ events ∧ Prompt dump events

namespace Prompted

variable {past : List Event} {dump : Option DumpDir} {world : World}

theorem note (prompted : Prompted past dump world) (event : Event)
    (unreceived : event.received? = none) (unwritten : event.wrote? = none) :
    Prompted past dump (world.record event) := by
  obtain ⟨events, history, prompt⟩ := prompted
  refine ⟨events ++ [event], ?_, prompt.concat (Event.isPrompt_of unreceived unwritten)⟩
  simp [World.record, history]

theorem obtain {service : Service σ} {compiler : Service.Compiler} {i : FuncId}
    {outside after : Outside σ} {result : Except Session.Fault Bytes}
    (prompted : Prompted past dump outside.world)
    (obtained : Trigger.obtain service compiler dump i outside = (result, after)) :
    Prompted past dump after.world := by
  obtain ⟨events, history, prompt⟩ := prompted
  have asked : Prompt dump (events ++ .request (.unit compiler i) ::
      (service.unit compiler i outside.service).notices.map .notice) := by
    have request : Event.IsPrompt dump events (.request (.unit compiler i)) := trivial
    have told := (prompt.concat request).notices (service.unit compiler i outside.service).notices
    rw [List.append_assoc] at told
    exact told
  have received : ∀ blob, Prompt dump (events ++ .request (.unit compiler i) ::
      (service.unit compiler i outside.service).notices.map .notice ++
        [Event.received (.unit compiler i) blob]) := fun blob => asked.concat ⟨_, _, rfl⟩
  have arrived : ∀ blob, (Trigger.brought service compiler i outside blob).world.history.toList =
      past ++ (events ++ .request (.unit compiler i) ::
        (service.unit compiler i outside.service).notices.map .notice ++
          [Event.received (.unit compiler i) blob]) := by
    intro blob
    rw [Trigger.history_brought, history]
    simp
  cases Trigger.obtain_eq_iff.mp obtained with
  | refused answer =>
    refine ⟨_, ?_, asked⟩
    rw [(Trigger.replied_talks service compiler i outside).history, history, List.append_assoc]
  | kept answer undumped => exact ⟨_, arrived _, received _⟩
  | undumped answer dumping refused => exact ⟨_, arrived _, received _⟩
  | @dumped blob _ _ answer dumping written =>
    subst dumping
    refine ⟨_, ?_, (received blob).written⟩
    rw [Outside.history_wrote, arrived]
    simp

/-- The history of a session since it was set up. -/
theorem kept (service : Service σ) (past : List Event) (dump : Option DumpDir) :
    Kept service fun state => state.dump = dump ∧ Prompted past dump state.outside.world where
  notice _ := fun ⟨same, prompted⟩ => ⟨same, prompted.note _ rfl rfl⟩
  printed {state} value := by
    rintro ⟨same, prompted⟩
    have noted := prompted.note (.printed value) rfl rfl
    exact ⟨same, noted⟩
  settled _ _ := fun ⟨same, prompted⟩ => ⟨same, prompted.note _ rfl rfl⟩
  installed _ _ _ _ := fun ⟨same, prompted⟩ => ⟨same, prompted.note _ rfl rfl⟩
  admitted := by
    rintro raw state answer after admitted ⟨same, prompted⟩
    have entered := prompted.note (.triggered raw state.ledger) rfl rfl
    cases admitted with
    | tooEarly unready => exact ⟨same, entered⟩
    | outOfRange ready refused => exact ⟨same, entered⟩
    | present ready located installed => exact ⟨same, entered.note _ rfl rfl⟩
    | reentered ready located notInstalled refused => exact ⟨same, entered⟩
    | @requested shared i ledger result outside ready located reserved obtained =>
      have asking : Prompted past dump (state.reserved raw i ledger).outside.world :=
        entered.note (.notice (.compiling i)) rfl rfl
      rw [same] at obtained
      exact ⟨same, asking.obtain obtained⟩

end Prompted

namespace Prompt

variable {dump : Option DumpDir} {before rest : List Event} {raw : Int32} {ledger : Ledger}

theorem requested_after {request : Request} {blob : Bytes}
    (prompt : Prompt dump (before ++ .triggered raw ledger :: rest))
    (received : .received request blob ∈ rest) : .request request ∈ rest := by
  obtain ⟨early, late, rfl⟩ := List.append_of_mem received
  obtain ⟨earlier, notices, split⟩ :=
    prompt (before ++ .triggered raw ledger :: early) (.received request blob) late (by simp)
  apply List.mem_append_left
  rcases List.append_eq_append_iff.mp split with ⟨between, _, same⟩ | ⟨between, _, same⟩
  · rcases List.cons_eq_append_iff.mp same with ⟨_, first⟩ | ⟨between, _, rfl⟩
    · cases (List.cons.inj first).1
    · exact List.mem_append_right _ List.mem_cons_self
  · have inside : Event.triggered raw ledger ∈ .request request :: notices.map .notice := by
      rw [same]
      exact List.mem_append_right _ List.mem_cons_self
    simp at inside

theorem received_after {path : String} {blob : Bytes}
    (prompt : Prompt dump (before ++ .triggered raw ledger :: rest))
    (wrote : .wrote path blob ∈ rest) :
    ∃ compiler i dir, .received (.unit compiler i) blob ∈ rest ∧ dump = some dir ∧
      path = dir.pathOfUnit i := by
  obtain ⟨early, late, rfl⟩ := List.append_of_mem wrote
  obtain ⟨earlier, compiler, i, dir, split, dumping, there⟩ :=
    prompt (before ++ .triggered raw ledger :: early) (.wrote path blob) late (by simp)
  refine ⟨compiler, i, dir, List.mem_append_left _ ?_, dumping, there⟩
  rcases List.eq_nil_or_concat early with rfl | ⟨early, last, rfl⟩
  · cases List.singleton_inj.mp (List.append_inj' split rfl).2
  · rw [List.concat_eq_append, ← List.cons_append, ← List.append_assoc] at split
    rw [List.concat_eq_append, List.singleton_inj.mp (List.append_inj' split rfl).2]
    exact List.mem_append_right _ (List.mem_singleton_self _)

end Prompt

/-- An event in which the unit of a function is requested, comes, or is written to a file. -/
def Event.IsAbout (dump : Option DumpDir) (i : FuncId) : Event → Prop
  | .request (.unit _ j) => j = i
  | .received (.unit _ j) _ => j = i
  | .wrote path _ => ∃ dir, dump = some dir ∧ path = dir.pathOfUnit i
  | _ => False

def Request.unit? : Request → Option FuncId
  | .unit _ i => some i
  | _ => none

theorem openFuncs_untilFailure {earlier later : List Event} {raw : Int32} {ledger : Ledger}
    {event : Event} (unfailed : Unfailed earlier) (next : later.head? = some event)
    (failed : event.failure?.isSome) :
    openFuncs (untilFailure (earlier ++ .triggered raw ledger :: later)) = openFuncs earlier := by
  obtain ⟨rest, rfl⟩ := List.head?_eq_some_iff.mp next
  have entered : Unfailed (earlier ++ [Event.triggered raw ledger]) :=
    unfailed.append (.singleton rfl)
  have stops : untilFailure (earlier ++ .triggered raw ledger :: event :: rest) =
      earlier ++ [Event.triggered raw ledger] := by
    unfold untilFailure
    rw [List.append_cons, List.takeWhile_append_of_pos]
    · simp [Option.isSome_iff_ne_none.mp failed]
    · intro other member
      simp [entered other member]
  rw [stops]
  unfold openFuncs
  rw [openCalls_append]
  rfl

namespace Session

variable {service : Service σ} {limits : Limits} {session : Session σ} {source : String}
  {settings : Settings} {outside : Outside σ}

theorem unit_requested_once (started : start service limits source settings outside = .ok session)
    {runs : Nat} {before after : List Event}
    (history : (session.rerun service limits runs).state.history =
      session.state.history ++ (before ++ after))
    {compiler : Service.Compiler} {i : FuncId} (first : .request (.unit compiler i) ∈ before)
    (other : Service.Compiler) : .request (.unit other i) ∉ after := by
  obtain ⟨_, _, early, _, _, grown, _⟩ := start_history started
  obtain ⟨_, events, _, _, whole, requests⟩ := requests_of_rerun started runs
  rw [history, grown, List.append_assoc] at whole
  obtain rfl := List.append_cancel_left whole
  have units : (((early ++ (before ++ after)).filterMap Event.request?).filterMap
      Request.unit?).Nodup := by
    rw [requests]
    change (((firstCalls session.slotCount _).map
      (.unit (session.rerun service limits runs).state.compiler)).filterMap Request.unit?).Nodup
    rw [List.filterMap_map]
    change ((firstCalls session.slotCount _).filterMap some).Nodup
    rw [List.filterMap_some]
    exact nodup_firstCalls _ _
  have named : ∀ {events : List Event} {compiler : Service.Compiler},
      .request (.unit compiler i) ∈ events →
      i ∈ (events.filterMap Event.request?).filterMap Request.unit? := fun member =>
    List.mem_filterMap.mpr ⟨_, List.mem_filterMap.mpr ⟨_, member, rfl⟩, rfl⟩
  intro second
  simp only [List.filterMap_append] at units
  obtain ⟨_, later, _⟩ := List.nodup_append.mp units
  obtain ⟨_, _, apart⟩ := List.nodup_append.mp later
  exact apart i (named first) i (named second) rfl

theorem requested_of_abandoned {runs : Nat} {events : List Event} {i : FuncId}
    (ready : session.state.shared.isSome)
    (history : (session.rerun service limits runs).state.history = session.state.history ++ events)
    (left : i ∈ session.abandoned service limits runs) :
    ∃ compiler, .request (.unit compiler i) ∈ events := by
  induction runs generalizing session events with
  | zero => cases left
  | succ runs ih =>
    obtain ⟨happened, grown⟩ := (run_grows service limits session).history
    obtain ⟨later, more⟩ := (rerun_grows service limits runs (session.run service limits).2).history
    have whole : events = happened ++ later := by
      rw [rerun, ← more, ← grown, List.append_assoc] at history
      exact (List.append_cancel_left history).symm
    rw [abandoned, List.mem_append] at left
    rcases left with here | afterwards
    · have opened : i ∈ openFuncs (untilFailure happened) := by
        unfold leftBehind at here
        rw [happened_eq grown.symm] at here
        split at here
        · cases here
        · exact here
      obtain ⟨compiler, member⟩ := requested_of_open opened
      exact ⟨compiler, whole ▸ List.mem_append_left _ ((List.takeWhile_prefix _).subset member)⟩
    · have readyAfter : (session.run service limits).2.state.shared.isSome := by
        rw [(run_grows service limits session).shared]
        exact ready
      obtain ⟨compiler, member⟩ := ih readyAfter more.symm afterwards
      exact ⟨compiler, whole ▸ List.mem_append_right _ member⟩

/-- Nothing more happens to a function that was requested before a call of the trigger, unless its
blob comes in that call. -/
theorem not_about_after (started : start service limits source settings outside = .ok session)
    {runs : Nat} {before rest : List Event} {raw : Int32} {ledger : Ledger} {i : FuncId}
    (history : (session.rerun service limits runs).state.history =
      session.state.history ++ (before ++ .triggered raw ledger :: rest))
    (requested : ∃ compiler, .request (.unit compiler i) ∈ before) :
    ∀ event ∈ rest, ¬ event.IsAbout session.state.dump i := by
  obtain ⟨_, first⟩ := requested
  have fresh : Prompted session.state.history session.state.dump session.state.outside.world :=
    ⟨[], (List.append_nil _).symm, .nil⟩
  obtain ⟨_, events, whole, prompt⟩ := rerun_kept
    (Prompted.kept service session.state.history session.state.dump) limits runs ⟨rfl, fresh⟩
  obtain rfl := List.append_cancel_left (history.symm.trans whole)
  have split : before ++ .triggered raw ledger :: rest =
      (before ++ [Event.triggered raw ledger]) ++ rest := by
    simp
  rw [split] at history
  have unrequested : ∀ compiler, .request (.unit compiler i) ∉ rest :=
    unit_requested_once started history (List.mem_append_left _ first)
  intro event member about
  cases event with
  | request request =>
    cases request with
    | unit compiler j =>
      obtain rfl : j = i := about
      exact unrequested compiler member
    | _ => exact about
  | received request blob =>
    cases request with
    | unit compiler j =>
      obtain rfl : j = i := about
      exact unrequested compiler (prompt.requested_after member)
    | _ => exact about
  | wrote path blob =>
    obtain ⟨dir, dumping, there⟩ := about
    obtain ⟨compiler, j, other, received, same, here⟩ := prompt.received_after member
    obtain rfl := Option.some.inj (dumping.symm.trans same)
    obtain rfl := DumpDir.pathOfUnit_injective (here.symm.trans there)
    exact unrequested compiler (prompt.requested_after received)
  | _ => exact about

theorem rerun_succ (service : Service σ) (limits : Limits) (runs : Nat) (session : Session σ) :
    session.rerun service limits (runs + 1) =
      ((session.rerun service limits runs).run service limits).2 := by
  rw [rerun_add]
  rfl

/-- The functions that are being compiled between two runs are those that earlier runs left
behind. -/
theorem compiling_abandoned (started : start service limits source settings outside = .ok session)
    (runs : Nat) (i : FuncId) :
    (session.rerun service limits runs).slot? i = some .compiling ↔
      i ∈ session.abandoned service limits runs := by
  obtain ⟨shared, ledger⟩ := start_state started
  have none : ∀ j, session.slot? j = some .compiling ↔ j ∈ [] := by
    intro j
    unfold slot?
    rw [ledger]
    change (DispatchTable.ofSize session.slotCount).slot? j = some .compiling ↔ j ∈ []
    rw [DispatchTable.slot?_ofSize]
    split <;> simp
  simpa using rerun_abandoned service limits runs (by simp [shared]) none i

/-- The ledger of a session has one slot for each function, and its units are installed. -/
theorem rerun_sound (started : start service limits source settings outside = .ok session)
    (runs : Nat) : ∃ got, (session.rerun service limits runs).state.ledger.Sound
      session.state.compiler session.slotCount got := by
  obtain ⟨_, ledger⟩ := start_state started
  have fresh : session.state.ledger.Sound session.state.compiler session.slotCount [] := by
    rw [ledger]
    exact .ofSize _ _ _
  obtain ⟨_, _, _, holds⟩ := moments_booked service limits runs fresh
  exact ⟨_, (holds _ (mem_moments_last runs session)).2⟩

/-- What was being compiled when the guard of a call turned it back stays so. -/
theorem compiling_for_good (started : start service limits source settings outside = .ok session)
    {runs : Nat} {i : FuncId}
    (compiling : (session.rerun service limits runs).slot? i = some .compiling) (more : Nat) :
    (session.rerun service limits (runs + more)).slot? i = some .compiling ∧
      ∀ unit ∈ (session.rerun service limits (runs + more)).state.ledger.units.toList,
        unit.func ≠ i := by
  have ready : (session.rerun service limits runs).state.shared.isSome := by
    rw [(rerun_grows service limits runs session).shared, (start_state started).1]
    rfl
  have still : (session.rerun service limits (runs + more)).slot? i = some .compiling := by
    rw [rerun_add, rerun_abandoned service limits more ready
      (fun j => compiling_abandoned started runs j)]
    exact .inr ((compiling_abandoned started runs i).mp compiling)
  obtain ⟨_, sound⟩ := rerun_sound started (runs + more)
  refine ⟨still, fun unit member same => ?_⟩
  have ordered : unit.func ∈ (session.rerun service limits (runs + more)).state.ledger.units.toList.map
      LoadedUnit.func := List.mem_map_of_mem member
  rw [sound.units, sound.installed, same] at ordered
  cases ordered.symm.trans still

/-- The functions that are being compiled are those of the open calls and those that failed runs
left behind, and the trigger turns back the calls for them, once and for all. -/
theorem compiling_is_open (started : start service limits source settings outside = .ok session)
    (runs : Nat) :
    ∃ events : List Event,
      (session.rerun service limits (runs + 1)).state.history =
        (session.rerun service limits runs).state.history ++ events ∧
      (∀ i, (session.rerun service limits runs).slot? i = some .compiling ↔
        i ∈ session.abandoned service limits runs) ∧
      (∀ earlier, earlier <+: events →
        (openFuncs earlier).Nodup ∧
        (openFuncs earlier).length ≤ session.slotCount ∧
        ∀ i ∈ openFuncs earlier,
          i.slot < session.slotCount ∧ i ∉ session.abandoned service limits runs) ∧
      (∀ earlier raw ledger later, events = earlier ++ .triggered raw ledger :: later →
        (∀ i, ledger.table.slot? i = some .compiling ↔
          i ∈ openFuncs earlier ∨ i ∈ session.abandoned service limits runs) ∧
        ∀ i, later.head? = some (.settled raw (.error (.table (.reentered i)))) ↔
          ((i.slot : Int) = raw.toInt ∧ i.slot < session.slotCount) ∧
            (i ∈ openFuncs earlier ∨ i ∈ session.abandoned service limits runs)) ∧
      (∀ value, ((session.rerun service limits runs).run service limits).1 = .ok value →
        ∀ i, (session.rerun service limits (runs + 1)).slot? i = some .compiling ↔
          (session.rerun service limits runs).slot? i = some .compiling) ∧
      (∀ fault, ((session.rerun service limits runs).run service limits).1 = .error fault →
        ∀ i, (session.rerun service limits (runs + 1)).slot? i = some .compiling ↔
          (session.rerun service limits runs).slot? i = some .compiling ∨
            i ∈ openFuncs (untilFailure events)) ∧
      ∀ earlier raw ledger later i, events = earlier ++ .triggered raw ledger :: later →
        later.head? = some (.settled raw (.error (.table (.reentered i)))) →
        ∀ more, ∃ rest,
          (session.rerun service limits (runs + 1 + more)).state.history =
            (session.rerun service limits runs).state.history ++
              (earlier ++ .triggered raw ledger :: rest) ∧
          (session.rerun service limits (runs + 1 + more)).slot? i = some .compiling ∧
          (∀ unit ∈ (session.rerun service limits (runs + 1 + more)).state.ledger.units.toList,
            unit.func ≠ i) ∧
          ∀ event ∈ rest, ¬ event.IsAbout session.state.dump i := by
  have between := compiling_abandoned started runs
  obtain ⟨shared, _⟩ := start_state started
  have grown := rerun_grows service limits runs session
  have ready : (session.rerun service limits runs).state.shared.isSome := by
    rw [grown.shared, shared]
    rfl
  obtain ⟨_, sound⟩ := rerun_sound started runs
  obtain ⟨events, halted, completed⟩ := run_amid service limits ready between
  rw [← rerun_succ, sound.size] at halted
  have named : ∀ (raw : Int32) (i : FuncId), FuncId.ofRaw? session.slotCount raw = some i ↔
      (i.slot : Int) = raw.toInt ∧ i.slot < session.slotCount := by
    intro raw i
    refine ⟨FuncId.slot_of_ofRaw?, fun inside => ?_⟩
    rw [← DispatchTable.size_ofSize session.slotCount] at inside ⊢
    exact FuncId.ofRaw?_of_located (DispatchTable.locate_eq_ok_iff.mpr inside)
  have after : ∀ i, (session.rerun service limits (runs + 1)).slot? i = some .compiling ↔
      i ∈ openFuncs (untilFailure events) ∨ i ∈ session.abandoned service limits runs :=
    halted.compiling
  refine ⟨events, halted.history, between, ?_, ?_, ?_, ?_, ?_⟩
  · intro earlier start
    obtain ⟨distinct, inside⟩ := halted.steady.distinct earlier start
    exact ⟨distinct, FuncId.length_le_of_nodup distinct fun i member => (inside i member).1, inside⟩
  · intro earlier raw ledger later split
    obtain ⟨_, compiling, _, guarded⟩ := halted.steady.found earlier raw ledger later split
    exact ⟨compiling, fun i => (guarded i).trans (and_congr_left' (named raw i))⟩
  · intro value answer i
    obtain ⟨unfailed, closed⟩ := completed value answer
    rw [after, untilFailure_of_unfailed unfailed, closed, between]
    simp
  · intro fault _ i
    rw [after, between, or_comm]
  · intro earlier raw ledger later i split turned more
    obtain ⟨unfailed, _, _, guarded⟩ := halted.steady.found earlier raw ledger later split
    obtain ⟨_, known⟩ := (guarded i).mp turned
    obtain ⟨since, before⟩ := grown.history
    obtain ⟨others, beyond⟩ :=
      (rerun_grows service limits more (session.rerun service limits (runs + 1))).history
    rw [← rerun_add, halted.history, split] at beyond
    have requested : ∃ compiler, .request (.unit compiler i) ∈ since ++ earlier := by
      rcases known with opened | left
      · obtain ⟨compiler, member⟩ := requested_of_open opened
        exact ⟨compiler, List.mem_append_right _ member⟩
      · obtain ⟨compiler, member⟩ :=
          requested_of_abandoned (by rw [shared]; rfl) before.symm left
        exact ⟨compiler, List.mem_append_left _ member⟩
    have compiling : (session.rerun service limits (runs + 1)).slot? i = some .compiling := by
      rw [after, split, openFuncs_untilFailure unfailed turned rfl]
      exact known
    obtain ⟨still, unloaded⟩ := compiling_for_good started compiling more
    refine ⟨later ++ others, ?_, still, unloaded, ?_⟩
    · rw [← beyond]
      simp
    · have whole : (session.rerun service limits (runs + 1 + more)).state.history =
          session.state.history ++
            (since ++ earlier ++ .triggered raw ledger :: (later ++ others)) := by
        rw [← beyond, ← before]
        simp
      exact not_about_after started whole requested

end Session

namespace Sample

/-- The unit of the first function that puts its body into the slot of the second one, and then
calls the first. -/
def impatient : Bytes :=
  [0, 97, 115, 109, 1, 0, 0, 0, 1, 8, 2, 96, 0, 1, 127, 96, 0, 0, 2, 16, 1, 3, 101, 110, 118, 6,
   95, 116, 97, 98, 108, 101, 1, 112, 0, 2, 3, 3, 2, 0, 1, 8, 1, 1, 9, 7, 1, 0, 65, 1, 11, 1, 0,
   10, 15, 2, 4, 0, 65, 1, 11, 8, 0, 65, 0, 17, 0, 0, 26, 11]

/-- A service with such a unit. -/
def reentrant : Script := { script with units := [(⟨0⟩, .ok impatient)] }

/-- The index of a call of the trigger and the slots that it found. -/
def calledAt? : Event → Option (Int32 × List Slot)
  | .triggered raw ledger => some (raw, ledger.table.slots.toList)
  | _ => none

end Sample

namespace Session

/-- A function that is called while its unit is being loaded is left behind. -/
theorem sample_compiling_is_open :
    ∃ (session : Session Unit) (before : List Event) (ledger : Ledger) (after : List Event),
      start Sample.reentrant.service Sample.limits "" Settings.default ⟨(), Sample.world⟩ =
        .ok session ∧
      (session.rerun Sample.reentrant.service Sample.limits 1).state.history =
        before ++ .triggered 0 ledger ::
          .settled 0 (.error (.table (.reentered ⟨0⟩))) :: after ∧
      ∀ more, (session.rerun Sample.reentrant.service Sample.limits (1 + more)).slot? ⟨0⟩ =
        some .compiling := by
  have seen : ((start Sample.reentrant.service Sample.limits "" Settings.default
      ⟨(), Sample.world⟩).toOption.map fun session =>
        (session.slotCount, (session.happened Sample.reentrant.service Sample.limits).filterMap
          Sample.calledAt?)) =
      some (2, [(0, [.stub, .stub]), (0, [.compiling, .stub])]) := by
    decide +kernel
  obtain ⟨session, started, seen⟩ := exists_ok_of_seen seen
  obtain ⟨count, called⟩ := Prod.mk.inj seen
  obtain ⟨events, history, _, _, found, _, _, forGood⟩ := compiling_is_open started 0
  rw [happened_eq history] at called
  have member : (0, [.compiling, .stub]) ∈ events.filterMap Sample.calledAt? := by
    rw [called]
    exact List.mem_cons_of_mem _ (List.mem_singleton_self _)
  obtain ⟨event, inside, named⟩ := List.mem_filterMap.mp member
  obtain ⟨ledger, rfl, slots⟩ : ∃ ledger, event = .triggered 0 ledger ∧
      ledger.table.slots.toList = [.compiling, .stub] := by
    cases event with
    | triggered raw ledger =>
      obtain ⟨rfl, slots⟩ := Prod.mk.inj (Option.some.inj named)
      exact ⟨ledger, rfl, slots⟩
    | _ => cases named
  have compiling : ledger.table.slot? ⟨0⟩ = some .compiling := by
    unfold DispatchTable.slot?
    rw [← Array.getElem?_toList, slots]
    rfl
  obtain ⟨earlier, later, split⟩ := List.append_of_mem inside
  obtain ⟨opened, guarded⟩ := found earlier 0 ledger later split
  have turned := (guarded ⟨0⟩).mpr ⟨⟨rfl, by rw [count]; decide⟩, (opened ⟨0⟩).mp compiling⟩
  obtain ⟨after, rfl⟩ := List.head?_eq_some_iff.mp turned
  refine ⟨session, session.state.history ++ earlier, ledger, after, started, ?_, fun more => ?_⟩
  · rw [List.append_assoc, ← split]
    exact history
  · obtain ⟨_, _, still, _⟩ := forGood earlier 0 ledger _ ⟨0⟩ split turned more
    exact still

end Session

end FirstCall
