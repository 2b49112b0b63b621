import FirstCall.Proofs.Preparation

/-!
# Refusals

The history holds what the service was asked, but not how it answered. A service answers by its
state alone, so the same requests, put to it in the state that it was in, are answered the same
again. This tells a failure of the service from all others: one comes out of set-up or of a run
exactly if the last request was refused, and then it is the refusal as it was given.
-/

namespace FirstCall

open Wasm

variable {σ α : Type}

def Reply.refusal? (reply : Reply σ α) : Option Service.Fault :=
  match reply.result with
  | .ok _ => none
  | .error fault => some fault

namespace Service

variable (service : Service σ)

/-- Puts a request to the service: how it is refused, if it is, and the state afterwards. -/
def put : Request → σ → Option Service.Fault × σ
  | .parse source, state =>
    ((service.parse source state).refusal?, (service.parse source state).state)
  | .build ir, state => ((service.build ir state).refusal?, (service.build ir state).state)
  | .skeleton compiler, state =>
    ((service.skeleton compiler state).refusal?, (service.skeleton compiler state).state)
  | .unit compiler i, state =>
    ((service.unit compiler i state).refusal?, (service.unit compiler i state).state)

/-- Puts requests to the service one after the other: those that are refused, and the state
afterwards. -/
def replay : List Request → σ → List (Request × Service.Fault) × σ
  | [], state => ([], state)
  | request :: rest, state =>
    ((((service.put request state).1.map (request, ·)).toList ++
        (replay rest (service.put request state).2).1),
      (replay rest (service.put request state).2).2)

theorem replay_singleton (request : Request) (state : σ) :
    service.replay [request] state =
      (((service.put request state).1.map (request, ·)).toList, (service.put request state).2) := by
  simp [replay]

theorem replay_append (before after : List Request) (state : σ) :
    service.replay (before ++ after) state =
      ((service.replay before state).1 ++ (service.replay after (service.replay before state).2).1,
        (service.replay after (service.replay before state).2).2) := by
  induction before generalizing state with
  | nil => rfl
  | cons request rest ih =>
    rw [List.cons_append, replay, replay, ih, List.append_assoc]

theorem put_of_replay {asked : List Request} {state : σ} {request : Request} {fault : Service.Fault}
    (refused : (request, fault) ∈ (service.replay asked state).1) :
    ∃ middle, (service.put request middle).1 = some fault := by
  induction asked generalizing state with
  | nil => cases refused
  | cons first rest ih =>
    rcases List.mem_append.mp refused with here | later
    · obtain ⟨other, given, same⟩ := Option.map_eq_some_iff.mp (Option.mem_toList.mp here)
      obtain ⟨rfl, rfl⟩ := Prod.mk.inj same
      exact ⟨state, given⟩
    · exact ih later

end Service

/-- From one moment to another the service was asked for some things. It refused none of them, or
the last one. -/
structure Outside.Replies (service : Service σ) (first : Outside σ) (asked : List Request)
    (refused : Option (Request × Service.Fault)) (last : Outside σ) : Prop where
  requests : last.world.requests = first.world.requests ++ asked
  replay : service.replay asked first.service = (refused.toList, last.service)
  last : ∀ request fault, refused = some (request, fault) → asked.getLast? = some request

namespace Outside.Replies

variable {service : Service σ} {first middle last : Outside σ} {asked more : List Request}
  {refused : Option (Request × Service.Fault)}

theorem quiet (state : last.service = first.service)
    (requests : last.world.requests = first.world.requests) :
    first.Replies service [] none last where
  requests := by rw [requests, List.append_nil]
  replay := by rw [state]; rfl
  last _ _ none := by cases none

theorem trans (head : first.Replies service asked none middle)
    (tail : middle.Replies service more refused last) :
    first.Replies service (asked ++ more) refused last where
  requests := by rw [tail.requests, head.requests, List.append_assoc]
  replay := by rw [Service.replay_append, head.replay, tail.replay]; rfl
  last request fault same := by
    rw [List.getLast?_append, tail.last request fault same]
    rfl

theorem later (replies : first.Replies service asked refused middle)
    (state : last.service = middle.service)
    (requests : last.world.requests = middle.world.requests) :
    first.Replies service asked refused last where
  requests := requests.trans replies.requests
  replay := by rw [state]; exact replies.replay
  last := replies.last

theorem requests_hear (outside : Outside σ) (request : Request) (reply : Reply σ α) :
    (outside.hear request reply).world.requests = outside.world.requests ++ [request] := by
  unfold World.requests
  rw [history_hear, List.filterMap_append]
  simp [Event.request?]

theorem requests_record (outside : Outside σ) {event : Event} (other : event.request? = none) :
    (outside.record event).world.requests = outside.world.requests := by
  unfold World.requests
  rw [history_record, List.filterMap_append]
  simp [other]

theorem answered {request : Request} {reply : Reply σ α} {value : α}
    (given : service.put request first.service = (reply.refusal?, reply.state))
    (answer : reply.result = .ok value) :
    first.Replies service [request] none (first.hear request reply) where
  requests := requests_hear first request reply
  replay := by
    rw [Service.replay_singleton, given, Reply.refusal?, answer]
    rfl
  last _ _ none := by cases none

theorem denied {request : Request} {reply : Reply σ α} {fault : Service.Fault}
    (given : service.put request first.service = (reply.refusal?, reply.state))
    (refusal : reply.result = .error fault) :
    first.Replies service [request] (some (request, fault)) (first.hear request reply) where
  requests := requests_hear first request reply
  replay := by
    rw [Service.replay_singleton, given, Reply.refusal?, refusal]
    rfl
  last asked other same := by
    obtain ⟨rfl, _⟩ := Prod.mk.inj (Option.some.inj same)
    rfl

/-- What was refused is the last request in the history, and it was refused in some state. -/
theorem refusal {request : Request} {fault : Service.Fault}
    (replies : first.Replies service asked (some (request, fault)) last) :
    last.world.requests.getLast? = some request ∧
      ∃ middle, (service.put request middle).1 = some fault := by
  constructor
  · rw [replies.requests, List.getLast?_append, replies.last request fault rfl]
    rfl
  · have given : (request, fault) ∈ (service.replay asked first.service).1 := by
      rw [replies.replay]
      exact List.mem_singleton_self _
    exact service.put_of_replay given

end Outside.Replies

def Session.Fault.ofService? : Session.Fault → Option Service.Fault
  | .service fault => some fault
  | _ => none

/-- The failure of the service with which code ended, if it ended with one. -/
def Wasm.Stop.ofService? (why : Stop Session.Fault) : Option Service.Fault :=
  why.fault?.bind Session.Fault.ofService?

/-- The failure of the service in a result, if there is one. -/
def refusalIn {ε : Type} (ofService? : ε → Option Service.Fault) : Except ε α → Option Service.Fault
  | .ok _ => none
  | .error why => ofService? why

theorem Dispatch.ofService?_loadStop (unit : String) (why : Stop Session.Fault) :
    (Dispatch.loadStop unit why).ofService? = why.ofService? := by
  cases why <;> rfl

namespace HostState

theorem requests_record (state : HostState σ) {event : Event} (other : event.request? = none) :
    (state.record event).outside.world.requests = state.outside.world.requests :=
  Outside.Replies.requests_record state.outside other

theorem requests_settle (state : HostState σ) (raw : Int32) (ended : Ending Session.Fault) :
    (state.settle raw ended).outside.world.requests = state.outside.world.requests := by
  obtain same | ⟨result, same⟩ := settle_cases state raw ended
  · rw [same]
  · rw [same]
    exact requests_record state rfl

theorem service_settle (state : HostState σ) (raw : Int32) (ended : Ending Session.Fault) :
    (state.settle raw ended).outside.service = state.outside.service := by
  obtain same | ⟨result, same⟩ := settle_cases state raw ended
  · rw [same]
  · rw [same]
    rfl

/-- From one state to another the service was asked for units only. It refused the last of them with
the given fault, or none. -/
def AsksUnits (service : Service σ) (first : HostState σ) (refusal : Option Service.Fault)
    (last : HostState σ) : Prop :=
  ∃ asked refused, first.outside.Replies service asked refused last.outside ∧
    refused.map Prod.snd = refusal ∧ ∀ request ∈ asked, ∃ i, request = .unit first.compiler i

namespace AsksUnits

variable {service : Service σ} {first middle last : HostState σ} {refusal : Option Service.Fault}

theorem quiet (state : last.outside.service = first.outside.service)
    (requests : last.outside.world.requests = first.outside.world.requests) :
    first.AsksUnits service none last :=
  ⟨[], none, .quiet state requests, rfl, nofun⟩

theorem trans (head : first.AsksUnits service none middle)
    (compiler : middle.compiler = first.compiler) (tail : middle.AsksUnits service refusal last) :
    first.AsksUnits service refusal last := by
  obtain ⟨asked, refused, replies, same, units⟩ := head
  obtain rfl := Option.map_eq_none_iff.mp same
  obtain ⟨more, denied, others, equal, later⟩ := tail
  rw [compiler] at later
  refine ⟨asked ++ more, denied, replies.trans others, equal, fun request member => ?_⟩
  exact (List.mem_append.mp member).elim (units request) (later request)

theorem later (asks : first.AsksUnits service refusal middle)
    (state : last.outside.service = middle.outside.service)
    (requests : last.outside.world.requests = middle.outside.world.requests) :
    first.AsksUnits service refusal last := by
  obtain ⟨asked, refused, replies, same, units⟩ := asks
  exact ⟨asked, refused, replies.later state requests, same, units⟩

theorem settle (asks : first.AsksUnits service refusal middle) (raw : Int32)
    (ended : Ending Session.Fault) :
    first.AsksUnits service refusal (middle.settle raw ended) :=
  asks.later (service_settle middle raw ended) (requests_settle middle raw ended)

end AsksUnits

end HostState

namespace Trigger

theorem obtain_replies (service : Service σ) (compiler : Service.Compiler) (dump : Option DumpDir)
    (i : FuncId) (outside : Outside σ) :
    ∃ refused, outside.Replies service [.unit compiler i] refused
        (obtain service compiler dump i outside).2 ∧
      refused.map Prod.snd =
        refusalIn Session.Fault.ofService? (obtain service compiler dump i outside).1 := by
  have arrived : ∀ {blob}, (service.unit compiler i outside.service).result = .ok blob →
      outside.Replies service [.unit compiler i] none (brought service compiler i outside blob) :=
    fun answer => (Outside.Replies.answered rfl answer).later rfl
      (Outside.Replies.requests_record _ rfl)
  have obtaining : Obtaining service compiler i outside dump
      (obtain service compiler dump i outside).1 (obtain service compiler dump i outside).2 :=
    obtain_eq_iff.mp rfl
  generalize obtain service compiler dump i outside = ended at obtaining ⊢
  obtain ⟨result, after⟩ := ended
  dsimp only at obtaining ⊢
  cases obtaining with
  | refused answer => exact ⟨_, .denied rfl answer, rfl⟩
  | kept answer undumped => exact ⟨none, arrived answer, rfl⟩
  | undumped answer dumping refused => exact ⟨none, arrived answer, rfl⟩
  | dumped answer dumping written =>
    refine ⟨none, (arrived answer).later rfl ?_, rfl⟩
    exact (Outside.Replies.requests_record _ rfl).trans (Outside.Replies.requests_record _ rfl)

theorem Admission.replies {service : Service σ} {raw : Int32} {state after : HostState σ}
    {answer : Except Session.Fault (Option (FuncId × Bytes))}
    (admitted : Admission service raw state answer after) :
    state.AsksUnits service (refusalIn Session.Fault.ofService? answer) after := by
  have entered : (state.enter raw).outside.world.requests = state.outside.world.requests :=
    HostState.requests_record state rfl
  cases admitted with
  | tooEarly unready => exact .quiet rfl entered
  | outOfRange ready refused => exact .quiet rfl entered
  | present ready located installed =>
    exact .quiet rfl ((HostState.requests_record _ rfl).trans entered)
  | reentered ready located notInstalled refused => exact .quiet rfl entered
  | @requested _ i ledger result outside ready located reserved obtained =>
    have noted : state.outside.Replies service [] none (state.reserved raw i ledger).outside :=
      .quiet rfl ((HostState.requests_record _ rfl).trans entered)
    obtain ⟨refused, replies, same⟩ := obtain_replies service state.compiler state.dump i
      (state.reserved raw i ledger).outside
    rw [obtained] at replies same
    refine ⟨[.unit state.compiler i], refused, noted.trans replies, ?_, ?_⟩
    · cases result <;> exact same
    · intro request member
      exact ⟨i, List.mem_singleton.mp member⟩

end Trigger

/-- Code asks the service for units only. It ends with a failure of the service exactly if the last
one was refused. -/
theorem Course.replies {service : Service σ} {first last : HostState σ}
    {ended : Ending Session.Fault} (course : Course service first ended last) :
    first.AsksUnits service (refusalIn Stop.ofService? ended) last := by
  induction course with
  | quiet state => exact .quiet rfl rfl
  | @halted state why own =>
    have unrefused : refusalIn Stop.ofService? (.error why : Ending Session.Fault) = none := by
      change why.fault?.bind _ = none
      rw [own]
      rfl
    rw [unrefused]
    exact .quiet rfl rfl
  | trans head tail ihHead ihTail => exact ihHead.trans head.grows.compiler ihTail
  | printed state value =>
    refine .quiet rfl ?_
    change (state.print value).history.filterMap Event.request? = _
    rw [HostState.history_print, List.filterMap_append]
    exact List.append_nil _
  | refused admitted => exact admitted.replies.settle _ _
  | present admitted => exact admitted.replies.settle _ _
  | @turnedAway _ _ raw i _ fault admitted turns =>
    have unrefused : refusalIn Stop.ofService?
        (.error (.failed fault) : Ending Session.Fault) = none := by
      cases fault <;> first | rfl | cases turns
    rw [unrefused]
    exact admitted.replies.settle raw (.error (.failed fault))
  | @broken _ _ _ raw i _ why admitted loading ih =>
    have same : refusalIn Stop.ofService?
        (.error (Dispatch.loadStop (unitName i) why) : Ending Session.Fault) =
      refusalIn Stop.ofService? (.error why : Ending Session.Fault) :=
        Dispatch.ofService?_loadStop (unitName i) why
    rw [same]
    exact (admitted.replies.trans admitted.grows.compiler ih).settle raw _
  | installed admitted loading recorded ih =>
    have loaded := admitted.replies.trans admitted.grows.compiler ih
    apply HostState.AsksUnits.settle
    exact loaded.later rfl (HostState.requests_record _ rfl)
  | unrecorded admitted loading refused ih =>
    have loaded := admitted.replies.trans admitted.grows.compiler ih
    apply HostState.AsksUnits.settle
    exact loaded.later rfl (HostState.requests_record _ rfl)

namespace Session

section Preparation

variable {service : Service σ} {source : String} {outside after : Outside σ} {dump : Option DumpDir}

/-- The preparation fails by the service's doing exactly if the last request was refused. -/
theorem Prepared.replies {result : Except Fault (Service.Compiler × Bytes)}
    (prepared : Prepared service source outside dump result after) :
    ∃ asked refused, outside.Replies service asked refused after ∧
      refused.map Prod.snd = refusalIn Fault.ofService? result := by
  have two : ∀ {ir}, (service.parse source outside.service).result = .ok ir →
      outside.Replies service [.parse source] none (parsed service source outside) :=
    fun parse => .answered rfl parse
  have three : ∀ {ir compiler}, (service.parse source outside.service).result = .ok ir →
      (service.build ir (service.parse source outside.service).state).result = .ok compiler →
      outside.Replies service [.parse source, .build ir] none (built service source outside ir) :=
    fun parse build => (two parse).trans (.answered rfl build)
  have all : ∀ {ir compiler blob}, service.Answers source outside.service ir compiler blob →
      outside.Replies service [.parse source, .build ir, .skeleton compiler] none
        (arrived service source outside ir compiler blob) := by
    intro ir compiler blob answers
    have made : outside.Replies service [.parse source, .build ir, .skeleton compiler] none
        (made service source outside ir compiler) :=
      (three answers.parse answers.build).trans (.answered rfl answers.skeleton)
    refine made.later rfl ?_
    exact (Outside.Replies.requests_record _ rfl).trans (Outside.Replies.requests_record _ rfl)
  cases prepared with
  | unparsed refused => exact ⟨_, _, .denied rfl refused, rfl⟩
  | unbuilt parse refused => exact ⟨_, _, (two parse).trans (.denied rfl refused), rfl⟩
  | unmade parse build refused => exact ⟨_, _, (three parse build).trans (.denied rfl refused), rfl⟩
  | undumped answers dumping refused => exact ⟨_, none, all answers, rfl⟩
  | dumped answers dumping written =>
    refine ⟨_, none, (all answers).later rfl ?_, rfl⟩
    exact (Outside.Replies.requests_record _ rfl).trans (Outside.Replies.requests_record _ rfl)
  | kept answers undumped => exact ⟨_, none, all answers, rfl⟩

end Preparation

/-- The loading of the skeleton asks the service for nothing, and does not fail by its doing. -/
theorem loading_replies {service : Service σ} {limits : Limits} {blob : Bytes} {outside : Outside σ}
    {compiler : Service.Compiler} {dump : Option DumpDir} {m : DispatchMachine σ}
    {result : Except (Stop Fault) Skeleton}
    (loading : Skeleton.Loading (call service limits) blob
      ⟨dispatchStore, HostState.fresh outside compiler dump⟩ result m) :
    outside.Replies service [] none m.host.outside ∧
      refusalIn Stop.ofService? result = none := by
  obtain ⟨world, events, same, _, history, early⟩ := loading.early
  have unasked : events.filterMap Event.request? = [] :=
    List.filterMap_eq_nil_iff.mpr fun event member => (early event member).1
  refine ⟨.quiet (by rw [same]; rfl) ?_, ?_⟩
  · rw [same]
    change world.history.toList.filterMap Event.request? = _
    rw [history, List.filterMap_append, unasked, List.append_nil]
    rfl
  · have unrefused : ∀ {why : Stop Fault} {m after : DispatchMachine σ}, m.host.shared = none →
        Course service m.host (.error why) after.host → why.ofService? = none := by
      intro why m after unready course
      obtain ⟨_, _, _, _, ⟨own, _⟩ | ⟨early, _⟩⟩ := course.early unready
      · cases why with
        | failed fault => exact absurd rfl (own fault)
        | _ => rfl
      · cases early
        rfl
    cases loading with
    | malformed decoded => rfl
    | unlinkable decoded unfit => rfl
    | @stopped module why _ decoded triggers links ran =>
      have course := (Course.discipline service).instantiate (call_follows service limits) module
        (module.imports.map fun _ => .func triggerAddr)
        ⟨dispatchStore, HostState.fresh outside compiler dump⟩
      rw [ran] at course
      exact (Dispatch.ofService?_loadStop skeletonName why).trans (unrefused rfl course)
    | tableless decoded triggers links ran hidden => rfl
    | loaded decoded triggers links ran shared counted => rfl

theorem ofService?_startFault (why : Stop Fault) :
    (startFault why).ofService? = why.ofService? := by
  cases why <;> rfl

theorem ofService?_runFault (entry : String) (why : Stop Fault) :
    (runFault entry why).ofService? = why.ofService? := by
  cases why <;> rfl

/-- Set-up fails by the service's doing exactly if the last request was refused. -/
theorem start_replies (service : Service σ) (limits : Limits) (source : String)
    (settings : Settings)
    (outside : Outside σ) :
    ∃ asked refused,
      outside.Replies service asked refused
        (afterStart (start service limits source settings outside)) ∧
      refused.map Prod.snd = refusalIn (fun failure => failure.1.ofService?)
        (start service limits source settings outside) := by
  have started := start_started service limits source settings outside
  generalize start service limits source settings outside = result at started ⊢
  cases started with
  | unprepared prepared => exact prepared.replies
  | unloaded prepared loading =>
    obtain ⟨asked, refused, replies, same⟩ := prepared.replies
    obtain rfl := Option.map_eq_none_iff.mp same
    obtain ⟨quiet, unrefused⟩ := loading_replies loading
    refine ⟨asked ++ [], none, replies.trans quiet, ?_⟩
    exact (unrefused.symm.trans (ofService?_startFault _).symm)
  | ready prepared loading =>
    obtain ⟨asked, refused, replies, same⟩ := prepared.replies
    obtain rfl := Option.map_eq_none_iff.mp same
    exact ⟨asked ++ [], none, replies.trans (loading_replies loading).1, rfl⟩

/-- A run asks the service for units only. It fails by the service's doing exactly if the last one
was refused. -/
theorem run_replies (service : Service σ) (limits : Limits) (session : Session σ) :
    ∃ asked refused,
      session.state.outside.Replies service asked refused
        (session.run service limits).2.state.outside ∧
      refused.map Prod.snd = refusalIn Fault.ofService? (session.run service limits).1 ∧
      ∀ request ∈ asked, ∃ i, request = .unit session.state.compiler i := by
  cases found : session.skeleton.entry session.machine.store session.entry with
  | error fault =>
    rw [run_of_entry_error found]
    refine ⟨[], none, .quiet rfl rfl, ?_, nofun⟩
    unfold Skeleton.entry at found
    split at found
    · cases found
      rfl
    · split at found <;> cases found
      rfl
  | ok addr =>
    obtain ⟨result, machine, ran, called, course⟩ := run_course service limits found
    obtain ⟨asked, refused, replies, same, units⟩ := course.replies
    have noted : session.state.outside.Replies service [] none session.announced.host.outside :=
      .quiet rfl (HostState.requests_record _ rfl)
    have whole := noted.trans replies
    rw [ran]
    obtain ⟨raw, rfl, ends⟩ | ⟨why, stopped, ends⟩ := conclude_cases session result machine
    · rw [ends]
      exact ⟨asked, refused, whole.later rfl (HostState.requests_record _ rfl), same, units⟩
    · rw [ends]
      refine ⟨asked, refused, whole, same.trans ?_, units⟩
      obtain rfl | ⟨rfl, values, rfl⟩ := stopped
      · exact (ofService?_runFault session.entry why).symm
      · rfl

end Session

end FirstCall
