import FirstCall.Proofs.Closed
import FirstCall.Proofs.Preparation

/-!
# The silence of the skeleton

A skeleton imports nothing but the compile trigger, so no reference to the printing function comes
into its hands: all that its code can get hold of are its own functions and the trigger. Hence
nothing is printed while it is loaded, however that ends.
-/

namespace FirstCall

open Wasm

variable {σ : Type}

/-- Nothing was printed since some moment, and the trigger is not open. -/
structure HostState.Silent (past : List Event) (sink : Printout) (host : HostState σ) : Prop where
  unready : host.shared = none
  sink : host.outside.world.sink = sink
  unprinted : ∃ events, host.history = past ++ events ∧ ∀ event ∈ events,
    event.printed? = none

/-- A host on which nothing is printed stays silent as long as only other events are recorded. -/
theorem HostState.Silent.note {past : List Event} {sink : Printout} {host : HostState σ}
    (silent : host.Silent past sink) {event : Event} (other : event.printed? = none) :
    (host.record event).Silent past sink := by
  obtain ⟨events, history, unprinted⟩ := silent.unprinted
  refine ⟨silent.unready, silent.sink, events ++ [event], ?_, ?_⟩
  · rw [HostState.history_record, history, List.append_assoc]
  · intro later member
    rcases List.mem_append.mp member with before | last
    · exact unprinted later before
    · exact List.mem_singleton.mp last ▸ other

theorem HostState.silent_early (past : List Event) (sink : Printout) :
    HostState.Early fun host : HostState σ => host.Silent past sink :=
  ⟨fun silent => silent.unready, fun _ other silent => silent.note other⟩

namespace Skeleton

variable {module : Module} {service : Service σ} {limits : Limits}

/-- Everything that the skeleton can get hold of, each linked to itself. -/
def within (module : Module) : Links :=
  { links module with funcs a b := (links module).funcs a b ∧ a ≠ printlnAddr }

theorem within_le (module : Module) : within module ≤ links module :=
  ⟨fun _ _ place => place.1, fun _ _ place => place, fun _ _ place => place,
    fun _ _ place => place, fun _ _ place => place⟩

theorem fresh_le_within (module : Module) :
    Links.fresh module dispatchStore dispatchStore ≤ within module := by
  obtain ⟨funcs, others⟩ := fresh_le module
  refine ⟨fun a b new => ⟨funcs a b new, ?_⟩, others⟩
  obtain ⟨k, _, rfl, _⟩ := new
  have two : dispatchStore.funcs.size = 2 := rfl
  unfold printlnAddr
  omega

theorem within_diagonal (module : Module) : (within module).Diagonal :=
  ⟨fun place => place.1.1, fun place => place.1, fun place => place.1, fun place => place.1,
    fun place => place.1⟩

/-- The only function that prints is the one that is there before the skeleton. -/
theorem addr_of_println {a : Nat} {type : FuncType}
    (found : (module.allocate (laid module) dispatchStore).funcs[a]? =
      some ⟨type, .host .println⟩) : a = printlnAddr := by
  unfold Module.allocate at found
  dsimp only at found
  rw [Array.getElem?_append] at found
  split at found
  · next old =>
    have two : dispatchStore.funcs.size = 2 := rfl
    rw [two] at old
    match a, old with
    | 0, _ => cases found
    | 1, _ => rfl
  · obtain ⟨func, _, same⟩ := List.mem_map.mp (List.mem_toArray.mp (Array.mem_of_getElem? found))
    cases same

variable (service limits) in
/-- Loading the skeleton before the trigger is open is silent, however it ends. -/
theorem instantiate_silent (fixed : module.Fixed) {past : List Event} {sink : Printout}
    {host : HostState σ} (silent : host.Silent past sink) :
    (instantiate (Session.call service limits) module (triggers module)
      ⟨dispatchStore, host⟩).2.host.Silent past sink := by
  cases placed : module.place (triggers module) dispatchStore with
  | none =>
    obtain ⟨why, after, failed, same, _⟩ := Module.instantiate_of_unplaced
      (Session.call service limits) (c := ⟨dispatchStore, host⟩) fixed placed
    rw [failed, same]
    exact silent
  | some store =>
    have insts := laid_linked (fresh_le_within module)
      ⟨trigger_linked module, show triggerAddr ≠ printlnAddr by decide⟩
    obtain ⟨stores, funcs⟩ := place_linked fixed (within_le module) insts placed
    have before : Unopened (within module) store.funcs (fun host => host.Silent past sink)
        (within module) ⟨store, host⟩ ⟨store, host⟩ :=
      ⟨rfl, stores, rfl, rfl, silent, silent⟩
    have after := Unopened.runStart service (HostState.silent_early past sink)
      (within_diagonal module) (fun found _ => allocated_twin insts (funcs ▸ found))
      (fun found place => absurd (addr_of_println (funcs ▸ found)) place.2) limits module.start insts
      before
    rw [Module.instantiate_of_place (c := ⟨dispatchStore, host⟩) fixed placed, Action.bind_apply]
    cases ran : runStart (Session.call service limits) (laid module) module.start
        ⟨store, host⟩ with
    | mk result last =>
      rw [ran] at after
      cases result <;> exact after.keeps

theorem Loading.silent {blob : Bytes} {outside : Outside σ} {compiler : Service.Compiler}
    {dump : Option DumpDir} {after : DispatchMachine σ}
    {result : Except (Stop Session.Fault) Skeleton}
    (loading : Loading (Session.call service limits) blob
      ⟨dispatchStore, HostState.fresh outside compiler dump⟩ result after) :
    after.host.Silent outside.world.history.toList outside.world.sink := by
  have before : (HostState.fresh outside compiler dump).Silent outside.world.history.toList
      outside.world.sink := ⟨rfl, rfl, [], (List.append_nil _).symm, by simp⟩
  cases loading with
  | malformed decoded => exact before
  | unlinkable decoded unfit => exact before
  | stopped decoded triggers fits ran =>
    have silent := instantiate_silent service limits (fixed_of_links decoded fits) before
    rw [ran] at silent
    exact silent
  | tableless decoded triggers fits ran hidden =>
    have silent := instantiate_silent service limits (fixed_of_links decoded fits) before
    rw [ran] at silent
    exact silent
  | loaded decoded triggers fits ran shared counted =>
    have silent := instantiate_silent service limits (fixed_of_links decoded fits) before
    rw [ran] at silent
    exact silent.note rfl

end Skeleton

end FirstCall
