import FirstCall.Proofs.Life

/-!
# Lockstep

The same code runs on two machines with the same store and related hosts. It ends alike on both, and
they are related again, unless the first one escapes, by a stop after which nothing is promised. The
engines may differ, too, as long as an operator that does not do the same on both escapes.
-/

namespace FirstCall

namespace Wasm

variable {κ η θ ε α β : Type}

/-- Two outcomes match if the first one escaped, or if both ended alike, with the same store and
related hosts. -/
inductive Matches (H : η → θ → Prop) (Escapes : Stop ε → Prop) :
    Except (Stop ε) α × Machine κ η → Except (Stop ε) α × Machine κ θ → Prop where
  | escaped {why : Stop ε} (escapes : Escapes why) (m : Machine κ η)
      (other : Except (Stop ε) α × Machine κ θ) : Matches H Escapes (.error why, m) other
  | alike {x : η} {y : θ} (result : Except (Stop ε) α) (store : Store κ) (related : H x y) :
      Matches H Escapes (result, ⟨store, x⟩) (result, ⟨store, y⟩)

/-- Wherever both actions start alike, their outcomes match. -/
def InStep (H : η → θ → Prop) (Escapes : Stop ε → Prop) (first : Action κ η ε α)
    (second : Action κ θ ε α) : Prop :=
  ∀ (store : Store κ) {x : η} {y : θ}, H x y →
    Matches H Escapes (first ⟨store, x⟩) (second ⟨store, y⟩)

/-- On the first engine every operator does what it does on the second one, or escapes. -/
def OperateInStep (Escapes : Stop ε → Prop) (operate other : Operate κ ε) : Prop :=
  ∀ inst store frame o, (∃ why, operate inst store frame o = .error why ∧ Escapes why) ∨
    operate inst store frame o = other inst store frame o

variable {H : η → θ → Prop} {Escapes : Stop ε → Prop}

theorem OperateInStep.refl (operate : Operate κ ε) : OperateInStep Escapes operate operate :=
  fun _ _ _ _ => .inr rfl

namespace InStep

theorem pure (value : α) :
    InStep H Escapes (pure value : Action κ η ε α) (pure value : Action κ θ ε α) :=
  fun store _ _ related => .alike (.ok value) store related

theorem stop (why : Stop ε) :
    InStep H Escapes (Action.stop why : Action κ η ε α) (Action.stop why : Action κ θ ε α) :=
  fun store _ _ related => .alike (.error why) store related

theorem store :
    InStep H Escapes (Action.store : Action κ η ε (Store κ)) (Action.store : Action κ θ ε _) :=
  fun store _ _ related => .alike (.ok store) store related

theorem setStore (changed : Store κ) :
    InStep H Escapes (Action.setStore changed : Action κ η ε Unit) (Action.setStore changed) :=
  fun _ _ _ related => .alike (.ok ()) changed related

theorem ofExcept (result : Except (Stop ε) α) :
    InStep H Escapes (Action.ofExcept result : Action κ η ε α) (Action.ofExcept result) := by
  cases result with
  | ok value => exact pure value
  | error why => exact stop why

theorem modifyHost {change : η → η} {other : θ → θ}
    (keeps : ∀ {x y}, H x y → H (change x) (other y)) :
    InStep H Escapes (Action.modifyHost change : Action κ η ε Unit) (Action.modifyHost other) :=
  fun store _ _ related => .alike (.ok ()) store (keeps related)

theorem bind {first : Action κ η ε α} {second : Action κ θ ε α} {next : α → Action κ η ε β}
    {other : α → Action κ θ ε β} (head : InStep H Escapes first second)
    (tail : ∀ value, InStep H Escapes (next value) (other value)) :
    InStep H Escapes (first >>= next) (second >>= other) := by
  intro store x y related
  have before := head store related
  rw [Action.bind_apply, Action.bind_apply]
  generalize first ⟨store, x⟩ = one at before ⊢
  generalize second ⟨store, y⟩ = two at before ⊢
  cases before with
  | escaped escapes m => exact .escaped escapes m _
  | alike result store related =>
    cases result with
    | error why => exact .alike (.error why) store related
    | ok value => exact tail value store related

theorem host {next : η → Action κ η ε β} {other : θ → Action κ θ ε β}
    (tail : ∀ {x y}, H x y → InStep H Escapes (next x) (other y)) :
    InStep H Escapes (Action.host >>= next) (Action.host >>= other) :=
  fun store _ _ related => tail related store related

theorem mapStop {first : Action κ η ε α} {second : Action κ θ ε α} {change : Stop ε → Stop ε}
    (passed : ∀ why, Escapes why → Escapes (change why)) (head : InStep H Escapes first second) :
    InStep H Escapes (Action.mapStop change first) (Action.mapStop change second) := by
  intro store x y related
  have before := head store related
  unfold Action.mapStop
  generalize first ⟨store, x⟩ = one at before ⊢
  generalize second ⟨store, y⟩ = two at before ⊢
  cases before with
  | escaped escapes m => exact .escaped (passed _ escapes) m _
  | alike result store related =>
    cases result with
    | error why => exact .alike (.error (change why)) store related
    | ok value => exact .alike (.ok value) store related

theorem forM {items : List β} {first : β → Action κ η ε Unit} {second : β → Action κ θ ε Unit}
    (each : ∀ item, InStep H Escapes (first item) (second item)) :
    InStep H Escapes (items.forM first) (items.forM second) := by
  induction items with
  | nil => exact pure _
  | cons item rest ih => exact bind (each item) fun _ => ih

section Engine

variable {operate other : Operate κ ε} (operates : OperateInStep Escapes operate other)
  {callee : Invoker κ η ε} {partner : Invoker κ θ ε}

theorem callFrom (calls : ∀ addr args, InStep H Escapes (callee addr args) (partner addr args))
    (addr : Nat) (frame : Frame) :
    InStep H Escapes (callFrom callee addr frame) (callFrom partner addr frame) := by
  unfold Wasm.callFrom
  refine bind store fun held => ?_
  cases held.funcs[addr]? with
  | none => exact stop _
  | some func =>
    dsimp only
    split
    · exact bind (calls _ _) fun results => pure _
    · exact stop _

theorem lastCall (calls : ∀ addr args, InStep H Escapes (callee addr args) (partner addr args))
    (ended : Flow × Frame) :
    InStep H Escapes (lastCall callee ended) (lastCall partner ended) := by
  obtain ⟨flow, frame⟩ := ended
  cases flow with
  | tail addr => exact callFrom calls addr frame
  | _ => exact pure _

include operates in
theorem operator (inst : Instance) (frame : Frame) (o : Op) :
    InStep H Escapes
      (do
        let (frame, store) ← Action.ofExcept (operate inst (← Action.store) frame o)
        Action.setStore store
        Pure.pure (Flow.next, frame) : Action κ η ε (Flow × Frame))
      (do
        let (frame, store) ← Action.ofExcept (other inst (← Action.store) frame o)
        Action.setStore store
        Pure.pure (Flow.next, frame) : Action κ θ ε (Flow × Frame)) := by
  refine bind store fun held => ?_
  obtain ⟨why, stops, escapes⟩ | same := operates inst held frame o
  · rw [stops]
    exact fun store x y _ => .escaped escapes ⟨store, x⟩ _
  · rw [same]
    exact bind (ofExcept _) fun after => bind (setStore _) fun _ => pure _

include operates in
theorem step (calls : ∀ addr args, InStep H Escapes (callee addr args) (partner addr args))
    (inst : Instance) (frame : Frame) (o : Op) :
    InStep H Escapes (stepBy operate callee inst frame o) (stepBy other partner inst frame o) := by
  unfold stepBy
  split
  · exact pure _
  · exact pure _
  · exact pure _
  · exact pure _
  · split
    · exact callFrom calls _ _
    · exact stop _
  · split
    · exact pure _
    · exact stop _
  · refine bind store fun held => ?_
    exact bind (ofExcept _) fun addr => callFrom calls _ _
  · refine bind store fun held => ?_
    exact bind (ofExcept _) fun addr => pure _
  · exact operator operates inst frame _

theorem rounds {body : Frame → Action κ η ε (Flow × Frame)}
    {twin : Frame → Action κ θ ε (Flow × Frame)}
    (bodies : ∀ frame, InStep H Escapes (body frame) (twin frame)) (restart : Frame → Frame)
    (left : Nat) (frame : Frame) :
    InStep H Escapes (rounds body restart left frame) (rounds twin restart left frame) := by
  induction left generalizing frame with
  | zero => exact stop _
  | succ left ih =>
    unfold Wasm.rounds
    refine bind (bodies frame) fun ended => ?_
    obtain ⟨flow, frame⟩ := ended
    dsimp only
    split
    · exact ih _
    · exact pure _

theorem afterBlock {rest : Frame → Action κ η ε (Flow × Frame)}
    {twin : Frame → Action κ θ ε (Flow × Frame)}
    (rests : ∀ frame, InStep H Escapes (rest frame) (twin frame)) (leave : Frame → Frame)
    (ended : Flow × Frame) :
    InStep H Escapes
      (match ended.1.outward with
        | none => rest (leave ended.2)
        | some flow => Pure.pure (flow, ended.2) : Action κ η ε (Flow × Frame))
      (match ended.1.outward with
        | none => twin (leave ended.2)
        | some flow => Pure.pure (flow, ended.2) : Action κ θ ε (Flow × Frame)) := by
  cases ended.1.outward with
  | none => exact rests _
  | some flow => exact pure _

include operates in
theorem exec (calls : ∀ addr args, InStep H Escapes (callee addr args) (partner addr args))
    (fuel : Nat) (inst : Instance) (code : Code) (frame : Frame) :
    InStep H Escapes (execBy operate callee fuel inst code frame)
      (execBy other partner fuel inst code frame) := by
  induction code generalizing frame with
  | done =>
    unfold execBy
    exact pure _
  | op first rest ih =>
    unfold execBy
    refine bind (step operates calls inst frame first) fun ended => ?_
    obtain ⟨flow, frame⟩ := ended
    dsimp only
    split
    · exact ih _
    · exact pure _
  | block type body rest ihBody ihRest =>
    unfold execBy
    cases type.signature? inst.types with
    | none => exact stop _
    | some sig =>
      exact bind (ihBody _) fun ended => afterBlock ihRest
        (·.leave sig.results.length (frame.stack.drop sig.params.length)) ended
  | loop type body rest ihBody ihRest =>
    unfold execBy
    cases type.signature? inst.types with
    | none => exact stop _
    | some sig =>
      exact bind (rounds ihBody _ _ _) fun ended => afterBlock ihRest
        (·.leave sig.results.length (frame.stack.drop sig.params.length)) ended
  | ite type yes no rest ihYes ihNo ihRest =>
    unfold execBy
    cases type.signature? inst.types with
    | none => exact stop _
    | some sig =>
      dsimp only
      split
      · next choice stack _ =>
        refine bind ?_ fun ended => afterBlock ihRest
          (·.leave sig.results.length (stack.drop sig.params.length)) ended
        split
        · exact ihYes _
        · exact ihNo _
      · exact stop _

include operates in
theorem enter {tail : Invoker κ η ε} {tailPartner : Invoker κ θ ε}
    (calls : ∀ addr args, InStep H Escapes (callee addr args) (partner addr args))
    (tails : ∀ addr args, InStep H Escapes (tail addr args) (tailPartner addr args))
    (fuel : Nat) (type : FuncType) (inst : Instance) (func : Func) (args : List Value) :
    InStep H Escapes (enterBy operate callee tail fuel type inst func args)
      (enterBy other partner tailPartner fuel type inst func args) := by
  unfold enterBy
  refine bind (exec operates calls _ _ _ _) fun ended => ?_
  exact bind (lastCall tails ended) fun _ => pure _

include operates in
/-- Calls are in step if the host functions are, given that what they call is in step. -/
theorem invoke {host : Host κ η ε} {twin : Host κ θ ε}
    (hosts : ∀ (run : Invoker κ η ε) (partner : Invoker κ θ ε),
      (∀ addr args, InStep H Escapes (run addr args) (partner addr args)) →
        ∀ name args, InStep H Escapes (host run name args) (twin partner name args))
    (limits : Limits) (fuel room addr : Nat) (args : List Value) :
    InStep H Escapes (invokeBy operate host limits fuel room addr args)
      (invokeBy other twin limits fuel room addr args) := by
  induction fuel generalizing room addr args with
  | zero => exact stop _
  | succ fuel ih =>
    unfold invokeBy
    refine bind store fun held => ?_
    cases held.funcs[addr]? with
    | none => exact stop _
    | some func =>
      dsimp only
      split
      · exact hosts _ _ (ih _) _ _
      · split
        · exact enter operates (ih _) (ih _) _ _ _ _ _
        · exact stop _

end Engine

theorem writeElem (inst : Instance) (segment : ElemSegment) :
    InStep H Escapes (writeElem inst segment : Action κ η ε Unit) (writeElem inst segment) := by
  unfold Wasm.writeElem
  split
  · exact pure _
  · exact pure _
  · refine bind store fun held => ?_
    split
    · dsimp only
      split
      · exact setStore _
      · exact stop _
    · exact stop _

theorem writeData (inst : Instance) (segment : DataSegment) :
    InStep H Escapes (writeData inst segment : Action κ η ε Unit) (writeData inst segment) := by
  unfold Wasm.writeData
  split
  · exact pure _
  · refine bind store fun held => ?_
    split
    · split
      · exact setStore _
      · exact stop _
    · exact stop _

theorem instantiate {run : Invoker κ η ε} {partner : Invoker κ θ ε}
    (calls : ∀ addr args, InStep H Escapes (run addr args) (partner addr args)) (m : Module)
    (items : List Extern) :
    InStep H Escapes (instantiate run m items) (instantiate partner m items) := by
  unfold Wasm.instantiate
  refine bind store fun held => ?_
  refine bind (setStore _) fun _ => ?_
  refine bind (forM (writeElem _)) fun _ => ?_
  refine bind (forM (writeData _)) fun _ => ?_
  refine bind ?_ fun _ => pure _
  unfold runStart
  split
  · exact pure _
  · split
    · exact bind (calls _ _) fun _ => pure _
    · exact stop _

end InStep

end Wasm

open Wasm

variable {σ τ α β : Type}

/-- What the dispatcher does to one host it does to the related one, unless a unit cannot be
obtained on the first one and that is an escape. -/
structure Companions (service : Service σ) (H : HostState σ → HostState σ → Prop)
    (Escapes : Stop Session.Fault → Prop) : Prop where
  recorded : ∀ {x y} (event : Event), event.wrote? = none → H x y →
    H (x.record event) (y.record event)
  printed : ∀ {x y} (value : Int32), H x y → H (x.print value) (y.print value)
  shared : ∀ {x y}, H x y → x.shared = y.shared
  println : ∀ {x y}, H x y → x.println = y.println
  ledger : ∀ {x y}, H x y → x.ledger = y.ledger
  changed : ∀ {x y} (ledger : Ledger), H x y → H { x with ledger } { y with ledger }
  obtained : ∀ {x y} (i : FuncId), H x y →
    (∃ fault outside,
      Trigger.obtain service x.compiler x.dump i x.outside = (.error fault, outside) ∧
      Escapes (.failed fault)) ∨
    ∃ result outside other,
      Trigger.obtain service x.compiler x.dump i x.outside = (result, outside) ∧
      Trigger.obtain service y.compiler y.dump i y.outside = (result, other) ∧
      H { x with outside } { y with outside := other }
  passed : ∀ (unit : String) (why : Stop Session.Fault), Escapes why →
    Escapes (Dispatch.loadStop unit why)

/-- The same of two dispatchers, each with a service of its own. -/
structure Partners (service : Service σ) (other : Service τ) (H : HostState σ → HostState τ → Prop)
    (Escapes : Stop Session.Fault → Prop) : Prop where
  recorded : ∀ {x y} (event : Event), event.wrote? = none → event.printed? = none → H x y →
    H (x.record event) (y.record event)
  printed : ∀ {x y} (value : Int32), H x y → H (x.print value) (y.print value)
  shared : ∀ {x y}, H x y → x.shared = y.shared
  println : ∀ {x y}, H x y → x.println = y.println
  ledger : ∀ {x y}, H x y → x.ledger = y.ledger
  changed : ∀ {x y} (ledger : Ledger), H x y → H { x with ledger } { y with ledger }
  obtained : ∀ {x y} (i : FuncId), H x y →
    (∃ fault outside,
      Trigger.obtain service x.compiler x.dump i x.outside = (.error fault, outside) ∧
      Escapes (.failed fault)) ∨
    ∃ result outside beside,
      Trigger.obtain service x.compiler x.dump i x.outside = (result, outside) ∧
      Trigger.obtain other y.compiler y.dump i y.outside = (result, beside) ∧
      H { x with outside } { y with outside := beside }
  passed : ∀ (unit : String) (why : Stop Session.Fault), Escapes why →
    Escapes (Dispatch.loadStop unit why)

theorem Companions.partners {service : Service σ} {H : HostState σ → HostState σ → Prop}
    {Escapes : Stop Session.Fault → Prop} (companions : Companions service H Escapes) :
    Partners service service H Escapes where
  recorded event unwritten _ := companions.recorded event unwritten
  printed := companions.printed
  shared := companions.shared
  println := companions.println
  ledger := companions.ledger
  changed := companions.changed
  obtained := companions.obtained
  passed := companions.passed

namespace Dispatch

theorem act_bind (effect : Effect σ α) (next : α → Effect σ β) :
    act (effect >>= next) = (act effect >>= fun value => act (next value)) := by
  funext m
  rw [Action.bind_apply]
  unfold act
  rw [Effect.bind_apply]
  cases effect m.host.outside with
  | mk result outside => cases result <;> rfl

end Dispatch

theorem Trigger.compile_eq (service : Service σ)
    (run : Invoker HostFunc (HostState σ) Session.Fault) (shared : Nat) (i : FuncId) :
    compile service run shared i =
      (do
        Dispatch.updateLedger (·.reserve i)
        Dispatch.say (.compiling i)
        let state ← Action.host
        let blob ← Dispatch.act (Trigger.obtain service state.compiler state.dump i)
        install run shared i blob) := by
  unfold compile Trigger.obtain
  simp only [Dispatch.act_bind]
  funext m
  simp only [Action.bind_apply]
  cases Dispatch.updateLedger (·.reserve i) m with
  | mk result m =>
    cases result with
    | error why => rfl
    | ok value =>
      dsimp only [Dispatch.say, Action.modifyHost, Action.host]
      cases Dispatch.act _ _ with
      | mk fetched m =>
        cases fetched with
        | error why => rfl
        | ok blob =>
          dsimp only
          cases Dispatch.act _ m with
          | mk dumped m => cases dumped <;> rfl

namespace Partners

variable {service : Service σ} {other : Service τ} {H : HostState σ → HostState τ → Prop}
  {Escapes : Stop Session.Fault → Prop} (partners : Partners service other H Escapes)
  {run : Invoker HostFunc (HostState σ) Session.Fault}
  {partner : Invoker HostFunc (HostState τ) Session.Fault}
  (calls : ∀ addr args, InStep H Escapes (run addr args) (partner addr args))

include partners

theorem record (event : Event) (unwritten : event.wrote? = none)
    (unprinted : event.printed? = none) :
    InStep H Escapes (Dispatch.record event : Dispatch σ Unit) (Dispatch.record event) :=
  .modifyHost (partners.recorded event unwritten unprinted)

theorem say (notice : Notice) :
    InStep H Escapes (Dispatch.say notice : Dispatch σ Unit) (Dispatch.say notice) :=
  partners.record (.notice notice) rfl rfl

omit partners in
theorem tableAnswer (answer : Except DispatchTable.Fault α) :
    InStep H Escapes (Dispatch.tableAnswer answer : Dispatch σ α)
      (Dispatch.tableAnswer answer) := by
  cases answer with
  | ok value => exact .pure _
  | error refusal => exact .stop _

theorem updateLedger (change : Ledger → Except DispatchTable.Fault Ledger) :
    InStep H Escapes (Dispatch.updateLedger change : Dispatch σ Unit)
      (Dispatch.updateLedger change) := by
  unfold Dispatch.updateLedger
  refine .host fun related => ?_
  rw [partners.ledger related]
  exact .bind (tableAnswer _) fun ledger => .modifyHost (partners.changed ledger)

include calls

theorem load (i : FuncId) (shared : Nat) (blob : Bytes) :
    InStep H Escapes (FunctionUnit.load run i shared blob)
      (FunctionUnit.load partner i shared blob) := by
  unfold FunctionUnit.load
  cases Module.ofBlob blob with
  | error defect => exact .stop _
  | ok module =>
    refine .host fun related => ?_
    rw [partners.println related]
    split
    · split
      · exact .stop _
      · refine .bind .store fun held => ?_
        split
        · exact .bind (.mapStop (partners.passed _) (.instantiate calls module _))
            fun inst => .pure _
        · exact .stop _
    · exact .stop _

theorem loadSkeleton (blob : Bytes) :
    InStep H Escapes (Skeleton.load run blob) (Skeleton.load partner blob) := by
  unfold Skeleton.load
  cases Module.ofBlob blob with
  | error defect => exact .stop _
  | ok module =>
    refine .bind .store fun held => ?_
    split
    · refine .bind (.mapStop (partners.passed _) (.instantiate calls module _)) fun inst => ?_
      split
      · exact .stop _
      · exact .bind .store fun held => .bind (partners.say _) fun _ => .pure _
    · exact .stop _

theorem install (i : FuncId) (shared : Nat) (blob : Bytes) :
    InStep H Escapes (Trigger.install run shared i blob)
      (Trigger.install partner shared i blob) := by
  unfold Trigger.install
  refine .bind (partners.load calls i shared blob) fun unit => ?_
  exact .bind (partners.say _) fun _ => partners.updateLedger _

theorem compile (shared : Nat) (i : FuncId) :
    InStep H Escapes (Trigger.compile service run shared i)
      (Trigger.compile other partner shared i) := by
  rw [Trigger.compile_eq, Trigger.compile_eq]
  refine .bind (partners.updateLedger _) fun _ => .bind (partners.say _) fun _ => ?_
  intro store x y related
  rw [Action.bind_apply, Action.bind_apply]
  dsimp only [Action.host]
  rw [Action.bind_apply, Action.bind_apply, Trigger.act_apply, Trigger.act_apply]
  dsimp only
  obtain ⟨fault, outside, obtained, escapes⟩ | ⟨result, outside, beside, first, second, related⟩ :=
    partners.obtained i related
  · rw [obtained]
    exact .escaped escapes _ _
  · rw [first, second]
    cases result with
    | error fault => exact .alike (.error (.failed fault)) store related
    | ok blob => exact partners.install calls i shared blob store related

theorem resolve (raw : Int32) :
    InStep H Escapes (Trigger.resolve service run raw) (Trigger.resolve other partner raw) := by
  unfold Trigger.resolve
  refine .host fun related => ?_
  rw [partners.shared related, partners.ledger related]
  split
  · exact .stop _
  · refine .bind (tableAnswer _) fun i => ?_
    split
    · exact partners.say _
    · exact partners.compile calls _ i

omit calls in
theorem settle (raw : Int32) {first : Dispatch σ Unit} {second : Dispatch τ Unit}
    (head : InStep H Escapes first second) :
    InStep H Escapes (Trigger.settle raw first) (Trigger.settle raw second) := by
  intro store x y related
  have before := head store related
  unfold Trigger.settle
  generalize first ⟨store, x⟩ = one at before ⊢
  generalize second ⟨store, y⟩ = two at before ⊢
  cases before with
  | @escaped why escapes m =>
    cases why with
    | failed fault => exact .escaped escapes _ _
    | _ => exact .escaped escapes m _
  | alike result store related =>
    cases result with
    | ok value => exact .alike (.ok ()) store (partners.recorded _ rfl rfl related)
    | error why =>
      cases why with
      | failed fault =>
        exact .alike (.error (.failed fault)) store (partners.recorded _ rfl rfl related)
      | _ => exact .alike _ store related

theorem fire (raw : Int32) :
    InStep H Escapes (Trigger.fire service run raw) (Trigger.fire other partner raw) := by
  unfold Trigger.fire
  refine .host fun related => ?_
  rw [partners.ledger related]
  exact .bind (partners.record _ rfl rfl) fun _ =>
    partners.settle raw (partners.resolve calls raw)

theorem dispatchHost (name : HostFunc) (args : List Value) :
    InStep H Escapes (dispatchHost service run name args)
      (dispatchHost other partner name args) := by
  unfold FirstCall.dispatchHost
  split
  · exact .bind (partners.fire calls _) fun _ => .pure _
  · exact .bind (.modifyHost (partners.printed _)) fun _ => .pure _
  · exact .stop _

omit calls in
/-- Every call of a function of a program is in step. -/
theorem call {operate operateOther : Operate HostFunc Session.Fault}
    (operates : OperateInStep Escapes operate operateOther) (limits : Limits) (fuel room addr : Nat)
    (args : List Value) :
    InStep H Escapes
      (invokeBy operate (FirstCall.dispatchHost service) limits fuel room addr args)
      (invokeBy operateOther (FirstCall.dispatchHost other) limits fuel room addr args) :=
  .invoke operates (fun _ _ calls => partners.dispatchHost calls) limits fuel room addr args

end Partners

namespace Companions

variable {service : Service σ} {H : HostState σ → HostState σ → Prop}
  {Escapes : Stop Session.Fault → Prop} (companions : Companions service H Escapes)

include companions

theorem loadSkeleton {run partner : Invoker HostFunc (HostState σ) Session.Fault}
    (calls : ∀ addr args, InStep H Escapes (run addr args) (partner addr args)) (blob : Bytes) :
    InStep H Escapes (Skeleton.load run blob) (Skeleton.load partner blob) :=
  companions.partners.loadSkeleton calls blob

theorem call {operate other : Operate HostFunc Session.Fault}
    (operates : OperateInStep Escapes operate other) (limits : Limits) (fuel room addr : Nat)
    (args : List Value) :
    InStep H Escapes
      (invokeBy operate (FirstCall.dispatchHost service) limits fuel room addr args)
      (invokeBy other (FirstCall.dispatchHost service) limits fuel room addr args) :=
  companions.partners.call operates limits fuel room addr args

end Companions

namespace Session

variable {service : Service σ} {other : Service τ} {H : HostState σ → HostState τ → Prop}
  {Escapes : Stop Session.Fault → Prop}

theorem call_inStep (partners : Partners service other H Escapes) (limits : Limits) (addr : Nat)
    (args : List Value) :
    InStep H Escapes (call service limits addr args) (call other limits addr args) := by
  have inStep := partners.call (.refl perform) limits limits.fuel limits.stack addr args
  rw [invokeBy_perform, invokeBy_perform] at inStep
  exact inStep

/-- Two sessions at the same point of the same program, with related hosts. -/
structure Abreast (H : HostState σ → HostState τ → Prop) (session : Session σ)
    (twin : Session τ) : Prop where
  store : session.machine.store = twin.machine.store
  host : H session.state twin.state
  skeleton : session.skeleton = twin.skeleton
  entry : session.entry = twin.entry

theorem conclude_abreast (partners : Partners service other H Escapes) {session : Session σ}
    {twin : Session τ} {state : HostState σ} {mate : HostState τ}
    (skeleton : session.skeleton = twin.skeleton) (entry : session.entry = twin.entry)
    (result : Except (Stop Fault) (List Value)) (store : Store HostFunc) (host : H state mate) :
    (session.conclude (result, ⟨store, state⟩)).1 = (twin.conclude (result, ⟨store, mate⟩)).1 ∧
      (session.conclude (result, ⟨store, state⟩)).2.Abreast H
        (twin.conclude (result, ⟨store, mate⟩)).2 := by
  obtain ⟨_, skeleton, entry⟩ := session
  obtain ⟨_, _, _⟩ := twin
  obtain rfl := skeleton
  obtain rfl := entry
  cases result with
  | error why => exact ⟨rfl, rfl, host, rfl, rfl⟩
  | ok values =>
    rcases values with _ | ⟨value, _ | ⟨second, rest⟩⟩
    · exact ⟨rfl, rfl, host, rfl, rfl⟩
    · cases value with
      | i32 raw =>
        dsimp only [conclude]
        rw [partners.ledger host]
        exact ⟨rfl, rfl, partners.recorded _ rfl rfl host, rfl, rfl⟩
      | _ => exact ⟨rfl, rfl, host, rfl, rfl⟩
    · cases value <;> exact ⟨rfl, rfl, host, rfl, rfl⟩

/-- A run goes alike, unless the first session escapes. -/
theorem run_abreast (partners : Partners service other H Escapes) (limits : Limits)
    {session : Session σ} {twin : Session τ} (abreast : session.Abreast H twin) :
    (∃ why, Escapes why ∧
      (session.run service limits).1 = .error (runFault session.entry why)) ∨
    (session.run service limits).1 = (twin.run other limits).1 ∧
      (session.run service limits).2.Abreast H (twin.run other limits).2 := by
  obtain ⟨⟨store, state⟩, skeleton, entry⟩ := session
  obtain ⟨⟨_, mate⟩, _, _⟩ := twin
  obtain ⟨rfl, host, rfl, rfl⟩ := abreast
  cases found : skeleton.entry store entry with
  | error fault =>
    rw [run_of_entry_error found, run_of_entry_error found]
    exact .inr ⟨rfl, rfl, host, rfl, rfl⟩
  | ok addr =>
    rw [run_of_entry found, run_of_entry found]
    have announced : H (state.record (.notice (.executing entry)))
        (mate.record (.notice (.executing entry))) := partners.recorded _ rfl rfl host
    have matched := call_inStep partners limits addr [] store announced
    dsimp only [Session.announced]
    generalize call service limits addr [] ⟨store, state.record _⟩ = one at matched ⊢
    generalize call other limits addr [] ⟨store, mate.record _⟩ = two at matched ⊢
    cases matched with
    | @escaped why escapes m => exact .inl ⟨why, escapes, rfl⟩
    | alike result store related =>
      exact .inr (conclude_abreast partners rfl rfl result store related)

end Session

end FirstCall
