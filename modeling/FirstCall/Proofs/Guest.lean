import FirstCall.Proofs.Operators

/-!
# Guest code and the host

Code changes the store by its operators, but the state of the host only through host functions. A
conduct is a relation between machines that idle code satisfies, that composes, and that the
operators satisfy; if the host functions satisfy it, so does every call, whatever the code. It is a
discipline if loading a module satisfies it, too.
-/

namespace FirstCall.Wasm

variable {κ η ε α β : Type}

/-- The failure of a host function, if that is what stopped the code. -/
def Stop.fault? : Stop ε → Option ε
  | .failed fault => some fault
  | _ => none

/-- How code ended, without its answer. -/
abbrev Ending (ε : Type) := Except (Stop ε) Unit

/-- The ending of a result. -/
def ending (result : Except (Stop ε) α) : Ending ε := result.map fun _ => ()

@[simp] theorem ending_ok (value : α) : ending (.ok value : Except (Stop ε) α) = .ok () := rfl

@[simp] theorem ending_error (why : Stop ε) :
    ending (.error why : Except (Stop ε) α) = .error why := rfl

def Obeys (P : Machine κ η → Ending ε → Machine κ η → Prop) (action : Action κ η ε α) : Prop :=
  ∀ m, P m (ending (action m).1) (action m).2

theorem Action.bind_ok {first : Action κ η ε α} {next : α → Action κ η ε β}
    {m after : Machine κ η} {value : β} (ran : (first >>= next) m = (.ok value, after)) :
    ∃ found middle, first m = (.ok found, middle) ∧ next found middle = (.ok value, after) := by
  rw [bind_apply] at ran
  cases head : first m with
  | mk result middle =>
    rw [head] at ran
    cases result with
    | error why => cases ran
    | ok found => exact ⟨found, middle, rfl, ran⟩

theorem bind_ok_iff {δ : Type} {x : Except δ α} {next : α → Except δ β} {value : β} :
    x >>= next = .ok value ↔ ∃ found, x = .ok found ∧ next found = .ok value := by
  cases x with
  | error fault => exact ⟨nofun, nofun⟩
  | ok found =>
    constructor
    · intro ran
      exact ⟨found, rfl, ran⟩
    · rintro ⟨_, same, ran⟩
      obtain rfl := Except.ok.inj same
      exact ran

theorem Width.truncateTrap_error {width : Width} {n : Nat} {isSigned : Bool} {bits : Nat}
    {why : Stop ε} (failed : width.truncateTrap n isSigned bits = .error why) :
    why.fault? = none := by
  unfold truncateTrap at failed
  dsimp only at failed
  repeat' split at failed
  all_goals cases failed
  all_goals rfl

theorem Numeric.compute_error {o : Numeric} {operands : List Nat} {why : Stop ε}
    (failed : o.compute operands = .error why) : why.fault? = none := by
  unfold compute at failed
  split at failed
  case h_3 width op x y =>
    generalize op.eval (BitVec.ofNat width.bits x) (BitVec.ofNat width.bits y) = result at failed
    cases result <;> cases failed
    rfl
  case h_10 target source isSigned isSaturating x =>
    split at failed
    · cases failed
    · cases done : (source.truncateTrap target.bits isSigned x : Except (Stop ε) _) <;>
        rw [done] at failed
      · cases failed
        exact Width.truncateTrap_error done
      · cases failed
  all_goals cases failed
  all_goals rfl

theorem Access.effect_error {access : Access} {isShared : Bool} {old : Nat} {operands : List Nat}
    {why : Stop ε} (failed : access.effect isShared old operands = .error why) :
    why.fault? = none := by
  unfold effect at failed
  repeat' split at failed
  all_goals cases failed
  all_goals rfl

theorem Access.size_le_of_run {access : Access} {memory changed : Memory} {place : Nat}
    {operands : List Nat} {answer : Option Nat}
    (done : (access.run memory place operands : Except (Stop ε) _) = .ok (answer, changed)) :
    memory.size ≤ changed.size := by
  unfold run at done
  split at done
  · cases done
  split at done
  · cases done
  next old read =>
  obtain ⟨moved, _, done⟩ := bind_ok_iff.mp done
  cases stored : moved.stored with
  | none =>
    rw [stored] at done
    cases done
    exact Nat.le_refl _
  | some new =>
    rw [stored] at done
    dsimp only at done
    split at done
    · next written =>
      cases done
      exact Nat.le_of_eq (Memory.size_of_write? written).symm
    · cases done

theorem Access.run_error {access : Access} {memory : Memory} {place : Nat} {operands : List Nat}
    {why : Stop ε} (failed : access.run memory place operands = .error why) :
    why.fault? = none := by
  unfold run at failed
  split at failed
  · cases failed
    rfl
  split at failed
  · cases failed
    rfl
  next old read =>
  cases done : (access.effect memory.isShared (Bytes.toNat old) operands : Except (Stop ε) _) with
  | error why' =>
    rw [done] at failed
    cases failed
    exact effect_error done
  | ok moved =>
    rw [done] at failed
    dsimp only [Bind.bind, Except.bind] at failed
    repeat' split at failed
    all_goals cases failed
    all_goals rfl

/-- An operator fails by its own doing and never by that of the host. -/
theorem perform_error {inst : Instance} {store : Store κ} {frame : Frame} {o : Op} {why : Stop ε}
    (failed : perform inst store frame o = .error why) : why.fault? = none := by
  unfold perform at failed
  cases o
  case numeric op =>
    dsimp only at failed
    repeat' split at failed
    · cases failed
    · next failed' =>
      cases failed
      exact Numeric.compute_error failed'
    · cases failed
      rfl
  case access access arg =>
    dsimp only at failed
    repeat' split at failed
    · cases failed
    · next failed' =>
      cases failed
      exact Access.run_error failed'
    · cases failed
      rfl
  all_goals try dsimp only at failed
  all_goals repeat' split at failed
  all_goals cases failed
  all_goals rfl

theorem Instance.place_of_table? {inst : Instance} {store : Store κ} {index addr : Nat}
    {found : Table} (place : inst.table? store index = some (addr, found)) :
    inst.tables[index]? = some addr ∧ store.tables[addr]? = some found := by
  obtain ⟨_, first, rest⟩ := Option.bind_eq_some_iff.mp place
  obtain ⟨_, second, same⟩ := Option.bind_eq_some_iff.mp rest
  obtain ⟨rfl, rfl⟩ := Prod.mk.inj (Option.some.inj same)
  exact ⟨first, second⟩

theorem Instance.place_of_memory? {inst : Instance} {store : Store κ} {index addr : Nat}
    {found : Memory} (place : inst.memory? store index = some (addr, found)) :
    store.memories[addr]? = some found := by
  obtain ⟨_, _, rest⟩ := Option.bind_eq_some_iff.mp place
  obtain ⟨_, there, same⟩ := Option.bind_eq_some_iff.mp rest
  obtain ⟨rfl, rfl⟩ := Prod.mk.inj (Option.some.inj same)
  exact there

theorem Memory.size_le_of_grow? {memory next : Memory} {more : Nat}
    (done : memory.grow? more = some next) : memory.size ≤ next.size := by
  unfold grow? at done
  split at done <;> cases done
  unfold size
  exact Nat.mul_le_mul_right _ (Nat.le_add_right _ _)

/-- What an operator does to the store: it writes or grows a table or a memory, sets a global or
drops a segment, or leaves everything as it is. No operator touches a function. -/
inductive Op.Touches (inst : Instance) (store : Store κ) (frame : Frame) : Op → Store κ → Prop where
  | nothing (o : Op) : Touches inst store frame o store
  | globalSet {index addr : Nat} {old : GlobalInst} (value : Value)
      (place : inst.global? store index = some (addr, old)) :
      Touches inst store frame (.globalSet index) (store.setGlobal addr value)
  | tableSet {index addr : Nat} {entry : Ref} {k : UInt32} {below : List Value}
      {table changed : Table} (top : frame.stack = .ref entry :: .i32 k :: below)
      (place : inst.table? store index = some (addr, table))
      (written : table.write? k.toNat [entry] = some changed) :
      Touches inst store frame (.tableSet index) (store.setTable addr changed)
  | tableGrow {index addr more : Nat} {entry : Ref} {table changed : Table}
      (place : inst.table? store index = some (addr, table))
      (grown : table.grow? more entry = some changed) :
      Touches inst store frame (.tableGrow index) (store.setTable addr changed)
  | tableWrite {index addr : Nat} {source : RefSource} {count place : UInt32} {start : Value}
      {below : List Value} {refs : List Ref} {table changed : Table}
      (top : frame.stack = .i32 count :: start :: .i32 place :: below)
      (there : inst.table? store index = some (addr, table))
      (taken : source.refs? inst store (table.size - place.toNat) count.toNat start = some refs)
      (written : table.write? place.toNat refs = some changed) :
      Touches inst store frame (.tableWrite index source) (store.setTable addr changed)
  | memory (o : Op) {index addr : Nat} {memory changed : Memory}
      (place : inst.memory? store index = some (addr, memory))
      (grows : memory.size ≤ changed.size) :
      Touches inst store frame o (store.setMemory addr changed)
  | segment (o : Op) (addr : Nat) : Touches inst store frame o (store.dropSegment addr)

theorem perform_touches {inst : Instance} {store left : Store κ} {frame after : Frame} {o : Op}
    (done : (perform inst store frame o : Except (Stop ε) _) = .ok (after, left)) :
    o.Touches inst store frame left := by
  unfold perform at done
  cases o with
  | globalSet index =>
    dsimp only at done
    split at done
    · next place =>
      cases done
      exact .globalSet _ place
    · cases done
  | tableSet index =>
    dsimp only at done
    split at done
    · next top place =>
      split at done
      · next written =>
        cases done
        exact .tableSet top place written
      · cases done
    · cases done
  | tableGrow index =>
    dsimp only at done
    split at done
    · next place =>
      split at done
      · next grown =>
        cases done
        exact .tableGrow place grown
      · cases done
        exact .nothing _
    · cases done
  | tableWrite index source =>
    dsimp only at done
    split at done
    · next top there =>
      split at done
      · next taken =>
        split at done
        · next written =>
          cases done
          exact .tableWrite top there taken written
        · cases done
      · cases done
    · cases done
  | elemDrop index =>
    dsimp only at done
    split at done <;> cases done
    exact .segment _ _
  | access access arg =>
    dsimp only at done
    split at done
    · next place =>
      split at done
      · next ran =>
        cases done
        exact .memory _ place (Access.size_le_of_run ran)
      · cases done
    · cases done
  | memoryGrow index =>
    dsimp only at done
    split at done
    · next place =>
      split at done
      · next grown =>
        cases done
        exact .memory _ place (Memory.size_le_of_grow? grown)
      · cases done
        exact .nothing _
    · cases done
  | memoryWrite index source =>
    dsimp only at done
    split at done
    · next place =>
      split at done
      · split at done
        · next written =>
          cases done
          exact .memory _ place (Nat.le_of_eq (Memory.size_of_write? written).symm)
        · cases done
      · cases done
    · cases done
  | dataDrop index =>
    dsimp only at done
    split at done <;> cases done
    exact .segment _ _
  | _ =>
    try dsimp only at done
    repeat' split at done
    all_goals cases done
    all_goals exact .nothing _

theorem target_error {inst : Instance} {store : Store κ} {type table index : Nat} {why : Stop ε}
    (failed : target inst store type table index = .error why) : why.fault? = none := by
  unfold target at failed
  repeat' split at failed
  all_goals first
    | contradiction
    | (injection failed with same; subst same; rfl)

/-- A relation between the machine before, the ending and the machine after, which holds of code
that does nothing, of code that goes on after other code, and of each operator. -/
structure Conduct (operate : Operate κ ε) (P : Machine κ η → Ending ε → Machine κ η → Prop) :
    Prop where
  quiet : ∀ m, P m (.ok ()) m
  halted : ∀ m {why : Stop ε}, why.fault? = none → P m (.error why) m
  trans : ∀ {first middle last ending}, P first (.ok ()) middle → P middle ending last →
    P first ending last
  performed : ∀ {m inst frame o after}, operate inst m.store frame o = .ok after →
    P m (.ok ()) { m with store := after.2 }
  refused : ∀ {inst store frame o why}, operate inst store frame o = .error why →
    why.fault? = none

/-- A conduct under which modules are loaded. -/
structure Discipline (P : Machine κ η → Ending ε → Machine κ η → Prop) : Prop
    extends Conduct perform P where
  refused := perform_error
  allocated : ∀ (m) (module : Module) (items : List Extern),
    P m (.ok ()) { m with store := module.allocate (module.instanceAt items m.store) m.store }
  filled : ∀ {m} {inst : Instance} {index start addr table refs changed},
    inst.table? m.store index = some (addr, table) → table.write? start refs = some changed →
      P m (.ok ()) { m with store := m.store.setTable addr changed }
  written : ∀ {m} {inst : Instance} {index start addr memory bytes changed},
    inst.memory? m.store index = some (addr, memory) → memory.write? start bytes = some changed →
      P m (.ok ()) { m with store := m.store.setMemory addr changed }

namespace Conduct

variable {operate : Operate κ ε} {P : Machine κ η → Ending ε → Machine κ η → Prop}
  (conduct : Conduct operate P)

include conduct

theorem pure (value : α) : Obeys P (pure value : Action κ η ε α) :=
  fun m => conduct.quiet m

theorem stop {why : Stop ε} (own : why.fault? = none) :
    Obeys P (Action.stop why : Action κ η ε α) :=
  fun m => conduct.halted m own

theorem store : Obeys P (Action.store : Action κ η ε (Store κ)) :=
  fun m => conduct.quiet m

theorem ofExcept {result : Except (Stop ε) α}
    (own : ∀ why, result = .error why → why.fault? = none) :
    Obeys P (Action.ofExcept result : Action κ η ε α) := by
  cases result with
  | ok value => exact conduct.pure value
  | error why => exact conduct.stop (own why rfl)

theorem bind {first : Action κ η ε α} {next : α → Action κ η ε β} (head : Obeys P first)
    (tail : ∀ value, Obeys P (next value)) : Obeys P (first >>= next) := by
  intro m
  have before := head m
  rw [Action.bind_apply]
  cases run : first m with
  | mk result after =>
    rw [run] at before
    cases result with
    | ok value => exact conduct.trans before (tail value after)
    | error why => exact before

theorem callFrom {callee : Invoker κ η ε} (calls : ∀ addr args, Obeys P (callee addr args))
    (addr : Nat) (frame : Frame) : Obeys P (callFrom callee addr frame) := by
  unfold Wasm.callFrom
  refine conduct.bind conduct.store fun store => ?_
  split
  · dsimp only
    split
    · exact conduct.bind (calls _ _) fun results => conduct.pure _
    · exact conduct.stop rfl
  · exact conduct.stop rfl

theorem lastCall {callee : Invoker κ η ε} (calls : ∀ addr args, Obeys P (callee addr args))
    (ended : Flow × Frame) : Obeys P (lastCall callee ended) := by
  unfold Wasm.lastCall
  split
  · exact conduct.callFrom calls _ _
  · exact conduct.pure _

theorem operator (inst : Instance) (frame : Frame) (o : Op) :
    Obeys P (do
      let (frame, store) ← Action.ofExcept (operate inst (← Action.store) frame o)
      Action.setStore store
      Pure.pure (Flow.next, frame) : Action κ η ε (Flow × Frame)) := by
  intro m
  rw [Action.bind_apply]
  dsimp only [Action.store]
  rw [Action.bind_apply]
  cases done : operate inst m.store frame o with
  | error why => exact conduct.halted m (conduct.refused done)
  | ok after => exact conduct.performed done

theorem step {callee : Invoker κ η ε} (calls : ∀ addr args, Obeys P (callee addr args))
    (inst : Instance) (frame : Frame) (o : Op) : Obeys P (stepBy operate callee inst frame o) := by
  unfold stepBy
  split
  · exact conduct.pure _
  · exact conduct.pure _
  · exact conduct.pure _
  · exact conduct.pure _
  · split
    · exact conduct.callFrom calls _ _
    · exact conduct.stop rfl
  · split
    · exact conduct.pure _
    · exact conduct.stop rfl
  · refine conduct.bind conduct.store fun store => ?_
    refine conduct.bind (conduct.ofExcept fun why => target_error) fun addr => ?_
    exact conduct.callFrom calls _ _
  · refine conduct.bind conduct.store fun store => ?_
    refine conduct.bind (conduct.ofExcept fun why => target_error) fun addr => ?_
    exact conduct.pure _
  · exact conduct.operator inst frame _

theorem rounds {body : Frame → Action κ η ε (Flow × Frame)} (obeys : ∀ frame, Obeys P (body frame))
    (restart : Frame → Frame) (left : Nat) (frame : Frame) :
    Obeys P (rounds body restart left frame) := by
  induction left generalizing frame with
  | zero => exact conduct.stop rfl
  | succ left ih =>
    unfold Wasm.rounds
    refine conduct.bind (obeys frame) fun ended => ?_
    obtain ⟨flow, frame⟩ := ended
    dsimp only
    split
    · exact ih _
    · exact conduct.pure _

theorem afterBlock {rest : Frame → Action κ η ε (Flow × Frame)}
    (rests : ∀ frame, Obeys P (rest frame)) (leave : Frame → Frame) (ended : Flow × Frame) :
    Obeys P
      (match ended.1.outward with
        | none => rest (leave ended.2)
        | some flow => Pure.pure (flow, ended.2) : Action κ η ε (Flow × Frame)) := by
  cases ended.1.outward with
  | none => exact rests _
  | some flow => exact conduct.pure _

theorem exec {callee : Invoker κ η ε} (calls : ∀ addr args, Obeys P (callee addr args))
    (fuel : Nat) (inst : Instance) (code : Code) (frame : Frame) :
    Obeys P (execBy operate callee fuel inst code frame) := by
  induction code generalizing frame with
  | done =>
    unfold execBy
    exact conduct.pure _
  | op first rest ih =>
    unfold execBy
    refine conduct.bind (conduct.step calls inst frame first) fun ended => ?_
    obtain ⟨flow, frame⟩ := ended
    dsimp only
    split
    · exact ih _
    · exact conduct.pure _
  | block type body rest ihBody ihRest =>
    unfold execBy
    cases type.signature? inst.types with
    | none => exact conduct.stop rfl
    | some sig =>
      exact conduct.bind (ihBody _) fun ended => conduct.afterBlock ihRest
        (·.leave sig.results.length (frame.stack.drop sig.params.length)) ended
  | loop type body rest ihBody ihRest =>
    unfold execBy
    cases type.signature? inst.types with
    | none => exact conduct.stop rfl
    | some sig =>
      exact conduct.bind (conduct.rounds ihBody _ _ _) fun ended => conduct.afterBlock ihRest
        (·.leave sig.results.length (frame.stack.drop sig.params.length)) ended
  | ite type yes no rest ihYes ihNo ihRest =>
    unfold execBy
    cases type.signature? inst.types with
    | none => exact conduct.stop rfl
    | some sig =>
      dsimp only
      split
      · next choice stack _ =>
        refine conduct.bind ?_ fun ended => conduct.afterBlock ihRest
          (·.leave sig.results.length (stack.drop sig.params.length)) ended
        split
        · exact ihYes _
        · exact ihNo _
      · exact conduct.stop rfl

theorem enter {callee tail : Invoker κ η ε} (calls : ∀ addr args, Obeys P (callee addr args))
    (tails : ∀ addr args, Obeys P (tail addr args)) (fuel : Nat) (type : FuncType)
    (inst : Instance) (func : Func) (args : List Value) :
    Obeys P (enterBy operate callee tail fuel type inst func args) := by
  unfold enterBy
  refine conduct.bind (conduct.exec calls _ _ _ _) fun ended => ?_
  exact conduct.bind (conduct.lastCall tails ended) fun _ => conduct.pure _

/-- Calls obey if the host functions do, given that they call only obedient code. -/
theorem invoke {host : Host κ η ε}
    (hosts : ∀ run : Invoker κ η ε, (∀ addr args, Obeys P (run addr args)) →
      ∀ name args, Obeys P (host run name args))
    (limits : Limits) (fuel room addr : Nat) (args : List Value) :
    Obeys P (invokeBy operate host limits fuel room addr args) := by
  induction fuel generalizing room addr args with
  | zero => exact conduct.stop rfl
  | succ fuel ih =>
    unfold invokeBy
    refine conduct.bind conduct.store fun store => ?_
    split
    · split
      · exact hosts _ (ih _) _ _
      · split
        · exact conduct.enter (ih _) (ih _) _ _ _ _ _
        · exact conduct.stop rfl
    · exact conduct.stop rfl

theorem forM {items : List β} {act : β → Action κ η ε Unit} (each : ∀ item, Obeys P (act item)) :
    Obeys P (items.forM act) := by
  induction items with
  | nil => exact conduct.pure _
  | cons item rest ih => exact conduct.bind (each item) fun _ => ih

theorem runStart {run : Invoker κ η ε} (calls : ∀ addr args, Obeys P (run addr args))
    (inst : Instance) (start : Option Nat) : Obeys P (runStart run inst start) := by
  unfold Wasm.runStart
  split
  · exact conduct.pure _
  · split
    · exact conduct.bind (calls _ _) fun _ => conduct.pure _
    · exact conduct.stop rfl

end Conduct

section Calls

variable {host : Host κ η ε} {limits : Limits} {fuel room addr : Nat} {func : FuncInst κ}
  {args : List Value} {m : Machine κ η} (found : m.store.funcs[addr]? = some func)

include found

theorem invoke_host {name : κ} (isHost : func.body = .host name) :
    invoke host limits (fuel + 1) room addr args m =
      host (invoke host limits fuel (room - limits.hostFrame)) name args m := by
  conv => lhs; unfold invoke
  rw [Action.bind_apply]
  dsimp only [Action.store]
  rw [found]
  dsimp only
  rw [isHost]

variable {inst : Instance} {body : Func} (isGuest : func.body = .guest inst body)

include isGuest

theorem invoke_guest (fits : limits.frame body ≤ room) :
    invoke host limits (fuel + 1) room addr args m =
      enter (invoke host limits fuel (room - limits.frame body)) (invoke host limits fuel room)
        limits.fuel func.type inst body args m := by
  conv => lhs; unfold invoke
  rw [Action.bind_apply]
  dsimp only [Action.store]
  rw [found]
  dsimp only
  rw [isGuest]
  dsimp only
  rw [if_pos fits]

theorem invoke_exhausted (full : ¬ limits.frame body ≤ room) :
    invoke host limits (fuel + 1) room addr args m =
      (.error (.trap .callStackExhausted), m) := by
  conv => lhs; unfold invoke
  rw [Action.bind_apply]
  dsimp only [Action.store]
  rw [found]
  dsimp only
  rw [isGuest]
  dsimp only
  rw [if_neg full]
  rfl

end Calls

namespace Discipline

variable {P : Machine κ η → Ending ε → Machine κ η → Prop} (discipline : Discipline P)

include discipline

/-- Calls obey the discipline if the host functions do. -/
theorem invoke {host : Host κ η ε}
    (hosts : ∀ run : Invoker κ η ε, (∀ addr args, Obeys P (run addr args)) →
      ∀ name args, Obeys P (host run name args))
    (limits : Limits) (fuel room addr : Nat) (args : List Value) :
    Obeys P (invoke host limits fuel room addr args) := by
  rw [← invokeBy_perform]
  exact discipline.toConduct.invoke hosts limits fuel room addr args

theorem writeElem (inst : Instance) (segment : ElemSegment) :
    Obeys P (writeElem inst segment : Action κ η ε Unit) := by
  unfold Wasm.writeElem
  split
  · exact discipline.pure _
  · exact discipline.pure _
  · next index offset _ =>
    intro m
    rw [Action.bind_apply]
    dsimp only [Action.store]
    cases found : inst.table? m.store index with
    | none => exact discipline.halted m rfl
    | some place =>
      obtain ⟨addr, table⟩ := place
      dsimp only
      cases done : table.write? (constIndex inst m.store offset)
          (segment.items.map (constRef inst m.store)) with
      | none => exact discipline.halted m rfl
      | some changed => exact discipline.filled found done

theorem writeData (inst : Instance) (segment : DataSegment) :
    Obeys P (writeData inst segment : Action κ η ε Unit) := by
  unfold Wasm.writeData
  split
  · exact discipline.pure _
  · next index offset _ =>
    intro m
    rw [Action.bind_apply]
    dsimp only [Action.store]
    cases found : inst.memory? m.store index with
    | none => exact discipline.halted m rfl
    | some place =>
      obtain ⟨addr, memory⟩ := place
      dsimp only
      cases done : memory.write? (constIndex inst m.store offset) segment.bytes with
      | none => exact discipline.halted m rfl
      | some changed => exact discipline.written found done

/-- Loading a module obeys the discipline, since its start function does. -/
theorem instantiate {run : Invoker κ η ε} (calls : ∀ addr args, Obeys P (run addr args))
    (m : Module) (items : List Extern) : Obeys P (instantiate run m items) := by
  unfold Wasm.instantiate
  intro first
  rw [Action.bind_apply]
  dsimp only [Action.store]
  rw [Action.bind_apply]
  dsimp only [Action.setStore]
  refine discipline.trans (discipline.allocated first m items) ?_
  generalize ({ first with store := m.allocate (m.instanceAt items first.store) first.store } :
    Machine κ η) = next
  refine discipline.bind (discipline.forM (discipline.writeElem _)) (fun _ => ?_) next
  refine discipline.bind (discipline.forM (discipline.writeData _)) fun _ => ?_
  exact discipline.bind (discipline.runStart calls _ _) fun _ => discipline.pure _

end Discipline

end FirstCall.Wasm
