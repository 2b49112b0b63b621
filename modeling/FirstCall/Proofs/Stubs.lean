import FirstCall.Proofs.Course

/-!
# Stubs

The skeleton holds a stub in every slot: code that calls the compile trigger with the number of its
slot, drops the answer, and calls the function in the slot with the arguments that it got. A call of
a stub comes to that function and answers what the function answers.
-/

namespace FirstCall

open Wasm

namespace Stub

/-- Code that leaves so many locals on the stack, from the given one on. -/
def locals : (first count : Nat) → Code → Code
  | _, 0, rest => rest
  | first, count + 1, rest => .op (.localGet first) (locals (first + 1) count rest)

/-- The code of a stub, with the indices of the trigger, of its own type and of the shared table. -/
def code (i : FuncId) (trigger type table count : Nat) : Code :=
  .op (.const32 i.number) <| .op (.call trigger) <| .op .drop <| locals 0 count <|
    .op (.const32 i.number) <| .op (.callIndirect type table) .done

end Stub

structure IsStub (shared : Nat) (i : FuncId) (func : FuncInst HostFunc) : Prop where
  code : ∃ inst body trigger type table, func.body = .guest inst body ∧
    inst.funcs[trigger]? = some triggerAddr ∧ inst.types[type]? = some func.type ∧
    inst.tables[table]? = some shared ∧
    body.body = Stub.code i trigger type table func.type.params.length

section Exec

variable {κ η ε : Type} {callee : Invoker κ η ε} {fuel : Nat} {inst : Instance}
  {m m' : Machine κ η} {frame : Frame}

theorem exec_op_next {o : Op} {next : Frame}
    (ran : step callee inst frame o m = (.ok (.next, next), m')) (rest : Code) :
    exec callee fuel inst (.op o rest) frame m = exec callee fuel inst rest next m' := by
  conv => lhs; unfold exec
  rw [Action.bind_of_ok ran]

theorem exec_op_error {o : Op} {why : Stop ε}
    (ran : step callee inst frame o m = (.error why, m')) (rest : Code) :
    exec callee fuel inst (.op o rest) frame m = (.error why, m') := by
  unfold exec
  rw [Action.bind_of_error ran]

theorem exec_const (value : UInt32) (locals stack : List Value) (rest : Code) :
    exec callee fuel inst (.op (.const32 value) rest) ⟨locals, stack⟩ m =
      exec callee fuel inst rest ⟨locals, .i32 value :: stack⟩ m := exec_op_next rfl rest

theorem exec_drop (value : Value) (locals stack : List Value) (rest : Code) :
    exec callee fuel inst (.op .drop rest) ⟨locals, value :: stack⟩ m =
      exec callee fuel inst rest ⟨locals, stack⟩ m := exec_op_next rfl rest

theorem operator_ok {o : Op} {next : Frame} {store : Store κ}
    (done : (perform inst m.store frame o : Except (Stop ε) (Frame × Store κ)) =
      .ok (next, store)) :
    (do
      let (frame, store) ← Action.ofExcept (perform inst (← Action.store) frame o)
      Action.setStore store
      pure (Flow.next, frame) : Action κ η ε (Flow × Frame)) m =
        (.ok (.next, next), { m with store }) := by
  rw [Action.bind_apply]
  dsimp only [Action.store]
  rw [Action.bind_apply, done]
  rfl

theorem exec_locals (first count : Nat) (rest : Code)
    (inside : first + count ≤ frame.locals.length) :
    exec callee fuel inst (Stub.locals first count rest) frame m =
      exec callee fuel inst rest
        (frame.withStack (((frame.locals.drop first).take count).reverse ++ frame.stack)) m := by
  induction count generalizing first frame with
  | zero => rfl
  | succ count ih =>
    have below : first < frame.locals.length := by omega
    have read : step callee inst frame (.localGet first) m =
        ((.ok (.next, frame.withStack (frame.locals[first] :: frame.stack)), m) :
          Except (Stop ε) (Flow × Frame) × Machine κ η) := by
      have done : (perform inst m.store frame (.localGet first) :
          Except (Stop ε) (Frame × Store κ)) =
            .ok (frame.withStack (frame.locals[first] :: frame.stack), m.store) := by
        unfold perform
        dsimp only
        rw [List.getElem?_eq_getElem below]
      exact operator_ok done
    unfold Stub.locals
    rw [exec_op_next read, ih]
    · congr 1
      rw [List.drop_eq_getElem_cons below, List.take_succ_cons, List.reverse_cons,
        List.append_assoc]
      rfl
    · change first + 1 + count ≤ frame.locals.length
      omega

theorem length_of_enter {tail : Invoker κ η ε} {type : FuncType} {func : Func}
    {args results : List Value}
    (ran : enter callee tail fuel type inst func args m = (.ok results, m')) :
    results.length ≤ type.results.length := by
  unfold enter at ran
  obtain ⟨_, _, _, ran⟩ := Action.bind_ok ran
  obtain ⟨_, _, _, same⟩ := Action.bind_ok ran
  obtain rfl := Except.ok.inj (Prod.mk.inj same).1
  rw [List.length_reverse, List.length_take]
  exact Nat.min_le_left _ _

theorem length_of_invoke {host : Host κ η ε} {limits : Limits} {room addr : Nat}
    {type : FuncType} {func : Func} {args results : List Value}
    (found : m.store.funcs[addr]? = some ⟨type, .guest inst func⟩)
    (ran : invoke host limits fuel room addr args m = (.ok results, m')) :
    results.length ≤ type.results.length := by
  cases fuel with
  | zero => cases ran
  | succ fuel =>
    by_cases fits : limits.frame func ≤ room
    · rw [invoke_guest found rfl fits] at ran
      exact length_of_enter ran
    · rw [invoke_exhausted found rfl fits] at ran
      cases ran

theorem callFrom_apply {addr : Nat} {func : FuncInst κ} (args below : List Value)
    (found : m.store.funcs[addr]? = some func) (count : args.length = func.type.params.length)
    (stack : frame.stack = args.reverse ++ below) :
    callFrom callee addr frame m =
      match callee addr args m with
      | (.ok results, m) => (.ok (.next, frame.withStack (results.reverse ++ below)), m)
      | (.error why, m) => (.error why, m) := by
  have length : args.reverse.length = func.type.params.length := by
    rw [List.length_reverse, count]
  unfold callFrom
  rw [Action.bind_apply]
  dsimp only [Action.store]
  rw [found]
  dsimp only
  rw [stack, if_pos (by simp [count]), ← length, List.take_left, List.drop_left,
    List.reverse_reverse, Action.bind_apply]
  cases callee addr args m with
  | mk result after => cases result <;> rfl

theorem step_call {index addr : Nat} (found : inst.funcs[index]? = some addr) :
    step callee inst frame (.call index) m = callFrom callee addr frame m := by
  unfold step
  dsimp only
  rw [found]

theorem step_callIndirect {type table addr : Nat} {index : UInt32} {locals below : List Value}
    (reached : (target inst m.store type table index.toNat : Except (Stop ε) Nat) = .ok addr) :
    step callee inst ⟨locals, .i32 index :: below⟩ (.callIndirect type table) m =
      callFrom callee addr ⟨locals, below⟩ m := by
  unfold step
  dsimp only
  rw [Action.bind_apply]
  dsimp only [Action.store]
  rw [Action.bind_apply, reached]
  rfl

/-- An indirect call reaches the function in the slot if that has the type it asks for. -/
theorem target_of_slot {store : Store κ} {type table shared index addr : Nat} {entries : Table}
    {func : FuncInst κ} (atTable : inst.tables[table]? = some shared)
    (shares : store.tables[shared]? = some entries)
    (slot : entries.entries[index]? = some (.func addr)) (reached : store.funcs[addr]? = some func)
    (typed : inst.types[type]? = some func.type) :
    (target inst store type table index : Except (Stop ε) Nat) = .ok addr := by
  have inTable : inst.table? store table = some (shared, entries) := by
    simp [Instance.table?, atTable, shares]
  unfold target
  rw [inTable, typed]
  dsimp only
  rw [slot]
  dsimp only
  rw [reached]
  exact if_pos rfl

theorem exec_arguments (args more : List Value) (rest : Code) :
    exec callee fuel inst (Stub.locals 0 args.length rest) ⟨args ++ more, []⟩ m =
      exec callee fuel inst rest ⟨args ++ more, args.reverse⟩ m := by
  have reads : ((args ++ more).drop 0).take args.length = args := by
    rw [List.drop_zero, List.take_left]
  rw [exec_locals _ _ _ (by simp)]
  dsimp only
  rw [reads, List.append_nil]
  rfl

end Exec

section Run

variable {η ε : Type} {host : Host HostFunc η ε} {limits : Limits} {fuel room shared a : Nat}
  {i : FuncId} {func : FuncInst HostFunc} {inst : Instance} {body : Func}
  {m m' : Machine HostFunc η} {args : List Value}
  (stub : IsStub shared i func) (found : m.store.funcs[a]? = some func)
  (isGuest : func.body = .guest inst body) (fits : limits.frame body ≤ room)
  (trigger : m.store.funcs[triggerAddr]? = some ⟨HostFunc.type, .host .compileTrigger⟩)
  (count : args.length = func.type.params.length)

include stub found isGuest fits trigger

/-- Where the trigger stops, so does the stub. -/
theorem stub_stops {why : Stop ε}
    (stopped : invoke host limits fuel (room - limits.frame body) triggerAddr [.i32 i.number] m =
      (.error why, m')) :
    invoke host limits (fuel + 1) room a args m = (.error why, m') := by
  obtain ⟨_, _, index, type, table, same, atTrigger, _, _, isCode⟩ := stub.code
  cases same.symm.trans isGuest
  have called : step (invoke host limits fuel (room - limits.frame body)) inst
      ⟨args ++ body.locals.map ValType.zero, [.i32 i.number]⟩ (.call index) m =
        (.error why, m') := by
    rw [step_call atTrigger, callFrom_apply [.i32 i.number] [] trigger rfl rfl, stopped]
  rw [invoke_guest found isGuest fits]
  unfold enter
  rw [Action.bind_apply, isCode]
  unfold Stub.code
  rw [exec_const, exec_op_error called]

include count

/-- Where the trigger answers, the stub does what the function does that is then in the slot. -/
theorem stub_goes_on {value : Value} {entries : Table} {b : Nat} {target : FuncInst HostFunc}
    (answered : invoke host limits fuel (room - limits.frame body) triggerAddr [.i32 i.number] m =
      (.ok [value], m'))
    (shares : m'.store.tables[shared]? = some entries)
    (slot : entries.entries[i.slot]? = some (.func b))
    (reached : m'.store.funcs[b]? = some target) (same : target.type = func.type)
    (few : ∀ {results last},
      invoke host limits fuel (room - limits.frame body) b args m' = (.ok results, last) →
        results.length ≤ func.type.results.length) :
    invoke host limits (fuel + 1) room a args m =
      invoke host limits fuel (room - limits.frame body) b args m' := by
  obtain ⟨_, _, index, type, table, sameBody, atTrigger, ofType, atTable, isCode⟩ := stub.code
  cases sameBody.symm.trans isGuest
  have called : step (invoke host limits fuel (room - limits.frame body)) inst
      ⟨args ++ body.locals.map ValType.zero, [.i32 i.number]⟩ (.call index) m =
        (.ok (.next, ⟨args ++ body.locals.map ValType.zero, [value]⟩), m') := by
    rw [step_call atTrigger, callFrom_apply [.i32 i.number] [] trigger rfl rfl, answered]
    rfl
  have indirect : step (invoke host limits fuel (room - limits.frame body)) inst
      ⟨args ++ body.locals.map ValType.zero, .i32 i.number :: args.reverse⟩
        (.callIndirect type table) m' =
      callFrom (invoke host limits fuel (room - limits.frame body)) b
        ⟨args ++ body.locals.map ValType.zero, args.reverse⟩ m' :=
    step_callIndirect (target_of_slot atTable shares slot reached (same ▸ ofType))
  rw [callFrom_apply args [] reached (same ▸ count) (List.append_nil _).symm] at indirect
  rw [invoke_guest found isGuest fits]
  unfold enter
  rw [Action.bind_apply, isCode]
  unfold Stub.code
  rw [exec_const, exec_op_next called, exec_drop, ← count, exec_arguments, exec_const]
  cases ran : invoke host limits fuel (room - limits.frame body) b args m' with
  | mk result last =>
    rw [ran] at indirect
    cases result with
    | error why => rw [exec_op_error indirect]
    | ok results =>
      rw [exec_op_next indirect]
      have all : (results.reverse ++ []).take func.type.results.length = results.reverse := by
        rw [List.append_nil]
        exact List.take_of_length_le (by rw [List.length_reverse]; exact few ran)
      change (Except.ok ((results.reverse ++ []).take func.type.results.length).reverse, last) = _
      rw [all, List.reverse_reverse]

end Run

end FirstCall
