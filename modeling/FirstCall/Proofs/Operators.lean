import FirstCall.Wasm.Instantiate

/-!
# The engine with other operators

The engine leaves the operators that neither branch nor call to one function. Here this function is
a parameter. With the operators of the engine, the result is the engine; with others, it tells what
the engine would do if these were its operators.
-/

namespace FirstCall.Wasm

variable {κ η ε : Type}

/-- What operators do to a frame and the store. -/
abbrev Operate (κ ε : Type) :=
  Instance → Store κ → Frame → Op → Except (Stop ε) (Frame × Store κ)

section Engine

variable (operate : Operate κ ε)

/-- Runs one operator. -/
def stepBy (callee : Invoker κ η ε) (inst : Instance) (frame : Frame) (o : Op) :
    Action κ η ε (Flow × Frame) :=
  match o, frame.stack with
  | .br label, _ => pure (.branch label, frame)
  | .brIf label, .i32 choice :: below =>
    pure (if choice ≠ 0 then .branch label else .next, frame.withStack below)
  | .brTable labels otherwise, .i32 choice :: below =>
    pure (.branch (labels.getD choice.toNat otherwise), frame.withStack below)
  | .ret, _ => pure (.ret, frame)
  | .call index, _ =>
    match inst.funcs[index]? with
    | some addr => callFrom callee addr frame
    | none => Action.stop .stuck
  | .tailCall index, _ =>
    match inst.funcs[index]? with
    | some addr => pure (.tail addr, frame)
    | none => Action.stop .stuck
  | .callIndirect type table, .i32 index :: below => do
    let addr ← Action.ofExcept (target inst (← Action.store) type table index.toNat)
    callFrom callee addr (frame.withStack below)
  | .tailCallIndirect type table, .i32 index :: below => do
    let addr ← Action.ofExcept (target inst (← Action.store) type table index.toNat)
    pure (.tail addr, frame.withStack below)
  | o, _ => do
    let (frame, store) ← Action.ofExcept (operate inst (← Action.store) frame o)
    Action.setStore store
    pure (.next, frame)

/-- Runs code to its end. -/
def execBy (callee : Invoker κ η ε) (fuel : Nat) (inst : Instance) :
    Code → Frame → Action κ η ε (Flow × Frame)
  | .done, frame => pure (.next, frame)
  | .op first rest, frame => do
    let (flow, frame) ← stepBy operate callee inst frame first
    match flow with
    | .next => execBy callee fuel inst rest frame
    | flow => pure (flow, frame)
  | .block type body rest, frame => do
    let some sig := type.signature? inst.types | Action.stop .stuck
    let below := frame.stack.drop sig.params.length
    let (flow, inner) ← execBy callee fuel inst body frame
    match flow.outward with
    | none => execBy callee fuel inst rest (inner.leave sig.results.length below)
    | some flow => pure (flow, inner)
  | .loop type body rest, frame => do
    let some sig := type.signature? inst.types | Action.stop .stuck
    let below := frame.stack.drop sig.params.length
    let (flow, inner) ← rounds (execBy callee fuel inst body)
      (fun inner => inner.leave sig.params.length below) fuel frame
    match flow.outward with
    | none => execBy callee fuel inst rest (inner.leave sig.results.length below)
    | some flow => pure (flow, inner)
  | .ite type yes no rest, frame => do
    let some sig := type.signature? inst.types | Action.stop .stuck
    let .i32 choice :: stack := frame.stack | Action.stop .stuck
    let below := stack.drop sig.params.length
    let frame := frame.withStack stack
    let (flow, inner) ←
      (if choice ≠ 0 then execBy callee fuel inst yes frame
       else execBy callee fuel inst no frame)
    match flow.outward with
    | none => execBy callee fuel inst rest (inner.leave sig.results.length below)
    | some flow => pure (flow, inner)

/-- Runs the body of a function, with calls made through `callee`, or through `tail` if they are made
in place of a return. -/
def enterBy (callee tail : Invoker κ η ε) (fuel : Nat) (type : FuncType) (inst : Instance)
    (func : Func) (args : List Value) : Action κ η ε (List Value) := do
  let ended ← execBy operate callee fuel inst func.body
    ⟨args ++ func.locals.map ValType.zero, []⟩
  let (_, frame) ← lastCall tail ended
  pure (frame.stack.take type.results.length).reverse

def invokeBy (host : Host κ η ε) (limits : Limits) : (fuel room : Nat) → Invoker κ η ε
  | 0, _, _, _ => Action.stop .unfinished
  | fuel + 1, room, addr, args => do
    let some func := (← Action.store).funcs[addr]? | Action.stop .stuck
    match func.body with
    | .host name => host (invokeBy host limits fuel (room - limits.hostFrame)) name args
    | .guest inst body =>
      if limits.frame body ≤ room then
        enterBy operate (invokeBy host limits fuel (room - limits.frame body))
          (invokeBy host limits fuel room) limits.fuel func.type inst body args
      else Action.trap .callStackExhausted

end Engine

variable {callee : Invoker κ η ε} {fuel : Nat} {inst : Instance}

theorem stepBy_perform (frame : Frame) (o : Op) :
    stepBy perform callee inst frame o = step callee inst frame o := rfl

theorem execBy_perform (code : Code) (frame : Frame) :
    execBy perform callee fuel inst code frame = exec callee fuel inst code frame := by
  induction code generalizing frame with
  | done => rfl
  | op first rest ih =>
    have same : execBy perform callee fuel inst rest = exec callee fuel inst rest :=
      funext ih
    unfold execBy exec
    rewrite [same, stepBy_perform]
    rfl
  | block type body rest ihBody ihRest =>
    have sameBody : execBy perform callee fuel inst body = exec callee fuel inst body :=
      funext ihBody
    have sameRest : execBy perform callee fuel inst rest = exec callee fuel inst rest :=
      funext ihRest
    unfold execBy exec
    rewrite [sameBody, sameRest]
    rfl
  | loop type body rest ihBody ihRest =>
    have sameBody : execBy perform callee fuel inst body = exec callee fuel inst body :=
      funext ihBody
    have sameRest : execBy perform callee fuel inst rest = exec callee fuel inst rest :=
      funext ihRest
    unfold execBy exec
    rewrite [sameBody, sameRest]
    rfl
  | ite type yes no rest ihYes ihNo ihRest =>
    have sameYes : execBy perform callee fuel inst yes = exec callee fuel inst yes :=
      funext ihYes
    have sameNo : execBy perform callee fuel inst no = exec callee fuel inst no :=
      funext ihNo
    have sameRest : execBy perform callee fuel inst rest = exec callee fuel inst rest :=
      funext ihRest
    unfold execBy exec
    rewrite [sameYes, sameNo, sameRest]
    rfl

theorem enterBy_perform (tail : Invoker κ η ε) :
    enterBy perform callee tail fuel = enter callee tail fuel := by
  funext type inst func args
  unfold enterBy enter
  rw [execBy_perform]

/-- With the operators of the engine, it is the engine. -/
theorem invokeBy_perform (host : Host κ η ε) (limits : Limits) (fuel room : Nat) :
    invokeBy perform host limits fuel room = invoke host limits fuel room := by
  induction fuel generalizing room with
  | zero => rfl
  | succ fuel ih =>
    funext addr args
    unfold invokeBy invoke
    simp only [ih, enterBy_perform] <;> rfl

end FirstCall.Wasm
