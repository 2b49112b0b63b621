import FirstCall.Proofs.Guest
import FirstCall.Proofs.LinkedOperators

/-!
# Agreement

The same code runs on two machines whose stores are linked. The runs agree if both end alike, with
linked answers, on machines that are linked again, perhaps by more links than before. Running out of
stack or of steps excuses one side: which side, and how much the two have, is a parameter here. Code
agrees with itself as soon as the functions that it calls agree. If both sides have the same, and no
call on one side stands for two on the other, neither side needs an excuse.
-/

namespace FirstCall.Wasm

variable {κ η ε α β : Type}

/-- The code took all of the stack, or more steps than were looked at. -/
def Spent (ended : Ending ε) : Prop :=
  ended = .error (.trap .callStackExhausted) ∨ ended = .error .unfinished

/-- The side of a comparison that may run out of stack or steps. -/
inductive Side where
  | left
  | right
  | neither
  deriving DecidableEq, Repr

namespace Side

/-- The run on this side ran out of stack or steps. -/
def Exhausted : Side → Ending ε → Ending ε → Prop
  | .left, ended, _ => Spent ended
  | .right, _, ended => Spent ended
  | .neither, _, _ => False

/-- How many steps and how much stack the two sides have if only this side may run out of them. Where
the right side makes one call, the left one may make two, of which one takes up to `extra` bytes. On
the right, code that is left without stack makes no call at all. -/
def Enough (extra : Nat) : Side → (fuel room other otherRoom : Nat) → Prop
  | .left, fuel, room, other, otherRoom => fuel ≤ other ∧ room ≤ otherRoom
  | .right, fuel, room, other, otherRoom =>
    2 * other ≤ fuel ∧ (otherRoom = 0 ∨ otherRoom + extra * other ≤ room)
  | .neither, fuel, room, other, otherRoom => fuel = other ∧ room = otherRoom

/-- How many rounds of a loop are looked at on the two sides. -/
def Lasts : Side → Nat → Nat → Prop
  | .left, rounds, others => rounds ≤ others
  | .right, rounds, others => others ≤ rounds
  | .neither, rounds, others => rounds = others

theorem Lasts.fewer {side : Side} {rounds others : Nat}
    (lasts : side.Lasts (rounds + 1) (others + 1)) : side.Lasts rounds others := by
  cases side with
  | left => exact Nat.le_of_succ_le_succ lasts
  | right => exact Nat.le_of_succ_le_succ lasts
  | neither => exact Nat.succ.inj lasts

/-- Calls take the same stack on both sides, and loops are followed far enough on the side that may
not run out of steps. -/
structure Suits (side : Side) (limits others : Limits) : Prop where
  frame : others.frame = limits.frame
  hostFrame : others.hostFrame = limits.hostFrame
  rounds : side.Lasts limits.fuel others.fuel

theorem Suits.refl (side : Side) (limits : Limits) : side.Suits limits limits where
  frame := rfl
  hostFrame := rfl
  rounds := by
    cases side with
    | left => exact Nat.le_refl _
    | right => exact Nat.le_refl _
    | neither => rfl

namespace Enough

variable {extra : Nat} {side : Side} {fuel room other otherRoom : Nat}

theorem step (enough : side.Enough extra (fuel + 1) room (other + 1) otherRoom) :
    side.Enough extra fuel room other otherRoom := by
  cases side with
  | left => exact ⟨Nat.le_of_succ_le_succ enough.1, enough.2⟩
  | right =>
    obtain ⟨steps, stack⟩ := enough
    rw [Nat.mul_succ] at stack
    exact ⟨by omega, by omega⟩
  | neither => exact ⟨Nat.succ.inj enough.1, enough.2⟩

theorem take (enough : side.Enough extra fuel room other otherRoom) (bytes : Nat) :
    side.Enough extra fuel (room - bytes) other (otherRoom - bytes) := by
  cases side with
  | left => exact ⟨enough.1, Nat.sub_le_sub_right enough.2 bytes⟩
  | right =>
    obtain ⟨steps, stack⟩ := enough
    exact ⟨steps, by omega⟩
  | neither => exact ⟨enough.1, congrArg (· - bytes) enough.2⟩

/-- A call fits on both sides or on neither, unless the side is excused. -/
theorem fits (enough : side.Enough extra fuel room other otherRoom) (bytes : Nat) :
    side = .left ∧ ¬ bytes ≤ room ∨ side = .right ∧ ¬ bytes ≤ otherRoom ∨
      (bytes ≤ room ↔ bytes ≤ otherRoom) := by
  cases side with
  | left =>
    have := enough.2
    by_cases fit : bytes ≤ room
    · exact .inr (.inr (by omega))
    · exact .inl ⟨rfl, fit⟩
  | right =>
    have := enough.2
    by_cases fit : bytes ≤ otherRoom
    · exact .inr (.inr (by omega))
    · exact .inr (.inl ⟨rfl, fit⟩)
  | neither => exact .inr (.inr (by rw [enough.2]))

/-- The left side may make one more call than the right side. -/
theorem second (enough : side.Enough extra (fuel + 2) room (other + 1) otherRoom)
    (lopsided : side ≠ .neither) {bytes : Nat} (few : side = .right → bytes ≤ extra) :
    side.Enough extra fuel (room - bytes) other otherRoom := by
  cases side with
  | left =>
    obtain ⟨steps, stack⟩ := enough
    exact ⟨by omega, by omega⟩
  | right =>
    have few := few rfl
    obtain ⟨steps, stack⟩ := enough
    rw [Nat.mul_succ] at stack
    exact ⟨by omega, by omega⟩
  | neither => exact absurd rfl lopsided

/-- There is stack for one more call on the left, or none at all on the side that is excused. -/
theorem room_left (enough : side.Enough extra fuel room (other + 1) otherRoom)
    (lopsided : side ≠ .neither) {bytes : Nat} (few : side = .right → bytes ≤ extra) :
    side = .left ∧ ¬ bytes ≤ room ∨ side = .right ∧ otherRoom = 0 ∨ bytes ≤ room := by
  cases side with
  | left =>
    by_cases fit : bytes ≤ room
    · exact .inr (.inr fit)
    · exact .inl ⟨rfl, fit⟩
  | right =>
    have few := few rfl
    obtain ⟨_, none | stack⟩ := enough
    · exact .inr (.inl ⟨rfl, none⟩)
    · rw [Nat.mul_succ] at stack
      exact .inr (.inr (by omega))
  | neither => exact absurd rfl lopsided

end Enough

end Side

/-- Both sides answer, and the answers are related, or both stop for the same reason. -/
inductive Together (Q : α → β → Prop) : Except (Stop ε) α → Except (Stop ε) β → Prop where
  | ok {v : α} {w : β} (related : Q v w) : Together Q (.ok v) (.ok w)
  | error (why : Stop ε) : Together Q (.error why) (.error why)

section Agree

variable (R : Links → Machine κ η → Machine κ η → Prop) (side : Side)

/-- The outcomes of two runs agree: one side is excused, or both ended together. -/
def Agrees (links : Links) (Q : Links → α → α → Prop)
    (first second : Except (Stop ε) α × Machine κ η) : Prop :=
  side.Exhausted (ending first.1) (ending second.1) ∨
    ∃ more, links ≤ more ∧ R more first.2 second.2 ∧ Together (Q more) first.1 second.1

/-- Two actions whose runs agree on all related machines. -/
def Agree (links : Links) (Q : Links → α → α → Prop) (first second : Action κ η ε α) : Prop :=
  ∀ m m', R links m m' → Agrees R side links Q (first m) (second m')

/-- Calls of linked functions agree, if they get as many arguments as they take. -/
def CallsAgree (callee other : Invoker κ η ε) : Prop :=
  ∀ ⦃links m m' a b f args others⦄, R links m m' → links.funcs a b → m.store.funcs[a]? = some f →
    args.length = f.type.params.length → Values links args others →
    Agrees R side links Values (callee a args m) (other b others m')

/-- Linked functions of the host agree, if the calls that they make do. -/
def HostsAgree (host : Host κ η ε) : Prop :=
  ∀ ⦃callee other⦄, CallsAgree R side callee other →
    ∀ ⦃links m m' a b type name args others⦄, R links m m' → links.funcs a b →
      m.store.funcs[a]? = some ⟨type, .host name⟩ → Values links args others →
      Agrees R side links Values (host callee name args m) (host other name others m')

end Agree

/-- Functions with the same code, in linked instances, or the same function of the host. -/
inductive FuncInst.Twin (links : Links) (kept : Nat → Prop) : FuncInst κ → FuncInst κ → Prop where
  | host (type : FuncType) (name : κ) : Twin links kept ⟨type, .host name⟩ ⟨type, .host name⟩
  | guest (type : FuncType) {inst twin : Instance} {func : Func} (insts : inst.Linked links twin)
      (safe : ∀ o ∈ func.body.ops, o.Safe kept inst) :
      Twin links kept ⟨type, .guest inst func⟩ ⟨type, .guest twin func⟩

theorem FuncInst.Twin.mono {links more : Links} (le : links ≤ more) {kept : Nat → Prop}
    {f g : FuncInst κ} (twin : f.Twin links kept g) : f.Twin more kept g := by
  cases twin with
  | host type name => exact .host type name
  | guest type insts safe => exact .guest type (insts.mono le) safe

/-- A relation between machines with linked stores that outlasts every change of linked items. -/
structure Outlasting (R : Links → Machine κ η → Machine κ η → Prop) (kept : Nat → Prop) : Prop where
  stores : ∀ {links m m'}, R links m m' → m.store.Linked links m'.store
  moved : ∀ {links m m' s t}, R links m m' → Store.Moved links kept m.store m'.store s t →
    R links { m with store := s } { m' with store := t }

section

variable {R : Links → Machine κ η → Machine κ η → Prop} {side : Side} {links : Links}
  {Q : Links → α → α → Prop} {m m' : Machine κ η}

theorem Agrees.answer (rel : R links m m') {v w : α} (related : Q links v w) :
    Agrees R side links Q ((.ok v, m) : Except (Stop ε) α × Machine κ η) (.ok w, m') :=
  .inr ⟨links, links.le_refl, rel, .ok related⟩

theorem Agrees.stop (rel : R links m m') (why : Stop ε) :
    Agrees R side links Q ((.error why, m) : Except (Stop ε) α × Machine κ η) (.error why, m') :=
  .inr ⟨links, links.le_refl, rel, .error why⟩

theorem Agrees.weaken {more : Links} {first second : Except (Stop ε) α × Machine κ η}
    (le : links ≤ more) (agrees : Agrees R side more Q first second) :
    Agrees R side links Q first second := by
  rcases agrees with out | ⟨last, further, rel, ends⟩
  · exact .inl out
  · exact .inr ⟨last, links.le_trans le further, rel, ends⟩

theorem Agrees.bind {first second : Action κ η ε α} {next other : α → Action κ η ε β}
    {P : Links → β → β → Prop} (head : Agrees R side links Q (first m) (second m'))
    (tail : ∀ {more v w}, links ≤ more → Q more v w → Agree R side more P (next v) (other w)) :
    Agrees R side links P ((first >>= next) m) ((second >>= other) m') := by
  rw [Action.bind_apply, Action.bind_apply]
  rcases head with out | ⟨more, le, rel, ends⟩
  · left
    cases side with
    | left =>
      cases ran : first m with
      | mk result after =>
        rw [ran] at out
        cases result with
        | ok value => rcases out with out | out <;> cases out
        | error why => exact out
    | right =>
      cases ran : second m' with
      | mk result after =>
        rw [ran] at out
        cases result with
        | ok value => rcases out with out | out <;> cases out
        | error why => exact out
    | neither => exact out
  · cases ranLeft : first m with
    | mk result after =>
      cases ranRight : second m' with
      | mk result' after' =>
        rw [ranLeft, ranRight] at ends rel
        dsimp only at ends rel
        cases ends with
        | ok related => exact (tail le related _ _ rel).weaken le
        | error why => exact .inr ⟨more, le, rel, .error why⟩

/-- Code ended alike, perhaps with calls of linked functions. -/
inductive Flow.Linked (links : Links) : Flow → Flow → Prop where
  | next : Linked links .next .next
  | branch (label : Nat) : Linked links (.branch label) (.branch label)
  | ret : Linked links .ret .ret
  | tail {a b : Nat} (place : links.funcs a b) : Linked links (.tail a) (.tail b)

theorem Flow.Linked.outward {flow other : Flow} (linked : flow.Linked links other) :
    Option.Rel (Flow.Linked links) flow.outward other.outward := by
  cases linked with
  | next => exact .none
  | branch label =>
    cases label with
    | zero => exact .none
    | succ label => exact .some (.branch label)
  | ret => exact .some .ret
  | tail place => exact .some (.tail place)

/-- Code ended alike, on linked frames. -/
def Ended (links : Links) (x y : Flow × Frame) : Prop :=
  x.1.Linked links y.1 ∧ x.2.Linked links y.2

theorem Ended.outcome (rel : R links m m') {flow other : Flow} (flows : flow.Linked links other)
    {f g : Frame} (frames : f.Linked links g) :
    Agrees R side links Ended ((.ok (flow, f), m) : Except (Stop ε) (Flow × Frame) × Machine κ η)
      (.ok (other, g), m') :=
  Agrees.answer rel ⟨flows, frames⟩

theorem Frame.Linked.leave {f g : Frame} {below others : List Value} (frames : f.Linked links g)
    (same : Values links below others) (results : Nat) :
    (f.leave results below).Linked links (g.leave results others) :=
  ⟨frames.locals, List.rel_append (List.forall₂_take _ frames.stack) same⟩

theorem Agrees.block {body twin : Action κ η ε (Flow × Frame)}
    {rest other : Frame → Action κ η ε (Flow × Frame)}
    (head : Agrees R side links Ended (body m) (twin m'))
    (tail : ∀ {more f g}, links ≤ more → f.Linked more g →
      Agree R side more Ended (rest f) (other g)) :
    Agrees R side links Ended
      ((do
        let (flow, inner) ← body
        match flow.outward with
        | none => rest inner
        | some flow => pure (flow, inner)) m)
      ((do
        let (flow, inner) ← twin
        match flow.outward with
        | none => other inner
        | some flow => pure (flow, inner)) m') := by
  refine Agrees.bind head fun {more x y} le ended => ?_
  obtain ⟨flow, f⟩ := x
  obtain ⟨other, g⟩ := y
  obtain ⟨flows, frames⟩ := ended
  dsimp only at flows frames ⊢
  intro m m' rel
  obtain ⟨left, right⟩ | ⟨out, too, left, right, flows⟩ := option_rel_cases flows.outward
  · rw [left, right]
    exact tail le frames _ _ rel
  · rw [left, right]
    exact Ended.outcome rel flows frames

end

section Exec

variable {R : Links → Machine κ η → Machine κ η → Prop} {kept : Nat → Prop} {side : Side}
  (lasting : Outlasting R kept) {callee other : Invoker κ η ε}
  (calls : CallsAgree R side callee other)

include lasting

theorem operator_agrees {links : Links} {inst twin : Instance} {f g : Frame} {o : Op}
    (insts : inst.Linked links twin) (frames : f.Linked links g) (safe : o.Safe kept inst) :
    Agree R side links Ended
      (do
        let (frame, store) ← Action.ofExcept (perform inst (← Action.store) f o)
        Action.setStore store
        pure (Flow.next, frame) : Action κ η ε (Flow × Frame))
      (do
        let (frame, store) ← Action.ofExcept (perform twin (← Action.store) g o)
        Action.setStore store
        pure (Flow.next, frame)) := by
  intro m m' rel
  have done := perform_linked (ε := ε) insts (lasting.stores rel) frames safe
  rw [Action.bind_apply, Action.bind_apply]
  dsimp only [Action.store]
  rw [Action.bind_apply, Action.bind_apply]
  cases ranLeft : (perform inst m.store f o : Except (Stop ε) (Frame × Store κ)) with
  | error why =>
    rw [ranLeft] at done
    cases ranRight : (perform twin m'.store g o : Except (Stop ε) (Frame × Store κ)) with
    | error other =>
      rw [ranRight] at done
      cases done
      exact Agrees.stop rel _
    | ok after =>
      rw [ranRight] at done
      cases done
  | ok after =>
    rw [ranLeft] at done
    cases ranRight : (perform twin m'.store g o : Except (Stop ε) (Frame × Store κ)) with
    | error other =>
      rw [ranRight] at done
      cases done
    | ok other =>
      rw [ranRight] at done
      cases done with
      | ok frames moved => exact Ended.outcome (lasting.moved rel moved) .next frames

include calls

theorem callFrom_agrees {links : Links} {a b : Nat} {f g : Frame} (place : links.funcs a b)
    (frames : f.Linked links g) :
    Agree R side links Ended (callFrom callee a f) (callFrom other b g) := by
  intro m m' rel
  obtain ⟨func, twin, atA, atB, types⟩ := (lasting.stores rel).funcs place
  unfold callFrom
  rw [Action.bind_apply, Action.bind_apply]
  dsimp only [Action.store]
  rw [atA, atB]
  dsimp only
  rw [← types, ← frames.stack.length_eq]
  split
  · next enough =>
    have args := List.rel_reverse (List.forall₂_take func.type.params.length frames.stack)
    have count : (f.stack.take func.type.params.length).reverse.length =
        func.type.params.length := by
      rw [List.length_reverse, List.length_take, Nat.min_eq_left enough]
    refine Agrees.bind (calls rel place atA count args) fun le results => ?_
    intro m m' rel
    have below := List.forall₂_drop func.type.params.length frames.stack
    exact Ended.outcome rel .next
      ⟨Values.mono le frames.locals,
        List.rel_append (List.rel_reverse results) (Values.mono le below)⟩
  · exact Agrees.stop rel _

theorem lastCall_agrees {links : Links} {x y : Flow × Frame} (ended : Ended links x y) :
    Agree R side links Ended (lastCall callee x) (lastCall other y) := by
  intro m m' rel
  obtain ⟨flow, f⟩ := x
  obtain ⟨flow', g⟩ := y
  obtain ⟨flows, frames⟩ := ended
  dsimp only at flows frames
  cases flows with
  | tail place => exact callFrom_agrees lasting calls place frames _ _ rel
  | next => exact Ended.outcome rel .next frames
  | branch label => exact Ended.outcome rel (.branch label) frames
  | ret => exact Ended.outcome rel .ret frames

section Reached

variable {links : Links} {inst twin : Instance} {next again : Nat → Action κ η ε (Flow × Frame)}
  (insts : inst.Linked links twin)
  (reached : ∀ {a b}, links.funcs a b → Agree R side links Ended (next a) (again b))

omit lasting calls
include insts reached

/-- What goes on alike with linked functions goes on alike with those that an index stands for. -/
theorem index_agrees (index : Nat) :
    Agree R side links Ended
      (match inst.funcs[index]? with
        | some addr => next addr
        | none => Action.stop .stuck)
      (match twin.funcs[index]? with
        | some addr => again addr
        | none => Action.stop .stuck) := by
  intro m m' rel
  obtain ⟨left, right⟩ | ⟨a, b, left, right, place⟩ := option_rel_cases (insts.funcs index)
  · simp only [left, right]
    exact Agrees.stop rel _
  · simp only [left, right]
    exact reached place _ _ rel

include lasting

/-- What goes on alike with linked functions goes on alike with those that a table leads to. -/
theorem target_agrees (type table index : Nat) :
    Agree R side links Ended
      (do
        let addr ← Action.ofExcept (target inst (← Action.store) type table index)
        next addr)
      (do
        let addr ← Action.ofExcept (target twin (← Action.store) type table index)
        again addr) := by
  intro m m' rel
  rw [Action.bind_apply, Action.bind_apply]
  dsimp only [Action.store]
  rw [Action.bind_apply, Action.bind_apply]
  obtain ⟨why, left, right⟩ | ⟨a, b, left, right, place⟩ :=
    target_linked (ε := ε) insts (lasting.stores rel) type table index
  · rw [left, right]
    exact Agrees.stop rel why
  · rw [left, right]
    exact reached place _ _ rel

end Reached

theorem step_agrees {links : Links} {inst twin : Instance} {f g : Frame} {o : Op}
    (insts : inst.Linked links twin) (frames : f.Linked links g) (safe : o.Safe kept inst) :
    Agree R side links Ended (step callee inst f o) (step other twin g o) := by
  obtain ⟨locals, stack⟩ := f
  obtain ⟨others, below⟩ := g
  obtain ⟨sameLocals, sameStack⟩ := frames
  dsimp only at sameLocals sameStack
  cases o with
  | br label =>
    intro m m' rel
    exact Ended.outcome rel (.branch label) ⟨sameLocals, sameStack⟩
  | brTable labels otherwise =>
    cases sameStack with
    | nil => exact operator_agrees lasting insts ⟨sameLocals, .nil⟩ safe
    | cons head below =>
      have whole : Frame.Linked links ⟨locals, _ :: _⟩ ⟨others, _ :: _⟩ :=
        ⟨sameLocals, .cons head below⟩
      cases head with
      | i32 choice =>
        intro m m' rel
        exact Ended.outcome rel (.branch _) ⟨sameLocals, below⟩
      | _ => exact operator_agrees lasting insts whole safe
  | ret =>
    intro m m' rel
    exact Ended.outcome rel .ret ⟨sameLocals, sameStack⟩
  | brIf label =>
    cases sameStack with
    | nil => exact operator_agrees lasting insts ⟨sameLocals, .nil⟩ safe
    | cons head below =>
      have whole : Frame.Linked links ⟨locals, _ :: _⟩ ⟨others, _ :: _⟩ :=
        ⟨sameLocals, .cons head below⟩
      cases head with
      | i32 choice =>
        intro m m' rel
        refine Ended.outcome rel ?_ ⟨sameLocals, below⟩
        split
        · exact .branch label
        · exact .next
      | _ => exact operator_agrees lasting insts whole safe
  | call index =>
    refine index_agrees insts (fun place => ?_) index
    exact callFrom_agrees lasting calls place ⟨sameLocals, sameStack⟩
  | tailCall index =>
    refine index_agrees insts (fun place m m' rel => ?_) index
    exact Ended.outcome rel (.tail place) ⟨sameLocals, sameStack⟩
  | tailCallIndirect type table =>
    cases sameStack with
    | nil => exact operator_agrees lasting insts ⟨sameLocals, .nil⟩ safe
    | cons head below =>
      have whole : Frame.Linked links ⟨locals, _ :: _⟩ ⟨others, _ :: _⟩ :=
        ⟨sameLocals, .cons head below⟩
      cases head with
      | i32 index =>
        refine target_agrees lasting insts (fun place m m' rel => ?_) type table index.toNat
        exact Ended.outcome rel (.tail place) ⟨sameLocals, below⟩
      | _ => exact operator_agrees lasting insts whole safe
  | callIndirect type table =>
    cases sameStack with
    | nil => exact operator_agrees lasting insts ⟨sameLocals, .nil⟩ safe
    | cons head below =>
      have whole : Frame.Linked links ⟨locals, _ :: _⟩ ⟨others, _ :: _⟩ :=
        ⟨sameLocals, .cons head below⟩
      cases head with
      | i32 index =>
        refine target_agrees lasting insts (fun place => ?_) type table index.toNat
        exact callFrom_agrees lasting calls place ⟨sameLocals, below⟩
      | _ => exact operator_agrees lasting insts whole safe
  | _ => exact operator_agrees lasting insts ⟨sameLocals, sameStack⟩ safe

omit lasting calls

theorem rounds_agree {links : Links} {body twin : Frame → Action κ η ε (Flow × Frame)}
    {restart again : Frame → Frame}
    (bodies : ∀ {more f g}, links ≤ more → f.Linked more g →
      Agree R side more Ended (body f) (twin g))
    (restarts : ∀ {more f g}, links ≤ more → f.Linked more g → (restart f).Linked more (again g))
    {left right : Nat} (lasts : side.Lasts left right)
    {more : Links} {f g : Frame} (le : links ≤ more) (frames : f.Linked more g) :
    Agree R side more Ended (rounds body restart left f) (rounds twin again right g) := by
  induction left generalizing right more f g with
  | zero =>
    intro m m' rel
    cases right with
    | zero => exact Agrees.stop rel .unfinished
    | succ right =>
      cases side with
      | left => exact .inl (.inr rfl)
      | right => cases lasts
      | neither => cases lasts
  | succ left ih =>
    intro m m' rel
    cases right with
    | zero =>
      cases side with
      | left => cases lasts
      | right => exact .inl (.inr rfl)
      | neither => cases lasts
    | succ right =>
      unfold rounds
      refine Agrees.bind (bodies le frames _ _ rel) fun {last x y} further ended => ?_
      obtain ⟨flow, f⟩ := x
      obtain ⟨other, g⟩ := y
      obtain ⟨flows, frames⟩ := ended
      dsimp only at flows frames ⊢
      have above := links.le_trans le further
      intro m m' rel
      cases flows with
      | branch label =>
        cases label with
        | zero => exact ih lasts.fewer above (restarts above frames) _ _ rel
        | succ label => exact Ended.outcome rel (.branch _) frames
      | next => exact Ended.outcome rel .next frames
      | ret => exact Ended.outcome rel .ret frames
      | tail place => exact Ended.outcome rel (.tail place) frames

/-- Code agrees with itself on all frames that are linked from now on. -/
def CodeAgrees (R : Links → Machine κ η → Machine κ η → Prop) (side : Side)
    (callee other : Invoker κ η ε) (limits others : Limits) (links : Links) (inst twin : Instance)
    (code : Code) : Prop :=
  ∀ ⦃more f g⦄, links ≤ more → f.Linked more g →
    Agree R side more Ended (exec callee limits.fuel inst code f)
      (exec other others.fuel twin code g)

namespace CodeAgrees

variable {limits others : Limits} {links : Links} {inst twin : Instance} {type : BlockType}
  {body yes no rest : Code}

include lasting calls in
theorem op {first : Op} (insts : inst.Linked links twin) (safe : first.Safe kept inst)
    (after : CodeAgrees R side callee other limits others links inst twin rest) :
    CodeAgrees R side callee other limits others links inst twin (.op first rest) := by
  intro more f g le frames m m' rel
  unfold exec
  refine Agrees.bind (step_agrees lasting calls (insts.mono le) frames safe _ _ rel)
    fun {last x y} further ended => ?_
  obtain ⟨flow, f⟩ := x
  obtain ⟨other, g⟩ := y
  obtain ⟨flows, frames⟩ := ended
  dsimp only at flows frames ⊢
  intro m m' rel
  cases flows with
  | next => exact after (links.le_trans le further) frames _ _ rel
  | branch label => exact Ended.outcome rel (.branch label) frames
  | ret => exact Ended.outcome rel .ret frames
  | tail place => exact Ended.outcome rel (.tail place) frames

theorem block (types : inst.types = twin.types)
    (inner : CodeAgrees R side callee other limits others links inst twin body)
    (after : CodeAgrees R side callee other limits others links inst twin rest) :
    CodeAgrees R side callee other limits others links inst twin (.block type body rest) := by
  intro more f g le frames m m' rel
  unfold exec
  rw [← types]
  cases type.signature? inst.types with
  | none => exact Agrees.stop rel .stuck
  | some sig =>
    have below := List.forall₂_drop sig.params.length frames.stack
    exact Agrees.block (inner le frames _ _ rel) fun further ends =>
      after (links.le_trans le further) (ends.leave (Values.mono further below) _)

theorem loop (types : inst.types = twin.types) (suits : side.Suits limits others)
    (inner : CodeAgrees R side callee other limits others links inst twin body)
    (after : CodeAgrees R side callee other limits others links inst twin rest) :
    CodeAgrees R side callee other limits others links inst twin (.loop type body rest) := by
  intro more f g le frames m m' rel
  unfold exec
  rw [← types]
  cases type.signature? inst.types with
  | none => exact Agrees.stop rel .stuck
  | some sig =>
    have below := List.forall₂_drop sig.params.length frames.stack
    have turns : Agree R side more Ended
        (rounds (exec callee limits.fuel inst body)
          (fun inner => inner.leave sig.params.length (f.stack.drop sig.params.length))
          limits.fuel f)
        (rounds (exec other others.fuel twin body)
          (fun inner => inner.leave sig.params.length (g.stack.drop sig.params.length))
          others.fuel g) :=
      rounds_agree (fun further frames => inner (links.le_trans le further) frames)
        (fun further frames => frames.leave (Values.mono further below) sig.params.length)
        suits.rounds more.le_refl frames
    exact Agrees.block (turns _ _ rel) fun further ends =>
      after (links.le_trans le further) (ends.leave (Values.mono further below) _)

theorem ite (types : inst.types = twin.types)
    (first : CodeAgrees R side callee other limits others links inst twin yes)
    (second : CodeAgrees R side callee other limits others links inst twin no)
    (after : CodeAgrees R side callee other limits others links inst twin rest) :
    CodeAgrees R side callee other limits others links inst twin (.ite type yes no rest) := by
  intro more f g le frames m m' rel
  unfold exec
  rw [← types]
  cases type.signature? inst.types with
  | none => exact Agrees.stop rel .stuck
  | some sig =>
    obtain ⟨locals, stack⟩ := f
    obtain ⟨twins, below⟩ := g
    obtain ⟨sameLocals, sameStack⟩ := frames
    dsimp only at sameLocals sameStack ⊢
    cases sameStack with
    | nil => exact Agrees.stop rel .stuck
    | @cons _ _ stack below head tail =>
      cases head with
      | i32 choice =>
        have frames : Frame.Linked more ⟨locals, stack⟩ ⟨twins, below⟩ := ⟨sameLocals, tail⟩
        have chosen : Agree R side more Ended
            (if choice ≠ 0 then exec callee limits.fuel inst yes ⟨locals, stack⟩
              else exec callee limits.fuel inst no ⟨locals, stack⟩)
            (if choice ≠ 0 then exec other others.fuel twin yes ⟨twins, below⟩
              else exec other others.fuel twin no ⟨twins, below⟩) := by
          split
          · exact first le frames
          · exact second le frames
        have below := List.forall₂_drop sig.params.length tail
        exact Agrees.block (chosen _ _ rel) fun further ends =>
          after (links.le_trans le further) (ends.leave (Values.mono further below) _)
      | _ => exact Agrees.stop rel .stuck

end CodeAgrees

include lasting calls

/-- Code agrees with itself on linked frames. -/
theorem exec_agrees {limits others : Limits} (suits : side.Suits limits others) {links : Links}
    {inst twin : Instance} (insts : inst.Linked links twin) {code : Code}
    (safe : ∀ o ∈ code.ops, o.Safe kept inst) {f g : Frame} (frames : f.Linked links g) :
    Agree R side links Ended (exec callee limits.fuel inst code f)
      (exec other others.fuel twin code g) := by
  suffices agrees : CodeAgrees R side callee other limits others links inst twin code from
    agrees links.le_refl frames
  clear frames
  induction code with
  | done => exact fun _ _ _ _ frames _ _ rel => Ended.outcome rel .next frames
  | op first rest ih =>
    exact .op lasting calls insts (safe first List.mem_cons_self)
      (ih fun o inside => safe o (List.mem_cons_of_mem _ inside))
  | block type body rest ihBody ihRest =>
    exact .block insts.types (ihBody fun o inside => safe o (List.mem_append_left _ inside))
      (ihRest fun o inside => safe o (List.mem_append_right _ inside))
  | loop type body rest ihBody ihRest =>
    exact .loop insts.types suits
      (ihBody fun o inside => safe o (List.mem_append_left _ inside))
      (ihRest fun o inside => safe o (List.mem_append_right _ inside))
  | ite type yes no rest ihYes ihNo ihRest =>
    exact .ite insts.types
      (ihYes fun o inside => safe o (List.mem_append_left _ (List.mem_append_left _ inside)))
      (ihNo fun o inside => safe o (List.mem_append_left _ (List.mem_append_right _ inside)))
      (ihRest fun o inside => safe o (List.mem_append_right _ inside))

/-- A function agrees with itself in linked instances. -/
theorem enter_agrees {limits others : Limits} (suits : side.Suits limits others)
    {tail tailOther : Invoker κ η ε} (tails : CallsAgree R side tail tailOther) (type : FuncType)
    {links : Links} {inst twin : Instance} (insts : inst.Linked links twin) {func : Func}
    (safe : ∀ o ∈ func.body.ops, o.Safe kept inst) {args twins : List Value}
    (same : Values links args twins) :
    Agree R side links Values (enter callee tail limits.fuel type inst func args)
      (enter other tailOther others.fuel type twin func twins) := by
  intro m m' rel
  have fresh : ∀ types : List ValType,
      Values links (types.map ValType.zero) (types.map ValType.zero) := by
    intro types
    induction types with
    | nil => exact .nil
    | cons type rest ih => exact .cons type.zero_linked ih
  have frames : Frame.Linked links ⟨args ++ func.locals.map ValType.zero, []⟩
      ⟨twins ++ func.locals.map ValType.zero, []⟩ := ⟨List.rel_append same (fresh _), .nil⟩
  unfold enter
  refine Agrees.bind (exec_agrees lasting calls suits insts safe frames _ _ rel)
    fun {more x y} le ended => ?_
  intro m m' rel
  refine Agrees.bind (lastCall_agrees lasting tails ended _ _ rel) fun {more x y} le ended => ?_
  intro m m' rel
  exact Agrees.answer rel (List.rel_reverse (List.forall₂_take _ ended.2.stack))

omit calls

section Twins

variable {host : Host κ η ε} {limits others : Limits} (suits : side.Suits limits others)
  {extra fuel room other otherRoom : Nat} (enough : side.Enough extra fuel room other otherRoom)
  (inner : ∀ {r q}, side.Enough extra fuel r other q →
    CallsAgree R side (invoke host limits fuel r) (invoke host others other q))
  {links : Links} {m m' : Machine κ η} {a b : Nat} {args twins : List Value}

include suits enough inner

/-- Functions with the same code agree, given that the calls made inside agree. -/
theorem guests_agree (rel : R links m m') {type : FuncType} {inst twin : Instance} {func : Func}
    (atA : m.store.funcs[a]? = some ⟨type, .guest inst func⟩)
    (atB : m'.store.funcs[b]? = some ⟨type, .guest twin func⟩) (insts : inst.Linked links twin)
    (safe : ∀ o ∈ func.body.ops, o.Safe kept inst) (same : Values links args twins) :
    Agrees R side links Values (invoke host limits (fuel + 1) room a args m)
      (invoke host others (other + 1) otherRoom b twins m') := by
  have sameFrame : others.frame func = limits.frame func := congrFun suits.frame func
  obtain ⟨isLeft, full⟩ | ⟨isRight, full⟩ | fits := enough.fits (limits.frame func)
  · subst isLeft
    rw [invoke_exhausted atA rfl full]
    exact .inl (.inl rfl)
  · subst isRight
    rw [invoke_exhausted atB rfl (sameFrame ▸ full)]
    exact .inl (.inl rfl)
  · by_cases fit : limits.frame func ≤ room
    · rw [invoke_guest atA rfl fit, invoke_guest atB rfl (sameFrame ▸ fits.mp fit), sameFrame]
      exact enter_agrees lasting (inner (enough.take _)) suits (inner enough) type insts safe same
        _ _ rel
    · have full : ¬ others.frame func ≤ otherRoom :=
        fun fitsRight => fit (fits.mpr (sameFrame ▸ fitsRight))
      rw [invoke_exhausted atA rfl fit, invoke_exhausted atB rfl full]
      exact Agrees.stop rel _

/-- The two kinds of twins agree, given that the calls made inside agree. -/
theorem twins_agree (hosts : HostsAgree R side host) {f g : FuncInst κ} (rel : R links m m')
    (place : links.funcs a b) (atA : m.store.funcs[a]? = some f)
    (atB : m'.store.funcs[b]? = some g) (twin : f.Twin links kept g)
    (same : Values links args twins) :
    Agrees R side links Values (invoke host limits (fuel + 1) room a args m)
      (invoke host others (other + 1) otherRoom b twins m') := by
  cases twin with
  | host type name =>
    have agrees := hosts (inner (enough.take limits.hostFrame)) rel place atA same
    rw [← suits.hostFrame] at agrees
    rw [invoke_host atA rfl, invoke_host atB rfl, ← suits.hostFrame]
    exact agrees
  | guest type insts safe => exact guests_agree lasting suits enough inner rel atA atB insts safe same

end Twins

/-- Calls agree if linked functions are twins or a detour: a function on the left that comes to
its counterpart on the right in the end. -/
theorem invoke_agrees {host : Host κ η ε} {limits others : Limits}
    (suits : side.Suits limits others) {extra : Nat} (Detour : Nat → Nat → Prop)
    (funcs : ∀ {links m m' a b}, R links m m' → links.funcs a b →
      (∃ f g, m.store.funcs[a]? = some f ∧ m'.store.funcs[b]? = some g ∧ f.Twin links kept g) ∨
        Detour a b)
    (hosts : HostsAgree R side host)
    (detours : ∀ {fuel room other otherRoom},
      side.Enough extra (fuel + 1) room (other + 1) otherRoom →
      (∀ {d r e q}, d ≤ fuel → side.Enough extra d r e q →
        CallsAgree R side (invoke host limits d r) (invoke host others e q)) →
      ∀ {links m m' a b f args twins}, R links m m' → Detour a b → m.store.funcs[a]? = some f →
        args.length = f.type.params.length → Values links args twins →
        Agrees R side links Values (invoke host limits (fuel + 1) room a args m)
          (invoke host others (other + 1) otherRoom b twins m'))
    {fuel room other otherRoom : Nat} (enough : side.Enough extra fuel room other otherRoom) :
    CallsAgree R side (invoke host limits fuel room) (invoke host others other otherRoom) := by
  -- A detour makes two calls on the left for one on the right, so the hypothesis has to reach
  -- further down than to the step before.
  induction fuel using Nat.strongRecOn generalizing room other otherRoom with
  | ind fuel ih =>
    intro links m m' a b f args twins rel place atA count same
    cases fuel with
    | zero =>
      cases side with
      | left => exact .inl (.inr rfl)
      | right =>
        obtain rfl : other = 0 := by
          have := enough.1
          omega
        exact .inl (.inr rfl)
      | neither =>
        obtain ⟨rfl, rfl⟩ := enough
        exact Agrees.stop rel .unfinished
    | succ fuel =>
      cases other with
      | zero =>
        cases side with
        | left => cases enough.1
        | right => exact .inl (.inr rfl)
        | neither => cases enough.1
      | succ other =>
        obtain ⟨f, g, atA, atB, twin⟩ | detour := funcs rel place
        · exact twins_agree lasting suits enough.step
            (fun enough => ih fuel (Nat.lt_succ_self fuel) enough) hosts rel place atA atB twin same
        · exact detours enough (fun fewer enough => ih _ (Nat.lt_succ_of_le fewer) enough)
            rel detour atA count same

end Exec

end FirstCall.Wasm
