import FirstCall.Wasm.Store

/-!
# Actions

What running code does: it changes the machine and either answers or stops. The machine is the
store together with a state of the host, which code cannot reach; only host functions change it.
Whatever was changed before a stop stays changed.
-/

namespace FirstCall.Wasm

structure Machine (κ η : Type) where
  store : Store κ
  host : η

/-- Something that runs on a machine: it answers or stops, and leaves a changed machine. -/
def Action (κ η ε α : Type) : Type := Machine κ η → Except (Stop ε) α × Machine κ η

namespace Action

variable {κ η ε α β : Type}

@[inline] def answer (value : α) : Action κ η ε α := fun m => (.ok value, m)

@[inline] def andThen (first : Action κ η ε α) (next : α → Action κ η ε β) : Action κ η ε β :=
  fun m =>
    match first m with
    | (.ok value, m) => next value m
    | (.error stop, m) => (.error stop, m)

@[inline] instance : Monad (Action κ η ε) where
  pure := answer
  bind := andThen

@[inline] def stop (why : Stop ε) : Action κ η ε α := fun m => (.error why, m)

@[inline] def trap (t : Trap) : Action κ η ε α := stop (.trap t)

@[inline] def fail (fault : ε) : Action κ η ε α := stop (.failed fault)

@[inline] def store : Action κ η ε (Store κ) := fun m => (.ok m.store, m)

@[inline] def host : Action κ η ε η := fun m => (.ok m.host, m)

@[inline] def setStore (store : Store κ) : Action κ η ε Unit := fun m => (.ok (), { m with store })

@[inline] def modifyHost (change : η → η) : Action κ η ε Unit :=
  fun m => (.ok (), { m with host := change m.host })

@[inline] def ofExcept : Except (Stop ε) α → Action κ η ε α
  | .ok value => answer value
  | .error why => stop why

/-- Does the action, and turns a stop into another. -/
@[inline] def mapStop (change : Stop ε → Stop ε) (action : Action κ η ε α) : Action κ η ε α :=
  fun m =>
    match action m with
    | (.ok value, m) => (.ok value, m)
    | (.error why, m) => (.error (change why), m)

@[simp] theorem pure_apply (value : α) (m : Machine κ η) :
    (pure value : Action κ η ε α) m = (.ok value, m) := rfl

theorem bind_apply (first : Action κ η ε α) (next : α → Action κ η ε β) (m : Machine κ η) :
    (first >>= next) m =
      match first m with
      | (.ok value, m) => next value m
      | (.error stop, m) => (.error stop, m) := rfl

theorem bind_of_ok {first : Action κ η ε α} {next : α → Action κ η ε β} {m done : Machine κ η}
    {value : α} (run : first m = (.ok value, done)) : (first >>= next) m = next value done := by
  rw [bind_apply, run]

theorem bind_of_error {first : Action κ η ε α} {next : α → Action κ η ε β} {m done : Machine κ η}
    {why : Stop ε} (run : first m = (.error why, done)) :
    (first >>= next) m = (.error why, done) := by
  rw [bind_apply, run]

end Action

abbrev Invoker (κ η ε : Type) := Nat → List Value → Action κ η ε (List Value)

/-- What the functions of the host do. They can call back into the store. -/
abbrev Host (κ η ε : Type) := Invoker κ η ε → κ → List Value → Action κ η ε (List Value)

end FirstCall.Wasm
