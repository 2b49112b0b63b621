import FirstCall.Proofs.Guest
import FirstCall.Service.Artifact

/-!
# The memory of a service

The host looks into the memory of a service and calls its functions. A look answers the bytes that
stand in a range, if the range lies inside the memory as it is at this moment. A call may put
anything anywhere and may make the memory larger, but no call makes it smaller.
-/

namespace FirstCall

namespace Wasm

variable {κ η ε : Type}

namespace Memory

variable {memory next : Memory} {start len : Nat} {bytes : Bytes}

/-- The bytes stand in the memory from an address on, all of them inside it. -/
structure Holds (memory : Memory) (start : Nat) (bytes : Bytes) : Prop where
  inside : start + bytes.length ≤ memory.size
  byte : ∀ k (below : k < bytes.length), memory.byte (start + k) = bytes[k]

theorem map_byte_eq_iff :
    (List.range' start bytes.length).map memory.byte = bytes ↔
      ∀ k (below : k < bytes.length), memory.byte (start + k) = bytes[k] := by
  constructor
  · intro same k below
    have there : ((List.range' start bytes.length).map memory.byte)[k]? = bytes[k]? :=
      congrArg (·[k]?) same
    rw [List.getElem?_map, List.getElem?_range' below, List.getElem?_eq_getElem below,
      Nat.one_mul] at there
    exact Option.some.inj there
  · intro holds
    apply List.ext_getElem
    · simp
    · intro k _ below
      rw [List.getElem_map, List.getElem_range', Nat.one_mul]
      exact holds k below

namespace Holds

theorem of_append {rest : Bytes} (holds : memory.Holds start (bytes ++ rest)) :
    memory.Holds start bytes where
  inside := by
    have inside := holds.inside
    rw [List.length_append] at inside
    omega
  byte k below := by
    rw [holds.byte k (by rw [List.length_append]; omega), List.getElem_append_left below]

theorem of_same (holds : memory.Holds start bytes) (larger : memory.size ≤ next.size)
    (same : ∀ k < bytes.length, next.byte (start + k) = memory.byte (start + k)) :
    next.Holds start bytes where
  inside := Nat.le_trans holds.inside larger
  byte k below := (same k below).trans (holds.byte k below)

end Holds

theorem read?_eq_some_iff :
    memory.read? start len = some bytes ↔ bytes.length = len ∧ memory.Holds start bytes := by
  unfold read?
  split
  · next inside =>
    constructor
    · intro found
      obtain rfl := Option.some.inj found
      have length : ((List.range' start len).map memory.byte).length = len := by simp
      refine ⟨length, by rw [length]; exact inside, map_byte_eq_iff.mp ?_⟩
      rw [length]
    · rintro ⟨rfl, holds⟩
      rw [map_byte_eq_iff.mpr holds.byte]
  · next outside =>
    refine ⟨nofun, ?_⟩
    rintro ⟨rfl, holds⟩
    exact absurd holds.inside outside

theorem read?_eq_none_iff : memory.read? start len = none ↔ memory.size < start + len := by
  unfold read?
  split
  · next inside => exact ⟨nofun, fun outside => absurd inside (Nat.not_le.mpr outside)⟩
  · next outside => exact ⟨fun _ => Nat.not_le.mp outside, fun _ => rfl⟩

theorem holds_or_outside (memory : Memory) (start len : Nat) :
    memory.size < start + len ∨ ∃ bytes : Bytes, bytes.length = len ∧ memory.Holds start bytes := by
  cases found : memory.read? start len with
  | none => exact .inl (read?_eq_none_iff.mp found)
  | some bytes => exact .inr ⟨bytes, read?_eq_some_iff.mp found⟩

theorem write?_eq_none_iff :
    memory.write? start bytes = none ↔ memory.size < start + bytes.length := by
  unfold write?
  split
  · next inside => exact ⟨nofun, fun outside => absurd inside (Nat.not_le.mpr outside)⟩
  · next outside => exact ⟨fun _ => Nat.not_le.mp outside, fun _ => rfl⟩

theorem eq_of_write? (done : memory.write? start bytes = some next) :
    start + bytes.length ≤ memory.size ∧ next = { memory with written := next.written } := by
  unfold write? at done
  split at done
  · next inside =>
    obtain rfl := Option.some.inj done
    exact ⟨inside, rfl⟩
  · cases done

theorem holds_of_write? (done : memory.write? start bytes = some next) :
    next.Holds start bytes where
  inside := by
    rw [size_of_write? done]
    exact (eq_of_write? done).1
  byte k below := by
    rw [byte_of_write? done, if_pos (Nat.le_add_right start k), Nat.add_sub_cancel_left,
      List.getElem?_eq_getElem below]
    rfl

theorem byte_of_write?_outside (done : memory.write? start bytes = some next) {place : Nat}
    (outside : place < start ∨ start + bytes.length ≤ place) :
    next.byte place = memory.byte place := by
  rw [byte_of_write? done]
  split
  · rw [List.getElem?_eq_none (by omega)]
    rfl
  · rfl

end Memory

/-- Every memory of the store is there in the later one, too, and is not smaller than it was. -/
def Store.MemoriesGrow (s t : Store κ) : Prop :=
  ∀ (a : Nat) (memory : Memory), s.memories[a]? = some memory →
    ∃ next : Memory, t.memories[a]? = some next ∧ memory.size ≤ next.size

namespace Store.MemoriesGrow

variable {s t u : Store κ}

theorem of_eq (same : t.memories = s.memories) : s.MemoriesGrow t :=
  fun _ memory there => ⟨memory, same ▸ there, Nat.le_refl _⟩

theorem refl (s : Store κ) : s.MemoriesGrow s := of_eq rfl

theorem trans (head : s.MemoriesGrow t) (tail : t.MemoriesGrow u) : s.MemoriesGrow u := by
  intro a memory there
  obtain ⟨middle, here, first⟩ := head a memory there
  obtain ⟨last, found, second⟩ := tail a middle here
  exact ⟨last, found, Nat.le_trans first second⟩

theorem setMemory {addr : Nat} {old new : Memory} (there : s.memories[addr]? = some old)
    (larger : old.size ≤ new.size) : s.MemoriesGrow (s.setMemory addr new) := by
  intro a memory found
  obtain ⟨inside, _⟩ := Array.getElem?_eq_some_iff.mp there
  unfold Store.setMemory
  by_cases same : addr = a
  · subst same
    obtain rfl := Option.some.inj (there.symm.trans found)
    exact ⟨new, Array.getElem?_setIfInBounds_self_of_lt inside, larger⟩
  · exact ⟨memory, by rw [Array.getElem?_setIfInBounds_ne same]; exact found, Nat.le_refl _⟩

end Store.MemoriesGrow

section Operators

variable {inst : Instance} {store : Store κ} {frame : Frame} {o : Op} {after : Frame × Store κ}

theorem perform_grows (done : (perform inst store frame o : Except (Stop ε) _) = .ok after) :
    store.MemoriesGrow after.2 := by
  obtain ⟨_, left⟩ := after
  cases perform_touches done with
  | memory o place grows => exact .setMemory (Instance.place_of_memory? place) grows
  | _ => exact .of_eq rfl

end Operators

theorem grow_conduct : Conduct (perform : Operate κ ε) fun (m : Machine κ η) _ after =>
    m.store.MemoriesGrow after.store where
  quiet m := .refl m.store
  halted m _ _ := .refl m.store
  trans head tail := head.trans tail
  performed done := perform_grows done
  refused := perform_error

end Wasm

open Wasm

namespace ServiceMachine

variable {limits : Limits} {m after : ServiceMachine}

/-- A call of a function of the service: where it is, what it was given and how it ended. -/
structure GuestCall where
  addr : Nat
  args : List Int32
  ended : Except (Stop Empty) Int32

/-- The machine comes from one state to the other by these calls, made one after the other, and by
nothing else. -/
inductive Makes (limits : Limits) : List GuestCall → ServiceMachine → ServiceMachine → Prop where
  | none (m : ServiceMachine) : Makes limits [] m m
  | call {made : GuestCall} {more : List GuestCall} {m middle after : ServiceMachine}
      (ran : callInt limits made.addr made.args m = (made.ended, middle))
      (rest : Makes limits more middle after) : Makes limits (made :: more) m after

theorem makes_one_iff {made : GuestCall} :
    Makes limits [made] m after ↔ callInt limits made.addr made.args m = (made.ended, after) := by
  constructor
  · rintro (_ | ⟨ran, _ | _⟩)
    exact ran
  · exact fun ran => .call ran (.none after)

theorem makes_two_iff {first second : GuestCall} :
    Makes limits [first, second] m after ↔
      ∃ middle, callInt limits first.addr first.args m = (first.ended, middle) ∧
        callInt limits second.addr second.args middle = (second.ended, after) := by
  constructor
  · rintro (_ | ⟨ran, rest⟩)
    exact ⟨_, ran, makes_one_iff.mp rest⟩
  · rintro ⟨middle, ran, next⟩
    exact .call ran (makes_one_iff.mpr next)

theorem callInt_grows (limits : Limits) (addr : Nat) (args : List Int32) :
    Obeys (fun m _ after => m.store.MemoriesGrow after.store) (callInt limits addr args) := by
  unfold callInt
  refine grow_conduct.bind ?_ fun results => ?_
  · unfold call
    rw [← invokeBy_perform]
    exact grow_conduct.invoke (fun _ _ name => nomatch name) _ _ _ _ _
  · split
    · exact grow_conduct.pure _
    · exact grow_conduct.stop rfl

theorem Makes.grows {calls : List GuestCall} (makes : Makes limits calls m after) :
    m.store.MemoriesGrow after.store := by
  induction makes with
  | none m => exact .refl m.store
  | @call made _ m _ _ ran _ ih =>
    have grown := callInt_grows limits made.addr made.args m
    rw [ran] at grown
    exact grown.trans ih

theorem exchange_of_ok {stage : Service.Stage} {addr : Nat} {args : List Int32} {value : Int32}
    (ran : callInt limits addr args m = (.ok value, after)) :
    exchange limits stage addr args m = ⟨.ok value, [], after⟩ := by
  unfold exchange
  rw [ran]

theorem exchange_of_error {stage : Service.Stage} {addr : Nat} {args : List Int32}
    {why : Stop Empty} (ran : callInt limits addr args m = (.error why, after)) :
    exchange limits stage addr args m = ⟨.error (.stopped stage (cause why)), [], after⟩ := by
  unfold exchange
  rw [ran]

end ServiceMachine

namespace Exchange

variable {σ α β : Type} {first : Exchange σ α} {next : α → Exchange σ β} {state after : σ}

theorem bind_of_ok {value : α} (ran : first state = ⟨.ok value, [], after⟩) :
    (first >>= next) state = next value after := by
  change andThen first next state = _
  unfold andThen
  rw [ran]
  rfl

theorem bind_of_error {fault : Service.Fault} {notices : List Notice}
    (ran : first state = ⟨.error fault, notices, after⟩) :
    (first >>= next) state = ⟨.error fault, notices, after⟩ := by
  change andThen first next state = _
  unfold andThen
  rw [ran]

end Exchange

namespace Service.Heap

open ServiceMachine

variable {mem : Service.Heap} {limits : Limits} {m after : ServiceMachine}

def allocation (mem : Service.Heap) (size : UInt32) (ended : Except (Stop Empty) Int32) :
    GuestCall :=
  ⟨mem.allocator, [size.toInt32], ended⟩

theorem allocate_of_ok {size : UInt32} {raw : Int32}
    (made : Makes limits [mem.allocation size (.ok raw)] m after) :
    mem.allocate limits size m = ⟨.ok (.ofInt32 raw), [], after⟩ :=
  Exchange.bind_of_ok (exchange_of_ok (makes_one_iff.mp made))

theorem allocate_of_error {size : UInt32} {why : Stop Empty}
    (made : Makes limits [mem.allocation size (.error why)] m after) :
    mem.allocate limits size m = ⟨.error (.stopped .allocate (cause why)), [], after⟩ :=
  Exchange.bind_of_error (exchange_of_error (makes_one_iff.mp made))

theorem size_le_of_makes {calls : List GuestCall} (makes : Makes limits calls m after) :
    mem.size m ≤ mem.size after := by
  unfold size now
  cases there : m.store.memories[mem.memory]? with
  | none => exact Nat.le_trans (Nat.le_of_eq (Nat.zero_mul pageSize)) (Nat.zero_le _)
  | some memory =>
    obtain ⟨next, here, larger⟩ := makes.grows mem.memory memory there
    rw [here]
    exact larger

theorem read_eq_ok_iff {span : Service.Span} {bytes : Bytes} :
    mem.read m span = .ok bytes ↔
      bytes.length = span.length.toNat ∧ (mem.now m).Holds span.start.offset.toNat bytes := by
  refine Iff.trans ?_ Memory.read?_eq_some_iff
  unfold read
  cases (mem.now m).read? span.start.offset.toNat span.length.toNat with
  | none => exact ⟨nofun, nofun⟩
  | some found =>
    exact ⟨fun same => congrArg some (Except.ok.inj same),
      fun same => congrArg Except.ok (Option.some.inj same)⟩

theorem read_of_outside {span : Service.Span}
    (past : mem.size m < span.start.offset.toNat + span.length.toNat) :
    mem.read m span = .error (.outsideMemory span.start span.length) := by
  unfold read
  rw [Memory.read?_eq_none_iff.mpr past]

-- An equation of functions: applied to a memory, its two sides would be compared by computing the
-- bounds of the access.
theorem readInt_def : readInt = fun mem m addr =>
    match (mem.now m).read? addr.offset.toNat 4 with
    | some bytes => .ok (UInt32.ofNat (Bytes.toNat bytes)).toInt32
    | none => .error (.outsideMemory addr 4) := rfl

end Service.Heap

namespace Service.Artifact

variable {loaded : Service.Artifact} {stage : Service.Stage} {m : ServiceMachine}
  {slot : Service.Address} {start : Int32}

theorem readBlob_of_error {fault : Service.Fault}
    (unread : loaded.memory.readInt m slot = .error fault) :
    loaded.readBlob stage start slot m = ⟨.error fault, [], m⟩ := by
  unfold readBlob
  rw [unread]
  rfl

theorem readBlob_of_length {n : Int32} (length : loaded.memory.readInt m slot = .ok n) :
    loaded.readBlob stage start slot m =
      ⟨if n < 0 then .error (.negativeLength stage n)
        else loaded.memory.read m ⟨.ofInt32 start, n.toUInt32⟩, [], m⟩ := by
  unfold readBlob
  rw [length]
  rfl

end Service.Artifact

end FirstCall
