import FirstCall.Proofs.Requests
import FirstCall.Proofs.ServiceMemory

/-!
# Texts in service memory

A text crosses into the memory of a service by one call of the service's allocator and at most one
write of the host: the bytes and a zero byte behind them, into the room that was allocated, and
nothing else. What was written can be read back, and it stays when further texts are stored, as long
as the allocator finds room for them elsewhere and leaves the bytes alone.
-/

namespace FirstCall

open Wasm ServiceMachine

namespace Service.Heap

variable {mem : Service.Heap} {limits : Limits} {m middle after later : ServiceMachine}
  {bytes kept : Bytes}

/-- The number of bytes that a text takes, with the zero byte behind it. -/
def room (bytes : Bytes) : UInt32 := UInt32.ofNat (bytes.length + 1)

/-- The host put bytes at an address and changed nothing else. -/
structure Deposited (mem : Service.Heap) (addr : Nat) (bytes : Bytes) (m after : ServiceMachine) :
    Prop where
  placed : (mem.now after).Holds addr bytes
  elsewhere : ∀ place, place < addr ∨ addr + bytes.length ≤ place →
    (mem.now after).byte place = (mem.now m).byte place
  size : mem.size after = mem.size m
  rest : ∃ written, after =
    { m with store := m.store.setMemory mem.memory { mem.now m with written } }

/-- How a text gets into the memory of a service, if it does: what comes of it, and in what state
the service is left. -/
inductive Storing (mem : Service.Heap) (limits : Limits) (bytes : Bytes) (m : ServiceMachine) :
    Except Service.Fault Service.Address → ServiceMachine → Prop where
  | tooLong (long : 0x100000000 ≤ bytes.length + 1) :
      Storing mem limits bytes m (.error (.outsideMemory ⟨0⟩ 0xffffffff)) m
  | stopped {why : Stop Empty} {after : ServiceMachine} (short : bytes.length + 1 < 0x100000000)
      (made : Makes limits [mem.allocation (room bytes) (.error why)] m after) :
      Storing mem limits bytes m (.error (.stopped .allocate (cause why))) after
  | outside {raw : Int32} {after : ServiceMachine} (short : bytes.length + 1 < 0x100000000)
      (made : Makes limits [mem.allocation (room bytes) (.ok raw)] m after)
      (past : mem.size after < raw.toUInt32.toNat + bytes.length + 1) :
      Storing mem limits bytes m (.error (.outsideMemory ⟨raw.toUInt32⟩ (room bytes))) after
  | stored {raw : Int32} {middle after : ServiceMachine}
      (short : bytes.length + 1 < 0x100000000)
      (made : Makes limits [mem.allocation (room bytes) (.ok raw)] m middle)
      (inside : raw.toUInt32.toNat + bytes.length + 1 ≤ mem.size middle)
      (deposited : mem.Deposited raw.toUInt32.toNat (bytes ++ [0]) middle after) :
      Storing mem limits bytes m (.ok ⟨raw.toUInt32⟩) after

theorem now_setMemory (sized : 0 < mem.size m) (changed : Memory) :
    mem.now { m with store := m.store.setMemory mem.memory changed } = changed := by
  have inside : mem.memory < m.store.memories.size := by
    apply Nat.lt_of_not_le
    intro missing
    unfold size now at sized
    rw [Array.getElem?_eq_none missing] at sized
    exact absurd sized (by decide)
  unfold now Store.setMemory
  rw [Array.getElem?_setIfInBounds_self_of_lt inside]
  rfl

theorem deposited_of_write? {addr : Nat} (nonempty : 0 < bytes.length)
    (done : mem.write? addr bytes m = some after) : mem.Deposited addr bytes m after := by
  obtain ⟨changed, wrote, rfl⟩ := Option.map_eq_some_iff.mp done
  obtain ⟨inside, same⟩ := Memory.eq_of_write? wrote
  have sized : 0 < mem.size m := by
    unfold size
    omega
  have held := now_setMemory sized changed
  refine ⟨?_, fun place outside => ?_, ?_, ?_⟩
  · rw [held]
    exact Memory.holds_of_write? wrote
  · rw [held]
    exact Memory.byte_of_write?_outside wrote outside
  · unfold size
    rw [held]
    exact Memory.size_of_write? wrote
  · exact ⟨changed.written, by rw [← same]⟩

theorem Deposited.inside {addr : Nat} (deposited : mem.Deposited addr bytes m after) :
    addr + bytes.length ≤ mem.size m :=
  Nat.le_trans deposited.placed.inside (Nat.le_of_eq deposited.size)

theorem write?_eq_none_iff {addr : Nat} :
    mem.write? addr bytes m = none ↔ mem.size m < addr + bytes.length :=
  Option.map_eq_none_iff.trans Memory.write?_eq_none_iff

theorem writeText_of_error {why : Stop Empty} (short : bytes.length + 1 < 0x100000000)
    (made : Makes limits [mem.allocation (room bytes) (.error why)] m after) :
    mem.writeText limits bytes m = ⟨.error (.stopped .allocate (cause why)), [], after⟩ := by
  unfold writeText
  rw [if_neg (Nat.not_le.mpr short)]
  exact Exchange.bind_of_error (allocate_of_error made)

theorem writeText_of_ok {raw : Int32} (short : bytes.length + 1 < 0x100000000)
    (made : Makes limits [mem.allocation (room bytes) (.ok raw)] m middle) :
    mem.writeText limits bytes m =
      match mem.write? raw.toUInt32.toNat (bytes ++ [0]) middle with
      | none => ⟨.error (.outsideMemory ⟨raw.toUInt32⟩ (room bytes)), [], middle⟩
      | some after =>
        ⟨.ok ⟨raw.toUInt32⟩, [.sourceStored bytes.length ⟨raw.toUInt32⟩], after⟩ := by
  unfold writeText
  rw [if_neg (Nat.not_le.mpr short)]
  refine (Exchange.bind_of_ok (allocate_of_ok made)).trans ?_
  refine (Exchange.bind_of_ok rfl).trans ?_
  dsimp only [Address.ofInt32]
  cases mem.write? raw.toUInt32.toNat (bytes ++ [0]) middle with
  | none => rfl
  | some after => rfl

theorem writeText_storing (mem : Service.Heap) (limits : Limits) (bytes : Bytes)
    (m : ServiceMachine) :
    mem.Storing limits bytes m (mem.writeText limits bytes m).result
      (mem.writeText limits bytes m).state := by
  by_cases long : 0x100000000 ≤ bytes.length + 1
  · unfold writeText
    rw [if_pos long]
    exact .tooLong long
  have short := Nat.lt_of_not_le long
  cases call : callInt limits mem.allocator [(room bytes).toInt32] m with
  | mk ended middle =>
    have made : Makes limits [mem.allocation (room bytes) ended] m middle := makes_one_iff.mpr call
    cases ended with
    | error why =>
      rw [writeText_of_error short made]
      exact .stopped short made
    | ok raw =>
      rw [writeText_of_ok short made]
      cases wrote : mem.write? raw.toUInt32.toNat (bytes ++ [0]) middle with
      | none =>
        have past := write?_eq_none_iff.mp wrote
        rw [List.length_append] at past
        exact .outside short made past
      | some after =>
        have nonempty : 0 < (bytes ++ [0]).length := by simp
        have deposited := deposited_of_write? nonempty wrote
        have inside := deposited.inside
        rw [List.length_append] at inside
        exact .stored short made inside deposited

/-- The allocator finds room for a text aside from a range: its call leaves the bytes of the range
as they are, and the room that it answers is disjoint from the range. -/
structure RoomAside (mem : Service.Heap) (limits : Limits) (start len : Nat) (bytes : Bytes)
    (m : ServiceMachine) : Prop where
  spared : ∀ ended after, Makes limits [mem.allocation (room bytes) ended] m after →
    ∀ k < len, (mem.now after).byte (start + k) = (mem.now m).byte (start + k)
  disjoint : ∀ raw after, Makes limits [mem.allocation (room bytes) (.ok raw)] m after →
    raw.toUInt32.toNat + bytes.length + 1 ≤ start ∨ start + len ≤ raw.toUInt32.toNat

/-- From one state of the service to a later one by storing texts, whether or not the service takes
them. Whenever the allocator is called, it finds room aside from a range. -/
inductive StoresAside (mem : Service.Heap) (limits : Limits) (start len : Nat) :
    ServiceMachine → ServiceMachine → Prop where
  | none (m : ServiceMachine) : StoresAside mem limits start len m m
  | text {m later : ServiceMachine} (bytes : Bytes)
      (aside : bytes.length + 1 < 0x100000000 → mem.RoomAside limits start len bytes m)
      (rest : StoresAside mem limits start len (mem.writeText limits bytes m).state later) :
      StoresAside mem limits start len m later

theorem RoomAside.holds {start len : Nat} {ended : Except (Stop Empty) Int32}
    (aside : mem.RoomAside limits start len bytes m) (within : kept.length ≤ len)
    (made : Makes limits [mem.allocation (room bytes) ended] m after)
    (held : (mem.now m).Holds start kept) : (mem.now after).Holds start kept :=
  held.of_same (size_le_of_makes made) fun k below =>
    aside.spared ended after made k (Nat.lt_of_lt_of_le below within)

theorem Storing.holds {start len : Nat} {result : Except Service.Fault Service.Address}
    (storing : mem.Storing limits bytes m result after)
    (aside : bytes.length + 1 < 0x100000000 → mem.RoomAside limits start len bytes m)
    (within : kept.length ≤ len) (held : (mem.now m).Holds start kept) :
    (mem.now after).Holds start kept := by
  cases storing with
  | tooLong => exact held
  | stopped short made => exact (aside short).holds within made held
  | outside short made => exact (aside short).holds within made held
  | stored short made inside deposited =>
    have before := (aside short).holds within made held
    refine before.of_same (Nat.le_of_eq deposited.size.symm) fun k below => ?_
    apply deposited.elsewhere
    have apart := (aside short).disjoint _ _ made
    rw [List.length_append, List.length_singleton]
    omega

theorem StoresAside.holds {start len : Nat} (stores : mem.StoresAside limits start len m later)
    (within : kept.length ≤ len) (held : (mem.now m).Holds start kept) :
    (mem.now later).Holds start kept := by
  induction stores with
  | none m => exact held
  | @text m _ bytes aside _ ih =>
    have storing := writeText_storing mem limits bytes m
    exact ih (storing.holds aside within held)

theorem Storing.placed {addr : Service.Address}
    (storing : mem.Storing limits bytes m (.ok addr) after) :
    bytes.length + 1 < 0x100000000 ∧
      (mem.now after).Holds addr.offset.toNat (bytes ++ [0]) := by
  cases storing with
  | stored short _ _ deposited => exact ⟨short, deposited.placed⟩

theorem read_of_placed {addr : Service.Address} (short : bytes.length + 1 < 0x100000000)
    (placed : (mem.now m).Holds addr.offset.toNat (bytes ++ [0])) :
    mem.read m ⟨addr, UInt32.ofNat bytes.length⟩ = .ok bytes :=
  read_eq_ok_iff.mpr ⟨(UInt32.toNat_ofNat_of_lt' (Nat.lt_of_succ_lt short)).symm, placed.of_append⟩

/-- A text is taken into the memory of the service as a whole, in room that one call of the
allocator found for it, or the host writes nothing. A text that was taken is read back, at once and
after any further texts were stored aside from it. -/
theorem texts_marshalled (mem : Service.Heap) (limits : Limits) (bytes : Bytes)
    (m : ServiceMachine) :
    mem.Storing limits bytes m (mem.writeText limits bytes m).result
        (mem.writeText limits bytes m).state ∧
      ∀ addr, (mem.writeText limits bytes m).result = .ok addr →
        mem.read (mem.writeText limits bytes m).state ⟨addr, UInt32.ofNat bytes.length⟩ =
            .ok bytes ∧
          ∀ later, mem.StoresAside limits addr.offset.toNat (bytes.length + 1)
              (mem.writeText limits bytes m).state later →
            mem.read later ⟨addr, UInt32.ofNat bytes.length⟩ = .ok bytes := by
  have storing := writeText_storing mem limits bytes m
  refine ⟨storing, fun addr taken => ?_⟩
  rw [taken] at storing
  obtain ⟨short, placed⟩ := storing.placed
  refine ⟨read_of_placed short placed, fun later stores => ?_⟩
  exact read_of_placed short (stores.holds (by simp) placed)

end Service.Heap

namespace Sample

def heap : Service.Heap := ⟨0, 0⟩

/-- A service whose allocator answers 20000 times the number of bytes that it is asked for. -/
def allocating : ServiceMachine :=
  ⟨⟨#[⟨⟨[.i32], [.i32]⟩, .guest ⟨#[], #[], #[], #[], #[], #[], #[], []⟩
      ⟨0, [], .op (.localGet 0) (.op (.const32 20000) (.op (.numeric (.binary .w32 .mul)) .done))⟩⟩],
    #[], #[Memory.fresh ⟨⟨1, none⟩, false⟩], #[], #[]⟩, ()⟩

theorem callInt_allocating {m : ServiceMachine} (same : m.store.funcs = allocating.store.funcs)
    (size : Int32) :
    callInt limits heap.allocator [size] m = (.ok (size.toUInt32 * 20000).toInt32, m) := by
  obtain ⟨⟨funcs, tables, memories, globals, segments⟩, host⟩ := m
  obtain rfl : funcs = allocating.store.funcs := same
  have product : UInt32.ofNat (BitVec.ofNat 32 size.toUInt32.toNat *
      BitVec.ofNat 32 (20000 : UInt32).toNat).toNat = size.toUInt32 * 20000 := by
    rw [← UInt32.toNat_inj]
    simp
    rfl
  rw [← product]
  rfl

theorem roomAside_allocating {m : ServiceMachine} {bytes : Bytes} {start len : Nat}
    (same : m.store.funcs = allocating.store.funcs)
    (disjoint : (Service.Heap.room bytes * 20000).toNat + bytes.length + 1 ≤ start ∨
      start + len ≤ (Service.Heap.room bytes * 20000).toNat) :
    heap.RoomAside limits start len bytes m := by
  have call := callInt_allocating same (Service.Heap.room bytes).toInt32
  refine ⟨fun ended after made k _ => ?_, fun raw after made => ?_⟩
  · obtain ⟨_, rfl⟩ := Prod.mk.inj (call.symm.trans (makes_one_iff.mp made))
    rfl
  · obtain ⟨answer, _⟩ := Prod.mk.inj (call.symm.trans (makes_one_iff.mp made))
    obtain rfl := Except.ok.inj answer
    rw [UInt32.toUInt32_toInt32, UInt32.toUInt32_toInt32]
    exact disjoint

end Sample

namespace Service.Heap

/-- Two texts are taken, the second below the first, and a third is refused, since its room would
lie outside the memory. The first is still there. -/
theorem sample_texts_marshalled :
    (Sample.heap.writeText Sample.limits [104, 105] Sample.allocating).result = .ok ⟨60000⟩ ∧
    ∃ second third : ServiceMachine,
      second = (Sample.heap.writeText Sample.limits []
        (Sample.heap.writeText Sample.limits [104, 105] Sample.allocating).state).state ∧
      third = (Sample.heap.writeText Sample.limits [7, 7, 7] second).state ∧
      (Sample.heap.writeText Sample.limits [7, 7, 7] second).result =
        .error (.outsideMemory ⟨80000⟩ 4) ∧
      Sample.heap.read third ⟨⟨60000⟩, 2⟩ = .ok [104, 105] := by
  have taken : (Sample.heap.writeText Sample.limits [104, 105] Sample.allocating).result =
      .ok ⟨60000⟩ := by decide +kernel
  refine ⟨taken, _, _, rfl, rfl, by decide +kernel, ?_⟩
  apply ((texts_marshalled Sample.heap Sample.limits [104, 105] Sample.allocating).2 _ taken).2
  refine .text [] (fun _ => Sample.roomAside_allocating ?_ ?_) ?_
  · decide +kernel
  · decide
  refine .text [7, 7, 7] (fun _ => Sample.roomAside_allocating ?_ ?_) (.none _)
  · decide +kernel
  · decide

end Service.Heap

end FirstCall
