import FirstCall.Proofs.ServiceMemory

/-!
# Blobs from service memory

A blob is asked for by two calls of the service's functions: one finds room for a length, the other
leaves the length there and answers where the blob is. Then the host looks, first for the length
and then for the blob, in the memory as the second call left it. Each of the steps can fail, and the
host writes nothing in any case.
-/

namespace FirstCall

open Wasm ServiceMachine

namespace Service.Heap

variable {mem : Service.Heap} {m : ServiceMachine}

/-- The bytes of an integer in memory, the least significant one first. -/
def littleEndian (n : Int32) : Bytes := Bytes.ofNat 4 n.toUInt32.toNat

@[simp] theorem length_littleEndian (n : Int32) : (littleEndian n).length = 4 :=
  Bytes.length_ofNat 4 n.toUInt32.toNat

theorem decode_littleEndian (n : Int32) :
    (UInt32.ofNat (Bytes.toNat (littleEndian n))).toInt32 = n := by
  have width : Nat.pow 256 4 = 2 ^ 32 := by decide
  unfold littleEndian
  rw [Bytes.toNat_ofNat, width, Nat.mod_eq_of_lt n.toUInt32.toNat_lt, UInt32.ofNat_toNat,
    Int32.toInt32_toUInt32]

theorem exists_littleEndian {bytes : Bytes} (four : bytes.length = 4) :
    ∃ n, littleEndian n = bytes := by
  refine ⟨(UInt32.ofNat (Bytes.toNat bytes)).toInt32, ?_⟩
  have width : Nat.pow 256 4 = UInt32.size := by decide
  have bound := Bytes.toNat_lt bytes
  rw [four, width] at bound
  have whole := Bytes.ofNat_toNat bytes
  rw [four] at whole
  unfold littleEndian
  rw [UInt32.toUInt32_toInt32, UInt32.toNat_ofNat_of_lt' bound]
  exact whole

theorem readInt_of_holds {addr : Service.Address} {n : Int32}
    (stands : (mem.now m).Holds addr.offset.toNat (littleEndian n)) :
    mem.readInt m addr = .ok n := by
  have found := Memory.read?_eq_some_iff.mpr ⟨length_littleEndian n, stands⟩
  rw [readInt_def]
  dsimp only
  rw [found]
  exact congrArg Except.ok (decode_littleEndian n)

theorem readInt_of_outside {addr : Service.Address}
    (past : mem.size m < addr.offset.toNat + 4) :
    mem.readInt m addr = .error (.outsideMemory addr 4) := by
  have unread := Memory.read?_eq_none_iff.mpr past
  rw [readInt_def]
  dsimp only
  rw [unread]

/-- What a look into the memory finds: the length at the address `slot`, and the blob at the address
`start`. Both are unsigned, while the length has a sign. -/
inductive Fetched (mem : Service.Heap) (m : ServiceMachine) (stage : Service.Stage)
    (slot start : Int32) : Except Service.Fault Bytes → Prop where
  | slotOutside (past : mem.size m < slot.toUInt32.toNat + 4) :
      Fetched mem m stage slot start (.error (.outsideMemory ⟨slot.toUInt32⟩ 4))
  | negative {n : Int32} (stands : (mem.now m).Holds slot.toUInt32.toNat (littleEndian n))
      (below : n < 0) : Fetched mem m stage slot start (.error (.negativeLength stage n))
  | blobOutside {n : Int32} (stands : (mem.now m).Holds slot.toUInt32.toNat (littleEndian n))
      (above : 0 ≤ n) (past : mem.size m < start.toUInt32.toNat + n.toNatClampNeg) :
      Fetched mem m stage slot start (.error (.outsideMemory ⟨start.toUInt32⟩ n.toUInt32))
  | blob {n : Int32} {bytes : Bytes}
      (stands : (mem.now m).Holds slot.toUInt32.toNat (littleEndian n)) (above : 0 ≤ n)
      (length : bytes.length = n.toNatClampNeg)
      (found : (mem.now m).Holds start.toUInt32.toNat bytes) :
      Fetched mem m stage slot start (.ok bytes)

theorem exists_fetched (mem : Service.Heap) (m : ServiceMachine) (stage : Service.Stage)
    (slot start : Int32) : ∃ result, mem.Fetched m stage slot start result := by
  obtain past | ⟨bytes, four, stands⟩ := (mem.now m).holds_or_outside slot.toUInt32.toNat 4
  · exact ⟨_, .slotOutside past⟩
  obtain ⟨n, rfl⟩ := exists_littleEndian four
  by_cases below : n < 0
  · exact ⟨_, .negative stands below⟩
  have above := Int32.not_lt.mp below
  obtain past | ⟨blob, length, found⟩ :=
    (mem.now m).holds_or_outside start.toUInt32.toNat n.toNatClampNeg
  · exact ⟨_, .blobOutside stands above past⟩
  · exact ⟨_, .blob stands above length found⟩

end Service.Heap

namespace Service.Artifact

variable {loaded : Service.Artifact} {limits : Limits} {stage : Service.Stage} {addr : Nat}
  {args : List Int32} {m after : ServiceMachine} {result : Except Service.Fault Bytes}

theorem readBlob_of_fetched {slot start : Int32}
    (fetched : loaded.memory.Fetched m stage slot start result) :
    loaded.readBlob stage start (.ofInt32 slot) m = ⟨result, [], m⟩ := by
  cases fetched with
  | slotOutside past => exact readBlob_of_error (Service.Heap.readInt_of_outside past)
  | negative stands below =>
    rw [readBlob_of_length (Service.Heap.readInt_of_holds stands), if_pos below]
  | blobOutside stands above past =>
    rw [← Int32.toNat_toUInt32_of_le above] at past
    rw [readBlob_of_length (Service.Heap.readInt_of_holds stands),
      if_neg (Int32.not_lt.mpr above), Service.Heap.read_of_outside past]
    rfl
  | blob stands above length found =>
    rw [← Int32.toNat_toUInt32_of_le above] at length
    rw [readBlob_of_length (Service.Heap.readInt_of_holds stands),
      if_neg (Int32.not_lt.mpr above), Service.Heap.read_eq_ok_iff.mpr ⟨length, found⟩]

/-- How a blob is retrieved: what comes of it, and in what state the service is left. -/
inductive Retrieval (loaded : Service.Artifact) (limits : Limits) (stage : Service.Stage)
    (addr : Nat) (args : List Int32) (m : ServiceMachine) :
    Except Service.Fault Bytes → ServiceMachine → Prop where
  | unallocated {why : Stop Empty} {after : ServiceMachine}
      (made : Makes limits [loaded.memory.allocation 4 (.error why)] m after) :
      Retrieval loaded limits stage addr args m (.error (.stopped .allocate (cause why))) after
  | stopped {slot : Int32} {why : Stop Empty} {after : ServiceMachine}
      (made : Makes limits
        [loaded.memory.allocation 4 (.ok slot), ⟨addr, args ++ [slot], .error why⟩] m after) :
      Retrieval loaded limits stage addr args m (.error (.stopped stage (cause why))) after
  | answered {slot start : Int32} {after : ServiceMachine} {result : Except Service.Fault Bytes}
      (made : Makes limits
        [loaded.memory.allocation 4 (.ok slot), ⟨addr, args ++ [slot], .ok start⟩] m after)
      (fetched : loaded.memory.Fetched after stage slot start result) :
      Retrieval loaded limits stage addr args m result after

theorem compile_of_retrieval
    (retrieval : loaded.Retrieval limits stage addr args m result after) :
    loaded.compile limits stage addr args m = ⟨result, [], after⟩ := by
  unfold compile
  cases retrieval with
  | unallocated made => exact Exchange.bind_of_error (Service.Heap.allocate_of_error made)
  | stopped made =>
    obtain ⟨middle, allocated, ran⟩ := makes_two_iff.mp made
    rw [Exchange.bind_of_ok (Service.Heap.allocate_of_ok (makes_one_iff.mpr allocated)),
      Service.Address.toInt32_ofInt32]
    exact Exchange.bind_of_error (exchange_of_error ran)
  | answered made fetched =>
    obtain ⟨middle, allocated, ran⟩ := makes_two_iff.mp made
    rw [Exchange.bind_of_ok (Service.Heap.allocate_of_ok (makes_one_iff.mpr allocated)),
      Service.Address.toInt32_ofInt32, Exchange.bind_of_ok (exchange_of_ok ran)]
    exact readBlob_of_fetched fetched

theorem exists_retrieval (loaded : Service.Artifact) (limits : Limits) (stage : Service.Stage)
    (addr : Nat) (args : List Int32) (m : ServiceMachine) :
    ∃ result after, loaded.Retrieval limits stage addr args m result after := by
  cases first : callInt limits loaded.memory.allocator [UInt32.toInt32 4] m with
  | mk ended middle =>
    cases ended with
    | error why => exact ⟨_, _, .unallocated (makes_one_iff.mpr first)⟩
    | ok slot =>
      cases second : callInt limits addr (args ++ [slot]) middle with
      | mk ended after =>
        cases ended with
        | error why => exact ⟨_, _, .stopped (makes_two_iff.mpr ⟨middle, first, second⟩)⟩
        | ok start =>
          obtain ⟨result, fetched⟩ := loaded.memory.exists_fetched after stage slot start
          exact ⟨_, _, .answered (makes_two_iff.mpr ⟨middle, first, second⟩) fetched⟩

/-- A request for a blob goes as a retrieval goes, and no retrieval goes otherwise. -/
theorem compile_iff_retrieval :
    ((loaded.compile limits stage addr args m).result = result ∧
        (loaded.compile limits stage addr args m).state = after) ↔
      loaded.Retrieval limits stage addr args m result after := by
  constructor
  · rintro ⟨rfl, rfl⟩
    obtain ⟨result, after, retrieval⟩ := loaded.exists_retrieval limits stage addr args m
    rw [compile_of_retrieval retrieval]
    exact retrieval
  · intro retrieval
    rw [compile_of_retrieval retrieval]
    exact ⟨rfl, rfl⟩

/-- The unit of a function and the skeleton are retrieved from the memory of the service, each
through its own export. What the host is told, and the state in which the service is left, are those
of the retrieval and of nothing else. -/
theorem blobs_retrieved (loaded : Service.Artifact) (limits : Limits) (compiler : Service.Compiler)
    (m : ServiceMachine) (result : Except Service.Fault Bytes) (after : ServiceMachine) :
    (∀ i : FuncId,
      (((loaded.toService limits).unit compiler i m).result = result ∧
          ((loaded.toService limits).unit compiler i m).state = after) ↔
        loaded.Retrieval limits (.unit i) loaded.unit [compiler.token, i.number.toInt32] m result
          after) ∧
    ((((loaded.toService limits).skeleton compiler m).result = result ∧
        ((loaded.toService limits).skeleton compiler m).state = after) ↔
      loaded.Retrieval limits .skeleton loaded.skeleton [compiler.token] m result after) :=
  ⟨fun _ => compile_iff_retrieval, compile_iff_retrieval⟩

end Service.Artifact

end FirstCall
