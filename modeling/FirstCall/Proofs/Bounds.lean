import FirstCall.Proofs.Marshalling
import FirstCall.Proofs.Retrieval

/-!
# Bounds of looks into service memory

A look into the memory of a service names a range by two words of 32 bits. It is answered if the
range ends inside the memory, where the end is a number that does not wrap around. A look at a range
is a look at its two parts, and a look at an integer is a look at its four bytes.
-/

namespace FirstCall

open Wasm

namespace Wasm.Memory

variable {memory : Memory} {start : Nat} {bytes more : Bytes}

theorem Holds.drop (holds : memory.Holds start (bytes ++ more)) :
    memory.Holds (start + bytes.length) more where
  inside := by
    have inside := holds.inside
    rw [List.length_append] at inside
    omega
  byte k below := by
    have there := holds.byte (bytes.length + k) (by rw [List.length_append]; omega)
    rw [← Nat.add_assoc, List.getElem_append_right (Nat.le_add_right _ _)] at there
    simpa using there

theorem Holds.append (first : memory.Holds start bytes)
    (second : memory.Holds (start + bytes.length) more) : memory.Holds start (bytes ++ more) where
  inside := by
    have inside := second.inside
    rw [List.length_append]
    omega
  byte k below := by
    by_cases early : k < bytes.length
    · rw [List.getElem_append_left early]
      exact first.byte k early
    · rw [List.length_append] at below
      rw [List.getElem_append_right (Nat.le_of_not_lt early),
        ← second.byte (k - bytes.length) (by omega)]
      congr 1
      omega

theorem holds_append_iff :
    memory.Holds start (bytes ++ more) ↔
      memory.Holds start bytes ∧ memory.Holds (start + bytes.length) more :=
  ⟨fun holds => ⟨holds.of_append, holds.drop⟩, fun ⟨first, second⟩ => first.append second⟩

end Wasm.Memory

namespace Service.Heap

variable {mem : Service.Heap} {m : ServiceMachine}

theorem read_eq_ok_or_outside (mem : Service.Heap) (m : ServiceMachine) (span : Service.Span) :
    (∃ bytes, mem.read m span = .ok bytes) ∨
      mem.size m < span.start.offset.toNat + span.length.toNat := by
  obtain past | ⟨bytes, length, holds⟩ :=
    (mem.now m).holds_or_outside span.start.offset.toNat span.length.toNat
  · exact .inr past
  · exact .inl ⟨bytes, read_eq_ok_iff.mpr ⟨length, holds⟩⟩

theorem exists_read_eq_ok_iff {span : Service.Span} :
    (∃ bytes, mem.read m span = .ok bytes) ↔
      span.start.offset.toNat + span.length.toNat ≤ mem.size m := by
  constructor
  · rintro ⟨bytes, found⟩
    obtain ⟨length, holds⟩ := read_eq_ok_iff.mp found
    rw [← length]
    exact holds.inside
  · intro inside
    exact (mem.read_eq_ok_or_outside m span).resolve_right (Nat.not_lt.mpr inside)

/-- A reading is refused if and only if its range ends outside the memory, in the words of that
range. -/
theorem read_eq_error_iff {span : Service.Span} {fault : Service.Fault} :
    mem.read m span = .error fault ↔
      mem.size m < span.start.offset.toNat + span.length.toNat ∧
        fault = .outsideMemory span.start span.length := by
  constructor
  · intro refused
    obtain ⟨bytes, found⟩ | past := mem.read_eq_ok_or_outside m span
    · cases refused.symm.trans found
    · exact ⟨past, Except.error.inj (refused.symm.trans (read_of_outside past))⟩
  · rintro ⟨past, rfl⟩
    exact read_of_outside past

theorem read_add_eq_ok_iff {addr : Service.Address} {a b : UInt32} {bytes : Bytes}
    (placed : addr.offset.toNat + a.toNat < 0x100000000) (sized : a.toNat + b.toNat < 0x100000000) :
    mem.read m ⟨addr, a + b⟩ = .ok bytes ↔
      ∃ first second, mem.read m ⟨addr, a⟩ = .ok first ∧
        mem.read m ⟨⟨addr.offset + a⟩, b⟩ = .ok second ∧ bytes = first ++ second := by
  have sum : (a + b).toNat = a.toNat + b.toNat := by
    rw [UInt32.toNat_add, Nat.mod_eq_of_lt sized]
  have middle : (addr.offset + a).toNat = addr.offset.toNat + a.toNat := by
    rw [UInt32.toNat_add, Nat.mod_eq_of_lt placed]
  simp only [read_eq_ok_iff, sum, middle]
  constructor
  · rintro ⟨length, holds⟩
    have early : (bytes.take a.toNat).length = a.toNat := by
      rw [List.length_take]
      omega
    rw [← List.take_append_drop a.toNat bytes, Memory.holds_append_iff, early] at holds
    obtain ⟨before, after⟩ := holds
    refine ⟨_, _, ⟨early, before⟩, ⟨?_, after⟩, (List.take_append_drop _ _).symm⟩
    rw [List.length_drop]
    omega
  · rintro ⟨first, second, ⟨early, before⟩, ⟨late, after⟩, rfl⟩
    rw [Memory.holds_append_iff, early]
    exact ⟨by rw [List.length_append, early, late], before, after⟩

theorem read_four (mem : Service.Heap) (m : ServiceMachine) (addr : Service.Address) :
    mem.read m ⟨addr, 4⟩ = (mem.readInt m addr).map littleEndian := by
  obtain past | ⟨bytes, four, holds⟩ := (mem.now m).holds_or_outside addr.offset.toNat 4
  · rw [readInt_of_outside past]
    exact read_of_outside past
  · obtain ⟨n, rfl⟩ := exists_littleEndian four
    rw [readInt_of_holds holds]
    exact read_eq_ok_iff.mpr ⟨four, holds⟩

theorem littleEndian_injective : Function.Injective littleEndian := by
  intro n other same
  rw [← decode_littleEndian n, same, decode_littleEndian]

theorem readInt_eq_ok_iff {addr : Service.Address} {n : Int32} :
    mem.readInt m addr = .ok n ↔ mem.read m ⟨addr, 4⟩ = .ok (littleEndian n) := by
  rw [read_four]
  cases mem.readInt m addr with
  | error fault => exact ⟨nofun, nofun⟩
  | ok found =>
    exact ⟨fun same => congrArg _ same, fun same =>
      congrArg _ (littleEndian_injective (Except.ok.inj same))⟩

theorem readInt_eq_error_iff {addr : Service.Address} {fault : Service.Fault} :
    mem.readInt m addr = .error fault ↔ mem.read m ⟨addr, 4⟩ = .error fault := by
  rw [read_four]
  cases mem.readInt m addr with
  | error found => exact ⟨fun same => same ▸ rfl, fun same => congrArg _ (Except.error.inj same)⟩
  | ok n => exact ⟨nofun, nofun⟩

theorem exists_stored {addr : Service.Address} (inside : addr.offset.toNat + 4 ≤ mem.size m)
    (n : Int32) :
    ∃ after, mem.write? addr.offset.toNat (littleEndian n) m = some after ∧
      mem.readInt after addr = .ok n := by
  have four := length_littleEndian n
  cases wrote : mem.write? addr.offset.toNat (littleEndian n) m with
  | none =>
    have past := write?_eq_none_iff.mp wrote
    omega
  | some after =>
    have deposited := deposited_of_write? (four ▸ Nat.succ_pos 3) wrote
    exact ⟨after, rfl, readInt_of_holds deposited.placed⟩

/-- A look at a range answers the bytes that stand there if the range ends inside the memory, and is
refused otherwise. It is the look at a first part of the range, followed by the look at the rest. A
look at an integer is a look at the four bytes that write it, the least significant one first, and
answers any integer that was stored. -/
theorem looks_bounded (mem : Service.Heap) (m : ServiceMachine) :
    (∀ span : Service.Span,
      ((∃ bytes, mem.read m span = .ok bytes) ↔
        span.start.offset.toNat + span.length.toNat ≤ mem.size m) ∧
      (∀ bytes, mem.read m span = .ok bytes ↔
        bytes.length = span.length.toNat ∧ (mem.now m).Holds span.start.offset.toNat bytes) ∧
      ∀ fault, mem.read m span = .error fault ↔
        mem.size m < span.start.offset.toNat + span.length.toNat ∧
          fault = .outsideMemory span.start span.length) ∧
    (∀ (addr : Service.Address) (a b : UInt32), addr.offset.toNat + a.toNat < 0x100000000 →
      a.toNat + b.toNat < 0x100000000 → ∀ bytes, mem.read m ⟨addr, a + b⟩ = .ok bytes ↔
        ∃ first second, mem.read m ⟨addr, a⟩ = .ok first ∧
          mem.read m ⟨⟨addr.offset + a⟩, b⟩ = .ok second ∧ bytes = first ++ second) ∧
    ∀ addr : Service.Address,
      mem.read m ⟨addr, 4⟩ = (mem.readInt m addr).map littleEndian ∧
      (∀ n, mem.readInt m addr = .ok n ↔ mem.read m ⟨addr, 4⟩ = .ok (littleEndian n)) ∧
      (∀ fault, mem.readInt m addr = .error fault ↔
        mem.size m < addr.offset.toNat + 4 ∧ fault = .outsideMemory addr 4) ∧
      ∀ n, addr.offset.toNat + 4 ≤ mem.size m →
        ∃ after, mem.write? addr.offset.toNat (littleEndian n) m = some after ∧
          mem.readInt after addr = .ok n := by
  refine ⟨fun span => ⟨exists_read_eq_ok_iff, fun bytes => read_eq_ok_iff,
    fun fault => read_eq_error_iff⟩, fun addr a b placed sized bytes =>
    read_add_eq_ok_iff placed sized, fun addr => ⟨mem.read_four m addr, fun n => readInt_eq_ok_iff,
    fun fault => readInt_eq_error_iff.trans read_eq_error_iff, fun n inside =>
    exists_stored inside n⟩⟩

/-- In a memory of 65536 bytes, the last two bytes are read as two single ones, and an integer can be
stored in the last four. -/
theorem sample_looks_bounded :
    (∀ bytes, Sample.heap.read Sample.allocating ⟨⟨65534⟩, 1 + 1⟩ = .ok bytes ↔
      ∃ first second, Sample.heap.read Sample.allocating ⟨⟨65534⟩, 1⟩ = .ok first ∧
        Sample.heap.read Sample.allocating ⟨⟨65534 + 1⟩, 1⟩ = .ok second ∧
          bytes = first ++ second) ∧
    (∃ bytes, Sample.heap.read Sample.allocating ⟨⟨65536⟩, 0⟩ = .ok bytes) ∧
    Sample.heap.read Sample.allocating ⟨⟨65537⟩, 0⟩ = .error (.outsideMemory ⟨65537⟩ 0) ∧
    ∃ after, Sample.heap.write? 65532 (littleEndian (-2)) Sample.allocating = some after ∧
      Sample.heap.readInt after ⟨65532⟩ = .ok (-2) := by
  have size : Sample.heap.size Sample.allocating = 65536 := by decide
  obtain ⟨ranges, parts, integers⟩ := looks_bounded Sample.heap Sample.allocating
  refine ⟨parts ⟨65534⟩ 1 1 (by decide) (by decide), (ranges ⟨⟨65536⟩, 0⟩).1.mpr ?_,
    ((ranges ⟨⟨65537⟩, 0⟩).2.2 _).mpr ⟨?_, rfl⟩, (integers ⟨65532⟩).2.2.2 (-2) ?_⟩
  · rw [size]
    decide
  · rw [size]
    decide
  · rw [size]
    decide

end Service.Heap

end FirstCall
