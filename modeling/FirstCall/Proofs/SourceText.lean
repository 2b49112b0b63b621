import Mathlib.Data.List.TakeWhile
import FirstCall.Proofs.Marshalling
import FirstCall.Service.Artifact

/-!
# The source as the service reads it

A source crosses into the memory of a service as its UTF-8 bytes with a zero byte behind them, and
the service is told where they begin. It reads up to the first zero byte. That is the one behind the
source, unless the source has a zero character of its own: then the service reads what stands before
it, and nobody is told.
-/

namespace FirstCall

open Wasm ServiceMachine

namespace Wasm.Memory

variable {memory : Memory} {start : Nat} {bytes : Bytes}

/-- The text that is read from an address on: the bytes up to the first zero byte, if there is one
in the memory. -/
def text? (memory : Memory) (start : Nat) : Option Bytes :=
  let rest := (List.range' start (memory.size - start)).map memory.byte
  if 0 ∈ rest then some (rest.takeWhile (· ≠ 0)) else none

theorem takeWhile_terminated (bytes rest : Bytes) :
    (bytes ++ [0] ++ rest).takeWhile (· ≠ 0) = bytes.takeWhile (· ≠ 0) := by
  induction bytes with
  | nil => rfl
  | cons byte bytes ih =>
    rw [List.cons_append, List.cons_append, List.takeWhile_cons, List.takeWhile_cons, ih]

/-- Whatever the rest of the memory holds, a text ends at its own first zero byte or at the one that
was put behind it. -/
theorem text?_of_holds (holds : memory.Holds start (bytes ++ [0])) :
    memory.text? start = some (bytes.takeWhile (· ≠ 0)) := by
  have inside := holds.inside
  obtain ⟨more, size⟩ : ∃ more, memory.size - start = (bytes ++ [0]).length + more :=
    ⟨memory.size - start - (bytes ++ [0]).length, by omega⟩
  have stands : (List.range' start (memory.size - start)).map memory.byte = bytes ++ [0] ++
      (List.range' (start + (bytes ++ [0]).length) more).map memory.byte := by
    rw [size, ← List.range'_append_1, List.map_append, map_byte_eq_iff.mpr holds.byte]
  unfold text?
  dsimp only
  rw [stands, if_pos (by simp), takeWhile_terminated]

end Wasm.Memory

namespace Text

/-- What stands before the first zero character of a text. -/
def cut (text : String) : String := String.ofList (text.toList.takeWhile (· ≠ '\x00'))

theorem toList_loop (bytes : ByteArray) (i : Nat) (front : Bytes) :
    ByteArray.toList.loop bytes i front = front.reverse ++ bytes.data.toList.drop i := by
  fun_induction ByteArray.toList.loop bytes i front with
  | case1 i front below ih =>
    have inside : i < bytes.data.toList.length := below
    rw [ih, List.reverse_cons, List.append_assoc, List.drop_eq_getElem_cons inside]
    simp [ByteArray.get!, below]
  | case2 i front past =>
    rw [List.drop_eq_nil_of_le (Nat.le_of_not_lt past), List.append_nil]

theorem toList_toUTF8 (text : String) :
    text.toUTF8.toList = text.toList.flatMap String.utf8EncodeChar := by
  rw [ByteArray.toList, toList_loop, String.toUTF8_eq_toByteArray, ← String.utf8Encode_toList]
  exact List.toList_data_toByteArray

/-- A character is written as one byte below 128 or in bytes that are all above. -/
theorem utf8EncodeChar_cases (c : Char) :
    (c.val.toNat ≤ 127 ∧ String.utf8EncodeChar c = [UInt8.ofNat c.val.toNat]) ∨
      ∀ byte ∈ String.utf8EncodeChar c, 128 ≤ byte.toNat := by
  unfold String.utf8EncodeChar
  dsimp only
  split
  · next small => exact .inl ⟨small, rfl⟩
  · right
    split <;> [skip; split] <;>
      simp only [List.forall_mem_cons, List.not_mem_nil, UInt8.toNat_ofNat', false_implies,
        implies_true, and_true] <;> omega

theorem zero_mem_utf8EncodeChar_iff {c : Char} : 0 ∈ String.utf8EncodeChar c ↔ c = '\x00' := by
  constructor
  · intro member
    obtain ⟨small, single⟩ | high := utf8EncodeChar_cases c
    · rw [single, List.mem_singleton] at member
      have low : 0 = c.val.toNat % 2 ^ 8 := by
        rw [← UInt8.toNat_ofNat', ← member]
        rfl
      have zero : c.val.toNat = 0 := by omega
      exact Char.ext (UInt32.toNat_inj.mp zero)
    · exact absurd (high 0 member) (by decide)
  · rintro rfl
    decide

theorem zero_mem_toUTF8_iff {text : String} :
    0 ∈ text.toUTF8.toList ↔ '\x00' ∈ text.toList := by
  rw [toList_toUTF8, List.mem_flatMap]
  constructor
  · rintro ⟨c, member, zero⟩
    exact zero_mem_utf8EncodeChar_iff.mp zero ▸ member
  · intro member
    exact ⟨'\x00', member, zero_mem_utf8EncodeChar_iff.mpr rfl⟩

theorem takeWhile_flatMap (chars : List Char) :
    (chars.flatMap String.utf8EncodeChar).takeWhile (· ≠ 0) =
      (chars.takeWhile (· ≠ '\x00')).flatMap String.utf8EncodeChar := by
  induction chars with
  | nil => rfl
  | cons c chars ih =>
    by_cases zero : c = '\x00'
    · subst zero
      rfl
    · have kept : decide (c ≠ '\x00') = true := decide_eq_true zero
      have none : ∀ byte ∈ String.utf8EncodeChar c, (decide (byte ≠ 0)) = true := by
        rintro byte member
        refine decide_eq_true fun same => zero (zero_mem_utf8EncodeChar_iff.mp (same ▸ member))
      rw [List.flatMap_cons, List.takeWhile_append_of_pos none, ih, List.takeWhile_cons,
        if_pos kept, List.flatMap_cons]

/-- Cutting the bytes of a text before the first zero byte is cutting the text. -/
theorem toUTF8_cut (text : String) :
    (cut text).toUTF8.toList = text.toUTF8.toList.takeWhile (· ≠ 0) := by
  rw [toList_toUTF8, toList_toUTF8, takeWhile_flatMap, cut, String.toList_ofList]

theorem takeWhile_toUTF8_eq_iff {text : String} :
    text.toUTF8.toList.takeWhile (· ≠ 0) = text.toUTF8.toList ↔ '\x00' ∉ text.toList := by
  rw [List.takeWhile_eq_self_iff, ← zero_mem_toUTF8_iff]
  constructor
  · intro whole member
    exact absurd rfl (of_decide_eq_true (whole 0 member))
  · intro free byte member
    exact decide_eq_true fun same => free (same ▸ member)

end Text

namespace Service.Heap.Storing

variable {mem : Service.Heap} {limits : Limits} {bytes : Bytes} {m ready : ServiceMachine}

/-- Whatever stood in the memory before, a text that was stored is read up to its first zero byte. -/
theorem text?_eq {addr : Service.Address} (storing : mem.Storing limits bytes m (.ok addr) ready) :
    (mem.now ready).text? addr.offset.toNat = some (bytes.takeWhile (· ≠ 0)) :=
  Memory.text?_of_holds storing.placed.2

/-- If there is room for a text where the allocator says, it is stored there. -/
theorem of_inside {raw : Int32} {middle after : ServiceMachine}
    {result : Except Service.Fault Service.Address}
    (storing : mem.Storing limits bytes m result after) (short : bytes.length + 1 < 0x100000000)
    (made : Makes limits [mem.allocation (room bytes) (.ok raw)] m middle)
    (inside : raw.toUInt32.toNat + bytes.length + 1 ≤ mem.size middle) :
    result = .ok ⟨raw.toUInt32⟩ ∧ mem.Deposited raw.toUInt32.toNat (bytes ++ [0]) middle after := by
  have once : ∀ {ended last}, Makes limits [mem.allocation (room bytes) ended] m last →
      ended = .ok raw ∧ last = middle := fun other =>
    Prod.mk.inj ((makes_one_iff.mp other).symm.trans (makes_one_iff.mp made))
  cases storing with
  | tooLong long => exact absurd short (Nat.not_lt.mpr long)
  | stopped _ other => cases (once other).1
  | outside _ other past =>
    obtain ⟨same, rfl⟩ := once other
    obtain rfl := Except.ok.inj same
    omega
  | stored _ other _ deposited =>
    obtain ⟨same, rfl⟩ := once other
    obtain rfl := Except.ok.inj same
    exact ⟨rfl, deposited⟩

end Service.Heap.Storing

namespace Service.Artifact

variable {loaded : Service.Artifact} {limits : Limits} {source : String}
  {m ready after : ServiceMachine}

def parsed : Except (Stop Empty) Int32 → Except Service.Fault Service.Parsed
  | .ok raw => .ok ⟨raw⟩
  | .error why => .error (.stopped .parse (cause why))

/-- How a source is parsed: what comes of it, and in what state the service is left. Either the
source does not get into the memory, for one of the reasons for which a text does not, and the
parser is not called; or it does, and the parser is called with its address, once. -/
inductive Parsing (loaded : Service.Artifact) (limits : Limits) (source : String)
    (m : ServiceMachine) : Except Service.Fault Service.Parsed → ServiceMachine → Prop where
  | untaken {fault : Service.Fault} {after : ServiceMachine}
      (storing : loaded.memory.Storing limits source.toUTF8.toList m (.error fault) after) :
      Parsing loaded limits source m (.error fault) after
  | handed {addr : Service.Address} {ready after : ServiceMachine}
      {ended : Except (Stop Empty) Int32}
      (storing : loaded.memory.Storing limits source.toUTF8.toList m (.ok addr) ready)
      (made : Makes limits [⟨loaded.parse, [addr.toInt32], ended⟩] ready after) :
      Parsing loaded limits source m (parsed ended) after

theorem parse_of_error {fault : Service.Fault}
    (refused : (loaded.memory.writeText limits source.toUTF8.toList m).result = .error fault) :
    ((loaded.toService limits).parse source m).result = .error fault ∧
      ((loaded.toService limits).parse source m).state =
        (loaded.memory.writeText limits source.toUTF8.toList m).state := by
  change (Exchange.andThen (loaded.memory.writeText limits source.toUTF8.toList) _ m).result = _ ∧
    (Exchange.andThen (loaded.memory.writeText limits source.toUTF8.toList) _ m).state = _
  unfold Exchange.andThen
  generalize loaded.memory.writeText limits source.toUTF8.toList m = reply at refused
  obtain ⟨result, notices, after⟩ := reply
  obtain rfl := refused
  exact ⟨rfl, rfl⟩

theorem parse_of_ok {addr : Service.Address} {ended : Except (Stop Empty) Int32}
    (taken : (loaded.memory.writeText limits source.toUTF8.toList m).result = .ok addr)
    (made : Makes limits [⟨loaded.parse, [addr.toInt32], ended⟩]
      (loaded.memory.writeText limits source.toUTF8.toList m).state after) :
    ((loaded.toService limits).parse source m).result = parsed ended ∧
      ((loaded.toService limits).parse source m).state = after := by
  have ran := makes_one_iff.mp made
  change (Exchange.andThen (loaded.memory.writeText limits source.toUTF8.toList) _ m).result = _ ∧
    (Exchange.andThen (loaded.memory.writeText limits source.toUTF8.toList) _ m).state = _
  unfold Exchange.andThen
  generalize loaded.memory.writeText limits source.toUTF8.toList m = reply at taken ran
  obtain ⟨result, notices, ready⟩ := reply
  obtain rfl := taken
  dsimp only at ran ⊢
  cases ended with
  | error why =>
    rw [Exchange.bind_of_error (exchange_of_error ran)]
    exact ⟨rfl, rfl⟩
  | ok raw =>
    rw [Exchange.bind_of_ok (exchange_of_ok ran)]
    exact ⟨rfl, rfl⟩

theorem parse_parsing (loaded : Service.Artifact) (limits : Limits) (source : String)
    (m : ServiceMachine) :
    loaded.Parsing limits source m ((loaded.toService limits).parse source m).result
      ((loaded.toService limits).parse source m).state := by
  have storing := Service.Heap.writeText_storing loaded.memory limits source.toUTF8.toList m
  cases wrote : (loaded.memory.writeText limits source.toUTF8.toList m).result with
  | error fault =>
    obtain ⟨result, state⟩ := parse_of_error wrote
    rw [wrote] at storing
    rw [result, state]
    exact .untaken storing
  | ok addr =>
    cases call : callInt limits loaded.parse [addr.toInt32]
        (loaded.memory.writeText limits source.toUTF8.toList m).state with
    | mk ended after =>
      have made : Makes limits [⟨loaded.parse, [addr.toInt32], ended⟩] _ after :=
        makes_one_iff.mpr call
      obtain ⟨result, state⟩ := parse_of_ok wrote made
      rw [wrote] at storing
      rw [result, state]
      exact .handed storing made

/-- If the allocator finds room for a source inside the memory, the parser is called, once, and at
that moment it finds the source at the address that it is given, up to the first zero byte: all of
it if there is no zero character in the source, and else what stands before the first one. In no
other case is the parser called. A source without room is refused for the reason for which a text
is; if the parser stops, the failure says that it happened while parsing. -/
theorem source_as_read (loaded : Service.Artifact) (limits : Limits) (source : String)
    (m : ServiceMachine) :
    (∀ (raw : Int32) (middle : ServiceMachine), source.toUTF8.toList.length + 1 < 0x100000000 →
      Makes limits [loaded.memory.allocation (Service.Heap.room source.toUTF8.toList) (.ok raw)] m
        middle →
      raw.toUInt32.toNat + source.toUTF8.toList.length + 1 ≤ loaded.memory.size middle →
      ∃ (ready after : ServiceMachine) (ended : Except (Stop Empty) Int32),
        loaded.memory.Deposited raw.toUInt32.toNat (source.toUTF8.toList ++ [0]) middle ready ∧
        (loaded.memory.now ready).text? raw.toUInt32.toNat =
          some (source.toUTF8.toList.takeWhile (· ≠ 0)) ∧
        Makes limits [⟨loaded.parse, [raw], ended⟩] ready after ∧
        ((loaded.toService limits).parse source m).result = parsed ended ∧
        ((loaded.toService limits).parse source m).state = after) ∧
    loaded.Parsing limits source m ((loaded.toService limits).parse source m).result
      ((loaded.toService limits).parse source m).state ∧
    (∀ addr ready, loaded.memory.Storing limits source.toUTF8.toList m (.ok addr) ready →
      (loaded.memory.now ready).text? addr.offset.toNat = some (Text.cut source).toUTF8.toList ∧
      ((loaded.memory.now ready).text? addr.offset.toNat = some source.toUTF8.toList ↔
        '\x00' ∉ source.toList)) := by
  refine ⟨fun raw middle short made inside => ?_, parse_parsing loaded limits source m, ?_⟩
  · have storing := Service.Heap.writeText_storing loaded.memory limits source.toUTF8.toList m
    obtain ⟨taken, deposited⟩ := storing.of_inside short made inside
    cases call : callInt limits loaded.parse [raw]
        (loaded.memory.writeText limits source.toUTF8.toList m).state with
    | mk ended after =>
      have called : Makes limits [⟨loaded.parse, [raw], ended⟩] _ after := makes_one_iff.mpr call
      have same : (⟨raw.toUInt32⟩ : Service.Address).toInt32 = raw :=
        Service.Address.toInt32_ofInt32 raw
      obtain ⟨result, state⟩ := parse_of_ok taken (same.symm ▸ called)
      exact ⟨_, after, ended, deposited, Memory.text?_of_holds deposited.placed, called, result,
        state⟩
  · intro addr ready storing
    rw [storing.text?_eq, Text.toUTF8_cut]
    exact ⟨rfl, Option.some_inj.trans Text.takeWhile_toUTF8_eq_iff⟩

end Service.Artifact

namespace Sample

/-- The exports of a service that has one function for everything. -/
def multiplying : Service.Artifact := ⟨heap, 0, 0, 0, 0⟩

end Sample

namespace Service.Artifact

/-- A source of two characters, the second of which is the zero character: the service is called
with the address of the source and reads its first character. -/
theorem sample_source_as_read :
    ∃ ready : ServiceMachine,
      (Sample.heap.now ready).text? 60000 = some [97] ∧
      (Sample.heap.now ready).text? 60000 ≠ some "a\x00".toUTF8.toList ∧
      ∃ ended after, Makes Sample.limits [⟨0, [60000], ended⟩] ready after ∧
        ((Sample.multiplying.toService Sample.limits).parse "a\x00" Sample.allocating).result =
          parsed ended := by
  have bytes : "a\x00".toUTF8.toList = [97, 0] := by
    rw [Text.toList_toUTF8]
    decide
  obtain ⟨called, _, seen⟩ :=
    source_as_read Sample.multiplying Sample.limits "a\x00" Sample.allocating
  rw [bytes] at called seen
  have room : ((Service.Heap.room [97, 0]).toInt32.toUInt32 * 20000).toInt32 = 60000 := by decide
  have allocated : Makes Sample.limits
      [Sample.heap.allocation (Service.Heap.room [97, 0]) (.ok 60000)] Sample.allocating
      Sample.allocating := by
    refine makes_one_iff.mpr ((Sample.callInt_allocating rfl _).trans ?_)
    rw [room]
    rfl
  have short : ([97, 0] : Bytes).length + 1 < 0x100000000 := by decide
  have inside : (60000 : Int32).toUInt32.toNat + ([97, 0] : Bytes).length + 1 ≤
      Sample.heap.size Sample.allocating := by decide
  obtain ⟨ready, after, ended, deposited, text, made, result, _⟩ :=
    called 60000 Sample.allocating short allocated inside
  refine ⟨ready, text, ?_, ended, after, made, result⟩
  rw [bytes]
  exact fun whole => absurd (by decide)
    ((seen ⟨60000⟩ ready (.stored short allocated inside deposited)).2.mp whole)

end Service.Artifact

end FirstCall
