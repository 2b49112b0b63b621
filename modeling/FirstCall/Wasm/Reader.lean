import FirstCall.Bytes
import FirstCall.Wasm.Defect

/-!
# Reading bytes

A reader takes what it needs from the front of a byte string and leaves the rest, or reports a
defect. Integers are written in groups of seven bits, the lowest first; the last byte that a
width allows must not hold bits beyond the width.
-/

namespace FirstCall.Wasm

abbrev Reader := StateT Bytes (Except Defect)

namespace Reader

def fail {α : Type} (defect : Defect) : Reader α := throw defect

def byte : Reader UInt8
  | [] => .error .unexpectedEnd
  | b :: rest => .ok (b, rest)

def peek : Reader UInt8
  | [] => .error .unexpectedEnd
  | b :: rest => .ok (b, b :: rest)

/-- Splits off a stretch of the given length, if the bytes are that long. -/
def split? : Nat → Bytes → Option (Bytes × Bytes)
  | 0, bytes => some ([], bytes)
  | _ + 1, [] => none
  | n + 1, b :: rest => (split? n rest).map fun (front, back) => (b :: front, back)

def take (n : Nat) : Reader Bytes := fun bytes =>
  match split? n bytes with
  | some found => .ok found
  | none => .error .unexpectedEnd

/-- An unsigned integer of `more` groups and a last byte of which `lastBits` bits count. -/
def unsigned (lastBits : Nat) : (more : Nat) → Reader Nat
  | 0 => do
    let b ← byte
    if b.toNat < 2 ^ lastBits then pure b.toNat else fail .integerTooLong
  | more + 1 => do
    let b ← byte
    if b.toNat < 128 then pure b.toNat
    else do
      let rest ← unsigned lastBits more
      pure (b.toNat - 128 + 128 * rest)

/-- The integer that seven bits stand for when the highest of them is a sign. -/
def signExtend (group : Nat) : Int := if group < 64 then group else group - 128

/-- A signed integer of `more` groups and a last byte of which `lastBits` bits count. -/
def signed (lastBits : Nat) : (more : Nat) → Reader Int
  | 0 => do
    let b ← byte
    let value := signExtend b.toNat
    if b.toNat < 128 ∧ -(2 ^ (lastBits - 1)) ≤ value ∧ value < 2 ^ (lastBits - 1) then pure value
    else fail .integerTooLong
  | more + 1 => do
    let b ← byte
    if b.toNat < 128 then pure (signExtend b.toNat)
    else do
      let rest ← signed lastBits more
      pure (b.toNat - 128 + 128 * rest)

def u32 : Reader Nat := unsigned 4 4

def s32 : Reader Int := signed 4 4

def s33 : Reader Int := signed 5 4

def s64 : Reader Int := signed 1 9

def times {α : Type} (item : Reader α) : Nat → Reader (List α)
  | 0 => pure []
  | n + 1 => do
    let first ← item
    let rest ← times item n
    pure (first :: rest)

def list {α : Type} (item : Reader α) : Reader (List α) := do
  times item (← u32)

def longestName : Nat := 100000

def name : Reader String := do
  let length ← u32
  if longestName < length then fail .nameTooLong
  else
    let bytes ← take length
    match String.fromUTF8? ⟨bytes.toArray⟩ with
    | some text => pure text
    | none => fail .nameNotUtf8

def all {α : Type} (reader : Reader α) (bytes : Bytes) : Except Defect α :=
  match reader bytes with
  | .ok (value, []) => .ok value
  | .ok (_, _ :: _) => .error .trailingBytes
  | .error defect => .error defect

/-- A stretch of bytes, preceded by its length and read as a whole. -/
def sized {α : Type} (reader : Reader α) : Reader α := do
  let length ← u32
  let bytes ← take length
  match all reader bytes with
  | .ok value => pure value
  | .error defect => fail defect

end Reader

end FirstCall.Wasm
