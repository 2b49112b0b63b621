import FirstCall.Text.Quoted

/-!
# Tokens

What the compiler service hands out to be handed back: addresses in its memory, parsed programs
and compiler states. All of them are plain integers on the wire; they are distinct types here, so
that none can be taken for another.
-/

namespace FirstCall

structure Service.Address where
  offset : UInt32
  deriving DecidableEq, Repr, Inhabited

namespace Service.Address

def ofInt32 (value : Int32) : Service.Address := ⟨value.toUInt32⟩

/-- The integer that stands for the address in a call to the service. -/
def toInt32 (addr : Service.Address) : Int32 := addr.offset.toInt32

def text (addr : Service.Address) : String :=
  "0x" ++ Text.hexadecimal addr.offset.toNat

def inspect (addr : Service.Address) : String :=
  Text.wrapped "ServiceAddr" (toString addr.offset.toNat)

@[simp] theorem ofInt32_toInt32 (addr : Service.Address) : ofInt32 addr.toInt32 = addr := by
  simp [ofInt32, toInt32]

@[simp] theorem toInt32_ofInt32 (value : Int32) : (ofInt32 value).toInt32 = value := by
  simp [ofInt32, toInt32]

end Service.Address

structure Service.Span where
  start : Service.Address
  length : UInt32
  deriving DecidableEq, Repr

def Service.Span.inspect (span : Service.Span) : String :=
  Text.record "ServiceBuffer" [("addr", span.start.inspect), ("len", toString span.length.toNat)]

structure Service.Parsed where
  token : Int32
  deriving DecidableEq, Repr

def Service.Parsed.inspect (ir : Service.Parsed) : String :=
  Text.wrapped "IrModuleHandle" (toString ir.token.toInt)

/-- The compiler state that the service builds from a parsed program. -/
structure Service.Compiler where
  token : Int32
  deriving DecidableEq, Repr

def Service.Compiler.inspect (compiler : Service.Compiler) : String :=
  Text.wrapped "CompilerHandle" (toString compiler.token.toInt)

end FirstCall
