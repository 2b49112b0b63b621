import FirstCall.Wasm.Integer

/-!
# Floating-point numbers

The binary formats of 32 and 64 bits, each a sign, an exponent and a fraction. Every operator
computes its result exactly, as a rational number, and rounds it once to the nearest number of the
format, ties to even. All results that are no numbers are the same one.
-/

namespace FirstCall.Wasm

/-- What a pattern of bits stands for. Zero has a sign, too. -/
inductive FloatValue where
  | nan
  | inf (isNegative : Bool)
  | finite (isNegative : Bool) (size : Rat)
  deriving DecidableEq

/-- The nearest natural number of a rational one that is not negative, ties to even. -/
def roundEven (x : Rat) : Nat :=
  let below := x.floor.toNat
  let rest := x - below
  if rest < 1 / 2 then below
  else if 1 / 2 < rest then below + 1
  else if below % 2 = 0 then below else below + 1

/-- The largest power of two that a positive rational number reaches. -/
def log2 (x : Rat) : Int :=
  let guess : Int := x.num.natAbs.log2 - x.den.log2
  if x < 2 ^ guess then guess - 1 else guess

namespace Width

def fraction : Width → Nat
  | .w32 => 23
  | .w64 => 52

def leastExponent : Width → Int
  | .w32 => -126
  | .w64 => -1022

def signBit (width : Width) : Nat := 1 <<< (width.bits - 1)

def infBits (width : Width) : Nat := width.signBit - 1 <<< width.fraction

def nanBits (width : Width) : Nat := width.infBits + 1 <<< (width.fraction - 1)

def magnitude (width : Width) (bits : Nat) : Nat := bits % width.signBit

def isNegative (width : Width) (bits : Nat) : Bool := width.signBit ≤ bits

def withSign (width : Width) (isNegative : Bool) (magnitude : Nat) : Nat :=
  if isNegative then width.signBit + magnitude else magnitude

def decode (width : Width) (bits : Nat) : FloatValue :=
  let magnitude := width.magnitude bits
  let exponent := magnitude >>> width.fraction
  let digits := magnitude % 1 <<< width.fraction
  let unit : Rat := 2 ^ (width.leastExponent - width.fraction)
  if width.infBits < magnitude then .nan
  else if magnitude = width.infBits then .inf (width.isNegative bits)
  else if exponent = 0 then .finite (width.isNegative bits) (digits * unit)
  else .finite (width.isNegative bits)
    ((1 <<< width.fraction + digits : Nat) * unit * 2 ^ (exponent - 1))

/-- The bits of a rational number that is not negative. A number of the largest binade that is
rounded up becomes infinite by itself, as the exponent stands above the fraction. -/
def round (width : Width) (x : Rat) : Nat :=
  if x ≤ 0 then 0
  else
    let exponent := max (log2 x) width.leastExponent
    let digits := roundEven (x * 2 ^ ((width.fraction : Int) - exponent))
    let bits := (exponent - width.leastExponent).toNat <<< width.fraction + digits
    min bits width.infBits

def encode (width : Width) : FloatValue → Nat
  | .nan => width.nanBits
  | .inf isNegative => width.withSign isNegative width.infBits
  | .finite isNegative size => width.withSign isNegative (width.round size)

end Width

namespace FloatValue

/-- A number with the sign of its own, or with the given one if it is zero. -/
def ofRat (zeroIsNegative : Bool) (x : Rat) : FloatValue :=
  if x = 0 then .finite zeroIsNegative 0 else .finite (x < 0) x.abs

def signed (isNegative : Bool) (size : Rat) : Rat := if isNegative then -size else size

def neg : FloatValue → FloatValue
  | .nan => .nan
  | .inf s => .inf !s
  | .finite s x => .finite (!s) x

def add : FloatValue → FloatValue → FloatValue
  | .nan, _ | _, .nan => .nan
  | .inf s, .inf t => if s = t then .inf s else .nan
  | .inf s, .finite .. => .inf s
  | .finite .., .inf t => .inf t
  | .finite s x, .finite t y => ofRat (s && t) (signed s x + signed t y)

def mul : FloatValue → FloatValue → FloatValue
  | .nan, _ | _, .nan => .nan
  | .inf s, .inf t => .inf (s != t)
  | .inf s, .finite t y => if y = 0 then .nan else .inf (s != t)
  | .finite s x, .inf t => if x = 0 then .nan else .inf (s != t)
  | .finite s x, .finite t y => .finite (s != t) (x * y)

def div : FloatValue → FloatValue → FloatValue
  | .nan, _ | _, .nan => .nan
  | .inf _, .inf _ => .nan
  | .inf s, .finite t _ => .inf (s != t)
  | .finite s _, .inf t => .finite (s != t) 0
  | .finite s x, .finite t y =>
    if y = 0 then if x = 0 then .nan else .inf (s != t) else .finite (s != t) (x / y)

/-- The square root of a rational number, cut off behind so many binary digits. Where something is
cut off, one more digit keeps the result off the middle between two numbers. -/
def root (digits : Nat) (x : Rat) : Rat :=
  let scaled := x * 4 ^ digits
  let below := Nat.sqrt scaled.floor.toNat
  if (below * below : Nat) = scaled then below / 2 ^ digits
  else (2 * below + 1 : Nat) / 2 ^ (digits + 1)

def sqrt : FloatValue → FloatValue
  | .nan => .nan
  | .inf s => if s then .nan else .inf s
  | .finite s x =>
    if x = 0 then .finite s x
    else if s then .nan
    else .finite s (root (x.den.log2 + 64) x)

def integral (rounding : Bool → Rat → Nat) : FloatValue → FloatValue
  | .finite s x => .finite s (rounding s x)
  | other => other

end FloatValue

/-- The size of an integer near a number, by its sign and its size. -/
def FloatUnary.rounding : FloatUnary → Bool → Rat → Nat
  | .ceil, false, x => x.ceil.toNat
  | .floor, true, x => x.ceil.toNat
  | .nearest, _, x => roundEven x
  | _, _, x => x.floor.toNat

def FloatUnary.eval (width : Width) (bits : Nat) : FloatUnary → Nat
  | .abs => width.magnitude bits
  | .neg => width.withSign (!width.isNegative bits) (width.magnitude bits)
  | .sqrt => width.encode (width.decode bits).sqrt
  | op => width.encode ((width.decode bits).integral op.rounding)

/-- Whether one number is smaller than another. No bits of a number are above those of infinity. -/
def Width.less (width : Width) (x y : Nat) : Bool :=
  let place (bits : Nat) : Int :=
    if width.isNegative bits then -(width.magnitude bits) else width.magnitude bits
  width.magnitude x ≤ width.infBits && width.magnitude y ≤ width.infBits && place x < place y

def Width.same (width : Width) (x y : Nat) : Bool :=
  width.magnitude x ≤ width.infBits && width.magnitude y ≤ width.infBits &&
    (x = y || width.magnitude x + width.magnitude y = 0)

def FloatCompare.eval (width : Width) (x y : Nat) : FloatCompare → Bool
  | .eq => width.same x y
  | .ne => !width.same x y
  | .lt => width.less x y
  | .gt => width.less y x
  | .le => width.less x y || width.same x y
  | .ge => width.less y x || width.same x y

def FloatBinary.eval (width : Width) (x y : Nat) : FloatBinary → Nat
  | .add => width.encode ((width.decode x).add (width.decode y))
  | .sub => width.encode ((width.decode x).add (width.decode y).neg)
  | .mul => width.encode ((width.decode x).mul (width.decode y))
  | .div => width.encode ((width.decode x).div (width.decode y))
  | .min =>
    if width.less x y then x
    else if width.less y x then y
    else if width.same x y then x ||| y
    else width.nanBits
  | .max =>
    if width.less x y then y
    else if width.less y x then x
    else if width.same x y then x &&& y
    else width.nanBits
  | .copysign => width.withSign (width.isNegative y) (width.magnitude x)
  | .lesser => if width.less y x then y else x
  | .greater => if width.less x y then y else x

namespace Width

/-- The integer that a number is cut off to, unless it is infinite or no number. -/
def truncated? (width : Width) (bits : Nat) : Option Int :=
  match width.decode bits with
  | .finite s x => some (if s then -x.floor else x.floor)
  | _ => none

def isNan (width : Width) (bits : Nat) : Bool := width.infBits < width.magnitude bits

/-- The word for the closest integer below in size, as far as the width goes; zero for no number. -/
def truncateSat (width : Width) (n : Nat) (isSigned : Bool) (bits : Nat) : BitVec n :=
  match width.truncated? bits with
  | some value => saturate n isSigned value
  | none =>
    if width.isNan bits then 0
    else saturate n isSigned (if width.isNegative bits then -(1 <<< n : Nat) else (1 <<< n : Nat))

/-- The word for the closest integer below in size, if there is one. -/
def truncateTrap {ε : Type} (width : Width) (n : Nat) (isSigned : Bool) (bits : Nat) :
    Except (Stop ε) (BitVec n) :=
  match width.truncated? bits with
  | some value =>
    let word := BitVec.ofInt n value
    if reading isSigned word = value then .ok word else .error (.trap .integerOverflow)
  | none => .error (if width.isNan bits then .snag .notANumber else .trap .integerOverflow)

def ofInt (width : Width) (value : Int) : Nat := width.encode (.ofRat false value)

def reformat (source target : Width) (bits : Nat) : Nat := target.encode (source.decode bits)

end Width

end FirstCall.Wasm
