namespace WireSchema

-- The bits are the identity of a double. Numeric comparison, which identifies the two zeros and
-- sets every NaN apart, is a separate operation.

structure Double where
  bits : UInt64
deriving DecidableEq, Repr, Inhabited

namespace Double

def zero : Double := ⟨0⟩

def one : Double := ⟨0x3ff0000000000000⟩

def isNegative (x : Double) : Bool :=
  Nat.pow 2 63 ≤ x.bits.toNat

def magnitude (x : Double) : Nat :=
  x.bits.toNat % Nat.pow 2 63

def exponentField (x : Double) : Nat :=
  x.magnitude / Nat.pow 2 52

def fraction (x : Double) : Nat :=
  x.magnitude % Nat.pow 2 52

def isNaN (x : Double) : Bool :=
  x.exponentField = 2047 ∧ x.fraction ≠ 0

def isInfinite (x : Double) : Bool :=
  x.exponentField = 2047 ∧ x.fraction = 0

def isZero (x : Double) : Bool :=
  x.magnitude = 0

-- The absolute value of a finite double is `significand * 2 ^ exponent`.
def significand (x : Double) : Nat :=
  if x.exponentField = 0 then x.fraction else x.fraction + Nat.pow 2 52

def exponent (x : Double) : Int :=
  if x.exponentField = 0 then -1074 else (x.exponentField : Int) - 1075

def rank (x : Double) : Int :=
  if x.isNegative then -(x.magnitude : Int) else x.magnitude

def numEq (x y : Double) : Bool :=
  !x.isNaN && !y.isNaN && x.rank == y.rank

def numLt (x y : Double) : Bool :=
  !x.isNaN && !y.isNaN && decide (x.rank < y.rank)

def numLe (x y : Double) : Bool :=
  x.numLt y || x.numEq y

def infinity (negative : Bool) : Double :=
  ⟨if negative then 0xfff0000000000000 else 0x7ff0000000000000⟩

def nan : Double := ⟨0x7ff8000000000000⟩

def roundHalfEven (n d : Nat) : Nat :=
  let q := n / d
  let r := 2 * (n % d)
  if r < d then q else if d < r then q + 1 else if q % 2 = 0 then q else q + 1

def scale (n d : Nat) (e : Int) : Nat × Nat :=
  if 0 ≤ e then (n * Nat.pow 2 e.toNat, d) else (n, d * Nat.pow 2 (-e).toNat)

def floorLog2 (n d : Nat) : Int :=
  let e : Int := (n.log2 : Int) - d.log2
  let (n', d') := scale n d (-e)
  if d' ≤ n' then e else e - 1

def magnitudeOfQuotient (n d : Nat) : Nat :=
  if n = 0 then 0 else
  -- The last place lies 52 places below the leading bit, but never below that of the subnormals.
  let q := max (floorLog2 n d - 52) (-1074)
  let (n', d') := scale n d (-q)
  let m := roundHalfEven n' d'
  -- A significand that is rounded up to two to the fifty-third carries into the exponent field.
  let bits := if m < Nat.pow 2 52 then m else (q + 1075).toNat * Nat.pow 2 52 + (m - Nat.pow 2 52)
  min bits (2047 * Nat.pow 2 52)

def ofDecimal (negative : Bool) (digits : Nat) (tens : Int) : Double :=
  let width : Int := (Nat.toDigits 10 digits).length
  let magnitude :=
    if digits = 0 then 0
    -- Far outside the range of doubles no power of ten has to be computed.
    else if 400 < width + tens then 2047 * Nat.pow 2 52
    else if width + tens < -400 then 0
    else if 0 ≤ tens then magnitudeOfQuotient (digits * Nat.pow 10 tens.toNat) 1
    else magnitudeOfQuotient digits (Nat.pow 10 (-tens).toNat)
  ⟨UInt64.ofNat (magnitude + if negative then Nat.pow 2 63 else 0)⟩

end Double

end WireSchema
