import WireSchema.Number.Double

namespace WireSchema

-- A finite double other than zero owns the interval of reals that round to it. For each number of
-- digits the two decimals around the double are tried, and the first count with a hit wins.

-- The value is `0.d₁d₂… × 10 ^ point`.
structure Decimal where
  digits : List Char
  point : Int
deriving DecidableEq, Repr

namespace Decimal

def quotient (m : Nat) (e t : Int) : Nat × Nat :=
  let (n, d) := Double.scale m 1 e
  if 0 ≤ t then (n, d * Nat.pow 10 t.toNat) else (n * Nat.pow 10 (-t).toNat, d)

-- `10 ^ (point - 1) ≤ m * 2 ^ e < 10 ^ point`.
def pointOf (m : Nat) (e : Int) : Int :=
  let (n, d) := Double.scale m 1 e
  -- The numbers of digits leave two places to choose from.
  let estimate : Int := ((Nat.toDigits 10 n).length : Int) - (Nat.toDigits 10 d).length
  let (n', d') := quotient m e estimate
  if n' < d' then estimate else estimate + 1

-- The scale is a quarter of the last place, so that both ends are integers.
structure Interval where
  low : Nat
  middle : Nat
  high : Nat
  closed : Bool
  scale : Int

-- Below a power of two the spacing halves, so the lower end is nearer.
def intervalOf (x : Double) : Interval :=
  let m := x.significand
  let below := if x.fraction = 0 ∧ 1 < x.exponentField then 1 else 2
  { low := 4 * m - below, middle := 4 * m, high := 4 * m + 2, closed := m % 2 == 0,
    scale := x.exponent - 2 }

def Interval.contains (i : Interval) (d : Nat) (t : Int) : Bool :=
  let (low, one) := quotient i.low i.scale t
  let (high, _) := quotient i.high i.scale t
  let v := d * one
  if i.closed then low ≤ v && v ≤ high else low < v && v < high

def Interval.hit? (i : Interval) (t : Int) : Option Nat :=
  let (n, one) := quotient i.middle i.scale t
  let down := n / one
  let up := down + 1
  match i.contains down t, i.contains up t with
  | false, false => none
  | true, false => some down
  | false, true => some up
  -- Both read back: the nearer one, and of two equally near ones the upper.
  | true, true => if 2 * (n % one) < one then some down else some up

def search (i : Interval) (point : Int) : Nat → Nat → Nat × Int
  | 0, count => (0, point - count)
  | tries + 1, count =>
    match i.hit? (point - count) with
    | some d => (d, point - count)
    | none => search i point tries (count + 1)

-- Seventeen digits always suffice for a double.
def shortest (x : Double) : Decimal :=
  let i := intervalOf x
  let point := pointOf x.significand x.exponent
  let (d, t) := search i point 17 1
  let digits := Nat.toDigits 10 d
  let kept := (digits.reverse.dropWhile (· == '0')).reverse
  { digits := kept, point := t + digits.length }

def positional (x : Decimal) (places : Nat) : List Char :=
  let n := x.digits.length
  let point := x.point.toNat
  let whole :=
    if x.point ≤ 0 then ['0']
    else x.digits.take point ++ List.replicate (point - n) '0'
  let part :=
    if x.point ≤ 0 then List.replicate (-x.point).toNat '0' ++ x.digits
    else x.digits.drop point
  let part := part ++ List.replicate (places - part.length) '0'
  if part.isEmpty then whole else whole ++ '.' :: part

def scientific (x : Decimal) : List Char :=
  let head := x.digits.take 1
  let tail := x.digits.drop 1
  let exponent := x.point - 1
  let mark := 'e' :: (if exponent < 0 then ['-'] else []) ++ Nat.toDigits 10 exponent.natAbs
  (if tail.isEmpty then head else head ++ '.' :: tail) ++ mark

end Decimal

namespace Double

structure Style where
  places : Nat
  positional : Int → Bool

def Style.described : Style :=
  { places := 1, positional := fun e => -4 ≤ e && e ≤ 15 }

def Style.plain : Style :=
  { places := 0, positional := fun _ => true }

def format (style : Style) (x : Double) : String :=
  if x.isNaN then "NaN" else
  let sign := if x.isNegative then ['-'] else []
  let body :=
    if x.isInfinite then "inf".toList
    else if x.isZero then (Decimal.mk ['0'] 1).positional style.places
    else
      let d := Decimal.shortest x
      if style.positional (d.point - 1) then d.positional style.places else d.scientific
  String.ofList (sign ++ body)

end Double

end WireSchema
