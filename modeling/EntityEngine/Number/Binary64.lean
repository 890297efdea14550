/-!
# Binary floating point numbers and their shortest text

A finite binary64 number is kept as its bit pattern, so equality is equality of
bits. `Binary64.text` writes the fewest decimal digits that read back to the same
number. The search is exact: the numbers that round to `x` form an interval with
ends on a binary grid, and for each count of digits the two decimals next to `x`
are tested against it in natural number arithmetic.
-/

namespace EntityEngine

structure Binary64 where
  bits : UInt64
deriving DecidableEq, Repr

namespace Binary64

def isNegative (x : Binary64) : Bool := x.bits >>> 63 == 1

def exponentField (x : Binary64) : Nat := ((x.bits >>> 52) &&& 0x7FF).toNat

def fraction (x : Binary64) : Nat := (x.bits &&& 0xFFFFFFFFFFFFF).toNat

/-- The magnitude is `significand * 2 ^ exponent`. -/
def significand (x : Binary64) : Nat :=
  if x.exponentField = 0 then x.fraction else x.fraction + Nat.pow 2 52

def exponent (x : Binary64) : Int :=
  if x.exponentField = 0 then -1074 else (x.exponentField : Int) - 1075

structure Ratio where
  num : Nat
  den : Nat

def Ratio.ofBinary (m : Nat) (e : Int) : Ratio :=
  if 0 ≤ e then ⟨m * Nat.pow 2 e.toNat, 1⟩ else ⟨m, Nat.pow 2 (-e).toNat⟩

def Ratio.inPlaces (r : Ratio) (place : Int) : Ratio :=
  if 0 ≤ place then ⟨r.num, r.den * Nat.pow 10 place.toNat⟩
  else ⟨r.num * Nat.pow 10 (-place).toNat, r.den⟩

/-- The numbers that round to a given one: four times its value and the two ends,
all in quarters of its last binary place. -/
structure Interval where
  low : Ratio
  value : Ratio
  high : Ratio
  closed : Bool

def interval (x : Binary64) : Interval :=
  let m := x.significand
  let e := x.exponent - 2
  let below := if x.fraction = 0 && 1 < x.exponentField then 1 else 2
  { low := .ofBinary (4 * m - below) e
    value := .ofBinary (4 * m) e
    high := .ofBinary (4 * m + 2) e
    closed := m % 2 == 0 }

def Interval.holds (i : Interval) (digits : Nat) (place : Int) : Bool :=
  let low := i.low.inPlaces place
  let high := i.high.inPlaces place
  if i.closed then low.num ≤ digits * low.den && digits * high.den ≤ high.num
  else low.num < digits * low.den && digits * high.den < high.num

/-- The number of digits before the point; zero or negative below one. -/
def Interval.magnitude (i : Interval) : Int :=
  ((Nat.toDigits 10 (i.value.num * Nat.pow 10 400 / i.value.den)).length : Int) - 400

/-- The decimal with digits down to `place` that rounds to the number, the nearer
one if there are two; of two equally near the even one. -/
def Interval.decimalAt? (i : Interval) (place : Int) : Option Nat :=
  let value := i.value.inPlaces place
  let floor := value.num / value.den
  match i.holds floor place, i.holds (floor + 1) place with
  | true, true =>
    let half := compare (2 * (value.num % value.den)) value.den
    some (if half = .lt ∨ half = .eq ∧ floor % 2 = 0 then floor else floor + 1)
  | true, false => some floor
  | false, true => some (floor + 1)
  | false, false => none

def shortest (x : Binary64) : Nat × Int :=
  let i := x.interval
  let k := i.magnitude
  let candidates := (List.range 17).filterMap fun n : Nat =>
    let place := k - ((n : Int) + 1)
    (i.decimalAt? place).map fun digits => (digits, place)
  candidates.head?.getD (0, 0)

/-- Decimal digits with the point `places` digits from their right end, or followed by
zeros for a negative count; at least one digit on either side of the point. -/
def positional (digits : List Char) (place : Int) : List Char :=
  if 0 ≤ place then digits ++ List.replicate place.toNat '0' ++ ['.', '0']
  else
    let places := (-place).toNat
    let padded := List.replicate (places + 1 - digits.length) '0' ++ digits
    padded.take (padded.length - places) ++ '.' :: padded.drop (padded.length - places)

def scientific (digits : List Char) (place : Int) : List Char :=
  let exponent := place + digits.length - 1
  let rest := digits.drop 1
  digits.take 1 ++ (if rest.isEmpty then [] else '.' :: rest) ++
    ['e', if 0 ≤ exponent then '+' else '-'] ++ Nat.toDigits 10 exponent.natAbs

/-- The text of a decimal: positional from `0.00001` up to sixteen digits before the
point, with an exponent beyond. -/
def decimalText (digits : List Char) (place : Int) : List Char :=
  let magnitude := place + digits.length
  if -5 < magnitude && magnitude ≤ 16 then positional digits place
  else scientific digits place

/-- The shortest text, with a sign for negative numbers and negative zero. -/
def text (x : Binary64) : String :=
  let sign := if x.isNegative then ['-'] else []
  if x.significand = 0 then String.ofList (sign ++ ['0', '.', '0'])
  else
    let (digits, place) := x.shortest
    let all := Nat.toDigits 10 digits
    let kept := (all.reverse.dropWhile (· == '0')).reverse
    String.ofList (sign ++ decimalText kept (place + (all.length - kept.length : Nat)))

def ofFloat (x : Float) : Binary64 := ⟨x.toBits⟩

def negate (x : Binary64) : Binary64 := ⟨x.bits ^^^ 0x8000000000000000⟩

/-- `value * 10 ^ exponent` by one multiplication or division with a power of ten,
after as many divisions by `10 ^ 308` as the exponent needs; `none` when the
result is too large. A 64-bit value is zero after three such divisions. -/
def scaled? (value : Float) (exponent : Int) : (steps : Nat) → Option Float
  | 0 => some value
  | steps + 1 =>
    if exponent.natAbs ≤ 308 then
      let power := Float.ofScientific 1 false exponent.natAbs
      if exponent < 0 then some (value / power)
      else
        let product := value * power
        if product.isInf then none else some product
    else if value == 0 then some value
    else if 0 ≤ exponent then none
    else scaled? (value / Float.ofScientific 1 false 308) (exponent + 308) steps

/-- The number read for a significand of at most 64 bits and a power of ten. -/
def ofDecimal? (significand : UInt64) (exponent : Int) : Option Binary64 :=
  (scaled? significand.toFloat exponent 4).map ofFloat

end Binary64

end EntityEngine
