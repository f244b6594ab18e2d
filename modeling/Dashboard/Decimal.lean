import Dashboard.Digits

/-!
# The shortest decimal of a float

A finite float stands for all real numbers that round to it. Among the decimals in that interval
the shortest is chosen: the one on the coarsest grid of powers of ten, and of two candidates on
that grid the nearer. All arithmetic is exact, on naturals. What is left open is which of two
equally near candidates is taken; the caller decides that, because two formats of this library
differ there.

Signs, and the values that are not finite, are the caller's business too.
-/
namespace Dashboard

/-- The number `digits * 10 ^ exponent`. -/
structure Decimal where
  digits : Nat
  exponent : Int
deriving DecidableEq, Repr

/-- What to do with a value that lies exactly half way between two candidates. -/
inductive Tie where
  /-- Take the candidate whose last digit is even. -/
  | even
  /-- Take the larger candidate. -/
  | up
deriving DecidableEq, Repr

/-- The reals that round to one float, as fractions with a common denominator. The ends themselves
belong to the interval if and only if `closed` is set. -/
structure RoundingInterval where
  low : Nat
  value : Nat
  high : Nat
  denominator : Nat
  closed : Bool
deriving DecidableEq, Repr

namespace RoundingInterval

/-- The interval of the float with the given bits, its sign left aside. The neighbour below a
power of two is only half as far away as the one above, except where the spacing is already the
smallest. -/
def ofBits (bits : UInt64) : RoundingInterval :=
  let biased := ((bits >>> 52) &&& 0x7FF).toNat
  let fraction := (bits &&& 0xFFFFFFFFFFFFF).toNat
  let mantissa := if biased = 0 then fraction else 0x10000000000000 + fraction
  let place := (max biased 1 : Nat)
  let below := if fraction = 0 ∧ 1 < biased then 1 else 2
  let scale := Nat.pow 2 (place - 1077)
  { low := (4 * mantissa - below) * scale
    value := 4 * mantissa * scale
    high := (4 * mantissa + 2) * scale
    denominator := Nat.pow 2 (1077 - place)
    closed := mantissa % 2 = 0 }

/-- The same interval measured in units of a power of ten. -/
def measuredIn (x : RoundingInterval) (exponent : Int) : RoundingInterval :=
  let up := Nat.pow 10 (-exponent).toNat
  { x with
    low := x.low * up
    value := x.value * up
    high := x.high * up
    denominator := x.denominator * Nat.pow 10 exponent.toNat }

/-- Whether a natural number lies in the interval. -/
def contains (x : RoundingInterval) (n : Nat) : Bool :=
  let m := n * x.denominator
  decide (x.low < m ∧ m < x.high) || (x.closed && decide (m = x.low ∨ m = x.high))

/-- The natural number in the interval that is nearest to its value. If there is any, it is one of
the two neighbours of the value. -/
def nearest? (tie : Tie) (x : RoundingInterval) : Option Nat :=
  let floor := x.value / x.denominator
  match x.contains floor, x.contains (floor + 1) with
  | false, false => none
  | true, false => some floor
  | false, true => some (floor + 1)
  | true, true =>
      match compare (2 * (x.value % x.denominator)) x.denominator with
      | .lt => some floor
      | .gt => some (floor + 1)
      | .eq =>
          match tie with
          | .even => some (if floor % 2 = 0 then floor else floor + 1)
          | .up => some (floor + 1)

/-- Tries the grids of powers of ten one after the other, from the given one to finer ones. -/
def search (tie : Tie) (x : RoundingInterval) : Nat → Int → Decimal
  | 0, exponent => ⟨(x.measuredIn exponent).value / (x.measuredIn exponent).denominator, exponent⟩
  | fuel + 1, exponent =>
      match (x.measuredIn exponent).nearest? tie with
      | some digits => ⟨digits, exponent⟩
      | none => search tie x fuel (exponent - 1)

end RoundingInterval

namespace Decimal

/-- The shortest decimal that rounds to a finite float, sign aside. The search starts with a power
of ten above the value and may go down to `10 ^ -1077`, a grid that holds every finite float
itself. -/
def shortest (tie : Tie) (x : Float) : Decimal :=
  let interval := RoundingInterval.ofBits x.toBits
  if interval.value = 0 then ⟨0, 0⟩
  else
    let start := (Digits.ofNat (interval.value / interval.denominator)).length
    interval.search tie (start + 1077) start

/-- Writes a decimal with nothing but a point: the digits before it, at least one, and those after
it. -/
def positional (d : Decimal) : List Digit × List Digit :=
  let digits := Digits.ofNat d.digits
  if 0 ≤ d.exponent then (digits ++ List.replicate d.exponent.toNat Digit.zero, [])
  else
    let places := (-d.exponent).toNat
    if places < digits.length then
      (digits.take (digits.length - places), digits.drop (digits.length - places))
    else ([Digit.zero], List.replicate (places - digits.length) Digit.zero ++ digits)

example : shortest .even 70.0 = ⟨7, 1⟩ := by decide +kernel
example : shortest .even 5e-324 = ⟨5, -324⟩ := by decide +kernel
example : (shortest .even 2.98023223876953125e-8).digits = 29802322387695312 := by decide +kernel
example : (shortest .up 2.98023223876953125e-8).digits = 29802322387695313 := by decide +kernel
example : (⟨125, -1⟩ : Decimal).positional = ([1, 2], [5]) := by decide
example : (⟨1, -3⟩ : Decimal).positional = ([0], [0, 0, 1]) := by decide

end Decimal
end Dashboard
