import Dashboard.Decimal

/-!
# Number literals

A number of a JSON text as it is spelled: sign, digits before and after the point, exponent. Two
functions tie literals to floats. `NumberLiteral.ofFloat?` is the spelling that this library
writes, with the fewest digits that identify the float. `NumberLiteral.value?` is the float that a
literal is read as; it multiplies or divides once by a power of ten, after gathering as many
digits as fit into 64 bits, so that a long literal can be read as a neighbour of the nearest
float. Hence a float that is written need not be read back as the same float, and statements about
the round trip have to ask for it.
-/
namespace Dashboard

/-- The spelling of a number. An absent fraction has no digits, an absent exponent is `none`. -/
structure NumberLiteral where
  negative : Bool
  whole : List Digit
  fraction : List Digit
  exponent : Option Int
deriving DecidableEq, Repr

namespace NumberLiteral

/-- The characters of a literal. An exponent always carries its sign. -/
def chars (l : NumberLiteral) : List Char :=
  (if l.negative then ['-'] else []) ++ Digits.chars l.whole ++
    (if l.fraction.isEmpty then [] else '.' :: Digits.chars l.fraction) ++
    match l.exponent with
    | none => []
    | some e => 'e' :: (if e < 0 then '-' else '+') :: Digits.chars (Digits.ofNat e.natAbs)

/-- Reads the part of a literal from the exponent mark to its end. -/
def exponentOfChars? : List Char → Option (Option Int)
  | [] => some none
  | mark :: cs =>
      if mark = 'e' ∨ mark = 'E' then
        let (negative, cs) :=
          match cs with
          | '-' :: cs => (true, cs)
          | '+' :: cs => (false, cs)
          | cs => (false, cs)
        match Digits.span cs with
        | ([], _) => none
        | (ds, []) => some (some (if negative then -Digits.toNat ds else Digits.toNat ds))
        | (_, _ :: _) => none
      else none

/-- Reads a literal without its sign. The digits before the point start with zero only when there
is no other, and neither a point nor an exponent mark stands without a digit after it. -/
def unsignedOfChars? (negative : Bool) (cs : List Char) : Option NumberLiteral :=
  match Digits.span cs with
  | ([], _) => none
  | (0 :: _ :: _, _) => none
  | (whole, '.' :: rest) =>
      match Digits.span rest with
      | ([], _) => none
      | (fraction, rest) => (exponentOfChars? rest).map (⟨negative, whole, fraction, ·⟩)
  | (whole, rest) => (exponentOfChars? rest).map (⟨negative, whole, [], ·⟩)

def ofChars? : List Char → Option NumberLiteral
  | '-' :: cs => unsignedOfChars? true cs
  | cs => unsignedOfChars? false cs

def ofNat (n : Nat) : NumberLiteral := ⟨false, Digits.ofNat n, [], none⟩

/-! ## The spelling of a float -/

/-- The spelling of a finite decimal. Magnitudes from `10 ^ -5` to below `10 ^ 16` are written
with a point only and with at least one digit after it, all others with one digit before the point
and an exponent. -/
def ofDecimal (negative : Bool) (d : Decimal) : NumberLiteral :=
  let digits := Digits.ofNat d.digits
  let leading : Int := d.exponent + digits.length - 1
  if -5 ≤ leading ∧ leading < 16 then
    let (whole, fraction) := d.positional
    ⟨negative, whole, if fraction.isEmpty then [Digit.zero] else fraction, none⟩
  else ⟨negative, digits.take 1, digits.drop 1, some leading⟩

/-- The shortest spelling that identifies a float; of two equally near ones, the even one. NaN and
the infinities have none. -/
def ofFloat? (x : Float) : Option NumberLiteral :=
  if x.isFinite then some (ofDecimal (x.toBits >>> 63 != 0) (Decimal.shortest .even x)) else none

/-! ## The value of a literal -/

/-- Digits gathered into a number below `2 ^ 64`, to be multiplied by a power of ten. -/
structure Significand where
  digits : Nat
  exponent : Int
deriving DecidableEq, Repr

/-- Gathers the digits before the point. Once a digit does not fit, it and all that follow only
count as places. -/
def gatherWhole : Significand → List Digit → Significand
  | s, [] => s
  | s, d :: ds =>
      if s.exponent = 0 ∧ 10 * s.digits + d.val < 2 ^ 64 then
        gatherWhole { s with digits := 10 * s.digits + d.val } ds
      else gatherWhole { s with exponent := s.exponent + 1 } ds

/-- Gathers the digits after the point, up to the first that does not fit. -/
def gatherFraction : Significand → List Digit → Significand
  | s, [] => s
  | s, d :: ds =>
      if 10 * s.digits + d.val < 2 ^ 64 then
        gatherFraction ⟨10 * s.digits + d.val, s.exponent - 1⟩ ds
      else s

/-- A power of ten up to the largest that is a finite float. -/
def powerOfTen (n : Nat) : Float := Float.ofScientific 1 false n

/-- Multiplies a float by a power of ten. A negative power beyond the range of floats is applied
in steps, each step using up one unit of fuel; two steps already turn every 64-bit number into
zero. A result that is too large has no value. -/
def scale? : Nat → Float → Int → Option Float
  | 0, x, _ => some x
  | fuel + 1, x, e =>
      if e.natAbs ≤ 308 then
        if 0 ≤ e then
          let y := x * powerOfTen e.natAbs
          if y.isInf then none else some y
        else some (x / powerOfTen e.natAbs)
      else if x == 0.0 then some x
      else if 0 ≤ e then none
      else scale? fuel (x / powerOfTen 308) (e + 308)

/-- The float that a literal is read as. It is absent when the magnitude is too large for a float;
a magnitude that is too small becomes a zero, which keeps its sign. -/
def value? (l : NumberLiteral) : Option Float :=
  let s := gatherFraction (gatherWhole ⟨0, 0⟩ l.whole) l.fraction
  let magnitude := scale? 4 s.digits.toUInt64.toFloat (s.exponent + l.exponent.getD 0)
  magnitude.map fun x => if l.negative then -x else x

example : (ofFloat? 70.0).map chars = some "70.0".toList := by decide +kernel
example : (ofFloat? (-0.0)).map chars = some "-0.0".toList := by decide +kernel
example : (ofFloat? 1e-6).map chars = some "1e-6".toList := by decide +kernel
example : (ofFloat? 1e16).map chars = some "1e+16".toList := by decide +kernel
example : (ofChars? "12.50E+3".toList) = some ⟨false, [1, 2], [5, 0], some 3⟩ := by decide +kernel
example : ofChars? "01".toList = none ∧ ofChars? "1.".toList = none := by decide +kernel
example : ofChars? "+1".toList = none := by decide +kernel

end NumberLiteral
end Dashboard
