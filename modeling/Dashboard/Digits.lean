/-!
# Digits

A natural number and the list of its decimal digits, most significant first. The digits are kept
as values below ten, so that a list of them is never malformed; characters appear only where
digits are read from a text or written into one. Hexadecimal digits stand for single characters by
their number: both cases of them are read, lower case is written.
-/
namespace Dashboard

abbrev Digit := Fin 10

namespace Digit

def zero : Digit := ⟨0, by decide⟩

def char (d : Digit) : Char := Char.ofNat (d.val + 48)

/-- The digit that an ASCII character stands for. Digits of other scripts are not accepted. -/
def ofChar? (c : Char) : Option Digit :=
  if h : 48 ≤ c.toNat ∧ c.toNat < 58 then some ⟨c.toNat - 48, by omega⟩ else none

end Digit

namespace Digits

/-- The number that a list of digits denotes. No digits at all denote zero. -/
def toNat (ds : List Digit) : Nat := ds.foldl (fun n d => 10 * n + d.val) 0

/-- Puts the digits of a number in front of others, the last digit first. One step of fuel is
spent on every digit, so more fuel than the number is always enough. -/
def prepend : Nat → Nat → List Digit → List Digit
  | 0, _, after => after
  | fuel + 1, n, after =>
      let after := ⟨n % 10, Nat.mod_lt n (by decide)⟩ :: after
      if n < 10 then after else prepend fuel (n / 10) after

/-- The digits of a number without leading zeros; zero has the single digit zero. -/
def ofNat (n : Nat) : List Digit := prepend (n + 1) n []

/-- The digits of a number, filled up with zeros on the left to at least the given width. -/
def padded (width n : Nat) : List Digit :=
  List.replicate (width - (ofNat n).length) Digit.zero ++ ofNat n

def chars (ds : List Digit) : List Char := ds.map Digit.char

def span : List Char → List Digit × List Char
  | [] => ([], [])
  | c :: cs =>
      match Digit.ofChar? c with
      | some d => (d :: (span cs).1, (span cs).2)
      | none => ([], c :: cs)

def text (n : Nat) : String := String.ofList (chars (ofNat n))

example : ofNat 0 = [0] ∧ ofNat 70 = [7, 0] ∧ toNat [0, 7, 0] = 70 := by decide
example : padded 6 42 = [0, 0, 0, 0, 4, 2] ∧ padded 2 1234 = [1, 2, 3, 4] := by decide

end Digits

namespace Hexadecimal

def char (n : Nat) : Char := Char.ofNat (if n < 10 then n + 48 else n + 87)

def value? (c : Char) : Option Nat :=
  if '0' ≤ c ∧ c ≤ '9' then some (c.toNat - 48)
  else if 'a' ≤ c ∧ c ≤ 'f' then some (c.toNat - 87)
  else if 'A' ≤ c ∧ c ≤ 'F' then some (c.toNat - 55)
  else none

/-- The number that a fixed count of digits at the front of a text denotes, added to what has been
read before, and the rest of the text. -/
def read? : Nat → Nat → List Char → Option (Nat × List Char)
  | 0, n, cs => some (n, cs)
  | _ + 1, _, [] => none
  | count + 1, n, c :: cs => (value? c).bind fun d => read? count (16 * n + d) cs

example : (List.range 16).all (fun n => value? (char n) = some n) := by decide +kernel

end Hexadecimal
end Dashboard
