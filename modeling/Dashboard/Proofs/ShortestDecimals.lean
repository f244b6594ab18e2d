import Dashboard.Drawing
import Dashboard.Proofs.NumberText
import Mathlib.Algebra.Order.Field.Power
import Mathlib.Algebra.Order.Field.Rat
import Mathlib.Data.List.Induction
import Mathlib.Data.Nat.Cast.Order.Field
import Mathlib.Tactic.FieldSimp
import Mathlib.Tactic.Positivity
import Mathlib.Tactic.Ring

/-!
# What a shortest decimal tells

The shortest decimal of a float lies in the interval of the reals that round to the float. Floats of
different magnitudes have intervals without a common point: where two of them meet, the mantissa of
one is odd, and only the other interval can have the point between them. So a decimal tells the
float for which it is written, up to the sign, and the text of a percentage tells the percentage.
-/
namespace Dashboard

/-! ## The value of a decimal -/

namespace Digits

theorem toNat_append (xs ys : List Digit) :
    toNat (xs ++ ys) = toNat xs * 10 ^ ys.length + toNat ys := by
  induction ys using List.reverseRecOn with
  | nil => simp [toNat]
  | append_singleton ys d ih =>
      have hs (zs : List Digit) : toNat (zs ++ [d]) = 10 * toNat zs + d.val := by
        simp [toNat, List.foldl_append]
      rw [← List.append_assoc, hs, hs, ih, List.length_append, List.length_singleton, pow_succ]
      ring

theorem toNat_replicate_zero (k : Nat) : toNat (List.replicate k Digit.zero) = 0 := by
  have h := toNat_replicate_zero_append k []
  rwa [List.append_nil] at h

end Digits

namespace Decimal

/-- The number that a decimal stands for. -/
def value (d : Decimal) : ℚ := d.digits * 10 ^ d.exponent

/-- The digits before and after the point have the value of the decimal. -/
theorem toNat_positional (d : Decimal) :
    (Digits.toNat (d.positional.1 ++ d.positional.2) : ℚ) =
      d.value * 10 ^ d.positional.2.length := by
  obtain ⟨n, e⟩ := d
  unfold positional value
  dsimp only
  by_cases he : 0 ≤ e
  · -- a whole number: zeros are put behind the digits
    rw [if_pos he]
    obtain ⟨k, rfl⟩ := Int.eq_ofNat_of_zero_le he
    simp [Digits.toNat_append, Digits.toNat_replicate_zero]
  · rw [if_neg he]
    obtain ⟨k, rfl⟩ : ∃ k : Nat, e = -k := ⟨(-e).toNat, by omega⟩
    have hk : (-(-(k : Int))).toNat = k := by omega
    rw [hk]
    split_ifs with hl
    · have hlen : (Digits.ofNat n).length - ((Digits.ofNat n).length - k) = k := by omega
      rw [List.take_append_drop, List.length_drop, hlen, Digits.toNat_ofNat]
      simp
    · -- zeros are put in front of the digits
      have hlen : k - (Digits.ofNat n).length + (Digits.ofNat n).length = k := by omega
      have hz : Digits.toNat ([Digit.zero] ++
          (List.replicate (k - (Digits.ofNat n).length) Digit.zero ++ Digits.ofNat n)) = n :=
        (Digits.toNat_replicate_zero_append _ (Digits.ofNat n)).trans (Digits.toNat_ofNat n)
      rw [hz, List.length_append, List.length_replicate, hlen]
      simp

theorem value_eq_of_positional {d d' : Decimal} (h : d.positional = d'.positional) :
    d.value = d'.value := by
  have hd := d.toNat_positional
  rw [h, d'.toNat_positional] at hd
  exact (mul_right_cancel₀ (by positivity) hd).symm

end Decimal

/-! ## Decimals in an interval -/

namespace RoundingInterval

def lower (x : RoundingInterval) : ℚ := x.low / x.denominator

def upper (x : RoundingInterval) : ℚ := x.high / x.denominator

/-- The number lies in the interval. -/
def Holds (x : RoundingInterval) (q : ℚ) : Prop :=
  (x.lower < q ∧ q < x.upper) ∨ (x.closed = true ∧ (q = x.lower ∨ q = x.upper))

theorem contains_iff (x : RoundingInterval) (n : Nat) :
    x.contains n = true ↔
      (x.low < n * x.denominator ∧ n * x.denominator < x.high) ∨
        (x.closed = true ∧ (n * x.denominator = x.low ∨ n * x.denominator = x.high)) := by
  simp [contains]

/-- Measured in units of a power of ten, the interval contains a number if it holds the decimal. -/
theorem contains_measuredIn_iff {x : RoundingInterval} (hx : 0 < x.denominator) (d : Decimal) :
    (x.measuredIn d.exponent).contains d.digits = true ↔ x.Holds d.value := by
  obtain ⟨n, e⟩ := d
  have hx' : (0 : ℚ) < x.denominator := Nat.cast_pos.mpr hx
  -- all is multiplied by the denominator and by the unit of a negative exponent
  have hc : (0 : ℚ) < x.denominator * 10 ^ (-e).toNat := by positivity
  have hp : (10 : ℚ) ^ e.toNat = 10 ^ e * 10 ^ (-e).toNat := by
    rw [← zpow_natCast, ← zpow_natCast, ← zpow_add₀ (by norm_num)]
    congr 1
    omega
  have hl : (x.low * 10 ^ (-e).toNat : ℚ) = x.lower * (x.denominator * 10 ^ (-e).toNat) := by
    rw [lower]
    field_simp
  have hu : (x.high * 10 ^ (-e).toNat : ℚ) = x.upper * (x.denominator * 10 ^ (-e).toNat) := by
    rw [upper]
    field_simp
  have hd : (n * (x.denominator * 10 ^ e.toNat) : ℚ) =
      Decimal.value ⟨n, e⟩ * (x.denominator * 10 ^ (-e).toNat) := by
    rw [hp, Decimal.value]
    ring
  rw [contains_iff, Holds]
  simp only [measuredIn, Nat.pow_eq, ← Nat.cast_lt (α := ℚ), ← Nat.cast_inj (R := ℚ),
    Nat.cast_mul, Nat.cast_pow, Nat.cast_ofNat, hl, hu, hd, mul_lt_mul_iff_left₀ hc,
    mul_left_inj' hc.ne']

theorem Holds.lower_le {x : RoundingInterval} {q : ℚ} (h : x.Holds q) (hx : x.lower ≤ x.upper) :
    x.lower ≤ q ∧ (x.lower = q → x.closed = true) := by
  rcases h with ⟨hl, -⟩ | ⟨hc, rfl | rfl⟩
  · exact ⟨hl.le, fun he => (hl.ne he).elim⟩
  · exact ⟨le_rfl, fun _ => hc⟩
  · exact ⟨hx, fun _ => hc⟩

theorem Holds.le_upper {x : RoundingInterval} {q : ℚ} (h : x.Holds q) (hx : x.lower ≤ x.upper) :
    q ≤ x.upper ∧ (q = x.upper → x.closed = true) := by
  rcases h with ⟨-, hu⟩ | ⟨hc, rfl | rfl⟩
  · exact ⟨hu.le, fun he => (hu.ne he).elim⟩
  · exact ⟨hx, fun _ => hc⟩
  · exact ⟨le_rfl, fun _ => hc⟩

theorem dvd_measuredIn {x : RoundingInterval} {k : Nat} (h : x.denominator ∣ 10 ^ k) :
    (x.measuredIn (-k)).denominator ∣ (x.measuredIn (-k)).value := by
  simp only [measuredIn, Int.toNat_neg_natCast, neg_neg, Int.toNat_natCast, Nat.pow_eq, pow_zero,
    mul_one]
  exact h.mul_left _

/-- If the finest grid has the value itself, the search ends in the interval. -/
theorem holds_search (tie : Tie) {x : RoundingInterval} (hx : 0 < x.denominator)
    (hl : x.low < x.value) (hh : x.value < x.high) {fuel : Nat} {exponent : Int}
    (hg : (x.measuredIn (exponent - fuel)).denominator ∣
      (x.measuredIn (exponent - fuel)).value) :
    x.Holds (x.search tie fuel exponent).value := by
  induction fuel generalizing exponent with
  | zero =>
      have hu : 0 < Nat.pow 10 (-exponent).toNat := Nat.pow_pos (by decide)
      rw [Int.natCast_zero, Int.sub_zero] at hg
      rw [← contains_measuredIn_iff hx, contains_iff]
      left
      simp only [search]
      rw [Nat.div_mul_cancel hg]
      exact ⟨Nat.mul_lt_mul_of_pos_right hl hu, Nat.mul_lt_mul_of_pos_right hh hu⟩
  | succ fuel ih =>
      rw [search]
      cases hn : (x.measuredIn exponent).nearest? tie with
      | some digits => exact (contains_measuredIn_iff hx _).mp (contains_of_nearest? hn)
      | none =>
          apply ih
          rwa [show exponent - 1 - fuel = exponent - (fuel + 1 : Nat) by omega]

end RoundingInterval

/-! ## Places and mantissas -/

namespace RoundingInterval

/-- The place of the last binary digit. Those of the smallest floats have the place one. -/
def place (bits : UInt64) : Nat := max ((bits >>> 52) &&& 0x7FF).toNat 1

def fraction (bits : UInt64) : Nat := (bits &&& 0xFFFFFFFFFFFFF).toNat

def mantissa (bits : UInt64) : Nat :=
  if ((bits >>> 52) &&& 0x7FF).toNat = 0 then fraction bits else 2 ^ 52 + fraction bits

/-- How far the lower end is away from the value, in quarters of the last place. -/
def below (place mantissa : Nat) : Nat := if mantissa = 2 ^ 52 ∧ 1 < place then 1 else 2

/-- A place and a mantissa as a float has them. Only at the lowest place a mantissa may be short. -/
structure IsMagnitude (place mantissa : Nat) : Prop where
  place_pos : 0 < place
  mantissa_lt : mantissa < 2 ^ 53
  full : 1 < place → 2 ^ 52 ≤ mantissa

theorem toNat_exponent (bits : UInt64) :
    ((bits >>> 52) &&& 0x7FF).toNat = bits.toNat / 2 ^ 52 % 2 ^ 11 := by
  rw [UInt64.toNat_and, UInt64.toNat_shiftRight]
  exact (Nat.and_two_pow_sub_one_eq_mod _ 11).trans (by rw [Nat.shiftRight_eq_div_pow]; rfl)

theorem fraction_eq (bits : UInt64) : fraction bits = bits.toNat % 2 ^ 52 := by
  rw [fraction, UInt64.toNat_and]
  exact Nat.and_two_pow_sub_one_eq_mod _ 52

theorem fraction_lt (bits : UInt64) : fraction bits < 2 ^ 52 := by
  rw [fraction_eq]
  exact Nat.mod_lt _ (by decide)

theorem sign_eq (bits : UInt64) : (bits >>> 63 != 0) = decide (2 ^ 63 ≤ bits.toNat) := by
  have h : (bits >>> 63).toNat = bits.toNat / 2 ^ 63 := by
    rw [UInt64.toNat_shiftRight]
    exact Nat.shiftRight_eq_div_pow _ 63
  rw [Bool.eq_iff_iff, bne_iff_ne, Ne, ← UInt64.toNat_inj, h, UInt64.toNat_zero,
    decide_eq_true_eq]
  omega

theorem isMagnitude (bits : UInt64) : IsMagnitude (place bits) (mantissa bits) := by
  have hf := fraction_lt bits
  unfold place mantissa
  constructor
  · omega
  · split <;> omega
  · split <;> omega

theorem ofBits_eq (bits : UInt64) :
    ofBits bits =
      { low := (4 * mantissa bits - below (place bits) (mantissa bits)) * 2 ^ (place bits - 1077)
        value := 4 * mantissa bits * 2 ^ (place bits - 1077)
        high := (4 * mantissa bits + 2) * 2 ^ (place bits - 1077)
        denominator := 2 ^ (1077 - place bits)
        closed := mantissa bits % 2 = 0 } := by
  have hf := fraction_lt bits
  have hb : below (place bits) (mantissa bits) =
      if fraction bits = 0 ∧ 1 < ((bits >>> 52) &&& 0x7FF).toNat then 1 else 2 := by
    unfold below place mantissa
    split_ifs <;> omega
  rw [hb]
  rfl

/-- A unit in which the ends of all intervals are whole numbers. -/
def grain : ℚ := 2 ^ (-1077 : ℤ)

theorem grain_pos : 0 < grain := zpow_pos (by norm_num) _

theorem scale_div_denominator (place : Nat) :
    (2 : ℚ) ^ (place - 1077) / 2 ^ (1077 - place) = 2 ^ place * grain := by
  have h : ((place - 1077 : Nat) : ℤ) - (1077 - place : Nat) = place + -1077 := by omega
  rw [grain, ← zpow_natCast, ← zpow_natCast, ← zpow_natCast, ← zpow_sub₀ two_ne_zero,
    ← zpow_add₀ two_ne_zero, h]

theorem lower_ofBits (bits : UInt64) :
    (ofBits bits).lower =
      ((4 * mantissa bits - below (place bits) (mantissa bits)) * 2 ^ place bits : Nat) * grain := by
  rw [ofBits_eq, lower]
  push_cast
  rw [mul_div_assoc, scale_div_denominator, mul_assoc]

theorem upper_ofBits (bits : UInt64) :
    (ofBits bits).upper = ((4 * mantissa bits + 2) * 2 ^ place bits : Nat) * grain := by
  rw [ofBits_eq, upper]
  push_cast
  rw [mul_div_assoc, scale_div_denominator, mul_assoc]

/-! ## Different floats -/

/-- The interval of a smaller magnitude ends where that of a greater one begins, or before. They do
not meet if both mantissas are even. -/
theorem IsMagnitude.ends_ordered {p m p' m' : Nat} (h : IsMagnitude p m) (h' : IsMagnitude p' m')
    (hlt : p < p' ∨ p = p' ∧ m < m') :
    (4 * m + 2) * 2 ^ p ≤ (4 * m' - below p' m') * 2 ^ p' ∧
      (m % 2 = 0 → m' % 2 = 0 → (4 * m + 2) * 2 ^ p < (4 * m' - below p' m') * 2 ^ p') := by
  have hm := h.mantissa_lt
  have ho := h.place_pos
  have hp : 0 < 2 ^ p := Nat.pow_pos (by decide)
  rcases hlt with hlt | ⟨rfl, hlt⟩
  · -- a greater place doubles what is at least half as much
    have hf := h'.full (Nat.lt_of_le_of_lt ho hlt)
    obtain ⟨k, rfl⟩ := Nat.exists_eq_add_of_lt hlt
    have hb : 2 ^ 54 - 1 ≤ 4 * m' - below (p + k + 1) m' := by
      unfold below
      split <;> omega
    have hk : 2 * 2 ^ p ≤ 2 ^ (p + k + 1) := by
      rw [← Nat.pow_succ']
      exact Nat.pow_le_pow_right (by decide) (by omega)
    have hs : (2 ^ 55 - 2) * 2 ^ p ≤ (4 * m' - below (p + k + 1) m') * 2 ^ (p + k + 1) :=
      calc (2 ^ 55 - 2) * 2 ^ p = (2 ^ 54 - 1) * (2 * 2 ^ p) := by ring
        _ ≤ _ := Nat.mul_le_mul hb hk
    constructor
    · exact (Nat.mul_le_mul_right _ (by omega)).trans hs
    · intro he _
      exact (Nat.mul_lt_mul_of_pos_right (by omega) hp).trans_le hs
  · have hb : below p m' ≤ 2 := by
      unfold below
      split <;> decide
    constructor
    · exact Nat.mul_le_mul_right _ (by omega)
    · intro he he'
      exact Nat.mul_lt_mul_of_pos_right (by omega) hp

theorem lower_le_upper (bits : UInt64) : (ofBits bits).lower ≤ (ofBits bits).upper := by
  rw [lower_ofBits, upper_ofBits]
  have h : 4 * mantissa bits - below (place bits) (mantissa bits) ≤ 4 * mantissa bits + 2 := by
    omega
  exact mul_le_mul_of_nonneg_right (Nat.cast_le.mpr (Nat.mul_le_mul_right _ h)) grain_pos.le

/-- No number is in the intervals of two floats of different magnitude. -/
theorem not_holds_of_lt {bits bits' : UInt64} {q : ℚ} (h : (ofBits bits).Holds q)
    (h' : (ofBits bits').Holds q)
    (hlt : place bits < place bits' ∨ place bits = place bits' ∧ mantissa bits < mantissa bits') :
    False := by
  obtain ⟨hle, hs⟩ := (isMagnitude bits).ends_ordered (isMagnitude bits') hlt
  obtain ⟨hu, hc⟩ := h.le_upper (lower_le_upper bits)
  obtain ⟨hl, hc'⟩ := h'.lower_le (lower_le_upper bits')
  have hm : (ofBits bits).upper ≤ (ofBits bits').lower := by
    rw [upper_ofBits, lower_ofBits]
    exact mul_le_mul_of_nonneg_right (Nat.cast_le.mpr hle) grain_pos.le
  -- the number is where the two intervals meet, so both are closed
  have he := le_antisymm hu (hm.trans hl)
  have he' := le_antisymm hl (hu.trans hm)
  have hn := he'.trans he
  replace hc := hc he
  replace hc' := hc' he'
  rw [ofBits_eq, decide_eq_true_eq] at hc hc'
  rw [upper_ofBits, lower_ofBits, mul_left_inj' grain_pos.ne', Nat.cast_inj] at hn
  exact (hs hc hc').ne' hn

theorem magnitude_eq_of_holds {bits bits' : UInt64} {q : ℚ} (h : (ofBits bits).Holds q)
    (h' : (ofBits bits').Holds q) :
    place bits = place bits' ∧ mantissa bits = mantissa bits' := by
  rcases Nat.lt_trichotomy (place bits) (place bits') with hp | hp | hp
  · exact (not_holds_of_lt h h' (.inl hp)).elim
  · rcases Nat.lt_trichotomy (mantissa bits) (mantissa bits') with hm | hm | hm
    · exact (not_holds_of_lt h h' (.inr ⟨hp, hm⟩)).elim
    · exact ⟨hp, hm⟩
    · exact (not_holds_of_lt h' h (.inr ⟨hp.symm, hm⟩)).elim
  · exact (not_holds_of_lt h' h (.inl hp)).elim

/-- Bits of the same sign that are rounded to from one number are the same. -/
theorem bits_eq_of_holds {bits bits' : UInt64} {q : ℚ} (h : (ofBits bits).Holds q)
    (h' : (ofBits bits').Holds q) (hs : (bits >>> 63 != 0) = (bits' >>> 63 != 0)) :
    bits = bits' := by
  obtain ⟨hp, hm⟩ := magnitude_eq_of_holds h h'
  have hb := bits.toNat_lt
  have hb' := bits'.toNat_lt
  -- the exponent and the fraction are told by place and mantissa
  have he : bits.toNat / 2 ^ 52 % 2 ^ 11 = bits'.toNat / 2 ^ 52 % 2 ^ 11 ∧
      bits.toNat % 2 ^ 52 = bits'.toNat % 2 ^ 52 := by
    simp only [place, mantissa, toNat_exponent, fraction_eq] at hp hm
    split at hm <;> split at hm <;> omega
  rw [sign_eq, sign_eq, decide_eq_decide] at hs
  apply UInt64.toNat_inj.mp
  omega

end RoundingInterval

namespace Decimal
open RoundingInterval

theorem pow_dvd_ten_pow (k place : Nat) : 2 ^ (k - place) ∣ 10 ^ k :=
  (Nat.pow_dvd_pow 2 (Nat.sub_le k place)).trans (pow_dvd_pow_of_dvd (by decide) k)

/-- The shortest decimal of a float is rounded to the float. -/
theorem holds_shortest (tie : Tie) (x : Float) : (ofBits x.toBits).Holds (shortest tie x).value := by
  have hd : 0 < (ofBits x.toBits).denominator := by
    rw [ofBits_eq]
    exact Nat.pow_pos (by decide)
  unfold shortest
  dsimp only
  split_ifs with hv
  · -- zero is the lower end of its interval
    have hm : mantissa x.toBits = 0 := by
      rw [ofBits_eq] at hv
      simpa using hv
    refine .inr ⟨?_, .inl ?_⟩
    · rw [ofBits_eq, hm]
      rfl
    · rw [lower_ofBits, hm]
      simp [value]
  · have hm : 0 < mantissa x.toBits := by
      rw [ofBits_eq] at hv
      apply Nat.pos_of_ne_zero
      intro hm
      simp [hm] at hv
    have hs : 0 < 2 ^ (place x.toBits - 1077) := Nat.pow_pos (by decide)
    have hb : 0 < below (place x.toBits) (mantissa x.toBits) := by
      unfold below
      split <;> decide
    apply holds_search tie hd
    · rw [ofBits_eq]
      exact Nat.mul_lt_mul_of_pos_right (by omega) hs
    · rw [ofBits_eq]
      exact Nat.mul_lt_mul_of_pos_right (by omega) hs
    · have hg (n : Nat) : (n : ℤ) - (n + 1077 : Nat) = -(1077 : Nat) := by omega
      rw [hg]
      apply dvd_measuredIn
      rw [ofBits_eq]
      exact pow_dvd_ten_pow 1077 _

/-- Floats of the same sign are the same if they have the same digits before and after the point. -/
theorem bits_eq_of_positional {tie : Tie} {x y : Float}
    (h : (shortest tie x).positional = (shortest tie y).positional)
    (hs : (x.toBits >>> 63 != 0) = (y.toBits >>> 63 != 0)) : x.toBits = y.toBits := by
  have hy := holds_shortest tie y
  rw [← value_eq_of_positional h] at hy
  exact bits_eq_of_holds (holds_shortest tie x) hy hs

end Decimal

/-! ## Texts -/

theorem float_eq_of_toBits {x y : Float} (h : x.toBits = y.toBits) : x = y := by
  obtain ⟨⟨bits, hx⟩⟩ := x
  obtain ⟨⟨bits', hy⟩⟩ := y
  have h : bits = bits' := h
  subst h
  rfl

theorem isNaN_isInf_of_isFinite {x : Float} (h : x.isFinite = true) :
    x.isNaN = false ∧ x.isInf = false := by
  change x.toModel.unpack.isFinite = true at h
  change x.toModel.unpack.isNaN = false ∧ x.toModel.unpack.isInf = false
  cases hu : x.toModel.unpack with
  | infinity sign =>
      rw [hu] at h
      cases h
  | notANumber =>
      rw [hu] at h
      cases h
  | zero sign => exact ⟨rfl, rfl⟩
  | finite sign mantissa exponent hm => exact ⟨rfl, rfl⟩

namespace Decimal

/-- What stands behind the whole part: the point and the digits after it, if there are any. -/
def pointChars (fraction : List Digit) : List Char :=
  if fraction.isEmpty then [] else '.' :: Digits.chars fraction

theorem noneAhead_pointChars (fraction : List Digit) : Digits.NoneAhead (pointChars fraction) := by
  cases fraction with
  | nil => exact Digits.noneAhead_nil
  | cons d ds =>
      intro c hc
      cases hc
      decide

theorem pointChars_injective : Function.Injective pointChars := by
  intro ds es h
  cases ds with
  | nil =>
      cases es with
      | nil => rfl
      | cons e es => cases h
  | cons d ds =>
      cases es with
      | nil => cases h
      | cons e es => exact Digits.chars_injective (List.cons.inj h).2

/-- The characters of a decimal that is written with nothing but a point. -/
def chars (d : Decimal) : List Char := Digits.chars d.positional.1 ++ pointChars d.positional.2

/-- The whole part ends with the first character that is not a digit. -/
theorem positional_eq_of_chars {d d' : Decimal} (h : d.chars = d'.chars) :
    d.positional = d'.positional := by
  have hs := Digits.span_chars d.positional.1 (noneAhead_pointChars d.positional.2)
  have hs' := Digits.span_chars d'.positional.1 (noneAhead_pointChars d'.positional.2)
  unfold chars at h
  rw [h, hs'] at hs
  obtain ⟨hw, hp⟩ := Prod.mk.inj hs
  exact Prod.ext hw.symm (pointChars_injective hp.symm)

theorem chars_shortest (tie : Tie) (x : Float) :
    ∃ (d : Digit) (cs : List Char), (shortest tie x).chars = d.char :: cs := by
  have hw := positional_leading (shortest_digits tie x)
  unfold chars
  cases hl : (shortest tie x).positional.1 with
  | nil =>
      rw [hl] at hw
      cases hw
  | cons d ds => exact ⟨d, _, rfl⟩

end Decimal

namespace Percentage

def signChars (negative : Bool) : List Char := if negative then ['-'] else []

/-- No digit looks like a sign. -/
theorem signChars_append_inj {negative negative' : Bool} {d e : Digit} {cs es : List Char}
    (h : signChars negative ++ d.char :: cs = signChars negative' ++ e.char :: es) :
    negative = negative' ∧ d.char :: cs = e.char :: es := by
  have hd : ∀ d : Digit, d.char ≠ '-' := by decide
  cases negative with
  | false =>
      cases negative' with
      | false => exact ⟨rfl, h⟩
      | true => exact (hd d (List.cons.inj h).1).elim
  | true =>
      cases negative' with
      | false => exact (hd e (List.cons.inj h).1.symm).elim
      | true => exact ⟨rfl, (List.cons.inj h).2⟩

/-- The text of a finite float is its sign and its shortest decimal. -/
theorem toList_text {x : Float} (hx : x.isFinite = true) :
    (text x).toList = signChars (x.toBits >>> 63 != 0) ++ (Decimal.shortest .up x).chars := by
  obtain ⟨hn, hi⟩ := isNaN_isInf_of_isFinite hx
  unfold text
  simp only [hn, hi, Bool.false_eq_true, if_false, String.toList_append, String.toList_ofList]
  congr 1
  unfold signChars
  split <;> rfl

/-- The text of a finite float tells the float. -/
theorem text_inj {x y : Float} (hx : x.isFinite = true) (hy : y.isFinite = true) :
    text x = text y ↔ x = y := by
  constructor
  · intro h
    have hl := congrArg String.toList h
    obtain ⟨d, cs, hc⟩ := Decimal.chars_shortest .up x
    obtain ⟨e, es, he⟩ := Decimal.chars_shortest .up y
    rw [toList_text hx, toList_text hy, hc, he] at hl
    obtain ⟨hs, hd⟩ := signChars_append_inj hl
    rw [← hc, ← he] at hd
    apply float_eq_of_toBits
    exact Decimal.bits_eq_of_positional (Decimal.positional_eq_of_chars hd) hs
  · rintro rfl
    rfl

example : text 62.5 = "62.5" ∧ text (-0.0) = "-0" ∧ text 1e-7 = "0.0000001" := by decide +kernel

end Percentage
end Dashboard
