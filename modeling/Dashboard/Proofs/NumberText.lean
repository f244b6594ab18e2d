import Dashboard.NumberLiteral
import Mathlib.Tactic.SplitIfs

/-!
# Numbers as they are written

A literal that is spelled without superfluous zeros in front is read back from its characters, and
every literal that is written for a float is spelled so. Whether its value is the float it was
written for is another matter: that depends on how the reader rounds, and
`NumberLiteral.ReadsBack` says it of a single float.
-/
namespace Dashboard

/-! ## Digits -/

theorem Digit.ofChar?_char (d : Digit) : Digit.ofChar? d.char = some d := by
  revert d
  decide

namespace Digits

theorem chars_injective : Function.Injective chars := by
  intro ds es
  apply (List.map_inj_right _).mp
  intro d e h
  have ho := congrArg Digit.ofChar? h
  rwa [Digit.ofChar?_char, Digit.ofChar?_char, Option.some_inj] at ho

theorem notMem_chars {c : Char} (h : Digit.ofChar? c = none) (ds : List Digit) : c ∉ chars ds := by
  intro hc
  obtain ⟨d, -, rfl⟩ := List.mem_map.mp hc
  rw [Digit.ofChar?_char] at h
  cases h

/-- A text at whose front there is no digit. -/
def NoneAhead (cs : List Char) : Prop := ∀ c ∈ cs.head?, Digit.ofChar? c = none

theorem noneAhead_nil : NoneAhead [] := by
  intro c hc
  cases hc

theorem span_chars (ds : List Digit) {rest : List Char} (h : NoneAhead rest) :
    span (chars ds ++ rest) = (ds, rest) := by
  induction ds with
  | nil =>
      cases rest with
      | nil => rfl
      | cons c rest =>
          have hc : Digit.ofChar? c = none := h c rfl
          simp [chars, span, hc]
  | cons d ds ih =>
      have hd : span (chars (d :: ds) ++ rest) =
          (d :: (span (chars ds ++ rest)).1, (span (chars ds ++ rest)).2) := by
        simp [chars, span, Digit.ofChar?_char]
      rw [hd, ih]

/-- Reading the digits of a number and then others goes on from the number. -/
theorem foldl_prepend {fuel n : Nat} (h : n < fuel) (after : List Digit) :
    (prepend fuel n after).foldl (fun n d => 10 * n + d.val) 0 =
      after.foldl (fun n d => 10 * n + d.val) n := by
  induction fuel generalizing n after with
  | zero => omega
  | succ fuel ih =>
      simp only [prepend]
      split
      next hn =>
        rw [List.foldl_cons]
        congr 1
        simp only
        omega
      next hn =>
        rw [ih (by omega), List.foldl_cons]
        congr 1
        simp only
        omega

@[simp] theorem toNat_ofNat (n : Nat) : toNat (ofNat n) = n :=
  foldl_prepend (Nat.lt_succ_self n) []

theorem toNat_replicate_zero_append (k : Nat) (ds : List Digit) :
    toNat (List.replicate k Digit.zero ++ ds) = toNat ds := by
  induction k with
  | zero => rfl
  | succ k ih => exact ih

/-- Digits as a number literal may begin with them: a single zero, or none in front. -/
inductive Leading : List Digit → Prop
  | zero : Leading [0]
  | positive {d : Digit} {ds : List Digit} : d ≠ 0 → Leading (d :: ds)

theorem prepend_leading {fuel n : Nat} (hn : 0 < n) (h : n < fuel) (after : List Digit) :
    ∃ d ds, prepend fuel n after = d :: ds ∧ d ≠ 0 := by
  induction fuel generalizing n after with
  | zero => omega
  | succ fuel ih =>
      simp only [prepend]
      split
      next hs =>
        refine ⟨_, _, rfl, ?_⟩
        rw [Ne, Fin.ext_iff]
        simp only [Fin.val_zero]
        omega
      next hs => exact ih (by omega) (by omega) _

theorem ofNat_leading {n : Nat} (hn : 0 < n) : ∃ d ds, ofNat n = d :: ds ∧ d ≠ 0 :=
  prepend_leading hn (Nat.lt_succ_self n) []

theorem ofNat_eq_cons (n : Nat) : ∃ d ds, ofNat n = d :: ds := by
  rcases Nat.eq_zero_or_pos n with h | h
  · exact ⟨0, [], by rw [h]; rfl⟩
  · obtain ⟨d, ds, hd, -⟩ := ofNat_leading h
    exact ⟨d, ds, hd⟩

end Digits

/-! ## Literals -/

namespace NumberLiteral

/-- A literal without superfluous zeros in front. -/
def WellSpelled (l : NumberLiteral) : Prop := Digits.Leading l.whole

/-- The characters of the part from the exponent mark on. -/
def exponentChars : Option Int → List Char
  | none => []
  | some e => 'e' :: (if e < 0 then '-' else '+') :: Digits.chars (Digits.ofNat e.natAbs)

theorem exponentOfChars?_exponentChars (e : Option Int) :
    exponentOfChars? (exponentChars e) = some e := by
  cases e with
  | none => rfl
  | some e =>
      obtain ⟨d, ds, hd⟩ := Digits.ofNat_eq_cons e.natAbs
      have hs : Digits.span (Digits.chars (Digits.ofNat e.natAbs)) = (d :: ds, []) := by
        have h := Digits.span_chars (Digits.ofNat e.natAbs) Digits.noneAhead_nil
        rw [List.append_nil] at h
        rw [← hd]
        exact h
      have hv : Digits.toNat (d :: ds) = e.natAbs := by rw [← hd, Digits.toNat_ofNat]
      by_cases hn : e < 0
      · simp only [exponentChars, exponentOfChars?, hn, if_true, true_or, hs, hv]
        congr 2
        omega
      · simp only [exponentChars, exponentOfChars?, hn, if_false, true_or, if_true, hs, hv,
          Bool.false_eq_true]
        congr 2
        omega

theorem noneAhead_exponentChars (e : Option Int) : Digits.NoneAhead (exponentChars e) := by
  cases e with
  | none => exact Digits.noneAhead_nil
  | some e =>
      intro c hc
      have h : c = 'e' := by simpa [exponentChars, eq_comm] using hc
      rw [h]
      decide

/-- The characters after the sign. -/
def unsignedChars (l : NumberLiteral) : List Char :=
  Digits.chars l.whole ++ (if l.fraction.isEmpty then [] else '.' :: Digits.chars l.fraction) ++
    exponentChars l.exponent

theorem chars_eq (l : NumberLiteral) :
    l.chars = (if l.negative then ['-'] else []) ++ l.unsignedChars := by
  obtain ⟨negative, whole, fraction, exponent⟩ := l
  cases exponent <;> simp [chars, unsignedChars, exponentChars]

/-- Reads what follows the whole part. -/
def afterWhole? (negative : Bool) (whole : List Digit) : List Char → Option NumberLiteral
  | '.' :: rest =>
      match Digits.span rest with
      | ([], _) => none
      | (fraction, rest) => (exponentOfChars? rest).map (⟨negative, whole, fraction, ·⟩)
  | rest => (exponentOfChars? rest).map (⟨negative, whole, [], ·⟩)

theorem unsignedOfChars?_eq (negative : Bool) {whole : List Digit} {rest : List Char}
    (hw : Digits.Leading whole) (hr : Digits.NoneAhead rest) :
    unsignedOfChars? negative (Digits.chars whole ++ rest) = afterWhole? negative whole rest := by
  unfold unsignedOfChars?
  rw [Digits.span_chars whole hr]
  split
  next h =>
    cases h
    cases hw
  next h =>
    cases h
    cases hw with
    | positive hd => exact (hd rfl).elim
  next h =>
    cases h
    rfl
  next hp h =>
    cases h
    unfold afterWhole?
    split
    next rest => exact (hp _ rfl).elim
    next => rfl

theorem unsignedOfChars?_unsignedChars {l : NumberLiteral} (h : l.WellSpelled) :
    unsignedOfChars? l.negative l.unsignedChars = some l := by
  obtain ⟨negative, whole, fraction, exponent⟩ := l
  have he := exponentOfChars?_exponentChars exponent
  have hn := noneAhead_exponentChars exponent
  cases fraction with
  | nil =>
      have hu : afterWhole? negative whole (exponentChars exponent) =
          (exponentOfChars? (exponentChars exponent)).map (⟨negative, whole, [], ·⟩) := by
        cases exponent <;> rfl
      simp only [unsignedChars, List.isEmpty_nil, if_true, List.append_nil]
      rw [unsignedOfChars?_eq negative h hn, hu, he]
      rfl
  | cons f fs =>
      have hp : Digits.NoneAhead ('.' :: (Digits.chars (f :: fs) ++ exponentChars exponent)) := by
        intro c hc
        cases hc
        decide
      simp only [unsignedChars, List.isEmpty_cons, Bool.false_eq_true, if_false, List.append_assoc,
        List.cons_append]
      rw [unsignedOfChars?_eq negative h hp, afterWhole?, Digits.span_chars (f :: fs) hn]
      simp only [he]
      rfl

/-- The first character of a well-spelled literal without its sign. -/
theorem unsignedChars_eq_cons {l : NumberLiteral} (h : l.WellSpelled) :
    ∃ (d : Digit) (cs : List Char), l.unsignedChars = d.char :: cs := by
  unfold unsignedChars
  have hw : Digits.Leading l.whole := h
  cases hl : l.whole with
  | nil =>
      rw [hl] at hw
      cases hw
  | cons d ds =>
      exact ⟨d, _, rfl⟩

/-- A well-spelled literal is read back from its characters. -/
theorem ofChars?_chars {l : NumberLiteral} (h : l.WellSpelled) : ofChars? l.chars = some l := by
  have hu := unsignedOfChars?_unsignedChars h
  rw [chars_eq]
  cases hn : l.negative with
  | true =>
      rw [hn] at hu
      exact hu
  | false =>
      rw [hn] at hu
      obtain ⟨d, cs, hc⟩ := unsignedChars_eq_cons h
      have hd : ∀ d : Digit, d.char ≠ '-' := by decide
      simp only [Bool.false_eq_true, if_false, List.nil_append]
      rw [← hu, hc]
      unfold ofChars?
      split
      next heq => exact (hd d (List.cons.inj heq).1).elim
      next => rfl

/-! ## What is written for a float -/

end NumberLiteral

namespace RoundingInterval

theorem not_contains_zero {x : RoundingInterval} (h : 0 < x.low) (hh : 0 < x.high) :
    x.contains 0 = false := by
  have hl : 0 ≠ x.low := Nat.ne_of_lt h
  have hr : 0 ≠ x.high := Nat.ne_of_lt hh
  simp [contains, hl, hr]

/-- Of the two neighbours of the value only such are taken as lie in the interval. -/
theorem contains_of_nearest? {tie : Tie} {x : RoundingInterval} {n : Nat}
    (h : x.nearest? tie = some n) : x.contains n = true := by
  unfold nearest? at h
  dsimp only at h
  split at h
  · cases h
  next hf _ =>
    cases h
    exact hf
  next _ hc =>
    cases h
    exact hc
  next hf hc =>
    split at h
    · cases h
      exact hf
    · cases h
      exact hc
    · split at h
      · cases h
        split
        · exact hf
        · exact hc
      · cases h
        exact hc

theorem nearest?_pos {tie : Tie} {x : RoundingInterval} {n : Nat} (h : 0 < x.low)
    (hh : 0 < x.high) (hn : x.nearest? tie = some n) : 0 < n := by
  apply Nat.pos_of_ne_zero
  rintro rfl
  have hc := contains_of_nearest? hn
  rw [not_contains_zero h hh] at hc
  cases hc

/-- The search ends with digits other than zero, or on its finest grid. -/
theorem search_digits (tie : Tie) {x : RoundingInterval} (h : 0 < x.low) (hh : 0 < x.high)
    (fuel : Nat) (exponent : Int) :
    0 < (x.search tie fuel exponent).digits ∨
      (x.search tie fuel exponent).exponent = exponent - fuel := by
  induction fuel generalizing exponent with
  | zero => exact .inr (by simp [search])
  | succ fuel ih =>
      have hl : 0 < (x.measuredIn exponent).low := Nat.mul_pos h (Nat.pow_pos (by decide))
      have hg : 0 < (x.measuredIn exponent).high := Nat.mul_pos hh (Nat.pow_pos (by decide))
      unfold search
      cases hn : (x.measuredIn exponent).nearest? tie with
      | some digits => exact .inl (nearest?_pos hl hg hn)
      | none =>
          rcases ih (exponent - 1) with hd | he
          · exact .inl hd
          · refine .inr ?_
            change (x.search tie fuel (exponent - 1)).exponent = _
            rw [he]
            omega

theorem low_pos {mantissa below scale : Nat} (h : 4 * mantissa * scale ≠ 0) (hb : below ≤ 2) :
    0 < (4 * mantissa - below) * scale := by
  have hv := Nat.pos_of_ne_zero h
  have hm := Nat.pos_of_mul_pos_right hv
  exact Nat.mul_pos (by omega) (Nat.pos_of_mul_pos_left hv)

theorem ofBits_ends_pos {bits : UInt64} (h : (ofBits bits).value ≠ 0) :
    0 < (ofBits bits).low ∧ 0 < (ofBits bits).high := by
  unfold ofBits at h ⊢
  dsimp only at h ⊢
  refine ⟨low_pos h ?_, Nat.mul_pos (by omega) (Nat.pow_pos (by decide))⟩
  split <;> decide

end RoundingInterval

namespace Decimal

/-- Digits in front of a point begin as a number literal may. -/
theorem positional_leading {d : Decimal} (h : 0 < d.digits ∨ d.exponent ≤ 0) :
    Digits.Leading d.positional.1 := by
  unfold positional
  dsimp only
  rcases Nat.eq_zero_or_pos d.digits with hz | hp
  · have hd : Digits.ofNat d.digits = [0] := by rw [hz]; rfl
    have he : d.exponent ≤ 0 := h.resolve_left (by omega)
    rw [hd]
    split_ifs with hs hl
    · have hn : d.exponent.toNat = 0 := by omega
      rw [hn]
      exact .zero
    · simp only [List.length_singleton] at hl
      omega
    · exact .zero
  · obtain ⟨c, cs, hd, hc⟩ := Digits.ofNat_leading hp
    rw [hd]
    split_ifs with hs hl
    · exact .positive hc
    · obtain ⟨k, hk⟩ := Nat.exists_eq_add_one_of_ne_zero (Nat.sub_ne_zero_of_lt hl)
      rw [hk, List.take_succ_cons]
      exact .positive hc
    · exact .zero

/-- The shortest decimal of a float has a digit other than zero unless its exponent is not
positive. -/
theorem shortest_digits (tie : Tie) (x : Float) :
    0 < (shortest tie x).digits ∨ (shortest tie x).exponent ≤ 0 := by
  unfold shortest
  dsimp only
  split_ifs with hv
  · exact .inr (Int.le_refl 0)
  · obtain ⟨hl, hh⟩ := RoundingInterval.ofBits_ends_pos hv
    rcases RoundingInterval.search_digits tie hl hh _ _ with hd | he
    · exact .inl hd
    · refine .inr ?_
      rw [he]
      omega

end Decimal

namespace NumberLiteral

theorem ofDecimal_wellSpelled (negative : Bool) {d : Decimal}
    (h : 0 < d.digits ∨ d.exponent ≤ 0) : (ofDecimal negative d).WellSpelled := by
  unfold WellSpelled ofDecimal
  dsimp only
  split
  · exact Decimal.positional_leading h
  · rcases Nat.eq_zero_or_pos d.digits with hz | hp
    · rw [hz]
      exact .zero
    · obtain ⟨c, cs, hd, hc⟩ := Digits.ofNat_leading hp
      rw [hd]
      exact .positive hc

/-- What is written for a float is well spelled. -/
theorem ofFloat?_wellSpelled {x : Float} {l : NumberLiteral} (h : ofFloat? x = some l) :
    l.WellSpelled := by
  unfold ofFloat? at h
  split_ifs at h
  rw [← Option.some.inj h]
  exact ofDecimal_wellSpelled _ (Decimal.shortest_digits .even x)

/-- A float whose written literal has that same float for its value. -/
def ReadsBack (x : Float) : Prop := (ofFloat? x).bind value? = some x

instance (x : Float) : Decidable (ReadsBack x) :=
  inferInstanceAs (Decidable ((ofFloat? x).bind value? = some x))

theorem ReadsBack.literal {x : Float} (h : ReadsBack x) :
    ∃ l, ofFloat? x = some l ∧ l.value? = some x := Option.bind_eq_some_iff.mp h

end NumberLiteral
end Dashboard
