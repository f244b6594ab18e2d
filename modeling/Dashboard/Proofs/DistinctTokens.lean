import Dashboard.Proofs.Templates
import Mathlib.Data.List.DropRight
import Mathlib.Data.Nat.Digits.Lemmas

/-!
# Tokens and what they tell

Numbered tokens are the numbers from one on, written with six digits or more. The zeros in front do
not count, so a token tells its number, also where the numbers have outgrown the six digits. As
long as the counter does not run over, no token comes twice.

Random tokens have six characters each, and may come twice. Neither kind holds a delimiter. What
stands behind the last delimiter of an identity is therefore its token, even if the text of the
widget has delimiters of its own or looks like another identity.
-/
namespace Dashboard

/-! ## Padded numbers -/

namespace Digits

@[simp] theorem toNat_padded (width n : Nat) : toNat (padded width n) = n := by
  rw [padded, toNat_replicate_zero_append, toNat_ofNat]

theorem padded_injective (width : Nat) : Function.Injective (padded width) :=
  Function.LeftInverse.injective (toNat_padded width)

/-- The digits of a positive number are those of the library, which lists the last one first. -/
theorem map_val_prepend {fuel n : Nat} (hn : 0 < n) (h : n < fuel) (after : List Digit) :
    (prepend fuel n after).map Fin.val = (Nat.digits 10 n).reverse ++ after.map Fin.val := by
  induction fuel generalizing n after with
  | zero => omega
  | succ fuel ih =>
      have hd : Nat.digits 10 n = n % 10 :: Nat.digits 10 (n / 10) :=
        Nat.digits_def' (by decide) hn
      rw [hd, List.reverse_cons, List.append_assoc]
      simp only [prepend]
      split
      next hs =>
        rw [Nat.div_eq_of_lt hs]
        rfl
      next hs =>
        rw [ih (by omega) (by omega)]
        rfl

theorem length_ofNat {n : Nat} (hn : 0 < n) : (ofNat n).length = (Nat.digits 10 n).length := by
  have h := congrArg List.length (map_val_prepend hn (Nat.lt_succ_self n) [])
  simpa [ofNat] using h

theorem length_padded (width n : Nat) :
    (padded width n).length = max width (ofNat n).length := by
  rw [padded, List.length_append, List.length_replicate]
  omega

/-- A number is written longer than it has been padded to exactly if it has outgrown the width. -/
theorem length_padded_eq_iff {width : Nat} (hw : 0 < width) (n : Nat) :
    (padded width n).length = width ↔ n < 10 ^ width := by
  rw [length_padded, max_eq_left_iff]
  rcases Nat.eq_zero_or_pos n with rfl | hn
  · have hp : 0 < 10 ^ width := by positivity
    exact iff_of_true hw hp
  · rw [length_ofNat hn]
    exact Nat.digits_length_le_iff (by decide) n

end Digits

/-! ## Numbered tokens -/

namespace ScriptedTokens

/-- The token with the given number. -/
def numbered (n : Nat) : String := String.ofList (Digits.chars (Digits.padded 6 n))

theorem toList_numbered (n : Nat) :
    (numbered n).toList = Digits.chars (Digits.padded 6 n) := String.toList_ofList

theorem numbered_injective : Function.Injective numbered := by
  intro m n h
  have hc : Digits.chars (Digits.padded 6 m) = Digits.chars (Digits.padded 6 n) := by
    rw [← toList_numbered, h, toList_numbered]
  exact Digits.padded_injective 6 (Digits.chars_injective hc)

theorem delimiter_notMem_numbered (n : Nat) : identityDelimiter ∉ (numbered n).toList := by
  rw [toList_numbered]
  exact Digits.notMem_chars (by decide) _

theorem length_numbered (n : Nat) : (numbered n).length = (Digits.padded 6 n).length := by
  rw [← String.length_toList, toList_numbered, Digits.chars, List.length_map]

/-- After the listed tokens the numbers follow, as long as the counter does not run over. -/
theorem draw_numbered {n : Nat} {counter : UInt64} (h : counter.toNat + n < 2 ^ 64) :
    (TokenSource.draw n (⟨[], counter⟩ : ScriptedTokens)).1 =
      (List.range' (counter.toNat + 1) n).map numbered := by
  induction n generalizing counter with
  | zero => rfl
  | succ n ih =>
      have hc : (counter + 1).toNat = counter.toNat + 1 := by
        rw [UInt64.toNat_add]
        exact Nat.mod_eq_of_lt (by rw [UInt64.toNat_one]; omega)
      have hn : TokenSource.next (⟨[], counter⟩ : ScriptedTokens) =
          (numbered (counter.toNat + 1), ⟨[], counter + 1⟩) := by
        rw [← hc]
        rfl
      have hd := @ih (counter + 1) (by omega)
      rw [TokenSource.draw, hn, hd, hc]
      rfl

/-- A session of its own counts from one on. -/
theorem draw_new {n : Nat} (h : n < 2 ^ 64) :
    (TokenSource.draw n ({} : ScriptedTokens)).1 = (List.range' 1 n).map numbered :=
  draw_numbered (by simpa using h)

theorem nodup_draw_new {n : Nat} (h : n < 2 ^ 64) :
    (TokenSource.draw n ({} : ScriptedTokens)).1.Nodup := by
  rw [draw_new h]
  exact List.Nodup.map numbered_injective List.nodup_range'

theorem delimiter_notMem_draw_new {n : Nat} (h : n < 2 ^ 64) :
    ∀ token ∈ (TokenSource.draw n ({} : ScriptedTokens)).1, identityDelimiter ∉ token.toList := by
  rw [draw_new h]
  intro token ht
  obtain ⟨m, -, rfl⟩ := List.mem_map.mp ht
  exact delimiter_notMem_numbered m

end ScriptedTokens

/-! ## Random tokens -/

namespace RandomTokens

theorem length_nextChars (n : Nat) (numbers : List UInt64) : (nextChars n numbers).1.length = n := by
  induction n generalizing numbers with
  | zero => rfl
  | succ n ih => exact congrArg (· + 1) (ih _)

theorem length_next (r : RandomTokens) : (TokenSource.next r).1.length = 6 := by
  rw [← String.length_toList]
  exact (congrArg List.length String.toList_ofList).trans (length_nextChars tokenLength r.numbers)

theorem range_of_mem_alphabet {c : Char} (h : c ∈ alphabet) :
    ('0' ≤ c ∧ c ≤ '9') ∨ ('a' ≤ c ∧ c ≤ 'z') := by
  have ha : alphabet.all fun c => ('0' ≤ c && c ≤ '9') || ('a' ≤ c && c ≤ 'z') := by decide
  simpa using List.all_eq_true.mp ha c h

end RandomTokens

/-! ## Identities -/

namespace PaneId

/-- Behind the last delimiter of an identity stands its token. -/
theorem rtakeWhile_text_join (widget : String) {token : String}
    (h : identityDelimiter ∉ token.toList) :
    (join widget token).text.toList.rtakeWhile (· ≠ identityDelimiter) = token.toList := by
  have hr : ∀ c ∈ token.toList.reverse, decide (c ≠ identityDelimiter) = true := by
    intro c hc
    apply decide_eq_true
    rintro rfl
    exact h (List.mem_reverse.mp hc)
  rw [toList_text_join, List.rtakeWhile, List.reverse_append, List.reverse_cons, List.append_assoc,
    List.takeWhile_append_of_pos hr]
  simp

end PaneId
end Dashboard
