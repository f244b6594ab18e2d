import Dashboard.JsonToken
import Dashboard.Proofs.NumberText
import Mathlib.Data.List.Chain

/-!
# Tokens as they are written

The lexer cuts a text that consists of written tokens, with nothing between them, into these
tokens. A word or a number does not show where it ends, so two of them may not stand side by side;
every other token may follow any token.
-/
namespace Dashboard

theorem Hexadecimal.value?_char {n : Nat} (h : n < 16) : value? (char n) = some n := by
  have hall : ∀ m : Fin 16, value? (char m) = some m.val := by decide
  exact hall ⟨n, h⟩

/-! ## Texts -/

namespace Piece

/-- A piece that can be written: a control character needs an escape of its own, and a code unit
has 16 bits. -/
def Writable : Piece → Prop
  | .char c => 32 ≤ c.toNat ∨ Spelling.hasShortEscape c = true
  | .unit u => u < 65536

theorem read_unit {u : Nat} (h : u < 65536) (tokens : List Token) (read : List Piece) :
    (Piece.unit u).chars.foldlM Lexer.step ⟨tokens, .text read⟩ =
      some ⟨tokens, .text (.unit u :: read)⟩ := by
  have hd : ∀ n, Hexadecimal.value? (Hexadecimal.char (n % 16)) = some (n % 16) :=
    fun n => Hexadecimal.value?_char (Nat.mod_lt n (by decide))
  have hu : ((u / 4096 % 16 * 16 + u / 256 % 16) * 16 + u / 16 % 16) * 16 + u % 16 = u := by
    omega
  have h₁ : Lexer.step ⟨tokens, .text read⟩ '\\' = some ⟨tokens, .escape read⟩ := rfl
  have h₂ : Lexer.step ⟨tokens, .escape read⟩ 'u' = some ⟨tokens, .unit read []⟩ := rfl
  simp only [chars, List.map_cons, List.map_nil, List.cons_append, List.nil_append,
    List.foldlM_cons, List.foldlM_nil, h₁, h₂, Option.bind_eq_bind, Option.bind_some]
  simp only [Lexer.step, hd, Option.map_some, Option.bind_some, hu]
  rfl

/-- A written piece is read as one piece of a text. -/
theorem read_chars {p : Piece} (h : p.Writable) (tokens : List Token) (read : List Piece) :
    p.chars.foldlM Lexer.step ⟨tokens, .text read⟩ = some ⟨tokens, .text (p :: read)⟩ := by
  unfold chars
  split
  · rfl
  · rfl
  · rfl
  · rfl
  · rfl
  · rfl
  · rfl
  next c hq hb h₁ h₂ h₃ h₄ h₅ =>
    have hc : ¬ c.toNat < 32 := by
      rcases h with h | h
      · omega
      · simp only [Spelling.hasShortEscape, List.mem_cons, List.not_mem_nil, or_false,
          decide_eq_true_eq] at h
        rcases h with h | h | h | h | h
        · exact (h₁ h).elim
        · exact (h₅ h).elim
        · exact (h₃ h).elim
        · exact (h₂ h).elim
        · exact (h₄ h).elim
    have hs : Lexer.step ⟨tokens, .text read⟩ c = some ⟨tokens, .text (.char c :: read)⟩ := by
      simp only [Lexer.step, if_neg hq, if_neg hb, if_neg hc]
    rw [List.foldlM_cons, hs]
    rfl
  next u => exact read_unit h tokens read

theorem read_flatMap_chars {ps : List Piece} (h : ∀ p ∈ ps, p.Writable) (tokens : List Token)
    (read : List Piece) :
    (ps.flatMap chars).foldlM Lexer.step ⟨tokens, .text read⟩ =
      some ⟨tokens, .text (ps.reverse ++ read)⟩ := by
  induction ps generalizing read with
  | nil => rfl
  | cons p ps ih =>
      rw [List.flatMap_cons, List.foldlM_append, read_chars (h p List.mem_cons_self)]
      have hs := ih (fun q hq => h q (List.mem_cons_of_mem _ hq)) (p :: read)
      simpa using hs

end Piece

namespace Spelling

theorem pieceOfChar_writable (c : Char) : (pieceOfChar c).Writable := by
  unfold pieceOfChar
  split_ifs with h
  · simp only [Bool.and_eq_true, decide_eq_true_eq] at h
    exact Nat.lt_trans h.1 (by decide)
  · simp only [Bool.and_eq_true, decide_eq_true_eq, Bool.not_eq_true', not_and,
      Bool.not_eq_false] at h
    by_cases hc : c.toNat < 32
    · exact .inr (h hc)
    · exact .inl (Nat.le_of_not_lt hc)

theorem ofString_writable (s : String) : ∀ p ∈ ofString s, p.Writable := by
  intro p hp
  obtain ⟨c, -, rfl⟩ := List.mem_map.mp hp
  exact pieceOfChar_writable c

theorem chars?_cons_pieceOfChar (c : Char) (s : Spelling) :
    chars? (pieceOfChar c :: s) = (chars? s).map (c :: ·) := by
  unfold pieceOfChar
  split_ifs with h
  · simp only [Bool.and_eq_true, decide_eq_true_eq] at h
    have hlow : c.toNat < 32 := h.1
    have ho : opensPair c.toNat = false := by simp [opensPair]; omega
    have hc : closesPair c.toNat = false := by simp [closesPair]; omega
    rw [chars?.eq_def]
    simp only [ho, hc, Char.ofNat_toNat]
    rfl
  · rfl

/-- A string is what its spelling denotes. -/
@[simp] theorem text?_ofString (s : String) : text? (ofString s) = some s := by
  have hs : ∀ cs : List Char, chars? (cs.map pieceOfChar) = some cs := by
    intro cs
    induction cs with
    | nil => rfl
    | cons c cs ih => rw [List.map_cons, chars?_cons_pieceOfChar, ih]; rfl
  unfold text? ofString
  rw [hs, Option.map_some, String.ofList_toList]

end Spelling

/-! ## Tokens -/

namespace NumberLiteral

theorem isNumeralChar_digit (d : Digit) : Lexer.isNumeralChar d.char = true := by
  revert d
  decide

theorem startsNumeral_digit (d : Digit) : Lexer.startsNumeral d.char = true := by
  revert d
  decide

theorem isNumeralChar_digits {ds : List Digit} {c : Char} (h : c ∈ Digits.chars ds) :
    Lexer.isNumeralChar c = true := by
  obtain ⟨d, -, rfl⟩ := List.mem_map.mp h
  exact isNumeralChar_digit d

theorem isNumeralChar_exponentChars {e : Option Int} {c : Char} (h : c ∈ exponentChars e) :
    Lexer.isNumeralChar c = true := by
  cases e with
  | none => cases h
  | some e =>
      simp only [exponentChars, List.mem_cons] at h
      rcases h with rfl | rfl | h
      · decide
      · split <;> decide
      · exact isNumeralChar_digits h

theorem isNumeralChar_chars {l : NumberLiteral} {c : Char} (h : c ∈ l.chars) :
    Lexer.isNumeralChar c = true := by
  rw [chars_eq] at h
  simp only [unsignedChars, List.mem_append] at h
  rcases h with h | (h | h) | h
  · split at h
    · rw [List.mem_singleton.mp h]
      decide
    · cases h
  · exact isNumeralChar_digits h
  · split at h
    · cases h
    · rcases List.mem_cons.mp h with rfl | h
      · decide
      · exact isNumeralChar_digits h
  · exact isNumeralChar_exponentChars h

/-- A well-spelled literal begins like a number. -/
theorem chars_eq_cons {l : NumberLiteral} (h : l.WellSpelled) :
    ∃ c cs, l.chars = c :: cs ∧ Lexer.startsNumeral c = true := by
  rw [chars_eq]
  cases l.negative with
  | true => exact ⟨'-', l.unsignedChars, rfl, by decide⟩
  | false =>
      obtain ⟨d, cs, hd⟩ := unsignedChars_eq_cons h
      exact ⟨d.char, cs, hd, startsNumeral_digit d⟩

end NumberLiteral

namespace Token

/-- A token that can be written. -/
def Writable : Token → Prop
  | .number l => l.WellSpelled
  | .text s => ∀ p ∈ s, p.Writable
  | _ => True

/-- Tokens that do not show where they end. -/
def isOpenEnded : Token → Bool
  | .null | .bool _ | .number _ => true
  | _ => false

end Token

namespace Lexer

/-- The lexer after the characters of a token. -/
def afterToken (tokens : List Token) : Token → Lexer
  | .null => ⟨tokens, .word "null".toList.reverse⟩
  | .bool true => ⟨tokens, .word "true".toList.reverse⟩
  | .bool false => ⟨tokens, .word "false".toList.reverse⟩
  | .number l => ⟨tokens, .numeral l.chars.reverse⟩
  | t => ⟨t :: tokens, .nothing⟩

theorem startsNumeral_not_space {c : Char} (h : startsNumeral c = true) :
    isSpace c = false ∧ c ≠ '"' := by
  constructor
  · rw [Bool.eq_false_iff]
    intro hs
    simp only [isSpace, List.mem_cons, List.not_mem_nil, or_false, decide_eq_true_eq] at hs
    rcases hs with rfl | rfl | rfl | rfl <;> revert h <;> decide
  · rintro rfl
    revert h
    decide

theorem foldlM_numeral {cs : List Char} (h : ∀ c ∈ cs, isNumeralChar c = true)
    (tokens : List Token) (read : List Char) :
    cs.foldlM step ⟨tokens, .numeral read⟩ = some ⟨tokens, .numeral (cs.reverse ++ read)⟩ := by
  induction cs generalizing read with
  | nil => rfl
  | cons c cs ih =>
      have hc : step ⟨tokens, .numeral read⟩ c = some ⟨tokens, .numeral (c :: read)⟩ := by
        simp [step, h c List.mem_cons_self]
      have hs := ih (fun d hd => h d (List.mem_cons_of_mem _ hd)) (c :: read)
      rw [List.foldlM_cons, hc]
      simpa using hs

theorem read_number {l : NumberLiteral} (h : l.WellSpelled) (tokens : List Token) :
    l.chars.foldlM step ⟨tokens, .nothing⟩ = some ⟨tokens, .numeral l.chars.reverse⟩ := by
  obtain ⟨c, cs, hl, hc⟩ := NumberLiteral.chars_eq_cons h
  obtain ⟨hs, hq⟩ := startsNumeral_not_space hc
  have hfirst : step ⟨tokens, .nothing⟩ c = some ⟨tokens, .numeral [c]⟩ := by
    simp [step, start, hs, hq, hc]
  have hrest : ∀ d ∈ cs, isNumeralChar d = true := by
    intro d hd
    exact NumberLiteral.isNumeralChar_chars (l := l) (by rw [hl]; exact List.mem_cons_of_mem _ hd)
  rw [hl, List.foldlM_cons, hfirst]
  simpa using foldlM_numeral hrest tokens [c]

theorem read_text {s : Spelling} (h : ∀ p ∈ s, p.Writable) (tokens : List Token) :
    (Token.chars (.text s)).foldlM step ⟨tokens, .nothing⟩ =
      some ⟨.text s :: tokens, .nothing⟩ := by
  have hc : Token.chars (.text s) = '"' :: (s.flatMap Piece.chars ++ ['"']) := rfl
  have hfirst : step ⟨tokens, .nothing⟩ '"' = some ⟨tokens, .text []⟩ := rfl
  have hlast : step ⟨tokens, .text (s.reverse ++ [])⟩ '"' = some ⟨.text s :: tokens, .nothing⟩ := by
    simp [step]
  rw [hc, List.foldlM_cons, hfirst]
  simp only [Option.bind_eq_bind, Option.bind_some]
  rw [List.foldlM_append, Piece.read_flatMap_chars h]
  simp only [Option.bind_eq_bind, Option.bind_some, List.foldlM_cons, List.foldlM_nil, hlast]
  rfl

/-- A written token is read as a whole, as far as it shows its end. -/
theorem read_token {t : Token} (h : t.Writable) (tokens : List Token) :
    t.chars.foldlM step ⟨tokens, .nothing⟩ = some (afterToken tokens t) := by
  cases t with
  | number l => exact read_number h tokens
  | text s => exact read_text h tokens
  | bool b => cases b <;> rfl
  | _ => rfl

/-- At the end of the text the token is complete. -/
theorem finish?_afterToken {t : Token} (h : t.Writable) (tokens : List Token) :
    (afterToken tokens t).finish? = some (t :: tokens) := by
  cases t with
  | number l => simp [afterToken, finish?, NumberLiteral.ofChars?_chars h]
  | bool b => cases b <;> rfl
  | _ => rfl

theorem step_word {c : Char} (h : isWordChar c = false) (tokens : List Token) (read : List Char) :
    step ⟨tokens, .word read⟩ c = (finish? ⟨tokens, .word read⟩).bind (start · c) := by
  simp [step, h]

theorem step_numeral {c : Char} (h : isNumeralChar c = false) (tokens : List Token)
    (read : List Char) :
    step ⟨tokens, .numeral read⟩ c = (finish? ⟨tokens, .numeral read⟩).bind (start · c) := by
  simp [step, h]

/-- A character that belongs neither to words nor to numbers ends every token. -/
theorem step_afterToken {t : Token} (h : t.Writable) (tokens : List Token) {c : Char}
    (hw : isWordChar c = false) (hn : isNumeralChar c = false) :
    (afterToken tokens t).step c = start (t :: tokens) c := by
  have hf := finish?_afterToken h tokens
  have hb : (some (t :: tokens)).bind (start · c) = start (t :: tokens) c := rfl
  rw [← hb, ← hf]
  cases t with
  | number l => exact step_numeral hn tokens _
  | null => exact step_word hw tokens _
  | bool b => cases b <;> exact step_word hw tokens _
  | _ => rfl

/-- A token that shows its end begins with a character that ends every token before it. -/
theorem chars_of_not_openEnded {t : Token} (h : t.isOpenEnded = false) :
    ∃ c cs, t.chars = c :: cs ∧ isWordChar c = false ∧ isNumeralChar c = false := by
  cases t with
  | null => cases h
  | bool b => cases h
  | number l => cases h
  | text s => exact ⟨'"', _, rfl, by decide, by decide⟩
  | _ => exact ⟨_, _, rfl, by decide, by decide⟩

/-- What follows a token is read as if the token had been completed, unless both do not show their
ends. -/
theorem read_token_afterToken {t u : Token} (ht : t.Writable) (hu : u.Writable)
    (h : t.isOpenEnded = true → u.isOpenEnded = false) (tokens : List Token) :
    u.chars.foldlM step (afterToken tokens t) = some (afterToken (t :: tokens) u) := by
  cases hc : t.isOpenEnded with
  | false =>
      have ha : afterToken tokens t = ⟨t :: tokens, .nothing⟩ := by
        cases t <;> first | rfl | cases hc
      rw [ha]
      exact read_token hu (t :: tokens)
  | true =>
      obtain ⟨c, cs, hcs, hw, hn⟩ := chars_of_not_openEnded (h hc)
      have hr := read_token hu (t :: tokens)
      have hs : step ⟨t :: tokens, .nothing⟩ c = start (t :: tokens) c := rfl
      rw [hcs, List.foldlM_cons] at hr ⊢
      rw [step_afterToken ht tokens hw hn, ← hs]
      exact hr

end Lexer

namespace Token

/-- Tokens that can be written with nothing between them. -/
def Separated (ts : List Token) : Prop :=
  ts.IsChain fun t u => t.isOpenEnded = true → u.isOpenEnded = false

theorem scan_afterToken {t : Token} {ts : List Token} (h : ∀ u ∈ t :: ts, u.Writable)
    (hs : Separated (t :: ts)) (tokens : List Token) :
    ∃ l, (ts.flatMap chars).foldlM Lexer.step (Lexer.afterToken tokens t) = some l ∧
      l.finish? = some ((t :: ts).reverse ++ tokens) := by
  -- the last token stays open until the next one begins, so it stands apart from the rest
  induction ts generalizing t tokens with
  | nil => exact ⟨_, rfl, Lexer.finish?_afterToken (h t List.mem_cons_self) tokens⟩
  | cons u ts ih =>
      obtain ⟨hd, hs⟩ := List.isChain_cons_cons.mp hs
      have hr := Lexer.read_token_afterToken (h t List.mem_cons_self)
        (h u (List.mem_cons_of_mem _ List.mem_cons_self)) hd tokens
      obtain ⟨l, hl, hf⟩ := ih (fun v hv => h v (List.mem_cons_of_mem _ hv)) hs (t :: tokens)
      refine ⟨l, ?_, ?_⟩
      · rw [List.flatMap_cons, List.foldlM_append, hr]
        exact hl
      · rw [hf]
        simp

/-- The lexer finds the tokens of a written text. -/
theorem scan?_flatMap_chars {ts : List Token} (h : ∀ t ∈ ts, t.Writable) (hs : Separated ts) :
    scan? (ts.flatMap chars) = some ts := by
  cases ts with
  | nil => rfl
  | cons t ts =>
      obtain ⟨l, hl, hf⟩ := scan_afterToken h hs []
      unfold scan?
      rw [List.flatMap_cons, List.foldlM_append, Lexer.read_token (h t List.mem_cons_self)]
      simp only [Option.bind_eq_bind, Option.bind_some, hl, hf, Option.map_some,
        List.append_nil, List.reverse_reverse]

end Token
end Dashboard
