import Dashboard.Store
import Mathlib.Data.List.DropRight

/-!
# Trimmed texts

A text is trimmed of blank characters before it is read, while between tokens only four of them may
stand. The two notions agree where it matters: a text that is read as a document has no other blank
characters at its ends, and it is read as the same document once it is trimmed.

The only document of the empty layout is null, and the only texts of that document are the word
`null` between spaces. So the bare word is all that trimming can leave of them.

Both facts are found by going through the lexer and the reader backwards. For each there is a
property of its states that every step keeps, and from which the last state tells what has been
read.
-/
namespace Dashboard

/-! ## The lexer -/

namespace Token

theorem ofPunctuation?_ne_null {c : Char} {t : Token} (h : ofPunctuation? c = some t) :
    t ≠ .null := by
  unfold ofPunctuation? at h
  split at h <;> simp at h <;> subst h <;> simp

theorem ofWord?_eq_null {cs : List Char} (h : ofWord? cs = some .null) :
    cs = "null".toList := by
  unfold ofWord? at h
  split at h
  next hc => exact hc
  split at h
  · simp at h
  split at h <;> simp at h

end Token

namespace Lexer

/-- What has been read, as long as no token but null has been finished. -/
structure LoneNull (read : List Char) (l : Lexer) : Prop where
  nothing : l = ⟨[], .nothing⟩ → ∀ c ∈ read, isSpace c
  word : ∀ w, l = ⟨[], .word w⟩ → ∃ before, (∀ c ∈ before, isSpace c) ∧ read = before ++ w.reverse
  null : l = ⟨[.null], .nothing⟩ → ∃ before after, (∀ c ∈ before, isSpace c) ∧
    (∀ c ∈ after, isSpace c) ∧ read = before ++ "null".toList ++ after

theorem LoneNull.of_ne {read : List Char} {l : Lexer} (h₁ : l ≠ ⟨[], .nothing⟩)
    (h₂ : ∀ w, l ≠ ⟨[], .word w⟩) (h₃ : l ≠ ⟨[.null], .nothing⟩) : LoneNull read l :=
  ⟨fun h => (h₁ h).elim, fun w h => (h₂ w h).elim, fun h => (h₃ h).elim⟩

theorem LoneNull.space {read : List Char} {tokens : List Token} {c : Char}
    (h : LoneNull read ⟨tokens, .nothing⟩) (hc : isSpace c = true) :
    LoneNull (read ++ [c]) ⟨tokens, .nothing⟩ := by
  have hs : ∀ cs : List Char, (∀ d ∈ cs, isSpace d) → ∀ d ∈ cs ++ [c], isSpace d := by
    intro cs h d hd
    rcases List.mem_append.mp hd with hd | hd
    · exact h d hd
    · rw [List.mem_singleton.mp hd]
      exact hc
  constructor
  · intro he
    exact hs read (h.nothing he)
  · intro w he
    cases he
  · intro he
    obtain ⟨before, after, hb, ha, hr⟩ := h.null he
    exact ⟨before, after ++ [c], hb, hs after ha, by rw [hr, List.append_assoc]⟩

theorem LoneNull.start {read : List Char} {tokens : List Token} {c : Char} {l : Lexer}
    (h : LoneNull read ⟨tokens, .nothing⟩) (hs : Lexer.start tokens c = some l) :
    LoneNull (read ++ [c]) l := by
  unfold Lexer.start at hs
  split at hs
  next hc =>
    cases hs
    exact h.space hc
  split at hs
  · cases hs
    exact .of_ne (by simp) (by simp) (by simp)
  split at hs
  · cases hs
    exact .of_ne (by simp) (by simp) (by simp)
  split at hs
  · -- the first character of a word, after spaces if there is no token yet
    cases hs
    refine ⟨by simp, ?_, by simp⟩
    intro w hw
    simp only [Lexer.mk.injEq, Lexeme.word.injEq] at hw
    obtain ⟨rfl, rfl⟩ := hw
    exact ⟨read, h.nothing rfl, rfl⟩
  · obtain ⟨t, ht, rfl⟩ := Option.map_eq_some_iff.mp hs
    have hn := Token.ofPunctuation?_ne_null ht
    exact .of_ne (by simp) (by simp) (by simp [hn])

theorem LoneNull.finish {read : List Char} {l : Lexer} {tokens : List Token}
    (h : LoneNull read l) (hf : l.finish? = some tokens) :
    LoneNull read ⟨tokens, .nothing⟩ := by
  obtain ⟨before, lexeme⟩ := l
  cases lexeme with
  | nothing =>
      cases hf
      exact h
  | word w =>
      obtain ⟨t, ht, rfl⟩ := Option.map_eq_some_iff.mp hf
      refine ⟨by simp, by simp, ?_⟩
      intro he
      simp only [Lexer.mk.injEq, List.cons.injEq] at he
      obtain ⟨⟨rfl, rfl⟩, -⟩ := he
      obtain ⟨spaces, hs, hr⟩ := h.word w rfl
      rw [Token.ofWord?_eq_null ht] at hr
      exact ⟨spaces, [], hs, by simp, by rw [hr, List.append_nil]⟩
  | numeral digits =>
      obtain ⟨literal, -, rfl⟩ := Option.map_eq_some_iff.mp hf
      exact .of_ne (by simp) (by simp) (by simp)
  | text pieces => cases hf
  | escape pieces => cases hf
  | unit pieces digits => cases hf

theorem LoneNull.step {read : List Char} {l m : Lexer} {c : Char} (h : LoneNull read l)
    (hs : l.step c = some m) : LoneNull (read ++ [c]) m := by
  obtain ⟨tokens, lexeme⟩ := l
  cases lexeme with
  | nothing => exact h.start hs
  | word w =>
      simp only [Lexer.step] at hs
      split at hs
      · cases hs
        refine ⟨by simp, ?_, by simp⟩
        intro w' he
        simp only [Lexer.mk.injEq, Lexeme.word.injEq] at he
        obtain ⟨rfl, rfl⟩ := he
        obtain ⟨before, hb, hr⟩ := h.word w rfl
        exact ⟨before, hb, by rw [hr, List.reverse_cons, List.append_assoc]⟩
      · obtain ⟨finished, hf, hs⟩ := Option.bind_eq_some_iff.mp hs
        exact (h.finish hf).start hs
  | numeral digits =>
      simp only [Lexer.step] at hs
      split at hs
      · cases hs
        exact .of_ne (by simp) (by simp) (by simp)
      · obtain ⟨finished, hf, hs⟩ := Option.bind_eq_some_iff.mp hs
        exact (h.finish hf).start hs
  | text pieces =>
      -- a finished text is a token, but not null
      simp only [Lexer.step] at hs
      split_ifs at hs <;> cases hs <;> exact .of_ne (by simp) (by simp) (by simp)
  | escape pieces =>
      simp only [Lexer.step] at hs
      split at hs
      · cases hs
        exact .of_ne (by simp) (by simp) (by simp)
      · obtain ⟨d, -, rfl⟩ := Option.map_eq_some_iff.mp hs
        exact .of_ne (by simp) (by simp) (by simp)
  | unit pieces digits =>
      obtain ⟨d, -, rfl⟩ := Option.map_eq_some_iff.mp hs
      split <;> exact .of_ne (by simp) (by simp) (by simp)

theorem LoneNull.foldlM {read cs : List Char} {l m : Lexer} (h : LoneNull read l)
    (hf : cs.foldlM Lexer.step l = some m) : LoneNull (read ++ cs) m := by
  induction cs generalizing read l with
  | nil =>
      cases hf
      rw [List.append_nil]
      exact h
  | cons c cs ih =>
      rw [List.foldlM_cons] at hf
      obtain ⟨next, hs, hf⟩ := Option.bind_eq_some_iff.mp hf
      have hr := ih (h.step hs) hf
      rw [List.append_assoc] at hr
      exact hr

end Lexer

/-- A text whose only token is null is the word between spaces. -/
theorem Token.eq_of_scan?_null {cs : List Char} (h : scan? cs = some [.null]) :
    ∃ before after, (∀ c ∈ before, Lexer.isSpace c) ∧ (∀ c ∈ after, Lexer.isSpace c) ∧
      cs = before ++ "null".toList ++ after := by
  obtain ⟨l, hl, hf⟩ := Option.bind_eq_some_iff.mp h
  obtain ⟨tokens, hf, hr⟩ := Option.map_eq_some_iff.mp hf
  have ht : tokens = [.null] := by simpa using congrArg List.reverse hr
  subst ht
  have hs : Lexer.LoneNull [] ⟨[], .nothing⟩ := ⟨by simp, by simp, by simp⟩
  exact ((hs.foldlM hl).finish hf).null rfl

/-! ## Blank characters at the ends -/

theorem toNat_of_isBlank {c : Char} (h : isBlank c = true) :
    c.toNat ≤ 32 ∨ 127 < c.toNat := by
  simp only [isBlank, Bool.or_eq_true, Bool.and_eq_true, decide_eq_true_eq] at h
  omega

/-- A blank character is not among those in a range of visible ones. -/
theorem not_between_of_isBlank {c : Char} (h : isBlank c = true) (low high : Char)
    (hl : 32 < low.toNat) (hh : high.toNat ≤ 127) : ¬ (low ≤ c ∧ c ≤ high) := by
  rintro ⟨h₁, h₂⟩
  have hn := toNat_of_isBlank h
  have hl' : low.toNat ≤ c.toNat := h₁
  have hh' : c.toNat ≤ high.toNat := h₂
  omega

namespace Lexer

theorem isWordChar_of_isBlank {c : Char} (h : isBlank c = true) : isWordChar c = false := by
  have hn := not_between_of_isBlank h 'a' 'z' (by decide) (by decide)
  simpa [isWordChar] using hn

theorem startsNumeral_of_isBlank {c : Char} (h : isBlank c = true) : startsNumeral c = false := by
  have hn := not_between_of_isBlank h '0' '9' (by decide) (by decide)
  have hm : c ≠ '-' := by
    rintro rfl
    exact absurd h (by decide)
  simpa [startsNumeral, hm] using hn

theorem isNumeralChar_of_isBlank {c : Char} (h : isBlank c = true) : isNumeralChar c = false := by
  have hm : c ∉ ['+', '.', 'e', 'E'] := by
    intro hc
    simp only [List.mem_cons, List.not_mem_nil, or_false] at hc
    rcases hc with rfl | rfl | rfl | rfl <;> exact absurd h (by decide)
  simp only [isNumeralChar, startsNumeral_of_isBlank h, hm, decide_false, Bool.or_self]

theorem ne_quote_of_isBlank {c : Char} (h : isBlank c = true) : c ≠ '"' := by
  rintro rfl
  exact absurd h (by decide)

/-- Where a token may start, a blank character can only be a space. -/
theorem start_of_isBlank {tokens : List Token} {c : Char} {l : Lexer} (h : isBlank c = true)
    (hs : start tokens c = some l) : isSpace c = true ∧ l = ⟨tokens, .nothing⟩ := by
  have hp : Token.ofPunctuation? c = none := by
    unfold Token.ofPunctuation?
    split
    all_goals first | rfl | exact absurd h (by decide)
  unfold start at hs
  simp only [ne_quote_of_isBlank h, startsNumeral_of_isBlank h, isWordChar_of_isBlank h, hp,
    if_false, Option.map_none, Bool.false_eq_true] at hs
  split at hs
  next hc =>
    cases hs
    exact ⟨hc, rfl⟩
  · cases hs

/-- A blank character at the end of a text is no part of a token, since an unfinished text would
stay unfinished. -/
theorem finish?_of_isBlank {l m : Lexer} {c : Char} {tokens : List Token} (h : isBlank c = true)
    (hs : l.step c = some m) (hf : m.finish? = some tokens) : l.finish? = some tokens := by
  -- what is unfinished ends before the character, as before a space
  have hb : ∀ {l : Lexer}, l.finish?.bind (start · c) = some m → l.finish? = some tokens := by
    intro l hs
    obtain ⟨finished, hl, hs⟩ := Option.bind_eq_some_iff.mp hs
    obtain ⟨-, rfl⟩ := start_of_isBlank h hs
    exact hl.trans hf
  obtain ⟨before, lexeme⟩ := l
  cases lexeme with
  | nothing =>
      obtain ⟨-, rfl⟩ := start_of_isBlank h hs
      exact hf
  | word w =>
      simp only [step, isWordChar_of_isBlank h] at hs
      exact hb hs
  | numeral digits =>
      simp only [step, isNumeralChar_of_isBlank h] at hs
      exact hb hs
  | text pieces =>
      simp only [step, ne_quote_of_isBlank h, if_false] at hs
      split_ifs at hs <;> cases hs <;> cases hf
  | escape pieces =>
      simp only [step] at hs
      split at hs
      · cases hs
        cases hf
      · obtain ⟨d, -, rfl⟩ := Option.map_eq_some_iff.mp hs
        cases hf
  | unit pieces digits =>
      obtain ⟨d, -, rfl⟩ := Option.map_eq_some_iff.mp hs
      split at hf <;> cases hf

end Lexer

namespace Token

theorem scan?_dropWhile {cs : List Char} {ts : List Token} (h : scan? cs = some ts) :
    scan? (cs.dropWhile isBlank) = some ts := by
  induction cs with
  | nil => exact h
  | cons c cs ih =>
      by_cases hc : isBlank c = true
      · rw [List.dropWhile_cons_of_pos hc]
        refine ih ?_
        obtain ⟨l, hl, hf⟩ := Option.bind_eq_some_iff.mp h
        rw [List.foldlM_cons] at hl
        obtain ⟨next, hs, hl⟩ := Option.bind_eq_some_iff.mp hl
        obtain ⟨-, rfl⟩ := Lexer.start_of_isBlank hc hs
        exact Option.bind_eq_some_iff.mpr ⟨l, hl, hf⟩
      · rw [List.dropWhile_cons_of_neg hc]
        exact h

theorem scan?_dropBlankEnd {cs : List Char} {ts : List Token} (h : scan? cs = some ts) :
    scan? (dropBlankEnd cs) = some ts := by
  induction cs using List.reverseRecOn with
  | nil => exact h
  | append_singleton cs c ih =>
      have hd : dropBlankEnd (cs ++ [c]) = if isBlank c then dropBlankEnd cs else cs ++ [c] :=
        List.rdropWhile_concat _ _ _
      rw [hd]
      split
      next hc =>
        refine ih ?_
        obtain ⟨m, hm, hf⟩ := Option.bind_eq_some_iff.mp h
        obtain ⟨tokens, hf, hr⟩ := Option.map_eq_some_iff.mp hf
        rw [List.foldlM_append] at hm
        obtain ⟨l, hl, hs⟩ := Option.bind_eq_some_iff.mp hm
        obtain ⟨m', hs, hm⟩ := Option.bind_eq_some_iff.mp hs
        cases hm
        refine Option.bind_eq_some_iff.mpr ⟨l, hl, Option.map_eq_some_iff.mpr ⟨tokens, ?_, hr⟩⟩
        exact Lexer.finish?_of_isBlank hc hs hf
      · exact h

/-- A text with tokens has the same tokens once it is trimmed. -/
theorem scan?_trimBlank {cs : List Char} {ts : List Token} (h : scan? cs = some ts) :
    scan? (trimBlank cs) = some ts :=
  scan?_dropBlankEnd (scan?_dropWhile h)

end Token

/-! ## The reader -/

namespace Reader

/-- Whether a reader is inside an array or object or has read something else than null. -/
def NotNull : Reader → Prop
  | .value stack => stack ≠ []
  | .done j => j ≠ .null
  | _ => True

theorem complete_notNull {j : Json Spelling} {stack : List Frame} (h : j ≠ .null ∨ stack ≠ []) :
    (complete j stack).NotNull := by
  rcases stack with _ | ⟨_ | _, stack⟩
  · exact h.resolve_right (by simp)
  · trivial
  · trivial

theorem begin?_notNull {stack : List Frame} {t : Token} {r : Reader} (h : t ≠ .null ∨ stack ≠ [])
    (hb : begin? stack t = some r) : r.NotNull := by
  cases t <;> simp only [begin?, Option.some.injEq, reduceCtorEq] at hb <;> subst hb
  case null => exact complete_notNull (.inr (h.resolve_left (by simp)))
  case openArray => trivial
  case openObject => trivial
  all_goals exact complete_notNull (.inl (by simp))

theorem step_notNull {r s : Reader} {t : Token} (h : r.NotNull) (hs : r.step t = some s) :
    s.NotNull := by
  unfold step at hs
  split at hs
  · exact begin?_notNull (.inr h) hs
  · cases hs
    exact complete_notNull (.inl (by simp))
  · exact begin?_notNull (.inr (by simp)) hs
  · cases hs
    exact List.cons_ne_nil _ _
  · cases hs
    exact complete_notNull (.inl (by simp))
  · cases hs
    trivial
  · cases hs
    exact complete_notNull (.inl (by simp))
  · cases hs
    trivial
  · cases hs
    exact List.cons_ne_nil _ _
  · cases hs
    trivial
  · cases hs
    exact complete_notNull (.inl (by simp))
  · cases hs

theorem foldlM_notNull {ts : List Token} {r s : Reader} (h : r.NotNull)
    (hf : ts.foldlM step r = some s) : s.NotNull := by
  induction ts generalizing r with
  | nil =>
      cases hf
      exact h
  | cons t ts ih =>
      rw [List.foldlM_cons] at hf
      obtain ⟨next, hs, hf⟩ := Option.bind_eq_some_iff.mp hf
      exact ih (step_notNull h hs) hf

end Reader

namespace Json

theorem eq_of_ofTokens?_null {ts : List Token} (h : ofTokens? ts = some .null) : ts = [.null] := by
  obtain ⟨last, hf, hd⟩ := Option.bind_eq_some_iff.mp h
  cases ts with
  | nil =>
      cases hf
      cases hd
  | cons t ts =>
      rw [List.foldlM_cons] at hf
      obtain ⟨next, hb, hf⟩ := Option.bind_eq_some_iff.mp hf
      by_cases ht : t = .null
      · subst ht
        cases hb
        -- nothing can follow a complete document
        cases ts with
        | nil => rfl
        | cons t ts => cases hf
      · have hn := Reader.foldlM_notNull (Reader.begin?_notNull (.inl ht) hb) hf
        cases last with
        | done j =>
            cases hd
            exact (hn rfl).elim
        | _ => cases hd

theorem eq_of_value?_null {room : Nat} {j : Json Spelling} (h : j.value? room = some .null) :
    j = .null := by
  cases j with
  | null => rfl
  | bool b => simp [value?] at h
  | number l => simp [value?] at h
  | text s => simp [value?] at h
  | array items => cases room <;> simp [value?] at h
  | object members => cases room <;> simp [value?] at h

theorem eq_of_lastWins_null {j : Json String} (h : j.lastWins = .null) : j = .null := by
  cases j <;> simp [lastWins] at h ⊢

theorem scan?_of_read?_null {text : String} (h : read? text = some .null) :
    Token.scan? text.toList = some [.null] := by
  obtain ⟨spelled, hp, hv⟩ := Option.bind_eq_some_iff.mp h
  obtain ⟨ts, hs, ht⟩ := Option.bind_eq_some_iff.mp hp
  rw [eq_of_value?_null hv] at ht
  rw [hs, eq_of_ofTokens?_null ht]

end Json

/-! ## The empty layout -/

theorem Layout.eq_null_of_ofJson?_none {j : Json String} (h : ofJson? j = some none) :
    j = .null := by
  unfold ofJson? at h
  split at h
  · rfl
  · obtain ⟨n, -, hn⟩ := Option.map_eq_some_iff.mp h
    cases hn

theorem Snapshot.read?_of_decode_none {text : String} (h : decode text = .ok none) :
    Json.read? text = some .null := by
  unfold decode at h
  split at h
  · cases h
  next j hj =>
    split at h
    · split at h
      · cases h
      next l hl =>
        cases hc : Layout.checkUnique l with
        | error e => simp [hc, Except.map] at h
        | ok u =>
            simp only [hc, Except.map, Except.ok.injEq] at h
            subst h
            obtain ⟨read, hr, hw⟩ := Option.map_eq_some_iff.mp hj
            rw [Layout.eq_null_of_ofJson?_none hl] at hw
            rw [hr, Json.eq_of_lastWins_null hw]
    · cases h

/-! ## Trimming -/

theorem isBlank_of_isSpace {c : Char} (h : Lexer.isSpace c = true) : isBlank c = true := by
  have hc : c ∈ [' ', '\t', '\n', '\r'] := of_decide_eq_true h
  simp only [List.mem_cons, List.not_mem_nil, or_false] at hc
  rcases hc with rfl | rfl | rfl | rfl <;> rfl

/-- What is left of a text has no blank character at its ends. -/
theorem trimBlank_trimBlank (cs : List Char) : trimBlank (trimBlank cs) = trimBlank cs := by
  have hp : trimBlank cs <+: cs.dropWhile isBlank := List.rdropWhile_prefix _ _
  have hd : (cs.dropWhile isBlank).dropWhile isBlank = cs.dropWhile isBlank :=
    List.dropWhile_idempotent _ _
  have hs : (trimBlank cs).dropWhile isBlank = trimBlank cs := by
    rw [List.dropWhile_eq_self_iff] at hd ⊢
    intro hl
    -- the first character left is the first one that is not blank
    rw [hp.getElem hl]
    exact hd (hl.trans_le hp.length_le)
  have he : dropBlankEnd (trimBlank cs) = trimBlank cs := List.rdropWhile_idempotent _ _
  rw [trimBlank, hs, he]

theorem trimBlank_null {before after : List Char} (hb : ∀ c ∈ before, isBlank c = true)
    (ha : ∀ c ∈ after, isBlank c = true) :
    trimBlank (before ++ "null".toList ++ after) = "null".toList := by
  have hr : ∀ c ∈ after.reverse, isBlank c = true := fun c hc => ha c (List.mem_reverse.mp hc)
  have hn : isBlank 'n' = false := by decide
  have hl : isBlank 'l' = false := by decide
  unfold trimBlank dropBlankEnd
  rw [List.append_assoc, List.dropWhile_append_of_pos hb]
  simp [List.dropWhile_append_of_pos hr, hn, hl]

/-- A text without the blank characters around it. -/
def trimmed (text : String) : String := String.ofList (trimBlank text.toList)

/-- A text that is read as a document is read as the same document once it is trimmed. -/
theorem Json.read?_trimmed {text : String} {j : Json String} (h : read? text = some j) :
    read? (trimmed text) = some j := by
  obtain ⟨spelled, hp, hv⟩ := Option.bind_eq_some_iff.mp h
  obtain ⟨ts, hs, ht⟩ := Option.bind_eq_some_iff.mp hp
  have hk : Token.scan? (trimmed text).toList = some ts := by
    rw [trimmed, String.toList_ofList]
    exact Token.scan?_trimBlank hs
  have hq : parse? (trimmed text) = some spelled := Option.bind_eq_some_iff.mpr ⟨ts, hk, ht⟩
  exact Option.bind_eq_some_iff.mpr ⟨spelled, hq, hv⟩

theorem Snapshot.decode_trimmed {text : String} {l : Layout} (h : decode text = .ok l) :
    decode (trimmed text) = .ok l := by
  cases hr : Json.read? text with
  | none => simp [decode, hr] at h
  | some j =>
      rw [← h]
      unfold decode
      rw [hr, Json.read?_trimmed hr]

/-- What is left of a text is never read as the empty layout, unless it is the bare word. -/
theorem Snapshot.trimmed_eq_null {text : String} (h : decode (trimmed text) = .ok none) :
    trimmed text = "null" := by
  obtain ⟨before, after, hb, ha, hc⟩ :=
    Token.eq_of_scan?_null (Json.scan?_of_read?_null (read?_of_decode_none h))
  have hs : trimBlank (trimmed text).toList = "null".toList := by
    rw [hc]
    exact trimBlank_null (fun c hc => isBlank_of_isSpace (hb c hc))
      fun c hc => isBlank_of_isSpace (ha c hc)
  have hk : (trimmed text).toList = trimBlank text.toList := by
    rw [trimmed, String.toList_ofList]
  rw [hk, trimBlank_trimBlank, ← hk] at hs
  exact String.toList_inj.mp hs

end Dashboard
