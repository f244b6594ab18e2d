import Dashboard.JsonReader
import Dashboard.JsonWriter
import Dashboard.Proofs.TokenText

/-!
# Documents as they are written

The compact text of a document is read back as that document if it nests within the limit, and is
refused otherwise. What is asked of the document is that its numbers are well spelled and have a
value; its texts and keys may hold any characters, and keys may be repeated.

The inductions follow the document. The tokens of a part stand in front of others, so the
statements are about any tokens that come after, and those about reading about any stack of arrays
and objects that are waiting.
-/
namespace Dashboard.Json

/-! ## Depth, spelling and numbers of a document -/

mutual
/-- How many arrays and objects are open inside each other at most. -/
def nesting : Json String → Nat
  | .array items => itemsNesting items + 1
  | .object members => membersNesting members + 1
  | _ => 0
termination_by structural j => j

def itemsNesting : List (Json String) → Nat
  | [] => 0
  | j :: js => max j.nesting (itemsNesting js)
termination_by structural js => js

def membersNesting : List (String × Json String) → Nat
  | [] => 0
  | (_, j) :: ms => max j.nesting (membersNesting ms)
termination_by structural ms => ms
end

mutual
/-- The document with its texts as they are written. -/
def spelled : Json String → Json Spelling
  | .null => .null
  | .bool b => .bool b
  | .number l => .number l
  | .text s => .text (Spelling.ofString s)
  | .array items => .array (itemsSpelled items)
  | .object members => .object (membersSpelled members)
termination_by structural j => j

def itemsSpelled : List (Json String) → List (Json Spelling)
  | [] => []
  | j :: js => j.spelled :: itemsSpelled js
termination_by structural js => js

def membersSpelled : List (String × Json String) → List (Spelling × Json Spelling)
  | [] => []
  | (k, j) :: ms => (Spelling.ofString k, j.spelled) :: membersSpelled ms
termination_by structural ms => ms
end

mutual
/-- Whether all numbers are well spelled and have a value. -/
def Readable : Json String → Prop
  | .number l => l.WellSpelled ∧ l.value?.isSome
  | .array items => ItemsReadable items
  | .object members => MembersReadable members
  | _ => True
termination_by structural j => j

def ItemsReadable : List (Json String) → Prop
  | [] => True
  | j :: js => j.Readable ∧ ItemsReadable js
termination_by structural js => js

def MembersReadable : List (String × Json String) → Prop
  | [] => True
  | (_, j) :: ms => j.Readable ∧ MembersReadable ms
termination_by structural ms => ms
end

/-! ## Writing -/

/-- Tokens that the lexer finds again in their text. -/
structure Printable (ts : List Token) : Prop where
  writable : ∀ t ∈ ts, t.Writable
  separated : Token.Separated ts

/-- Tokens before which any token may stand. -/
def Delimited (ts : List Token) : Prop := ∀ t ∈ ts.head?, t.isOpenEnded = false

theorem Printable.cons {t : Token} {ts : List Token} (hs : Printable ts) (ht : t.Writable)
    (h : t.isOpenEnded = true → Delimited ts) : Printable (t :: ts) := by
  constructor
  · intro u hu
    rcases List.mem_cons.mp hu with rfl | hu
    · exact ht
    · exact hs.writable u hu
  · cases ts with
    | nil => exact List.isChain_singleton t
    | cons u ts => exact List.isChain_cons_cons.mpr ⟨fun hc => h hc u rfl, hs.separated⟩

theorem Printable.cons_delimiter {t : Token} {ts : List Token} (hs : Printable ts)
    (ht : t.Writable) (h : t.isOpenEnded = false) : Printable (t :: ts) :=
  hs.cons ht fun hc => by rw [h] at hc; cases hc

theorem delimited_cons {t : Token} {ts : List Token} (h : t.isOpenEnded = false) :
    Delimited (t :: ts) := by
  intro u hu
  cases hu
  exact h

mutual
theorem printable_tokensBefore : ∀ (j : Json String) (after : List Token), j.Readable →
    Printable after → Delimited after → Printable (j.tokensBefore after)
  | .null, after, _, hs, hd => hs.cons trivial fun _ => hd
  | .bool b, after, _, hs, hd => hs.cons trivial fun _ => hd
  | .number l, after, hr, hs, hd => hs.cons hr.1 fun _ => hd
  | .text s, after, _, hs, _ => hs.cons_delimiter (Spelling.ofString_writable s) rfl
  | .array items, after, hr, hs, _ => by
      have hc : Printable (.closeArray :: after) := hs.cons_delimiter trivial rfl
      have hi := printable_itemTokensBefore items _ hr hc (delimited_cons rfl)
      exact hi.cons_delimiter trivial rfl
  | .object members, after, hr, hs, _ => by
      have hc : Printable (.closeObject :: after) := hs.cons_delimiter trivial rfl
      have hm := printable_memberTokensBefore members _ hr hc (delimited_cons rfl)
      exact hm.cons_delimiter trivial rfl

theorem printable_itemTokensBefore : ∀ (js : List (Json String)) (after : List Token),
    ItemsReadable js → Printable after → Delimited after → Printable (itemTokensBefore js after)
  | [], _, _, hs, _ => hs
  | [j], after, hr, hs, hd => printable_tokensBefore j after hr.1 hs hd
  | j :: k :: js, after, hr, hs, hd => by
      have hi := printable_itemTokensBefore (k :: js) after hr.2 hs hd
      have hc : Printable (.comma :: itemTokensBefore (k :: js) after) :=
        hi.cons_delimiter trivial rfl
      exact printable_tokensBefore j _ hr.1 hc (delimited_cons rfl)

theorem printable_memberTokensBefore : ∀ (ms : List (String × Json String)) (after : List Token),
    MembersReadable ms → Printable after → Delimited after →
      Printable (memberTokensBefore ms after)
  | [], _, _, hs, _ => hs
  | [(k, j)], after, hr, hs, hd => by
      have hj := printable_tokensBefore j after hr.1 hs hd
      have hc : Printable (.colon :: j.tokensBefore after) := hj.cons_delimiter trivial rfl
      exact hc.cons_delimiter (Spelling.ofString_writable k) rfl
  | (k, j) :: m :: ms, after, hr, hs, hd => by
      have hm := printable_memberTokensBefore (m :: ms) after hr.2 hs hd
      have hc : Printable (.comma :: memberTokensBefore (m :: ms) after) :=
        hm.cons_delimiter trivial rfl
      have hj := printable_tokensBefore j _ hr.1 hc (delimited_cons rfl)
      have hk : Printable (.colon :: j.tokensBefore (.comma :: memberTokensBefore (m :: ms) after)) :=
        hj.cons_delimiter trivial rfl
      exact hk.cons_delimiter (Spelling.ofString_writable k) rfl
end

mutual
theorem suffix_tokensBefore : ∀ (j : Json String) (after : List Token),
    after <:+ j.tokensBefore after
  | .null, after | .bool _, after | .number _, after | .text _, after => List.suffix_cons _ after
  | .array items, after => by
      have hi := suffix_itemTokensBefore items (.closeArray :: after)
      exact ((List.suffix_cons _ after).trans hi).trans (List.suffix_cons _ _)
  | .object members, after => by
      have hm := suffix_memberTokensBefore members (.closeObject :: after)
      exact ((List.suffix_cons _ after).trans hm).trans (List.suffix_cons _ _)

theorem suffix_itemTokensBefore : ∀ (js : List (Json String)) (after : List Token),
    after <:+ itemTokensBefore js after
  | [], after => List.suffix_refl after
  | [j], after => suffix_tokensBefore j after
  | j :: k :: js, after => by
      have hi := suffix_itemTokensBefore (k :: js) after
      exact (hi.trans (List.suffix_cons _ _)).trans (suffix_tokensBefore j _)

theorem suffix_memberTokensBefore : ∀ (ms : List (String × Json String)) (after : List Token),
    after <:+ memberTokensBefore ms after
  | [], after => List.suffix_refl after
  | [(k, j)], after =>
      ((suffix_tokensBefore j after).trans (List.suffix_cons _ _)).trans (List.suffix_cons _ _)
  | (k, j) :: m :: ms, after => by
      have hm := suffix_memberTokensBefore (m :: ms) after
      have hj := suffix_tokensBefore j (.comma :: memberTokensBefore (m :: ms) after)
      have hc := (hm.trans (List.suffix_cons .comma _)).trans hj
      exact (hc.trans (List.suffix_cons .colon _)).trans (List.suffix_cons _ _)
end

theorem compact_text (s : String) :
    (compact (.text s)).toList =
      '"' :: ((Spelling.ofString s).flatMap Piece.chars ++ ['"']) := by
  simp [compact, tokens, tokensBefore, Token.chars]

/-- The text of an object ends with the brace that closes it. -/
theorem compact_object (members : List (String × Json String)) :
    ∃ cs, (compact (.object members)).toList = '{' :: (cs ++ ['}']) := by
  obtain ⟨ts, hts⟩ := suffix_memberTokensBefore members [.closeObject]
  refine ⟨ts.flatMap Token.chars, ?_⟩
  have ht : tokens (.object members) = .openObject :: (ts ++ [.closeObject]) := by
    rw [hts]
    rfl
  simp [compact, ht, Token.chars]

/-! ## Reading tokens -/

theorem tokensBefore_eq_cons (j : Json String) (after : List Token) :
    ∃ t ts, j.tokensBefore after = t :: ts ∧ t ≠ .closeArray := by
  cases j <;> exact ⟨_, _, rfl, Token.noConfusion⟩

theorem itemTokensBefore_eq_cons (j : Json String) (js : List (Json String))
    (after : List Token) :
    ∃ t ts, itemTokensBefore (j :: js) after = t :: ts ∧ t ≠ .closeArray := by
  cases js <;> exact tokensBefore_eq_cons j _

/-- An array that does not end at once is read like one that has been waiting for an item. -/
theorem foldlM_firstItem {t : Token} (h : t ≠ .closeArray) (ts : List Token)
    (stack : List Frame) :
    (t :: ts).foldlM Reader.step (.firstItem stack) =
      (t :: ts).foldlM Reader.step (.value (.array [] :: stack)) := by
  have hs : Reader.step (.firstItem stack) t = Reader.step (.value (.array [] :: stack)) t := by
    cases t <;> first | rfl | exact (h rfl).elim
  rw [List.foldlM_cons, List.foldlM_cons, hs]

mutual
/-- The tokens of a document lead from a state that waits for a value to one that has it. -/
theorem read_tokensBefore : ∀ (j : Json String) (after : List Token) (stack : List Frame),
    (j.tokensBefore after).foldlM Reader.step (.value stack) =
      after.foldlM Reader.step (Reader.complete j.spelled stack)
  | .null, _, _ | .bool _, _, _ | .number _, _, _ | .text _, _, _ => rfl
  | .array items, after, stack => by
      have hi := read_itemTokensBefore items (.closeArray :: after) [] stack
      have ho : Reader.step (.value stack) .openArray = some (.firstItem stack) := rfl
      cases items with
      | nil => rfl
      | cons j js =>
          obtain ⟨t, ts, ht, hc⟩ := itemTokensBefore_eq_cons j js (.closeArray :: after)
          have hi := hi (List.cons_ne_nil j js)
          rw [tokensBefore, List.foldlM_cons, ho, ht]
          rw [ht] at hi
          refine (foldlM_firstItem hc ts stack).trans (hi.trans ?_)
          rw [List.foldlM_cons, Reader.step, List.append_nil, List.reverse_reverse]
          rfl
  | .object members, after, stack => by
      have hm := read_memberTokensBefore members (.closeObject :: after) [] stack
      have ho : Reader.step (.value stack) .openObject = some (.firstKey stack) := rfl
      cases members with
      | nil => rfl
      | cons m ms =>
          -- the first key of an object is read like any other
          have hk : (memberTokensBefore (m :: ms) (.closeObject :: after)).foldlM Reader.step
              (.firstKey stack) =
              (memberTokensBefore (m :: ms) (.closeObject :: after)).foldlM Reader.step
                (.nextKey [] stack) := by
            cases ms <;> rfl
          rw [tokensBefore, List.foldlM_cons, ho]
          refine hk.trans ((hm (List.cons_ne_nil m ms)).trans ?_)
          rw [List.foldlM_cons, Reader.step, List.append_nil, List.reverse_reverse]
          rfl

theorem read_itemTokensBefore : ∀ (js : List (Json String)) (after : List Token)
    (items : List (Json Spelling)) (stack : List Frame), js ≠ [] →
    (itemTokensBefore js after).foldlM Reader.step (.value (.array items :: stack)) =
      after.foldlM Reader.step (.afterItem ((itemsSpelled js).reverse ++ items) stack)
  | [], _, _, _, h => (h rfl).elim
  | [j], after, items, stack, _ => read_tokensBefore j after (.array items :: stack)
  | j :: k :: js, after, items, stack, _ => by
      have hj := read_tokensBefore j (.comma :: itemTokensBefore (k :: js) after)
        (.array items :: stack)
      have hi := read_itemTokensBefore (k :: js) after (j.spelled :: items) stack
        (List.cons_ne_nil k js)
      have hs : (itemsSpelled (j :: k :: js)).reverse ++ items =
          (itemsSpelled (k :: js)).reverse ++ j.spelled :: items := by
        simp [itemsSpelled]
      rw [hs, ← hi]
      exact hj

theorem read_memberTokensBefore : ∀ (ms : List (String × Json String)) (after : List Token)
    (members : List (Spelling × Json Spelling)) (stack : List Frame), ms ≠ [] →
    (memberTokensBefore ms after).foldlM Reader.step (.nextKey members stack) =
      after.foldlM Reader.step (.afterMember ((membersSpelled ms).reverse ++ members) stack)
  | [], _, _, _, h => (h rfl).elim
  | [(k, j)], after, members, stack, _ =>
      read_tokensBefore j after (.object members (Spelling.ofString k) :: stack)
  | (k, j) :: m :: ms, after, members, stack, _ => by
      have hj := read_tokensBefore j (.comma :: memberTokensBefore (m :: ms) after)
        (.object members (Spelling.ofString k) :: stack)
      have hm := read_memberTokensBefore (m :: ms) after
        ((Spelling.ofString k, j.spelled) :: members) stack (List.cons_ne_nil m ms)
      have hs : (membersSpelled ((k, j) :: m :: ms)).reverse ++ members =
          (membersSpelled (m :: ms)).reverse ++ (Spelling.ofString k, j.spelled) :: members := by
        simp [membersSpelled]
      rw [hs, ← hm]
      exact hj
end

/-- A document is read from its text with every text spelled as it has been written. -/
theorem parse?_compact {j : Json String} (h : j.Readable) : parse? j.compact = some j.spelled := by
  have hp := printable_tokensBefore j [] h ⟨fun _ ht => (List.not_mem_nil ht).elim, .nil⟩
    (fun _ ht => by cases ht)
  have hs : Token.scan? (j.tokens.flatMap Token.chars) = some j.tokens :=
    Token.scan?_flatMap_chars hp.writable hp.separated
  have hr := read_tokensBefore j [] []
  unfold parse? compact ofTokens?
  rw [String.toList_ofList, hs]
  simp only [Option.bind_some]
  change ((j.tokensBefore []).foldlM Reader.step (.value [])).bind Reader.document? = _
  rw [hr]
  rfl

/-! ## Giving values -/

mutual
/-- A spelled document has the values of the document, if there is room for its nesting. -/
theorem value?_spelled : ∀ (j : Json String) (room : Nat), j.Readable →
    j.spelled.value? room = if j.nesting ≤ room then some j else none
  | .null, room, _ | .bool _, room, _ => rfl
  | .number l, room, h => by simp [spelled, value?, nesting, h.2]
  | .text s, room, _ => by simp [spelled, value?, nesting]
  | .array items, room, h => by
      cases room with
      | zero => simp [spelled, value?, nesting]
      | succ room =>
          have hi := itemValues?_spelled items room h
          simp only [spelled, value?, hi, nesting, Nat.add_le_add_iff_right]
          split <;> rfl
  | .object members, room, h => by
      cases room with
      | zero => simp [spelled, value?, nesting]
      | succ room =>
          have hm := memberValues?_spelled members room h
          simp only [spelled, value?, hm, nesting, Nat.add_le_add_iff_right]
          split <;> rfl

theorem itemValues?_spelled : ∀ (js : List (Json String)) (room : Nat), ItemsReadable js →
    itemValues? room (itemsSpelled js) = if itemsNesting js ≤ room then some js else none
  | [], room, _ => by simp [itemsSpelled, itemValues?, itemsNesting]
  | j :: js, room, h => by
      have hj := value?_spelled j room h.1
      have hi := itemValues?_spelled js room h.2
      simp only [itemsSpelled, itemValues?, hj, hi, itemsNesting, Nat.max_le]
      by_cases hn : j.nesting ≤ room
      · by_cases hns : itemsNesting js ≤ room
        · simp [hn, hns]
        · simp [hn, hns]
      · simp [hn]

theorem memberValues?_spelled : ∀ (ms : List (String × Json String)) (room : Nat),
    MembersReadable ms →
      memberValues? room (membersSpelled ms) = if membersNesting ms ≤ room then some ms else none
  | [], room, _ => by simp [membersSpelled, memberValues?, membersNesting]
  | (k, j) :: ms, room, h => by
      have hj := value?_spelled j room h.1
      have hm := memberValues?_spelled ms room h.2
      simp only [membersSpelled, memberValues?, Spelling.text?_ofString, hj, hm, membersNesting,
        Nat.max_le]
      by_cases hn : j.nesting ≤ room
      · by_cases hns : membersNesting ms ≤ room
        · simp [hn, hns]
        · simp [hn, hns]
      · simp [hn]
end

/-- The compact text of a document is read as that document, unless it nests too deep. -/
theorem read?_compact {j : Json String} (h : j.Readable) :
    read? j.compact = if j.nesting ≤ nestingLimit then some j else none := by
  unfold read?
  rw [parse?_compact h, Option.bind_some]
  exact value?_spelled j nestingLimit h

end Dashboard.Json
