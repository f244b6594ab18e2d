import Dashboard.Proofs.Restart
import Dashboard.Proofs.TokenDraws
import Mathlib.Data.Prod.Basic

/-!
# Loading a template

A template is installed without a check, so its panes have identities of their own only as far as
the source of tokens provides for it. A random token holds no delimiter. Hence a fresh identity
tells both the text of its template and its token, and two panes get the same identity exactly when
they have the same text and draw the same token. Nothing keeps a source from repeating a token.

A layout in which identities repeat is written like any other. The next session refuses it, removes
it and starts from the default layout.
-/
namespace Dashboard

/-! ## What a fresh identity tells -/

/-- Behind its last separator a text is known, and so is what stands before. -/
theorem append_separator_inj {α : Type} {c : α} {xs ys as bs : List α} (ha : c ∉ as) (hb : c ∉ bs)
    (h : xs ++ c :: as = ys ++ c :: bs) : xs = ys ∧ as = bs := by
  rcases List.append_eq_append_iff.mp h with ⟨cs, rfl, hc⟩ | ⟨cs, rfl, hc⟩
  · cases cs with
    | nil => exact ⟨(List.append_nil xs).symm, (List.cons.inj hc).2⟩
    | cons c cs =>
        -- the separator before one end would stand inside the other
        rw [(List.cons.inj hc).2] at ha
        exact (ha (List.mem_append_right _ List.mem_cons_self)).elim
  · cases cs with
    | nil => exact ⟨List.append_nil ys, (List.cons.inj hc).2.symm⟩
    | cons c cs =>
        rw [(List.cons.inj hc).2] at hb
        exact (hb (List.mem_append_right _ List.mem_cons_self)).elim

namespace PaneId

theorem text_injective : Function.Injective text := by
  intro a b h
  cases a
  cases b
  exact congrArg PaneId.mk h

theorem toList_text_join (widget token : String) :
    (join widget token).text.toList = widget.toList ++ identityDelimiter :: token.toList := by
  simp [join, String.toList_append]

theorem join_inj {widget widget' token token' : String} (h : identityDelimiter ∉ token.toList)
    (h' : identityDelimiter ∉ token'.toList) :
    join widget token = join widget' token' ↔ widget = widget' ∧ token = token' := by
  constructor
  · intro he
    have hl := congrArg (fun id : PaneId => id.text.toList) he
    simp only [toList_text_join] at hl
    obtain ⟨hw, ht⟩ := append_separator_inj h h' hl
    exact ⟨String.toList_inj.mp hw, String.toList_inj.mp ht⟩
  · rintro ⟨rfl, rfl⟩
    rfl

/-- Identities repeat exactly where the same widget has been given the same token. -/
theorem nodup_zipWith_join_iff (widgets : List String) {tokens : List String}
    (h : ∀ token ∈ tokens, identityDelimiter ∉ token.toList) :
    (List.zipWith join widgets tokens).Nodup ↔ (List.zip widgets tokens).Nodup := by
  rw [← List.map_uncurry_zip_eq_zipWith]
  constructor
  · exact List.Nodup.of_map _
  · intro hn
    refine hn.map_on ?_
    intro p hp q hq he
    exact Prod.ext_iff.mpr
      ((join_inj (h p.2 (List.of_mem_zip hp).2) (h q.2 (List.of_mem_zip hq).2)).mp he)

/-- With tokens that differ and hold no delimiter, identities differ, whatever the widgets are. -/
theorem nodup_zipWith_join {widgets tokens : List String} (hl : tokens.length ≤ widgets.length)
    (ht : tokens.Nodup) (h : ∀ token ∈ tokens, identityDelimiter ∉ token.toList) :
    (List.zipWith join widgets tokens).Nodup := by
  rw [nodup_zipWith_join_iff widgets h]
  apply List.Nodup.of_map Prod.snd
  rwa [List.map_snd_zip hl]

end PaneId

/-! ## Random tokens -/

namespace RandomTokens

theorem mem_alphabet_select? {number : UInt64} {c : Char} (h : select? number = some c) :
    c ∈ alphabet := by
  unfold select? at h
  dsimp only at h
  split at h
  · exact List.mem_of_getElem? h
  · cases h

theorem mem_alphabet_nextChar (numbers : List UInt64) : (nextChar numbers).1 ∈ alphabet := by
  induction numbers with
  | nil => decide
  | cons number numbers ih =>
      unfold nextChar
      split
      next c hc => exact mem_alphabet_select? hc
      next => exact ih

theorem mem_alphabet_nextChars (n : Nat) (numbers : List UInt64) :
    ∀ c ∈ (nextChars n numbers).1, c ∈ alphabet := by
  induction n generalizing numbers with
  | zero => simp [nextChars]
  | succ n ih =>
      intro c hc
      rcases List.mem_cons.mp hc with rfl | hc
      · exact mem_alphabet_nextChar numbers
      · exact ih _ c hc

theorem mem_alphabet_next (r : RandomTokens) : ∀ c ∈ (next r).1.toList, c ∈ alphabet := by
  intro c hc
  simp only [next, String.toList_ofList] at hc
  exact mem_alphabet_nextChars tokenLength r.numbers c hc

/-- No random token holds a delimiter. -/
theorem delimiter_notMem_next (r : RandomTokens) :
    identityDelimiter ∉ (TokenSource.next r).1.toList := by
  intro hd
  exact absurd (mem_alphabet_next r _ hd) (by decide)

theorem delimiter_notMem_draw (n : Nat) (r : RandomTokens) :
    ∀ token ∈ (TokenSource.draw n r).1, identityDelimiter ∉ token.toList :=
  TokenSource.forall_mem_draw delimiter_notMem_next n r

/-- Once its numbers are used up, a source yields zeros for ever. -/
theorem next_nil : TokenSource.next (⟨[]⟩ : RandomTokens) = ("000000", ⟨[]⟩) := rfl

end RandomTokens

/-! ## Instantiated templates -/

namespace Layout

variable {σ : Type} [TokenSource σ]

/-- Identities repeat exactly where two panes of the same text have drawn the same token. -/
theorem nodup_instantiate_iff {template : Layout} {source : σ}
    (h : ∀ token ∈ (TokenSource.draw (paneCount template) source).1,
      identityDelimiter ∉ token.toList) :
    (leaves (instantiate template source).1).Nodup ↔
      (List.zip (leaves template) (TokenSource.draw (paneCount template) source).1).Nodup := by
  rw [leaves_instantiate, PaneId.nodup_zipWith_join_iff _ h, List.zip_map_left]
  exact List.nodup_map_iff (PaneId.text_injective.prodMap Function.injective_id)

/-- Random tokens hold no delimiter, so nothing has to be asked of them. -/
theorem nodup_instantiate_random (template : Layout) (source : RandomTokens) :
    (leaves (instantiate template source).1).Nodup ↔
      (List.zip (leaves template) (TokenSource.draw (paneCount template) source).1).Nodup :=
  nodup_instantiate_iff (RandomTokens.delimiter_notMem_draw _ source)

end Layout

namespace Store
open AtomicBackend

/-! ## The next start -/

section
variable {σ β : Type} [KeyValueStore β] [AtomicBackend β] [ReliableBackend β]

/-- A session that finds a layout in which identities repeat does not restore it. -/
theorem restart_of_repeated {s : Store σ β} (hk : IsKept s) {n : Node} (hn : s.layout = some n)
    (hp : ∀ p ∈ n.percentages, NumberLiteral.ReadsBack p) (hs : n.nesting ≤ 127)
    (hr : ¬ (Layout.leaves (some n)).Nodup) {τ : Type} [TokenSource τ] (later : τ)
    (settings : LayoutSettings) :
    let started := bootstrap s.backend later settings
    started.origin = .recovered (.duplicateIdentities (Layout.duplicates (some n))) ∧
      held started.backend snapshotKey = none := by
  intro started
  have ho := opening_of_isKept hk hn later
  rw [Snapshot.decode_encode_of_nesting (l := some n) hp hs,
    Layout.checkUnique_of_not_nodup hr] at ho
  have hd : Opening.ofText (textRead s.backend) later =
      .byDefault (.recovered (.duplicateIdentities (Layout.duplicates (some n)))) later := ho
  simp only [started, bootstrap_origin, bootstrap_backend, hd]
  refine ⟨rfl, ?_⟩
  exact (held_after_recovered _ snapshotKey).trans (if_pos rfl)

end

/-! ## The store after a template -/

variable {σ β : Type} [TokenSource σ] [KeyValueStore β]

@[simp] theorem loadTemplate_layout (s : Store σ β) (template : Layout) :
    (s.loadTemplate template).layout = (Layout.instantiate template s.tokens).1 := by
  obtain ⟨_, h⟩ := s.loadTemplate_eq template
  rw [h]
  rfl

theorem nodup_loadTemplate_random (s : Store RandomTokens β) (template : Layout) :
    (Layout.leaves (s.loadTemplate template).layout).Nodup ↔
      (List.zip (Layout.leaves template)
        (TokenSource.draw (Layout.paneCount template) s.tokens).1).Nodup := by
  rw [loadTemplate_layout]
  exact Layout.nodup_instantiate_random template s.tokens

/-- Loading a template gives every pane an identity from its text and the next token, and installs
the result whether identities repeat in it or not. With tokens that hold no delimiter, as random
ones do, they repeat exactly where two panes of the same text have drawn the same token. -/
theorem nodup_loadTemplate (s : Store σ β) (template : Layout) :
    let drawn := (TokenSource.draw (Layout.paneCount template) s.tokens).1
    Layout.leaves (s.loadTemplate template).layout =
        List.zipWith PaneId.join ((Layout.leaves template).map PaneId.text) drawn ∧
      ((∀ token ∈ drawn, identityDelimiter ∉ token.toList) →
        ((Layout.leaves (s.loadTemplate template).layout).Nodup ↔
          (List.zip (Layout.leaves template) drawn).Nodup)) := by
  intro drawn
  rw [loadTemplate_layout]
  exact ⟨Layout.leaves_instantiate template s.tokens, Layout.nodup_instantiate_iff⟩

variable [AtomicBackend β] [ReliableBackend β]

theorem isKept_loadTemplate (s : Store σ β) (template : Layout) :
    IsKept (s.loadTemplate template) := by
  obtain ⟨_, h⟩ := s.loadTemplate_eq template
  unfold IsKept
  rw [h]
  simp [after, Verdict.layout?, held_set, ReliableBackend.set_succeeds]

/-- A random source whose numbers are all zero, and a template with two panes of one widget. Both
panes get the same identity, and the layout is lost with the next start. -/
theorem loadTemplate_repeats :
    let start := bootstrap ({} : MemoryStore) (⟨[]⟩ : RandomTokens) {}
    let ended := start.loadTemplate
      (some (.branch {} (.leaf ⟨"metrics"⟩) (.leaf ⟨"metrics"⟩)))
    ¬ (Layout.leaves ended.layout).Nodup ∧
      held ended.backend snapshotKey = some (Layout.encode ended.layout) ∧
      (bootstrap ended.backend (⟨[]⟩ : RandomTokens) {}).origin =
        .recovered (.duplicateIdentities [⟨"metrics#000000"⟩]) ∧
      held (bootstrap ended.backend (⟨[]⟩ : RandomTokens) {}).backend snapshotKey = none := by
  intro start ended
  let n : Node := .branch {} (.leaf ⟨"metrics#000000"⟩) (.leaf ⟨"metrics#000000"⟩)
  have ht : start.tokens = ⟨[]⟩ := by
    have hn : textRead ({} : MemoryStore) = none := rfl
    rw [bootstrap_tokens, hn]
    rfl
  have hl : ended.layout = some n := by
    rw [loadTemplate_layout, ht]
    simp only [Layout.instantiate, Node.instantiate, PaneId.fresh, RandomTokens.next_nil]
    rfl
  have hr : ¬ (Layout.leaves (some n)).Nodup := by
    rw [← hl, nodup_loadTemplate_random, ht, Layout.paneCount, Layout.leaves_some]
    decide
  have hd : Layout.duplicates (some n) = [⟨"metrics#000000"⟩] := by
    rw [Layout.duplicates, Layout.leaves_some]
    decide
  have hk : IsKept ended := isKept_loadTemplate start _
  obtain ⟨ho, hh⟩ := restart_of_repeated hk hl (by decide) (by decide) hr (⟨[]⟩ : RandomTokens) {}
  rw [hd] at ho
  exact ⟨by rw [hl]; exact hr, hk, ho, hh⟩

end Store
end Dashboard
