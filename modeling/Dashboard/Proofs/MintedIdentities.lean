import Dashboard.Proofs.DistinctTokens
import Dashboard.Proofs.TwinSessions

/-!
# Identities of a session

Every identity that a session mints is made of the text of a widget and the next token. Taken
together they are the fresh identities for a single sequence of widgets, whichever commands have
asked for them. With numbered tokens none of them is minted twice. So one that has been removed does
not come back by itself; it can only be given again, as a part of a whole layout.

A layout that has been kept, or that is given, may hold identities that its session has not minted.
They are not kept in mind, so a session may still mint them, once each.
-/
namespace Dashboard

/-! ## Sequences of fresh identities -/

namespace PaneId

variable {σ : Type} [TokenSource σ]

/-- Fresh identities for panes of the given widgets, one after the other. -/
def freshAll : List String → σ → List PaneId × σ
  | [], tokens => ([], tokens)
  | widget :: widgets, tokens =>
      let (id, tokens) := fresh widget tokens
      let (ids, tokens) := freshAll widgets tokens
      (id :: ids, tokens)

theorem freshAll_eq (widgets : List String) (tokens : σ) :
    freshAll widgets tokens =
      (List.zipWith join widgets (TokenSource.draw widgets.length tokens).1,
        (TokenSource.draw widgets.length tokens).2) := by
  induction widgets generalizing tokens with
  | nil => rfl
  | cons widget widgets ih => simp only [freshAll, ih]; rfl

theorem freshAll_append (widgets others : List String) (tokens : σ) :
    freshAll (widgets ++ others) tokens =
      ((freshAll widgets tokens).1 ++ (freshAll others (freshAll widgets tokens).2).1,
        (freshAll others (freshAll widgets tokens).2).2) := by
  induction widgets generalizing tokens with
  | nil => rfl
  | cons widget widgets ih => simp only [List.cons_append, freshAll, ih]

/-- With numbered tokens no identity is minted twice before the counter runs over. -/
theorem nodup_freshAll_new {widgets : List String} (h : widgets.length < 2 ^ 64) :
    (freshAll widgets ({} : ScriptedTokens)).1.Nodup := by
  rw [freshAll_eq]
  exact nodup_zipWith_join (TokenSource.length_draw _ _).le (ScriptedTokens.nodup_draw_new h)
    (ScriptedTokens.delimiter_notMem_draw_new h)

end PaneId

/-! ## What a command mints -/

/-- The widgets of the panes that a command makes, with the given layout before it. -/
def Command.widgets (l : Layout) (settings : LayoutSettings) : Command → List String
  | .addWidget widget => [widget]
  | .addWidgetAt target widget _ => if target ∈ Layout.leaves l then [widget] else []
  | .loadPreset preset => (Layout.leaves preset.template).map PaneId.text
  | .loadDefaultLayout => (Layout.leaves Preset.default.template).map PaneId.text
  | .resetToMinimal => [settings.defaultWidget]
  | .removeWidget _ | .replaceTree _ | .setActiveView _ => []

/-- The identities that are part of a command. -/
def Command.given : Command → List PaneId
  | .replaceTree l => Layout.leaves l
  | _ => []

theorem Command.length_widgets (l : Layout) (settings : LayoutSettings) (c : Command) :
    (c.widgets l settings).length = c.drawn l := by
  cases c with
  | addWidgetAt target widget direction =>
      rw [widgets, drawn, apply_ite List.length]
      rfl
  | loadPreset preset => exact List.length_map _
  | loadDefaultLayout => exact List.length_map _
  | _ => rfl

namespace Layout

variable {σ : Type} [TokenSource σ]

/-- Instantiating a template mints an identity for each of its panes. -/
theorem freshAll_texts (template : Layout) (tokens : σ) :
    PaneId.freshAll ((leaves template).map PaneId.text) tokens =
      (leaves (instantiate template tokens).1, (instantiate template tokens).2) := by
  rw [PaneId.freshAll_eq, leaves_instantiate, tokens_instantiate, List.length_map, paneCount]

end Layout

theorem Verdict.mem_leaves_ofEdit {σ : Type} {id : PaneId} {l : Layout} {result : Layout × σ}
    (h : id ∈ Layout.leaves ((ofEdit result).layout?.getD l)) :
    id ∈ Layout.leaves l ∨ id ∈ Layout.leaves result.1 := by
  unfold ofEdit at h
  split at h
  · exact .inl h
  · exact .inr h

namespace Store

variable {σ β : Type} [TokenSource σ]

/-- The identities that a store mints for a command. -/
def mintedBy (s : Store σ β) (c : Command) : List PaneId :=
  (PaneId.freshAll (c.widgets s.layout s.settings) s.tokens).1

/-- The identities that a session starts with, unless it takes over a layout. -/
def mintedByStart (start : Store σ β) : List PaneId :=
  match start.origin with
  | .restored => []
  | .defaulted | .recovered _ => Layout.leaves start.layout

omit [TokenSource σ] in
theorem mintedByStart_of_ne {start : Store σ β} (h : start.origin ≠ .restored) :
    start.mintedByStart = Layout.leaves start.layout := by
  unfold mintedByStart
  split
  next hr => exact (h hr).elim
  · rfl
  · rfl

variable [KeyValueStore β]

/-- The identities that the commands of a session mint, in their order. -/
def mintedByRun (s : Store σ β) : List Command → List PaneId
  | [] => []
  | c :: cs => s.mintedBy c ++ mintedByRun (s.handle c).2 cs

/-- The identities that a session mints, its start included. -/
def minted (start : Store σ β) (cs : List Command) : List PaneId :=
  start.mintedByStart ++ start.mintedByRun cs

theorem mintedByRun_append (s : Store σ β) (earlier later : List Command) :
    s.mintedByRun (earlier ++ later) =
      s.mintedByRun earlier ++ (s.run earlier).mintedByRun later := by
  induction earlier generalizing s with
  | nil => rfl
  | cons c cs ih => rw [List.cons_append, mintedByRun, ih, mintedByRun, List.append_assoc, run]

theorem minted_append (start : Store σ β) (earlier later : List Command) :
    start.minted (earlier ++ later) =
      start.minted earlier ++ (start.run earlier).mintedByRun later := by
  rw [minted, mintedByRun_append, ← List.append_assoc, minted]

/-! ## A single sequence -/

theorem handle_tokens_freshAll (s : Store σ β) (c : Command) :
    (s.handle c).2.tokens = (PaneId.freshAll (c.widgets s.layout s.settings) s.tokens).2 := by
  rw [handle_tokens, PaneId.freshAll_eq, c.length_widgets]

theorem exists_mintedByRun (s : Store σ β) (cs : List Command) :
    ∃ widgets, widgets.length = s.drawnByRun cs ∧
      s.mintedByRun cs = (PaneId.freshAll widgets s.tokens).1 := by
  induction cs generalizing s with
  | nil => exact ⟨[], rfl, rfl⟩
  | cons c cs ih =>
      obtain ⟨widgets, hl, hm⟩ := ih (s.handle c).2
      refine ⟨c.widgets s.layout s.settings ++ widgets, ?_, ?_⟩
      · rw [List.length_append, c.length_widgets, hl, drawnByRun]
      · rw [PaneId.freshAll_append, ← handle_tokens_freshAll, ← hm]
        rfl

/-- What a session mints at its start is what the default layout is made of. -/
theorem exists_mintedByStart (backend : β) (tokens : σ) (settings : LayoutSettings) :
    let start := bootstrap backend tokens settings
    ∃ widgets, widgets.length = drawnByStart start.origin ∧
      PaneId.freshAll widgets tokens = (start.mintedByStart, start.tokens) := by
  intro start
  have ho := bootstrap_origin backend tokens settings
  have hl := bootstrap_layout backend tokens settings
  have ht := bootstrap_tokens backend tokens settings
  rcases Opening.ofText_kept_or_default (textRead backend) tokens with ⟨kept, l, -, h⟩ | ⟨origin, hr, h⟩
  · rw [h] at ho ht
    refine ⟨[], ?_, ?_⟩
    · rw [ho]
      rfl
    · rw [mintedByStart, ho, ht]
      rfl
  · rw [h] at ho hl ht
    refine ⟨(Layout.leaves Preset.default.template).map PaneId.text, ?_, ?_⟩
    · rw [ho, Opening.byDefault, drawnByStart_of_ne hr, List.length_map]
      rfl
    · rw [Layout.freshAll_texts, mintedByStart_of_ne (ho ▸ hr), hl, ht]
      rfl

/-- A session mints its identities for a single sequence of widgets. -/
theorem exists_minted (backend : β) (tokens : σ) (settings : LayoutSettings) (cs : List Command) :
    let start := bootstrap backend tokens settings
    ∃ widgets, widgets.length = start.drawn cs ∧
      start.minted cs = (PaneId.freshAll widgets tokens).1 := by
  intro start
  obtain ⟨first, hf, hs⟩ := exists_mintedByStart backend tokens settings
  obtain ⟨later, hl, hm⟩ := start.exists_mintedByRun cs
  refine ⟨first ++ later, ?_, ?_⟩
  · rw [List.length_append, hf, hl, drawn]
  · rw [PaneId.freshAll_append, hs, minted, hm]

/-! ## Where identities come from -/

/-- A pane after a command was there before, or has been made or given. -/
theorem mem_leaves_handle {s : Store σ β} {c : Command} {id : PaneId}
    (h : id ∈ Layout.leaves (s.handle c).2.layout) :
    id ∈ Layout.leaves s.layout ∨ id ∈ s.mintedBy c ∨ id ∈ c.given := by
  rw [handle_layout] at h
  cases c with
  | addWidget widget =>
      rcases Verdict.mem_leaves_ofEdit h with h | h
      · exact .inl h
      · rw [(Layout.leaves_insertFirst s.layout widget s.tokens).mem_iff] at h
        rcases List.mem_cons.mp h with rfl | h
        · exact .inr (.inl List.mem_cons_self)
        · exact .inl h
  | addWidgetAt target widget direction =>
      rcases Verdict.mem_leaves_ofEdit h with h | h
      · exact .inl h
      · by_cases ht : target ∈ Layout.leaves s.layout
        · rw [(Layout.insertAt_of_mem ht widget direction s.tokens).1, mem_insertAfter_iff] at h
          rcases h with h | ⟨rfl, -⟩
          · exact .inl h
          · rw [mintedBy, Command.widgets, if_pos ht]
            exact .inr (.inl List.mem_cons_self)
        · rw [Layout.insertAt_of_notMem ht] at h
          exact .inl h
  | removeWidget removed =>
      rcases Verdict.mem_leaves_ofEdit h with h | h
      · exact .inl h
      · rw [Layout.leaves_remove] at h
        exact .inl (List.mem_of_mem_filter h)
  | loadPreset preset =>
      rw [mintedBy, Command.widgets, Layout.freshAll_texts]
      exact .inr (.inl h)
  | loadDefaultLayout =>
      rw [mintedBy, Command.widgets, Layout.freshAll_texts]
      exact .inr (.inl h)
  | resetToMinimal =>
      change id ∈ Layout.leaves (some (.leaf _)) at h
      rw [Layout.leaves_some] at h
      exact .inr (.inl h)
  | replaceTree l =>
      rcases Verdict.mem_leaves_ofEdit h with h | h
      · exact .inl h
      · exact .inr (.inr h)
  | setActiveView view => exact .inl h

/-- What holds of a command holds of all. -/
theorem mem_leaves_run {s : Store σ β} {cs : List Command} {id : PaneId}
    (h : id ∈ Layout.leaves (s.run cs).layout) :
    id ∈ Layout.leaves s.layout ∨ id ∈ s.mintedByRun cs ∨ ∃ c ∈ cs, id ∈ c.given := by
  induction cs generalizing s with
  | nil => exact .inl h
  | cons c cs ih =>
      rw [mintedByRun, List.mem_append]
      rcases ih h with hl | hm | ⟨d, hd, hg⟩
      · rcases mem_leaves_handle hl with hl | hm | hg
        · exact .inl hl
        · exact .inr (.inl (.inl hm))
        · exact .inr (.inr ⟨c, List.mem_cons_self, hg⟩)
      · exact .inr (.inl (.inr hm))
      · exact .inr (.inr ⟨d, List.mem_cons_of_mem c hd, hg⟩)

/-- What a session has minted it does not mint again before the counter runs over. -/
theorem nodup_minted_new {backend : β} {settings : LayoutSettings} {cs : List Command}
    (h : (bootstrap backend ({} : ScriptedTokens) settings).drawn cs < 2 ^ 64) :
    ((bootstrap backend ({} : ScriptedTokens) settings).minted cs).Nodup := by
  obtain ⟨widgets, hl, hm⟩ := exists_minted backend ({} : ScriptedTokens) settings cs
  rw [hm]
  exact PaneId.nodup_freshAll_new (hl ▸ h)

/-- With numbered tokens, fewer than `2 ^ 64` identities are all different, whatever their widgets
are; from a million on the tokens are longer than six characters. So a session does not mint an
identity twice, and one that it has minted and removed comes back only as a part of a command.

A random token has six characters, each a digit or a small letter. An identity is the text of its
widget, a delimiter, and what stands behind its last delimiter, so that two identities are the same
exactly if their widgets and their tokens are. -/
theorem minted_once :
    (∀ widgets : List String, widgets.length < 2 ^ 64 →
      let ids := (PaneId.freshAll widgets ({} : ScriptedTokens)).1
      ids.Nodup ∧
        ids = List.zipWith PaneId.join widgets
          ((List.range' 1 widgets.length).map ScriptedTokens.numbered)) ∧
    (∀ n, 6 ≤ (ScriptedTokens.numbered n).length ∧
      ((ScriptedTokens.numbered n).length = 6 ↔ n < 1000000)) ∧
    (∀ {β : Type} [KeyValueStore β] (backend : β) (settings : LayoutSettings)
        (earlier later : List Command),
      let start := bootstrap backend ({} : ScriptedTokens) settings
      let now := start.run earlier
      start.drawn (earlier ++ later) < 2 ^ 64 →
      (start.minted (earlier ++ later)).Nodup ∧
        ∀ id ∈ start.minted earlier, id ∉ now.mintedByRun later ∧
          (id ∉ Layout.leaves now.layout → (∀ c ∈ later, id ∉ c.given) →
            id ∉ Layout.leaves (now.run later).layout)) ∧
    (∀ (widget : String) (r : RandomTokens),
      let token := (TokenSource.next r).1
      let id := (PaneId.fresh widget r).1
      token.length = 6 ∧ (∀ c ∈ token.toList, ('0' ≤ c ∧ c ≤ '9') ∨ ('a' ≤ c ∧ c ≤ 'z')) ∧
        id.text = widget ++ "#" ++ token ∧
        id.text.toList.rtakeWhile (· ≠ '#') = token.toList) ∧
    ∀ (widget other : String) (r s : RandomTokens),
      (PaneId.fresh widget r).1 = (PaneId.fresh other s).1 ↔
        widget = other ∧ (TokenSource.next r).1 = (TokenSource.next s).1 := by
  refine ⟨?_, ?_, ?_, ?_, ?_⟩
  · intro widgets hw ids
    refine ⟨PaneId.nodup_freshAll_new hw, ?_⟩
    rw [← ScriptedTokens.draw_new hw]
    exact congrArg Prod.fst (PaneId.freshAll_eq widgets _)
  · intro n
    rw [ScriptedTokens.length_numbered]
    refine ⟨?_, Digits.length_padded_eq_iff (by decide) n⟩
    rw [Digits.length_padded]
    exact Nat.le_max_left _ _
  · intro β _ backend settings earlier later start now hd
    have hn : (start.minted (earlier ++ later)).Nodup := nodup_minted_new hd
    have hdis : ∀ id ∈ start.minted earlier, id ∉ now.mintedByRun later := by
      rw [minted_append] at hn
      exact fun id hm hl => List.disjoint_of_nodup_append hn hm hl
    refine ⟨hn, fun id hm => ⟨hdis id hm, ?_⟩⟩
    intro hr hg hl
    rcases mem_leaves_run hl with hl | hl | ⟨c, hc, hl⟩
    · exact hr hl
    · exact hdis id hm hl
    · exact hg c hc hl
  · intro widget r token id
    refine ⟨RandomTokens.length_next r, ?_, rfl, ?_⟩
    · intro c hc
      exact RandomTokens.range_of_mem_alphabet (RandomTokens.mem_alphabet_next r c hc)
    · exact PaneId.rtakeWhile_text_join widget (RandomTokens.delimiter_notMem_next r)
  · intro widget other r s
    exact PaneId.join_inj (RandomTokens.delimiter_notMem_next r)
      (RandomTokens.delimiter_notMem_next s)

/-- Widgets that look like identities or like parts of them, and a pane that is removed before
another one of its widget is made. -/
theorem minted_once_with_imitations :
    let widgets := ["map", "map#000001", "map", "#000005", ""]
    let start := bootstrap (⟨fun _ => none⟩ : MemoryStore) ({} : ScriptedTokens) {}
    let earlier : List Command := [.addWidget "map", .removeWidget ⟨"map#000005"⟩]
    let later : List Command := [.addWidget "map"]
    (widgets.length < 2 ^ 64 ∧ (PaneId.freshAll widgets ({} : ScriptedTokens)).1.Nodup) ∧
      start.drawn (earlier ++ later) < 2 ^ 64 ∧ ⟨"map#000005"⟩ ∈ start.minted earlier ∧
      ⟨"map#000005"⟩ ∉ Layout.leaves ((start.run earlier).run later).layout := by
  intro widgets start earlier later
  obtain ⟨hf, -, hs, -⟩ := minted_once
  have hw : widgets.length < 2 ^ 64 := by decide
  have hd : start.drawn (earlier ++ later) < 2 ^ 64 := by decide +kernel
  have hm : ⟨"map#000005"⟩ ∈ start.minted earlier := by decide +kernel
  have hr : ⟨"map#000005"⟩ ∉ Layout.leaves (start.run earlier).layout := by decide +kernel
  have hg : ∀ c ∈ later, ⟨"map#000005"⟩ ∉ c.given := by
    intro c hc
    rw [List.mem_singleton.mp hc]
    exact List.not_mem_nil
  exact ⟨⟨hw, (hf widgets hw).1⟩, hd, hm,
    ((hs _ {} earlier later hd).2 _ hm).2 hr hg⟩

end Store
end Dashboard
