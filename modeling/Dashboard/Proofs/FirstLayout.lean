import Dashboard.Proofs.KeptText
import Dashboard.Proofs.TokenDraws
import Dashboard.Proofs.TrimmedText
import Dashboard.Proofs.UniquePanes

/-!
# The first layout of a session

What a session starts with depends on the text that has been kept, and on nothing else. Without a
text, and with one that is blank or the bare word `null`, it is the default layout and the backend
is only read. A text that can be decoded is taken over as it is. Any other text is removed, and the
layout is the default one again.

In no case is the first layout empty. The empty layout could only come from a text of the document
null, and what is left of such a text is the bare word, which counts as no text.
-/
namespace Dashboard

namespace Store
open AtomicBackend

theorem significant?_eq_some_iff (text kept : String) :
    significant? text = some kept ↔ trimmed text = kept ∧ kept ≠ "" ∧ kept ≠ "null" := by
  have hs : significant? text =
      if (trimmed text).isEmpty ∨ trimmed text = "null" then none else some (trimmed text) := rfl
  rw [hs]
  constructor
  · intro h
    split at h
    · cases h
    next hn =>
      cases h
      rw [String.isEmpty_iff] at hn
      exact ⟨rfl, not_or.mp hn⟩
  · rintro ⟨rfl, hn⟩
    have hc : ¬ ((trimmed text).isEmpty = true ∨ trimmed text = "null") := by
      rw [String.isEmpty_iff]
      exact not_or.mpr hn
    exact if_neg hc

theorem decode_ne_none {text kept : String} (h : significant? text = some kept) :
    Snapshot.decode kept ≠ .ok none := by
  obtain ⟨rfl, -, hn⟩ := (significant?_eq_some_iff text kept).mp h
  exact fun hd => hn (Snapshot.trimmed_eq_null hd)

/-- The text that a start takes up: what is left of the text that could be read, unless that is
nothing or the bare word `null`. -/
def TakesUp {β : Type} [KeyValueStore β] (backend : β) (kept : String) : Prop :=
  ∃ text, (KeyValueStore.get snapshotKey backend).1 = .ok (some text) ∧
    trimmed text = kept ∧ kept ≠ "" ∧ kept ≠ "null"

theorem textRead_eq_some_iff {β : Type} [KeyValueStore β] (backend : β) (text : String) :
    textRead backend = some text ↔
      (KeyValueStore.get snapshotKey backend).1 = .ok (some text) := by
  unfold textRead
  cases (KeyValueStore.get snapshotKey backend).1 <;> simp

theorem takesUp_iff {β : Type} [KeyValueStore β] (backend : β) (kept : String) :
    TakesUp backend kept ↔ (textRead backend).bind significant? = some kept := by
  simp only [TakesUp, Option.bind_eq_some_iff, textRead_eq_some_iff, significant?_eq_some_iff]

end Store

/-! ## The decision -/

namespace Opening

variable {σ : Type} [TokenSource σ] {text : Option String}

theorem origin_eq_defaulted_iff (text : Option String) (tokens : σ) :
    (ofText text tokens).origin = .defaulted ↔ text.bind Store.significant? = none := by
  rcases ofText_cases text tokens with ⟨ht, ho⟩ | ⟨kept, l, ht, hd, ho⟩ | ⟨kept, e, ht, hd, ho⟩
  all_goals simp [ho, ht, byDefault]

theorem restored_iff (text : Option String) (tokens : σ) (l : Layout) :
    ((ofText text tokens).origin = .restored ∧ (ofText text tokens).layout = l) ↔
      ∃ kept, text.bind Store.significant? = some kept ∧ Snapshot.decode kept = .ok l := by
  rcases ofText_cases text tokens with ⟨ht, ho⟩ | ⟨kept, l, ht, hd, ho⟩ | ⟨kept, e, ht, hd, ho⟩
  all_goals simp [ho, ht, byDefault]
  all_goals simp [hd]

theorem origin_eq_recovered_iff (text : Option String) (tokens : σ) (e : LayoutError) :
    (ofText text tokens).origin = .recovered e ↔
      ∃ kept, text.bind Store.significant? = some kept ∧ Snapshot.decode kept = .error e := by
  rcases ofText_cases text tokens with ⟨ht, ho⟩ | ⟨kept, l, ht, hd, ho⟩ | ⟨kept, e, ht, hd, ho⟩
  all_goals simp [ho, ht, byDefault]
  all_goals simp [hd]

/-- A text that can be decoded as it is will not be refused. -/
theorem origin_ne_recovered {kept : String} {l : Layout} (h : text = some kept)
    (hd : Snapshot.decode kept = .ok l) (tokens : σ) (e : LayoutError) :
    (ofText text tokens).origin ≠ .recovered e := by
  intro he
  obtain ⟨left, hs, hr⟩ := (origin_eq_recovered_iff text tokens e).mp he
  rw [h, Option.bind_some, Store.significant?_eq_some_iff] at hs
  obtain ⟨rfl, -⟩ := hs
  rw [Snapshot.decode_trimmed hd] at hr
  cases hr

theorem tokens_of_restored {tokens : σ} (h : (ofText text tokens).origin = .restored) :
    (ofText text tokens).tokens = tokens := by
  rcases ofText_cases text tokens with ⟨ht, ho⟩ | ⟨kept, l, ht, hd, ho⟩ | ⟨kept, e, ht, hd, ho⟩
  · simp [ho, byDefault] at h
  · rw [ho]
  · simp [ho, byDefault] at h

theorem eq_byDefault {tokens : σ} (h : (ofText text tokens).origin ≠ .restored) :
    ofText text tokens = byDefault (ofText text tokens).origin tokens := by
  rcases ofText_cases text tokens with ⟨ht, ho⟩ | ⟨kept, l, ht, hd, ho⟩ | ⟨kept, e, ht, hd, ho⟩
  · rw [ho]
    rfl
  · simp [ho] at h
  · rw [ho]
    rfl

theorem layout_ne_none (text : Option String) (tokens : σ) :
    (ofText text tokens).layout ≠ none := by
  rcases ofText_cases text tokens with ⟨ht, ho⟩ | ⟨kept, l, ht, hd, ho⟩ | ⟨kept, e, ht, hd, ho⟩
  · rw [ho]
    exact nofun
  · obtain ⟨found, -, hs⟩ := Option.bind_eq_some_iff.mp ht
    rw [ho]
    rintro rfl
    exact Store.decode_ne_none hs hd
  · rw [ho]
    exact nofun

/-- The panes of the default layout get the next four tokens. -/
theorem leaves_byDefault (origin : Origin) (tokens : σ) :
    Layout.leaves (byDefault origin tokens).layout =
        List.zipWith PaneId.join
          ["agentMap", "globalMetrics", "timeSeriesExplorer", "templateDynamics"]
          (TokenSource.draw 4 tokens).1 ∧
      (byDefault origin tokens).tokens = (TokenSource.draw 4 tokens).2 := by
  have hl : (Layout.leaves Preset.default.template).map PaneId.text =
      ["agentMap", "globalMetrics", "timeSeriesExplorer", "templateDynamics"] := by
    rw [Preset.template, Layout.leaves_some]
    rfl
  have hc : Layout.paneCount Preset.default.template = 4 := by
    have := congrArg List.length hl
    rwa [List.length_map] at this
  have hi := Layout.leaves_instantiate Preset.default.template tokens
  have ht := Layout.tokens_instantiate Preset.default.template tokens
  rw [hl, hc] at hi
  rw [hc] at ht
  exact ⟨hi, ht⟩

end Opening

/-! ## The start -/

namespace Store
open AtomicBackend

variable {σ β : Type} [TokenSource σ] [KeyValueStore β]

/-- A start finds nothing to take up unless something is left of what it has read. -/
theorem bind_significant?_eq_none_iff (backend : β) :
    (textRead backend).bind significant? = none ↔
      ∀ text, (KeyValueStore.get snapshotKey backend).1 = .ok (some text) →
        trimmed text = "" ∨ trimmed text = "null" := by
  rw [Option.eq_none_iff_forall_ne_some]
  simp only [ne_eq, ← takesUp_iff]
  constructor
  · intro hn text hg
    by_contra hc
    exact hn (trimmed text) ⟨text, hg, rfl, not_or.mp hc⟩
  · rintro hc kept ⟨text, hg, rfl, hn⟩
    exact not_or.mpr hn (hc text hg)

theorem bootstrap_calls (backend : Watched β) (tokens : σ) (settings : LayoutSettings) :
    (bootstrap backend tokens settings).backend.calls =
      backend.calls ++ callsOfStart (bootstrap backend tokens settings).origin := by
  rw [bootstrap_backend, bootstrap_origin]
  cases (Opening.ofText (textRead backend) tokens).origin <;>
    simp [backendAfterStart, callsOfStart]

/-- Nothing is removed unless the text has been refused. -/
theorem callsOfStart_of_ne {origin : Origin} (h : ∀ e, origin ≠ .recovered e) :
    callsOfStart origin = [.get snapshotKey] := by
  cases origin with
  | recovered e => exact (h e rfl).elim
  | defaulted => rfl
  | restored => rfl

variable [AtomicBackend β]

/-- What a session starts with, for every text that may have been kept and every way in which its
backend may fail. -/
theorem start_of_session (backend : Watched β) (tokens : σ) (settings : LayoutSettings) :
    let start := bootstrap backend tokens settings
    (start.layout ≠ none ∧ (Layout.leaves start.layout).Nodup) ∧
    (start.origin = .defaulted ↔
      ∀ text, (KeyValueStore.get snapshotKey backend).1 = .ok (some text) →
        trimmed text = "" ∨ trimmed text = "null") ∧
    (∀ l, start.origin = .restored ∧ start.layout = l ↔
      ∃ kept, TakesUp backend kept ∧ Snapshot.decode kept = .ok l) ∧
    (∀ e, start.origin = .recovered e ↔
      ∃ kept, TakesUp backend kept ∧ Snapshot.decode kept = .error e) ∧
    (start.origin = .restored → start.tokens = tokens ∧ held start.backend = held backend) ∧
    (start.origin ≠ .restored →
      start.layout = (Layout.instantiate Preset.default.template tokens).1 ∧
        Layout.leaves start.layout =
          List.zipWith PaneId.join
            ["agentMap", "globalMetrics", "timeSeriesExplorer", "templateDynamics"]
            (TokenSource.draw 4 tokens).1 ∧
        start.tokens = (TokenSource.draw 4 tokens).2) ∧
    start.backend.calls = backend.calls ++ callsOfStart start.origin ∧
    ∀ text l, (KeyValueStore.get snapshotKey backend).1 = .ok (some text) →
      Snapshot.decode text = .ok l → start.backend.calls = backend.calls ++ [.get snapshotKey] := by
  intro start
  have ho : start.origin = (Opening.ofText (textRead backend) tokens).origin :=
    bootstrap_origin backend tokens settings
  have hl : start.layout = (Opening.ofText (textRead backend) tokens).layout :=
    bootstrap_layout backend tokens settings
  have ht : start.tokens = (Opening.ofText (textRead backend) tokens).tokens :=
    bootstrap_tokens backend tokens settings
  have hc : start.backend.calls = backend.calls ++ callsOfStart start.origin :=
    bootstrap_calls backend tokens settings
  refine ⟨⟨?_, bootstrap_nodup backend tokens settings⟩, ?_, ?_, ?_, ?_, ?_, hc, ?_⟩
  · rw [hl]
    exact Opening.layout_ne_none _ _
  · rw [ho, Opening.origin_eq_defaulted_iff]
    exact bind_significant?_eq_none_iff backend
  · intro l
    rw [ho, hl, Opening.restored_iff]
    simp only [takesUp_iff]
  · intro e
    rw [ho, Opening.origin_eq_recovered_iff]
    simp only [takesUp_iff]
  · intro hr
    have hb : start.backend = backendAfterStart start.origin backend := by
      rw [ho]
      exact bootstrap_backend backend tokens settings
    constructor
    · rw [ht]
      exact Opening.tokens_of_restored (ho.symm.trans hr)
    · rw [hb, hr]
      exact held_get snapshotKey backend
  · intro hr
    have hd := Opening.eq_byDefault (ho ▸ hr)
    rw [hl, ht, hd]
    exact ⟨rfl, Opening.leaves_byDefault _ tokens⟩
  · intro text l hg hd
    have hk := (textRead_eq_some_iff backend text).mpr hg
    rw [hc, ho, callsOfStart_of_ne (Opening.origin_ne_recovered hk hd tokens)]

end Store
end Dashboard
