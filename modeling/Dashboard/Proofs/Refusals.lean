import Dashboard.Proofs.EditedIdentities
import Dashboard.Proofs.UniquePanes

/-!
# What is refused

Which commands a session refuses, and that a refused command leaves everything as it was. Only what
an edit brings in can collide with the panes that are there, since these have identities of their
own at every point of a session. So adding a pane is refused exactly when its fresh identity is
already taken, and a given layout exactly when identities repeat in it. The token of a refused pane
is spent.
-/
namespace Dashboard

/-! ## Refused edits -/

namespace Verdict

variable {σ : Type}

theorem ofEdit_eq_refused_iff (result : Layout × σ) (e : LayoutError) (rest : σ) :
    ofEdit result = .refused e rest ↔
      ¬ (Layout.leaves result.1).Nodup ∧ e = .duplicateIdentities (Layout.duplicates result.1) ∧
        rest = result.2 := by
  by_cases h : (Layout.leaves result.1).Nodup
  · rw [ofEdit_of_nodup h]
    simp [h]
  · unfold ofEdit
    simp only [Layout.checkUnique_of_not_nodup h, refused.injEq, h, not_false_eq_true, true_and]
    exact and_congr eq_comm eq_comm

theorem ofEdit_ne_refused {l : Layout} (h : (Layout.leaves l).Nodup) (source : σ)
    (e : LayoutError) (rest : σ) : ofEdit (l, source) ≠ .refused e rest := by
  intro hv
  exact ((ofEdit_eq_refused_iff (l, source) e rest).mp hv).1 h

/-- An edit that brings in one identity is refused if that identity is taken. -/
theorem ofEdit_eq_refused_iff_of_perm {result : Layout × σ} {new : PaneId} {ids : List PaneId}
    (h : (Layout.leaves result.1).Perm (new :: ids)) (hu : ids.Nodup) (e : LayoutError)
    (rest : σ) :
    ofEdit result = .refused e rest ↔
      new ∈ ids ∧ e = .duplicateIdentities [new] ∧ rest = result.2 := by
  rw [ofEdit_eq_refused_iff, h.nodup_iff, List.nodup_cons]
  by_cases hm : new ∈ ids
  · simp [hm, Layout.duplicates_of_perm h hu hm]
  · simp [hm, hu]

@[simp] theorem answer_eq_error_iff (v : Verdict σ) (e : LayoutError) :
    v.answer = .error e ↔ ∃ rest, v = .refused e rest := by
  cases v <;> simp [answer]

end Verdict

namespace Store

section
variable {σ β : Type} [TokenSource σ]

/-- The commands that a store refuses, with the identities that repeat and the source that is
left. -/
inductive Refusal (s : Store σ β) : Command → List PaneId → σ → Prop where
  /-- The fresh identity is taken. -/
  | addWidget {widget : String} {new : PaneId} {rest : σ}
      (fresh : PaneId.fresh widget s.tokens = (new, rest)) (taken : new ∈ Layout.leaves s.layout) :
      Refusal s (.addWidget widget) [new] rest
  /-- The pane to be divided is there, and the fresh identity is taken, perhaps by that pane. -/
  | addWidgetAt {target : PaneId} {widget : String} {direction : Direction} {new : PaneId}
      {rest : σ} (found : target ∈ Layout.leaves s.layout)
      (fresh : PaneId.fresh widget s.tokens = (new, rest)) (taken : new ∈ Layout.leaves s.layout) :
      Refusal s (.addWidgetAt target widget direction) [new] rest
  /-- Identities repeat in the given layout. -/
  | replaceTree {l : Layout} (repeated : ¬ (Layout.leaves l).Nodup) :
      Refusal s (.replaceTree l) (Layout.duplicates l) s.tokens

theorem verdict_addWidget_eq_refused_iff {s : Store σ β} (hu : (Layout.leaves s.layout).Nodup)
    (widget : String) (e : LayoutError) (rest : σ) :
    s.verdict (.addWidget widget) = .refused e rest ↔
      ∃ ids, s.Refusal (.addWidget widget) ids rest ∧ e = .duplicateIdentities ids := by
  have hp := Layout.leaves_insertFirst s.layout widget s.tokens
  have ht : (Layout.insertFirst s.layout widget s.tokens).2 =
      (PaneId.fresh widget s.tokens).2 := by cases s.layout <;> rfl
  refine (Verdict.ofEdit_eq_refused_iff_of_perm hp hu e rest).trans ?_
  constructor
  · rintro ⟨hm, rfl, rfl⟩
    exact ⟨_, .addWidget (Prod.ext rfl ht.symm) hm, rfl⟩
  · rintro ⟨ids, hr, rfl⟩
    cases hr with
    | addWidget fresh taken =>
        rw [ht, fresh]
        exact ⟨taken, rfl, rfl⟩

theorem verdict_addWidgetAt_eq_refused_iff {s : Store σ β} (hu : (Layout.leaves s.layout).Nodup)
    (target : PaneId) (widget : String) (direction : Direction) (e : LayoutError) (rest : σ) :
    s.verdict (.addWidgetAt target widget direction) = .refused e rest ↔
      ∃ ids, s.Refusal (.addWidgetAt target widget direction) ids rest ∧
        e = .duplicateIdentities ids := by
  by_cases hm : target ∈ Layout.leaves s.layout
  · obtain ⟨hl, ht⟩ := Layout.insertAt_of_mem hm widget direction s.tokens
    -- the target is one pane only, so one identity is brought in
    have hp := insertAfter_perm (PaneId.fresh widget s.tokens).1 hu hm
    rw [← hl] at hp
    refine (Verdict.ofEdit_eq_refused_iff_of_perm hp hu e rest).trans ?_
    constructor
    · rintro ⟨hn, rfl, rfl⟩
      exact ⟨_, .addWidgetAt hm (Prod.ext rfl ht.symm) hn, rfl⟩
    · rintro ⟨ids, hr, rfl⟩
      cases hr with
      | addWidgetAt found fresh taken =>
          rw [ht, fresh]
          exact ⟨taken, rfl, rfl⟩
  · have hi := Layout.insertAt_of_notMem hm widget direction s.tokens
    have hv : s.verdict (.addWidgetAt target widget direction) =
        Verdict.ofEdit (s.layout, s.tokens) := congrArg Verdict.ofEdit hi
    rw [hv]
    constructor
    · exact fun h => (Verdict.ofEdit_ne_refused hu s.tokens e rest h).elim
    · rintro ⟨ids, hr, -⟩
      cases hr with
      | addWidgetAt found fresh taken => exact (hm found).elim

/-- A store whose panes have identities of their own refuses nothing but what is listed. -/
theorem verdict_eq_refused_iff {s : Store σ β} (hu : (Layout.leaves s.layout).Nodup) (c : Command)
    (e : LayoutError) (rest : σ) :
    s.verdict c = .refused e rest ↔
      ∃ ids, s.Refusal c ids rest ∧ e = .duplicateIdentities ids := by
  cases c with
  | addWidget widget => exact verdict_addWidget_eq_refused_iff hu widget e rest
  | addWidgetAt target widget direction =>
      exact verdict_addWidgetAt_eq_refused_iff hu target widget direction e rest
  | removeWidget id =>
      have hr : (Layout.leaves (Layout.remove s.layout id)).Nodup := by
        rw [Layout.leaves_remove]
        exact hu.filter _
      constructor
      · exact fun h => (Verdict.ofEdit_ne_refused hr s.tokens e rest h).elim
      · rintro ⟨ids, ⟨⟩, -⟩
  | replaceTree l =>
      refine (Verdict.ofEdit_eq_refused_iff (l, s.tokens) e rest).trans ?_
      constructor
      · rintro ⟨hn, rfl, rfl⟩
        exact ⟨_, .replaceTree hn, rfl⟩
      · rintro ⟨ids, hr, rfl⟩
        cases hr with
        | replaceTree repeated => exact ⟨repeated, rfl, rfl⟩
  | loadPreset preset => exact ⟨nofun, nofun⟩
  | loadDefaultLayout => exact ⟨nofun, nofun⟩
  | resetToMinimal => exact ⟨nofun, nofun⟩
  | setActiveView view => exact ⟨nofun, nofun⟩

end

variable {σ β : Type} [TokenSource σ] [KeyValueStore β]

/-- A refused command takes its token from the source and reports the refusal. -/
theorem handle_of_refused {s : Store σ β} {c : Command} {e : LayoutError} {rest : σ}
    (h : s.verdict c = .refused e rest) :
    ∃ log, (s.handle c).2 = { s with tokens := rest, log } := by
  obtain ⟨log, hs⟩ := s.handle_eq c
  rw [hs, h]
  exact ⟨log, rfl⟩

/-- At every point of every session a command is refused exactly in the listed cases, with the
identities that are listed, and a refused command changes nothing but the source of tokens and what
has been reported. In particular the backend is not asked for anything. -/
theorem refusals_of_session (backend : β) (tokens : σ) (settings : LayoutSettings)
    (cs : List Command) (c : Command) :
    let s := (bootstrap backend tokens settings).run cs
    (∀ e, (s.handle c).1 = .error e ↔
      ∃ ids rest, s.Refusal c ids rest ∧ e = .duplicateIdentities ids) ∧
    ∀ ids rest, s.Refusal c ids rest → ∃ log, (s.handle c).2 = { s with tokens := rest, log } := by
  intro s
  have hu : (Layout.leaves s.layout).Nodup := run_nodup (bootstrap_nodup backend tokens settings) cs
  constructor
  · intro e
    rw [handle_answer, Verdict.answer_eq_error_iff]
    constructor
    · rintro ⟨rest, hv⟩
      obtain ⟨ids, hr, he⟩ := (verdict_eq_refused_iff hu c e rest).mp hv
      exact ⟨ids, rest, hr, he⟩
    · rintro ⟨ids, rest, hr, he⟩
      exact ⟨rest, (verdict_eq_refused_iff hu c e rest).mpr ⟨ids, hr, he⟩⟩
  · intro ids rest hr
    exact handle_of_refused ((verdict_eq_refused_iff hu c _ rest).mpr ⟨ids, hr, rfl⟩)

end Store
end Dashboard
