import Dashboard.Proofs.Identities
import Dashboard.Proofs.Session

/-!
# No two panes share an identity

Whatever a backend has kept, however its operations fail, and whatever tokens are drawn, the layout
of a session never has two panes of one identity. Nothing is asked of the source of tokens here:
what an edit brings is checked, and what is installed unchecked is a preset, whose widget names
differ, or a single pane.
-/
namespace Dashboard

theorem Snapshot.nodup_of_decode {text : String} {l : Layout} (h : Snapshot.decode text = .ok l) :
    (Layout.leaves l).Nodup := by
  unfold decode at h
  split at h
  · cases h
  · split at h
    · split at h
      · cases h
      next read _ =>
        cases hc : Layout.checkUnique read with
        | error e => simp [hc, Except.map] at h
        | ok u =>
            simp only [hc, Except.map, Except.ok.injEq] at h
            exact h ▸ Layout.nodup_of_checkUnique hc
    · cases h

theorem Verdict.ofEdit_nodup {σ : Type} {result : Layout × σ} {l : Layout}
    (h : (Verdict.ofEdit result).layout? = some l) : (Layout.leaves l).Nodup := by
  unfold ofEdit at h
  split at h
  · cases h
  next hc =>
    cases h
    exact Layout.nodup_of_checkUnique hc

theorem Verdict.ofEdit_of_nodup {σ : Type} {result : Layout × σ}
    (h : (Layout.leaves result.1).Nodup) :
    Verdict.ofEdit result = .installed result.1 result.2 := by
  unfold ofEdit
  rw [Layout.checkUnique_of_nodup h]

section
variable {σ : Type} [TokenSource σ]

/-- Every layout that a command brings has been checked, or is a preset or a single pane. -/
theorem Command.verdict_nodup {l kept : Layout} {tokens : σ} {settings : LayoutSettings}
    {c : Command} (h : (c.verdict l tokens settings).layout? = some kept) :
    (Layout.leaves kept).Nodup := by
  cases c with
  | addWidget widget => exact Verdict.ofEdit_nodup h
  | addWidgetAt target widget direction => exact Verdict.ofEdit_nodup h
  | removeWidget id => exact Verdict.ofEdit_nodup h
  | replaceTree layout => exact Verdict.ofEdit_nodup h
  | loadPreset preset =>
      cases h
      exact preset.instantiate_nodup tokens
  | loadDefaultLayout =>
      cases h
      exact Preset.default.instantiate_nodup tokens
  | resetToMinimal =>
      cases h
      rw [Layout.leaves_some]
      exact List.nodup_singleton _
  | setActiveView view => cases h

theorem Opening.layout_nodup (text : Option String) (tokens : σ) :
    (Layout.leaves (Opening.ofText text tokens).layout).Nodup := by
  rcases ofText_kept_or_default text tokens with ⟨kept, l, hd, ho⟩ | ⟨origin, -, ho⟩
  · rw [ho]
    exact Snapshot.nodup_of_decode hd
  · rw [ho]
    exact Preset.default.instantiate_nodup tokens

end

namespace Store

section
variable {σ β : Type} [TokenSource σ]

theorem verdict_replaceTree (s : Store σ β) {l : Layout} (h : (Layout.leaves l).Nodup) :
    s.verdict (.replaceTree l) = .installed l s.tokens :=
  Verdict.ofEdit_of_nodup h

theorem verdict_addWidget (s : Store σ β) {n : Node} (hn : s.layout = some n) (widget : String)
    (h : (PaneId.fresh widget s.tokens).1 ∉ n.identities) (hu : n.identities.Nodup) :
    s.verdict (.addWidget widget) =
      .installed (some (n.splitFirst (PaneId.fresh widget s.tokens).1))
        (PaneId.fresh widget s.tokens).2 := by
  have hi : Layout.insertFirst s.layout widget s.tokens =
      (some (n.splitFirst (PaneId.fresh widget s.tokens).1),
        (PaneId.fresh widget s.tokens).2) := by
    rw [hn]
    rfl
  have hl : (Layout.leaves (some (n.splitFirst (PaneId.fresh widget s.tokens).1))).Nodup := by
    rw [Layout.leaves_some, (n.identities_splitFirst _).nodup_iff]
    exact List.nodup_cons.mpr ⟨h, hu⟩
  change Verdict.ofEdit (Layout.insertFirst s.layout widget s.tokens) = _
  rw [hi]
  exact Verdict.ofEdit_of_nodup hl

end

variable {σ β : Type} [TokenSource σ] [KeyValueStore β]

theorem handle_replaceTree_layout (s : Store σ β) {l : Layout} (h : (Layout.leaves l).Nodup) :
    (s.handle (.replaceTree l)).2.layout = l := by
  rw [handle_layout, s.verdict_replaceTree h]
  rfl

theorem accepted?_replaceTree (s : Store σ β) {l : Layout} (h : (Layout.leaves l).Nodup) :
    Step.accepted? ⟨s, .replaceTree l⟩ = some l := by
  rw [Step.accepted?_eq, s.verdict_replaceTree h]
  rfl

theorem handle_nodup {s : Store σ β} (h : (Layout.leaves s.layout).Nodup) (c : Command) :
    (Layout.leaves (s.handle c).2.layout).Nodup := by
  rw [handle_layout]
  cases hv : (s.verdict c).layout? with
  | none => exact h
  | some kept => exact Command.verdict_nodup hv

theorem bootstrap_nodup (backend : β) (tokens : σ) (settings : LayoutSettings) :
    (Layout.leaves (bootstrap backend tokens settings).layout).Nodup := by
  rw [bootstrap_layout]
  exact Opening.layout_nodup _ _

theorem run_nodup {s : Store σ β} (h : (Layout.leaves s.layout).Nodup) (cs : List Command) :
    (Layout.leaves (s.run cs).layout).Nodup :=
  run_induction (P := fun s => (Layout.leaves s.layout).Nodup) h
    (fun _ c h => handle_nodup h c) cs

/-- At every point of every session the panes have identities of their own. As the sequence of
commands is arbitrary, this is said after each of them, be it accepted or refused, and with the
empty sequence right after the start. -/
theorem nodup_leaves_of_session (backend : β) (tokens : σ) (settings : LayoutSettings)
    (cs : List Command) :
    (Layout.leaves ((bootstrap backend tokens settings).run cs).layout).Nodup :=
  run_nodup (bootstrap_nodup backend tokens settings) cs

end Store
end Dashboard
