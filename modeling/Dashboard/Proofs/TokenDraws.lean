import Dashboard.Proofs.EditedIdentities
import Dashboard.Proofs.Session

/-!
# How many tokens are drawn

A source is a state, so what has been drawn from it is told by how far the state has moved.
`TokenSource.draw` takes a number of tokens in sequence. Instantiating a template draws one token
for each pane, from the first pane to the last, and every command draws a number of tokens that
depends on the command and the current layout only.
-/
namespace Dashboard

/-! ## Tokens in sequence -/

namespace TokenSource

variable {σ : Type} [TokenSource σ]

/-- The next tokens of a source, and the source without them. -/
def draw : Nat → σ → List String × σ
  | 0, source => ([], source)
  | n + 1, source => ((next source).1 :: (draw n (next source).2).1, (draw n (next source).2).2)

@[simp] theorem length_draw (n : Nat) (source : σ) : (draw n source).1.length = n := by
  induction n generalizing source with
  | zero => rfl
  | succ n ih => simp [draw, ih]

theorem draw_add (m n : Nat) (source : σ) :
    draw (m + n) source =
      ((draw m source).1 ++ (draw n (draw m source).2).1, (draw n (draw m source).2).2) := by
  induction m generalizing source with
  | zero => simp [draw]
  | succ m ih =>
      rw [Nat.add_right_comm]
      simp only [draw, ih, List.cons_append]

/-- What a source promises of its next token, whatever its state, it keeps for all that follow. -/
theorem forall_mem_draw {P : String → Prop} (h : ∀ source : σ, P (next source).1) (n : Nat)
    (source : σ) : ∀ token ∈ (draw n source).1, P token := by
  induction n generalizing source with
  | zero => exact List.forall_mem_nil _
  | succ n ih => exact List.forall_mem_cons.mpr ⟨h source, ih _⟩

end TokenSource

/-! ## Templates -/

namespace Node

variable {σ : Type} [TokenSource σ]

/-- The panes of a template take the tokens in their order. -/
theorem instantiate_draw (n : Node) (source : σ) :
    (n.instantiate source).1.identities =
        List.zipWith PaneId.join (n.identities.map PaneId.text)
          (TokenSource.draw n.identities.length source).1 ∧
      (n.instantiate source).2 = (TokenSource.draw n.identities.length source).2 := by
  induction n generalizing source with
  | leaf id => exact ⟨rfl, rfl⟩
  | branch split first second ih₁ ih₂ =>
      obtain ⟨hi₁, ht₁⟩ := ih₁ source
      obtain ⟨hi₂, ht₂⟩ := ih₂ (first.instantiate source).2
      have hl : (first.identities.map PaneId.text).length =
          (TokenSource.draw first.identities.length source).1.length := by simp
      simp only [instantiate, identities, List.length_append, List.map_append,
        TokenSource.draw_add, List.zipWith_append hl]
      rw [← ht₁, hi₁, hi₂, ht₂]
      exact ⟨rfl, rfl⟩

end Node

namespace Layout

variable {σ : Type} [TokenSource σ]

theorem leaves_instantiate (template : Layout) (source : σ) :
    leaves (instantiate template source).1 =
      List.zipWith PaneId.join ((leaves template).map PaneId.text)
        (TokenSource.draw (paneCount template) source).1 := by
  cases template with
  | none => rfl
  | some n => simpa [instantiate, paneCount] using (n.instantiate_draw source).1

theorem tokens_instantiate (template : Layout) (source : σ) :
    (instantiate template source).2 = (TokenSource.draw (paneCount template) source).2 := by
  cases template with
  | none => rfl
  | some n => simpa [instantiate, paneCount] using (n.instantiate_draw source).2

end Layout

/-! ## Commands -/

/-- How many tokens a command draws from its source, with the given layout before it. -/
def Command.drawn (l : Layout) : Command → Nat
  | .addWidget _ | .resetToMinimal => 1
  | .addWidgetAt target _ _ => if target ∈ Layout.leaves l then 1 else 0
  | .loadPreset preset => Layout.paneCount preset.template
  | .loadDefaultLayout => Layout.paneCount Preset.default.template
  | .removeWidget _ | .replaceTree _ | .setActiveView _ => 0

theorem Layout.tokens_insertFirst {σ : Type} [TokenSource σ] (l : Layout) (widget : String)
    (source : σ) : (insertFirst l widget source).2 = (TokenSource.next source).2 := by
  cases l <;> rfl

theorem Layout.tokens_insertAt {σ : Type} [TokenSource σ] (l : Layout) (target : PaneId)
    (widget : String) (direction : Direction) (source : σ) :
    (insertAt l target widget direction source).2 =
      if target ∈ leaves l then (TokenSource.next source).2 else source := by
  split
  next h => exact (insertAt_of_mem h widget direction source).2
  next h => rw [insertAt_of_notMem h]

theorem Verdict.tokensAfter_ofEdit {σ : Type} (before : σ) (result : Layout × σ) :
    (Verdict.ofEdit result).tokensAfter before = result.2 := by
  unfold ofEdit
  split <;> rfl

/-- The source after a command, whatever the command comes to. -/
theorem Command.tokensAfter_verdict {σ : Type} [TokenSource σ] (c : Command) (l : Layout)
    (source : σ) (settings : LayoutSettings) :
    (c.verdict l source settings).tokensAfter source =
      (TokenSource.draw (c.drawn l) source).2 := by
  cases c with
  | addWidget widget => exact (Verdict.tokensAfter_ofEdit _ _).trans (l.tokens_insertFirst _ _)
  | addWidgetAt target widget direction =>
      refine (Verdict.tokensAfter_ofEdit _ _).trans ?_
      rw [Layout.tokens_insertAt, drawn]
      split <;> rfl
  | removeWidget id => exact Verdict.tokensAfter_ofEdit _ _
  | replaceTree layout => exact Verdict.tokensAfter_ofEdit _ _
  | loadPreset preset => exact Layout.tokens_instantiate preset.template source
  | loadDefaultLayout => exact Layout.tokens_instantiate Preset.default.template source
  | resetToMinimal => rfl
  | setActiveView view => rfl

end Dashboard
