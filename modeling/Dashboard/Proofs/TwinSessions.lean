import Dashboard.Proofs.TokenDraws

/-!
# Sessions with different backends

Two sessions that find the same text, draw from the same source and handle the same commands go
through the same layouts and give the same answers, whatever their backends make of writing and
removing. Nothing is asked of the backends beyond the text that is read at the start, so any of
their operations may fail in one session and succeed in the other. What the two sessions report may
differ.
-/
namespace Dashboard.Store

/-- Two stores that differ in nothing but their backends and what they have reported. -/
structure Agrees {σ β γ : Type} (s : Store σ β) (t : Store σ γ) : Prop where
  layout : s.layout = t.layout
  view : s.view = t.view
  tokens : s.tokens = t.tokens
  settings : s.settings = t.settings
  origin : s.origin = t.origin

variable {σ β γ : Type}

namespace Agrees

variable {s : Store σ β} {t : Store σ γ}

theorem panes (h : Agrees s t) : s.panes = t.panes := by
  unfold Store.panes
  rw [h.layout]

theorem stateData (h : Agrees s t) : s.stateData = t.stateData := by
  unfold Store.stateData
  rw [h.layout, h.view]

theorem verdict [TokenSource σ] (h : Agrees s t) (c : Command) : s.verdict c = t.verdict c := by
  unfold Store.verdict
  rw [h.layout, h.tokens, h.settings]

end Agrees

/-- How many tokens a start draws: none for a kept layout, one for each default pane otherwise. -/
def drawnByStart : Origin → Nat
  | .restored => 0
  | .defaulted | .recovered _ => Layout.paneCount Preset.default.template

theorem drawnByStart_of_ne {origin : Origin} (h : origin ≠ .restored) :
    drawnByStart origin = Layout.paneCount Preset.default.template := by
  cases origin with
  | restored => exact (h rfl).elim
  | defaulted => rfl
  | recovered error => rfl

variable [TokenSource σ]

theorem tokens_opening (text : Option String) (tokens : σ) :
    (Opening.ofText text tokens).tokens =
      (TokenSource.draw (drawnByStart (Opening.ofText text tokens).origin) tokens).2 := by
  rcases Opening.ofText_kept_or_default text tokens with ⟨kept, l, -, ho⟩ | ⟨origin, hr, ho⟩
  · rw [ho]
    rfl
  · rw [ho, Opening.byDefault, drawnByStart_of_ne hr]
    exact Layout.tokens_instantiate Preset.default.template tokens

variable [KeyValueStore β] [KeyValueStore γ]

theorem agrees_bootstrap {backend : β} {other : γ} (h : textRead backend = textRead other)
    (tokens : σ) (settings : LayoutSettings) :
    Agrees (bootstrap backend tokens settings) (bootstrap other tokens settings) := by
  obtain ⟨_, hs⟩ := bootstrap_eq backend tokens settings
  obtain ⟨_, ht⟩ := bootstrap_eq other tokens settings
  rw [hs, ht, h]
  constructor <;> rfl

namespace Agrees

variable {s : Store σ β} {t : Store σ γ}

/-- The verdict on a command does not depend on the backend, and only the verdict decides what
becomes of the store. -/
theorem handle (h : Agrees s t) (c : Command) : Agrees (s.handle c).2 (t.handle c).2 := by
  obtain ⟨_, hs⟩ := s.handle_eq c
  obtain ⟨_, ht⟩ := t.handle_eq c
  rw [hs, ht, h.verdict c]
  constructor
  · simp only [after, h.layout]
  · simp only [after, h.view]
  · simp only [after, h.tokens]
  · exact h.settings
  · exact h.origin

theorem answer (h : Agrees s t) (c : Command) : (s.handle c).1 = (t.handle c).1 := by
  rw [handle_answer, handle_answer, h.verdict c]

theorem run (h : Agrees s t) (cs : List Command) : Agrees (s.run cs) (t.run cs) := by
  induction cs generalizing s t with
  | nil => exact h
  | cons c cs ih => exact ih (h.handle c)

theorem answers (h : Agrees s t) (cs : List Command) :
    (s.steps cs).map Step.answer = (t.steps cs).map Step.answer := by
  induction cs generalizing s t with
  | nil => rfl
  | cons c cs ih =>
      have ha : Step.answer ⟨s, c⟩ = Step.answer ⟨t, c⟩ := h.answer c
      simp only [steps, List.map_cons, ha, ih (h.handle c)]

end Agrees

/-! ## Counting tokens -/

/-- How many tokens the commands of a session draw, each with the layout that it finds. -/
def drawnByRun (s : Store σ β) : List Command → Nat
  | [] => 0
  | c :: cs => c.drawn s.layout + drawnByRun (s.handle c).2 cs

/-- How many tokens a session draws, its start included. -/
def drawn (start : Store σ β) (cs : List Command) : Nat :=
  drawnByStart start.origin + start.drawnByRun cs

namespace Agrees

variable {s : Store σ β} {t : Store σ γ}

theorem drawnByRun (h : Agrees s t) (cs : List Command) : s.drawnByRun cs = t.drawnByRun cs := by
  induction cs generalizing s t with
  | nil => rfl
  | cons c cs ih => simp only [Store.drawnByRun, ih (h.handle c), h.layout]

theorem drawn (h : Agrees s t) (cs : List Command) : s.drawn cs = t.drawn cs := by
  unfold Store.drawn
  rw [h.drawnByRun, h.origin]

end Agrees

theorem handle_tokens (s : Store σ β) (c : Command) :
    (s.handle c).2.tokens = (TokenSource.draw (c.drawn s.layout) s.tokens).2 := by
  obtain ⟨_, h⟩ := s.handle_eq c
  rw [h]
  exact c.tokensAfter_verdict s.layout s.tokens s.settings

theorem run_tokens (s : Store σ β) (cs : List Command) :
    (s.run cs).tokens = (TokenSource.draw (s.drawnByRun cs) s.tokens).2 := by
  induction cs generalizing s with
  | nil => rfl
  | cons c cs ih => rw [run, ih, handle_tokens, drawnByRun, TokenSource.draw_add]

/-- A session leaves its source where it is after the tokens that have been counted. -/
theorem tokens_of_session (backend : β) (tokens : σ) (settings : LayoutSettings)
    (cs : List Command) :
    let start := bootstrap backend tokens settings
    (start.run cs).tokens = (TokenSource.draw (start.drawn cs) tokens).2 := by
  intro start
  have hs : start.tokens = (TokenSource.draw (drawnByStart start.origin) tokens).2 := by
    simp only [start, bootstrap_tokens, bootstrap_origin]
    exact tokens_opening _ _
  rw [run_tokens, hs, drawn, TokenSource.draw_add]

/-! ## Two sessions -/

/-- Two sessions on different backends that find the same text at the start, a failure to read
counting as no text. The sequence of commands is arbitrary, so the layouts agree after each of
them, and with the empty sequence right after the start. -/
theorem agreement_of_sessions (backend : β) (other : γ) (tokens : σ) (settings : LayoutSettings)
    (cs : List Command) (h : textRead backend = textRead other) :
    let start := bootstrap backend tokens settings
    let otherStart := bootstrap other tokens settings
    (start.run cs).layout = (otherStart.run cs).layout ∧
      (start.run cs).view = (otherStart.run cs).view ∧
      (start.run cs).panes = (otherStart.run cs).panes ∧
      (start.run cs).stateData = (otherStart.run cs).stateData ∧
      (start.steps cs).map Step.answer = (otherStart.steps cs).map Step.answer ∧
      (start.run cs).tokens = (TokenSource.draw (start.drawn cs) tokens).2 ∧
      (otherStart.run cs).tokens = (TokenSource.draw (otherStart.drawn cs) tokens).2 ∧
      start.drawn cs = otherStart.drawn cs := by
  intro start otherStart
  have hs : Agrees start otherStart := agrees_bootstrap h tokens settings
  have hr : Agrees (start.run cs) (otherStart.run cs) := hs.run cs
  refine ⟨hr.layout, hr.view, hr.panes, hr.stateData, hs.answers cs, ?_, ?_, hs.drawn cs⟩
  · exact tokens_of_session backend tokens settings cs
  · exact tokens_of_session other tokens settings cs

/-- A backend that can only be read, and one that never fails. What they hold at the start is
refused, so that they are asked to remove it. -/
theorem agreement_with_readOnly :
    let kept := MemoryStore.single snapshotKey "\x7b"
    let readOnly : Watched MemoryStore :=
      { backend := kept, fails := fun _ call => call ≠ .get snapshotKey }
    let cs : List Command := [.addWidget "metrics", .replaceTree none, .resetToMinimal]
    textRead readOnly = textRead kept ∧
      ((bootstrap readOnly ({} : ScriptedTokens) {}).run cs).layout =
        ((bootstrap kept ({} : ScriptedTokens) {}).run cs).layout := by
  intro kept readOnly cs
  have h : textRead readOnly = textRead kept := by decide
  obtain ⟨hl, -⟩ := agreement_of_sessions readOnly kept ({} : ScriptedTokens) {} cs h
  exact ⟨h, hl⟩

end Dashboard.Store
