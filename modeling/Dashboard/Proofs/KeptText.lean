import Dashboard.Proofs.AtomicBackend
import Dashboard.Proofs.Session
import Mathlib.Tactic.SplitIfs

/-!
# What is kept

At every point of a session the text under the key of the layout is that of the last accepted
change whose writing succeeded. Before there is one, it is what the start has left: the text found
there, or nothing if that text was refused and could be removed.

The second part is about the operations themselves. An accepted change writes exactly once, even if
it changes nothing; a start only reads, and removes what it refuses; everything else does not touch
the backend. All of it happens under one key.
-/
namespace Dashboard.Store
open AtomicBackend

section
variable {σ β : Type} [TokenSource σ] [KeyValueStore β]

/-- The layout of an accepted change, if its writing succeeded. -/
def Step.written? (e : Step σ β) : Option Layout :=
  match e.accepted? with
  | none => none
  | some l =>
      match (KeyValueStore.set snapshotKey (Layout.encode l) e.before.backend).1 with
      | .ok () => some l
      | .error _ => none

/-- The text of the last layout of a list, and without any the given text. -/
def lastText (text : Option String) (ls : List Layout) : Option String :=
  match ls.getLast? with
  | none => text
  | some l => some (Layout.encode l)

theorem lastText_cons (text : Option String) (l : Layout) (ls : List Layout) :
    lastText text (l :: ls) = lastText (some (Layout.encode l)) ls := by
  unfold lastText
  rw [List.getLast?_cons]
  cases ls.getLast? <;> rfl

/-- What a start leaves under the key. -/
def leftByStart [AtomicBackend β] (origin : Origin) (backend : β) : Option String :=
  match origin with
  | .restored | .defaulted => held backend snapshotKey
  | .recovered _ =>
      match (KeyValueStore.remove snapshotKey (KeyValueStore.get snapshotKey backend).2).1 with
      | .ok () => none
      | .error _ => held backend snapshotKey

/-- The operations of a start. -/
def callsOfStart : Origin → List Call
  | .restored | .defaulted => [.get snapshotKey]
  | .recovered _ => [.get snapshotKey, .remove snapshotKey]

/-- The operations of a command. -/
def Step.calls (e : Step σ β) : List Call :=
  match e.accepted? with
  | none => []
  | some l => [.set snapshotKey (Layout.encode l)]

theorem Step.layout_after (e : Step σ β) :
    e.after.layout = e.accepted?.getD e.before.layout := by
  rw [e.accepted?_eq]
  exact e.before.handle_layout e.command

theorem Step.backend_after (e : Step σ β) :
    e.after.backend =
      match e.accepted? with
      | some l => (KeyValueStore.set snapshotKey (Layout.encode l) e.before.backend).2
      | none => e.before.backend := by
  rw [e.accepted?_eq]
  exact e.before.handle_backend e.command

variable [AtomicBackend β]

theorem held_eq_ite (backend : β) (key : String) :
    held backend key =
      if key = snapshotKey then held backend snapshotKey else held backend key := by
  split_ifs with hk
  · rw [hk]
  · rfl

theorem held_after_start (origin : Origin) (backend : β) (key : String) :
    held (backendAfterStart origin backend) key =
      if key = snapshotKey then leftByStart origin backend else held backend key := by
  have hg := held_get snapshotKey backend
  cases origin with
  | restored => exact (congrFun hg key).trans (held_eq_ite backend key)
  | defaulted => exact (congrFun hg key).trans (held_eq_ite backend key)
  | recovered e =>
      simp only [backendAfterStart, leftByStart, held_remove, hg]
      cases (KeyValueStore.remove snapshotKey (KeyValueStore.get snapshotKey backend).2).1 with
      | ok u => rfl
      | error e => exact held_eq_ite backend key

/-- One command keeps the text, or replaces it by that of the change it has written. -/
theorem Step.held_after (e : Step σ β) (key : String) :
    held e.after.backend key =
      if key = snapshotKey then lastText (held e.before.backend snapshotKey) e.written?.toList
      else held e.before.backend key := by
  rw [e.backend_after]
  unfold written?
  cases e.accepted? with
  | none => exact held_eq_ite e.before.backend key
  | some l =>
      simp only [held_set]
      cases (KeyValueStore.set snapshotKey (Layout.encode l) e.before.backend).1 with
      | ok u => rfl
      | error error => exact held_eq_ite e.before.backend key

theorem held_run (s : Store σ β) (cs : List Command) :
    held (s.run cs).backend snapshotKey =
      lastText (held s.backend snapshotKey) ((s.steps cs).filterMap Step.written?) := by
  induction cs generalizing s with
  | nil => rfl
  | cons c cs ih =>
      have hs := Step.held_after ⟨s, c⟩ snapshotKey
      rw [if_pos rfl] at hs
      -- the rest of the run starts from what the first command has left
      change held (run (s.handle c).2 cs).backend snapshotKey = _
      rw [ih, steps, List.filterMap_cons]
      change lastText (held (Step.after ⟨s, c⟩).backend snapshotKey) _ = _
      rw [hs]
      cases Step.written? ⟨s, c⟩ with
      | none => rfl
      | some l => rw [lastText_cons]; rfl

theorem held_run_of_ne (s : Store σ β) (cs : List Command) {key : String}
    (hk : key ≠ snapshotKey) : held (s.run cs).backend key = held s.backend key := by
  refine run_induction (P := fun t => held t.backend key = held s.backend key) rfl ?_ cs
  intro t c h
  have hs := Step.held_after ⟨t, c⟩ key
  rw [if_neg hk] at hs
  exact hs.trans h

end

variable {σ β : Type} [TokenSource σ] [KeyValueStore β] [AtomicBackend β]

/-- What a session keeps and how it uses its backend, when any of the operations may fail. -/
theorem kept_text_of_session (backend : Watched β) (tokens : σ) (settings : LayoutSettings)
    (cs : List Command) :
    let start := bootstrap backend tokens settings
    held (start.run cs).backend snapshotKey =
        lastText (leftByStart start.origin backend) ((start.steps cs).filterMap Step.written?) ∧
      (∀ key, key ≠ snapshotKey → held (start.run cs).backend key = held backend key) ∧
      start.backend.calls = backend.calls ++ callsOfStart start.origin ∧
      ∀ e ∈ start.steps cs, e.after.backend.calls = e.before.backend.calls ++ e.calls := by
  intro start
  have hb : start.backend = backendAfterStart start.origin backend := by
    simp only [start, bootstrap_backend, bootstrap_origin]
  refine ⟨?_, ?_, ?_, ?_⟩
  · rw [held_run, hb, held_after_start, if_pos rfl]
  · intro key hk
    rw [held_run_of_ne start cs hk, hb, held_after_start, if_neg hk]
  · rw [hb]
    cases start.origin <;> simp [backendAfterStart, callsOfStart]
  · intro e _
    rw [e.backend_after]
    unfold Step.calls
    cases e.accepted? <;> simp

end Dashboard.Store
