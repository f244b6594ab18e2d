import Dashboard.Proofs.DividedPanes
import Dashboard.Proofs.RemovedPanes
import Dashboard.Proofs.TokenDraws

/-!
# The first pane

A pane can be added without a place being named for it. It is then put beside the first pane, which
is found by going to the first part of a branch as long as there is one. The pane at the end of this
way is the one that a walk visits first. So adding a pane is the same as splitting the first one
into a row, provided that its identity does not occur again: a pane that is named is split at every
place where it is, but only one pane is first.
-/
namespace Dashboard

namespace Node

theorem head?_leaves (n : Node) : n.leaves.head? = some n.firstPane := by
  rw [leaves_eq_identities, identities_eq_cons]
  rfl

/-- To split the first pane by its name comes to the same if the name does not occur again. The
second parts on the way do not hold it then. -/
theorem splitAt_firstPane {n : Node} (h : n.firstPane ∉ n.identities.tail) (new : PaneId) :
    n.splitAt n.firstPane .row new = n.splitFirst new := by
  induction n with
  | leaf id => exact if_pos rfl
  | branch split first second ih _ =>
      rw [identities, List.tail_append_of_ne_nil first.identities_ne_nil, firstPane,
        List.mem_append, not_or] at h
      rw [firstPane, splitAt, ih h.1, splitAt_of_notMem h.2, splitFirst_branch]

end Node

namespace Layout

variable {σ : Type} [TokenSource σ]

theorem insertAt_firstPane {n : Node} (h : n.firstPane ∉ n.identities.tail) (widget : String)
    (tokens : σ) :
    insertAt (some n) n.firstPane widget .row tokens = insertFirst (some n) widget tokens := by
  have hm : n.firstPane ∈ n.identities := by
    rw [n.identities_eq_cons]
    exact List.mem_cons_self
  rw [insertAt_some_of_mem hm, Node.splitAt_firstPane h]
  rfl

/-- Adding a pane draws one token and puts the new pane right after the first one, or makes it the
only one. In a layout whose identities do not repeat this is the same as splitting the first pane
into a row. -/
theorem adding_splits_first (l : Layout) (widget : String) (tokens : σ) :
    let new := PaneId.join widget (TokenSource.next tokens).1
    (insertFirst l widget tokens).2 = (TokenSource.next tokens).2 ∧
    leaves (insertFirst l widget tokens).1 = (leaves l).take 1 ++ new :: (leaves l).drop 1 ∧
    (l ≠ none → (leaves l).Nodup →
      ∃ first, (leaves l).head? = some first ∧
        insertAt l first widget .row tokens = insertFirst l widget tokens) := by
  refine ⟨l.tokens_insertFirst widget tokens, leaves_insertFirst_eq l widget tokens, ?_⟩
  intro hl hu
  obtain ⟨n, rfl⟩ := Option.ne_none_iff_exists'.mp hl
  refine ⟨n.firstPane, n.head?_leaves, insertAt_firstPane ?_ widget tokens⟩
  rw [leaves_some, n.identities_eq_cons] at hu
  exact (List.nodup_cons.mp hu).1

/-- The first of three panes is two parts deep. -/
theorem adding_splits_first_threePanes :
    leaves (insertFirst threePanes "log" ({} : ScriptedTokens)).1 =
        [⟨"map#1"⟩, ⟨"log#000001"⟩, ⟨"log#2"⟩, ⟨"map#3"⟩] ∧
      insertAt threePanes ⟨"map#1"⟩ "log" .row ({} : ScriptedTokens) =
        insertFirst threePanes "log" ({} : ScriptedTokens) := by
  have hl : leaves threePanes = [⟨"map#1"⟩, ⟨"log#2"⟩, ⟨"map#3"⟩] := leaves_some _
  have hj : PaneId.join "log" (TokenSource.next ({} : ScriptedTokens)).1 = ⟨"log#000001"⟩ := by
    decide +kernel
  obtain ⟨-, ha, hs⟩ := adding_splits_first threePanes "log" ({} : ScriptedTokens)
  rw [hl, hj] at ha
  rw [hl] at hs
  obtain ⟨first, hf, hs⟩ := hs (Option.some_ne_none _) (by decide)
  cases hf
  exact ⟨ha, hs⟩

end Layout
end Dashboard
