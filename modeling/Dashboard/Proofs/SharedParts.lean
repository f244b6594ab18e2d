import Dashboard.Proofs.Identities

/-!
# Parts that an edit leaves as they are

Splitting and removing panes are told apart by what becomes of each part: nothing, so that the part
can be shared with the layout before the edit, or something that has to be built anew. Nothing
becomes of a part exactly if the identity in question does not occur in it.

What an edit comes to does not depend on this. Here it is said by two functions that build every
branch anew, and they give the same layouts.
-/
namespace Dashboard

namespace Node

/-! ## Splitting -/

/-- Divides every pane with the given identity into itself and a new pane. -/
def splitAt (target : PaneId) (direction : Direction) (new : PaneId) : Node → Node
  | .leaf id => if id = target then .branch { direction } (.leaf id) (.leaf new) else .leaf id
  | .branch split first second =>
      .branch split (first.splitAt target direction new) (second.splitAt target direction new)

section
variable (target : PaneId) (direction : Direction) (new : PaneId)

theorem splitMatching?_branch_eq_none_iff (split : Split) (first second : Node) :
    (branch split first second).splitMatching? target direction new = none ↔
      first.splitMatching? target direction new = none ∧
        second.splitMatching? target direction new = none := by
  rw [splitMatching?]
  cases first.splitMatching? target direction new <;>
    cases second.splitMatching? target direction new <;> simp

/-- A part is shared if it does not hold the pane that is split. -/
theorem splitMatching?_eq_none_iff (n : Node) :
    n.splitMatching? target direction new = none ↔ target ∉ n.identities := by
  induction n with
  | leaf id => simp [splitMatching?, identities, eq_comm]
  | branch split first second ih₁ ih₂ =>
      rw [splitMatching?_branch_eq_none_iff, ih₁, ih₂, identities, List.mem_append, not_or]

theorem getD_splitMatching? (n : Node) :
    (n.splitMatching? target direction new).getD n = n.splitAt target direction new := by
  induction n with
  | leaf id =>
      rw [splitMatching?, splitAt]
      split <;> rfl
  | branch split first second ih₁ ih₂ =>
      rw [splitMatching?, splitAt, ← ih₁, ← ih₂]
      cases first.splitMatching? target direction new <;>
        cases second.splitMatching? target direction new <;> rfl

end

/-! ## Removing -/

/-- Removes every pane with the given identity. A branch that loses one part becomes the other
part; a node that loses all panes is gone. -/
def without (id : PaneId) : Node → Option Node
  | .leaf other => if other = id then none else some (.leaf other)
  | .branch split first second =>
      match first.without id, second.without id with
      | some first, some second => some (.branch split first second)
      | some only, none | none, some only => some only
      | none, none => none

theorem prune_branch_eq_kept_iff (split : Split) (first second : Node) (id : PaneId) :
    (branch split first second).prune id = .kept ↔
      first.prune id = .kept ∧ second.prune id = .kept := by
  rw [prune]
  cases first.prune id <;> cases second.prune id <;> simp [Pruned.survivor]

/-- A part is shared if it does not hold a pane that is removed. -/
theorem prune_eq_kept_iff (n : Node) (id : PaneId) :
    n.prune id = .kept ↔ id ∉ n.identities := by
  induction n with
  | leaf other => simp [prune, identities, eq_comm]
  | branch split first second ih₁ ih₂ =>
      rw [prune_branch_eq_kept_iff, ih₁, ih₂, identities, List.mem_append, not_or]

theorem survivor_prune (n : Node) (id : PaneId) : (n.prune id).survivor n = n.without id := by
  induction n with
  | leaf other =>
      rw [prune, without]
      split <;> rfl
  | branch split first second ih₁ ih₂ =>
      rw [prune, without, ← ih₁, ← ih₂]
      cases first.prune id <;> cases second.prune id <;> rfl

end Node

namespace Layout

@[simp] theorem remove_none (id : PaneId) : remove none id = none := rfl

theorem remove_some (n : Node) (id : PaneId) : remove (some n) id = n.without id :=
  n.survivor_prune id

theorem insertAt_some {σ : Type} [TokenSource σ] (n : Node) (target : PaneId) (widget : String)
    (direction : Direction) (tokens : σ) :
    insertAt (some n) target widget direction tokens =
      if n.contains target then
        (some (n.splitAt target direction (PaneId.fresh widget tokens).1),
          (PaneId.fresh widget tokens).2)
      else (some n, tokens) := by
  rw [insertAt, ← Node.getD_splitMatching?]

end Layout
end Dashboard
