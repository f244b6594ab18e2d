import Dashboard.Proofs.Divisions
import Dashboard.Proofs.EditedIdentities

/-!
# Removing panes

A removal takes every pane of the given identity and collapses each branch of which one part is
left. The other panes stay in their order, and any two of them are divided as before: the branches
that collapse are those that no longer divide anything. Without such a pane nothing changes at all,
and the layout becomes empty only if there is no other pane.
-/
namespace Dashboard

namespace Node

theorem identities_ne_nil (n : Node) : n.identities ≠ [] := by
  rw [n.identities_eq_cons]
  exact List.cons_ne_nil _ _

/-- What is left of a branch, by what is left of its parts. -/
theorem without_branch_cases (split : Split) (first second : Node) (id : PaneId) :
    (first.without id = none ∧ (branch split first second).without id = second.without id) ∨
    (second.without id = none ∧ (branch split first second).without id = first.without id) ∨
    ∃ first' second', first.without id = some first' ∧ second.without id = some second' ∧
      (branch split first second).without id = some (branch split first' second') := by
  rw [without_branch]
  cases first.without id with
  | none => exact .inl ⟨rfl, Layout.ofParts_none_left split _⟩
  | some first' =>
      right
      cases second.without id with
      | none => exact .inl ⟨rfl, rfl⟩
      | some second' => exact .inr ⟨first', second', rfl, rfl, rfl⟩

theorem without_of_notMem {n : Node} {id : PaneId} (h : id ∉ n.identities) :
    n.without id = some n := by
  induction n with
  | leaf other =>
      rw [identities, List.mem_singleton] at h
      exact if_neg (Ne.symm h)
  | branch split first second ih₁ ih₂ =>
      rw [identities, List.mem_append, not_or] at h
      rw [without_branch, ih₁ h.1, ih₂ h.2]
      rfl

theorem mem_leaves_without (n : Node) {id other : PaneId} (h : other ≠ id) :
    other ∈ Layout.leaves (n.without id) ↔ other ∈ n.identities := by
  simp [leaves_without, h]

end Node

namespace Layout

theorem leaves_eq_nil_iff (l : Layout) : leaves l = [] ↔ l = none := by
  cases l with
  | none => simp
  | some n => simp [n.identities_ne_nil]

theorem remove_of_notMem {l : Layout} {id : PaneId} (h : id ∉ leaves l) : remove l id = l := by
  cases l with
  | none => rfl
  | some n =>
      rw [leaves_some] at h
      rw [remove_some, Node.without_of_notMem h]

theorem remove_eq_self_iff (l : Layout) (id : PaneId) : remove l id = l ↔ id ∉ leaves l := by
  constructor
  · intro h hm
    rw [← h, leaves_remove, List.mem_filter] at hm
    exact of_decide_eq_true hm.2 rfl
  · exact remove_of_notMem

/-- A layout becomes empty if no other pane is there. -/
theorem remove_eq_none_iff (l : Layout) (id : PaneId) :
    remove l id = none ↔ ∀ other ∈ leaves l, other = id := by
  rw [← leaves_eq_nil_iff, leaves_remove, List.filter_eq_nil_iff]
  simp

end Layout

/-! ## Divisions -/

namespace Node

theorem division?_without (n : Node) {id a b : PaneId} (ha : a ≠ id) (hb : b ≠ id) :
    Layout.division? (n.without id) a b = n.division? a b := by
  induction n with
  | leaf other =>
      by_cases h : other = id <;> simp [without, h, Layout.division?, division?]
  | branch split first second ih₁ ih₂ =>
      have ha₁ := first.mem_leaves_without ha
      have hb₁ := first.mem_leaves_without hb
      have ha₂ := second.mem_leaves_without ha
      have hb₂ := second.mem_leaves_without hb
      rcases without_branch_cases split first second id with ⟨hf, hw⟩ | ⟨hs, hw⟩ |
        ⟨first', second', hf, hs, hw⟩
      · rw [hf, Layout.leaves_none] at ha₁ hb₁
        rw [hw, ih₂, division?_of_notMem_first (ha₁.not.mp List.not_mem_nil)
          (hb₁.not.mp List.not_mem_nil)]
      · rw [hs, Layout.leaves_none] at ha₂ hb₂
        rw [hw, ih₁, division?_of_notMem_second (ha₂.not.mp List.not_mem_nil)
          (hb₂.not.mp List.not_mem_nil)]
      · rw [hf] at ih₁ ha₁ hb₁
        rw [hs] at ih₂ ha₂ hb₂
        rw [hw]
        rw [Layout.leaves_some] at ha₁ hb₁ ha₂ hb₂
        exact division?_branch_congr ha₁ hb₁ ha₂ hb₂ ih₁ ih₂

end Node

namespace Layout

theorem division?_remove (l : Layout) {id a b : PaneId} (ha : a ≠ id) (hb : b ≠ id) :
    division? (remove l id) a b = division? l a b := by
  cases l with
  | none => rfl
  | some n =>
      rw [remove_some]
      exact n.division?_without ha hb

/-- What a removal does to the identities in sequence, when it changes nothing and when it leaves
nothing, and that it leaves any two other panes divided as they were. -/
theorem removal_keeps_divisions (l : Layout) (id : PaneId) :
    leaves (remove l id) = (leaves l).filter (· ≠ id) ∧
    (id ∉ leaves l → remove l id = l) ∧
    (remove l id = none ↔ l = none ∨ ∀ other ∈ leaves l, other = id) ∧
    ∀ a ∈ leaves (remove l id), ∀ b ∈ leaves (remove l id), a ≠ b →
      ∃ d, division? l a b = some d ∧ division? (remove l id) a b = some d := by
  refine ⟨leaves_remove l id, remove_of_notMem, ?_, ?_⟩
  · rw [remove_eq_none_iff]
    constructor
    · exact .inr
    · rintro (rfl | h)
      · exact fun _ hm => (List.not_mem_nil hm).elim
      · exact h
  · intro a ha b hb hab
    simp only [leaves_remove, List.mem_filter, decide_eq_true_eq] at ha hb
    obtain ⟨d, hd⟩ := exists_division? hab ha.1 hb.1
    exact ⟨d, hd, (division?_remove l ha.2 hb.2).trans hd⟩

/-- Three panes, of which the first two share a part. -/
def threePanes : Layout :=
  some (.branch ⟨.column, some 60.0⟩
    (.branch ⟨.row, none⟩ (.leaf ⟨"map#1"⟩) (.leaf ⟨"log#2"⟩)) (.leaf ⟨"map#3"⟩))

/-- The part that two panes have shared is gone once one of them is, and the other is divided from
the third pane as before. -/
theorem removal_keeps_divisions_threePanes :
    remove threePanes ⟨"map#2"⟩ = threePanes ∧
      remove threePanes ⟨"log#2"⟩ =
        some (.branch ⟨.column, some 60.0⟩ (.leaf ⟨"map#1"⟩) (.leaf ⟨"map#3"⟩)) ∧
      ∃ d, division? threePanes ⟨"map#1"⟩ ⟨"map#3"⟩ = some d ∧
        division? (remove threePanes ⟨"log#2"⟩) ⟨"map#1"⟩ ⟨"map#3"⟩ = some d := by
  have hl : leaves threePanes = [⟨"map#1"⟩, ⟨"log#2"⟩, ⟨"map#3"⟩] := leaves_some _
  obtain ⟨-, hn, -⟩ := removal_keeps_divisions threePanes ⟨"map#2"⟩
  obtain ⟨hr, -, -, hd⟩ := removal_keeps_divisions threePanes ⟨"log#2"⟩
  rw [hl] at hn hr
  rw [hr] at hd
  exact ⟨hn (by decide), rfl, hd _ (by decide) _ (by decide) (by decide)⟩

end Layout
end Dashboard
