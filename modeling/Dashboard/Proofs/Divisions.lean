import Dashboard.Proofs.Identities

/-!
# How two panes are divided

Two panes of a layout are divided by the lowest branch that holds both of them. What is told about
this branch is how it divides its space, and on which of its sides the two panes are. A layout as a
whole is known from its identities in sequence and from these divisions, so edits are described by
what they make of the two.

Where identities repeat, two panes may have several such branches, and the one is meant that is
found by going to the first part as long as it holds both. No statement here asks for identities
that do not repeat, but for the one that says which branch is meant.
-/
namespace Dashboard

/-- A side of a branch. -/
inductive Side where
  | first
  | second
deriving DecidableEq, Repr

namespace Side

def other : Side → Side
  | .first => .second
  | .second => .first

@[simp] theorem other_other (s : Side) : s.other.other = s := by cases s <;> rfl

/-- Of the two parts of a branch, the one on this side. -/
def part : Side → Node → Node → Node
  | .first, n, _ => n
  | .second, _, n => n

end Side

/-- How a branch divides two panes. -/
structure Division where
  /-- How the branch divides its space. -/
  split : Split
  /-- The side of the former pane. The latter is on the other side. -/
  side : Side

namespace Division

/-- The same division, with the two panes named in the other order. -/
def swap (d : Division) : Division := { d with side := d.side.other }

@[simp] theorem swap_swap (d : Division) : d.swap.swap = d := by
  unfold swap
  rw [Side.other_other]

end Division

namespace Node

/-- How the lowest branch that holds both panes divides them. -/
def division? (a b : PaneId) : Node → Option Division
  | .leaf _ => none
  | .branch split first second =>
      if a ∈ first.identities ∧ b ∈ first.identities then first.division? a b
      else if a ∈ second.identities ∧ b ∈ second.identities then second.division? a b
      else if a ∈ first.identities ∧ b ∈ second.identities then some ⟨split, .first⟩
      else if b ∈ first.identities ∧ a ∈ second.identities then some ⟨split, .second⟩
      else none

variable {a b : PaneId} {split : Split} {first second : Node}

/-- What is told of a branch depends on its parts only through which of them hold the panes and how
they divide them. -/
theorem division?_branch_congr {c d : PaneId} {first' second' : Node}
    (ha : a ∈ first.identities ↔ c ∈ first'.identities)
    (hb : b ∈ first.identities ↔ d ∈ first'.identities)
    (ha' : a ∈ second.identities ↔ c ∈ second'.identities)
    (hb' : b ∈ second.identities ↔ d ∈ second'.identities)
    (hf : first.division? a b = first'.division? c d)
    (hs : second.division? a b = second'.division? c d) :
    (branch split first second).division? a b = (branch split first' second').division? c d := by
  simp only [division?, ha, hb, ha', hb', hf, hs]

theorem division?_of_mem_first (ha : a ∈ first.identities) (hb : b ∈ first.identities) :
    (branch split first second).division? a b = first.division? a b := if_pos ⟨ha, hb⟩

theorem division?_of_mem_second (h : ¬ (a ∈ first.identities ∧ b ∈ first.identities))
    (ha : a ∈ second.identities) (hb : b ∈ second.identities) :
    (branch split first second).division? a b = second.division? a b := by
  rw [division?, if_neg h, if_pos ⟨ha, hb⟩]

/-- Panes on different sides are divided by the branch itself. -/
theorem division?_of_apart (ha : a ∈ first.identities) (hb : b ∈ second.identities)
    (ha' : a ∉ second.identities) (hb' : b ∉ first.identities) :
    (branch split first second).division? a b = some ⟨split, .first⟩ := by
  simp only [division?, ha, hb, ha', hb', and_false, and_true, if_false, if_true]

/-- Panes of which one is not there are not divided. -/
theorem division?_eq_none {n : Node} (h : ¬ (a ∈ n.identities ∧ b ∈ n.identities)) :
    n.division? a b = none := by
  cases n with
  | leaf id => rfl
  | branch split first second =>
      simp only [identities, List.mem_append] at h
      rw [division?, if_neg fun hf => h ⟨.inl hf.1, .inl hf.2⟩,
        if_neg fun hs => h ⟨.inr hs.1, .inr hs.2⟩, if_neg fun hd => h ⟨.inl hd.1, .inr hd.2⟩,
        if_neg fun hd => h ⟨.inr hd.2, .inl hd.1⟩]

/-- A part that holds neither pane plays no role. -/
theorem division?_of_notMem_first (ha : a ∉ first.identities) (hb : b ∉ first.identities) :
    (branch split first second).division? a b = second.division? a b := by
  by_cases hs : a ∈ second.identities ∧ b ∈ second.identities
  · exact division?_of_mem_second (fun hf => ha hf.1) hs.1 hs.2
  · rw [division?_eq_none hs]
    simp only [division?, ha, hb, hs, false_and, if_false]

theorem division?_of_notMem_second (ha : a ∉ second.identities) (hb : b ∉ second.identities) :
    (branch split first second).division? a b = first.division? a b := by
  by_cases hf : a ∈ first.identities ∧ b ∈ first.identities
  · exact division?_of_mem_first hf.1 hf.2
  · rw [division?_eq_none hf]
    simp only [division?, ha, hb, hf, and_false, if_false]

/-- Any two panes are divided. -/
theorem exists_division? {n : Node} (hab : a ≠ b) (ha : a ∈ n.identities)
    (hb : b ∈ n.identities) : ∃ d, n.division? a b = some d := by
  induction n with
  | leaf id =>
      rw [identities, List.mem_singleton] at ha hb
      exact (hab (ha.trans hb.symm)).elim
  | branch split first second ih₁ ih₂ =>
      simp only [identities, List.mem_append] at ha hb
      unfold division?
      split_ifs with hf hs
      · exact ih₁ hf.1 hf.2
      · exact ih₂ hs.1 hs.2
      · exact ⟨_, rfl⟩
      · exact ⟨_, rfl⟩
      · tauto

theorem division?_swap (n : Node) (a b : PaneId) :
    n.division? b a = (n.division? a b).map Division.swap := by
  induction n with
  | leaf id => rfl
  | branch split first second ih₁ ih₂ =>
      simp only [division?, ih₁, ih₂, @and_comm (b ∈ first.identities) (a ∈ first.identities),
        @and_comm (b ∈ second.identities) (a ∈ second.identities)]
      split_ifs with hf hs hd hd'
      · rfl
      · rfl
      · -- both panes would be in the first part
        exact (hf ⟨hd'.1, hd.1⟩).elim
      · rfl
      · rfl
      · rfl

/-! ## The branch that divides -/

/-- The former node is the latter, or a part of it. -/
inductive IsPart : Node → Node → Prop where
  | self (n : Node) : IsPart n n
  | first {n first : Node} (split : Split) (second : Node) (h : IsPart n first) :
      IsPart n (.branch split first second)
  | second {n second : Node} (split : Split) (first : Node) (h : IsPart n second) :
      IsPart n (.branch split first second)

theorem IsPart.mem_identities {n m : Node} (h : IsPart n m) {id : PaneId}
    (hm : id ∈ n.identities) : id ∈ m.identities := by
  induction h with
  | self => exact hm
  | first _ _ _ ih => exact List.mem_append_left _ ih
  | second _ _ _ ih => exact List.mem_append_right _ ih

theorem exists_isPart_of_division? {n : Node} (h : n.division? a b = some ⟨split, .first⟩) :
    ∃ first second, IsPart (branch split first second) n ∧ a ∈ first.identities ∧
      b ∈ second.identities := by
  induction n with
  | leaf id => cases h
  | branch s f g ih₁ ih₂ =>
      unfold division? at h
      split_ifs at h with hf hs hd hd'
      · obtain ⟨first, second, hp, hm⟩ := ih₁ h
        exact ⟨first, second, .first s g hp, hm⟩
      · obtain ⟨first, second, hp, hm⟩ := ih₂ h
        exact ⟨first, second, .second s f hp, hm⟩
      · cases h
        exact ⟨f, g, .self _, hd⟩
      · cases h

theorem division?_of_isPart {n : Node} (hu : n.identities.Nodup)
    (hp : IsPart (branch split first second) n) (ha : a ∈ first.identities)
    (hb : b ∈ second.identities) : n.division? a b = some ⟨split, .first⟩ := by
  have ha' : a ∈ (branch split first second).identities := List.mem_append_left _ ha
  have hb' : b ∈ (branch split first second).identities := List.mem_append_right _ hb
  induction n with
  | leaf id => cases hp
  | branch s f g ih₁ ih₂ =>
      obtain ⟨hf, hg, hd⟩ := List.nodup_append.mp hu
      cases hp with
      | self =>
          exact division?_of_apart ha hb (fun h => hd a ha a h rfl) (fun h => hd b h b hb rfl)
      | first _ _ h =>
          rw [division?_of_mem_first (h.mem_identities ha') (h.mem_identities hb')]
          exact ih₁ hf h
      | second _ _ h =>
          have hn : a ∉ f.identities := fun hm => hd a hm a (h.mem_identities ha') rfl
          rw [division?_of_mem_second (fun hm => hn hm.1) (h.mem_identities ha')
            (h.mem_identities hb')]
          exact ih₂ hg h

theorem division?_eq_some_first_iff {n : Node} (hu : n.identities.Nodup) :
    n.division? a b = some ⟨split, .first⟩ ↔
      ∃ first second, IsPart (branch split first second) n ∧ a ∈ first.identities ∧
        b ∈ second.identities := by
  constructor
  · exact exists_isPart_of_division?
  · rintro ⟨first, second, hp, ha, hb⟩
    exact division?_of_isPart hu hp ha hb

/-- Where identities do not repeat, one branch has the two panes on different sides, and this is
the branch that divides them. -/
theorem division?_eq_some_iff {n : Node} (hu : n.identities.Nodup) (a b : PaneId) (d : Division) :
    n.division? a b = some d ↔
      ∃ first second, IsPart (branch d.split first second) n ∧
        a ∈ (d.side.part first second).identities ∧
        b ∈ (d.side.other.part first second).identities := by
  obtain ⟨split, _ | _⟩ := d
  · exact division?_eq_some_first_iff hu
  · have hs : n.division? a b = some ⟨split, .second⟩ ↔ n.division? b a = some ⟨split, .first⟩ := by
      rw [n.division?_swap a b, Option.map_eq_some_iff]
      constructor
      · exact fun h => ⟨_, h, rfl⟩
      · rintro ⟨d, h, hd⟩
        rw [h, ← d.swap_swap, hd]
        rfl
    rw [hs, division?_eq_some_first_iff hu]
    simp only [Side.part, Side.other, and_comm]

end Node

/-! ## Layouts -/

namespace Layout

def division? : Layout → PaneId → PaneId → Option Division
  | none, _, _ => none
  | some n, a, b => n.division? a b

theorem exists_division? {l : Layout} {a b : PaneId} (hab : a ≠ b) (ha : a ∈ leaves l)
    (hb : b ∈ leaves l) : ∃ d, division? l a b = some d := by
  cases l with
  | none => exact (List.not_mem_nil ha).elim
  | some n =>
      rw [leaves_some] at ha hb
      exact Node.exists_division? hab ha hb

end Layout
end Dashboard
