import Dashboard.Proofs.DividedPanes
import Dashboard.Proofs.RemovedPanes

/-!
# Edits one after another

Removing the pane that an insertion has brought leaves what removing it beforehand would have left.
The branches that the insertion has made collapse, at every place where there is one, and if no such
pane was there before, nothing else does. Edits that are about different panes can be made in either
order, although a removal changes the shape of what the next edit finds.

Both come from the same two facts. An edit of a branch edits its two parts and puts together what is
left of them, and to put parts together and to edit them afterwards is to edit them beforehand.
-/
namespace Dashboard

/-! ## Edits of what is left of a branch -/

namespace Layout

theorem remove_ofParts (split : Split) (first second : Layout) (id : PaneId) :
    remove (ofParts split first second) id =
      ofParts split (remove first id) (remove second id) := by
  cases first with
  | none =>
      rw [ofParts_none_left]
      exact (ofParts_none_left split _).symm
  | some first =>
      cases second with
      | none =>
          rw [ofParts_none_right]
          exact (ofParts_none_right split _).symm
      | some second =>
          rw [ofParts, remove_some, remove_some, remove_some, Node.without_branch]

theorem map_splitAt_ofParts (split : Split) (first second : Layout) (target new : PaneId)
    (direction : Direction) :
    (ofParts split first second).map (Node.splitAt target direction new) =
      ofParts split (first.map (Node.splitAt target direction new))
        (second.map (Node.splitAt target direction new)) := by
  cases first <;> cases second <;> rfl

variable {σ : Type} [TokenSource σ]

/-- The source counts only for the identity that is drawn from it. -/
theorem insertAt_layout (l : Layout) (target : PaneId) (widget : String) (direction : Direction)
    (tokens : σ) :
    (insertAt l target widget direction tokens).1 =
      l.map (Node.splitAt target direction (PaneId.fresh widget tokens).1) := by
  cases l with
  | none => rfl
  | some n =>
      rw [insertAt_some]
      split
      next => rfl
      next h =>
        rw [Option.map_some, Node.splitAt_of_notMem (mt (n.contains_iff target).mpr h)]

end Layout

/-! ## Removing what has been inserted -/

namespace Node

/-- A branch collapses to its first part if its second part is the pane that is removed. -/
theorem without_branch_leaf (split : Split) (n : Node) (id : PaneId) :
    (branch split n (leaf id)).without id = n.without id := by
  have h : (leaf id).without id = none := if_pos rfl
  rw [without_branch, h, Layout.ofParts_none_right]

theorem without_splitFirst (n : Node) (new : PaneId) :
    (n.splitFirst new).without new = n.without new := by
  induction n with
  | leaf id => exact without_branch_leaf _ _ new
  | branch split first second ih _ => rw [splitFirst_branch, without_branch, ih, without_branch]

theorem without_splitAt_new (n : Node) (target new : PaneId) (direction : Direction) :
    (n.splitAt target direction new).without new = n.without new := by
  induction n with
  | leaf id =>
      rw [splitAt]
      split
      next => exact without_branch_leaf _ _ new
      next => rfl
  | branch split first second ih₁ ih₂ =>
      rw [splitAt, without_branch, ih₁, ih₂, without_branch]

end Node

namespace Layout

section
variable {σ : Type} [TokenSource σ]

theorem remove_insertFirst (l : Layout) (widget : String) (tokens : σ) :
    remove (insertFirst l widget tokens).1 (PaneId.fresh widget tokens).1 =
      remove l (PaneId.fresh widget tokens).1 := by
  cases l with
  | none =>
      rw [insertFirst, remove_some]
      exact if_pos rfl
  | some n =>
      rw [insertFirst, remove_some, remove_some]
      exact n.without_splitFirst _

theorem remove_insertAt_new (l : Layout) (target : PaneId) (widget : String)
    (direction : Direction) (tokens : σ) :
    remove (insertAt l target widget direction tokens).1 (PaneId.fresh widget tokens).1 =
      remove l (PaneId.fresh widget tokens).1 := by
  rw [insertAt_layout]
  cases l with
  | none => rfl
  | some n =>
      rw [Option.map_some, remove_some, remove_some]
      exact n.without_splitAt_new target _ direction

/-- An insertion brings the new pane, and removing this pane gives the layout back exactly if there
was none of its identity before. -/
theorem removal_undoes_insertion (l : Layout) (widget : String) (tokens : σ) :
    let new := PaneId.join widget (TokenSource.next tokens).1
    let added := (insertFirst l widget tokens).1
    (new ∈ leaves added ∧ (remove added new = l ↔ new ∉ leaves l)) ∧
    ∀ target ∈ leaves l, ∀ direction : Direction,
      let divided := (insertAt l target widget direction tokens).1
      new ∈ leaves divided ∧ (remove divided new = l ↔ new ∉ leaves l) := by
  intro new added
  refine ⟨⟨?_, ?_⟩, ?_⟩
  · exact (leaves_insertFirst l widget tokens).mem_iff.mpr List.mem_cons_self
  · have hr : remove added new = remove l new := remove_insertFirst l widget tokens
    rw [hr, remove_eq_self_iff]
  · intro target ht direction divided
    have hr : remove divided new = remove l new :=
      remove_insertAt_new l target widget direction tokens
    refine ⟨?_, by rw [hr, remove_eq_self_iff]⟩
    rw [(insertAt_of_mem ht widget direction tokens).1, mem_insertAfter_iff]
    exact .inr ⟨rfl, ht⟩

/-- Two panes of one identity, and between them another. -/
def repeatedPanes : Layout :=
  some (.branch ⟨.column, some 60.0⟩ (.leaf ⟨"map#1"⟩)
    (.branch ⟨.row, some 30.0⟩ (.leaf ⟨"log#2"⟩) (.leaf ⟨"map#1"⟩)))

/-- The new pane is removed where it is once and where it is twice, and only the branches that have
been made for it collapse. -/
theorem removal_undoes_insertion_repeatedPanes :
    let added := (insertFirst repeatedPanes "log" ({} : ScriptedTokens)).1
    let divided := (insertAt repeatedPanes ⟨"map#1"⟩ "log" .row ({} : ScriptedTokens)).1
    remove added ⟨"log#000001"⟩ = repeatedPanes ∧
      leaves divided =
        [⟨"map#1"⟩, ⟨"log#000001"⟩, ⟨"log#2"⟩, ⟨"map#1"⟩, ⟨"log#000001"⟩] ∧
      remove divided ⟨"log#000001"⟩ = repeatedPanes := by
  intro added divided
  have hl : leaves repeatedPanes = [⟨"map#1"⟩, ⟨"log#2"⟩, ⟨"map#1"⟩] := leaves_some _
  have hj : PaneId.join "log" (TokenSource.next ({} : ScriptedTokens)).1 = ⟨"log#000001"⟩ := by
    decide +kernel
  have ht : (⟨"map#1"⟩ : PaneId) ∈ leaves repeatedPanes := by
    rw [hl]
    decide
  obtain ⟨ha, hd⟩ := removal_undoes_insertion repeatedPanes "log" ({} : ScriptedTokens)
  have hd := hd _ ht .row
  have hi := (insertAt_of_mem ht "log" .row ({} : ScriptedTokens)).1
  rw [hj, hl] at ha hd
  rw [hl] at hi
  exact ⟨ha.2.mpr (by decide), hi.trans (by decide +kernel), hd.2.mpr (by decide)⟩

end
end Layout

/-! ## Edits of different panes -/

namespace Node

theorem remove_without_comm (n : Node) (a b : PaneId) :
    Layout.remove (n.without a) b = Layout.remove (n.without b) a := by
  induction n with
  | leaf id =>
      by_cases ha : id = a
      · subst ha
        by_cases hb : id = b <;> simp [Layout.remove_some, without, hb]
      · by_cases hb : id = b
        · subst hb
          simp [Layout.remove_some, without, ha]
        · simp [Layout.remove_some, without, ha, hb]
  | branch split first second ih₁ ih₂ =>
      rw [without_branch, Layout.remove_ofParts, ih₁, ih₂, without_branch, Layout.remove_ofParts]

/-- A pane may be split before or after another one is removed. -/
theorem without_splitAt (n : Node) {a b new : PaneId} (hb : b ≠ a) (hn : new ≠ b)
    (direction : Direction) :
    (n.splitAt a direction new).without b = (n.without b).map (splitAt a direction new) := by
  induction n with
  | leaf id =>
      by_cases ha : id = a
      · -- both panes of the new branch stay
        subst ha
        simp [splitAt, without, Ne.symm hb, hn]
      · by_cases hi : id = b
        · subst hi
          simp [splitAt, without, ha]
        · simp [splitAt, without, ha, hi]
  | branch split first second ih₁ ih₂ =>
      rw [splitAt, without_branch, ih₁, ih₂, without_branch, Layout.map_splitAt_ofParts]

theorem splitAt_comm (n : Node) {a c new other : PaneId} (hac : a ≠ c) (ha : other ≠ a)
    (hc : new ≠ c) (direction direction' : Direction) :
    (n.splitAt a direction new).splitAt c direction' other =
      (n.splitAt c direction' other).splitAt a direction new := by
  induction n with
  | leaf id =>
      -- one of the edits splits the pane at most, and neither splits what the other has brought
      by_cases hi : id = a
      · subst hi
        simp [splitAt, hac, hc]
      · by_cases hj : id = c
        · subst hj
          simp [splitAt, hi, ha]
        · simp [splitAt, hi, hj]
  | branch split first second ih₁ ih₂ => simp only [splitAt, ih₁, ih₂]

end Node

namespace Layout

theorem remove_comm (l : Layout) (a b : PaneId) :
    remove (remove l a) b = remove (remove l b) a := by
  cases l with
  | none => rfl
  | some n =>
      rw [remove_some, remove_some]
      exact n.remove_without_comm a b

variable {σ : Type} [TokenSource σ]

theorem remove_insertAt (l : Layout) {a b : PaneId} (hb : b ≠ a) (widget : String)
    (direction : Direction) (tokens : σ) (hn : (PaneId.fresh widget tokens).1 ≠ b) :
    remove (insertAt l a widget direction tokens).1 b =
      (insertAt (remove l b) a widget direction tokens).1 := by
  rw [insertAt_layout, insertAt_layout]
  cases l with
  | none => rfl
  | some n =>
      rw [Option.map_some, remove_some, remove_some]
      exact n.without_splitAt hb hn direction

/-- Each of the two identities may be drawn from different sources in the two orders. -/
theorem insertAt_comm (l : Layout) {a c : PaneId} (hac : a ≠ c) {widget widget' : String}
    (direction direction' : Direction) {s s' t t' : σ}
    (hs : (PaneId.fresh widget s').1 = (PaneId.fresh widget s).1)
    (ht : (PaneId.fresh widget' t').1 = (PaneId.fresh widget' t).1)
    (ha : (PaneId.fresh widget' t).1 ≠ a) (hc : (PaneId.fresh widget s).1 ≠ c) :
    (insertAt (insertAt l a widget direction s).1 c widget' direction' t).1 =
      (insertAt (insertAt l c widget' direction' t').1 a widget direction s').1 := by
  simp only [insertAt_layout, hs, ht]
  cases l with
  | none => rfl
  | some n => exact congrArg some (n.splitAt_comm hac ha hc direction direction')

/-- Edits of different panes come to the same in either order: two removals, an insertion and the
removal of another pane, and insertions at two panes. The new panes have the same identities in both
orders, whatever the sources are from which these are drawn. -/
theorem edits_commute (l : Layout) :
    (∀ a b : PaneId, remove (remove l a) b = remove (remove l b) a) ∧
    (∀ (a b : PaneId) (widget : String) (direction : Direction) (tokens : σ),
      b ≠ a → PaneId.join widget (TokenSource.next tokens).1 ≠ b →
        remove (insertAt l a widget direction tokens).1 b =
          (insertAt (remove l b) a widget direction tokens).1) ∧
    ∀ a ∈ leaves l, ∀ c ∈ leaves l, a ≠ c →
      ∀ (widget widget' : String) (direction direction' : Direction) (s s' t t' : σ),
        let new := PaneId.join widget (TokenSource.next s).1
        let other := PaneId.join widget' (TokenSource.next t).1
        PaneId.join widget (TokenSource.next s').1 = new →
        PaneId.join widget' (TokenSource.next t').1 = other →
        new ∉ leaves l → other ∉ leaves l →
          (insertAt (insertAt l a widget direction s).1 c widget' direction' t).1 =
            (insertAt (insertAt l c widget' direction' t').1 a widget direction s').1 := by
  refine ⟨l.remove_comm, ?_, ?_⟩
  · intro a b widget direction tokens hb hn
    exact l.remove_insertAt hb widget direction tokens hn
  · intro a ha c hc hac widget widget' direction direction' s s' t t' new other hs ht hn ho
    have hoa : other ≠ a := fun h => ho (h ▸ ha)
    have hnc : new ≠ c := fun h => hn (h ▸ hc)
    exact l.insertAt_comm hac direction direction' hs ht hoa hnc

/-- One source for both new panes. As it yields the tokens in the order of the edits, it has to
offer them the other way round for the other order. -/
theorem edits_commute_repeatedPanes :
    let s : ScriptedTokens := { scripted := ["x", "y"] }
    let t' : ScriptedTokens := { scripted := ["y", "x"] }
    let t := (TokenSource.next s).2
    let s' := (TokenSource.next t').2
    remove (remove repeatedPanes ⟨"map#1"⟩) ⟨"log#2"⟩ =
        remove (remove repeatedPanes ⟨"log#2"⟩) ⟨"map#1"⟩ ∧
      remove (insertAt repeatedPanes ⟨"map#1"⟩ "log" .row s).1 ⟨"log#2"⟩ =
        (insertAt (remove repeatedPanes ⟨"log#2"⟩) ⟨"map#1"⟩ "log" .row s).1 ∧
      (insertAt (insertAt repeatedPanes ⟨"map#1"⟩ "log" .row s).1 ⟨"log#2"⟩ "map" .column t).1 =
        (insertAt (insertAt repeatedPanes ⟨"log#2"⟩ "map" .column t').1 ⟨"map#1"⟩ "log" .row
          s').1 := by
  intro s t' t s'
  have hl : leaves repeatedPanes = [⟨"map#1"⟩, ⟨"log#2"⟩, ⟨"map#1"⟩] := leaves_some _
  obtain ⟨hr, hi, hc⟩ := edits_commute (σ := ScriptedTokens) repeatedPanes
  rw [hl] at hc
  refine ⟨hr _ _, hi _ _ "log" .row s (by decide) (by decide +kernel), ?_⟩
  exact hc _ (by decide) _ (by decide) (by decide) "log" "map" .row .column s s' t t' rfl rfl
    (by decide +kernel) (by decide +kernel)

end Layout
end Dashboard
