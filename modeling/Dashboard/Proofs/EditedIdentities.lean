import Dashboard.Proofs.SharedParts
import Mathlib.Tactic.SplitIfs

/-!
# Identities after an edit

What each edit makes of the sequence of identities: a new one beside the first pane or after every
pane that is divided, and none of those that are removed. What is reported as repeated are the
identities that occur more than once, each of them once. So a layout whose identities differ can
only come to repeat the identity that an edit has brought in.
-/
namespace Dashboard

/-! ## Repeated identities -/

section
variable {α : Type} [DecidableEq α]

/-- An element is reported if it occurs twice, counting once what has been seen before. -/
theorem mem_repeatedFrom (seen reported xs : List α) (x : α) :
    x ∈ repeatedFrom seen reported xs ↔
      x ∉ reported ∧ (if x ∈ seen then 1 else 2) ≤ xs.count x := by
  induction xs generalizing seen reported with
  | nil =>
      have : ¬ (if x ∈ seen then 1 else 2) ≤ 0 := by split_ifs <;> omega
      simp [repeatedFrom, this]
  | cons y ys ih =>
      by_cases hx : x = y
      · subst hx
        by_cases hs : x ∈ seen
        · by_cases hr : x ∈ reported
          · simp [repeatedFrom, hs, hr, ih]
          · simp [repeatedFrom, hs, hr]
        · simp [repeatedFrom, hs, ih]
      · have hc : (y :: ys).count x = ys.count x := List.count_cons_of_ne (Ne.symm hx)
        rw [hc]
        unfold repeatedFrom
        split_ifs <;> simp_all

theorem nodup_repeatedFrom (seen reported xs : List α) :
    (repeatedFrom seen reported xs).Nodup := by
  induction xs generalizing seen reported with
  | nil => exact List.nodup_nil
  | cons y ys ih =>
      unfold repeatedFrom
      split_ifs
      · exact ih _ _
      · -- once reported, an element is not reported again
        have hy : y ∉ repeatedFrom seen (y :: reported) ys := by simp [mem_repeatedFrom]
        exact List.nodup_cons.mpr ⟨hy, ih _ _⟩
      · exact ih _ _

end

namespace Layout

theorem mem_duplicates_iff (l : Layout) (id : PaneId) :
    id ∈ duplicates l ↔ 2 ≤ (leaves l).count id := by
  simp [duplicates, mem_repeatedFrom]

/-- Only one identity can be repeated where the others differ. -/
theorem duplicates_of_perm {l : Layout} {new : PaneId} {ids : List PaneId}
    (h : (leaves l).Perm (new :: ids)) (hu : ids.Nodup) (hm : new ∈ ids) :
    duplicates l = [new] := by
  have hd : ∀ id, id ∈ duplicates l ↔ id ∈ [new] := by
    intro id
    have hc : ids.count id ≤ 1 := List.nodup_iff_count_le_one.mp hu id
    rw [mem_duplicates_iff, h.count_eq, List.mem_singleton]
    constructor
    · intro hi
      by_contra hne
      rw [List.count_cons_of_ne (Ne.symm hne)] at hi
      omega
    · rintro rfl
      have hp : 0 < ids.count id := List.count_pos_iff.mpr hm
      rw [List.count_cons_self]
      omega
  have hn : (duplicates l).Nodup := nodup_repeatedFrom [] [] (leaves l)
  have hp : (duplicates l).Perm [new] :=
    (List.perm_ext_iff_of_nodup hn (List.nodup_singleton new)).mpr hd
  exact List.perm_singleton.mp hp

end Layout

/-! ## New panes -/

/-- Puts an identity after every occurrence of another. -/
def insertAfter (target new : PaneId) : List PaneId → List PaneId
  | [] => []
  | id :: ids =>
      if id = target then id :: new :: insertAfter target new ids
      else id :: insertAfter target new ids

theorem insertAfter_append (target new : PaneId) (xs ys : List PaneId) :
    insertAfter target new (xs ++ ys) =
      insertAfter target new xs ++ insertAfter target new ys := by
  induction xs with
  | nil => rfl
  | cons id ids ih =>
      simp only [List.cons_append, insertAfter, ih]
      split_ifs <;> rfl

theorem insertAfter_of_notMem {target : PaneId} (new : PaneId) {ids : List PaneId}
    (h : target ∉ ids) : insertAfter target new ids = ids := by
  induction ids with
  | nil => rfl
  | cons id ids ih =>
      have hne : id ≠ target := fun he => h (he ▸ List.mem_cons_self)
      have ht : target ∉ ids := fun hm => h (List.mem_cons_of_mem _ hm)
      simp only [insertAfter, hne, if_false, ih ht]

theorem mem_insertAfter_iff {target new : PaneId} (ids : List PaneId) (id : PaneId) :
    id ∈ insertAfter target new ids ↔ id ∈ ids ∨ id = new ∧ target ∈ ids := by
  induction ids with
  | nil => simp [insertAfter]
  | cons other ids ih =>
      by_cases h : other = target
      · subst h
        simp only [insertAfter, if_true, List.mem_cons, ih]
        tauto
      · simp only [insertAfter, h, if_false, List.mem_cons, ih, Ne.symm h, false_or]
        tauto

/-- Where the other identity occurs once, one identity is added. -/
theorem insertAfter_perm {target : PaneId} (new : PaneId) {ids : List PaneId} (hu : ids.Nodup)
    (h : target ∈ ids) : (insertAfter target new ids).Perm (new :: ids) := by
  induction ids with
  | nil => cases h
  | cons id ids ih =>
      obtain ⟨hi, hu⟩ := List.nodup_cons.mp hu
      by_cases he : id = target
      · subst he
        simp only [insertAfter, if_true, insertAfter_of_notMem new hi]
        exact List.Perm.swap new id ids
      · have ht : target ∈ ids := List.mem_of_ne_of_mem (Ne.symm he) h
        simp only [insertAfter, he, if_false]
        exact ((ih hu ht).cons id).trans (List.Perm.swap new id ids)

namespace Node

theorem contains_iff (n : Node) (id : PaneId) : n.contains id = true ↔ id ∈ n.identities := by
  simp [contains]

/-- A node that does not hold the target is left as it is. -/
theorem splitAt_of_notMem {n : Node} {target : PaneId} (h : target ∉ n.identities)
    (direction : Direction) (new : PaneId) : n.splitAt target direction new = n := by
  induction n with
  | leaf id =>
      rw [identities, List.mem_singleton] at h
      exact if_neg (Ne.symm h)
  | branch split first second ih₁ ih₂ =>
      rw [identities, List.mem_append, not_or] at h
      rw [splitAt, ih₁ h.1, ih₂ h.2]

theorem identities_splitAt (n : Node) (target new : PaneId) (direction : Direction) :
    (n.splitAt target direction new).identities = insertAfter target new n.identities := by
  induction n with
  | leaf id =>
      unfold splitAt identities
      split_ifs with h <;> simp [insertAfter, h, identities]
  | branch split first second ih₁ ih₂ =>
      simp only [splitAt, identities, ih₁, ih₂, insertAfter_append]

end Node

/-! ## Removed panes -/

namespace Layout

/-- What a branch becomes if so much is left of its parts. Where one part is gone, the other stands
for the branch. -/
def ofParts (split : Split) : Layout → Layout → Layout
  | some first, some second => some (.branch split first second)
  | some only, none | none, some only => some only
  | none, none => none

@[simp] theorem ofParts_none_left (split : Split) (l : Layout) : ofParts split none l = l := by
  cases l <;> rfl

@[simp] theorem ofParts_none_right (split : Split) (l : Layout) : ofParts split l none = l := by
  cases l <;> rfl

theorem leaves_ofParts (split : Split) (first second : Layout) :
    leaves (ofParts split first second) = leaves first ++ leaves second := by
  cases first with
  | none => simp
  | some first =>
      cases second with
      | none => simp
      | some second => simp [ofParts, Node.identities]

end Layout

namespace Node

theorem without_branch (split : Split) (first second : Node) (id : PaneId) :
    (branch split first second).without id =
      Layout.ofParts split (first.without id) (second.without id) := by
  rw [without]
  cases first.without id <;> cases second.without id <;> rfl

/-- Removing panes leaves the others in their order. -/
theorem leaves_without (n : Node) (id : PaneId) :
    Layout.leaves (n.without id) = n.identities.filter (· ≠ id) := by
  induction n with
  | leaf other =>
      by_cases h : other = id
      · simp [without, identities, h]
      · simp [without, identities, h]
  | branch split first second ih₁ ih₂ =>
      rw [without_branch, Layout.leaves_ofParts, ih₁, ih₂, identities, List.filter_append]

end Node

namespace Layout

theorem leaves_remove (l : Layout) (id : PaneId) :
    leaves (remove l id) = (leaves l).filter (· ≠ id) := by
  cases l with
  | none => rfl
  | some n => rw [remove_some, leaves_some, n.leaves_without]

variable {σ : Type} [TokenSource σ]

theorem leaves_insertFirst_eq (l : Layout) (widget : String) (source : σ) :
    leaves (insertFirst l widget source).1 =
      (leaves l).take 1 ++ (PaneId.fresh widget source).1 :: (leaves l).drop 1 := by
  cases l with
  | none => exact leaves_some _
  | some n =>
      rw [insertFirst, leaves_some, leaves_some, n.identities_splitFirst_eq, n.identities_eq_cons]
      rfl

theorem leaves_insertFirst (l : Layout) (widget : String) (source : σ) :
    (leaves (insertFirst l widget source).1).Perm
      ((PaneId.fresh widget source).1 :: leaves l) := by
  have h : ((leaves l).take 1 ++ (PaneId.fresh widget source).1 :: (leaves l).drop 1).Perm
      ((PaneId.fresh widget source).1 :: ((leaves l).take 1 ++ (leaves l).drop 1)) :=
    List.perm_middle
  rwa [← leaves_insertFirst_eq, List.take_append_drop] at h

theorem insertAt_of_notMem {l : Layout} {target : PaneId} (h : target ∉ leaves l)
    (widget : String) (direction : Direction) (source : σ) :
    insertAt l target widget direction source = (l, source) := by
  cases l with
  | none => rfl
  | some n =>
      rw [leaves_some] at h
      simp [insertAt_some, mt (n.contains_iff target).mp h]

theorem insertAt_of_mem {l : Layout} {target : PaneId} (h : target ∈ leaves l)
    (widget : String) (direction : Direction) (source : σ) :
    leaves (insertAt l target widget direction source).1 =
        insertAfter target (PaneId.fresh widget source).1 (leaves l) ∧
      (insertAt l target widget direction source).2 = (PaneId.fresh widget source).2 := by
  cases l with
  | none => cases h
  | some n =>
      rw [leaves_some] at h
      simp [insertAt_some, (n.contains_iff target).mpr h, Node.identities_splitAt]

end Layout
end Dashboard
