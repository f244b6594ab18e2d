import Dashboard.Proofs.EditedIdentities

/-!
# The order in which repeated identities are reported

The scan for repeated identities carries two lists along: what it has met, and what it has reported.
At every point both are told by the part of the sequence that has been read. An element is in the
first list if it has occurred there, and in the second if it has occurred there twice. So an element
is reported where it stands for the second time and nowhere else, and the reports come in the order
of these places.

An identity has only one such place. Hence what is reported is the only list that has the repeated
identities for its members and keeps this order.
-/
namespace Dashboard

section
variable {α : Type} [DecidableEq α]

/-! ## Second occurrences -/

/-- At the given place of a sequence an element stands for the second time. -/
def SecondAt (xs : List α) (i : Nat) (x : α) : Prop := xs[i]? = some x ∧ (xs.take i).count x = 1

/-- Of two elements that occur twice, one does so before the other. -/
def RepeatedBefore (xs : List α) (x y : α) : Prop :=
  ∃ i j, SecondAt xs i x ∧ SecondAt xs j y ∧ i < j

/-- From a place where an element stands, its later places have it counted once more before them. -/
theorem count_take_lt {xs : List α} {i j : Nat} {x : α} (hx : xs[i]? = some x) (h : i < j) :
    (xs.take i).count x < (xs.take j).count x := by
  have hp : xs.take (i + 1) = xs.take i ++ [x] := by
    rw [List.take_add_one, hx]
    rfl
  have hl : (xs.take (i + 1)).count x ≤ (xs.take j).count x := by
    apply List.Sublist.count_le
    exact List.take_sublist_take_left h
  rw [hp, List.count_append, List.count_singleton_self] at hl
  omega

theorem SecondAt.not_lt {xs : List α} {i j : Nat} {x : α} (hi : SecondAt xs i x)
    (hj : SecondAt xs j x) : ¬ i < j := by
  intro h
  have hc := count_take_lt hi.1 h
  rw [hi.2, hj.2] at hc
  exact Nat.lt_irrefl 1 hc

/-- An element stands for the second time at one place only. -/
theorem SecondAt.place_unique {xs : List α} {i j : Nat} {x : α} (hi : SecondAt xs i x)
    (hj : SecondAt xs j x) : i = j := by
  have := hi.not_lt hj
  have := hj.not_lt hi
  omega

theorem RepeatedBefore.asymm {xs : List α} {x y : α} (h : RepeatedBefore xs x y) :
    ¬ RepeatedBefore xs y x := by
  intro ⟨j', i', hj', hi', hlt'⟩
  obtain ⟨i, j, hi, hj, hlt⟩ := h
  have := hi.place_unique hi'
  have := hj.place_unique hj'
  omega

/-! ## The scan -/

/-- What the scan has noted once a part of the sequence has been read. -/
structure Noted (read seen reported : List α) : Prop where
  mem_seen : ∀ x, x ∈ seen ↔ 1 ≤ read.count x
  mem_reported : ∀ x, x ∈ reported ↔ 2 ≤ read.count x

theorem noted_nil : Noted ([] : List α) [] [] := by
  constructor <;> simp

/-- Reading one element more counts this element once more and no other one. -/
theorem count_read (read : List α) (x y : α) :
    (read ++ [x]).count y = read.count y + if x = y then 1 else 0 := by
  rw [List.count_append, List.count_singleton]
  simp only [beq_iff_eq]

namespace Noted
variable {read seen reported : List α} (h : Noted read seen reported) {x : α}
include h

theorem first (hs : x ∉ seen) : Noted (read ++ [x]) (x :: seen) reported := by
  have hx := mt (h.mem_seen x).mpr hs
  constructor <;> intro y <;> rw [count_read]
  · rw [List.mem_cons, h.mem_seen]
    grind
  · rw [h.mem_reported]
    grind

theorem second (hs : x ∈ seen) : Noted (read ++ [x]) seen (x :: reported) := by
  have hx := (h.mem_seen x).mp hs
  constructor <;> intro y <;> rw [count_read]
  · rw [h.mem_seen]
    grind
  · rw [List.mem_cons, h.mem_reported]
    grind

theorem further (hr : x ∈ reported) : Noted (read ++ [x]) seen reported := by
  have hx := (h.mem_reported x).mp hr
  constructor <;> intro y <;> rw [count_read]
  · rw [h.mem_seen]
    grind
  · rw [h.mem_reported]
    grind

/-- An element that has been seen but not reported is about to stand for the second time. -/
theorem secondAt (hs : x ∈ seen) (hr : x ∉ reported) (xs : List α) :
    SecondAt (read ++ x :: xs) read.length x := by
  have hseen := (h.mem_seen x).mp hs
  have hreported := mt (h.mem_reported x).mpr hr
  refine ⟨by simp, ?_⟩
  rw [List.take_left]
  omega

end Noted

section
variable {read seen reported : List α}

/-- What the scan reports when it reads on stands for the second time in what follows. -/
theorem exists_secondAt_of_mem (h : Noted read seen reported) {xs : List α} {y : α}
    (hy : y ∈ repeatedFrom seen reported xs) :
    ∃ j, read.length ≤ j ∧ SecondAt (read ++ xs) j y := by
  induction xs generalizing read seen reported with
  | nil => cases hy
  | cons x xs ih =>
      have hlater {seen' reported' : List α} (h' : Noted (read ++ [x]) seen' reported')
          (hy' : y ∈ repeatedFrom seen' reported' xs) :
          ∃ j, read.length ≤ j ∧ SecondAt (read ++ x :: xs) j y := by
        obtain ⟨j, hj, hs⟩ := ih h' hy'
        rw [List.length_append] at hj
        rw [List.append_cons]
        exact ⟨j, by omega, hs⟩
      unfold repeatedFrom at hy
      split at hy
      next hs => exact hlater (h.first hs) hy
      next hs =>
        have hs := not_not.mp hs
        split at hy
        next hr =>
          rcases List.mem_cons.mp hy with rfl | hy
          · exact ⟨read.length, Nat.le_refl _, h.secondAt hs hr xs⟩
          · exact hlater (h.second hs) hy
        next hr => exact hlater (h.further (not_not.mp hr)) hy

/-- The scan reports elements in the order of the places where they stand for the second time. -/
theorem pairwise_repeatedFrom (h : Noted read seen reported) (xs : List α) :
    (repeatedFrom seen reported xs).Pairwise (RepeatedBefore (read ++ xs)) := by
  induction xs generalizing read seen reported with
  | nil => exact .nil
  | cons x xs ih =>
      unfold repeatedFrom
      split
      next hs =>
        rw [List.append_cons]
        exact ih (h.first hs)
      next hs =>
        have hs := not_not.mp hs
        split
        next hr =>
          have hx := h.secondAt hs hr xs
          have hn := h.second hs
          rw [List.append_cons] at hx ⊢
          apply List.Pairwise.cons _ (ih hn)
          -- all further reports are about places behind this one
          intro y hy
          obtain ⟨j, hj, hy⟩ := exists_secondAt_of_mem hn hy
          rw [List.length_append, List.length_singleton] at hj
          exact ⟨read.length, j, hx, hy, by omega⟩
        next hr =>
          rw [List.append_cons]
          exact ih (h.further (not_not.mp hr))

end

/-- Where a list is in the order of second occurrences, its members tell the list. -/
theorem eq_of_pairwise_repeatedBefore {xs ys zs : List α} (hy : ys.Pairwise (RepeatedBefore xs))
    (hz : zs.Pairwise (RepeatedBefore xs)) (hp : ys.Perm zs) : ys = zs := by
  apply hp.eq_of_pairwise _ hy hz
  intro a b _ _ hab hba
  exact (hab.asymm hba).elim

end

/-! ## Layouts -/

namespace Layout

theorem duplicates_pairwise (l : Layout) :
    (duplicates l).Pairwise (RepeatedBefore (leaves l)) :=
  pairwise_repeatedFrom noted_nil (leaves l)

theorem hasUniqueIdentities_iff (l : Layout) :
    hasUniqueIdentities l = true ↔ (leaves l).Nodup := by
  rw [hasUniqueIdentities, List.isEmpty_iff, duplicates_eq_nil_iff]

theorem checkUnique_eq_ok_iff (l : Layout) : checkUnique l = .ok () ↔ (leaves l).Nodup :=
  ⟨nodup_of_checkUnique, checkUnique_of_nodup⟩

theorem checkUnique_eq_error_iff (l : Layout) (e : LayoutError) :
    checkUnique l = .error e ↔
      ¬ (leaves l).Nodup ∧ e = .duplicateIdentities (duplicates l) := by
  by_cases hn : (leaves l).Nodup
  · simp [checkUnique_of_nodup hn, hn]
  · simp [checkUnique_of_not_nodup hn, hn, eq_comm]

/-- What is reported as repeated is the only list that has for its members the identities of two or
more panes, each of them once, and is in the order of the second panes. It is empty, and both checks
accept the layout, exactly when no identity is repeated; the check that gives a reason gives all of
the list. -/
theorem duplicates_of_layout (l : Layout) :
    (∀ ids : List PaneId, ids = duplicates l ↔
      (∀ id, id ∈ ids ↔ 2 ≤ (leaves l).count id) ∧ ids.Nodup ∧
        ids.Pairwise (RepeatedBefore (leaves l))) ∧
    (duplicates l = [] ↔ (leaves l).Nodup) ∧
    (hasUniqueIdentities l = true ↔ (leaves l).Nodup) ∧
    (checkUnique l = .ok () ↔ (leaves l).Nodup) ∧
    (∀ e, checkUnique l = .error e ↔
      ¬ (leaves l).Nodup ∧ e = .duplicateIdentities (duplicates l)) := by
  refine ⟨?_, duplicates_eq_nil_iff l, hasUniqueIdentities_iff l, checkUnique_eq_ok_iff l,
    checkUnique_eq_error_iff l⟩
  have hn : (duplicates l).Nodup := nodup_repeatedFrom [] [] (leaves l)
  intro ids
  constructor
  · intro h
    rw [h]
    exact ⟨mem_duplicates_iff l, hn, duplicates_pairwise l⟩
  · intro ⟨hm, hu, hp⟩
    apply eq_of_pairwise_repeatedBefore hp (duplicates_pairwise l)
    apply (List.perm_ext_iff_of_nodup hu hn).mpr
    intro id
    rw [hm, mem_duplicates_iff]

/-- The first pane is the last one to be repeated. -/
example : repeatedFrom [] [] ["map", "log", "log", "map", "map", "radar"] = ["log", "map"] := by
  decide

end Layout
end Dashboard
