import Dashboard.Edit
import Dashboard.LayoutError
import Dashboard.Preset
import Mathlib.Data.List.Nodup

/-!
# Identities of a layout

The walk through a layout visits the panes of the recursive definition, in its order. The check for
repeated identities accepts exactly the layouts whose panes have identities of their own.

A template is installed without this check. What speaks for it is not the source of tokens, which
may repeat itself and may yield any text: a fresh identity keeps the name of its widget whatever
the token is, and within each built-in template the names differ.
-/
namespace Dashboard

/-! ## The walk -/

namespace Traversal

theorem remaining_ofNode (n : Node) : (ofNode n).remaining = n.identities :=
  List.append_nil n.identities

/-- A walk is over only when nothing remains of it. -/
theorem remaining_of_next?_eq_none {t : Traversal} (h : t.next? = none) : t.remaining = [] := by
  obtain ⟨_ | ⟨n, stack⟩⟩ := t
  · rfl
  · cases h

/-- A walk visits what remains of it. -/
theorem toList_eq_remaining (t : Traversal) : t.toList = t.remaining := by
  fun_induction toList t with
  | case1 t hn => exact (remaining_of_next?_eq_none hn).symm
  | case2 t id rest hn ih => rw [next?_remaining hn, ih]

end Traversal

namespace Node

@[simp] theorem leaves_eq_identities (n : Node) : n.leaves = n.identities := by
  rw [leaves, Traversal.toList_eq_remaining, Traversal.remaining_ofNode]

/-- The pane at the end of the first parts. -/
def firstPane : Node → PaneId
  | .leaf id => id
  | .branch _ first _ => first.firstPane

theorem identities_eq_cons (n : Node) : n.identities = n.firstPane :: n.identities.tail := by
  induction n with
  | leaf id => rfl
  | branch split first second ih _ =>
      rw [identities, firstPane, ih]
      rfl

theorem splitFirst_branch (split : Split) (first second : Node) (new : PaneId) :
    (branch split first second).splitFirst new = branch split (first.splitFirst new) second := rfl

/-- Dividing the first pane puts the new one right after it. -/
theorem identities_splitFirst_eq (n : Node) (new : PaneId) :
    (n.splitFirst new).identities = n.firstPane :: new :: n.identities.tail := by
  induction n with
  | leaf id => rfl
  | branch split first second ih _ =>
      rw [splitFirst_branch, identities, ih, identities, firstPane, first.identities_eq_cons]
      rfl

theorem identities_splitFirst (n : Node) (new : PaneId) :
    (n.splitFirst new).identities.Perm (new :: n.identities) := by
  rw [identities_splitFirst_eq, n.identities_eq_cons]
  exact List.Perm.swap new n.firstPane n.identities.tail

end Node

namespace Layout

@[simp] theorem leaves_none : leaves none = [] := rfl

@[simp] theorem leaves_some (n : Node) : leaves (some n) = n.identities :=
  n.leaves_eq_identities

end Layout

/-! ## Repeated identities -/

/-- The first element that has been seen is reported, so nothing is reported only if no element
repeats another or one of those seen before. -/
theorem repeatedFrom_eq_nil_iff {α : Type} [DecidableEq α] (seen xs : List α) :
    repeatedFrom seen [] xs = [] ↔ xs.Nodup ∧ ∀ x ∈ xs, x ∉ seen := by
  induction xs generalizing seen with
  | nil => simp [repeatedFrom]
  | cons x xs ih =>
      by_cases hx : x ∈ seen
      -- an element seen before is reported at once, and both sides are false
      · have hr : repeatedFrom seen [] (x :: xs) ≠ [] := by simp [repeatedFrom, hx]
        have hs : ¬ ∀ y ∈ x :: xs, y ∉ seen := fun h => h x List.mem_cons_self hx
        tauto
      · have hr : repeatedFrom seen [] (x :: xs) = repeatedFrom (x :: seen) [] xs := by
          simp [repeatedFrom, hx]
        rw [hr, ih, List.nodup_cons]
        constructor
        · rintro ⟨hn, hs⟩
          refine ⟨⟨fun hm => hs x hm List.mem_cons_self, hn⟩, ?_⟩
          intro y hy
          rcases List.mem_cons.mp hy with rfl | hy
          · exact hx
          · exact fun hm => hs y hy (List.mem_cons_of_mem _ hm)
        · rintro ⟨⟨hm, hn⟩, hs⟩
          refine ⟨hn, ?_⟩
          intro y hy hc
          rcases List.mem_cons.mp hc with rfl | hc
          · exact hm hy
          · exact hs y (List.mem_cons_of_mem _ hy) hc

namespace Layout

theorem duplicates_eq_nil_iff (l : Layout) : duplicates l = [] ↔ (leaves l).Nodup := by
  simp [duplicates, repeatedFrom_eq_nil_iff]

theorem checkUnique_of_nodup {l : Layout} (h : (leaves l).Nodup) : checkUnique l = .ok () := by
  simp [checkUnique, (duplicates_eq_nil_iff l).mpr h]

theorem checkUnique_of_not_nodup {l : Layout} (h : ¬ (leaves l).Nodup) :
    checkUnique l = .error (.duplicateIdentities (duplicates l)) := by
  simp [checkUnique, mt (duplicates_eq_nil_iff l).mp h]

theorem nodup_of_checkUnique {l : Layout} {u : Unit} (h : checkUnique l = .ok u) :
    (leaves l).Nodup := by
  by_contra hn
  rw [checkUnique_of_not_nodup hn] at h
  cases h

end Layout

/-! ## Fresh identities -/

namespace PaneId

/-- A token does not change what stands before the first delimiter. -/
@[simp] theorem widgetName_join (widget token : String) :
    (join widget token).widgetName = (⟨widget⟩ : PaneId).widgetName := by
  have hd : identityDelimiter.toString.toList = [identityDelimiter] := by decide
  unfold widgetName join
  simp only [String.toList_append, hd, List.append_assoc]
  congr 1
  induction widget.toList with
  | nil => simp
  | cons c cs ih =>
      by_cases hc : c = identityDelimiter
      · simp [hc]
      · simpa [hc] using ih

end PaneId

namespace Node

variable {σ : Type} [TokenSource σ]

/-- Instantiating a template keeps the sequence of widget names, for every source of tokens. -/
theorem instantiate_widgetNames (n : Node) (tokens : σ) :
    (n.instantiate tokens).1.identities.map PaneId.widgetName =
      n.identities.map PaneId.widgetName := by
  induction n generalizing tokens with
  | leaf id => simp [instantiate, identities, PaneId.fresh]
  | branch split first second ih₁ ih₂ =>
      simp only [instantiate, identities, List.map_append]
      rw [ih₁ tokens, ih₂ (first.instantiate tokens).2]

end Node

namespace Layout

variable {σ : Type} [TokenSource σ]

theorem instantiate_widgetNames (template : Layout) (tokens : σ) :
    (leaves (instantiate template tokens).1).map PaneId.widgetName =
      (leaves template).map PaneId.widgetName := by
  cases template with
  | none => rfl
  | some n => simpa [instantiate] using n.instantiate_widgetNames tokens

/-- Where the widget names of a template differ, its panes get different identities even from a
source that repeats its tokens. -/
theorem instantiate_nodup {template : Layout}
    (h : ((leaves template).map PaneId.widgetName).Nodup) (tokens : σ) :
    (leaves (instantiate template tokens).1).Nodup := by
  rw [← instantiate_widgetNames template tokens] at h
  exact h.of_map

end Layout

namespace Preset

theorem template_widgetNames_nodup (p : Preset) :
    ((Layout.leaves p.template).map PaneId.widgetName).Nodup := by
  cases p <;>
    simp only [template, column, row, widget, Layout.leaves_some, Node.identities] <;>
    decide

/-- A preset never brings two panes of one identity. -/
theorem instantiate_nodup {σ : Type} [TokenSource σ] (p : Preset) (tokens : σ) :
    (Layout.leaves (Layout.instantiate p.template tokens).1).Nodup :=
  Layout.instantiate_nodup p.template_widgetNames_nodup tokens

end Preset
end Dashboard
