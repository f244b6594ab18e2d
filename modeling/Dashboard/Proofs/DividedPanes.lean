import Dashboard.Proofs.Divisions
import Dashboard.Proofs.EditedIdentities

/-!
# Dividing a pane

To split a pane is to put a branch in its place, with the pane first and a new one second. The new
pane comes to stand right after the old one, wherever that occurs. Any two panes are divided as the
panes are from which they have come: the new pane has come from the one that was split, and every
other pane from itself. Only the two panes of the new branch have come from the same one, and they
are divided by that branch.

A token is drawn exactly when the pane to be split is there, which is found out beforehand by a walk
through the layout. What the walk finds and what the edit replaces are the same panes.
-/
namespace Dashboard

section
variable (target new : PaneId)

theorem insertAfter_eq_flatMap (ids : List PaneId) :
    insertAfter target new ids =
      ids.flatMap fun id => if id = target then [id, new] else [id] := by
  induction ids with
  | nil => rfl
  | cons id ids ih =>
      rw [List.flatMap_cons, insertAfter, ih]
      split_ifs <;> rfl

/-- The pane from which a pane has come. -/
def PaneId.origin (id : PaneId) : PaneId := if id = new then target else id

theorem PaneId.origin_new : PaneId.origin target new new = target := if_pos rfl

theorem PaneId.origin_of_ne {id : PaneId} (h : id ≠ new) : PaneId.origin target new id = id :=
  if_neg h

end

namespace Node

section
variable {n : Node} {target new : PaneId} (hn : new ∉ n.identities) (direction : Direction)
include hn

/-- A pane is there once a pane has been split if the one from which it has come was there. -/
theorem mem_splitAt_iff (id : PaneId) :
    id ∈ (n.splitAt target direction new).identities ↔
      PaneId.origin target new id ∈ n.identities := by
  rw [identities_splitAt, mem_insertAfter_iff]
  by_cases h : id = new
  · subst h
    simp [hn, PaneId.origin_new]
  · simp [h, PaneId.origin_of_ne]

theorem division?_splitAt {a b : PaneId}
    (hab : PaneId.origin target new a ≠ PaneId.origin target new b) :
    (n.splitAt target direction new).division? a b =
      n.division? (PaneId.origin target new a) (PaneId.origin target new b) := by
  induction n with
  | leaf id =>
      -- the one pane that was there cannot be the origin of both
      apply division?_eq_none
      rintro ⟨ha, hb⟩
      rw [mem_splitAt_iff hn, identities, List.mem_singleton] at ha hb
      exact hab (ha.trans hb.symm)
  | branch split first second ih₁ ih₂ =>
      rw [identities, List.mem_append, not_or] at hn
      exact division?_branch_congr (mem_splitAt_iff hn.1 direction a)
        (mem_splitAt_iff hn.1 direction b) (mem_splitAt_iff hn.2 direction a)
        (mem_splitAt_iff hn.2 direction b) (ih₁ hn.1) (ih₂ hn.2)

/-- The new pane is divided from the others as the one that was split. -/
theorem division?_splitAt_new {a : PaneId} (ha : a ∈ n.identities) (hat : a ≠ target) :
    (n.splitAt target direction new).division? new a = n.division? target a := by
  have hn' := PaneId.origin_new target new
  have ho := PaneId.origin_of_ne target new fun h => hn (h ▸ ha)
  calc (n.splitAt target direction new).division? new a
      = n.division? (PaneId.origin target new new) (PaneId.origin target new a) :=
        division?_splitAt hn direction (by rw [hn', ho]; exact Ne.symm hat)
    _ = n.division? target a := by rw [hn', ho]

/-- Panes that have been there are divided as before. -/
theorem division?_splitAt_of_mem {a b : PaneId} (ha : a ∈ n.identities) (hb : b ∈ n.identities)
    (hab : a ≠ b) : (n.splitAt target direction new).division? a b = n.division? a b := by
  have hoa := PaneId.origin_of_ne target new fun h => hn (h ▸ ha)
  have hob := PaneId.origin_of_ne target new fun h => hn (h ▸ hb)
  calc (n.splitAt target direction new).division? a b
      = n.division? (PaneId.origin target new a) (PaneId.origin target new b) :=
        division?_splitAt hn direction (by rwa [hoa, hob])
    _ = n.division? a b := by rw [hoa, hob]

/-- The two panes of the new branch are divided by it. -/
theorem division?_splitAt_target (ht : target ∈ n.identities) :
    (n.splitAt target direction new).division? target new =
      some ⟨{ direction }, .first⟩ := by
  have hne : target ≠ new := fun h => hn (h ▸ ht)
  induction n with
  | leaf id =>
      rw [identities, List.mem_singleton] at ht
      subst ht
      rw [splitAt, if_pos rfl]
      exact division?_of_apart List.mem_cons_self List.mem_cons_self
        (fun h => hne (List.mem_singleton.mp h)) (fun h => hne (List.mem_singleton.mp h).symm)
  | branch split first second ih₁ ih₂ =>
      rw [identities, List.mem_append, not_or] at hn
      -- the new pane is in the part of the old one
      have ho := PaneId.origin_of_ne target new hne
      by_cases hf : target ∈ first.identities
      · rw [splitAt, division?_of_mem_first]
        · exact ih₁ hn.1 hf
        · rwa [mem_splitAt_iff hn.1, ho]
        · rwa [mem_splitAt_iff hn.1, PaneId.origin_new]
      · have hs : target ∈ second.identities := (List.mem_append.mp ht).resolve_left hf
        rw [splitAt, division?_of_mem_second]
        · exact ih₂ hn.2 hs
        · rw [mem_splitAt_iff hn.1, ho]
          exact fun h => hf h.1
        · rwa [mem_splitAt_iff hn.2, ho]
        · rwa [mem_splitAt_iff hn.2, PaneId.origin_new]

end
end Node

namespace Layout

section
variable {σ : Type} [TokenSource σ]

theorem insertAt_some_of_mem {n : Node} {target : PaneId} (h : target ∈ n.identities)
    (widget : String) (direction : Direction) (tokens : σ) :
    insertAt (some n) target widget direction tokens =
      (some (n.splitAt target direction (PaneId.fresh widget tokens).1),
        (PaneId.fresh widget tokens).2) := by
  rw [insertAt_some, if_pos ((n.contains_iff target).mpr h)]

/-- What splitting a pane does to the source of tokens, to the identities in sequence and to the
divisions. -/
theorem splitting_keeps_divisions (l : Layout) (target : PaneId) (widget : String)
    (direction : Direction) (tokens : σ) :
    (target ∉ leaves l → insertAt l target widget direction tokens = (l, tokens)) ∧
    (target ∈ leaves l →
      let new := PaneId.join widget (TokenSource.next tokens).1
      let result := insertAt l target widget direction tokens
      result.2 = (TokenSource.next tokens).2 ∧
      leaves result.1 = (leaves l).flatMap (fun id => if id = target then [id, new] else [id]) ∧
      (new ∉ leaves l →
        (∀ a ∈ leaves l, ∀ b ∈ leaves l, a ≠ b →
          ∃ d, division? l a b = some d ∧ division? result.1 a b = some d) ∧
        division? result.1 target new = some ⟨⟨direction, none⟩, .first⟩ ∧
        ∀ a ∈ leaves l, a ≠ target →
          ∃ d, division? l target a = some d ∧ division? result.1 target a = some d ∧
            division? result.1 new a = some d)) := by
  refine ⟨fun h => insertAt_of_notMem h widget direction tokens, ?_⟩
  intro ht new result
  obtain ⟨hl, hr⟩ := insertAt_of_mem ht widget direction tokens
  refine ⟨hr, hl.trans (insertAfter_eq_flatMap target new (leaves l)), ?_⟩
  intro hn
  cases l with
  | none => exact (List.not_mem_nil ht).elim
  | some n =>
      rw [leaves_some] at ht hn ⊢
      have hs : result.1 = some (n.splitAt target direction new) := by
        simp only [result, insertAt_some_of_mem ht]
        rfl
      rw [hs]
      refine ⟨?_, Node.division?_splitAt_target hn direction ht, ?_⟩
      · intro a ha b hb hab
        obtain ⟨d, hd⟩ := Node.exists_division? hab ha hb
        exact ⟨d, hd, (Node.division?_splitAt_of_mem hn direction ha hb hab).trans hd⟩
      · intro a ha hat
        obtain ⟨d, hd⟩ := Node.exists_division? (Ne.symm hat) ht ha
        exact ⟨d, hd, (Node.division?_splitAt_of_mem hn direction ht ha (Ne.symm hat)).trans hd,
          (Node.division?_splitAt_new hn direction ha hat).trans hd⟩

end

/-- Two panes, one above the other. -/
def twoPanes : Layout :=
  some (.branch ⟨.column, some 60.0⟩ (.leaf ⟨"map#1"⟩) (.leaf ⟨"log#2"⟩))

/-- The pane above is split into a row. The new one is in the same place as far as the pane below
is concerned. -/
theorem splitting_keeps_divisions_twoPanes :
    let result := insertAt twoPanes ⟨"map#1"⟩ "log" .row ({} : ScriptedTokens)
    insertAt twoPanes ⟨"map#3"⟩ "log" .row ({} : ScriptedTokens) = (twoPanes, {}) ∧
      leaves result.1 = [⟨"map#1"⟩, ⟨"log#000001"⟩, ⟨"log#2"⟩] ∧
      division? result.1 ⟨"map#1"⟩ ⟨"log#000001"⟩ = some ⟨⟨.row, none⟩, .first⟩ ∧
      ∃ d, division? twoPanes ⟨"map#1"⟩ ⟨"log#2"⟩ = some d ∧
        division? result.1 ⟨"map#1"⟩ ⟨"log#2"⟩ = some d ∧
        division? result.1 ⟨"log#000001"⟩ ⟨"log#2"⟩ = some d := by
  intro result
  have hl : leaves twoPanes = [⟨"map#1"⟩, ⟨"log#2"⟩] := leaves_some _
  have hj : PaneId.join "log" (TokenSource.next ({} : ScriptedTokens)).1 = ⟨"log#000001"⟩ := by
    decide +kernel
  obtain ⟨hn, -⟩ := splitting_keeps_divisions twoPanes ⟨"map#3"⟩ "log" .row ({} : ScriptedTokens)
  obtain ⟨-, hs⟩ := splitting_keeps_divisions twoPanes ⟨"map#1"⟩ "log" .row ({} : ScriptedTokens)
  rw [hl] at hn hs
  obtain ⟨-, hr, hd⟩ := hs (by decide)
  rw [hj] at hr hd
  obtain ⟨-, ht, ho⟩ := hd (by decide)
  exact ⟨hn (by decide), hr, ht, ho _ (by decide) (by decide)⟩

end Layout
end Dashboard
