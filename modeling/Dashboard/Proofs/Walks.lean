import Dashboard.Proofs.EditedIdentities
import Dashboard.Store

/-!
# Walks over a stack

A call for the next pane is a loop over the stack. Each round takes the part on top; a pane ends the
call, and a branch is replaced with its two parts, the first one on top. A round can make the stack
longer, so what makes the loop end is not the stack but the size of the stacked parts, of which every
round takes one.

At every point of a walk the stack tells what is still to come: the identities of the stacked parts,
from the top down. From the first call on these are the identities of the recursive definition less
those handed out, and all that is counted, looked for or shown of a layout goes by this sequence.
-/
namespace Dashboard

/-- The number of panes and branches. -/
def Node.size : Node → Nat
  | .leaf _ => 1
  | .branch _ first second => first.size + second.size + 1

namespace Traversal

/-! ## The loop of a call -/

/-- The number of panes and branches that the stacked parts have together. -/
def size (t : Traversal) : Nat := t.stack.foldr (fun n rest => n.size + rest) 0

/-- One round of the loop: the pane that it hands out, if it does, and the walk that it leaves. There
is no round when the stack is empty. -/
def round? (t : Traversal) : Option (Option PaneId × Traversal) :=
  match t.stack with
  | [] => none
  | .leaf id :: stack => some (some id, ⟨stack⟩)
  | .branch _ first second :: stack => some (none, ⟨first :: second :: stack⟩)

/-- The loop of a call, with the number of its rounds and the answer to which it comes. -/
inductive Loop : Traversal → Nat → Option (PaneId × Traversal) → Prop
  | empty {t : Traversal} : t.round? = none → Loop t 0 none
  | pane {t rest : Traversal} {id : PaneId} :
      t.round? = some (some id, rest) → Loop t 1 (some (id, rest))
  | branch {t rest : Traversal} {rounds : Nat} {answer : Option (PaneId × Traversal)} :
      t.round? = some (none, rest) → Loop rest rounds answer → Loop t (rounds + 1) answer

theorem size_round {t rest : Traversal} {id? : Option PaneId}
    (h : t.round? = some (id?, rest)) : t.size = rest.size + 1 := by
  obtain ⟨_ | ⟨_ | ⟨split, first, second⟩, stack⟩⟩ := t
  · cases h
  · cases h
    exact Nat.add_comm 1 _
  · cases h
    simp only [size, List.foldr_cons, Node.size]
    omega

/-- What a call answers, from its first round. -/
theorem next?_eq (t : Traversal) :
    t.next? =
      match t.round? with
      | none => none
      | some (some id, rest) => some (id, rest)
      | some (none, rest) => rest.next? := by
  obtain ⟨_ | ⟨_ | _, stack⟩⟩ := t <;> rfl

theorem Loop.answer_eq {t : Traversal} {rounds : Nat} {answer : Option (PaneId × Traversal)}
    (h : t.Loop rounds answer) : answer = t.next? := by
  induction h with
  | empty hr => rw [next?_eq, hr]
  | pane hr => rw [next?_eq, hr]
  | branch hr _ ih =>
      rw [next?_eq, hr]
      exact ih

/-- The loop ends, and has no more rounds than the stacked parts have panes and branches. -/
theorem exists_loop (t : Traversal) : ∃ rounds, rounds ≤ t.size ∧ t.Loop rounds t.next? := by
  induction hs : t.size using Nat.strongRecOn generalizing t with
  | _ size ih =>
      -- one round takes one of the size, whether it ends the loop or puts two parts on the stack
      subst hs
      rw [next?_eq]
      match hr : t.round? with
      | none => exact ⟨0, Nat.zero_le _, .empty hr⟩
      | some (some id, rest) =>
          have hs := size_round hr
          exact ⟨1, by omega, .pane hr⟩
      | some (none, rest) =>
          have hs := size_round hr
          obtain ⟨rounds, hle, hl⟩ := ih rest.size (by omega) rest rfl
          exact ⟨rounds + 1, by omega, .branch hr hl⟩

theorem loop_iff (t : Traversal) (answer : Option (PaneId × Traversal)) :
    (∃ rounds, rounds ≤ t.size ∧ t.Loop rounds answer) ↔ answer = t.next? := by
  constructor
  · intro ⟨rounds, _, hl⟩
    exact hl.answer_eq
  · intro h
    rw [h]
    exact t.exists_loop

/-! ## Calls in sequence -/

/-- What a number of calls leaves of a walk. A walk that is over stays as it is. -/
def after : Nat → Traversal → Traversal
  | 0, t => t
  | calls + 1, t =>
      match t.next? with
      | none => t
      | some (_, rest) => after calls rest

/-- A call answers with the first of what remains. -/
theorem map_fst_next? (t : Traversal) : t.next?.map Prod.fst = t.remaining.head? := by
  match hn : t.next? with
  | none =>
      rw [remaining_of_next?_eq_none hn]
      rfl
  | some (id, rest) =>
      rw [next?_remaining hn]
      rfl

/-- Every call takes one pane of what remains. -/
theorem remaining_after (calls : Nat) (t : Traversal) :
    (t.after calls).remaining = t.remaining.drop calls := by
  induction calls generalizing t with
  | zero => rfl
  | succ calls ih =>
      unfold after
      match hn : t.next? with
      | none => rw [remaining_of_next?_eq_none hn, List.drop_nil]
      | some (id, rest) =>
          rw [next?_remaining hn, List.drop_succ_cons]
          exact ih rest

theorem map_fst_next?_after (calls : Nat) (t : Traversal) :
    (t.after calls).next?.map Prod.fst = t.remaining[calls]? := by
  rw [map_fst_next?, remaining_after, List.head?_drop]

theorem toList_after (calls : Nat) (t : Traversal) :
    (t.after calls).toList = t.remaining.drop calls := by
  rw [toList_eq_remaining, remaining_after]

end Traversal

/-! ## Layouts -/

theorem Node.paneCount_eq (n : Node) : n.paneCount = n.identities.length :=
  congrArg List.length n.leaves_eq_identities

namespace Layout

/-- The identities of the panes by the recursive definition. -/
def identities : Layout → List PaneId
  | none => []
  | some n => n.identities

theorem leaves_eq_identities (l : Layout) : leaves l = identities l := by
  cases l with
  | none => rfl
  | some n => exact leaves_some n

theorem paneCount_eq (l : Layout) : paneCount l = (identities l).length :=
  congrArg List.length (leaves_eq_identities l)

theorem panes_eq (l : Layout) : panes l = (identities l).map Pane.ofId :=
  congrArg (List.map Pane.ofId) (leaves_eq_identities l)

theorem map_id_panes (l : Layout) : (panes l).map Pane.id = identities l := by
  rw [panes_eq, List.map_map]
  exact List.map_id (identities l)

theorem length_panes (l : Layout) : (panes l).length = paneCount l :=
  List.length_map Pane.ofId

/-- The loop of a call ends, on every stack, and comes to what the walk answers. After any number of
calls a walk through a node answers with the pane that the recursive definition has at this place,
and what is still to come are the identities of the stacked parts, from the top down. So a walk
visits the panes of the recursive definition in their order, and what is counted, looked for or
shown of a layout is what this definition says. -/
theorem walk_of_layout {σ β : Type} [TokenSource σ] [KeyValueStore β] (t : Traversal) (n : Node)
    (l : Layout) (view : View) (s : Store σ β) :
    (∀ answer : Option (PaneId × Traversal),
      (∃ rounds, rounds ≤ t.size ∧ t.Loop rounds answer) ↔ answer = t.next?) ∧
    (∀ calls : Nat,
      let rest := (Traversal.ofNode n).after calls
      rest.next?.map Prod.fst = n.identities[calls]? ∧
        rest.toList = rest.stack.flatMap Node.identities ∧
        rest.toList = n.identities.drop calls) ∧
    (n.leaves = n.identities ∧ n.paneCount = n.identities.length ∧
      ∀ id, n.contains id = true ↔ id ∈ n.identities) ∧
    (paneCount l = (identities l).length ∧ panes l = (identities l).map Pane.ofId) ∧
    (let data := StateData.ofLayout view l
     data.panes = (identities l).map Pane.ofId ∧ data.panes.map Pane.id = identities l ∧
      data.paneCount = data.panes.length) ∧
    (s.panes = (identities s.layout).map Pane.ofId ∧ s.stateData.panes = s.panes ∧
      s.stateData.paneCount = s.panes.length) := by
  refine ⟨t.loop_iff, ?_, ?_, ?_, ?_, ?_⟩
  · intro calls rest
    refine ⟨?_, rest.toList_eq_remaining, ?_⟩
    · rw [Traversal.map_fst_next?_after, Traversal.remaining_ofNode]
    · rw [Traversal.toList_after, Traversal.remaining_ofNode]
  · exact ⟨n.leaves_eq_identities, n.paneCount_eq, n.contains_iff⟩
  · exact ⟨paneCount_eq l, panes_eq l⟩
  · exact ⟨panes_eq l, map_id_panes l, (length_panes l).symm⟩
  · exact ⟨panes_eq s.layout, rfl, (length_panes s.layout).symm⟩

/-- After one call the second part of the root lies under the second part of the first branch. -/
example (a b c : PaneId) :
    ((Traversal.ofNode
      (.branch {} (.branch {} (.leaf a) (.leaf b)) (.leaf c))).after 1).stack =
        [.leaf b, .leaf c] := rfl

end Layout
end Dashboard
