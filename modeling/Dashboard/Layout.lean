import Dashboard.Pane

/-!
# Layouts

A layout is a binary tree of panes. Every branch divides its space between two parts, in a
direction and perhaps at a percentage. A dashboard may also be empty, which is a layout of its own
and not a node.

The identities of a layout are listed in two ways. `Node.identities` is the recursive definition.
The operations of the library walk through a tree with an explicit stack of the parts still to
visit (`Traversal`), one pane at a time.
-/
namespace Dashboard

/-- The axis along which a branch divides its space. -/
inductive Direction where
  /-- Side by side. -/
  | row
  /-- One above the other. -/
  | column
deriving DecidableEq, Repr

instance : Named Direction where
  all := [.row, .column]
  name
    | .row => "row"
    | .column => "column"

/-- How a branch divides its space: the direction, and the share of the first part in percent. -/
structure Split where
  direction : Direction := .row
  percentage : Option Float := none
deriving BEq, Repr

/-- A part of a layout that is not empty. The equality test `==` compares percentages as floats,
so that a part with the percentage NaN differs from itself. -/
inductive Node where
  | leaf (id : PaneId)
  | branch (split : Split) (first second : Node)
deriving BEq, Repr

/-- The layout of a dashboard; `none` is the empty one. -/
abbrev Layout := Option Node

namespace Node

/-- The identities of the panes, those of the first part before those of the second. -/
def identities : Node → List PaneId
  | .leaf id => [id]
  | .branch _ first second => first.identities ++ second.identities

/-- Sets the percentage of a branch. A single pane is left as it is. -/
def withPercentage : Node → Float → Node
  | .leaf id, _ => .leaf id
  | .branch split first second, percentage =>
      .branch { split with percentage := some percentage } first second

/-- Replaces the first part of a branch. A single pane is left as it is. -/
def withFirst : Node → Node → Node
  | .leaf id, _ => .leaf id
  | .branch split _ second, first => .branch split first second

end Node

/-- A walk through a tree: the parts still to visit, the next one on top. -/
structure Traversal where
  stack : List Node

namespace Traversal

def ofNode (n : Node) : Traversal := ⟨[n]⟩

/-- Goes down to the first pane of a node and leaves the second parts on the way for later. -/
def descend : Node → List Node → PaneId × Traversal
  | .leaf id, stack => (id, ⟨stack⟩)
  | .branch _ first second, stack => descend first (second :: stack)

/-- The next pane, and the rest of the walk. -/
def next? (t : Traversal) : Option (PaneId × Traversal) :=
  match t.stack with
  | [] => none
  | n :: stack => some (descend n stack)

/-- The panes still to come, by the recursive definition. -/
def remaining (t : Traversal) : List PaneId := t.stack.flatMap Node.identities

/-- What comes next is the head of what remains. -/
theorem descend_remaining (n : Node) (stack : List Node) :
    (descend n stack).1 :: (descend n stack).2.remaining =
      n.identities ++ stack.flatMap Node.identities := by
  induction n generalizing stack with
  | leaf id => rfl
  | branch split first second ih _ =>
      rw [descend, ih]
      simp [Node.identities]

theorem next?_remaining {t rest : Traversal} {id : PaneId} (h : t.next? = some (id, rest)) :
    t.remaining = id :: rest.remaining := by
  obtain ⟨_ | ⟨n, stack⟩⟩ := t
  · simp [next?] at h
  · have hd := descend_remaining n stack
    simp only [next?, Option.some.injEq] at h
    rw [h] at hd
    simpa [remaining] using hd.symm

/-- All panes of a walk, one step after the other. The walk ends because every step leaves one
pane less. -/
def toList (t : Traversal) : List PaneId :=
  match _h : t.next? with
  | none => []
  | some (id, rest) => id :: rest.toList
termination_by t.remaining.length
decreasing_by
  rw [next?_remaining _h]
  exact Nat.lt_succ_self _

end Traversal

namespace Node

/-- The identities of the panes in the order in which a walk visits them. -/
def leaves (n : Node) : List PaneId := (Traversal.ofNode n).toList

def paneCount (n : Node) : Nat := n.leaves.length

/-- Whether a pane with the given identity is there. -/
def contains (n : Node) (id : PaneId) : Bool := n.leaves.any (· = id)

end Node

namespace Layout

def leaves : Layout → List PaneId
  | none => []
  | some n => n.leaves

def paneCount (l : Layout) : Nat := (leaves l).length

def panes (l : Layout) : List Pane := (leaves l).map Pane.ofId

end Layout
end Dashboard
