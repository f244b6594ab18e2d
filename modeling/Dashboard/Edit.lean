import Dashboard.Identity

/-!
# Editing layouts

The four edits: adding a pane beside the first one, splitting a given pane, removing panes, and
giving fresh identities to a template. Edits are functions from layouts to layouts; those that
make panes also take a source of tokens and return what is left of it. Splitting and removing tell
the parts in which nothing changes from those that have to be built anew, so that the former can be
shared with the layout before the edit.
-/
namespace Dashboard

namespace Node

/-- Divides the first pane into a row of itself and a new pane. -/
def splitFirst (new : PaneId) : Node → Node
  | .leaf id => .branch { direction := .row } (.leaf id) (.leaf new)
  | .branch split first second =>
      (Node.branch split first second).withFirst (first.splitFirst new)

/-- Divides every pane with the given identity into itself and a new pane; `none` if there is no
such pane, so that the node can stand as it is. -/
def splitMatching? (target : PaneId) (direction : Direction) (new : PaneId) : Node → Option Node
  | .leaf id => if id = target then some (.branch { direction } (.leaf id) (.leaf new)) else none
  | .branch split first second =>
      match first.splitMatching? target direction new,
        second.splitMatching? target direction new with
      | none, none => none
      | divided, divided' => some (.branch split (divided.getD first) (divided'.getD second))

end Node

/-- What becomes of a node when panes are removed from it. -/
inductive Pruned where
  /-- There is nothing to remove, so the node stands as it is. -/
  | kept
  /-- No pane is left. -/
  | gone
  /-- Another node takes the place. -/
  | replaced (node : Node)

/-- What is left of a node that has been pruned. -/
def Pruned.survivor : Pruned → Node → Option Node
  | .kept, original => some original
  | .gone, _ => none
  | .replaced node, _ => some node

namespace Node

/-- Removes every pane with the given identity. A branch that loses one part becomes the other
part; a node that loses all panes is gone. -/
def prune (id : PaneId) : Node → Pruned
  | .leaf other => if other = id then .gone else .kept
  | .branch split first second =>
      match first.prune id, second.prune id with
      | .kept, .kept => .kept
      | pruned, pruned' =>
          match pruned.survivor first, pruned'.survivor second with
          | none, none => .gone
          | some only, none | none, some only => .replaced only
          | some first, some second => .replaced (.branch split first second)

/-- Gives every pane a fresh identity, with its present text as the name of the widget, from the
first pane to the last. -/
def instantiate {σ : Type} [TokenSource σ] : Node → σ → Node × σ
  | .leaf id, tokens =>
      let (id, tokens) := PaneId.fresh id.text tokens
      (.leaf id, tokens)
  | .branch split first second, tokens =>
      let (first, tokens) := first.instantiate tokens
      let (second, tokens) := second.instantiate tokens
      (.branch split first second, tokens)

end Node

namespace Layout

variable {σ : Type} [TokenSource σ]

/-- Adds a pane beside the first one. One token is drawn in any case. -/
def insertFirst (l : Layout) (widget : String) (tokens : σ) : Layout × σ :=
  let (new, tokens) := PaneId.fresh widget tokens
  match l with
  | none => (some (.leaf new), tokens)
  | some n => (some (n.splitFirst new), tokens)

/-- Splits the pane `target` and puts a new pane after it. Without such a pane nothing changes,
and no token is drawn. -/
def insertAt (l : Layout) (target : PaneId) (widget : String) (direction : Direction)
    (tokens : σ) : Layout × σ :=
  match l with
  | none => (none, tokens)
  | some n =>
      if n.contains target then
        let (new, tokens) := PaneId.fresh widget tokens
        (some ((n.splitMatching? target direction new).getD n), tokens)
      else (some n, tokens)

/-- Removes a pane. Without such a pane nothing changes. -/
def remove (l : Layout) (id : PaneId) : Layout := l.bind fun n => (n.prune id).survivor n

/-- Gives every pane of a template a fresh identity. -/
def instantiate (template : Layout) (tokens : σ) : Layout × σ :=
  match template with
  | none => (none, tokens)
  | some n =>
      let (n, tokens) := n.instantiate tokens
      (some n, tokens)

end Layout
end Dashboard
