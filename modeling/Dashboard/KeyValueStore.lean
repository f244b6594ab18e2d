import Dashboard.Path
import Dashboard.Quotation

/-!
# Key-value stores

What a dashboard keeps from one session to the next are texts under well-known keys. A backend is
a state with three operations. Every operation returns the state that it leaves behind, whether it
succeeds or not; a backend promises nothing about a failed operation unless its own definition
says so.
-/
namespace Dashboard

/-- Why an operation of a backend failed. -/
inductive PersistError where
  /-- The place behind the key cannot be accessed. -/
  | inaccessible (path : Path)
  /-- The key cannot be used with this backend. -/
  | invalidKey (key : String)
deriving DecidableEq, Repr

namespace PersistError

def message : PersistError → String
  | .inaccessible path => "failed to access " ++ path.text
  | .invalidKey key => "invalid persistence key " ++ Quotation.quote key

end PersistError

/-- A backend that keeps texts under keys. -/
class KeyValueStore (β : Type) where
  /-- The text under a key, if there is one. -/
  get : String → β → Except PersistError (Option String) × β
  /-- Replaces the text under a key. -/
  set : String → String → β → Except PersistError Unit × β
  /-- Removes the text under a key; that there is none is no failure. -/
  remove : String → β → Except PersistError Unit × β

/-- A backend in memory, for sessions that leave nothing behind. It accepts every key and never
fails. -/
structure MemoryStore where
  entries : String → Option String := fun _ => none

namespace MemoryStore

def single (key value : String) : MemoryStore := ⟨fun k => if k = key then some value else none⟩

instance : KeyValueStore MemoryStore where
  get key s := (.ok (s.entries key), s)
  set key value s := (.ok (), ⟨fun k => if k = key then some value else s.entries k⟩)
  remove key s := (.ok (), ⟨fun k => if k = key then none else s.entries k⟩)

end MemoryStore

/-- An operation of a backend, as it was asked for. -/
inductive Call where
  | get (key : String)
  | set (key value : String)
  | remove (key : String)
deriving DecidableEq, Repr

/-- A backend that is watched and may be made to fail. Every operation is recorded. An operation
that `fails` selects, by its number and by what it is, does not reach the backend behind. -/
structure Watched (β : Type) where
  backend : β
  fails : Nat → Call → Bool := fun _ _ => false
  /-- The operations so far, oldest first. -/
  calls : List Call := []

namespace Watched

/-- The failure of an operation that is made to fail. -/
def failure : PersistError := .inaccessible ⟨"flaky"⟩

/-- Records an operation and carries it out unless it is made to fail. -/
def perform {α β : Type} (w : Watched β) (call : Call)
    (operation : β → Except PersistError α × β) : Except PersistError α × Watched β :=
  let recorded := { w with calls := w.calls ++ [call] }
  if w.fails w.calls.length call then (.error failure, recorded)
  else
    let (answer, backend) := operation w.backend
    (answer, { recorded with backend })

instance {β : Type} [KeyValueStore β] : KeyValueStore (Watched β) where
  get key w := w.perform (.get key) (KeyValueStore.get key)
  set key value w := w.perform (.set key value) (KeyValueStore.set key value)
  remove key w := w.perform (.remove key) (KeyValueStore.remove key)

end Watched

/-- Of two kinds of backends, either one. -/
instance {β γ : Type} [KeyValueStore β] [KeyValueStore γ] : KeyValueStore (β ⊕ γ) where
  get key
    | .inl b => ((KeyValueStore.get key b).1, .inl (KeyValueStore.get key b).2)
    | .inr c => ((KeyValueStore.get key c).1, .inr (KeyValueStore.get key c).2)
  set key value
    | .inl b => ((KeyValueStore.set key value b).1, .inl (KeyValueStore.set key value b).2)
    | .inr c => ((KeyValueStore.set key value c).1, .inr (KeyValueStore.set key value c).2)
  remove key
    | .inl b => ((KeyValueStore.remove key b).1, .inl (KeyValueStore.remove key b).2)
    | .inr c => ((KeyValueStore.remove key c).1, .inr (KeyValueStore.remove key c).2)

end Dashboard
