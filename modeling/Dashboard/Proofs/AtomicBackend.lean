import Dashboard.KeyValueStore

/-!
# Backends that fail as a whole

An operation of a backend may fail, and in general nothing is known of what it then leaves behind.
Here are the backends in which a failed operation changes nothing. The store in memory is one of
them, and watching a backend, or making some of its operations fail, keeps the property.
-/
namespace Dashboard

/-- A backend whose operations either do what is asked for or leave everything as it was. -/
class AtomicBackend (β : Type) [KeyValueStore β] where
  /-- The text that is kept under a key. -/
  held : β → String → Option String
  answer_get : ∀ {key : String} {b : β} {text : Option String},
    (KeyValueStore.get key b).1 = .ok text → text = held b key
  held_get : ∀ (key : String) (b : β), held (KeyValueStore.get key b).2 = held b
  held_set : ∀ (key value : String) (b : β),
    held (KeyValueStore.set key value b).2 =
      match (KeyValueStore.set key value b).1 with
      | .ok () => fun k => if k = key then some value else held b k
      | .error _ => held b
  held_remove : ∀ (key : String) (b : β),
    held (KeyValueStore.remove key b).2 =
      match (KeyValueStore.remove key b).1 with
      | .ok () => fun k => if k = key then none else held b k
      | .error _ => held b

/-- A backend none of whose operations fails. -/
class ReliableBackend (β : Type) [KeyValueStore β] [AtomicBackend β] : Prop where
  get_succeeds : ∀ (key : String) (b : β), ∃ text, (KeyValueStore.get key b).1 = .ok text
  set_succeeds : ∀ (key value : String) (b : β), (KeyValueStore.set key value b).1 = .ok ()
  remove_succeeds : ∀ (key : String) (b : β), (KeyValueStore.remove key b).1 = .ok ()

open AtomicBackend

instance : AtomicBackend MemoryStore where
  held := MemoryStore.entries
  answer_get h := (Except.ok.inj h).symm
  held_get _ _ := rfl
  held_set _ _ _ := rfl
  held_remove _ _ := rfl

instance : ReliableBackend MemoryStore where
  get_succeeds _ _ := ⟨_, rfl⟩
  set_succeeds _ _ _ := rfl
  remove_succeeds _ _ := rfl

namespace Watched

variable {α β : Type}

@[simp] theorem calls_perform (w : Watched β) (call : Call)
    (operation : β → Except PersistError α × β) :
    (w.perform call operation).2.calls = w.calls ++ [call] := by
  unfold perform
  dsimp only
  split <;> rfl

/-- An operation that is made to fail does not reach the backend behind. -/
theorem perform_cases (w : Watched β) (call : Call) (operation : β → Except PersistError α × β) :
    ((w.perform call operation).1 = .error failure ∧
      (w.perform call operation).2.backend = w.backend) ∨
    ((w.perform call operation).1 = (operation w.backend).1 ∧
      (w.perform call operation).2.backend = (operation w.backend).2) := by
  unfold perform
  dsimp only
  split
  · exact .inl ⟨rfl, rfl⟩
  · exact .inr ⟨rfl, rfl⟩

variable [KeyValueStore β]

@[simp] theorem calls_get (w : Watched β) (key : String) :
    (KeyValueStore.get key w).2.calls = w.calls ++ [.get key] := w.calls_perform _ _

@[simp] theorem calls_set (w : Watched β) (key value : String) :
    (KeyValueStore.set key value w).2.calls = w.calls ++ [.set key value] := w.calls_perform _ _

@[simp] theorem calls_remove (w : Watched β) (key : String) :
    (KeyValueStore.remove key w).2.calls = w.calls ++ [.remove key] := w.calls_perform _ _

instance [AtomicBackend β] : AtomicBackend (Watched β) where
  held w := held w.backend
  answer_get {key w text} h := by
    rcases w.perform_cases (.get key) (KeyValueStore.get key) with ⟨ha, -⟩ | ⟨ha, -⟩
    · cases h.symm.trans ha
    · exact answer_get (ha.symm.trans h)
  held_get key w := by
    rcases w.perform_cases (.get key) (KeyValueStore.get key) with ⟨-, hb⟩ | ⟨-, hb⟩
    · exact congrArg held hb
    · exact (congrArg held hb).trans (held_get key w.backend)
  held_set key value w := by
    rcases w.perform_cases (.set key value) (KeyValueStore.set key value) with
      ⟨ha, hb⟩ | ⟨ha, hb⟩
    · have h : (KeyValueStore.set key value w).1 = .error failure := ha
      rw [h]
      exact congrArg held hb
    · have h : (KeyValueStore.set key value w).1 = (KeyValueStore.set key value w.backend).1 := ha
      rw [h]
      exact (congrArg held hb).trans (held_set key value w.backend)
  held_remove key w := by
    rcases w.perform_cases (.remove key) (KeyValueStore.remove key) with ⟨ha, hb⟩ | ⟨ha, hb⟩
    · have h : (KeyValueStore.remove key w).1 = .error failure := ha
      rw [h]
      exact congrArg held hb
    · have h : (KeyValueStore.remove key w).1 = (KeyValueStore.remove key w.backend).1 := ha
      rw [h]
      exact (congrArg held hb).trans (held_remove key w.backend)

end Watched
end Dashboard
