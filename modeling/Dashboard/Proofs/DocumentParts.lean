import Dashboard.JsonReader
import Mathlib.Data.List.Nodup

/-!
# The parts of a document

A document has parts: itself, and the parts of its items and members. Two facts are said of all
parts at once. A spelled document has no value exactly when one of its parts cannot have one where
it stands; this is the only use of the depth of a part. And after the last of every repeated key
has won, no object in the document repeats a key.

What holds of a document as soon as it holds of its items and members is proved by
`Json.partInduction`, so that no proof has to follow the lists inside of a document.
-/
namespace Dashboard.Json

/-- Induction over a document, with a hypothesis for every item and member. -/
@[elab_as_elim]
theorem partInduction {τ : Type} {motive : Json τ → Prop} (null : motive .null)
    (bool : ∀ b, motive (.bool b)) (number : ∀ l, motive (.number l))
    (text : ∀ t, motive (.text t))
    (array : ∀ items, (∀ j ∈ items, motive j) → motive (.array items))
    (object : ∀ members, (∀ m ∈ members, motive m.2) → motive (.object members))
    (j : Json τ) : motive j :=
  @Json.rec τ motive (fun items => ∀ j ∈ items, motive j) (fun members => ∀ m ∈ members, motive m.2)
    (fun m => motive m.2) null bool number text array object
    (fun _ h => (List.not_mem_nil h).elim)
    (fun _ _ hj hi => List.forall_mem_cons.mpr ⟨hj, hi⟩)
    (fun _ h => (List.not_mem_nil h).elim)
    (fun _ _ hm hs => List.forall_mem_cons.mpr ⟨hm, hs⟩)
    (fun _ _ hj => hj) j

/-- A part of a document, with the number of arrays and objects around it. -/
inductive PartAt {τ : Type} : Nat → Json τ → Json τ → Prop
  | whole {j : Json τ} : PartAt 0 j j
  | item {depth : Nat} {part j : Json τ} {items : List (Json τ)} :
      j ∈ items → PartAt depth part j → PartAt (depth + 1) part (.array items)
  | member {depth : Nat} {part j : Json τ} {key : τ} {members : List (τ × Json τ)} :
      (key, j) ∈ members → PartAt depth part j → PartAt (depth + 1) part (.object members)

/-! ## What keeps a document from having a value -/

/-- A part that cannot have a value at its depth, where at most `room` arrays and objects may be
open inside each other. -/
inductive Fault (room : Nat) : Nat → Json Spelling → Prop
  /-- A number out of range. -/
  | number {depth : Nat} {l : NumberLiteral} : l.value? = none → Fault room depth (.number l)
  /-- Half of a surrogate pair in a text. -/
  | text {depth : Nat} {s : Spelling} : s.text? = none → Fault room depth (.text s)
  /-- Half of a surrogate pair in a key. -/
  | key {depth : Nat} {key : Spelling} {j : Json Spelling}
      {members : List (Spelling × Json Spelling)} :
      (key, j) ∈ members → key.text? = none → Fault room depth (.object members)
  | deepArray {depth : Nat} {items : List (Json Spelling)} :
      room ≤ depth → Fault room depth (.array items)
  | deepObject {depth : Nat} {members : List (Spelling × Json Spelling)} :
      room ≤ depth → Fault room depth (.object members)

/-- Some part of the document is at fault. -/
def Faulty (room : Nat) (j : Json Spelling) : Prop :=
  ∃ depth part, PartAt depth part j ∧ Fault room depth part

theorem Fault.faulty {room : Nat} {j : Json Spelling} (h : Fault room 0 j) : Faulty room j :=
  ⟨0, j, .whole, h⟩

/-- One more array or object around a part takes up one level of the room. -/
theorem fault_succ_iff {room depth : Nat} {part : Json Spelling} :
    Fault (room + 1) (depth + 1) part ↔ Fault room depth part := by
  constructor
  · intro h
    cases h with
    | number hv => exact .number hv
    | text hs => exact .text hs
    | key hm hk => exact .key hm hk
    | deepArray hd => exact .deepArray (Nat.le_of_succ_le_succ hd)
    | deepObject hd => exact .deepObject (Nat.le_of_succ_le_succ hd)
  · intro h
    cases h with
    | number hv => exact .number hv
    | text hs => exact .text hs
    | key hm hk => exact .key hm hk
    | deepArray hd => exact .deepArray (Nat.succ_le_succ hd)
    | deepObject hd => exact .deepObject (Nat.succ_le_succ hd)

theorem faulty_array_iff {room : Nat} {items : List (Json Spelling)} :
    Faulty (room + 1) (.array items) ↔ ∃ j ∈ items, Faulty room j := by
  constructor
  · rintro ⟨_, _, hp, hf⟩
    cases hp with
    | whole =>
        cases hf with
        | deepArray hd => exact (Nat.not_succ_le_zero room hd).elim
    | item hj hp => exact ⟨_, hj, _, _, hp, fault_succ_iff.mp hf⟩
  · rintro ⟨j, hj, depth, part, hp, hf⟩
    exact ⟨_, _, .item hj hp, fault_succ_iff.mpr hf⟩

theorem faulty_object_iff {room : Nat} {members : List (Spelling × Json Spelling)} :
    Faulty (room + 1) (.object members) ↔
      ∃ m ∈ members, m.1.text? = none ∨ Faulty room m.2 := by
  constructor
  · rintro ⟨_, _, hp, hf⟩
    cases hp with
    | whole =>
        cases hf with
        | key hm hk => exact ⟨_, hm, .inl hk⟩
        | deepObject hd => exact (Nat.not_succ_le_zero room hd).elim
    | member hm hp => exact ⟨_, hm, .inr ⟨_, _, hp, fault_succ_iff.mp hf⟩⟩
  · rintro ⟨⟨key, j⟩, hm, hk | ⟨depth, part, hp, hf⟩⟩
    · exact (Fault.key hm hk).faulty
    · exact ⟨_, _, .member hm hp, fault_succ_iff.mpr hf⟩

theorem itemValues?_eq_none_iff (room : Nat) (items : List (Json Spelling)) :
    itemValues? room items = none ↔ ∃ j ∈ items, j.value? room = none := by
  induction items with
  | nil => simp [itemValues?]
  | cons j js ih =>
      rw [List.exists_mem_cons_iff, ← ih, itemValues?]
      cases j.value? room <;> cases itemValues? room js <;> simp

theorem memberValues?_eq_none_iff (room : Nat) (members : List (Spelling × Json Spelling)) :
    memberValues? room members = none ↔
      ∃ m ∈ members, m.1.text? = none ∨ m.2.value? room = none := by
  induction members with
  | nil => simp [memberValues?]
  | cons m ms ih =>
      obtain ⟨k, j⟩ := m
      rw [List.exists_mem_cons_iff, ← ih, memberValues?]
      cases k.text? <;> cases j.value? room <;> cases memberValues? room ms <;> simp

/-- A document has no value exactly when one of its parts is at fault. -/
theorem value?_eq_none_iff (room : Nat) (j : Json Spelling) :
    j.value? room = none ↔ Faulty room j := by
  induction j using partInduction generalizing room with
  | null | bool b =>
      refine ⟨fun h => by simp [value?] at h, ?_⟩
      rintro ⟨_, _, hp, hf⟩
      cases hp
      cases hf
  | number l =>
      constructor
      · intro h
        have hl : l.value? = none := by simpa [value?] using h
        exact (Fault.number hl).faulty
      · rintro ⟨_, _, hp, hf⟩
        cases hp
        cases hf with
        | number hl => simp [value?, hl]
  | text s =>
      constructor
      · intro h
        exact (Fault.text (Option.map_eq_none_iff.mp h)).faulty
      · rintro ⟨_, _, hp, hf⟩
        cases hp
        cases hf with
        | text hs => exact Option.map_eq_none_iff.mpr hs
  | array items ih =>
      cases room with
      | zero => exact ⟨fun _ => (Fault.deepArray (Nat.le_refl 0)).faulty, fun _ => rfl⟩
      | succ room =>
          rw [faulty_array_iff, value?, Option.map_eq_none_iff, itemValues?_eq_none_iff]
          exact exists_congr fun j => and_congr_right fun hj => ih j hj room
  | object members ih =>
      cases room with
      | zero => exact ⟨fun _ => (Fault.deepObject (Nat.le_refl 0)).faulty, fun _ => rfl⟩
      | succ room =>
          rw [faulty_object_iff, value?, Option.map_eq_none_iff, memberValues?_eq_none_iff]
          exact exists_congr fun m => and_congr_right fun hm => or_congr_right (ih m hm room)

/-- A text is not read as a document exactly when it is not spelled as one, or one of its parts is
at fault. -/
theorem read?_eq_none_iff (text : String) :
    read? text = none ↔ ∀ j, parse? text = some j → Faulty nestingLimit j := by
  unfold read?
  cases parse? text with
  | none => simp
  | some j => simpa using value?_eq_none_iff nestingLimit j

/-! ## Repeated keys -/

/-- No object of the document repeats a key. -/
def DistinctKeys {τ : Type} (j : Json τ) : Prop :=
  ∀ depth members, PartAt depth (.object members) j → (members.map Prod.fst).Nodup

section
variable {τ : Type} {items : List (Json τ)} {members : List (τ × Json τ)}

theorem DistinctKeys.item (h : (array items).DistinctKeys) {j : Json τ} (hj : j ∈ items) :
    j.DistinctKeys :=
  fun depth members hp => h (depth + 1) members (.item hj hp)

theorem DistinctKeys.member (h : (object members).DistinctKeys) {key : τ} {j : Json τ}
    (hm : (key, j) ∈ members) : j.DistinctKeys :=
  fun depth members hp => h (depth + 1) members (.member hm hp)

theorem DistinctKeys.keys (h : (object members).DistinctKeys) : (members.map Prod.fst).Nodup :=
  h 0 members .whole

theorem distinctKeys_array (h : ∀ j ∈ items, j.DistinctKeys) : (array items).DistinctKeys := by
  intro depth members hp
  cases hp with
  | item hj hp => exact h _ hj _ _ hp

theorem distinctKeys_object (hk : (members.map Prod.fst).Nodup)
    (h : ∀ m ∈ members, m.2.DistinctKeys) : (object members).DistinctKeys := by
  intro depth inner hp
  cases hp with
  | whole => exact hk
  | member hm hp => exact h _ hm _ _ hp

end

theorem itemsLastWin_eq_map (items : List (Json String)) :
    itemsLastWin items = items.map lastWins := by
  induction items with
  | nil => rfl
  | cons j js ih => rw [itemsLastWin, ih, List.map_cons]

theorem exists_of_mem_membersLastWin {members : List (String × Json String)}
    {m : String × Json String} (h : m ∈ membersLastWin members) :
    ∃ j, (m.1, j) ∈ members ∧ m.2 = j.lastWins := by
  induction members with
  | nil => cases h
  | cons first ms ih =>
      obtain ⟨k, j⟩ := first
      have later (h : m ∈ membersLastWin ms) :
          ∃ i, (m.1, i) ∈ (k, j) :: ms ∧ m.2 = i.lastWins := by
        obtain ⟨i, hi, hm⟩ := ih h
        exact ⟨i, List.mem_cons_of_mem _ hi, hm⟩
      rw [membersLastWin] at h
      split at h
      next => exact later h
      next =>
        rcases List.mem_cons.mp h with rfl | h
        · exact ⟨j, List.mem_cons_self, rfl⟩
        · exact later h

/-- Every key is still there. -/
theorem mem_keys_membersLastWin {members : List (String × Json String)} {key : String} :
    key ∈ (membersLastWin members).map Prod.fst ↔ key ∈ members.map Prod.fst := by
  induction members with
  | nil => rfl
  | cons m ms ih =>
      obtain ⟨k, j⟩ := m
      rw [membersLastWin]
      split
      next hk =>
        rw [ih, List.map_cons, List.mem_cons]
        constructor
        · exact .inr
        · rintro (rfl | h)
          · exact hk
          · exact h
      next => simp only [List.map_cons, List.mem_cons, ih]

theorem nodup_keys_membersLastWin (members : List (String × Json String)) :
    ((membersLastWin members).map Prod.fst).Nodup := by
  induction members with
  | nil => exact List.nodup_nil
  | cons m ms ih =>
      obtain ⟨k, j⟩ := m
      rw [membersLastWin]
      split
      next => exact ih
      next hk =>
        have hn : k ∉ (membersLastWin ms).map Prod.fst := by
          rw [mem_keys_membersLastWin]
          exact hk
        exact List.nodup_cons.mpr ⟨hn, ih⟩

/-- Once the last of every repeated key has won, no key is repeated. -/
theorem distinctKeys_lastWins (j : Json String) : j.lastWins.DistinctKeys := by
  induction j using partInduction with
  | null | bool b | number l | text s =>
      intro depth members hp
      cases hp
  | array items ih =>
      rw [lastWins, itemsLastWin_eq_map]
      apply distinctKeys_array
      intro i hi
      obtain ⟨j, hj, rfl⟩ := List.mem_map.mp hi
      exact ih j hj
  | object members ih =>
      rw [lastWins]
      apply distinctKeys_object (nodup_keys_membersLastWin members)
      intro m hm
      obtain ⟨j, hj, he⟩ := exists_of_mem_membersLastWin hm
      rw [he]
      exact ih _ hj

theorem membersLastWin_eq_self {members : List (String × Json String)}
    (hk : (members.map Prod.fst).Nodup) (h : ∀ m ∈ members, m.2.lastWins = m.2) :
    membersLastWin members = members := by
  induction members with
  | nil => rfl
  | cons m ms ih =>
      obtain ⟨k, j⟩ := m
      obtain ⟨hn, hk⟩ := List.nodup_cons.mp hk
      have hj : j.lastWins = j := h (k, j) List.mem_cons_self
      have hs := ih hk fun m hm => h m (List.mem_cons_of_mem _ hm)
      rw [membersLastWin, if_neg hn, hj, hs]

/-- Where no key is repeated nothing is dropped. -/
theorem lastWins_of_distinctKeys {j : Json String} (h : j.DistinctKeys) : j.lastWins = j := by
  induction j using partInduction with
  | null | bool b | number l | text s => rfl
  | array items ih =>
      have hi : items.map lastWins = items.map id :=
        List.map_congr_left fun j hj => ih j hj (h.item hj)
      rw [lastWins, itemsLastWin_eq_map, hi, List.map_id]
  | object members ih =>
      have hm := membersLastWin_eq_self h.keys fun m hm => ih m hm (h.member hm)
      rw [lastWins, hm]

end Dashboard.Json
