import Dashboard.Proofs.FirstLayout
import Dashboard.Proofs.Restart
import Dashboard.Proofs.SnapshotOutcomes

/-!
# What can be loaded can be reloaded

A layout may be loaded from texts that would be refused as kept ones: branches spelled as arrays, at
the top as well, or with members that are not known. What is written of it is one canonical text,
and this text is taken over by the next session. The canonical text could only be refused because
it nests too deep, and no document denotes a layout that nests deeper than the document.
-/
namespace Dashboard

/-! ## The nesting of what has been read -/

namespace Json

theorem itemsNesting_le_iff {items : List (Json String)} {k : Nat} :
    itemsNesting items ≤ k ↔ ∀ j ∈ items, j.nesting ≤ k := by
  induction items with
  | nil => simp [itemsNesting]
  | cons j js ih => rw [itemsNesting, Nat.max_le, ih, List.forall_mem_cons]

theorem membersNesting_le_iff {members : List (String × Json String)} {k : Nat} :
    membersNesting members ≤ k ↔ ∀ m ∈ members, m.2.nesting ≤ k := by
  induction members with
  | nil => simp [membersNesting]
  | cons m ms ih => rw [membersNesting, Nat.max_le, ih, List.forall_mem_cons]

theorem nesting_array_le_iff {items : List (Json String)} {k : Nat} :
    (array items).nesting ≤ k + 1 ↔ ∀ j ∈ items, j.nesting ≤ k := by
  rw [nesting, Nat.add_le_add_iff_right, itemsNesting_le_iff]

theorem nesting_object_le_iff {members : List (String × Json String)} {k : Nat} :
    (object members).nesting ≤ k + 1 ↔ ∀ m ∈ members, m.2.nesting ≤ k := by
  rw [nesting, Nat.add_le_add_iff_right, membersNesting_le_iff]

theorem nesting_lt_of_mem_array {items : List (Json String)} {j : Json String} (h : j ∈ items) :
    j.nesting < (array items).nesting :=
  Nat.lt_succ_of_le (itemsNesting_le_iff.mp (Nat.le_refl _) j h)

theorem nesting_lt_of_mem_object {members : List (String × Json String)} {key : String}
    {j : Json String} (h : (key, j) ∈ members) : j.nesting < (object members).nesting :=
  Nat.lt_succ_of_le (membersNesting_le_iff.mp (Nat.le_refl _) (key, j) h)

/-- The items have the values of the items. -/
theorem exists_of_mem_itemValues? {room : Nat} {items : List (Json Spelling)}
    {values : List (Json String)} (h : itemValues? room items = some values) {v : Json String}
    (hv : v ∈ values) : ∃ j ∈ items, j.value? room = some v := by
  induction items generalizing values with
  | nil =>
      cases h
      cases hv
  | cons j js ih =>
      obtain ⟨w, hw, h⟩ := Option.bind_eq_some_iff.mp h
      obtain ⟨ws, hws, h⟩ := Option.bind_eq_some_iff.mp h
      cases h
      rcases List.mem_cons.mp hv with rfl | hv
      · exact ⟨j, List.mem_cons_self, hw⟩
      · obtain ⟨i, hi, hiv⟩ := ih hws hv
        exact ⟨i, List.mem_cons_of_mem _ hi, hiv⟩

theorem exists_of_mem_memberValues? {room : Nat} {members : List (Spelling × Json Spelling)}
    {values : List (String × Json String)} (h : memberValues? room members = some values)
    {m : String × Json String} (hm : m ∈ values) :
    ∃ i ∈ members, i.2.value? room = some m.2 := by
  induction members generalizing values with
  | nil =>
      cases h
      cases hm
  | cons i is ih =>
      obtain ⟨k, hk, h⟩ := Option.bind_eq_some_iff.mp h
      obtain ⟨w, hw, h⟩ := Option.bind_eq_some_iff.mp h
      obtain ⟨ws, hws, h⟩ := Option.bind_eq_some_iff.mp h
      cases h
      rcases List.mem_cons.mp hm with rfl | hm
      · exact ⟨i, List.mem_cons_self, hw⟩
      · obtain ⟨l, hl, hlm⟩ := ih hws hm
        exact ⟨l, List.mem_cons_of_mem _ hl, hlm⟩

/-- A value fits into the room that it was given. -/
theorem nesting_le_of_value? {room : Nat} {j : Json Spelling} {v : Json String}
    (h : j.value? room = some v) : v.nesting ≤ room := by
  induction j using partInduction generalizing room v with
  | null | bool b =>
      cases h
      exact Nat.zero_le room
  | number l =>
      unfold value? at h
      split at h
      next =>
        cases h
        exact Nat.zero_le room
      next => cases h
  | text s =>
      obtain ⟨t, -, rfl⟩ := Option.map_eq_some_iff.mp h
      exact Nat.zero_le room
  | array items ih =>
      cases room with
      | zero => cases h
      | succ room =>
          obtain ⟨values, hvs, rfl⟩ := Option.map_eq_some_iff.mp h
          apply nesting_array_le_iff.mpr
          intro w hw
          obtain ⟨j, hj, hjw⟩ := exists_of_mem_itemValues? hvs hw
          exact ih j hj hjw
  | object members ih =>
      cases room with
      | zero => cases h
      | succ room =>
          obtain ⟨values, hvs, rfl⟩ := Option.map_eq_some_iff.mp h
          apply nesting_object_le_iff.mpr
          intro m hm
          obtain ⟨i, hi, him⟩ := exists_of_mem_memberValues? hvs hm
          exact ih i hi him

theorem nesting_lastWins_le (j : Json String) : j.lastWins.nesting ≤ j.nesting := by
  induction j using partInduction with
  | null | bool b | number l | text s => exact Nat.le_refl _
  | array items ih =>
      apply nesting_array_le_iff.mpr
      intro i hi
      rw [itemsLastWin_eq_map] at hi
      obtain ⟨j, hj, rfl⟩ := List.mem_map.mp hi
      exact Nat.le_trans (ih j hj) (Nat.le_of_lt_succ (nesting_lt_of_mem_array hj))
  | object members ih =>
      apply nesting_object_le_iff.mpr
      intro m hm
      obtain ⟨j, hj, he⟩ := exists_of_mem_membersLastWin hm
      rw [he]
      exact Nat.le_trans (ih (m.1, j) hj) (Nat.le_of_lt_succ (nesting_lt_of_mem_object hj))

/-- In every spelling a branch takes up an array or an object. -/
theorem DenotesNode.nesting_le {v : Json String} {n : Node} (h : DenotesNode v n) :
    n.nesting ≤ v.nesting := by
  induction h with
  | pane s => exact Nat.le_refl 0
  | @object members jd j₁ j₂ d p n₁ n₂ md m₁ m₂ hd hp _ _ ih₁ ih₂ =>
      have h₁ := nesting_lt_of_mem_object m₁
      have h₂ := nesting_lt_of_mem_object m₂
      rw [Node.nesting]
      omega
  | @three jd j₁ j₂ d n₁ n₂ hd _ _ ih₁ ih₂ =>
      have h₁ : j₁.nesting < (array [jd, j₁, j₂]).nesting := nesting_lt_of_mem_array (by simp)
      have h₂ : j₂.nesting < (array [jd, j₁, j₂]).nesting := nesting_lt_of_mem_array (by simp)
      rw [Node.nesting]
      omega
  | @four jd j₁ j₂ jp d p n₁ n₂ hd hp _ _ ih₁ ih₂ =>
      have h₁ : j₁.nesting < (array [jd, j₁, j₂, jp]).nesting := nesting_lt_of_mem_array (by simp)
      have h₂ : j₂.nesting < (array [jd, j₁, j₂, jp]).nesting := nesting_lt_of_mem_array (by simp)
      rw [Node.nesting]
      omega

theorem nesting_le_of_read? {text : String} {j : Json String} (h : read? text = some j) :
    j.nesting ≤ nestingLimit := by
  obtain ⟨spelled, -, hv⟩ := Option.bind_eq_some_iff.mp h
  exact nesting_le_of_value? hv

end Json

/-- A layout that has been read nests no deeper than what is read. -/
theorem Layout.nesting_le_of_read? {text : String} {n : Node} (h : read? text = some (some n)) :
    n.nesting ≤ Json.nestingLimit := by
  obtain ⟨j, hj, hl⟩ := Option.bind_eq_some_iff.mp h
  have hne : j ≠ .null := by
    rintro rfl
    cases hl
  rw [Layout.ofJson?_of_ne_null hne] at hl
  obtain ⟨m, hm, he⟩ := Option.map_eq_some_iff.mp hl
  cases he
  calc n.nesting
    _ ≤ j.lastWins.nesting := (Json.denotesNode_lastWins hm).nesting_le
    _ ≤ j.nesting := Json.nesting_lastWins_le j
    _ ≤ Json.nestingLimit := Json.nesting_le_of_read? hj

/-! ## The canonical text -/

/-- What has been read and is not refused for its identities is also taken over as a kept text, in
its canonical spelling. -/
theorem Snapshot.decode_encode_of_read? {text : String} {n : Node}
    (hr : Layout.read? text = some (some n)) (hu : (Layout.leaves (some n)).Nodup)
    (hp : ∀ p ∈ n.percentages, NumberLiteral.ReadsBack p) :
    decode (Layout.encode (some n)) = .ok (some n) := by
  have hn : Layout.nesting (some n) ≤ Json.nestingLimit := Layout.nesting_le_of_read? hr
  rw [decode_encode_of_nesting (l := some n) hp hn, Layout.checkUnique_of_nodup hu]
  rfl

namespace Store
open AtomicBackend

/-- A backend from which a kept layout is read starts a session with it. -/
theorem bootstrap_of_decode {σ β : Type} [TokenSource σ] [KeyValueStore β] {backend : β}
    {n : Node} (hg : (KeyValueStore.get snapshotKey backend).1 = .ok (some (Layout.encode (some n))))
    (hd : Snapshot.decode (Layout.encode (some n)) = .ok (some n)) (tokens : σ)
    (settings : LayoutSettings) :
    let started := bootstrap backend tokens settings
    started.origin = .restored ∧ started.layout = some n ∧ started.tokens = tokens := by
  intro started
  have hs : (textRead backend).bind significant? = some (Layout.encode (some n)) := by
    rw [(textRead_eq_some_iff backend _).mpr hg, Option.bind_some, significant?_encode]
  have ho : Opening.ofText (textRead backend) tokens = ⟨.restored, some n, tokens⟩ := by
    rw [Opening.ofText_of_some hs, hd]
    rfl
  simp only [started, bootstrap_origin, bootstrap_layout, bootstrap_tokens, ho]
  exact ⟨trivial, trivial, trivial⟩

/-- A layout is loaded from a text, in any spelling, installed and written. What has been written
is taken over by every later session that reads it, and it is the text that would be written of
this layout again. -/
theorem reload_of_read {σ β : Type} [TokenSource σ] [KeyValueStore β] (s : Store σ β)
    {text : String} {n : Node} (hr : Layout.read? text = some (some n))
    (hu : (Layout.leaves (some n)).Nodup)
    (hp : ∀ p ∈ n.percentages, NumberLiteral.ReadsBack p)
    (hw : (KeyValueStore.set snapshotKey (Layout.encode (some n)) s.backend).1 = .ok ()) :
    let after := (s.handle (.replaceTree (some n))).2
    let kept := Layout.encode (some n)
    (s.handle (.replaceTree (some n))).1 = .ok () ∧ after.layout = some n ∧
    after.backend = (KeyValueStore.set snapshotKey kept s.backend).2 ∧
    (∀ _ : AtomicBackend β, held after.backend snapshotKey = some kept ∧
      ∀ found, (KeyValueStore.get snapshotKey after.backend).1 = .ok found → found = some kept) ∧
    Snapshot.decode kept = .ok (some n) ∧
    (∀ l, Snapshot.decode kept = .ok l → Layout.encode l = kept) ∧
    ∀ (γ τ : Type) [KeyValueStore γ] [TokenSource τ] (backend : γ) (later : τ)
      (settings : LayoutSettings), (KeyValueStore.get snapshotKey backend).1 = .ok (some kept) →
      let started := bootstrap backend later settings
      started.origin = .restored ∧ started.layout = some n ∧ started.tokens = later := by
  intro after kept
  have hv := s.verdict_replaceTree hu
  have hd := Snapshot.decode_encode_of_read? hr hu hp
  have hb : after.backend = (KeyValueStore.set snapshotKey kept s.backend).2 := by
    rw [handle_backend, hv]
    rfl
  refine ⟨?_, s.handle_replaceTree_layout hu, hb, ?_, hd, ?_, ?_⟩
  · rw [handle_answer, hv]
    rfl
  · intro _
    have hk : held after.backend snapshotKey = some kept := by
      rw [hb, held_set, hw]
      exact if_pos rfl
    exact ⟨hk, fun found hg => (answer_get hg).trans hk⟩
  · intro l hl
    cases hd.symm.trans hl
    rfl
  · intro γ τ _ _ backend later settings hg
    exact bootstrap_of_decode hg hd later settings

/-- An array at the top, a direction that is spelled as an object, a member that is not known, and
a percentage without a point. -/
theorem reload_of_spellings :
    let text := "[\"column\",\x7b\"note\":[],\"second\":\"b\",\"first\":\"a\"," ++
      "\"direction\":\x7b\"row\":null\x7d,\"splitPercentage\":40\x7d,\"c\",50]"
    let n : Node := .branch ⟨.column, some 50⟩
      (.branch ⟨.row, some 40⟩ (.leaf ⟨"a"⟩) (.leaf ⟨"b"⟩)) (.leaf ⟨"c"⟩)
    let s := bootstrap ({} : MemoryStore) ({} : ScriptedTokens) {}
    let after := (s.handle (.replaceTree (some n))).2
    Snapshot.decode text = .error .malformed ∧ Layout.read? text = some (some n) ∧
      held after.backend snapshotKey = some (Layout.encode (some n)) ∧
      Snapshot.decode (Layout.encode (some n)) = .ok (some n) ∧
      (bootstrap after.backend ({} : ScriptedTokens) {}).origin = .restored := by
  intro text n s after
  have hm : Snapshot.decode text = .error .malformed := by decide +kernel
  have hr : Layout.read? text = some (some n) := by decide +kernel
  have hu : (Layout.leaves (some n)).Nodup := by
    rw [Layout.leaves_some]
    decide
  have hp : ∀ p ∈ n.percentages, NumberLiteral.ReadsBack p := by
    intro p hp
    have hp : p = 50 ∨ p = 40 := by simpa [n, Node.percentages] using hp
    rcases hp with rfl | rfl <;> decide +kernel
  obtain ⟨-, -, -, hk, hd, -, hl⟩ := reload_of_read s hr hu hp rfl
  obtain ⟨hk, -⟩ := hk inferInstance
  have hg : (KeyValueStore.get snapshotKey after.backend).1 =
      .ok (some (Layout.encode (some n))) := congrArg Except.ok hk
  obtain ⟨ho, -⟩ := hl MemoryStore ScriptedTokens after.backend {} {} hg
  exact ⟨hm, hr, hk, hd, ho⟩

end Store
end Dashboard
