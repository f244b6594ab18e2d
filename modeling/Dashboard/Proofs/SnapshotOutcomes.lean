import Dashboard.Proofs.EditedIdentities
import Dashboard.Proofs.NodeGrammar
import Dashboard.Proofs.TrimmedText

/-!
# What becomes of a kept text

Every text that has been kept is taken over or refused for a reason. The outcomes are told apart by
conditions on the text and on its value, which do not mention how the text is read: whether it is a
document, whether the document has an outline, whether it denotes a node, and whether the panes of
that node have identities of their own. The conditions are examined in this order.
-/
namespace Dashboard

/-- Only null is the empty layout. -/
theorem Layout.ofJson?_of_ne_null {j : Json String} (h : j ≠ .null) :
    ofJson? j = (Node.ofJson? j).map some := by
  cases j with
  | null => exact (h rfl).elim
  | bool b | number l | text s | array items | object members => rfl

namespace Snapshot
open Json

/-- The value of a text. Of repeated keys the last counts. -/
def value? (text : String) : Option (Json String) := (read? text).map lastWins

theorem value?_eq_none_iff (text : String) :
    value? text = none ↔ ∀ j, parse? text = some j → Faulty nestingLimit j := by
  rw [value?, Option.map_eq_none_iff, read?_eq_none_iff]

/-- No object in a value repeats a key. -/
theorem distinctKeys_of_value? {text : String} {v : Json String} (h : value? text = some v) :
    v.DistinctKeys := by
  obtain ⟨j, -, rfl⟩ := Option.map_eq_some_iff.mp h
  exact distinctKeys_lastWins j

/-- A value that does not even have the outline of a layout. -/
inductive Shapeless : Json String → Prop
  | bool (b : Bool) : Shapeless (.bool b)
  | number (l : NumberLiteral) : Shapeless (.number l)
  | array (items : List (Json String)) : Shapeless (.array items)
  | object {members : List (String × Json String)} {key : String} :
      key ∈ ["direction", "first", "second"] → key ∉ members.map Prod.fst →
      Shapeless (.object members)

theorem shapeless_iff (v : Json String) : Shapeless v ↔ isWellFormed v = false := by
  constructor
  · intro h
    cases h with
    | bool b | number l | array items => rfl
    | object hk hm => exact List.all_eq_false.mpr ⟨_, hk, by simpa using hm⟩
  · intro h
    cases v with
    | null | text s => cases h
    | bool b => exact .bool b
    | number l => exact .number l
    | array items => exact .array items
    | object members =>
        obtain ⟨key, hk, hm⟩ := List.all_eq_false.mp h
        exact .object hk (by simpa using hm)

/-- What a text comes to. -/
inductive Outcome (text : String) : Except LayoutError Layout → Prop
  /-- The text is not spelled as a document, or a part of it can have no value where it stands: it
  is nested in too many others, a number out of range, or half of a surrogate pair. -/
  | notJson : (∀ j, parse? text = some j → Faulty 127 j) → Outcome text (.error .notJson)
  | malformed {v : Json String} :
      value? text = some v → Shapeless v → Outcome text (.error .malformed)
  | empty : value? text = some .null → Outcome text (.ok none)
  | undecodable {v : Json String} :
      value? text = some v → ¬ Shapeless v → v ≠ .null → (∀ n, ¬ DenotesNode v n) →
      Outcome text (.error .undecodable)
  | repeated {v : Json String} {n : Node} :
      value? text = some v → ¬ Shapeless v → DenotesNode v n → ¬ n.identities.Nodup →
      Outcome text (.error (.duplicateIdentities (Layout.duplicates (some n))))
  | node {v : Json String} {n : Node} :
      value? text = some v → ¬ Shapeless v → DenotesNode v n → n.identities.Nodup →
      Outcome text (.ok (some n))

/-! ## From a value to its outcome -/

section
variable {text : String} {v : Json String} (h : value? text = some v)
include h

theorem decode_of_shapeless (hs : Shapeless v) : decode text = .error .malformed := by
  have hw := (shapeless_iff v).mp hs
  unfold value? at h
  unfold decode
  simp only [h, hw, Bool.false_eq_true, if_false]

theorem decode_of_not_shapeless (hs : ¬ Shapeless v) :
    decode text =
      match Layout.ofJson? v with
      | none => .error .undecodable
      | some l => (Layout.checkUnique l).map fun _ => l := by
  have hw : isWellFormed v = true := by
    rw [shapeless_iff, Bool.not_eq_false] at hs
    exact hs
  unfold value? at h
  unfold decode
  rw [h]
  exact if_pos hw

theorem decode_of_denotesNode (hs : ¬ Shapeless v) {n : Node} (hd : DenotesNode v n) :
    decode text = (Layout.checkUnique (some n)).map fun _ => some n := by
  have hj := (ofJson?_eq_some_iff (distinctKeys_of_value? h)).mpr hd
  have hn : v ≠ .null := by
    rintro rfl
    cases hj
  rw [decode_of_not_shapeless h hs, Layout.ofJson?_of_ne_null hn, hj]
  rfl

theorem decode_of_nodup (hs : ¬ Shapeless v) {n : Node} (hd : DenotesNode v n)
    (hu : n.identities.Nodup) : decode text = .ok (some n) := by
  have hl : (Layout.leaves (some n)).Nodup := by
    rw [Layout.leaves_some]
    exact hu
  rw [decode_of_denotesNode h hs hd, Layout.checkUnique_of_nodup hl]
  rfl

theorem decode_of_not_nodup (hs : ¬ Shapeless v) {n : Node} (hd : DenotesNode v n)
    (hu : ¬ n.identities.Nodup) :
    decode text = .error (.duplicateIdentities (Layout.duplicates (some n))) := by
  have hl : ¬ (Layout.leaves (some n)).Nodup := by
    rw [Layout.leaves_some]
    exact hu
  rw [decode_of_denotesNode h hs hd, Layout.checkUnique_of_not_nodup hl]
  rfl

theorem decode_of_not_denotesNode (hs : ¬ Shapeless v) (hn : v ≠ .null)
    (hd : ∀ n, ¬ DenotesNode v n) : decode text = .error .undecodable := by
  have hj : Node.ofJson? v = none := by
    apply Option.eq_none_iff_forall_ne_some.mpr
    intro n hj
    exact hd n ((ofJson?_eq_some_iff (distinctKeys_of_value? h)).mp hj)
  rw [decode_of_not_shapeless h hs, Layout.ofJson?_of_ne_null hn, hj]
  rfl

end

theorem decode_of_none {text : String} (h : value? text = none) :
    decode text = .error .notJson := by
  unfold value? at h
  unfold decode
  simp only [h]

theorem decode_of_null {text : String} (h : value? text = some .null) :
    decode text = .ok none := by
  have hs : ¬ Shapeless .null := by
    intro hs
    cases hs
  exact decode_of_not_shapeless h hs

/-- Every text comes to something. -/
theorem outcome_decode (text : String) : Outcome text (decode text) := by
  cases h : value? text with
  | none =>
      rw [decode_of_none h]
      exact .notJson ((value?_eq_none_iff text).mp h)
  | some v =>
      by_cases hs : Shapeless v
      · rw [decode_of_shapeless h hs]
        exact .malformed h hs
      · by_cases hn : v = .null
        · rw [hn] at h
          rw [decode_of_null h]
          exact .empty h
        · by_cases hd : ∃ n, DenotesNode v n
          · obtain ⟨n, hd⟩ := hd
            by_cases hu : n.identities.Nodup
            · rw [decode_of_nodup h hs hd hu]
              exact .node h hs hd hu
            · rw [decode_of_not_nodup h hs hd hu]
              exact .repeated h hs hd hu
          · have hd := not_exists.mp hd
            rw [decode_of_not_denotesNode h hs hn hd]
            exact .undecodable h hs hn hd

/-- Every outcome of reading a kept text: when there is one, and that there is no other. A value
denotes one node at most, and the identities that are listed are those of several panes. -/
theorem decode_eq_iff_outcome (text : String) :
    (∀ r, decode text = r ↔ Outcome text r) ∧
    (∀ v n m, value? text = some v → DenotesNode v n → DenotesNode v m → n = m) ∧
    ∀ n id, id ∈ Layout.duplicates (some n) ↔ 2 ≤ n.identities.count id := by
  refine ⟨fun r => ⟨?_, ?_⟩, ?_, ?_⟩
  · rintro rfl
    exact outcome_decode text
  · intro h
    cases h with
    | notJson h => exact decode_of_none ((value?_eq_none_iff text).mpr h)
    | malformed h hs => exact decode_of_shapeless h hs
    | empty h => exact decode_of_null h
    | undecodable h hs hn hd => exact decode_of_not_denotesNode h hs hn hd
    | repeated h hs hd hu => exact decode_of_not_nodup h hs hd hu
    | node h hs hd hu => exact decode_of_nodup h hs hd hu
  · intro v n m h hn hm
    have hk := distinctKeys_of_value? h
    have rn := ofJson?_of_denotesNode hk hn
    have rm := ofJson?_of_denotesNode hk hm
    exact Option.some.inj (rn.symm.trans rm)
  · intro n id
    rw [Layout.mem_duplicates_iff, Layout.leaves_some]

end Snapshot
end Dashboard
