import Dashboard.Proofs.SnapshotCodec
import Dashboard.Proofs.SnapshotOutcomes

/-!
# The two readers of layouts

A layout can be read straight from a text, or as one that has been kept. The second reader refuses
repeated identities and a branch that is spelled as an array at the top; the first refuses a known
key that occurs twice. Apart from this they accept the same texts and read the same layouts.
-/
namespace Dashboard

namespace Snapshot
open Json

theorem not_shapeless_of_denotesNode {v : Json String} {n : Node} (h : DenotesNode v n)
    (ha : ∀ items, v ≠ .array items) : ¬ Shapeless v := by
  intro hs
  cases h with
  | pane s => cases hs
  | object md m₁ m₂ =>
      cases hs with
      | object hk hm =>
          simp only [List.mem_cons, List.not_mem_nil, or_false] at hk
          rcases hk with rfl | rfl | rfl
          · exact hm (List.mem_map_of_mem md)
          · exact hm (List.mem_map_of_mem m₁)
          · exact hm (List.mem_map_of_mem m₂)
  | three | four => exact ha _ rfl

theorem lastWins_ne_array {j : Json String} (h : ∀ items, j ≠ .array items)
    (items : List (Json String)) : j.lastWins ≠ .array items := by
  cases j with
  | array items => exact (h items rfl).elim
  | null | bool b | number l | text s | object members =>
      intro he
      cases he

/-- What is read straight is also taken over as a kept text, unless it is an array or identities
repeat. What is taken over is also read straight, unless a key is repeated. -/
theorem readers_agree (text : String) (l : Layout) :
    (Layout.read? text = some l → (∀ items, read? text ≠ some (.array items)) →
      (Layout.leaves l).Nodup → decode text = .ok l) ∧
    (decode text = .ok l → (∀ j, read? text = some j → j.DistinctKeys) →
      Layout.read? text = some l) := by
  constructor
  · intro hr ha hu
    obtain ⟨j, hj, hl⟩ := Option.bind_eq_some_iff.mp hr
    have hv : value? text = some j.lastWins := congrArg (Option.map lastWins) hj
    cases l with
    | none =>
        rw [Layout.eq_null_of_ofJson?_none hl] at hv
        exact decode_of_null hv
    | some n =>
        have hn : j ≠ .null := by
          rintro rfl
          cases hl
        rw [Layout.ofJson?_of_ne_null hn] at hl
        obtain ⟨m, hm, he⟩ := Option.map_eq_some_iff.mp hl
        cases he
        have hd := denotesNode_lastWins hm
        have hja : ∀ items, j ≠ .array items := fun items he => ha items (he ▸ hj)
        have hs := not_shapeless_of_denotesNode hd (lastWins_ne_array hja)
        rw [Layout.leaves_some] at hu
        exact decode_of_nodup hv hs hd hu
  · intro hd hk
    have ho := outcome_decode text
    rw [hd] at ho
    -- where no key is repeated the value of the text is the document itself
    have hread {v : Json String} (hv : value? text = some v) : read? text = some v := by
      obtain ⟨j, hj, rfl⟩ := Option.map_eq_some_iff.mp hv
      rw [hj, lastWins_of_distinctKeys (hk j hj)]
    cases ho with
    | empty hv =>
        unfold Layout.read?
        rw [hread hv]
        rfl
    | @node v n hv hs hn hu =>
        have hj := ofJson?_of_denotesNode (distinctKeys_of_value? hv) hn
        have hne : v ≠ .null := by
          rintro rfl
          cases hn
        unfold Layout.read?
        rw [hread hv, Option.bind_some, Layout.ofJson?_of_ne_null hne, hj]
        rfl

/-- A branch whose direction is spelled as an object, with a member that is not known and occurs
twice, and with an array for a part. -/
def spelled : String :=
  "\x7b\"direction\":\x7b\"row\":null\x7d,\"x\":1,\"x\":[2]," ++
    "\"first\":[\"column\",\"a\",\"b\",50],\"second\":\"c\"\x7d"

def ofSpelled : Layout :=
  some (.branch ⟨.row, none⟩ (.branch ⟨.column, some 50⟩ (.leaf ⟨"a"⟩) (.leaf ⟨"b"⟩)) (.leaf ⟨"c"⟩))

theorem readers_agree_on_spelled :
    (Layout.read? spelled = some ofSpelled ∧ (∀ items, read? spelled ≠ some (.array items)) ∧
      (Layout.leaves ofSpelled).Nodup ∧ decode spelled = .ok ofSpelled) ∧
    decode (Layout.encode ofSpelled) = .ok ofSpelled ∧
      (∀ j, read? (Layout.encode ofSpelled) = some j → j.DistinctKeys) ∧
      Layout.read? (Layout.encode ofSpelled) = some ofSpelled := by
  have hr : Layout.read? spelled = some ofSpelled := by decide +kernel
  have ha (items : List (Json String)) : read? spelled ≠ some (.array items) := by
    -- an array would not have the outline of a layout
    have hs : (read? spelled).map isWellFormed = some true := by decide +kernel
    intro he
    rw [he] at hs
    cases hs
  have hu : (Layout.leaves ofSpelled).Nodup := by
    rw [ofSpelled, Layout.leaves_some]
    decide
  have hd : decode (Layout.encode ofSpelled) = .ok ofSpelled := by decide +kernel
  have hk (j : Json String) (hj : read? (Layout.encode ofSpelled) = some j) : j.DistinctKeys := by
    have hp : ∀ p ∈ Layout.percentages ofSpelled, NumberLiteral.ReadsBack p := by
      intro p hp
      have hp : p = 50 := List.mem_singleton.mp hp
      rw [hp]
      decide +kernel
    rw [Layout.json_read?_encode hp, if_pos (by decide)] at hj
    cases hj
    rw [← Layout.lastWins_toJson]
    exact distinctKeys_lastWins _
  exact ⟨⟨hr, ha, hu, (readers_agree spelled ofSpelled).1 hr ha hu⟩, hd, hk,
    (readers_agree _ ofSpelled).2 hd hk⟩

end Snapshot
end Dashboard
