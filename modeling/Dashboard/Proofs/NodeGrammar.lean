import Dashboard.Proofs.BranchMembers

/-!
# Which documents denote a node

The grammar of nodes is stated without any reader. A text denotes a pane. A branch is an object, of
which only the members of known names count, or an array of three or four items. `Node.ofJson?`
accepts exactly the documents of the grammar, as long as no key is repeated. Where keys are
repeated it accepts less than the grammar allows for the document in which the last of them has won.
-/
namespace Dashboard

namespace Json

inductive DenotesDirection : Json String → Direction → Prop
  | row : DenotesDirection (.text "row") .row
  | column : DenotesDirection (.text "column") .column
  | rowKey : DenotesDirection (.object [("row", .null)]) .row
  | columnKey : DenotesDirection (.object [("column", .null)]) .column

inductive DenotesPercentage : Json String → Option Float → Prop
  | null : DenotesPercentage .null none
  | number {l : NumberLiteral} {x : Float} :
      l.value? = some x → DenotesPercentage (.number l) (some x)

/-- The percentage of a branch with the given members. -/
inductive GivesPercentage (members : List (String × Json String)) : Option Float → Prop
  | missing : "splitPercentage" ∉ members.map Prod.fst → GivesPercentage members none
  | given {j : Json String} {p : Option Float} :
      ("splitPercentage", j) ∈ members → DenotesPercentage j p → GivesPercentage members p

inductive DenotesNode : Json String → Node → Prop
  | pane (s : String) : DenotesNode (.text s) (.leaf ⟨s⟩)
  | object {members : List (String × Json String)} {jd j₁ j₂ : Json String} {d : Direction}
      {p : Option Float} {n₁ n₂ : Node} :
      ("direction", jd) ∈ members → ("first", j₁) ∈ members → ("second", j₂) ∈ members →
      DenotesDirection jd d → GivesPercentage members p → DenotesNode j₁ n₁ → DenotesNode j₂ n₂ →
      DenotesNode (.object members) (.branch ⟨d, p⟩ n₁ n₂)
  | three {jd j₁ j₂ : Json String} {d : Direction} {n₁ n₂ : Node} :
      DenotesDirection jd d → DenotesNode j₁ n₁ → DenotesNode j₂ n₂ →
      DenotesNode (.array [jd, j₁, j₂]) (.branch ⟨d, none⟩ n₁ n₂)
  | four {jd j₁ j₂ jp : Json String} {d : Direction} {p : Option Float} {n₁ n₂ : Node} :
      DenotesDirection jd d → DenotesPercentage jp p → DenotesNode j₁ n₁ → DenotesNode j₂ n₂ →
      DenotesNode (.array [jd, j₁, j₂, jp]) (.branch ⟨d, p⟩ n₁ n₂)

/-! ## Directions and percentages -/

theorem denotesDirection_iff {j : Json String} {d : Direction} :
    DenotesDirection j d ↔ Named.ofJson? j = some d := by
  constructor
  · intro h
    cases h <;> decide
  · intro h
    unfold Named.ofJson? at h
    split at h
    next s =>
      rw [← Named.name_of_ofName? h]
      cases d with
      | row => exact .row
      | column => exact .column
    next s =>
      rw [← Named.name_of_ofName? h]
      cases d with
      | row => exact .rowKey
      | column => exact .columnKey
    next => cases h

theorem DenotesDirection.lastWins {j : Json String} {d : Direction} (h : DenotesDirection j d) :
    DenotesDirection j.lastWins d := by
  cases h with
  | row => exact .row
  | column => exact .column
  | rowKey => exact .rowKey
  | columnKey => exact .columnKey

theorem denotesPercentage_iff {j : Json String} {p : Option Float} :
    DenotesPercentage j p ↔ Node.percentageOfJson? j = some p := by
  constructor
  · intro h
    cases h with
    | null => rfl
    | number hl => exact Option.map_eq_some_iff.mpr ⟨_, hl, rfl⟩
  · intro h
    cases j with
    | null =>
        cases h
        exact .null
    | number l =>
        obtain ⟨x, hx, rfl⟩ := Option.map_eq_some_iff.mp h
        exact .number hx
    | bool b | text s | array items | object members => cases h

theorem DenotesPercentage.lastWins {j : Json String} {p : Option Float}
    (h : DenotesPercentage j p) : DenotesPercentage j.lastWins p := by
  cases h with
  | null => exact .null
  | number hl => exact .number hl

end Json

/-! ## What is read denotes what it is read as -/

namespace BranchFields
open Json

theorem exists_of_node? {b : BranchFields} {n : Node} (h : b.node? = some n) :
    ∃ d n₁ n₂, b.direction = some d ∧ b.first = some n₁ ∧ b.second = some n₂ ∧
      n = .branch ⟨d, b.percentage.getD none⟩ n₁ n₂ := by
  unfold node? at h
  obtain ⟨d, hd, h⟩ := Option.bind_eq_some_iff.mp h
  obtain ⟨n₁, h₁, h⟩ := Option.bind_eq_some_iff.mp h
  obtain ⟨n₂, h₂, h⟩ := Option.bind_eq_some_iff.mp h
  exact ⟨d, n₁, n₂, hd, h₁, h₂, (Option.some.inj h).symm⟩

section
variable {b : BranchFields} {members : List (String × Json String)} (h : Reads {} members b)
include h

/-- A field comes from a member that is still there once the last of every key has won. -/
theorem Reads.exists_member {key : BranchKey} (hk : b.has key = true) :
    ∃ j, (Named.name key, j) ∈ members ∧
      (Named.name key, j.lastWins) ∈ membersLastWin members ∧ b.ReadFrom j key := by
  have hn : ({} : BranchFields).has key ≠ true := by cases key <;> decide
  have hm : Named.name key ∈ members.map Prod.fst := ((h.has_iff key).mp hk).resolve_left hn
  obtain ⟨m, hl, he⟩ := List.mem_map.mp (mem_keys_membersLastWin.mpr hm)
  obtain ⟨name, i⟩ := m
  cases he
  obtain ⟨j, hj, hi⟩ := exists_of_mem_membersLastWin hl
  cases hi
  exact ⟨j, hj, hl, h.read key j hj⟩

theorem Reads.givesPercentage :
    GivesPercentage (membersLastWin members) (b.percentage.getD none) := by
  cases hp : b.percentage with
  | none =>
      apply GivesPercentage.missing
      rw [mem_keys_membersLastWin]
      intro hm
      have hb := (h.has_iff .percentage).mpr (.inr hm)
      rw [has, hp] at hb
      cases hb
  | some p =>
      have hb : b.has .percentage = true := by rw [has, hp]; rfl
      obtain ⟨j, -, hl, p', hj, hp'⟩ := h.exists_member hb
      rw [hp] at hp'
      cases hp'
      exact .given hl (denotesPercentage_iff.mpr hj).lastWins

end
end BranchFields

namespace Json
open BranchFields

/-- A document that is read as a node denotes it, also after the last of every key has won. -/
theorem denotesNode_lastWins {j : Json String} {n : Node} (h : Node.ofJson? j = some n) :
    DenotesNode j.lastWins n := by
  induction j using partInduction generalizing n with
  | null | bool b | number l => cases h
  | text s =>
      cases h
      exact .pane s
  | array items ih =>
      unfold Node.ofJson? at h
      split at h
      next he => cases he
      next jd j₁ j₂ he =>
        cases he
        obtain ⟨d, hd, h⟩ := Option.bind_eq_some_iff.mp h
        obtain ⟨n₁, h₁, h⟩ := Option.bind_eq_some_iff.mp h
        obtain ⟨n₂, h₂, h⟩ := Option.bind_eq_some_iff.mp h
        cases h
        have d₁ := ih j₁ (by simp) h₁
        have d₂ := ih j₂ (by simp) h₂
        exact .three (denotesDirection_iff.mpr hd).lastWins d₁ d₂
      next jd j₁ j₂ jp he =>
        cases he
        obtain ⟨d, hd, h⟩ := Option.bind_eq_some_iff.mp h
        obtain ⟨p, hp, h⟩ := Option.bind_eq_some_iff.mp h
        obtain ⟨n₁, h₁, h⟩ := Option.bind_eq_some_iff.mp h
        obtain ⟨n₂, h₂, h⟩ := Option.bind_eq_some_iff.mp h
        cases h
        have d₁ := ih j₁ (by simp) h₁
        have d₂ := ih j₂ (by simp) h₂
        exact .four (denotesDirection_iff.mpr hd).lastWins (denotesPercentage_iff.mpr hp).lastWins
          d₁ d₂
      next he => cases he
      next => cases h
  | object members ih =>
      obtain ⟨b, hb, hn⟩ := Option.bind_eq_some_iff.mp h
      have hr := Node.reads_of_fieldsOfMembers? hb
      obtain ⟨d, n₁, n₂, hd, h₁, h₂, rfl⟩ := exists_of_node? hn
      have has_d : b.has .direction = true := by rw [has, hd]; rfl
      have has_1 : b.has .first = true := by rw [has, h₁]; rfl
      have has_2 : b.has .second = true := by rw [has, h₂]; rfl
      obtain ⟨jd, -, ld, d', rd, hd'⟩ := hr.exists_member has_d
      obtain ⟨j₁, m₁, l₁, n₁', r₁, h₁'⟩ := hr.exists_member has_1
      obtain ⟨j₂, m₂, l₂, n₂', r₂, h₂'⟩ := hr.exists_member has_2
      cases hd.symm.trans hd'
      cases h₁.symm.trans h₁'
      cases h₂.symm.trans h₂'
      exact .object ld l₁ l₂ (denotesDirection_iff.mpr rd).lastWins hr.givesPercentage
        (ih _ m₁ r₁) (ih _ m₂ r₂)

/-! ## What denotes a node is read as that node -/

theorem eq_of_mem_of_keys {members : List (String × Json String)}
    (hk : (members.map Prod.fst).Nodup) {key : String} {i j : Json String}
    (hi : (key, i) ∈ members) (hj : (key, j) ∈ members) : i = j :=
  congrArg Prod.snd (List.inj_on_of_nodup_map hk hi hj rfl)

/-- Where no key is repeated, the members that denote the parts of a branch are read as them. -/
theorem node?_of_denotes {members : List (String × Json String)}
    (hk : (members.map Prod.fst).Nodup) {jd j₁ j₂ : Json String} {d : Direction}
    {p : Option Float} {n₁ n₂ : Node} (md : ("direction", jd) ∈ members)
    (m₁ : ("first", j₁) ∈ members) (m₂ : ("second", j₂) ∈ members) (hd : DenotesDirection jd d)
    (hp : GivesPercentage members p) (r₁ : Node.ofJson? j₁ = some n₁)
    (r₂ : Node.ofJson? j₂ = some n₂) :
    Node.ofJson? (.object members) = some (.branch ⟨d, p⟩ n₁ n₂) := by
  have rd := denotesDirection_iff.mp hd
  let target : BranchFields := ⟨some d, some n₁, some n₂, some p⟩
  have ht : ∀ key j, (Named.name key, j) ∈ members → target.ReadFrom j key := by
    intro key j hj
    cases key with
    | direction =>
        cases eq_of_mem_of_keys hk md hj
        exact ⟨d, rd, rfl⟩
    | first =>
        cases eq_of_mem_of_keys hk m₁ hj
        exact ⟨n₁, r₁, rfl⟩
    | second =>
        cases eq_of_mem_of_keys hk m₂ hj
        exact ⟨n₂, r₂, rfl⟩
    | percentage =>
        cases hp with
        | missing hm => exact (hm (List.mem_map_of_mem hj)).elim
        | given mp hp =>
            cases eq_of_mem_of_keys hk mp hj
            exact ⟨p, denotesPercentage_iff.mp hp, rfl⟩
  obtain ⟨b, hb⟩ := Node.exists_fieldsOfMembers? (b := {}) hk ht
    (fun key _ => by cases key <;> rfl)
  have hr := Node.reads_of_fieldsOfMembers? hb
  obtain ⟨d', rd', hd'⟩ := hr.read .direction jd md
  obtain ⟨n₁', r₁', h₁'⟩ := hr.read .first j₁ m₁
  obtain ⟨n₂', r₂', h₂'⟩ := hr.read .second j₂ m₂
  cases rd.symm.trans rd'
  cases r₁.symm.trans r₁'
  cases r₂.symm.trans r₂'
  have hp' : b.percentage.getD none = p := by
    cases hp with
    | missing hm =>
        have hb : b.has .percentage ≠ true := by
          rw [Ne, hr.has_iff]
          exact fun h => h.elim (fun h => by cases h) hm
        have hn : b.percentage = none := by simpa [has] using hb
        rw [hn]
        rfl
    | given mp hp =>
        obtain ⟨p', rp', hp'⟩ := hr.read .percentage _ mp
        cases (denotesPercentage_iff.mp hp).symm.trans rp'
        rw [hp']
        rfl
  rw [Node.ofJson?, hb, Option.bind_some, node?, hd', h₁', h₂', hp']
  rfl

theorem ofJson?_of_denotesNode {j : Json String} {n : Node} (hk : j.DistinctKeys)
    (h : DenotesNode j n) : Node.ofJson? j = some n := by
  induction h with
  | pane s => rfl
  | object md m₁ m₂ hd hp _ _ ih₁ ih₂ =>
      exact node?_of_denotes hk.keys md m₁ m₂ hd hp (ih₁ (hk.member m₁)) (ih₂ (hk.member m₂))
  | three hd _ _ ih₁ ih₂ =>
      have r₁ := ih₁ (hk.item (by simp))
      have r₂ := ih₂ (hk.item (by simp))
      rw [Node.ofJson?, denotesDirection_iff.mp hd, r₁, r₂]
      rfl
  | four hd hp _ _ ih₁ ih₂ =>
      have r₁ := ih₁ (hk.item (by simp))
      have r₂ := ih₂ (hk.item (by simp))
      rw [Node.ofJson?, denotesDirection_iff.mp hd, denotesPercentage_iff.mp hp, r₁, r₂]
      rfl

/-- Without repeated keys, the documents that are read as a node are those that denote it. -/
theorem ofJson?_eq_some_iff {j : Json String} (hk : j.DistinctKeys) {n : Node} :
    Node.ofJson? j = some n ↔ DenotesNode j n := by
  refine ⟨fun h => ?_, ofJson?_of_denotesNode hk⟩
  have hd := denotesNode_lastWins h
  rw [lastWins_of_distinctKeys hk] at hd
  exact hd

end Json
end Dashboard
