import Dashboard.Proofs.DocumentText
import Dashboard.Proofs.Identities
import Dashboard.Snapshot

/-!
# Layouts as they are kept

The text that is kept of a layout is read back as that layout, on either of the two routes, as long
as the layout does not nest too deep and its percentages read back. Identities may be any texts.
Whether identities repeat matters on the second route only, where it comes last: what nests too
deep is refused as no document at all.
-/
namespace Dashboard

-- unlike `==`, this tells percentages apart by their bits
deriving instance DecidableEq for Split
deriving instance DecidableEq for Node

namespace Node

/-- How many branches are inside each other at most. -/
def nesting : Node → Nat
  | .leaf _ => 0
  | .branch _ first second => max first.nesting second.nesting + 1

/-- The percentages of the branches. -/
def percentages : Node → List Float
  | .leaf _ => []
  | .branch split first second =>
      split.percentage.toList ++ first.percentages ++ second.percentages

end Node

namespace Layout

def nesting : Layout → Nat
  | none => 0
  | some n => n.nesting

def percentages : Layout → List Float
  | none => []
  | some n => n.percentages

end Layout

/-! ## Percentages -/

theorem NumberLiteral.ReadsBack.ofFloat {x : Float} (h : NumberLiteral.ReadsBack x) :
    ∃ l, Json.ofFloat x = .number l ∧ l.WellSpelled ∧ l.value? = some x := by
  obtain ⟨l, hl, hv⟩ := h.literal
  refine ⟨l, ?_, NumberLiteral.ofFloat?_wellSpelled hl, hv⟩
  unfold Json.ofFloat
  rw [hl]

@[simp] theorem Json.nesting_ofFloat (x : Float) : (Json.ofFloat x).nesting = 0 := by
  unfold ofFloat
  split <;> rfl

@[simp] theorem Json.lastWins_ofFloat (x : Float) : (Json.ofFloat x).lastWins = Json.ofFloat x := by
  unfold ofFloat
  split <;> rfl

/-! ## The document of a node -/

namespace Node

/-- A branch without a percentage, as a document. -/
theorem toJson_branch_none (direction : Direction) (first second : Node) :
    (branch ⟨direction, none⟩ first second).toJson =
      .object
        [("direction", .text (Named.name direction)), ("first", first.toJson),
          ("second", second.toJson)] := rfl

/-- A branch with a percentage, as a document. -/
theorem toJson_branch_some (direction : Direction) (p : Float) (first second : Node) :
    (branch ⟨direction, some p⟩ first second).toJson =
      .object
        [("direction", .text (Named.name direction)), ("first", first.toJson),
          ("second", second.toJson), ("splitPercentage", Json.ofFloat p)] := rfl

/-- Every branch opens one object. -/
@[simp] theorem nesting_toJson (n : Node) : n.toJson.nesting = n.nesting := by
  induction n with
  | leaf id => rfl
  | branch split first second ih₁ ih₂ =>
      obtain ⟨direction, _ | p⟩ := split
      · rw [toJson_branch_none]
        simp [Json.nesting, Json.membersNesting, ih₁, ih₂, nesting]
      · rw [toJson_branch_some]
        simp [Json.nesting, Json.membersNesting, ih₁, ih₂, nesting]

/-- No key is repeated in the document of a node. -/
theorem lastWins_toJson (n : Node) : n.toJson.lastWins = n.toJson := by
  induction n with
  | leaf id => rfl
  | branch split first second ih₁ ih₂ =>
      obtain ⟨direction, _ | p⟩ := split
      · rw [toJson_branch_none]
        simp [Json.lastWins, Json.membersLastWin, ih₁, ih₂]
      · rw [toJson_branch_some]
        simp [Json.lastWins, Json.membersLastWin, ih₁, ih₂]

theorem isWellFormed_toJson (n : Node) : Snapshot.isWellFormed n.toJson = true := by
  cases n with
  | leaf id => rfl
  | branch split first second =>
      obtain ⟨direction, _ | p⟩ := split <;> rfl

theorem readable_toJson {n : Node} (h : ∀ p ∈ n.percentages, NumberLiteral.ReadsBack p) :
    n.toJson.Readable := by
  induction n with
  | leaf id => trivial
  | branch split first second ih₁ ih₂ =>
      simp only [percentages, List.mem_append] at h
      have h₁ := ih₁ fun p hp => h p (.inl (.inr hp))
      have h₂ := ih₂ fun p hp => h p (.inr hp)
      obtain ⟨direction, _ | p⟩ := split
      · exact ⟨trivial, h₁, h₂, trivial⟩
      · have hp : NumberLiteral.ReadsBack p := h p (.inl (.inl List.mem_cons_self))
        obtain ⟨l, hl, hs, hv⟩ := hp.ofFloat
        have hr : (Json.ofFloat p).Readable := by
          rw [hl]
          exact ⟨hs, by rw [hv]; rfl⟩
        exact ⟨trivial, h₁, h₂, hr, trivial⟩

theorem ofJson?_direction (d : Direction) : Named.ofJson? (.text (Named.name d)) = some d := by
  cases d <;> decide

/-- A node is read from its document. -/
theorem ofJson?_toJson {n : Node} (h : ∀ p ∈ n.percentages, NumberLiteral.ReadsBack p) :
    ofJson? n.toJson = some n := by
  induction n with
  | leaf id => rfl
  | branch split first second ih₁ ih₂ =>
      simp only [percentages, List.mem_append] at h
      have h₁ := ih₁ fun p hp => h p (.inl (.inr hp))
      have h₂ := ih₂ fun p hp => h p (.inr hp)
      obtain ⟨direction, _ | p⟩ := split
      · rw [toJson_branch_none]
        simp [ofJson?, fieldsOfMembers?, ofJson?_direction, h₁, h₂, BranchFields.node?]
      · have hp : NumberLiteral.ReadsBack p := h p (.inl (.inl List.mem_cons_self))
        obtain ⟨l, hl, -, hv⟩ := hp.ofFloat
        have hj : percentageOfJson? (Json.ofFloat p) = some (some p) := by
          rw [hl, percentageOfJson?, hv]
          rfl
        rw [toJson_branch_some]
        simp [ofJson?, fieldsOfMembers?, ofJson?_direction, h₁, h₂, hj, BranchFields.node?]

end Node

/-! ## The two routes -/

namespace Layout

theorem nesting_toJson (l : Layout) : (toJson l).nesting = nesting l := by
  cases l with
  | none => rfl
  | some n => exact n.nesting_toJson

theorem readable_toJson {l : Layout} (h : ∀ p ∈ percentages l, NumberLiteral.ReadsBack p) :
    (toJson l).Readable := by
  cases l with
  | none => trivial
  | some n => exact Node.readable_toJson h

theorem ofJson?_toJson {l : Layout} (h : ∀ p ∈ percentages l, NumberLiteral.ReadsBack p) :
    ofJson? (toJson l) = some l := by
  cases l with
  | none => rfl
  | some n =>
      -- only a node's document is not null
      have hn : ofJson? n.toJson = (Node.ofJson? n.toJson).map some := by
        cases n <;> rfl
      exact hn.trans (congrArg (Option.map some) (Node.ofJson?_toJson h))

theorem lastWins_toJson (l : Layout) : (toJson l).lastWins = toJson l := by
  cases l with
  | none => rfl
  | some n => exact n.lastWins_toJson

theorem isWellFormed_toJson (l : Layout) : Snapshot.isWellFormed (toJson l) = true := by
  cases l with
  | none => rfl
  | some n => exact n.isWellFormed_toJson

/-- The text that is kept is read as its document, unless the layout nests too deep. -/
theorem json_read?_encode {l : Layout} (h : ∀ p ∈ percentages l, NumberLiteral.ReadsBack p) :
    Json.read? (encode l) = if nesting l ≤ Json.nestingLimit then some (toJson l) else none := by
  have hr := Json.read?_compact (readable_toJson h)
  rw [nesting_toJson] at hr
  exact hr

theorem read?_encode {l : Layout} (h : ∀ p ∈ percentages l, NumberLiteral.ReadsBack p) :
    read? (encode l) = if nesting l ≤ Json.nestingLimit then some l else none := by
  unfold read?
  rw [json_read?_encode h]
  split
  · exact ofJson?_toJson h
  · rfl

end Layout

namespace Snapshot

theorem decode_encode_of_nesting {l : Layout}
    (h : ∀ p ∈ Layout.percentages l, NumberLiteral.ReadsBack p)
    (hn : Layout.nesting l ≤ Json.nestingLimit) :
    decode (Layout.encode l) = (Layout.checkUnique l).map fun _ => l := by
  unfold decode
  rw [Layout.json_read?_encode h, if_pos hn, Option.map_some, Layout.lastWins_toJson]
  simp only [Layout.isWellFormed_toJson, if_true, Layout.ofJson?_toJson h]

theorem decode_encode_of_lt_nesting {l : Layout}
    (h : ∀ p ∈ Layout.percentages l, NumberLiteral.ReadsBack p)
    (hn : Json.nestingLimit < Layout.nesting l) :
    decode (Layout.encode l) = .error .notJson := by
  unfold decode
  rw [Layout.json_read?_encode h, if_neg (Nat.not_le_of_lt hn)]
  rfl

/-- What becomes of a layout whose percentages read back when its kept text is read. -/
theorem decode_encode (l : Layout) (h : ∀ p ∈ Layout.percentages l, NumberLiteral.ReadsBack p) :
    (Layout.nesting l ≤ 127 →
      Layout.read? (Layout.encode l) = some l ∧
        ((Layout.leaves l).Nodup → decode (Layout.encode l) = .ok l) ∧
        (¬ (Layout.leaves l).Nodup →
          decode (Layout.encode l) = .error (.duplicateIdentities (Layout.duplicates l)))) ∧
    (128 ≤ Layout.nesting l →
      Layout.read? (Layout.encode l) = none ∧ decode (Layout.encode l) = .error .notJson) := by
  constructor
  · intro hn
    have hd := decode_encode_of_nesting h hn
    refine ⟨?_, ?_, ?_⟩
    · rw [Layout.read?_encode h]
      exact if_pos hn
    · intro hu
      rw [hd, Layout.checkUnique_of_nodup hu]
      rfl
    · intro hu
      rw [hd, Layout.checkUnique_of_not_nodup hu]
      rfl
  · intro hn
    refine ⟨?_, decode_encode_of_lt_nesting h hn⟩
    rw [Layout.read?_encode h]
    exact if_neg (Nat.not_le_of_lt hn)

/-- A layout with a percentage, and with identities that cannot be written as they are. -/
def awkward : Layout :=
  some (.branch ⟨.column, some 62.5⟩ (.leaf ⟨"\"\\"⟩)
    (.branch ⟨.row, none⟩ (.leaf ⟨""⟩) (.leaf ⟨"\x01\n\u00e9#"⟩)))

theorem decode_encode_awkward :
    (∀ p ∈ Layout.percentages awkward, NumberLiteral.ReadsBack p) ∧
      Layout.read? (Layout.encode awkward) = some awkward ∧
      decode (Layout.encode awkward) = .ok awkward := by
  have h : ∀ p ∈ Layout.percentages awkward, NumberLiteral.ReadsBack p := by
    intro p hp
    have hp : p = 62.5 := List.mem_singleton.mp hp
    rw [hp]
    decide +kernel
  have hu : (Layout.leaves awkward).Nodup := by
    rw [awkward, Layout.leaves_some]
    decide
  obtain ⟨hr, hd, -⟩ := (decode_encode awkward h).1 (by decide)
  exact ⟨h, hr, hd hu⟩

end Snapshot
end Dashboard
