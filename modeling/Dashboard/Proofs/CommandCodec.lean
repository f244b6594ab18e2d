import Dashboard.Proofs.Session
import Dashboard.Proofs.SnapshotCodec

/-!
# Commands as they are sent

The text of a command is read back as that command. For seven of the eight kinds nothing is asked;
what they hold are names and texts of any characters. A layout has to be one whose percentages read
back, and as the text of a command puts it inside of an object, it may nest one branch less than a
layout that is kept.
-/
namespace Dashboard

/-! ## Names -/

section
variable {α : Type} [Named α]

/-- A choice is read from its name. -/
theorem Command.choiceOf?_text {x : α} (h : Named.ofName? (Named.name x) = some x) :
    Command.choiceOf? (.text (Spelling.ofString (Named.name x))) = some x := by
  unfold choiceOf? Json.value?
  rw [Spelling.text?_ofString]
  exact h

end

theorem Direction.ofName?_name (d : Direction) : Named.ofName? (Named.name d) = some d := by
  cases d <;> decide

theorem Preset.ofName?_name (p : Preset) : Named.ofName? (Named.name p) = some p := by
  cases p <;> decide

theorem View.ofName?_name (v : View) : Named.ofName? (Named.name v) = some v := by
  cases v <;> decide

namespace Command

/-- The layout that a command brings along. Most bring none, which counts as the empty one. -/
def layout : Command → Layout
  | .replaceTree l => l
  | _ => none

/-- The commands that are read back from their texts. -/
structure Sendable (c : Command) : Prop where
  nesting : Layout.nesting c.layout ≤ 126
  percentages : ∀ p ∈ Layout.percentages c.layout, NumberLiteral.ReadsBack p

theorem readable_toJson {c : Command}
    (h : ∀ p ∈ Layout.percentages c.layout, NumberLiteral.ReadsBack p) : c.toJson.Readable := by
  cases c with
  | replaceTree l => exact ⟨Layout.readable_toJson h, trivial⟩
  | _ => simp [toJson, Json.Readable, Json.MembersReadable]

theorem textOf?_text (s : String) : textOf? (.text (Spelling.ofString s)) = some s :=
  Spelling.text?_ofString s

/-- Arguments are read from the object that holds them. -/
theorem Arguments.ofJson?_spelled (ms : List (String × Json String)) :
    Arguments.ofJson? (Json.spelled (.object ms)) =
      some (.named (ms.map fun m => (m.1, m.2.spelled))) := by
  have hm : (Json.membersSpelled ms).mapM (fun m => (Spelling.text? m.1).map (·, m.2)) =
      some (ms.map fun m => (m.1, m.2.spelled)) := by
    induction ms with
    | nil => rfl
    | cons m ms ih => simp [Json.membersSpelled, ih]
  rw [Json.spelled, ofJson?, hm, Option.map_some]

theorem ofJson?_member (name : String) (j : Json String) :
    ofJson? (Json.spelled (.object [(name, j)])) = ofMember? name j.spelled := by
  simp [Json.spelled, Json.membersSpelled, ofJson?]

/-- A layout inside of a command is read unless it nests too deep. -/
theorem ofMember?_replaceTree {l : Layout}
    (h : ∀ p ∈ Layout.percentages l, NumberLiteral.ReadsBack p) :
    ofMember? "replace_tree" (Layout.toJson l).spelled =
      if Layout.nesting l ≤ 126 then some (.replaceTree l) else none := by
  have hv := Json.value?_spelled (Layout.toJson l) 126 (Layout.readable_toJson h)
  rw [Layout.nesting_toJson] at hv
  rw [ofMember?]
  change ((Json.value? 126 (Layout.toJson l).spelled).bind Layout.ofJson?).map replaceTree = _
  rw [hv]
  split
  · rw [Option.bind_some, Layout.ofJson?_toJson h, Option.map_some]
  · rfl

/-- Every command is read from its document, unless it brings a layout that nests too deep. -/
theorem ofJson?_toJson {c : Command}
    (h : ∀ p ∈ Layout.percentages c.layout, NumberLiteral.ReadsBack p) :
    ofJson? c.toJson.spelled = if Layout.nesting c.layout ≤ 126 then some c else none := by
  cases c with
  | addWidget widget =>
      rw [toJson, ofJson?_member, ofMember?, addWidgetOf?, Arguments.ofJson?_spelled]
      simp [Arguments.required?, Arguments.lookup?, Json.spelled, textOf?_text, layout,
        Layout.nesting]
  | addWidgetAt target widget direction =>
      have hd := choiceOf?_text direction.ofName?_name
      rw [toJson, ofJson?_member, ofMember?, addWidgetAtOf?, Arguments.ofJson?_spelled]
      simp [Arguments.required?, Arguments.lookup?, Json.spelled, textOf?_text, hd, layout,
        Layout.nesting]
  | removeWidget id =>
      rw [toJson, ofJson?_member, ofMember?, Json.spelled, textOf?_text]
      rfl
  | loadPreset preset =>
      rw [toJson, ofJson?_member, ofMember?, Json.spelled, choiceOf?_text preset.ofName?_name]
      rfl
  | loadDefaultLayout => simp [toJson, Json.spelled, ofJson?, layout, Layout.nesting]
  | resetToMinimal => simp [toJson, Json.spelled, ofJson?, layout, Layout.nesting]
  | replaceTree l =>
      rw [toJson, ofJson?_member]
      exact ofMember?_replaceTree h
  | setActiveView view =>
      rw [toJson, ofJson?_member, ofMember?, Json.spelled, choiceOf?_text view.ofName?_name]
      rfl

theorem read?_encode_eq {c : Command}
    (h : ∀ p ∈ Layout.percentages c.layout, NumberLiteral.ReadsBack p) :
    read? c.encode = if Layout.nesting c.layout ≤ 126 then some c else none := by
  rw [read?, encode, Json.parse?_compact (readable_toJson h), Option.bind_some, ofJson?_toJson h]

theorem Sendable.read? {c : Command} (h : c.Sendable) : read? c.encode = some c := by
  rw [read?_encode_eq h.percentages, if_pos h.nesting]

/-- A command is read back from its text. So no two commands have the same text, and a store does
with a command that it is sent what it does with the command itself. -/
theorem read?_encode_of_sendable (c : Command) (h : c.Sendable) :
    read? c.encode = some c ∧
    (∀ d : Command, d.Sendable → d.encode = c.encode → d = c) ∧
    ∀ (σ β : Type) [TokenSource σ] [KeyValueStore β] (s : Store σ β),
      (read? c.encode).map s.handle = some (s.handle c) := by
  refine ⟨h.read?, ?_, ?_⟩
  · intro d hd he
    have hr : Command.read? d.encode = some d := hd.read?
    rw [he, h.read?] at hr
    exact (Option.some.inj hr).symm
  · intro σ β _ _ s
    rw [h.read?, Option.map_some]

/-- A command whose layout has a percentage, and identities that cannot be written as they are. -/
def awkward : Command :=
  .replaceTree (some (.branch ⟨.row, some 37.5⟩ (.leaf ⟨"\"replace_tree\\"⟩) (.leaf ⟨"\x02\t"⟩)))

/-- It is read back, and its text is not that of the command without a layout. -/
theorem read?_encode_awkward :
    awkward.Sendable ∧ read? awkward.encode = some awkward ∧
      (replaceTree none).encode ≠ awkward.encode := by
  have hs : awkward.Sendable := by
    refine ⟨by decide, ?_⟩
    intro p hp
    have hp : p = 37.5 := List.mem_singleton.mp hp
    rw [hp]
    decide +kernel
  have hn : (replaceTree none).Sendable := ⟨by decide, fun _ h => (List.not_mem_nil h).elim⟩
  obtain ⟨hr, hd, -⟩ := read?_encode_of_sendable awkward hs
  exact ⟨hs, hr, fun he => nomatch hd _ hn he⟩

end Command
end Dashboard
