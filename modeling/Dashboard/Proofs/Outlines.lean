import Dashboard.Proofs.Templates

/-!
# The outline of a layout

The outline of a layout is what it shows before its panes are named: which branches there are, and
how they divide their space. A layout is known from its outline and its identities in sequence.

Instantiating a template keeps the outline. The panes take the tokens in the order of the walk, and
each one puts its token after its text. So the name of a widget stays what it was, also where the
text holds a delimiter, and tokens that differ and hold no delimiter make identities that differ.
-/
namespace Dashboard

/-- A layout without its identities. -/
inductive Outline where
  | pane
  | branch (split : Split) (first second : Outline)

namespace Outline

def paneCount : Outline → Nat
  | .pane => 1
  | .branch _ first second => first.paneCount + second.paneCount

end Outline

namespace Node

def outline : Node → Outline
  | .leaf _ => .pane
  | .branch split first second => .branch split first.outline second.outline

theorem length_identities (n : Node) : n.identities.length = n.outline.paneCount := by
  induction n with
  | leaf id => rfl
  | branch split first second ih₁ ih₂ =>
      rw [identities, List.length_append, ih₁, ih₂]
      rfl

/-- The outline tells which of the identities belong to the first part of a branch. -/
theorem eq_of_outline {n m : Node} (ho : n.outline = m.outline)
    (hi : n.identities = m.identities) : n = m := by
  induction n generalizing m with
  | leaf id =>
      cases m with
      | leaf other => rw [List.singleton_inj.mp hi]
      | branch => cases ho
  | branch split first second ih₁ ih₂ =>
      cases m with
      | leaf => cases ho
      | branch split' first' second' =>
          obtain ⟨rfl, hf, hs⟩ := Outline.branch.inj ho
          have hl : first.identities.length = first'.identities.length := by
            rw [length_identities, length_identities, hf]
          obtain ⟨hf', hs'⟩ := List.append_inj hi hl
          rw [ih₁ hf hf', ih₂ hs hs']

theorem outline_instantiate {σ : Type} [TokenSource σ] (n : Node) (tokens : σ) :
    (n.instantiate tokens).1.outline = n.outline := by
  induction n generalizing tokens with
  | leaf id => rfl
  | branch split first second ih₁ ih₂ =>
      rw [outline, ← ih₁ tokens, ← ih₂ (first.instantiate tokens).2]
      rfl

end Node

/-! ## What a pane shows -/

/-- The title of a pane with the given widget name. -/
def Widget.shownTitle (name : String) : String :=
  if Widget.ofName name = .unknown then name else (Widget.ofName name).title

namespace Layout

/-- The widgets of the panes, and their titles, depend on the widget names only. -/
theorem map_widget_panes (l : Layout) :
    (panes l).map Pane.widget = ((leaves l).map PaneId.widgetName).map Widget.ofName := by
  rw [panes, List.map_map, List.map_map]
  rfl

theorem map_title_panes (l : Layout) :
    (panes l).map Pane.title = ((leaves l).map PaneId.widgetName).map Widget.shownTitle := by
  rw [panes, List.map_map, List.map_map]
  rfl

/-! ## Layouts and templates -/

/-- The outline of a layout; an empty one has none. -/
def outline (l : Layout) : Option Outline := l.map Node.outline

theorem eq_of_outline {l m : Layout} (ho : outline l = outline m) (hl : leaves l = leaves m) :
    l = m := by
  cases l with
  | none => exact (Option.map_eq_none_iff.mp ho.symm).symm
  | some n =>
      cases m with
      | none => cases ho
      | some other =>
          rw [leaves_some, leaves_some] at hl
          rw [Node.eq_of_outline (Option.some.inj ho) hl]

variable {σ : Type} [TokenSource σ]

theorem outline_instantiate (template : Layout) (tokens : σ) :
    outline (instantiate template tokens).1 = outline template := by
  cases template with
  | none => rfl
  | some n => exact congrArg some (n.outline_instantiate tokens)

theorem texts_instantiate (template : Layout) (tokens : σ) :
    (leaves (instantiate template tokens).1).map PaneId.text =
      List.zipWith (fun text token => text ++ "#" ++ token) ((leaves template).map PaneId.text)
        (TokenSource.draw (paneCount template) tokens).1 := by
  rw [leaves_instantiate, List.map_zipWith]
  rfl

theorem nodup_instantiate {template : Layout} {tokens : σ}
    (hu : (TokenSource.draw (paneCount template) tokens).1.Nodup)
    (hd : ∀ token ∈ (TokenSource.draw (paneCount template) tokens).1,
      identityDelimiter ∉ token.toList) :
    (leaves (instantiate template tokens).1).Nodup := by
  rw [leaves_instantiate]
  refine PaneId.nodup_zipWith_join ?_ hu hd
  rw [TokenSource.length_draw, List.length_map, paneCount]

/-- Instantiating a template draws one token for each of its panes. The result is the layout of the
same outline in which every pane has the text of the template, a delimiter and the token for an
identity. The widgets and titles are those of the template, and tokens that differ and hold no
delimiter make identities that differ, whatever the texts are. -/
theorem panes_of_template (template : Layout) (tokens : σ) :
    let drawn := TokenSource.draw (paneCount template) tokens
    let result := instantiate template tokens
    (∀ l : Layout, l = result.1 ↔
      outline l = outline template ∧
        (leaves l).map PaneId.text =
          List.zipWith (fun text token => text ++ "#" ++ token)
            ((leaves template).map PaneId.text) drawn.1) ∧
    result.2 = drawn.2 ∧
    (leaves result.1).map PaneId.widgetName = (leaves template).map PaneId.widgetName ∧
    (panes result.1).map Pane.widget = (panes template).map Pane.widget ∧
    (panes result.1).map Pane.title = (panes template).map Pane.title ∧
    (drawn.1.Nodup → (∀ token ∈ drawn.1, '#' ∉ token.toList) → (leaves result.1).Nodup) := by
  intro drawn result
  have hn : (leaves result.1).map PaneId.widgetName = (leaves template).map PaneId.widgetName :=
    instantiate_widgetNames template tokens
  refine ⟨?_, tokens_instantiate template tokens, hn, ?_, ?_, nodup_instantiate⟩
  · intro l
    rw [← texts_instantiate template tokens, ← outline_instantiate template tokens]
    constructor
    · intro h
      rw [h]
      exact ⟨rfl, rfl⟩
    · intro ⟨ho, ht⟩
      exact eq_of_outline ho (PaneId.text_injective.list_map ht)
  · rw [map_widget_panes, map_widget_panes, hn]
  · rw [map_title_panes, map_title_panes, hn]

/-- A template two of whose panes have been instantiated before, one of them with a delimiter in the
token. -/
def usedTemplate : Layout :=
  some (.branch ⟨.column, some 60.0⟩ (.leaf ⟨"map"⟩)
    (.branch ⟨.row, none⟩ (.leaf ⟨"map#000001"⟩) (.leaf ⟨"radar#x#000001"⟩)))

/-- The former tokens become part of the text, and the new ones are put after them. -/
theorem panes_of_usedTemplate :
    let result := (instantiate usedTemplate ({} : ScriptedTokens)).1
    result = some (.branch ⟨.column, some 60.0⟩ (.leaf ⟨"map#000001"⟩)
        (.branch ⟨.row, none⟩ (.leaf ⟨"map#000001#000002"⟩) (.leaf ⟨"radar#x#000001#000003"⟩))) ∧
      (panes result).map Pane.title = ["map", "map", "radar"] ∧ (leaves result).Nodup := by
  intro result
  have hl : leaves usedTemplate = [⟨"map"⟩, ⟨"map#000001"⟩, ⟨"radar#x#000001"⟩] := leaves_some _
  have hp : paneCount usedTemplate = 3 := by
    rw [paneCount, hl]
    rfl
  have hd : (TokenSource.draw 3 ({} : ScriptedTokens)).1 = ["000001", "000002", "000003"] := by
    decide +kernel
  obtain ⟨hr, -, -, -, ht, hu⟩ := panes_of_template usedTemplate ({} : ScriptedTokens)
  rw [hp, hd] at hr hu
  rw [map_title_panes usedTemplate, hl] at ht
  refine ⟨Eq.symm ?_, ht.trans (by decide +kernel), hu (by decide) (by decide)⟩
  rw [hr, leaves_some, hl]
  exact ⟨rfl, by decide +kernel⟩

end Layout
end Dashboard
