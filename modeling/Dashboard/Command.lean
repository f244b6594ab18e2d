import Dashboard.Preset
import Dashboard.Snapshot

/-!
# Commands

What can be asked of a dashboard, and the JSON documents that say so. A command is a text with its
name, or an object with its name as the only key. Commands with several arguments hold them in an
object or, in a fixed order, in an array. Arguments that are not known are passed over without
looking into them: they may hold what could not be read as a value, and their nesting does not
count.
-/
namespace Dashboard

/-- A request to change the dashboard. -/
inductive Command where
  | addWidget (widget : String)
  | addWidgetAt (target : PaneId) (widget : String) (direction : Direction)
  | removeWidget (id : PaneId)
  | loadPreset (preset : Preset)
  | loadDefaultLayout
  | resetToMinimal
  | replaceTree (layout : Layout)
  | setActiveView (view : View)

namespace Command

def toJson : Command → Json String
  | .addWidget widget => .object [("add_widget", .object [("widget", .text widget)])]
  | .addWidgetAt target widget direction =>
      .object
        [("add_widget_at", .object
          [("target", .text target.text), ("widget", .text widget),
            ("direction", .text (Named.name direction))])]
  | .removeWidget id => .object [("remove_widget", .text id.text)]
  | .loadPreset preset => .object [("load_preset", .text (Named.name preset))]
  | .loadDefaultLayout => .text "load_default_layout"
  | .resetToMinimal => .text "reset_to_minimal"
  | .replaceTree layout => .object [("replace_tree", Layout.toJson layout)]
  | .setActiveView view => .object [("set_active_view", .text (Named.name view))]

def encode (c : Command) : String := c.toJson.compact

/-- The arguments of a command: a spelled object with readable keys, or an array. -/
inductive Arguments where
  | named (arguments : List (String × Json Spelling))
  | listed (arguments : List (Json Spelling))

namespace Arguments

def ofJson? : Json Spelling → Option Arguments
  | .object members =>
      (members.mapM fun m => (Spelling.text? m.1).map (·, m.2)).map .named
  | .array items => some (.listed items)
  | _ => none

/-- The value of the argument with the given name; `some none` if it is not given. An argument may
not be given twice. -/
def lookup? (arguments : List (String × Json Spelling)) (name : String) :
    Option (Option (Json Spelling)) :=
  match arguments.filter (·.1 = name) with
  | [] => some none
  | [(_, j)] => some (some j)
  | _ => none

def required? (arguments : List (String × Json Spelling)) (name : String) :
    Option (Json Spelling) :=
  (lookup? arguments name).join

end Arguments

def textOf? : Json Spelling → Option String
  | .text s => s.text?
  | _ => none

/-- The choice that a document names. Such a document nests at most once, so the limit on nesting
is never reached. -/
def choiceOf? {α : Type} [Named α] (j : Json Spelling) : Option α :=
  (j.value? Json.nestingLimit).bind Named.ofJson?

/-- Reads the arguments of `addWidget`. -/
def addWidgetOf? (j : Json Spelling) : Option Command := do
  match ← Arguments.ofJson? j with
  | .named arguments => some (.addWidget (← textOf? (← Arguments.required? arguments "widget")))
  | .listed [widget] => some (.addWidget (← textOf? widget))
  | .listed _ => none

/-- Reads the arguments of `addWidgetAt`. The direction is a row unless it is given. -/
def addWidgetAtOf? (j : Json Spelling) : Option Command := do
  match ← Arguments.ofJson? j with
  | .named arguments =>
      let target ← textOf? (← Arguments.required? arguments "target")
      let widget ← textOf? (← Arguments.required? arguments "widget")
      match ← Arguments.lookup? arguments "direction" with
      | none => some (.addWidgetAt ⟨target⟩ widget .row)
      | some direction => some (.addWidgetAt ⟨target⟩ widget (← choiceOf? direction))
  | .listed [target, widget] => some (.addWidgetAt ⟨← textOf? target⟩ (← textOf? widget) .row)
  | .listed [target, widget, direction] =>
      some (.addWidgetAt ⟨← textOf? target⟩ (← textOf? widget) (← choiceOf? direction))
  | .listed _ => none

/-- Reads the command with the given name and arguments. A layout is one level deeper in the text
than it is by itself. -/
def ofMember? (name : String) (j : Json Spelling) : Option Command :=
  match name with
  | "add_widget" => addWidgetOf? j
  | "add_widget_at" => addWidgetAtOf? j
  | "remove_widget" => (textOf? j).map fun id => .removeWidget ⟨id⟩
  | "load_preset" => (choiceOf? j).map .loadPreset
  | "load_default_layout" => match j with | .null => some .loadDefaultLayout | _ => none
  | "reset_to_minimal" => match j with | .null => some .resetToMinimal | _ => none
  | "replace_tree" =>
      ((j.value? (Json.nestingLimit - 1)).bind Layout.ofJson?).map .replaceTree
  | "set_active_view" => (choiceOf? j).map .setActiveView
  | _ => none

def ofJson? : Json Spelling → Option Command
  | .text s => do
      match ← s.text? with
      | "load_default_layout" => some .loadDefaultLayout
      | "reset_to_minimal" => some .resetToMinimal
      | _ => none
  | .object [(key, j)] => do ofMember? (← key.text?) j
  | _ => none

def read? (text : String) : Option Command := (Json.parse? text).bind ofJson?

end Command
end Dashboard
