import Dashboard.KeyValueStore
import Dashboard.LayoutError
import Dashboard.Preset

/-!
# Events

What a store reports about its work. An event is a value; its level, its wording and its details
are functions of it.
-/
namespace Dashboard

/-- How much an event matters. -/
inductive Level where
  | debug
  | info
  | warn
  | error
deriving DecidableEq, Repr

instance : Named Level where
  all := [.debug, .info, .warn, .error]
  name
    | .debug => "DEBUG"
    | .info => "INFO"
    | .warn => "WARN"
    | .error => "ERROR"

/-- Something that a store reports. -/
inductive Event where
  | snapshotUnreadable (error : PersistError)
  | nothingPersisted
  | restored (panes : Nat)
  | snapshotRefused (error : LayoutError)
  | snapshotNotCleared (error : PersistError)
  | mutationRefused (error : LayoutError)
  | loadingPreset (preset : Preset)
  | switchingView (view : View)
  | installing (panes : Nat)
  | notPersisted (error : PersistError)
  | drawn (drawing : String)
  | drawnEmpty

namespace Event

def level : Event → Level
  | .snapshotUnreadable _ | .snapshotRefused _ | .snapshotNotCleared _ | .notPersisted _ => .warn
  | .mutationRefused _ => .error
  | .restored _ | .loadingPreset _ => .info
  | .nothingPersisted | .switchingView _ | .installing _ | .drawn _ | .drawnEmpty => .debug

def message : Event → String
  | .snapshotUnreadable _ => "Failed to read layout snapshot"
  | .nothingPersisted => "No persisted layout, installing default"
  | .restored _ => "Restored persisted layout"
  | .snapshotRefused _ => "Invalid persisted layout, installing default"
  | .snapshotNotCleared _ => "Failed to clear invalid layout snapshot"
  | .mutationRefused _ => "Rejecting layout mutation"
  | .loadingPreset _ => "Loading layout preset"
  | .switchingView _ => "Switching view"
  | .installing _ => "Installing layout"
  | .notPersisted _ => "Failed to persist layout, keeping it in memory"
  | .drawn drawing => "Layout:\n" ++ drawing
  | .drawnEmpty => "Layout is empty"

/-- The details of an event, by name. -/
def details : Event → List (String × String)
  | .snapshotUnreadable e | .snapshotNotCleared e | .notPersisted e => [("error", e.message)]
  | .snapshotRefused e | .mutationRefused e => [("error", e.message)]
  | .restored panes | .installing panes => [("panes", Digits.text panes)]
  | .loadingPreset preset => [("preset", Named.name preset)]
  | .switchingView view => [("view", Named.name view)]
  | .nothingPersisted | .drawn _ | .drawnEmpty => []

end Event
end Dashboard
