import Dashboard.Command
import Dashboard.Drawing
import Dashboard.Edit
import Dashboard.Event

/-!
# The store

The store owns the current layout. It starts from what the backend has kept, or from the default
layout; after that, every accepted change replaces the layout as a whole and is written to the
backend. What becomes of the writing never decides about the layout: a failure is reported, and
the layout in memory stands.

Changes that could bring two panes of one identity are checked and refused. Loading a template is
not checked.

Blank are the characters with the Unicode property White_Space; those without width, such as the
byte order mark, are not. They do not count at the ends of a kept text.
-/
namespace Dashboard

/-! ## Blank characters -/

def isBlank (c : Char) : Bool :=
  let n := c.toNat
  (9 ≤ n && n ≤ 13) || n = 0x20 || n = 0x85 || n = 0xA0 || n = 0x1680 ||
    (0x2000 ≤ n && n ≤ 0x200A) || n = 0x2028 || n = 0x2029 || n = 0x202F || n = 0x205F || n = 0x3000

def dropBlankEnd (cs : List Char) : List Char := (cs.reverse.dropWhile isBlank).reverse

def trimBlank (cs : List Char) : List Char := dropBlankEnd (cs.dropWhile isBlank)

example : trimBlank " \u00a0null\u3000\n".toList = "null".toList := by decide +kernel
example : trimBlank "\ufeffnull".toList = "\ufeffnull".toList := by decide +kernel

/-! ## What is shown -/

/-- The page, the panes and the layout of a dashboard. -/
structure StateData where
  view : View
  paneCount : Nat
  panes : List Pane
  layout : Layout

namespace StateData

def ofLayout (view : View) (l : Layout) : StateData where
  view := view
  paneCount := Layout.paneCount l
  panes := Layout.panes l
  layout := l

def toJson (s : StateData) : Json String :=
  .object
    [("view", .text (Named.name s.view)), ("pane_count", .number (.ofNat s.paneCount)),
      ("panes", .array (s.panes.map Pane.toJson)), ("layout", Layout.toJson s.layout)]

end StateData

/-! ## The state of a dashboard -/

/-- What a store is set up with. -/
structure LayoutSettings where
  /-- The widget of the single pane that a reset leaves. -/
  defaultWidget : String := Named.name Widget.agentMap
deriving DecidableEq, Repr

/-- Where a store got its first layout. -/
inductive Origin where
  /-- The layout had been kept. -/
  | restored
  /-- Nothing had been kept, so it is the default layout. -/
  | defaulted
  /-- What had been kept was refused and removed, so it is the default layout. -/
  | recovered (error : LayoutError)
deriving DecidableEq, Repr

/-- The state of a dashboard, over a source of tokens and a backend. -/
structure Store (σ β : Type) where
  layout : Layout
  view : View
  tokens : σ
  backend : β
  settings : LayoutSettings
  origin : Origin
  /-- What has been reported, oldest first. -/
  log : List Event

/-- The key under which the layout is kept. -/
def snapshotKey : String := "mosaic_layout"

namespace Store

variable {σ β : Type} [TokenSource σ] [KeyValueStore β]

def report (s : Store σ β) (e : Event) : Store σ β := { s with log := s.log ++ [e] }

def useDefault (s : Store σ β) : Store σ β :=
  let (layout, tokens) := Layout.instantiate Preset.default.template s.tokens
  { s with layout, tokens }

/-- The part of a kept text that counts, if there is any: what is left without the blank
characters around it, unless that is nothing or the text `null`. -/
def significant? (text : String) : Option String :=
  let trimmed := String.ofList (trimBlank text.toList)
  if trimmed.isEmpty ∨ trimmed = "null" then none else some trimmed

/-- Reads the kept text. A failure counts as if nothing had been kept. -/
def readSnapshot (s : Store σ β) : Option String × Store σ β :=
  match KeyValueStore.get snapshotKey s.backend with
  | (.ok text, backend) => (text, { s with backend })
  | (.error e, backend) => (none, { s with backend }.report (.snapshotUnreadable e))

def clearSnapshot (s : Store σ β) : Store σ β :=
  match KeyValueStore.remove snapshotKey s.backend with
  | (.ok (), backend) => { s with backend }
  | (.error e, backend) => { s with backend }.report (.snapshotNotCleared e)

/-- Takes over the kept layout, or the default one. -/
def restore (s : Store σ β) : Store σ β :=
  let (text, s) := s.readSnapshot
  match text.bind significant? with
  | none => { (s.report .nothingPersisted).useDefault with origin := .defaulted }
  | some text =>
      match Snapshot.decode text with
      | .ok layout =>
          { s.report (.restored (Layout.paneCount layout)) with layout, origin := .restored }
      | .error e =>
          { (s.report (.snapshotRefused e)).clearSnapshot.useDefault with origin := .recovered e }

/-- The store with which a session starts. -/
def bootstrap (backend : β) (tokens : σ) (settings : LayoutSettings) : Store σ β :=
  restore
    { layout := none, view := .initial, tokens, backend, settings, origin := .defaulted, log := [] }

def persist (s : Store σ β) : Store σ β :=
  match KeyValueStore.set snapshotKey (Layout.encode s.layout) s.backend with
  | (.ok (), backend) => { s with backend }
  | (.error e, backend) => { s with backend }.report (.notPersisted e)

/-- Makes a layout the current one. -/
def install (s : Store σ β) (layout : Layout) : Store σ β :=
  persist { s.report (.installing (Layout.paneCount layout)) with layout }

/-- Runs an edit on the current layout and installs the result unless identities repeat in it. The
tokens that the edit has drawn are spent in any case. -/
def apply (s : Store σ β) (edit : Layout → σ → Layout × σ) : Except LayoutError Unit × Store σ β :=
  let (layout, tokens) := edit s.layout s.tokens
  let s := { s with tokens }
  match Layout.checkUnique layout with
  | .error e => (.error e, s.report (.mutationRefused e))
  | .ok () => (.ok (), s.install layout)

def addWidget (s : Store σ β) (widget : String) : Except LayoutError Unit × Store σ β :=
  s.apply fun layout tokens => Layout.insertFirst layout widget tokens

def addWidgetAt (s : Store σ β) (target : PaneId) (widget : String) (direction : Direction) :
    Except LayoutError Unit × Store σ β :=
  s.apply fun layout tokens => Layout.insertAt layout target widget direction tokens

def removeWidget (s : Store σ β) (id : PaneId) : Except LayoutError Unit × Store σ β :=
  s.apply fun layout tokens => (Layout.remove layout id, tokens)

def replaceTree (s : Store σ β) (layout : Layout) : Except LayoutError Unit × Store σ β :=
  s.apply fun _ tokens => (layout, tokens)

/-- Installs a template with fresh identities, unchecked. -/
def loadTemplate (s : Store σ β) (template : Layout) : Store σ β :=
  let (layout, tokens) := Layout.instantiate template s.tokens
  { s with tokens }.install layout

def loadPreset (s : Store σ β) (preset : Preset) : Store σ β :=
  (s.report (.loadingPreset preset)).loadTemplate preset.template

def loadDefaultLayout (s : Store σ β) : Store σ β := s.loadPreset .default

/-- Discards all panes and leaves a single one of the default widget. -/
def resetToMinimal (s : Store σ β) : Store σ β :=
  let (id, tokens) := PaneId.fresh s.settings.defaultWidget s.tokens
  { s with tokens }.install (some (.leaf id))

def setActiveView (s : Store σ β) (view : View) : Store σ β :=
  { s.report (.switchingView view) with view }

/-- Carries out a command. -/
def handle (s : Store σ β) : Command → Except LayoutError Unit × Store σ β
  | .addWidget widget => s.addWidget widget
  | .addWidgetAt target widget direction => s.addWidgetAt target widget direction
  | .removeWidget id => s.removeWidget id
  | .loadPreset preset => (.ok (), s.loadPreset preset)
  | .loadDefaultLayout => (.ok (), s.loadDefaultLayout)
  | .resetToMinimal => (.ok (), s.resetToMinimal)
  | .replaceTree layout => s.replaceTree layout
  | .setActiveView view => (.ok (), s.setActiveView view)

def panes (s : Store σ β) : List Pane := Layout.panes s.layout

def stateData (s : Store σ β) : StateData := StateData.ofLayout s.view s.layout

/-- Reports the drawing of the current layout, without the blank characters at its end. -/
def reportDrawing (s : Store σ β) : Store σ β :=
  match s.layout with
  | none => s.report .drawnEmpty
  | some n => s.report (.drawn (String.ofList (dropBlankEnd n.draw.toList)))

end Store
end Dashboard
