import Dashboard.Json

/-!
# Finite choices with names

Directions, views, presets and kinds of widgets are finite choices. Each is identified, in texts
and in JSON documents, by its exact name. In a document the name may also stand as the only key of
an object whose value is null.

Widgets are the kinds of content that a pane can show. Any text may be used as the name of a
widget; a name that is not known stands for the placeholder `Widget.unknown`. Views are the pages
of the dashboard, of which only the global one shows the layout of panes.
-/
namespace Dashboard

/-- A finite type whose elements have names. -/
class Named (α : Type) where
  /-- All elements, in the order in which they are listed to users. -/
  all : List α
  /-- The name of an element. -/
  name : α → String

namespace Named

def ofName? {α : Type} [Named α] (s : String) : Option α := (all : List α).find? (name · = s)

def ofJson? {α : Type} [Named α] : Json String → Option α
  | .text s => ofName? s
  | .object [(s, .null)] => ofName? s
  | _ => none

end Named

/-! ## Widgets -/

/-- A kind of content. -/
inductive Widget where
  | agentMap
  | globalMetrics
  | templateDistribution
  | eventLog
  | templateDynamics
  | timeSeriesExplorer
  | economicExplorer
  | geospatialExplorer
  | metrics
  | agentInspector
  | unknown
deriving DecidableEq, Repr

/-- The groups in which widgets are offered. -/
inductive Category where
  | global
  | analysis
  | legacy
  | other
deriving DecidableEq, Repr

instance : Named Widget where
  all :=
    [.agentMap, .globalMetrics, .templateDistribution, .eventLog, .templateDynamics,
      .timeSeriesExplorer, .economicExplorer, .geospatialExplorer, .metrics, .agentInspector,
      .unknown]
  name
    | .agentMap => "agentMap"
    | .globalMetrics => "globalMetrics"
    | .templateDistribution => "templateDistribution"
    | .eventLog => "eventLog"
    | .templateDynamics => "templateDynamics"
    | .timeSeriesExplorer => "timeSeriesExplorer"
    | .economicExplorer => "economicExplorer"
    | .geospatialExplorer => "geospatialExplorer"
    | .metrics => "metrics"
    | .agentInspector => "agentInspector"
    | .unknown => "unknown"

instance : Named Category where
  all := [.global, .analysis, .legacy, .other]
  name
    | .global => "global"
    | .analysis => "analysis"
    | .legacy => "legacy"
    | .other => "other"

namespace Widget

def ofName (s : String) : Widget := (Named.ofName? s).getD .unknown

/-- The widgets that a user can choose, in the order of the menu. -/
def menu : List Widget := Named.all.filter (· ≠ .unknown)

def title : Widget → String
  | .agentMap => "Agent Map"
  | .globalMetrics => "Global Metrics"
  | .templateDistribution => "Template Distribution"
  | .eventLog => "Event Log"
  | .templateDynamics => "Template Dynamics"
  | .timeSeriesExplorer => "Time Series Explorer"
  | .economicExplorer => "Economic Explorer"
  | .geospatialExplorer => "Geospatial Explorer"
  | .metrics => "Metrics Dashboard"
  | .agentInspector => "Agent Inspector"
  | .unknown => "Unknown Widget"

def category : Widget → Category
  | .agentMap | .globalMetrics | .templateDistribution | .eventLog => .global
  | .templateDynamics | .timeSeriesExplorer | .economicExplorer | .geospatialExplorer => .analysis
  | .metrics | .agentInspector => .legacy
  | .unknown => .other

end Widget

/-! ## Views -/

/-- A page of the dashboard. -/
inductive View where
  | global
  | economicExplorer
  | politicalExplorer
deriving DecidableEq, Repr

instance : Named View where
  all := [.global, .economicExplorer, .politicalExplorer]
  name
    | .global => "global"
    | .economicExplorer => "economic_explorer"
    | .politicalExplorer => "political_explorer"

def View.initial : View := .global

end Dashboard
