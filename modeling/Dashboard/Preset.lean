import Dashboard.Layout

/-!
# Presets

The layouts that come with the program. They are templates: their panes carry the bare names of
widgets and get identities when the template is instantiated.
-/
namespace Dashboard

/-- A built-in layout. -/
inductive Preset where
  /-- Map and metrics above the charts of time series and template dynamics. -/
  | default
  /-- The map alone. -/
  | minimal
  | monitoring
  | analysis
deriving DecidableEq, Repr

instance : Named Preset where
  all := [.default, .minimal, .monitoring, .analysis]
  name
    | .default => "default"
    | .minimal => "minimal"
    | .monitoring => "monitoring"
    | .analysis => "analysis"

namespace Preset

def widget (w : Widget) : Node := .leaf ⟨Named.name w⟩

def row (first second : Widget) (percentage : Float) : Node :=
  (Node.branch { direction := .row } (widget first) (widget second)).withPercentage percentage

def column (first second : Node) (percentage : Float) : Node :=
  (Node.branch { direction := .column } first second).withPercentage percentage

def template : Preset → Layout
  | .default =>
      some (column (row .agentMap .globalMetrics 70.0)
        (row .timeSeriesExplorer .templateDynamics 70.0) 60.0)
  | .minimal => some (widget .agentMap)
  | .monitoring =>
      some (column (row .agentMap .globalMetrics 70.0)
        (row .templateDistribution .eventLog 50.0) 65.0)
  | .analysis =>
      some (column (row .agentMap .timeSeriesExplorer 60.0)
        (row .economicExplorer .geospatialExplorer 50.0) 55.0)

end Preset
end Dashboard
