import Dashboard.Widget

/-!
# Panes

A pane is known by its identity, a text of the form `widget#suffix`. The first delimiter divides
it; everything before is the name of a widget, and a text without a delimiter is the name of a
widget as a whole.
-/
namespace Dashboard

/-- The character between the name of a widget and the suffix that makes an identity unique. -/
def identityDelimiter : Char := '#'

/-- The identity of a pane. -/
structure PaneId where
  text : String
deriving DecidableEq, Repr

namespace PaneId

/-- The name of the widget, which is what stands before the first delimiter. -/
def widgetName (id : PaneId) : String :=
  String.ofList (id.text.toList.takeWhile (· ≠ identityDelimiter))

/-- What stands after the first delimiter. -/
def suffix? (id : PaneId) : Option String :=
  match id.text.toList.dropWhile (· ≠ identityDelimiter) with
  | [] => none
  | _ :: suffix => some (String.ofList suffix)

def widget (id : PaneId) : Widget := Widget.ofName id.widgetName

end PaneId

/-- What is needed to show a pane. -/
structure Pane where
  id : PaneId
  widget : Widget
  title : String
deriving DecidableEq, Repr

namespace Pane

/-- The pane with the given identity. A pane of an unknown widget has the widget's name for its
title. -/
def ofId (id : PaneId) : Pane where
  id := id
  widget := id.widget
  title := if id.widget = .unknown then id.widgetName else id.widget.title

def toJson (p : Pane) : Json String :=
  .object
    [("id", .text p.id.text), ("widget", .text (Named.name p.widget)), ("title", .text p.title)]

end Pane
end Dashboard
