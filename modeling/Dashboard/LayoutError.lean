import Dashboard.Layout
import Dashboard.Quotation

/-!
# Refused layouts

Why a layout is not accepted, and the check that no two panes share an identity.
-/
namespace Dashboard

/-- A reason to refuse a layout. -/
inductive LayoutError where
  /-- A text is not a JSON document. -/
  | notJson
  /-- A document has not even the outline of a layout. -/
  | malformed
  /-- A document has the outline of a layout but does not denote one. -/
  | undecodable
  /-- Some identities belong to more than one pane. -/
  | duplicateIdentities (ids : List PaneId)
deriving DecidableEq, Repr

namespace LayoutError

def message : LayoutError → String
  | .notJson => "layout snapshot is not valid JSON"
  | .malformed => "layout snapshot is not a well-formed tree"
  | .undecodable => "layout snapshot could not be decoded into a tree"
  | .duplicateIdentities ids =>
      let quoted := ids.map fun id => "PaneId(" ++ Quotation.quote id.text ++ ")"
      "layout contains duplicate pane identities: [" ++ ", ".intercalate quoted ++ "]"

end LayoutError

/-- The elements of a list that have occurred before, each reported at its second occurrence and
never again. `seen` and `reported` hold what has been met so far. -/
def repeatedFrom {α : Type} [DecidableEq α] (seen reported : List α) : List α → List α
  | [] => []
  | x :: xs =>
      if x ∉ seen then repeatedFrom (x :: seen) reported xs
      else if x ∉ reported then x :: repeatedFrom seen (x :: reported) xs
      else repeatedFrom seen reported xs

namespace Layout

/-- The identities that belong to more than one pane, in the order of their second panes. -/
def duplicates (l : Layout) : List PaneId := repeatedFrom [] [] (leaves l)

/-- Whether all panes have identities of their own. -/
def hasUniqueIdentities (l : Layout) : Bool := (duplicates l).isEmpty

/-- Refuses a layout in which panes share identities. -/
def checkUnique (l : Layout) : Except LayoutError Unit :=
  if (duplicates l).isEmpty then .ok () else .error (.duplicateIdentities (duplicates l))

end Layout
end Dashboard
