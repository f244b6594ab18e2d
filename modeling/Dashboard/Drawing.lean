import Dashboard.Layout

/-!
# Drawing layouts

A layout is drawn with one line for each node, a branch before its parts. Lines in front of a
label show where the node stands: a mark for the node itself, and for every enclosing branch that
is a first part a bar that leads on to its second part. Percentages are written with a point only,
however large or small they are.
-/
namespace Dashboard

namespace Percentage

/-- The text of a percentage in a drawing. Of two equally near decimals the larger is written. -/
def text (x : Float) : String :=
  if x.isNaN then "NaN"
  else
    let sign := if x.toBits >>> 63 != 0 then "-" else ""
    if x.isInf then sign ++ "inf"
    else
      let (whole, fraction) := (Decimal.shortest .up x).positional
      let point := if fraction.isEmpty then [] else '.' :: Digits.chars fraction
      sign ++ String.ofList (Digits.chars whole ++ point)

end Percentage

/-- Where a node stands in the branch around it. -/
inductive Position where
  | root
  | first
  | second
deriving DecidableEq, Repr

namespace Position

def mark : Position → String
  | .root => ""
  | .first => " ├─"
  | .second => " └─"

/-- What continues the mark on the lines of the parts below. -/
def continuation : Position → String
  | .root => ""
  | .first => " │ "
  | .second => "   "

end Position

namespace Split

def label (s : Split) : String :=
  match s.percentage with
  | none => Named.name s.direction
  | some p => Named.name s.direction ++ " " ++ Percentage.text p ++ "%"

end Split

namespace Node

/-- The lines of a node. `margin` is what the enclosing branches put in front of all of them. -/
def lines (margin : String) (position : Position) : Node → List String
  | .leaf id => [margin ++ position.mark ++ " " ++ id.text]
  | .branch split first second =>
      (margin ++ position.mark ++ " " ++ split.label) ::
        (first.lines (margin ++ position.continuation) .first ++
          second.lines (margin ++ position.continuation) .second)

/-- The drawing of a node, every line ended by a line feed. -/
def draw (n : Node) : String := String.join ((n.lines "" .root).map (· ++ "\n"))

end Node
end Dashboard
