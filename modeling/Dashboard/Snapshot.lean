import Dashboard.JsonReader
import Dashboard.JsonWriter
import Dashboard.LayoutError

/-!
# Layouts as JSON documents

A pane is written as a text, a branch as an object with the members `direction`, `first`, `second`
and, where there is a percentage, `splitPercentage`; the empty layout is null. Reading accepts
more: members that are not known, and branches given as arrays.

A text is read along one of two routes. `Layout.read?` reads a layout straight from a document,
where a branch may not repeat a known key. `Snapshot.decode` is for what has been kept from
earlier sessions: of repeated keys the last counts, the outline of the document is examined first,
identities must not repeat, and the answer to a refused text says why it is refused.
-/
namespace Dashboard

/-- The members of a branch, as far as they have been read. -/
structure BranchFields where
  direction : Option Direction := none
  first : Option Node := none
  second : Option Node := none
  percentage : Option (Option Float) := none

namespace BranchFields

/-- The branch with these members. Only the percentage may be missing. -/
def node? (b : BranchFields) : Option Node := do
  some (.branch ⟨← b.direction, b.percentage.getD none⟩ (← b.first) (← b.second))

end BranchFields

namespace Node

/-- Reads a percentage, which may be null. -/
def percentageOfJson? : Json String → Option (Option Float)
  | .null => some none
  | .number l => l.value?.map some
  | _ => none

mutual
def ofJson? : Json String → Option Node
  | .text s => some (.leaf ⟨s⟩)
  | .array [direction, first, second] => do
      some (.branch ⟨← Named.ofJson? direction, none⟩ (← ofJson? first) (← ofJson? second))
  | .array [direction, first, second, percentage] => do
      some (.branch ⟨← Named.ofJson? direction, ← percentageOfJson? percentage⟩
        (← ofJson? first) (← ofJson? second))
  | .object members => (fieldsOfMembers? {} members).bind BranchFields.node?
  | _ => none
termination_by structural j => j

/-- Reads the members of a branch after others. A known key may not occur again. -/
def fieldsOfMembers? (b : BranchFields) : List (String × Json String) → Option BranchFields
  | [] => some b
  | (key, j) :: members =>
      if key = "direction" then
        if b.direction.isSome then none
        else (Named.ofJson? j).bind fun d => fieldsOfMembers? { b with direction := some d } members
      else if key = "first" then
        if b.first.isSome then none
        else (ofJson? j).bind fun n => fieldsOfMembers? { b with first := some n } members
      else if key = "second" then
        if b.second.isSome then none
        else (ofJson? j).bind fun n => fieldsOfMembers? { b with second := some n } members
      else if key = "splitPercentage" then
        if b.percentage.isSome then none
        else (percentageOfJson? j).bind fun p =>
          fieldsOfMembers? { b with percentage := some p } members
      else fieldsOfMembers? b members
termination_by structural members => members
end

def toJson : Node → Json String
  | .leaf id => .text id.text
  | .branch split first second =>
      .object <|
        [("direction", .text (Named.name split.direction)), ("first", first.toJson),
          ("second", second.toJson)] ++
        match split.percentage with
        | none => []
        | some p => [("splitPercentage", Json.ofFloat p)]

end Node

namespace Layout

def ofJson? : Json String → Option Layout
  | .null => some none
  | j => (Node.ofJson? j).map some

def toJson : Layout → Json String
  | none => .null
  | some n => n.toJson

/-- The text that is kept of a layout. -/
def encode (l : Layout) : String := (toJson l).compact

def read? (text : String) : Option Layout := (Json.read? text).bind ofJson?

end Layout

namespace Snapshot

/-- Whether a document has the outline of a layout: null, a text, or an object with the three
members that a branch cannot do without. Their values are not examined. -/
def isWellFormed : Json String → Bool
  | .null | .text _ => true
  | .object members => ["direction", "first", "second"].all (· ∈ members.map Prod.fst)
  | _ => false

/-- Reads a text that has been kept. -/
def decode (text : String) : Except LayoutError Layout :=
  match (Json.read? text).map Json.lastWins with
  | none => .error .notJson
  | some j =>
      if isWellFormed j then
        match Layout.ofJson? j with
        | none => .error .undecodable
        | some l => (Layout.checkUnique l).map fun _ => l
      else .error .malformed

end Snapshot
end Dashboard
