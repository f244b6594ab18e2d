import Dashboard.JsonToken

/-!
# Reading JSON documents

A sequence of tokens is read by a machine with a stack of the arrays and objects that are open.
The machine accepts exactly one document and nothing after it, and it has no limit on nesting; the
limit belongs to `Json.value?`. Its states say what may come next, and hold what has been read of
the innermost array or object.
-/
namespace Dashboard

/-- An array or object that is waiting for a value. Lists hold the newest element first. -/
inductive Frame where
  | array (items : List (Json Spelling))
  | object (members : List (Spelling × Json Spelling)) (key : Spelling)

/-- What a reader expects next. -/
inductive Reader where
  /-- A value. -/
  | value (stack : List Frame)
  /-- A value, or the end of the array that has just been opened. -/
  | firstItem (stack : List Frame)
  /-- A comma, or the end of the array. -/
  | afterItem (items : List (Json Spelling)) (stack : List Frame)
  /-- A key, or the end of the object that has just been opened. -/
  | firstKey (stack : List Frame)
  /-- A key. -/
  | nextKey (members : List (Spelling × Json Spelling)) (stack : List Frame)
  /-- A colon. -/
  | afterKey (members : List (Spelling × Json Spelling)) (key : Spelling) (stack : List Frame)
  /-- A comma, or the end of the object. -/
  | afterMember (members : List (Spelling × Json Spelling)) (stack : List Frame)
  /-- Nothing more. -/
  | done (document : Json Spelling)

namespace Reader

/-- Hands a complete value to whatever has been waiting for it. -/
def complete (j : Json Spelling) : List Frame → Reader
  | [] => .done j
  | .array items :: stack => .afterItem (j :: items) stack
  | .object members key :: stack => .afterMember ((key, j) :: members) stack

def begin? (stack : List Frame) : Token → Option Reader
  | .null => some (complete .null stack)
  | .bool b => some (complete (.bool b) stack)
  | .number l => some (complete (.number l) stack)
  | .text s => some (complete (.text s) stack)
  | .openArray => some (.firstItem stack)
  | .openObject => some (.firstKey stack)
  | _ => none

def step : Reader → Token → Option Reader
  | .value stack, t => begin? stack t
  | .firstItem stack, .closeArray => some (complete (.array []) stack)
  | .firstItem stack, t => begin? (.array [] :: stack) t
  | .afterItem items stack, .comma => some (.value (.array items :: stack))
  | .afterItem items stack, .closeArray => some (complete (.array items.reverse) stack)
  | .firstKey stack, .text key => some (.afterKey [] key stack)
  | .firstKey stack, .closeObject => some (complete (.object []) stack)
  | .nextKey members stack, .text key => some (.afterKey members key stack)
  | .afterKey members key stack, .colon => some (.value (.object members key :: stack))
  | .afterMember members stack, .comma => some (.nextKey members stack)
  | .afterMember members stack, .closeObject =>
      some (complete (.object members.reverse) stack)
  | _, _ => none

/-- The document that has been read, if it is complete. -/
def document? : Reader → Option (Json Spelling)
  | .done j => some j
  | _ => none

end Reader

namespace Json

def ofTokens? (ts : List Token) : Option (Json Spelling) :=
  (ts.foldlM Reader.step (.value [])).bind Reader.document?

/-- Reads a text as a document in which nothing is given a value yet. -/
def parse? (text : String) : Option (Json Spelling) :=
  (Token.scan? text.toList).bind ofTokens?

/-- Reads a text as a document, within the limit on nesting. -/
def read? (text : String) : Option (Json String) :=
  (parse? text).bind (value? nestingLimit)

end Json
end Dashboard
