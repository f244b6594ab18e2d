import Dashboard.NumberLiteral

/-!
# JSON documents

One type serves for a document at two stages. In `Json Spelling` every text is kept as it was
spelled, and such a document may hold texts that denote nothing (half of a surrogate pair) and
numbers of any size. In `Json String` every text is a string and every number has a value.
`Json.value?` leads from the first to the second, and it alone limits how deep a document may
nest. Objects keep their members in order and may repeat a key; what a repeated key means is left
to the reader of the document.
-/
namespace Dashboard

/-- A JSON document whose texts are of type `τ`. -/
inductive Json (τ : Type) where
  | null
  | bool (b : Bool)
  | number (literal : NumberLiteral)
  | text (t : τ)
  | array (items : List (Json τ))
  | object (members : List (τ × Json τ))

/-- One element of a spelled text: a character, or a 16-bit code unit given by its number. -/
inductive Piece where
  | char (c : Char)
  | unit (u : Nat)
deriving DecidableEq, Repr

/-- A text as a JSON document spells it. -/
abbrev Spelling := List Piece

namespace Spelling

def opensPair (u : Nat) : Bool := 0xD800 ≤ u && u < 0xDC00

def closesPair (u : Nat) : Bool := 0xDC00 ≤ u && u < 0xE000

/-- The characters that a spelling denotes. Surrogates have to come in pairs, and both of a pair
have to be spelled as code units. -/
def chars? : Spelling → Option (List Char)
  | [] => some []
  | .char c :: rest => (chars? rest).map (c :: ·)
  | .unit u :: rest =>
      if opensPair u then
        match rest with
        | .unit v :: rest =>
            if closesPair v then
              (chars? rest).map (Char.ofNat (0x10000 + (u - 0xD800) * 0x400 + (v - 0xDC00)) :: ·)
            else none
        | _ => none
      else if closesPair u then none
      else (chars? rest).map (Char.ofNat u :: ·)

def text? (s : Spelling) : Option String := (chars? s).map String.ofList

/-- The control characters that have an escape of their own. -/
def hasShortEscape (c : Char) : Bool := c ∈ ['\x08', '\t', '\n', '\x0c', '\r']

/-- The spelling of one character: as itself, unless it is a control character without a short
escape. -/
def pieceOfChar (c : Char) : Piece :=
  if c.toNat < 32 && !hasShortEscape c then .unit c.toNat else .char c

/-- The spelling that this library writes for a string. -/
def ofString (s : String) : Spelling := s.toList.map pieceOfChar

end Spelling

namespace Json

mutual
/-- Gives a spelled document its values: texts become strings, and every number has to be in the
range of floats. The document may open at most `room` arrays and objects inside each other. -/
def value? (room : Nat) : Json Spelling → Option (Json String)
  | .null => some .null
  | .bool b => some (.bool b)
  | .number l => if l.value?.isSome then some (.number l) else none
  | .text s => s.text?.map .text
  | .array items =>
      match room with
      | 0 => none
      | room + 1 => (itemValues? room items).map .array
  | .object members =>
      match room with
      | 0 => none
      | room + 1 => (memberValues? room members).map .object
termination_by structural j => j

def itemValues? (room : Nat) : List (Json Spelling) → Option (List (Json String))
  | [] => some []
  | j :: js => do
      let j ← j.value? room
      let js ← itemValues? room js
      some (j :: js)
termination_by structural js => js

def memberValues? (room : Nat) :
    List (Spelling × Json Spelling) → Option (List (String × Json String))
  | [] => some []
  | (k, j) :: ms => do
      let k ← k.text?
      let j ← j.value? room
      let ms ← memberValues? room ms
      some ((k, j) :: ms)
termination_by structural ms => ms
end

mutual
/-- Keeps of every repeated key of an object, at any depth, the last member only. -/
def lastWins : Json String → Json String
  | .null => .null
  | .bool b => .bool b
  | .number l => .number l
  | .text s => .text s
  | .array items => .array (itemsLastWin items)
  | .object members => .object (membersLastWin members)
termination_by structural j => j

/-- `lastWins` for the items of an array. -/
def itemsLastWin : List (Json String) → List (Json String)
  | [] => []
  | j :: js => j.lastWins :: itemsLastWin js
termination_by structural js => js

/-- `lastWins` for the members of an object. -/
def membersLastWin : List (String × Json String) → List (String × Json String)
  | [] => []
  | (k, j) :: ms =>
      if k ∈ ms.map Prod.fst then membersLastWin ms else (k, j.lastWins) :: membersLastWin ms
termination_by structural ms => ms
end

/-- A float as a document holds it: NaN and the infinities have no number and become null. -/
def ofFloat (x : Float) : Json String :=
  match NumberLiteral.ofFloat? x with
  | some l => .number l
  | none => .null

/-- The deepest nesting of arrays and objects that is read. -/
def nestingLimit : Nat := 127

end Json
end Dashboard
