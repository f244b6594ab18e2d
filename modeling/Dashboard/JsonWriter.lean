import Dashboard.JsonToken

/-!
# Writing JSON documents

A document has one sequence of tokens. The compact text is these tokens with nothing between them.
The indented text has the same tokens, with every item and member on a line of its own.
-/
namespace Dashboard.Json

mutual
/-- The tokens of a document in front of others. -/
def tokensBefore : Json String → List Token → List Token
  | .null, after => .null :: after
  | .bool b, after => .bool b :: after
  | .number l, after => .number l :: after
  | .text s, after => .text (Spelling.ofString s) :: after
  | .array items, after => .openArray :: itemTokensBefore items (.closeArray :: after)
  | .object members, after => .openObject :: memberTokensBefore members (.closeObject :: after)
termination_by structural j => j

/-- The tokens of items, with commas between them, in front of others. -/
def itemTokensBefore : List (Json String) → List Token → List Token
  | [], after => after
  | [j], after => j.tokensBefore after
  | j :: js, after => j.tokensBefore (.comma :: itemTokensBefore js after)
termination_by structural js => js

/-- The tokens of members, with commas between them, in front of others. -/
def memberTokensBefore : List (String × Json String) → List Token → List Token
  | [], after => after
  | [(k, j)], after => .text (Spelling.ofString k) :: .colon :: j.tokensBefore after
  | (k, j) :: ms, after =>
      .text (Spelling.ofString k) :: .colon ::
        j.tokensBefore (.comma :: memberTokensBefore ms after)
termination_by structural ms => ms
end

def tokens (j : Json String) : List Token := j.tokensBefore []

/-- The text of a document without any white space. -/
def compact (j : Json String) : String := String.ofList (j.tokens.flatMap Token.chars)

/-- A line break and the indentation of the given depth. -/
def newLine (depth : Nat) : List Char := '\n' :: List.replicate (2 * depth) ' '

mutual
/-- The characters of a document whose items and members are indented by two spaces for each array
or object around them. Empty arrays and objects stay on one line. -/
def indentedChars (depth : Nat) : Json String → List Char
  | .array [] => ['[', ']']
  | .array items => '[' :: itemLines (depth + 1) items ++ newLine depth ++ [']']
  | .object [] => ['{', '}']
  | .object members => '{' :: memberLines (depth + 1) members ++ newLine depth ++ ['}']
  | .null => Token.chars .null
  | .bool b => Token.chars (.bool b)
  | .number l => Token.chars (.number l)
  | .text s => Token.chars (.text (Spelling.ofString s))
termination_by structural j => j

def itemLines (depth : Nat) : List (Json String) → List Char
  | [] => []
  | [j] => newLine depth ++ indentedChars depth j
  | j :: js => newLine depth ++ indentedChars depth j ++ ',' :: itemLines depth js
termination_by structural js => js

def memberLines (depth : Nat) : List (String × Json String) → List Char
  | [] => []
  | [(k, j)] =>
      newLine depth ++ Token.chars (.text (Spelling.ofString k)) ++ [':', ' '] ++
        indentedChars depth j
  | (k, j) :: ms =>
      newLine depth ++ Token.chars (.text (Spelling.ofString k)) ++ [':', ' '] ++
        indentedChars depth j ++ ',' :: memberLines depth ms
termination_by structural ms => ms
end

/-- The text of a document with one item or member a line. -/
def indented (j : Json String) : String := String.ofList (indentedChars 0 j)

end Dashboard.Json
