import Dashboard.Json

/-!
# JSON tokens

The tokens of a JSON text, how each is written, and how a text is cut into them. The lexer reads
one character at a time and keeps the unfinished token in its state. It is strict about everything
inside a token: control characters in texts, unknown escapes, malformed numbers and words that are
not `null`, `true` or `false` are refused. Which tokens may follow each other is not its concern.
-/
namespace Dashboard

/-- A token of a JSON text. -/
inductive Token where
  | openArray
  | closeArray
  | openObject
  | closeObject
  | comma
  | colon
  | null
  | bool (b : Bool)
  | number (literal : NumberLiteral)
  | text (spelling : Spelling)
deriving DecidableEq, Repr

namespace Piece

/-- How a piece of a text is written. Only quotation marks, backslashes and control characters are
escaped. -/
def chars : Piece → List Char
  | .char '"' => ['\\', '"']
  | .char '\\' => ['\\', '\\']
  | .char '\x08' => ['\\', 'b']
  | .char '\x0c' => ['\\', 'f']
  | .char '\n' => ['\\', 'n']
  | .char '\r' => ['\\', 'r']
  | .char '\t' => ['\\', 't']
  | .char c => [c]
  | .unit u =>
      ['\\', 'u'] ++ [u / 4096, u / 256, u / 16, u].map fun n => Hexadecimal.char (n % 16)

/-- The character that a one-letter escape stands for. -/
def ofEscape? : Char → Option Char
  | '"' => some '"'
  | '\\' => some '\\'
  | '/' => some '/'
  | 'b' => some '\x08'
  | 'f' => some '\x0c'
  | 'n' => some '\n'
  | 'r' => some '\r'
  | 't' => some '\t'
  | _ => none

end Piece

namespace Token

def chars : Token → List Char
  | .openArray => ['[']
  | .closeArray => [']']
  | .openObject => ['{']
  | .closeObject => ['}']
  | .comma => [',']
  | .colon => [':']
  | .null => "null".toList
  | .bool true => "true".toList
  | .bool false => "false".toList
  | .number l => l.chars
  | .text s => '"' :: s.flatMap Piece.chars ++ ['"']

def ofWord? (cs : List Char) : Option Token :=
  if cs = "null".toList then some .null
  else if cs = "true".toList then some (.bool true)
  else if cs = "false".toList then some (.bool false)
  else none

/-- The token that a single punctuation character stands for. -/
def ofPunctuation? : Char → Option Token
  | '[' => some .openArray
  | ']' => some .closeArray
  | '{' => some .openObject
  | '}' => some .closeObject
  | ',' => some .comma
  | ':' => some .colon
  | _ => none

end Token

/-- What the lexer has read of a token that is not finished. Lists hold the newest element first.
-/
inductive Lexeme where
  | nothing
  | word (read : List Char)
  | numeral (read : List Char)
  | text (read : List Piece)
  /-- A backslash has been read. -/
  | escape (read : List Piece)
  /-- The escape of a code unit, with the hexadecimal digits read so far. -/
  | unit (read : List Piece) (digits : List Nat)
deriving DecidableEq, Repr

/-- The state of the lexer: the finished tokens, newest first, and the unfinished one. -/
structure Lexer where
  tokens : List Token
  lexeme : Lexeme
deriving DecidableEq, Repr

namespace Lexer

/-- White space between tokens: space, tab, line feed and carriage return, and nothing else. -/
def isSpace (c : Char) : Bool := c ∈ [' ', '\t', '\n', '\r']

def isWordChar (c : Char) : Bool := 'a' ≤ c && c ≤ 'z'

def startsNumeral (c : Char) : Bool := c = '-' || ('0' ≤ c && c ≤ '9')

def isNumeralChar (c : Char) : Bool := startsNumeral c || c ∈ ['+', '.', 'e', 'E']

/-- Reads the first character of a token, or white space. -/
def start (tokens : List Token) (c : Char) : Option Lexer :=
  if isSpace c then some ⟨tokens, .nothing⟩
  else if c = '"' then some ⟨tokens, .text []⟩
  else if startsNumeral c then some ⟨tokens, .numeral [c]⟩
  else if isWordChar c then some ⟨tokens, .word [c]⟩
  else (Token.ofPunctuation? c).map fun t => ⟨t :: tokens, .nothing⟩

/-- The tokens once the text ends or a character follows that cannot belong to the unfinished
token. -/
def finish? : Lexer → Option (List Token)
  | ⟨tokens, .nothing⟩ => some tokens
  | ⟨tokens, .word read⟩ => (Token.ofWord? read.reverse).map (· :: tokens)
  | ⟨tokens, .numeral read⟩ =>
      (NumberLiteral.ofChars? read.reverse).map fun l => .number l :: tokens
  | ⟨_, .text _⟩ | ⟨_, .escape _⟩ | ⟨_, .unit _ _⟩ => none

def step (l : Lexer) (c : Char) : Option Lexer :=
  match l.lexeme with
  | .nothing => start l.tokens c
  | .word read =>
      if isWordChar c then some ⟨l.tokens, .word (c :: read)⟩
      else l.finish?.bind (start · c)
  | .numeral read =>
      if isNumeralChar c then some ⟨l.tokens, .numeral (c :: read)⟩
      else l.finish?.bind (start · c)
  | .text read =>
      if c = '"' then some ⟨.text read.reverse :: l.tokens, .nothing⟩
      else if c = '\\' then some ⟨l.tokens, .escape read⟩
      else if c.toNat < 32 then none
      else some ⟨l.tokens, .text (.char c :: read)⟩
  | .escape read =>
      if c = 'u' then some ⟨l.tokens, .unit read []⟩
      else (Piece.ofEscape? c).map fun c => ⟨l.tokens, .text (.char c :: read)⟩
  | .unit read digits =>
      (Hexadecimal.value? c).map fun d =>
        match digits with
        | [x, y, z] => ⟨l.tokens, .text (.unit (((z * 16 + y) * 16 + x) * 16 + d) :: read)⟩
        | digits => ⟨l.tokens, .unit read (d :: digits)⟩

end Lexer

namespace Token

/-- Cuts a text into its tokens. -/
def scan? (cs : List Char) : Option (List Token) :=
  (cs.foldlM Lexer.step ⟨[], .nothing⟩).bind fun l => l.finish?.map List.reverse

example : scan? "[1 ,\"\\u00e9\"]".toList =
    some [.openArray, .number ⟨false, [1], [], none⟩, .comma, .text [.unit 0xe9], .closeArray] := by
  decide +kernel
example : scan? "nul".toList = none ∧ scan? "\"\\x\"".toList = none := by decide +kernel

end Token
end Dashboard
