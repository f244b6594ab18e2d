import Dashboard.Layout

/-!
# Fresh identities

A new pane gets the name of its widget, the delimiter and a token. Tokens come from a source,
which is a state that yields one token after the other. A source promises nothing about its
tokens; that they differ from each other is a property of particular sources.
-/
namespace Dashboard

/-- A state that yields tokens. -/
class TokenSource (σ : Type) where
  /-- The next token, and the source without it. -/
  next : σ → String × σ

/-- Tokens that are listed in advance, and then the numbers from one on with at least six digits.
The numbers are counted in 64 bits. -/
structure ScriptedTokens where
  /-- The tokens that come first. -/
  scripted : List String := []
  /-- How many numbers have been used. -/
  counter : UInt64 := 0
deriving Repr

namespace ScriptedTokens

def next : ScriptedTokens → String × ScriptedTokens
  | ⟨token :: scripted, counter⟩ => (token, ⟨scripted, counter⟩)
  | ⟨[], counter⟩ =>
      (String.ofList (Digits.chars (Digits.padded 6 (counter + 1).toNat)), ⟨[], counter + 1⟩)

instance : TokenSource ScriptedTokens := ⟨next⟩

end ScriptedTokens

/-- Tokens of six characters made from random 64-bit numbers. Once the numbers are used up, the
source goes on as if all further ones were zero. -/
structure RandomTokens where
  numbers : List UInt64

namespace RandomTokens

def alphabet : List Char := "0123456789abcdefghijklmnopqrstuvwxyz".toList

def tokenLength : Nat := 6

/-- The character that a random number selects. The number is scaled to the size of the alphabet;
numbers whose remainder is too large are not used, so that no character is preferred. -/
def select? (number : UInt64) : Option Char :=
  let scaled := number.toNat * alphabet.length
  if scaled % UInt64.size < 0x9000000000000000 then alphabet[scaled / UInt64.size]? else none

/-- The next character, from the first number that selects one. -/
def nextChar : List UInt64 → Char × List UInt64
  | [] => ('0', [])
  | number :: numbers =>
      match select? number with
      | some c => (c, numbers)
      | none => nextChar numbers

/-- The next characters, as many as are asked for. -/
def nextChars : Nat → List UInt64 → List Char × List UInt64
  | 0, numbers => ([], numbers)
  | n + 1, numbers =>
      let (c, numbers) := nextChar numbers
      let (cs, numbers) := nextChars n numbers
      (c :: cs, numbers)

def next (r : RandomTokens) : String × RandomTokens :=
  let (cs, numbers) := nextChars tokenLength r.numbers
  (String.ofList cs, ⟨numbers⟩)

instance : TokenSource RandomTokens := ⟨next⟩

end RandomTokens

/-- Of two kinds of sources, either one. -/
instance {σ τ : Type} [TokenSource σ] [TokenSource τ] : TokenSource (σ ⊕ τ) where
  next
    | .inl s => ((TokenSource.next s).1, .inl (TokenSource.next s).2)
    | .inr t => ((TokenSource.next t).1, .inr (TokenSource.next t).2)

namespace PaneId

variable {σ : Type} [TokenSource σ]

/-- The identity with the given widget name and token. -/
def join (widget token : String) : PaneId := ⟨widget ++ identityDelimiter.toString ++ token⟩

/-- A fresh identity for a pane of the given widget. One token is drawn. -/
def fresh (widget : String) (tokens : σ) : PaneId × σ :=
  let (token, tokens) := TokenSource.next tokens
  (join widget token, tokens)

end PaneId
end Dashboard
