import Dashboard.Digits
import Dashboard.Toml

/-!
# TOML keys, texts, numbers and times

The parts of a TOML document that hold no other values. Every reader takes a text and returns what
stands at its front together with the rest. Readers that walk along a text are given fuel, at
least as much as there are characters.
-/
namespace Dashboard.Toml

/-- Characters that may stand in texts and comments: all but control characters, with the tab as
an exception. -/
def isPrintable (c : Char) : Bool := c = '\t' || (32 ≤ c.toNat && c.toNat ≠ 127)

def skipBlank (cs : List Char) : List Char := cs.dropWhile fun c => c = ' ' || c = '\t'

def lineBreak? : List Char → Option (List Char)
  | '\n' :: cs => some cs
  | '\r' :: '\n' :: cs => some cs
  | _ => none

/-- Drops blanks, line breaks and comments. A comment ends before the first character that it may
not hold. -/
def skipGap (inComment : Bool) : List Char → List Char
  | [] => []
  | '\n' :: cs => skipGap false cs
  | '\r' :: '\n' :: cs => skipGap false cs
  | c :: cs =>
      if inComment then if isPrintable c then skipGap true cs else c :: cs
      else if c = ' ' || c = '\t' then skipGap false cs
      else if c = '#' then skipGap true cs
      else c :: cs

/-! ## Texts -/

/-- Reads the number of a character, with the given count of digits. -/
def codePoint? (count : Nat) (cs : List Char) : Option (Char × List Char) :=
  match Hexadecimal.read? count 0 cs with
  | some (n, cs) => if n.isValidChar then some (Char.ofNat n, cs) else none
  | none => none

def escape? : List Char → Option (Char × List Char)
  | 'b' :: cs => some ('\x08', cs)
  | 't' :: cs => some ('\t', cs)
  | 'n' :: cs => some ('\n', cs)
  | 'f' :: cs => some ('\x0c', cs)
  | 'r' :: cs => some ('\r', cs)
  | 'e' :: cs => some ('\x1b', cs)
  | '"' :: cs => some ('"', cs)
  | '\\' :: cs => some ('\\', cs)
  | 'x' :: cs => codePoint? 2 cs
  | 'u' :: cs => codePoint? 4 cs
  | 'U' :: cs => codePoint? 8 cs
  | _ => none

/-- Puts a character in front of a text that has been read. -/
def prepend (c : Char) (read : List Char × List Char) : List Char × List Char :=
  (c :: read.1, read.2)

/-- Reads the rest of a text in double quotation marks on one line. -/
def basicText? : Nat → List Char → Option (List Char × List Char)
  | _ + 1, '"' :: cs => some ([], cs)
  | fuel + 1, '\\' :: cs => do
      let (c, cs) ← escape? cs
      (basicText? fuel cs).map (prepend c)
  | fuel + 1, c :: cs => if isPrintable c then (basicText? fuel cs).map (prepend c) else none
  | _, _ => none

/-- Reads the rest of a text in single quotation marks on one line, which has no escapes. -/
def literalText? : List Char → Option (List Char × List Char)
  | [] => none
  | '\'' :: cs => some ([], cs)
  | c :: cs => if isPrintable c then (literalText? cs).map (prepend c) else none

def skipLines : List Char → List Char
  | ' ' :: cs | '\t' :: cs | '\n' :: cs | '\r' :: '\n' :: cs => skipLines cs
  | cs => cs

/-- Drops the blanks and line breaks after a backslash at the end of a line. It is none unless
there is a line break. -/
def continuation? (cs : List Char) : Option (List Char) :=
  (lineBreak? (skipBlank cs)).map skipLines

/-- Reads the rest of a text that runs over lines. It ends with three quotation marks of its kind;
up to two more before them belong to the text. Escapes are read only between double quotation
marks. -/
def blockText? (quote : Char) : Nat → List Char → Option (List Char × List Char)
  | 0, _ => none
  | _ + 1, [] => none
  | fuel + 1, c :: cs =>
      if c = quote then
        let run := ((c :: cs).takeWhile (· = quote)).length
        if 3 ≤ run then
          some (List.replicate (min run 5 - 3) quote, (c :: cs).drop (min run 5))
        else (blockText? quote fuel cs).map (prepend c)
      else if c = '\\' ∧ quote = '"' then
        match continuation? cs with
        | some cs => blockText? quote fuel cs
        | none => do
            let (c, cs) ← escape? cs
            (blockText? quote fuel cs).map (prepend c)
      else if c = '\n' ∨ isPrintable c then (blockText? quote fuel cs).map (prepend c)
      else if c = '\r' ∧ cs.head? = some '\n' then (blockText? quote fuel cs).map (prepend c)
      else none

/-- Reads a text of any of the four kinds. A line break at the start of a text that runs over
lines does not belong to it. -/
def text? (fuel : Nat) (cs : List Char) : Option (String × List Char) :=
  let read : Option (List Char × List Char) :=
    match cs with
    | '"' :: '"' :: '"' :: cs => blockText? '"' fuel ((lineBreak? cs).getD cs)
    | '\'' :: '\'' :: '\'' :: cs => blockText? '\'' fuel ((lineBreak? cs).getD cs)
    | '"' :: cs => basicText? fuel cs
    | '\'' :: cs => literalText? cs
    | _ => none
  read.map fun (s, cs) => (String.ofList s, cs)

/-! ## Keys -/

def isBareKeyChar (c : Char) : Bool := c.isAlphanum || c = '_' || c = '-'

/-- Reads a key without dots. -/
def simpleKey? (fuel : Nat) (cs : List Char) : Option (String × List Char) :=
  match cs with
  | '"' :: cs => (basicText? fuel cs).map fun (s, cs) => (String.ofList s, cs)
  | '\'' :: cs => (literalText? cs).map fun (s, cs) => (String.ofList s, cs)
  | cs =>
      match cs.takeWhile isBareKeyChar with
      | [] => none
      | key => some (String.ofList key, cs.dropWhile isBareKeyChar)

/-- Reads a key with dots in it, together with the blanks around its parts. -/
def dottedKey? : Nat → List Char → Option (List String × List Char)
  | 0, _ => none
  | fuel + 1, cs => do
      let (key, cs) ← simpleKey? (fuel + 1) (skipBlank cs)
      match skipBlank cs with
      | '.' :: cs => (dottedKey? fuel cs).map fun (keys, cs) => (key :: keys, cs)
      | cs => some ([key], cs)

/-! ## Times -/

def twoDigits? (a b : Char) : Option Nat := do
  some (10 * (← Digit.ofChar? a).val + (← Digit.ofChar? b).val)

def daysOfMonth (year month : Nat) : Nat :=
  if month = 2 then
    if year % 4 = 0 ∧ (year % 100 ≠ 0 ∨ year % 400 = 0) then 29 else 28
  else if month ∈ [4, 6, 9, 11] then 30 else 31

def date? : List Char → Option (List Char)
  | y₁ :: y₂ :: y₃ :: y₄ :: '-' :: m₁ :: m₂ :: '-' :: d₁ :: d₂ :: cs => do
      let year := 100 * (← twoDigits? y₁ y₂) + (← twoDigits? y₃ y₄)
      let month ← twoDigits? m₁ m₂
      let day ← twoDigits? d₁ d₂
      if 1 ≤ month ∧ month ≤ 12 ∧ 1 ≤ day ∧ day ≤ daysOfMonth year month then some cs else none
  | _ => none

/-- Takes a fraction of a second off the front of a text, if there is one. -/
def fractionOfSecond? : List Char → Option (List Char)
  | '.' :: c :: cs => if c.isDigit then some (cs.dropWhile (·.isDigit)) else none
  | '.' :: [] => none
  | cs => some cs

/-- Takes a time of day off the front of a text. Seconds may be left out. -/
def clock? : List Char → Option (List Char)
  | h₁ :: h₂ :: ':' :: m₁ :: m₂ :: cs => do
      let hour ← twoDigits? h₁ h₂
      let minute ← twoDigits? m₁ m₂
      if 23 < hour ∨ 59 < minute then none
      match cs with
      | ':' :: s₁ :: s₂ :: cs => if (← twoDigits? s₁ s₂) ≤ 60 then fractionOfSecond? cs else none
      | cs => some cs
  | _ => none

/-- Whether a text is an offset from universal time, or nothing. -/
def isOffset : List Char → Bool
  | [] | ['Z'] | ['z'] => true
  | [sign, h₁, h₂, ':', m₁, m₂] =>
      (sign = '+' || sign = '-') && (twoDigits? h₁ h₂).any (· ≤ 23) &&
        (twoDigits? m₁ m₂).any (· ≤ 59)
  | _ => false

/-- Whether a text is a date, a time of day, or both. -/
def isTime (cs : List Char) : Bool :=
  match date? cs with
  | some [] => true
  | some (c :: cs) => (c = 'T' || c = 't' || c = ' ') && (clock? cs).any isOffset
  | none => clock? cs = some []

/-! ## Numbers

A number need not have a value, because no use is made of it. So the mark of a base may stand
without digits, and after the first underscore of a decimal integer only the characters next to
underscores are looked at. -/

/-- Whether every underscore stands between two digits. `after` tells whether a digit has just been
read. -/
def underscoresFit (isDigit : Char → Bool) (after : Bool) : List Char → Bool
  | [] => true
  | '_' :: cs => after && cs.head?.any isDigit && underscoresFit isDigit false cs
  | c :: cs => underscoresFit isDigit (isDigit c) cs

def isHexDigit (c : Char) : Bool := (Hexadecimal.value? c).isSome

/-- Whether a text consists of digits of some base, divided by underscores. It may be empty. -/
def isRadixRun (isDigit : Char → Bool) (cs : List Char) : Bool :=
  cs.all (fun c => isDigit c || c = '_') && underscoresFit isDigit false cs

/-- Takes decimal digits and underscores off the front of a text. At least one has to be a digit.
-/
def digitRun? (cs : List Char) : Option (List Char × List Char) :=
  let run := cs.takeWhile fun c => c.isDigit || c = '_'
  if run.any Char.isDigit then some (run, cs.drop run.length) else none

/-- Takes the fraction of a float off the front of a text, if there is one. -/
def fraction? : List Char → Option (List Char)
  | '.' :: cs => (digitRun? cs).map Prod.snd
  | cs => some cs

/-- Takes the exponent of a float off the front of a text, if there is one. -/
def exponent? : List Char → Option (List Char)
  | [] => some []
  | c :: cs =>
      if c = 'e' ∨ c = 'E' then
        match cs with
        | '+' :: cs | '-' :: cs => (digitRun? cs).map Prod.snd
        | cs => (digitRun? cs).map Prod.snd
      else some (c :: cs)

/-- Whether a text is a float without sign. Its whole part starts with zero only when it has no
other digit. -/
def isFloat (cs : List Char) : Bool :=
  match digitRun? cs with
  | none => false
  | some (whole, rest) =>
      (whole.head? ≠ some '0' || (whole.filter Char.isDigit).length = 1) &&
        ((fraction? rest).bind exponent?) = some [] && underscoresFit Char.isDigit false cs

/-- The number or time that a text is, its sign left aside. The first character after its leading
digits tells what it is meant to be. A time has no sign. -/
def numberOrTime? (signed : Bool) (cs : List Char) : Option (String → TomlValue) :=
  let rest := cs.dropWhile Char.isDigit
  match rest with
  | [] => if cs.head? ≠ some '0' ∨ cs = ['0'] then some .number else none
  | '-' :: _ | ':' :: _ => if !signed && isTime cs then some .time else none
  | c :: _ =>
      if ' ' ∈ rest then none
      else if rest.any (· ∈ ['.', 'e', 'E']) then
        if isFloat cs then some .number else none
      else if c = '_' && cs.head? ≠ some '0' && underscoresFit isHexDigit false cs then
        some .number
      else none

/-- The number or time that a text is, its sign left aside. The mark of a base has no sign before
it. -/
def unsigned? (signed : Bool) (cs : List Char) : Option (String → TomlValue) :=
  let radix (isDigit : Char → Bool) (digits : List Char) : Option (String → TomlValue) :=
    if !signed && isRadixRun isDigit digits then some .number else none
  match cs with
  | ['i', 'n', 'f'] | ['n', 'a', 'n'] => some .number
  | '0' :: 'x' :: digits => radix isHexDigit digits
  | '0' :: 'o' :: digits => radix (fun c => '0' ≤ c && c ≤ '7') digits
  | '0' :: 'b' :: digits => radix (fun c => c = '0' || c = '1') digits
  | c :: _ => if c.isDigit then numberOrTime? signed cs else none
  | [] => none

/-- The value that a text without quotation marks, brackets and braces is. -/
def unquoted? (cs : List Char) : Option TomlValue :=
  if cs = "true".toList then some (.bool true)
  else if cs = "false".toList then some (.bool false)
  else
    let read :=
      match cs with
      | '+' :: cs | '-' :: cs => unsigned? true cs
      | cs => unsigned? false cs
    read.map (· (String.ofList cs))

/-! ## Words -/

/-- Characters that do not belong to a word: what divides values from each other, and blanks. The
point divides words too, but not values. -/
def endsWord (c : Char) : Bool :=
  c ∈ ['.', '=', ',', '[', ']', '{', '}', ' ', '\t', '#', '\r', '\n']

/-- Whether a text goes on with a word. No word starts with a quotation mark. -/
def startsWord : List Char → Bool
  | [] => false
  | c :: _ => !endsWord c && c ≠ '"' && c ≠ '\''

/-- Splits off a value without quotation marks, brackets and braces: words with points between
them. A word that follows after blanks belongs to it, as a time of day that follows a date.
`inWord` tells whether the text starts within a word. -/
def words (inWord : Bool) : List Char → List Char × List Char
  | [] => ([], [])
  | c :: cs =>
      if c = '.' then prepend c (words false cs)
      else if c = ' ' ∨ c = '\t' then
        if startsWord (skipBlank cs) then prepend c (words false cs) else ([], c :: cs)
      else if (inWord && !endsWord c) || startsWord (c :: cs) then prepend c (words true cs)
      else ([], c :: cs)

example : words false "2021-01-01 12:00:00.5Z , 1".toList =
    ("2021-01-01 12:00:00.5Z".toList, " , 1".toList) := by decide +kernel
example : ["-1_000.5e+3", "0xBE_EF", "0b", "12:30", "+inf"].all fun s =>
    (unquoted? s.toList).isSome := by decide +kernel
example : ["01", "1__0", "1.", "+0x1", "1_", "+_1", "2021-02-29"].all fun s =>
    (unquoted? s.toList).isNone := by decide +kernel

end Dashboard.Toml
