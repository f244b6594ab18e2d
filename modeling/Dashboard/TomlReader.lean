import Dashboard.TomlScalar

/-!
# Reading TOML documents

A document is a sequence of lines. A line gives a key a value, or is the header of the table to
which the lines below it belong.
-/
namespace Dashboard.Toml

/-- How deep values in brackets and braces may nest, and how many parts the keys in braces may
have. -/
def nestingLimit : Nat := 80

mutual
/-- Reads a value, with room for the given depth of further nesting. -/
def value? : Nat → Nat → List Char → Option (TomlValue × List Char)
  | 0, _, _ => none
  | fuel + 1, room, cs =>
      match cs with
      | '"' :: _ | '\'' :: _ => (text? (fuel + 1) cs).map fun (s, cs) => (.text s, cs)
      | '[' :: cs =>
          if room = 0 then none
          else (items? fuel (room - 1) (skipGap false cs)).map fun (items, cs) => (.array items, cs)
      | '{' :: cs =>
          if room = 0 then none
          else
            (members? fuel (room - 1) [] (skipGap false cs)).map fun (members, cs) =>
              (.table .inline members, cs)
      | cs =>
          let (front, rest) := words false cs
          (unquoted? front).map (·, rest)

/-- Reads the items of an array up to its end. A comma may follow the last one. -/
def items? : Nat → Nat → List Char → Option (List TomlValue × List Char)
  | 0, _, _ => none
  | fuel + 1, room, cs =>
      match cs with
      | ']' :: cs => some ([], cs)
      | cs => do
          let (v, cs) ← value? fuel room cs
          match skipGap false cs with
          | ',' :: cs => (items? fuel room (skipGap false cs)).map fun (vs, cs) => (v :: vs, cs)
          | ']' :: cs => some ([v], cs)
          | _ => none

/-- Reads the members of a table in braces up to its end, after others. A comma may follow the
last one. -/
def members? : Nat → Nat → TomlTable → List Char → Option (TomlTable × List Char)
  | 0, _, _, _ => none
  | fuel + 1, room, t, cs =>
      match cs with
      | '}' :: cs => some (t, cs)
      | cs => do
          let (keys, cs) ← dottedKey? (fuel + 1) cs
          if nestingLimit < keys.length then none
          match skipGap false cs with
          | '=' :: cs => do
              let (v, cs) ← value? fuel room (skipGap false cs)
              let t ← TomlTable.assign v keys t
              match skipGap false cs with
              | ',' :: cs => members? fuel room t (skipGap false cs)
              | '}' :: cs => some (t, cs)
              | _ => none
          | _ => none
end

/-- Takes the end of a line off: blanks, perhaps a comment, and a line break or the end of the
text. -/
def lineEnd? (cs : List Char) : Option (List Char) :=
  let cs := skipBlank cs
  let cs :=
    match cs with
    | '#' :: cs => cs.dropWhile isPrintable
    | cs => cs
  match cs with
  | [] => some []
  | cs => lineBreak? cs

/-- Reads the rest of a document. The table that has been built so far comes with the header to
which the next lines belong. -/
def lines? : Nat → List String → TomlTable → List Char → Option TomlTable
  | 0, _, _, _ => none
  | fuel + 1, header, t, cs =>
      match skipBlank cs with
      | [] => some t
      | '#' :: cs => (lineEnd? ('#' :: cs)).bind (lines? fuel header t)
      | '\n' :: cs => lines? fuel header t cs
      | '\r' :: '\n' :: cs => lines? fuel header t cs
      | '[' :: '[' :: cs => do
          let (keys, cs) ← dottedKey? (fuel + 1) cs
          match cs with
          | ']' :: ']' :: cs =>
              lines? fuel keys (← TomlTable.atHeader TomlTable.openElement keys t) (← lineEnd? cs)
          | _ => none
      | '[' :: cs => do
          let (keys, cs) ← dottedKey? (fuel + 1) cs
          match cs with
          | ']' :: cs =>
              lines? fuel keys (← TomlTable.atHeader TomlTable.openTable keys t) (← lineEnd? cs)
          | _ => none
      | cs => do
          let (keys, cs) ← dottedKey? (fuel + 1) cs
          match cs with
          | '=' :: cs => do
              let (v, cs) ← value? (fuel + 1) nestingLimit (skipBlank cs)
              let t ←
                if header = [] then TomlTable.assign v keys t
                else TomlTable.atHeader (TomlTable.assignBelow keys v) header t
              lines? fuel header t (← lineEnd? cs)
          | _ => none

/-- Reads a text as a document. A byte order mark at its start is passed over. -/
def read? (text : String) : Option TomlTable :=
  let cs :=
    match text.toList with
    | '\ufeff' :: cs => cs
    | cs => cs
  lines? (2 * cs.length + 2) [] [] cs

end Dashboard.Toml
