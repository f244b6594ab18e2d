/-!
# TOML documents

The values of a TOML document, and how its lines build up a table. What may be extended later
depends on how a table came about, so every table remembers that.
-/
namespace Dashboard

/-- How a table came about. -/
inductive TableOrigin where
  /-- By a header of its own. -/
  | header
  /-- By the header of a table inside it. -/
  | implied
  /-- By a dotted key. -/
  | dotted
  /-- As a value in braces, which is complete in itself. -/
  | inline
deriving DecidableEq, Repr

/-- A value. Of numbers and times only their spelling is kept, because no use is made of them. -/
inductive TomlValue where
  | text (s : String)
  | bool (b : Bool)
  | number (spelling : String)
  | time (spelling : String)
  | array (items : List TomlValue)
  | table (origin : TableOrigin) (members : List (String × TomlValue))
  /-- Tables that share a header in double brackets. -/
  | tables (items : List (List (String × TomlValue)))

/-- The members of a table, in the order in which they came about. -/
abbrev TomlTable := List (String × TomlValue)

namespace TomlTable

def replace (t : TomlTable) (key : String) (v : TomlValue) : TomlTable :=
  t.map fun m => if m.1 = key then (key, v) else m

/-- Gives a key a value. A key with dots in it leads into tables, which come about by it or have
come about by other dotted keys. No key is given a value twice. -/
def assign (v : TomlValue) : List String → TomlTable → Option TomlTable
  | [], _ => none
  | [key], t => if (t.lookup key).isSome then none else some (t ++ [(key, v)])
  | key :: keys, t =>
      match t.lookup key with
      | none => (assign v keys []).map fun inner => t ++ [(key, .table .dotted inner)]
      | some (.table .dotted inner) =>
          (assign v keys inner).map fun inner => t.replace key (.table .dotted inner)
      | some _ => none

/-- Follows the keys of a header to the last one, whose value `final` replaces. Tables on the way
come about as implied ones where they are missing, and of tables that share a header the last is
meant. -/
def atHeader (final : Option TomlValue → Option TomlValue) :
    List String → TomlTable → Option TomlTable
  | [], _ => none
  | [key], t =>
      match t.lookup key with
      | none => (final none).map fun v => t ++ [(key, v)]
      | some v => (final (some v)).map fun v => t.replace key v
  | key :: keys, t =>
      match t.lookup key with
      | none => (atHeader final keys []).map fun inner => t ++ [(key, .table .implied inner)]
      | some (.table .inline _) => none
      | some (.table origin inner) =>
          (atHeader final keys inner).map fun inner => t.replace key (.table origin inner)
      | some (.tables items) =>
          (atHeader final keys (items.getLastD [])).map fun last =>
            t.replace key (.tables (items.dropLast ++ [last]))
      | some _ => none

/-- What a header in single brackets makes of the value of its last key. -/
def openTable : Option TomlValue → Option TomlValue
  | none => some (.table .header [])
  | some (.table .implied inner) => some (.table .header inner)
  | some _ => none

/-- What a header in double brackets makes of the value of its last key. -/
def openElement : Option TomlValue → Option TomlValue
  | none => some (.tables [[]])
  | some (.tables items) => some (.tables (items ++ [[]]))
  | some _ => none

/-- What a line below a header makes of the value of the header's last key. -/
def assignBelow (keys : List String) (v : TomlValue) : Option TomlValue → Option TomlValue
  | some (.table origin inner) => (assign v keys inner).map (.table origin)
  | some (.tables items) =>
      (assign v keys (items.getLastD [])).map fun last => .tables (items.dropLast ++ [last])
  | _ => none

end TomlTable
end Dashboard
