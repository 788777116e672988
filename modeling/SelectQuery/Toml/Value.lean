/-!
# Configuration values

The values of a configuration text in TOML: scalars, arrays and tables. A table remembers how it was
written, since that decides what may still be added to it.
-/

namespace SelectQuery.Toml

/-- How a table came about. -/
inductive Origin where
  /-- Under a header of its own, or as the whole text. -/
  | header
  /-- On the way to the table of a header. -/
  | implied
  /-- On the way to a dotted key. -/
  | dotted
  /-- Between braces. -/
  | inline
  deriving DecidableEq, Repr

inductive Value where
  | string (s : String)
  | integer (n : Int)
  /-- `coefficient * 10 ^ exponent`. -/
  | decimal (coefficient exponent : Int)
  /-- An infinity or not a number. -/
  | notFinite
  | boolean (b : Bool)
  | date
  /-- The items of an array, which may be tables under headers of their own. -/
  | array (items : List Value) (ofTables : Bool)
  | table (origin : Origin) (entries : List (String × Value))
  deriving Repr

/-- The entries of a table. -/
abbrev Entries := List (String × Value)

end SelectQuery.Toml
