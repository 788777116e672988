import SelectQuery.Toml.Syntax

/-!
# Configuration documents

The table that the lines of a text describe. Each header opens a section; the entries up to the next
header belong to its table.
-/

namespace SelectQuery.Toml

/-- A header, if there is one, and the entries under it. -/
structure Section where
  header : Option (Bool × List String × String)
  entries : List (List String × String × Value)
  deriving Repr

/-- The sections of a document; the first one has no header. -/
def sections (ls : List Line) : List Section :=
  ls.foldr (fun l ss =>
    match l, ss with
    | .entry path key v, s :: ss => { s with entries := (path, key, v) :: s.entries } :: ss
    | .header ofArray path key, s :: ss =>
      ⟨none, []⟩ :: { s with header := some (ofArray, path, key) } :: ss
    | _, [] => []) [⟨none, []⟩]

/-- Adds the entries of a section to its table. -/
def fill (es : List (List String × String × Value)) (table : Entries) : Option Entries :=
  es.foldlM (fun acc (path, key, v) => addEntry path key v .header acc) table

/-- Opens the table of a header and fills it. A table has one header; an array of tables gets one
more table from each. -/
def openTable (ofArray : Bool) (key : String) (es : List (List String × String × Value)) : Change :=
  fun _ table =>
    match ofArray, table.lookup key with
    | false, none => do return table ++ [(key, .table .header (← fill es []))]
    | false, some (.table .implied sub) => do
      return replace key (.table .header (← fill es sub)) table
    | true, none => do
      return table ++ [(key, .array [.table .header (← fill es [])] true)]
    | true, some (.array items true) => do
      return replace key (.array (items ++ [.table .header (← fill es [])]) true) table
    | _, _ => none

/-- Adds a section to a document. -/
def addSection (root : Entries) (s : Section) : Option Entries :=
  match s.header with
  | none => fill s.entries root
  | some (ofArray, path, key) => descend false (openTable ofArray key s.entries) path .header root

/-- Skips the mark of the byte order. -/
def skipMark : List Char → List Char
  | '\ufeff' :: cs => cs
  | cs => cs

/-- Reads a document; there is none if the text breaks a rule of the format. -/
def parse? (text : String) : Option Entries := do
  let cs := skipMark text.toList
  let ls ← lines (cs.length + 1) cs
  (sections ls).foldlM addSection []

end SelectQuery.Toml
