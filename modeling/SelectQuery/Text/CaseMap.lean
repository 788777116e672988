import SelectQuery.Text.CaseTable

/-!
# Case mapping

Full case mapping of single characters, without regard to their neighbours: a character may become
several, as ß becomes SS. A text is mapped character by character.
-/

namespace SelectQuery.Text

/-- Looks a code point up, first among the expansions, then among the runs. -/
def caseLookup (expansions : List (Nat × List Nat)) (runs : List CaseRun) (c : Char) :
    List Char :=
  match expansions.lookup c.toNat with
  | some ns => ns.map Char.ofNat
  | none => [((runs.findSome? (·.map? c.toNat)).map Char.ofNat).getD c]

/-- The lower case form of a character. -/
def lower (c : Char) : List Char :=
  if c.toNat < 0x80 then [c.toLower] else caseLookup lowerExpansions lowerRuns c

/-- The upper case form of a character. -/
def upper (c : Char) : List Char :=
  if c.toNat < 0x80 then [c.toUpper] else caseLookup upperExpansions upperRuns c

/-- A text with every character in lower case. -/
def lowerCase (s : String) : String :=
  String.ofList (s.toList.flatMap lower)

/-- A text with every character in upper case. -/
def upperCase (s : String) : String :=
  String.ofList (s.toList.flatMap upper)

end SelectQuery.Text
