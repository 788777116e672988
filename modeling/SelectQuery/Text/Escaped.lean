import SelectQuery.Text.EscapeTable

/-!
# Escaped text

A text for a message, between double quotes: the usual escapes for NUL, tab, line breaks, the
double quote and the backslash, and code points by number for what cannot be shown. A single quote
stays as it is.
-/

namespace SelectQuery.Text

/-- Whether a character is written by its number. -/
def isHidden (c : Char) : Bool :=
  c.toNat < 0x20 || hiddenRuns.any fun (first, last) => first ≤ c.toNat && c.toNat ≤ last

/-- One character of an escaped text. -/
def escapeChar (c : Char) : String :=
  match c with
  | '\x00' => "\\0"
  | '\t' => "\\t"
  | '\n' => "\\n"
  | '\r' => "\\r"
  | '"' => "\\\""
  | '\\' => "\\\\"
  | c =>
    if isHidden c then "\\u\x7b" ++ String.ofList (Nat.toDigits 16 c.toNat) ++ "\x7d"
    else String.singleton c

/-- A text between double quotes with all that needs it escaped. -/
def escaped (s : String) : String :=
  "\"" ++ String.join (s.toList.map escapeChar) ++ "\""

end SelectQuery.Text
