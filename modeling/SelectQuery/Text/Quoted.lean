/-!
# Quoted text

A text literal stands between single quotes, and a quote inside it is written twice. The reader
takes a literal from the front of a longer text: it ends at the first quote that no second quote
follows. `read_write` says that reading undoes writing whatever comes next, as long as that does
not begin with a quote.
-/

namespace SelectQuery.Text.Quoted

/-- The text between the quotes: every quote doubled. -/
def doubled : List Char → List Char
  | [] => []
  | c :: cs => if c = '\'' then '\'' :: '\'' :: doubled cs else c :: doubled cs

/-- A text as a literal. -/
def write (s : String) : String :=
  "'" ++ String.ofList (doubled s.toList) ++ "'"

/-- Reads up to the closing quote: the content and what follows the literal. -/
def readBody : List Char → Option (List Char × List Char)
  | [] => none
  | '\'' :: '\'' :: cs => (readBody cs).map fun (s, r) => ('\'' :: s, r)
  | '\'' :: cs => some ([], cs)
  | c :: cs => (readBody cs).map fun (s, r) => (c :: s, r)

/-- Reads one literal from the front of a text. -/
def read : List Char → Option (List Char × List Char)
  | '\'' :: cs => readBody cs
  | _ => none

theorem toList_write (s : String) : (write s).toList = '\'' :: doubled s.toList ++ ['\''] := by
  simp [write]

theorem readBody_doubled (s rest : List Char) (h : rest.head? ≠ some '\'') :
    readBody (doubled s ++ '\'' :: rest) = some (s, rest) := by
  induction s with
  | nil =>
    cases rest with
    | nil => rfl
    | cons c cs =>
      have hc : c ≠ '\'' := by simpa using h
      simp [doubled, readBody, hc]
  | cons c cs ih =>
    by_cases hc : c = '\''
    · subst hc
      simp [doubled, readBody, ih]
    · simp [doubled, hc, readBody, ih]

theorem read_write (s : String) (rest : List Char) (h : rest.head? ≠ some '\'') :
    read ((write s).toList ++ rest) = some (s.toList, rest) := by
  simpa [toList_write, read] using readBody_doubled s.toList rest h

end SelectQuery.Text.Quoted
