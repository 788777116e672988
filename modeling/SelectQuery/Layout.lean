import SelectQuery.ParamStyle
import SelectQuery.Text.Escaped

/-!
# Layout

How the tokens of a statement are spread over lines, and how its parameters are spelled. A layout
from settings has to separate lines by line breaks; one made in code may use any text.
-/

namespace SelectQuery

structure Layout where
  lineSeparator : String := "\n"
  indentWidth : Nat := 4
  paramStyle : ParamStyle := .indexed
  deriving DecidableEq, Repr

namespace Layout

/-- The blanks of one level. Every width has its blanks here; that there is no room for them is a
limit of memory, which is left out. -/
def indentUnit (l : Layout) : String :=
  String.ofList (List.replicate l.indentWidth ' ')

def isLineBreak (c : Char) : Bool := c = '\r' || c = '\n'

/-- What is wrong with the separator, in words. -/
def separatorFault? (l : Layout) : Option String :=
  if l.lineSeparator = "" then some "render.line_separator must not be empty"
  else if l.lineSeparator.toList.all isLineBreak then none
  else some ("render.line_separator must be a line break, got " ++ Text.escaped l.lineSeparator)

theorem separatorFault?_eq_none_iff {l : Layout} :
    l.separatorFault? = none ↔
      l.lineSeparator ≠ "" ∧ ∀ c ∈ l.lineSeparator.toList, c = '\r' ∨ c = '\n' := by
  unfold separatorFault?
  split
  · simp_all
  · split <;> simp_all [isLineBreak]

end Layout

end SelectQuery
