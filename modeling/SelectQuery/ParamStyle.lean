/-!
# Parameter styles

How a statement spells the parameters it binds. One style spells none: it writes the literals
themselves.
-/

namespace SelectQuery

inductive ParamStyle where
  | indexed
  | atP
  | dollar
  | question
  | inline
  deriving DecidableEq, Repr

namespace ParamStyle

def all : List ParamStyle := [indexed, atP, dollar, question, inline]

def name : ParamStyle → String
  | indexed => "indexed"
  | atP => "at_p"
  | dollar => "dollar"
  | question => "question"
  | inline => "inline"

def ofName? (name : String) : Option ParamStyle :=
  all.find? (·.name = name)

/-- The spelling of the parameter at an index. Indices start at zero, dollar numbers at one. -/
def placeholder : ParamStyle → Nat → String
  | indexed, i | inline, i => "\x7b" ++ toString i ++ "\x7d"
  | atP, i => "@p" ++ toString i
  | dollar, i => "$" ++ toString (i + 1)
  | question, _ => "?"

/-- Whether literals are written out. -/
def isInline : ParamStyle → Bool
  | inline => true
  | _ => false

/-- Whether a placeholder has no index, so that each occurrence needs a value of its own. -/
def isPositional : ParamStyle → Bool
  | question => true
  | _ => false

theorem isInline_eq_false {s : ParamStyle} (h : s ≠ inline) : s.isInline = false := by
  cases s with
  | inline => exact absurd rfl h
  | indexed | atP | dollar | question => rfl

end ParamStyle

end SelectQuery
