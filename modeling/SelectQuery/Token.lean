import SelectQuery.Layout
import SelectQuery.Text.CaseMap

/-!
# Tokens

A statement is rendered to tokens first. Line breaks, indentation and placeholders become text only
under a layout.
-/

namespace SelectQuery

inductive Keyword where
  | select
  | distinct
  | top
  | percent
  | «from»
  | join
  | inner
  | left
  | right
  | full
  | cross
  | «on»
  | «where»
  | groupBy
  | having
  | orderBy
  | asc
  | desc
  | and
  | or
  deriving DecidableEq, Repr

def Keyword.text : Keyword → String
  | select => "SELECT"
  | distinct => "DISTINCT"
  | top => "TOP"
  | percent => "PERCENT"
  | «from» => "FROM"
  | join => "JOIN"
  | inner => "INNER"
  | left => "LEFT"
  | right => "RIGHT"
  | full => "FULL"
  | cross => "CROSS"
  | «on» => "ON"
  | «where» => "WHERE"
  | groupBy => "GROUP BY"
  | having => "HAVING"
  | orderBy => "ORDER BY"
  | asc => "ASC"
  | desc => "DESC"
  | and => "AND"
  | or => "OR"

inductive Token where
  | keyword (k : Keyword)
  | comma
  | dot
  | star
  | lparen
  | rparen
  | space
  | newline
  | indent (levels : Nat)
  /-- A table, column or alias, as it is. -/
  | ident (name : String)
  /-- A function name, shown in upper case. -/
  | function (name : String)
  | count (n : UInt64)
  /-- A bound parameter, by its index. -/
  | placeholder (index : Nat)
  /-- A literal that is already text. -/
  | literal (text : String)
  /-- Text of a template. -/
  | raw (text : String)
  deriving DecidableEq, Repr

namespace Token

def text (l : Layout) : Token → String
  | keyword k => k.text
  | comma => ","
  | dot => "."
  | star => "*"
  | lparen => "("
  | rparen => ")"
  | space => " "
  | newline => l.lineSeparator
  | indent n => String.join (List.replicate n l.indentUnit)
  | ident s => s
  | function s => Text.upperCase s
  | count n => toString n.toNat
  | placeholder i => l.paramStyle.placeholder i
  | literal s => s
  | raw s => s

/-- The text of a run of tokens. -/
def textOf (l : Layout) (ts : List Token) : String :=
  String.join (ts.map (text l))

theorem textOf_append (l : Layout) (ts us : List Token) :
    textOf l (ts ++ us) = textOf l ts ++ textOf l us := by
  simp [textOf]

end Token

end SelectQuery
