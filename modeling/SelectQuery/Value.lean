import SelectQuery.Binary64
import SelectQuery.Text.Quoted

/-!
# Literal values

The values a statement can hold as literals, and the types declared for columns. A value has two
texts: `display` for messages, and `literal?`, its form inside a statement. `literal?_eq_none_iff`
says which values have no such form: the infinities and NaN.
-/

namespace SelectQuery

/-- The declared type of a column. -/
inductive ValueType where
  | int
  | float
  | text
  | bool
  | any
  deriving DecidableEq, Repr

namespace ValueType

def name : ValueType → String
  | int => "int"
  | float => "float"
  | text => "text"
  | bool => "bool"
  | any => "any"

def all : List ValueType := [int, float, text, bool, any]

end ValueType

/-- A literal. Comparison with `==` is by value, so a NaN differs from itself. -/
inductive Value where
  | null
  | bool (b : Bool)
  | int (n : Int64)
  | float (x : Binary64)
  | text (s : String)
  deriving Repr, BEq

namespace Value

/-- The type of a literal; nothing is known of the type of null. -/
def valueType : Value → ValueType
  | null => .any
  | bool _ => .bool
  | int _ => .int
  | float _ => .float
  | text _ => .text

def isNull : Value → Bool
  | null => true
  | _ => false

/-- The text of a value in a message. Nothing inside a text is escaped. -/
def display : Value → String
  | null => "NULL"
  | bool b => if b then "true" else "false"
  | int n => toString n.toInt
  | float x => x.display
  | text s => "'" ++ s ++ "'"

/-- The text of a value inside a statement. -/
def literal? : Value → Option String
  | null => some "NULL"
  | bool b => some (if b then "1" else "0")
  | int n => some (toString n.toInt)
  | float x => x.literal?
  | text s => some (Text.Quoted.write s)

theorem literal?_eq_none_iff {v : Value} :
    v.literal? = none ↔ ∃ x : Binary64, v = float x ∧ x.isFinite = false := by
  cases v with
  | float x => simp [literal?, Binary64.literal?]
  | _ => simp [literal?]

end Value

end SelectQuery
