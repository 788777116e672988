import SelectQuery.Entity

/-!
# Binary expressions

A comparison of two operands, each a member or a value. As text it has its own operator symbols;
in a statement it has those of SQL.
-/

namespace SelectQuery

inductive CompareOp where
  | eq
  | ne
  | lt
  | lte
  | gt
  | gte
  deriving DecidableEq, Repr

namespace CompareOp

/-- The operator in a statement. -/
def sql : CompareOp → String
  | eq => "="
  | ne => "<>"
  | lt => "<"
  | lte => "<="
  | gt => ">"
  | gte => ">="

/-- The operator in a message. -/
def symbol : CompareOp → String
  | eq => "=="
  | ne => "!="
  | lt => "<"
  | lte => "<="
  | gt => ">"
  | gte => ">="

end CompareOp

inductive Operand where
  | member (m : MemberRef)
  | value (v : Value)
  deriving Repr, BEq

namespace Operand

def member? : Operand → Option MemberRef
  | member m => some m
  | value _ => none

def text : Operand → String
  | member m => m.text
  | value v => v.display

end Operand

/-- `left op right`. -/
structure BinaryExpr where
  op : CompareOp
  left : Operand
  right : Operand
  deriving Repr, BEq

namespace BinaryExpr

/-- Both operands, if both are members. -/
def members? (e : BinaryExpr) : Option (MemberRef × MemberRef) := do
  return (← e.left.member?, ← e.right.member?)

def text (e : BinaryExpr) : String :=
  e.left.text ++ " " ++ e.op.symbol ++ " " ++ e.right.text

end BinaryExpr

end SelectQuery
