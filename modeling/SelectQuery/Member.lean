import SelectQuery.Expr

/-!
# Typed members

A member whose values have a type of their own. The type fixes what the member can be compared
with: another member of the same type, or a value of it.
-/

namespace SelectQuery

/-- The types that a member's values can have. -/
inductive MemberType where
  | int16
  | int32
  | int64
  | uint8
  | uint16
  | uint32
  | float32
  | float64
  | bool
  | text
  | optionalInt
  | optionalText
  | any
  deriving DecidableEq, Repr

namespace MemberType

/-- The values of a type. -/
abbrev Carrier : MemberType → Type
  | int16 => Int16
  | int32 => Int32
  | int64 => Int64
  | uint8 => UInt8
  | uint16 => UInt16
  | uint32 => UInt32
  | float32 => Binary32
  | float64 => Binary64
  | bool => Bool
  | text => String
  | optionalInt => Option Int64
  | optionalText => Option String
  | any => Value

/-- The declared column type. -/
def valueType : MemberType → ValueType
  | int16 | int32 | int64 | uint8 | uint16 | uint32 | optionalInt => .int
  | float32 | float64 => .float
  | bool => .bool
  | text | optionalText => .text
  | any => .any

/-- A value of the type as a literal. -/
def toValue : (t : MemberType) → t.Carrier → Value
  | int16, n => .int n.toInt64
  | int32, n => .int n.toInt64
  | int64, n => .int n
  | uint8, n => .int (Int64.ofNat n.toNat)
  | uint16, n => .int (Int64.ofNat n.toNat)
  | uint32, n => .int (Int64.ofNat n.toNat)
  | float32, x => .float x.widen
  | float64, x => .float x
  | bool, b => .bool b
  | text, s => .text s
  | optionalInt, n => n.elim .null .int
  | optionalText, s => s.elim .null .text
  | any, v => v

end MemberType

/-- A member of an entity with values of type `t`. -/
structure Member (t : MemberType) where
  entity : Entity
  name : String

namespace Member

variable {t : MemberType}

/-- The member without its type. -/
def ref (m : Member t) : MemberRef := ⟨m.entity, m.name, t.valueType⟩

/-- `m op other`. -/
def compare (m : Member t) (op : CompareOp) (other : Member t) : BinaryExpr :=
  ⟨op, .member m.ref, .member other.ref⟩

/-- `m == v`. -/
def equalsValue (m : Member t) (v : t.Carrier) : BinaryExpr :=
  ⟨.eq, .member m.ref, .value (t.toValue v)⟩

end Member

end SelectQuery
