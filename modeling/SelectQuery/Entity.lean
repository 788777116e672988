import SelectQuery.Value

/-!
# Entities and their members

An entity stands for one table. Its members are declared with the columns they map to; a member
reference names a member whether it is declared or not.
-/

namespace SelectQuery

/-- A member as its entity declares it. -/
structure MemberDecl where
  name : String
  column : String
  valueType : ValueType
  deriving DecidableEq, Repr

/-- An entity type. Entities may agree in name, table and members; the key tells them apart. -/
structure Entity where
  key : String
  name : String
  table : String
  members : List MemberDecl
  deriving DecidableEq, Repr

/-- The declaration of a member; of two with one name the first counts. -/
def Entity.member? (e : Entity) (name : String) : Option MemberDecl :=
  e.members.find? (·.name = name)

/-- A member named on an entity, with the type its values are taken to have. -/
structure MemberRef where
  entity : Entity
  member : String
  valueType : ValueType
  deriving DecidableEq, Repr

namespace MemberRef

/-- What a member reference is remembered under. -/
def key (m : MemberRef) : Entity × String := (m.entity, m.member)

def text (m : MemberRef) : String := m.entity.name ++ "." ++ m.member

end MemberRef

end SelectQuery
