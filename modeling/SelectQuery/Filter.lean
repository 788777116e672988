import SelectQuery.Member
import SelectQuery.Predicate.Build

/-!
# Typed filters

A subject is a field whose values have a known type; a filter on it takes only values of that type.
-/

namespace SelectQuery

/-- A field under test, with values of type `t`. -/
structure Subject (t : MemberType) where
  field : Field

namespace Subject

variable {t : MemberType}

/-- A member on an alias of its entity, the default one unless a value is given. -/
def ofMember (m : Member t) (aliasValue : Option String) : Resolving (Subject t) :=
  return ⟨← Field.ofMember m.ref (Alias.under m.entity aliasValue)⟩

/-- `subject op value`. -/
def compare (s : Subject t) (op : CompareOp) (v : t.Carrier) : Predicate :=
  Predicate.comparison s.field (.compare op) (.literal (t.toValue v))

def like (s : Subject .text) (pattern : String) : Predicate :=
  Predicate.comparison s.field .like (.literal (.text pattern))

def notLike (s : Subject .text) (pattern : String) : Predicate :=
  Predicate.comparison s.field .notLike (.literal (.text pattern))

/-- `subject IN (values)`. -/
def contains (s : Subject t) (op : Containment) (vs : List t.Carrier) :
    Except SelectError Predicate :=
  Predicate.contains s.field op (vs.map t.toValue)

/-- `subject op field`. -/
def compareField (s : Subject t) (op : Comparison) (f : Field) : Predicate :=
  Predicate.comparison s.field op (.field f)

/-- `subject = member`, for a member of the same type. -/
def equalsMember (s : Subject t) (m : Member t) (aliasValue : Option String) :
    Resolving Predicate :=
  return s.compareField (.compare .eq)
    (← Field.ofMember m.ref (Alias.under m.entity aliasValue))

def isNull (s : Subject t) : Predicate := Predicate.isNull s.field

def isNotNull (s : Subject t) : Predicate := Predicate.isNotNull s.field

end Subject

end SelectQuery
