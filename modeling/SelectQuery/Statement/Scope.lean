import SelectQuery.Statement

/-!
# Scope of a statement

A statement is well scoped when its root has a name, each field sits on an alias of the statement,
and each join condition uses the alias it joins. The faults are listed in the order in which they
are looked for, clause by clause.
-/

namespace SelectQuery

namespace Statement

/-- The places where a statement holds fields. -/
inductive Clause where
  | selectList
  | joinCondition
  | filter
  | groupBy
  | having
  | orderBy
  deriving DecidableEq, Repr

def Clause.text : Clause → String
  | selectList => "select list"
  | joinCondition => "join condition"
  | filter => "WHERE"
  | groupBy => "GROUP BY"
  | having => "HAVING"
  | orderBy => "ORDER BY"

/-- A field on an alias that the statement lacks. -/
def fieldFault? (s : Statement) (c : Clause) (f : Field) : Option SelectError :=
  if s.aliases.contains f.qualifier then none
  else some (f.qualifier.missing (c.text ++ " references " ++ f.text))

def fieldFaults (s : Statement) (c : Clause) (fs : List Field) : List SelectError :=
  fs.filterMap (s.fieldFault? c)

def rootFaults (s : Statement) : List SelectError :=
  if s.root.isBlank then [s.root.blank "FROM"] else []

def joinFaults (s : Statement) (j : Join) : List SelectError :=
  match j.condition with
  | none => []
  | some p =>
    s.fieldFaults .joinCondition p.fields ++
      if p.references j.joined then []
      else [j.joined.missing (j.kind.text ++ " condition never references the joined alias")]

/-- The fields of a predicate that may be absent. -/
def fieldsOf (p : Option Predicate) : List Field :=
  (p.map Predicate.fields).getD []

/-- All faults of a statement, the first one first. -/
def faults (s : Statement) : List SelectError :=
  s.rootFaults ++ s.fieldFaults .selectList s.fields ++ s.joins.flatMap s.joinFaults ++
    s.fieldFaults .filter (fieldsOf s.filter) ++ s.fieldFaults .groupBy s.groupBy ++
    s.fieldFaults .having (fieldsOf s.having) ++
    s.fieldFaults .orderBy (s.orderBy.map OrderItem.field)

/-- Reports the first fault. -/
def validate (s : Statement) : Except SelectError Unit :=
  match s.faults with
  | [] => .ok ()
  | e :: _ => .error e

theorem validate_eq_ok_iff {s : Statement} : s.validate = .ok () ↔ s.faults = [] := by
  unfold validate
  split <;> simp_all

end Statement

end SelectQuery
