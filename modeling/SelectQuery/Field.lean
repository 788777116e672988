import SelectQuery.Alias
import SelectQuery.Metadata

/-!
# Fields

A field is a column on an alias, perhaps inside an aggregate. Every way to form one refuses a
blank column and a blank alias: `Field.plain_eq_ok_iff`.
-/

namespace SelectQuery

inductive Aggregate where
  | count
  | sum
  | avg
  | min
  | max
  deriving DecidableEq, Repr

namespace Aggregate

def keyword : Aggregate → String
  | count => "COUNT"
  | sum => "SUM"
  | avg => "AVG"
  | min => "MIN"
  | max => "MAX"

/-- The type of an aggregate over a column. -/
def resultType : Aggregate → ValueType → ValueType
  | count, _ => .int
  | avg, _ => .float
  | _, t => t

end Aggregate

/-- A column of an entity, qualified by an alias. -/
structure Field where
  entity : Entity
  valueType : ValueType
  column : String
  qualifier : Alias
  aggregate : Option Aggregate := none
  deriving DecidableEq, Repr

namespace Field

/-- A column that is not aggregated. -/
def plain (entity : Entity) (valueType : ValueType) (column : String) (qualifier : Option Alias) :
    Except SelectError Field :=
  if Text.isBlank column then .error (.invalidField entity.name "column name is empty")
  else match qualifier with
    | none => .error (.invalidField entity.name s!"column '{column}' has no alias")
    | some a =>
      if a.isBlank then
        .error (.invalidField entity.name s!"column '{column}' has an empty alias")
      else .ok { entity, valueType, column, qualifier := a }

/-- The field inside an aggregate, in place of the one it may have. -/
def aggregated (f : Field) (a : Aggregate) : Field :=
  { f with valueType := a.resultType f.valueType, aggregate := some a }

/-- The field of a member on an alias. -/
def ofMember (m : MemberRef) (qualifier : Alias) : Resolving Field := do
  let column ← Resolving.column m
  plain m.entity m.valueType column (some qualifier)

/-- The field as it stands in statements and messages. -/
def text (f : Field) : String :=
  let column := f.qualifier.value ++ "." ++ f.column
  match f.aggregate with
  | some a => a.keyword ++ "(" ++ column ++ ")"
  | none => column

theorem plain_eq_ok_iff {e : Entity} {t : ValueType} {c : String} {q : Option Alias} {f : Field} :
    plain e t c q = .ok f ↔
      Text.isBlank c = false ∧
        ∃ a, q = some a ∧ a.isBlank = false ∧ f = { entity := e, valueType := t, column := c,
                                                    qualifier := a } := by
  unfold plain
  split
  · simp_all
  · cases q with
    | none => simp
    | some a => by_cases h : a.isBlank <;> simp_all [eq_comm (b := f)]

end Field

end SelectQuery
