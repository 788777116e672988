import SelectQuery.Entity
import SelectQuery.Error
import SelectQuery.Text.Blank
import SelectQuery.Text.CaseMap

/-!
# Aliases

An alias is one occurrence of an entity in a statement, under a value that qualifies its columns.
A registry holds the aliases of a statement in the order they came in; `register_eq_ok_iff` says
which alias it takes.
-/

namespace SelectQuery

/-- An entity under a value of its own. -/
structure Alias where
  entity : Entity
  value : String
  deriving DecidableEq, Repr

/-- The alias value of an entity that is given none: the first two characters of its name in lower
case. -/
def defaultAliasValue (entityName : String) : String :=
  Text.lowerCase (String.ofList (entityName.toList.take 2))

namespace Alias

/-- An entity under its default value. -/
def ofEntity (e : Entity) : Alias := ⟨e, defaultAliasValue e.name⟩

/-- An entity under a given value, or under its default one. -/
def under (e : Entity) : Option String → Alias
  | some value => ⟨e, value⟩
  | none => ofEntity e

/-- A blank value cannot qualify a column. -/
def isBlank (a : Alias) : Bool := Text.isBlank a.value

/-- An alias that the statement lacks, and the place that asks for it. -/
def missing (a : Alias) (context : String) : SelectError :=
  .invalidState a.value a.entity.name context

/-- A blank alias in a given place. -/
def blank (a : Alias) (place : String) : SelectError :=
  a.missing (place ++ ": alias value is empty")

end Alias

/-- The aliases of a statement, oldest first. -/
structure Registry where
  aliases : List Alias := []
  deriving DecidableEq, Repr

namespace Registry

def withRoot (root : Alias) : Registry := ⟨[root]⟩

def containsValue (r : Registry) (value : String) : Bool :=
  r.aliases.any (·.value = value)

/-- Whether an alias is registered, with its value and its entity. -/
def contains (r : Registry) (a : Alias) : Bool :=
  r.aliases.any (· = a)

/-- Adds an alias. A value can be taken once only, whatever the entity. -/
def register (r : Registry) (a : Alias) : Except SelectError Registry :=
  if a.isBlank then .error (a.blank "join")
  else if r.containsValue a.value then .error (.duplicateAlias a.value)
  else .ok ⟨r.aliases ++ [a]⟩

theorem contains_iff {r : Registry} {a : Alias} : r.contains a = true ↔ a ∈ r.aliases := by
  simp [contains]

theorem containsValue_iff {r : Registry} {value : String} :
    r.containsValue value = true ↔ value ∈ r.aliases.map (·.value) := by
  simp [containsValue]

theorem register_eq_ok_iff {r s : Registry} {a : Alias} :
    r.register a = .ok s ↔
      a.isBlank = false ∧ a.value ∉ r.aliases.map (·.value) ∧ s = ⟨r.aliases ++ [a]⟩ := by
  rw [← containsValue_iff, Bool.not_eq_true]
  unfold register
  by_cases hb : a.isBlank <;> by_cases hv : r.containsValue a.value <;> simp [hb, hv, eq_comm]

end Registry

end SelectQuery
