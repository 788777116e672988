import SelectQuery.Field
import SelectQuery.Template

/-!
# Predicates

A predicate is a term, a template whose slots stand for arguments, or two predicates joined by AND
or OR. The same trees serve WHERE, HAVING and join conditions. `Term.slots_lt_of_ofTemplate` says
that the slots of a term lie below the number of its arguments.
-/

namespace SelectQuery

/-- What fills a slot: a field, or a literal to be bound or written out. -/
inductive Argument where
  | field (f : Field)
  | literal (v : Value)
  deriving Repr, BEq

def Argument.field? : Argument → Option Field
  | field f => some f
  | literal _ => none

/-- A template with its arguments. -/
structure Term where
  template : String
  parts : List Template.Part
  arguments : List Argument
  deriving Repr, BEq

namespace Term

/-- Reads a template and checks that each slot has an argument. -/
def ofTemplate (template : String) (arguments : List Argument) : Except SelectError Term :=
  match Template.parse template with
  | .error fault => .error (.invalidFilter template fault.reason)
  | .ok parts =>
    match (Template.slots parts).find? (arguments.length ≤ ·) with
    | some n =>
      .error (.invalidFilter template
        ("slot \x7b" ++ toString n ++ "\x7d has no parameter (" ++
          toString arguments.length ++ " given)"))
    | none => .ok { template, parts, arguments }

/-- A term from the parts of its template. -/
def ofParts (parts : List Template.Part) (arguments : List Argument) : Term :=
  { template := Template.write parts, parts, arguments }

/-- The fields of a term, one for each slot that stands for a field. -/
def fields (t : Term) : List Field :=
  (Template.slots t.parts).filterMap fun n => t.arguments[n]?.bind Argument.field?

theorem slots_lt_of_ofTemplate {template : String} {arguments : List Argument} {t : Term}
    (h : ofTemplate template arguments = .ok t) :
    ∀ n ∈ Template.slots t.parts, n < t.arguments.length := by
  unfold ofTemplate at h
  split at h
  · simp at h
  · split at h
    · simp at h
    · next hf =>
      obtain rfl := Except.ok.inj h
      simpa using hf

end Term

/-- The connectives. -/
inductive Logic where
  | and
  | or
  deriving DecidableEq, Repr

def Logic.text : Logic → String
  | and => "AND"
  | or => "OR"

/-- A tree of terms. -/
inductive Predicate where
  | term (t : Term)
  | combine (logic : Logic) (left right : Predicate)
  deriving Repr, BEq

namespace Predicate

def and (p q : Predicate) : Predicate := combine .and p q

def or (p q : Predicate) : Predicate := combine .or p q

def isCombined : Predicate → Bool
  | term _ => false
  | combine .. => true

/-- The fields of a predicate, from left to right. -/
def fields : Predicate → List Field
  | term t => t.fields
  | combine _ p q => p.fields ++ q.fields

/-- Whether some field of the predicate sits on the alias. -/
def references (p : Predicate) (a : Alias) : Bool :=
  p.fields.any (·.qualifier = a)

end Predicate

end SelectQuery
