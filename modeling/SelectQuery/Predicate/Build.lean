import SelectQuery.Expr
import SelectQuery.Predicate

/-!
# Building terms

The terms for comparison, containment and null tests. Slot 0 is the field under test.
-/

namespace SelectQuery

/-- The operators of a comparison term. -/
inductive Comparison where
  | compare (op : CompareOp)
  | like
  | notLike
  deriving DecidableEq, Repr

def Comparison.sql : Comparison → String
  | compare op => op.sql
  | like => "LIKE"
  | notLike => "NOT LIKE"

/-- The operators of a containment term. -/
inductive Containment where
  | isIn
  | notIn
  deriving DecidableEq, Repr

def Containment.sql : Containment → String
  | isIn => "IN"
  | notIn => "NOT IN"

namespace Predicate

open Template (Part)

/-- `field op argument`. -/
def comparison (f : Field) (op : Comparison) (a : Argument) : Predicate :=
  term (Term.ofParts [Part.slot 0, Part.text (" " ++ op.sql ++ " "), Part.slot 1] [.field f, a])

/-- The parts of a list of `n` values. -/
def listParts (op : Containment) (n : Nat) : List Part :=
  [Part.slot 0, Part.text (" " ++ op.sql ++ " (")] ++
    ((List.range' 1 n).map Part.slot).intersperse (Part.text ",") ++ [Part.text ")"]

/-- `field IN (values)`. An empty list is refused. -/
def contains (f : Field) (op : Containment) (values : List Value) : Except SelectError Predicate :=
  if values = [] then
    .error (.invalidFilter ("\x7b0\x7d " ++ op.sql ++ " ()")
      s!"{op.sql} list for '{f.text}' is empty")
  else .ok (term (Term.ofParts (listParts op values.length)
    (.field f :: values.map Argument.literal)))

def isNull (f : Field) : Predicate :=
  term (Term.ofParts [Part.slot 0, Part.text " IS NULL"] [.field f])

def isNotNull (f : Field) : Predicate :=
  term (Term.ofParts [Part.slot 0, Part.text " IS NOT NULL"] [.field f])

end Predicate

end SelectQuery
