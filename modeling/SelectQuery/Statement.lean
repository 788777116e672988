import SelectQuery.Join

/-!
# Statements

A SELECT statement as a value. `edit` makes the changes that cannot fail, `apply` also adds joins,
and `run` applies a history of operations in which a failed one leaves the statement as it was.
`join_eq_ok_iff` says that a join is taken exactly if its alias can be registered.
-/

namespace SelectQuery

inductive SortDirection where
  | asc
  | desc
  deriving DecidableEq, Repr

structure OrderItem where
  field : Field
  direction : Option SortDirection
  deriving DecidableEq, Repr

/-- `TOP count`, of rows or in percent. -/
structure Top where
  count : UInt64
  percent : Bool
  deriving DecidableEq, Repr

structure Statement where
  root : Alias
  /-- The root and the joined aliases. -/
  aliases : Registry
  fields : List Field := []
  joins : List Join := []
  filter : Option Predicate := none
  groupBy : List Field := []
  having : Option Predicate := none
  orderBy : List OrderItem := []
  distinct : Bool := false
  top : Option Top := none
  deriving Repr, BEq

namespace Statement

/-- Everything of the root. -/
def ofRoot (root : Alias) : Statement :=
  { root, aliases := Registry.withRoot root }

/-- A further condition. -/
def conjoin (existing : Option Predicate) (p : Predicate) : Option Predicate :=
  match existing with
  | some q => some (q.and p)
  | none => some p

/-- The changes that cannot fail. -/
inductive Edit where
  | fields (fs : List Field)
  | groupBy (fs : List Field)
  | orderBy (items : List OrderItem)
  | filter (p : Predicate)
  | having (p : Predicate)
  | distinct (b : Bool)
  | top (t : Top)
  deriving Repr

/-- Lists grow at the end, predicates are conjoined, and the rest is replaced. -/
def edit (s : Statement) : Edit → Statement
  | .fields fs => { s with fields := s.fields ++ fs }
  | .groupBy fs => { s with groupBy := s.groupBy ++ fs }
  | .orderBy items => { s with orderBy := s.orderBy ++ items }
  | .filter p => { s with filter := conjoin s.filter p }
  | .having p => { s with having := conjoin s.having p }
  | .distinct b => { s with distinct := b }
  | .top t => { s with top := some t }

/-- Adds a join and registers its alias. -/
def join (s : Statement) (j : Join) : Except SelectError Statement :=
  match s.aliases.register j.joined with
  | .error e => .error e
  | .ok aliases => .ok { s with aliases, joins := s.joins ++ [j] }

/-- Whether a join could register the alias. -/
def ensureFree (s : Statement) (a : Alias) : Except SelectError Unit :=
  (s.aliases.register a).map fun _ => ()

theorem join_eq_ok_iff {s t : Statement} {j : Join} :
    s.join j = .ok t ↔
      ∃ r, s.aliases.register j.joined = .ok r ∧
        t = { s with aliases := r, joins := s.joins ++ [j] } := by
  unfold join
  cases s.aliases.register j.joined <;> simp [eq_comm]

theorem ensureFree_eq_ok_iff {s : Statement} {a : Alias} :
    s.ensureFree a = .ok () ↔ ∃ r, s.aliases.register a = .ok r := by
  unfold ensureFree
  cases s.aliases.register a <;> simp [Except.map]

/-- One operation on a statement. -/
inductive Op where
  | edit (e : Edit)
  | join (j : Join)
  deriving Repr

def apply (s : Statement) : Op → Except SelectError Statement
  | .edit e => .ok (s.edit e)
  | .join j => s.join j

/-- A history of operations; one that fails changes nothing. -/
def run (s : Statement) (ops : List Op) : Statement :=
  ops.foldl (fun s op => (s.apply op).toOption.getD s) s

end Statement

end SelectQuery
