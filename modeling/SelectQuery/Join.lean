import SelectQuery.Predicate.Build

/-!
# Joins

A join brings an alias into a statement, with the condition that relates it to the rest. A
condition comes ready made, or from an equality of two members, whose operands then go to the
aliases of their entities.
-/

namespace SelectQuery

inductive JoinKind where
  | inner
  | left
  | right
  | full
  | cross
  deriving DecidableEq, Repr

def JoinKind.text : JoinKind → String
  | inner => "INNER JOIN"
  | left => "LEFT JOIN"
  | right => "RIGHT JOIN"
  | full => "FULL JOIN"
  | cross => "CROSS JOIN"

structure Join where
  kind : JoinKind
  joined : Alias
  condition : Option Predicate
  deriving Repr, BEq

namespace Join

/-- All pairs of rows. -/
def crossing (joined : Alias) : Join := ⟨.cross, joined, none⟩

/-- A join under a condition, which a cross join cannot have. -/
def withCondition (kind : JoinKind) (joined : Alias) (condition : Predicate) :
    Except SelectError Join :=
  if kind = .cross then .error (.join "CROSS JOIN takes no condition" joined.value)
  else .ok ⟨kind, joined, some condition⟩

/-- The operands of an equality with the aliases they go to. The left operand goes to the left
alias wherever the entities allow it. -/
def orient (e : BinaryExpr) (left joined : Alias) :
    Except SelectError ((MemberRef × Alias) × (MemberRef × Alias)) :=
  match e.op, e.members? with
  | .eq, some (l, r) =>
    if l.entity = left.entity ∧ r.entity = joined.entity then .ok ((l, left), (r, joined))
    else if l.entity = joined.entity ∧ r.entity = left.entity then .ok ((l, joined), (r, left))
    else
      .error (.join
        s!"Join expression does not relate '{left.entity.name}' to '{joined.entity.name}'" e.text)
  | _, _ => .error (.join "Invalid join expression" e.text)

/-- A join from an equality between a member of the left alias and one of the joined alias, in
either order. -/
def ofEquality (kind : JoinKind) (e : BinaryExpr) (left joined : Alias) : Resolving Join := do
  let ((l, lOn), (r, rOn)) ← orient e left joined
  let f ← Field.ofMember l lOn
  let g ← Field.ofMember r rOn
  withCondition kind joined (Predicate.comparison f (.compare .eq) (.field g))

theorem withCondition_eq_ok_iff {k : JoinKind} {a : Alias} {p : Predicate} {j : Join} :
    withCondition k a p = .ok j ↔ k ≠ .cross ∧ j = ⟨k, a, some p⟩ := by
  unfold withCondition
  split <;> simp_all [eq_comm]

end Join

end SelectQuery
