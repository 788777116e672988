import SelectQuery.Statement

/-!
# Building statements

The calls of a statement builder. A call may ask the provider for the columns of members; one that
fails leaves the statement as it was, while the provider keeps what it was asked.
-/

namespace SelectQuery

namespace Statement

/-- A call of the builder. Members are those of the root entity, on the root alias, unless an alias
is given. -/
inductive Call where
  | edit (e : Edit)
  | addMember (member : String) (type : ValueType)
  | addMemberOf (m : MemberRef) (qualifier : Alias)
  | groupByMember (member : String) (type : ValueType)
  | orderByMember (member : String) (type : ValueType) (direction : Option SortDirection)
  | joinEqual (kind : JoinKind) (e : BinaryExpr) (left joined : Alias)
  | joinOn (kind : JoinKind) (condition : Predicate) (joined : Alias)
  | crossJoin (joined : Alias)
  deriving Repr

/-- The field of a member of the root entity. -/
def rootField (s : Statement) (member : String) (type : ValueType) : Resolving Field :=
  Field.ofMember ⟨s.root.entity, member, type⟩ s.root

/-- The statement after a call. The alias of a join is checked before anything else. -/
def call (s : Statement) : Call → Resolving Statement
  | .edit e => return s.edit e
  | .addMember member type => return s.edit (.fields [← s.rootField member type])
  | .addMemberOf m qualifier => return s.edit (.fields [← Field.ofMember m qualifier])
  | .groupByMember member type => return s.edit (.groupBy [← s.rootField member type])
  | .orderByMember member type direction =>
    return s.edit (.orderBy [⟨← s.rootField member type, direction⟩])
  | .joinEqual kind e left joined => do
    s.ensureFree joined
    s.join (← Join.ofEquality kind e left joined)
  | .joinOn kind condition joined => do
    s.ensureFree joined
    s.join (← Join.withCondition kind joined condition)
  | .crossJoin joined => s.join (Join.crossing joined)

/-- A run of calls from a statement and a provider. -/
def runCalls (s : Statement) (p : Provider) : List Call → Statement × Provider
  | [] => (s, p)
  | c :: cs =>
    match (s.call c).runWith p with
    | (.ok s', p') => runCalls s' p' cs
    | (.error _, p') => runCalls s p' cs

end Statement

end SelectQuery
