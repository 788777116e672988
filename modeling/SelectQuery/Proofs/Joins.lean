import SelectQuery.Join

/-!
# How joins come about

* `Join.Made`, `Join.Made.condition_eq_none_iff`: the joins that can be made, of which just the
  cross joins have no condition;
* `Join.orient_cases`: where the operands of an equality go;
* `Join.exists_of_ofEquality`: what a join from an equality consists of.
-/

namespace SelectQuery

/-- `x = y`, for two fields. -/
def Predicate.equality (x y : Field) : Predicate := comparison x (.compare .eq) (.field y)

theorem Predicate.fields_equality (x y : Field) : (equality x y).fields = [x, y] := rfl

namespace Join

/-- Joins come from two constructors, one of which may refuse. -/
inductive Made : Join → Prop
  | crossing (joined : Alias) : Made (crossing joined)
  | withCondition {k : JoinKind} {joined : Alias} {p : Predicate} {j : Join}
      (h : withCondition k joined p = .ok j) : Made j

theorem Made.condition_eq_none_iff {j : Join} (hj : j.Made) :
    j.condition = none ↔ j.kind = .cross := by
  cases hj with
  | crossing joined => exact ⟨fun _ => rfl, fun _ => rfl⟩
  | withCondition h =>
    obtain ⟨hk, rfl⟩ := withCondition_eq_ok_iff.mp h
    constructor
    · intro hc
      cases hc
    · intro he
      exact absurd he hk

/-- One operand goes to the left alias and the other one to the joined alias, each to an alias of
its entity. -/
theorem orient_cases {e : BinaryExpr} {left joined a b : Alias} {m n : MemberRef}
    (h : orient e left joined = .ok ((m, a), (n, b))) :
    (a = left ∧ b = joined ∨ a = joined ∧ b = left) ∧
      m.entity = a.entity ∧ n.entity = b.entity := by
  unfold orient at h
  split at h
  · split at h
    · next hd =>
      cases h
      exact ⟨Or.inl ⟨rfl, rfl⟩, hd⟩
    · split at h
      · next hd =>
        cases h
        exact ⟨Or.inr ⟨rfl, rfl⟩, hd⟩
      · cases h
  · cases h

/-- The operands are resolved one after the other and compared. -/
theorem exists_of_ofEquality {k : JoinKind} {e : BinaryExpr} {left joined : Alias}
    {p p' : Provider} {j : Join} (h : (ofEquality k e left joined).runWith p = (.ok j, p')) :
    ∃ m n a b f g q q', orient e left joined = .ok ((m, a), (n, b)) ∧
      (Field.ofMember m a).runWith p = (.ok f, q) ∧ (Field.ofMember n b).runWith q = (.ok g, q') ∧
      withCondition k joined (.equality f g) = .ok j := by
  unfold ofEquality at h
  obtain ⟨⟨⟨m, a⟩, n, b⟩, q₀, ho, h⟩ := Resolving.runWith_bind_eq_ok_iff.mp h
  rw [Resolving.runWith_lift] at ho
  obtain ⟨horient, rfl⟩ := Prod.mk.inj ho
  obtain ⟨f, q, hf, h⟩ := Resolving.runWith_bind_eq_ok_iff.mp h
  obtain ⟨g, q', hg, h⟩ := Resolving.runWith_bind_eq_ok_iff.mp h
  rw [Resolving.runWith_lift] at h
  exact ⟨m, n, a, b, f, g, q, q', horient, hf, hg, (Prod.mk.inj h).1⟩

theorem made_of_ofEquality {k : JoinKind} {e : BinaryExpr} {left joined : Alias} {j : Join}
    {p q : Provider} (h : (ofEquality k e left joined).runWith p = (.ok j, q)) : j.Made := by
  obtain ⟨_, _, _, _, _, _, _, _, _, _, _, hj⟩ := exists_of_ofEquality h
  exact .withCondition hj

end Join

end SelectQuery
