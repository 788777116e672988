import SelectQuery.Filter
import SelectQuery.Proofs.Joins
import SelectQuery.Proofs.Memo
import SelectQuery.Render
import SelectQuery.Statement.Builder

/-!
# Joins of two members

An equality of two members can be joined in two ways. As an expression, its operands are turned to
the aliases. As a filter, each operand takes the default alias of its entity by itself.

* `Resolving.Gives`: what work can succeed with if a reply depends on the key alone, whatever was
  looked up before;
* `Field.gives_ofMember`: the fields of a member, through which all work on joins gets its columns;
* `Statement.JoinedOn`, `Statement.gives_joinMembers`, `Statement.gives_joinFilter`: what both ways
  lead to;
* `join_members_eq_join_filter`: they lead to the same statement, or neither leads to one.
-/

namespace SelectQuery

namespace Resolving

variable {α β : Type} {f : Entity × String → Except SelectError String} {x : Resolving α}

/-- With replies `f`, the work succeeds just with the results in `R`, whatever the memo holds. -/
def Gives (f : Entity × String → Except SelectError String) (x : Resolving α) (R : α → Prop) :
    Prop :=
  ∀ p : Provider, p.Answers f →
    (x.runWith p).2.Answers f ∧ ∀ a, (x.runWith p).1 = .ok a ↔ R a

theorem gives_lift (e : Except SelectError α) : Gives f (liftM e) (e = .ok ·) :=
  fun _ hp => ⟨hp, fun _ => Iff.rfl⟩

theorem gives_pure (a : α) : Gives f (pure a) (a = ·) :=
  fun _ hp => ⟨hp, fun _ => ⟨Except.ok.inj, congrArg _⟩⟩

theorem Gives.congr {R S : α → Prop} (hx : Gives f x R) (h : ∀ a, R a ↔ S a) : Gives f x S :=
  fun p hp => ⟨(hx p hp).1, fun a => ((hx p hp).2 a).trans (h a)⟩

theorem Gives.bind {g : α → Resolving β} {R : α → Prop} {S : α → β → Prop} (hx : Gives f x R)
    (hg : ∀ a, Gives f (g a) (S a)) : Gives f (x >>= g) fun b => ∃ a, R a ∧ S a b := by
  intro p hp
  obtain ⟨hq, hR⟩ := hx p hp
  rw [runWith_bind]
  rcases h : x.runWith p with ⟨_ | a, q⟩
  · rw [h] at hq hR
    refine ⟨hq, fun b => ⟨nofun, ?_⟩⟩
    rintro ⟨a, ha, -⟩
    cases (hR a).mpr ha
  · rw [h] at hq hR
    obtain ⟨hq', hS⟩ := hg a q hq
    refine ⟨hq', fun b => (hS b).trans ⟨fun hb => ⟨a, (hR a).mp rfl, hb⟩, ?_⟩⟩
    rintro ⟨a', ha', hb⟩
    obtain rfl := Except.ok.inj ((hR a').mpr ha')
    exact hb

theorem gives_column (m : MemberRef) : Gives f (column m) fun c => f m.key = .ok c ∧ c ≠ "" := by
  intro p hp
  refine ⟨(p.steps_resolve m).answers hp, fun c => ?_⟩
  have h : ((column m).runWith p).1 = Resolver.settle m (f m.key) := hp.answer_eq m
  rw [h, Resolver.settle_eq_ok_iff]

end Resolving

open Resolving

/-! ## Fields and joins -/

section Replies

variable {f : Entity × String → Except SelectError String}

/-- The fields of a member on an alias. -/
def Field.Replied (f : Entity × String → Except SelectError String) (m : MemberRef) (a : Alias)
    (x : Field) : Prop :=
  ∃ c, f m.key = .ok c ∧ Field.plain m.entity m.valueType c (some a) = .ok x

theorem Field.gives_ofMember (m : MemberRef) (a : Alias) :
    Gives f (ofMember m a) (Replied f m a) := by
  refine ((gives_column m).bind fun c => gives_lift _).congr fun x => ?_
  constructor
  · rintro ⟨c, ⟨hc, -⟩, hx⟩
    exact ⟨c, hc, hx⟩
  · rintro ⟨c, hc, hx⟩
    refine ⟨c, ⟨hc, ?_⟩, hx⟩
    rintro rfl
    exact absurd (plain_eq_ok_iff.mp hx).1 (by decide)

/-- The operands are turned first, and then they are resolved on the aliases they go to. -/
theorem Join.ofEquality_eq {e : BinaryExpr} {left joined a b : Alias} {m n : MemberRef}
    (h : orient e left joined = .ok ((m, a), (n, b))) (k : JoinKind) :
    ofEquality k e left joined = (do
      let x ← Field.ofMember m a
      let y ← Field.ofMember n b
      withCondition k joined (.equality x y)) := by
  unfold ofEquality
  rw [h]
  rfl

theorem Join.gives_ofEquality {e : BinaryExpr} {left joined a b : Alias} {m n : MemberRef}
    (h : orient e left joined = .ok ((m, a), (n, b))) (k : JoinKind) :
    Gives f (ofEquality k e left joined) fun j =>
      ∃ x, Field.Replied f m a x ∧ ∃ y, Field.Replied f n b y ∧
        withCondition k joined (.equality x y) = .ok j := by
  rw [ofEquality_eq h]
  exact (Field.gives_ofMember m a).bind fun _ => (Field.gives_ofMember n b).bind fun _ =>
    gives_lift _

/-- The operands of an equality go to the default aliases of their entities. -/
theorem Join.orient_compare {t : MemberType} {a b : Member t} {left joined : Entity}
    (h : a.entity = left ∧ b.entity = joined ∨ a.entity = joined ∧ b.entity = left) :
    orient (a.compare .eq b) (.ofEntity left) (.ofEntity joined) =
      .ok ((a.ref, .ofEntity a.entity), (b.ref, .ofEntity b.entity)) := by
  rcases h with ⟨rfl, rfl⟩ | ⟨rfl, rfl⟩
  · simp [orient, Member.compare, BinaryExpr.members?, Operand.member?, Member.ref, Alias.ofEntity]
  · -- if both entities are the same, the operands go straight, to one alias
    by_cases he : a.entity = b.entity <;>
      simp [orient, Member.compare, BinaryExpr.members?, Operand.member?, Member.ref,
        Alias.ofEntity, he]

theorem Subject.gives_ofMember {t : MemberType} (m : Member t) :
    Gives f (ofMember m none) fun s => Field.Replied f m.ref (.ofEntity m.entity) s.field := by
  refine ((Field.gives_ofMember m.ref _).bind fun x => gives_pure _).congr fun s => ?_
  constructor
  · rintro ⟨x, hx, rfl⟩
    exact hx
  · exact fun hs => ⟨s.field, hs, rfl⟩

theorem Subject.gives_equalsMember {t : MemberType} (s : Subject t) (m : Member t) :
    Gives f (s.equalsMember m none) fun p =>
      ∃ y, Field.Replied f m.ref (.ofEntity m.entity) y ∧ Predicate.equality s.field y = p :=
  (Field.gives_ofMember m.ref _).bind fun _ => gives_pure _

end Replies

namespace Statement

variable {t : MemberType}

/-- Joins an entity to another one, both on their default aliases, by an equality of members. -/
def joinMembers (s : Statement) (k : JoinKind) (left joined : Entity) (a b : Member t) :
    Resolving Statement :=
  s.call (.joinEqual k (a.compare .eq b) (.ofEntity left) (.ofEntity joined))

/-- Joins an entity on its default alias by a filter that compares two members. -/
def joinFilter (s : Statement) (k : JoinKind) (joined : Entity) (a b : Member t) :
    Resolving Statement := do
  let subject ← Subject.ofMember a none
  let condition ← subject.equalsMember b none
  s.call (.joinOn k condition (.ofEntity joined))

variable {f : Entity × String → Except SelectError String}

/-- The alias is checked once more when the join is added. -/
theorem ensureFree_of_join {s u : Statement} {k : JoinKind} {joined : Alias} {c : Option Predicate}
    (h : s.join ⟨k, joined, c⟩ = .ok u) : s.ensureFree joined = .ok () := by
  obtain ⟨r, hr, -⟩ := join_eq_ok_iff.mp h
  exact ensureFree_eq_ok_iff.mpr ⟨r, hr⟩

theorem gives_joinOn (s : Statement) (k : JoinKind) (c : Predicate) (joined : Alias) :
    Gives f (s.call (.joinOn k c joined)) fun u =>
      k ≠ .cross ∧ s.join ⟨k, joined, some c⟩ = .ok u := by
  refine ((gives_lift (s.ensureFree joined)).bind fun _ =>
    (gives_lift (Join.withCondition k joined c)).bind fun j =>
      gives_lift (s.join j)).congr fun u => ?_
  constructor
  · rintro ⟨_, -, j, hj, hu⟩
    obtain ⟨hk, rfl⟩ := Join.withCondition_eq_ok_iff.mp hj
    exact ⟨hk, hu⟩
  · rintro ⟨hk, hu⟩
    exact ⟨(), ensureFree_of_join hu, _, Join.withCondition_eq_ok_iff.mpr ⟨hk, rfl⟩, hu⟩

theorem gives_joinEqual (s : Statement) (k : JoinKind) {e : BinaryExpr}
    {left joined onto₁ onto₂ : Alias} {m n : MemberRef}
    (h : Join.orient e left joined = .ok ((m, onto₁), (n, onto₂))) :
    Gives f (s.call (.joinEqual k e left joined)) fun u =>
      k ≠ .cross ∧ ∃ x y, Field.Replied f m onto₁ x ∧ Field.Replied f n onto₂ y ∧
        s.join ⟨k, joined, some (.equality x y)⟩ = .ok u := by
  refine ((gives_lift (s.ensureFree joined)).bind fun _ =>
    (Join.gives_ofEquality h k).bind fun j => gives_lift (s.join j)).congr fun u => ?_
  constructor
  · rintro ⟨_, -, j, ⟨x, hx, y, hy, hj⟩, hu⟩
    obtain ⟨hk, rfl⟩ := Join.withCondition_eq_ok_iff.mp hj
    exact ⟨hk, x, y, hx, hy, hu⟩
  · rintro ⟨hk, x, y, hx, hy, hu⟩
    exact ⟨(), ensureFree_of_join hu, _,
      ⟨x, hx, y, hy, Join.withCondition_eq_ok_iff.mpr ⟨hk, rfl⟩⟩, hu⟩

/-- What a join of two members leads to: the members are on the default aliases of their entities,
in the order of the equality. -/
def JoinedOn (f : Entity × String → Except SelectError String) (s : Statement) (k : JoinKind)
    (joined : Entity) (a b : Member t) (u : Statement) : Prop :=
  k ≠ .cross ∧ ∃ x y, Field.Replied f a.ref (.ofEntity a.entity) x ∧
    Field.Replied f b.ref (.ofEntity b.entity) y ∧
    s.join ⟨k, .ofEntity joined, some (.equality x y)⟩ = .ok u

theorem gives_joinFilter (s : Statement) (k : JoinKind) (joined : Entity) (a b : Member t) :
    Gives f (s.joinFilter k joined a b) (s.JoinedOn f k joined a b) := by
  refine ((Subject.gives_ofMember a).bind fun subject =>
    (subject.gives_equalsMember b).bind fun c =>
      s.gives_joinOn k c (.ofEntity joined)).congr fun u => ?_
  constructor
  · rintro ⟨⟨x⟩, hx, _, ⟨y, hy, rfl⟩, hk, hu⟩
    exact ⟨hk, x, y, hx, hy, hu⟩
  · rintro ⟨hk, x, y, hx, hy, hu⟩
    exact ⟨⟨x⟩, hx, _, ⟨y, hy, rfl⟩, hk, hu⟩

theorem gives_joinMembers (s : Statement) (k : JoinKind) {left joined : Entity} {a b : Member t}
    (h : a.entity = left ∧ b.entity = joined ∨ a.entity = joined ∧ b.entity = left) :
    Gives f (s.joinMembers k left joined a b) (s.JoinedOn f k joined a b) :=
  s.gives_joinEqual k (Join.orient_compare h)

end Statement

/-! ## The default provider -/

theorem toOption_eq_some_iff {α : Type} {x : Except SelectError α} {a : α} :
    x.toOption = some a ↔ x = .ok a := by
  cases x <;> simp [Except.toOption]

/-- The column that an entity declares for a member. -/
def Resolver.declaredColumn (k : Entity × String) : Except SelectError String :=
  match k.1.member? k.2 with
  | some d => .ok d.column
  | none => .error (.fieldResolution k.1.name k.2 "member is not declared on the entity")

theorem Provider.answers_declared : Provider.declared.Answers Resolver.declaredColumn :=
  ⟨fun _ _ => rfl, nofun⟩

open Statement in
/-- **Joining two members is joining under the filter that compares them.** With the default
provider, whatever it was asked before, both lead to the same statement, with the same text in every
layout, or neither leads to any. They do just if both members are declared with a column, the join
takes a condition and its alias is free. -/
theorem join_members_eq_join_filter {t : MemberType} {a b : Member t} {left joined : Entity}
    (h : a.entity = left ∧ b.entity = joined ∨ a.entity = joined ∧ b.entity = left)
    (s : Statement) (k : JoinKind) (ms ns : List MemberRef) :
    ((s.joinMembers k left joined a b).runWith (Provider.declared.after ms)).1.toOption =
      ((s.joinFilter k joined a b).runWith (Provider.declared.after ns)).1.toOption ∧
    ∀ u, ((s.joinMembers k left joined a b).runWith (Provider.declared.after ms)).1 = .ok u ↔
      s.JoinedOn Resolver.declaredColumn k joined a b u := by
  obtain ⟨-, hmembers⟩ := s.gives_joinMembers k h _ (Provider.answers_declared.after ms)
  obtain ⟨-, hfilter⟩ := s.gives_joinFilter k joined a b _ (Provider.answers_declared.after ns)
  refine ⟨?_, hmembers⟩
  ext u
  rw [toOption_eq_some_iff, toOption_eq_some_iff, hmembers, hfilter]

def Entity.person : Entity := ⟨"person", "Person", "Person", [⟨"id", "Id", .int⟩]⟩

def Entity.passport : Entity := ⟨"passport", "Passport", "Passport", [⟨"owner", "PersonId", .int⟩]⟩

def Member.personId : Member .int64 := ⟨.person, "id"⟩

def Member.owner : Member .int64 := ⟨.passport, "owner"⟩

/-- People with their passports. The member of the passports comes first. -/
theorem join_members_eq_join_filter_owners :
    (Member.owner.entity = .passport ∧ Member.personId.entity = .person) ∧
    (((Statement.ofRoot (.ofEntity .person)).joinMembers .left .person .passport .owner
      .personId).runWith Provider.declared).1.toOption =
    (((Statement.ofRoot (.ofEntity .person)).joinFilter .left .passport .owner
      .personId).runWith Provider.declared).1.toOption ∧
    (((Statement.ofRoot (.ofEntity .person)).joinFilter .left .passport .owner
      .personId).runWith Provider.declared).1.toOption.map (fun u => u.render {}) =
      some (.ok ⟨"SELECT\n    *\nFROM\n    Person pe\n" ++
        "LEFT JOIN\n    Passport pa ON pa.PersonId = pe.Id", []⟩) := by
  have h : Member.owner.entity = .passport ∧ Member.personId.entity = .person := ⟨rfl, rfl⟩
  exact ⟨h, (join_members_eq_join_filter (Or.inr h) _ _ [] []).1, by rfl⟩

end SelectQuery
