import SelectQuery.Filter
import SelectQuery.Proofs.Joins
import SelectQuery.Proofs.Scope

/-!
# Fields on aliases of their own entity

A field has an entity, and so has the alias it sits on; validation looks at the alias only.

* `Field.Homed`: the two are the same. Members, aggregates and the operands of an equality are
  homed, a plain field need not be;
* `Statement.Homed.runCalls`: calls that are given homed fields only keep a statement homed;
* `value_stands_for`: in a statement that renders, the value of a field stands for the entity of
  its alias, which is that of the field just if the field is homed.
-/

namespace SelectQuery

/-- The field sits on an alias of its own entity. -/
def Field.Homed (f : Field) : Prop := f.entity = f.qualifier.entity

namespace Field

variable {f : Field}

/-- The field of a member is formed from the column that the provider gives. -/
theorem exists_plain_of_ofMember {m : MemberRef} {a : Alias} {p p' : Provider}
    (h : (ofMember m a).runWith p = (.ok f, p')) :
    ∃ c, plain m.entity m.valueType c (some a) = .ok f := by
  obtain ⟨c, q, -, h⟩ := Resolving.runWith_bind_eq_ok_iff.mp h
  rw [Resolving.runWith_lift] at h
  exact ⟨c, (Prod.mk.inj h).1⟩

/-- The field of a member has the entity of the member and sits on the alias that is given. -/
theorem entity_qualifier_of_ofMember {m : MemberRef} {a : Alias} {p p' : Provider}
    (h : (ofMember m a).runWith p = (.ok f, p')) : f.entity = m.entity ∧ f.qualifier = a := by
  obtain ⟨c, h⟩ := exists_plain_of_ofMember h
  obtain ⟨-, b, hb, -, rfl⟩ := plain_eq_ok_iff.mp h
  exact ⟨rfl, (Option.some.inj hb).symm⟩

theorem homed_iff_of_ofMember {m : MemberRef} {a : Alias} {p p' : Provider}
    (h : (ofMember m a).runWith p = (.ok f, p')) : f.Homed ↔ m.entity = a.entity := by
  obtain ⟨he, ha⟩ := entity_qualifier_of_ofMember h
  rw [Homed, he, ha]

theorem Homed.aggregated (h : f.Homed) (a : Aggregate) : (f.aggregated a).Homed := h

end Field

theorem Subject.homed_of_ofMember {t : MemberType} {m : Member t} {v : Option String}
    {p p' : Provider} {s : Subject t} (h : (Subject.ofMember m v).runWith p = (.ok s, p')) :
    s.field.Homed := by
  obtain ⟨f, q, hf, h⟩ := Resolving.runWith_bind_eq_ok_iff.mp h
  rw [Resolving.runWith_pure] at h
  obtain rfl := Except.ok.inj (Prod.mk.inj h).1
  apply (Field.homed_iff_of_ofMember hf).mpr
  cases v <;> rfl

theorem Join.homed_of_ofEquality {k : JoinKind} {e : BinaryExpr} {left joined : Alias}
    {p p' : Provider} {j : Join} (h : (ofEquality k e left joined).runWith p = (.ok j, p')) :
    ∀ f ∈ Statement.fieldsOf j.condition, f.Homed := by
  obtain ⟨m, n, a, b, f, g, _, _, ho, hf, hg, hj⟩ := exists_of_ofEquality h
  obtain ⟨-, hm, hn⟩ := orient_cases ho
  obtain ⟨-, rfl⟩ := withCondition_eq_ok_iff.mp hj
  intro x hx
  have hx : x ∈ [f, g] := hx
  simp only [List.mem_cons, List.not_mem_nil, or_false] at hx
  rcases hx with rfl | rfl
  · exact (Field.homed_iff_of_ofMember hf).mpr hm
  · exact (Field.homed_iff_of_ofMember hg).mpr hn

namespace Statement

/-! ## Operations and the fields they bring -/

/-- The fields that an edit brings. -/
def Edit.mentioned : Edit → List Field
  | fields fs | groupBy fs => fs
  | orderBy items => items.map OrderItem.field
  | filter p | having p => p.fields
  | distinct _ | top _ => []

theorem fieldsOf_conjoin (q : Option Predicate) (p : Predicate) :
    fieldsOf (conjoin q p) = fieldsOf q ++ p.fields := by
  cases q <;> rfl

theorem mem_mentioned_edit {s : Statement} {e : Edit} {f : Field} :
    f ∈ (s.edit e).mentioned ↔ f ∈ s.mentioned ∨ f ∈ e.mentioned := by
  cases e <;>
    simp [mentioned, Edit.mentioned, edit, fieldsOf_conjoin, or_comm, or_left_comm]

theorem mem_mentioned_of_join {s t : Statement} {j : Join} (h : s.join j = .ok t) {f : Field} :
    f ∈ t.mentioned ↔ f ∈ s.mentioned ∨ f ∈ fieldsOf j.condition := by
  obtain ⟨r, -, rfl⟩ := join_eq_ok_iff.mp h
  simp [mentioned, or_comm, or_left_comm]

/-- The fields that an operation brings. -/
def Op.mentioned : Op → List Field
  | .edit e => e.mentioned
  | .join j => fieldsOf j.condition

/-- A statement mentions what it did before and what an operation brings. -/
theorem mem_mentioned_of_apply {s t : Statement} {op : Op} (h : s.apply op = .ok t) {f : Field} :
    f ∈ t.mentioned ↔ f ∈ s.mentioned ∨ f ∈ op.mentioned := by
  cases op with
  | edit e =>
    obtain rfl := Except.ok.inj h
    exact mem_mentioned_edit
  | join j => exact mem_mentioned_of_join h

def Homed (s : Statement) : Prop := ∀ f ∈ s.mentioned, f.Homed

theorem homed_ofRoot (root : Alias) : (ofRoot root).Homed := nofun

theorem Homed.apply {s t : Statement} {op : Op} (hs : s.Homed)
    (hop : ∀ f ∈ op.mentioned, f.Homed) (h : s.apply op = .ok t) : t.Homed := fun f hf =>
  ((mem_mentioned_of_apply h).mp hf).elim (hs f) (hop f)

/-- A call whose given fields are homed, and whose member, if it is given an alias, is one of the
entity of the alias. -/
def Call.Homed : Call → Prop
  | .edit e => ∀ f ∈ e.mentioned, f.Homed
  | .addMemberOf m a => m.entity = a.entity
  | .joinOn _ condition _ => ∀ f ∈ condition.fields, f.Homed
  | .addMember .. | .groupByMember .. | .orderByMember .. | .joinEqual .. | .crossJoin _ => True

/-- The fields that a homed call brings are homed. -/
theorem Call.Makes.homed {s : Statement} {c : Call} {op : Op} (hm : c.Makes s op)
    (hc : c.Homed) : ∀ f ∈ op.mentioned, f.Homed := by
  have hroot : ∀ {m v f p q}, (s.rootField m v).runWith p = (.ok f, q) → f.Homed := fun hf =>
    (Field.homed_iff_of_ofMember hf).mpr rfl
  cases hm with
  | edit e => exact hc
  | addMember hf | groupByMember hf | orderByMember hf =>
    intro g hg
    obtain rfl := List.mem_singleton.mp hg
    exact hroot hf
  | addMemberOf hf =>
    intro g hg
    obtain rfl := List.mem_singleton.mp hg
    exact (Field.homed_iff_of_ofMember hf).mpr hc
  | joinEqual hj => exact Join.homed_of_ofEquality hj
  | joinOn hj =>
    obtain ⟨-, rfl⟩ := Join.withCondition_eq_ok_iff.mp hj
    exact hc
  | crossJoin joined => exact nofun

/-- **A call keeps a statement homed.** -/
theorem Homed.call {s t : Statement} {c : Call} {p p' : Provider} (hs : s.Homed) (hc : c.Homed)
    (h : (s.call c).runWith p = (.ok t, p')) : t.Homed := by
  obtain ⟨op, hm, hop⟩ := exists_op_of_call h
  exact hs.apply (hm.homed hc) hop

theorem Homed.runCalls {s : Statement} (hs : s.Homed) (p : Provider) {cs : List Call}
    (hc : ∀ c ∈ cs, c.Homed) : (s.runCalls p cs).1.Homed :=
  runCalls_induction hs p fun c hm => fun hs h => hs.call (hc c hm) h

/-! ## What a value stands for -/

/-- Some alias of the statement has the value and the entity. -/
def StandsFor (s : Statement) (value : String) (e : Entity) : Prop :=
  ∃ a, s.Declares a ∧ a.value = value ∧ a.entity = e

/-- Aliases of a statement with one value are the same. -/
theorem Reachable.declares_inj {s : Statement} (hs : s.Reachable) {a b : Alias}
    (ha : s.Declares a) (hb : s.Declares b) (h : a.value = b.value) : a = b := by
  rw [← hs.contains_iff, Registry.contains_iff] at ha hb
  exact List.inj_on_of_nodup_map hs.registered.nodup_values ha hb h

theorem Reachable.standsFor_iff {s : Statement} (hs : s.Reachable) {a : Alias}
    (ha : s.Declares a) {e : Entity} : s.StandsFor a.value e ↔ e = a.entity := by
  constructor
  · rintro ⟨b, hb, hv, rfl⟩
    rw [hs.declares_inj hb ha hv]
  · rintro rfl
    exact ⟨a, ha, rfl, rfl⟩

end Statement

/-- **What the value of a field stands for.** In a reachable statement that renders, it is the
entity of the alias that the field sits on. If the fields that calls are given are homed, it is the
entity of the field. -/
theorem value_stands_for {s : Statement} {l : Layout} {r : Rendered} (hs : s.Reachable)
    (h : s.render l = .ok r) :
    (∀ f ∈ s.mentioned, ∀ e, s.StandsFor f.qualifier.value e ↔ e = f.qualifier.entity) ∧
    ∀ (root : Alias) (p : Provider) (cs : List Statement.Call), (∀ c ∈ cs, c.Homed) →
      s = ((Statement.ofRoot root).runCalls p cs).1 →
        ∀ f ∈ s.mentioned, s.StandsFor f.qualifier.value f.entity := by
  have hw := hs.validate_eq_ok_iff.mp (Statement.render_eq_ok_iff.mp h).1
  have hstands : ∀ f ∈ s.mentioned, ∀ e,
      s.StandsFor f.qualifier.value e ↔ e = f.qualifier.entity := fun f hf _ =>
    hs.standsFor_iff (hw.declared f hf)
  refine ⟨hstands, fun root p cs hc he f hf => ?_⟩
  have hhomed := (Statement.homed_ofRoot root).runCalls p hc
  rw [← he] at hhomed
  exact (hstands f hf f.entity).mpr (hhomed f hf)

/-- Selects a column of the people and joins their passports. -/
def Statement.ownerCalls : List Statement.Call :=
  [.addMember "id" .int,
    .joinEqual .left ⟨.eq, .member ⟨Alias.passports.entity, "owner", .int⟩,
      .member ⟨Alias.people.entity, "id", .int⟩⟩ .people .passports]

/-- People with their passports, where columns have the names of the members. -/
def Statement.owners : Statement :=
  ((ofRoot .people).runCalls { resolver := fun _ m => .ok m.member } ownerCalls).1

/-- Members in the select list and in a join condition. -/
theorem value_stands_for_owners :
    Statement.owners.mentioned.map Field.text = ["pe.id", "pa.owner", "pe.id"] ∧
    ∀ f ∈ Statement.owners.mentioned, Statement.owners.StandsFor f.qualifier.value f.entity := by
  have hc : ∀ c ∈ Statement.ownerCalls, c.Homed := by
    simp [Statement.ownerCalls, Statement.Call.Homed]
  have hs : Statement.owners.Reachable := (Statement.Reachable.ofRoot .people).runCalls _ _
  refine ⟨by decide +kernel, ?_⟩
  exact (value_stands_for (l := {}) hs (by rfl)).2 .people _ _ hc rfl

/-- A column of the people on the alias of the passports. -/
def Field.stray : Field := ⟨Alias.people.entity, .int, "id", .passports, none⟩

/-- A field can be formed, and rendered, whose entity is not the one that its alias stands for. -/
theorem stray_renders :
    Field.plain Alias.people.entity .int "id" (some .passports) = .ok .stray ∧
    (((Statement.ofRoot .passports).edit (.fields [.stray])).render {} =
      .ok ⟨"SELECT\n    pa.id\nFROM\n    Passport pa", []⟩) ∧
    ¬ ((Statement.ofRoot .passports).edit (.fields [.stray])).StandsFor
      Field.stray.qualifier.value Field.stray.entity := by
  refine ⟨by decide, by rfl, ?_⟩
  rintro ⟨a, (rfl | ⟨j, hj, -⟩), -, he⟩
  · exact absurd he (by decide)
  · cases hj

end SelectQuery
