import SelectQuery.Proofs.Draft
import SelectQuery.Proofs.Grammar.Writing

/-!
# Slots and their arguments

The slots of a template are numbers, and each has to be the place of an argument. Terms that are
read from a template are checked for it, terms that are made from parts are not.

* `Term.InRange`, `Predicate.InRange`, `Statement.InRange`: every slot has an argument;
* `Predicate.Formed`, `Predicate.Formed.inRange`: the ways to get a predicate, all of which give one
  in range;
* `Statement.inRange_of_apply_iff`, `Statement.InRange.call`: what operations and calls keep;
* `Statement.Assembled`: the statements that operations with such predicates lead to.
-/

namespace SelectQuery

/-- Every slot of the term has an argument. -/
def Term.InRange (t : Term) : Prop := ∀ n ∈ Template.slots t.parts, n < t.arguments.length

instance (t : Term) : Decidable t.InRange :=
  inferInstanceAs (Decidable (∀ n ∈ Template.slots t.parts, n < t.arguments.length))

/-! ## Predicates -/

namespace Predicate

/-- Every slot of every term has an argument. -/
def InRange (p : Predicate) : Prop := ∀ t ∈ p.terms, t.InRange

instance (p : Predicate) : Decidable p.InRange :=
  inferInstanceAs (Decidable (∀ t ∈ p.terms, t.InRange))

@[simp]
theorem inRange_term {t : Term} : (term t).InRange ↔ t.InRange := by
  simp [InRange, terms]

/-- AND and OR change no term. -/
@[simp]
theorem inRange_combine {logic : Logic} {p q : Predicate} :
    (combine logic p q).InRange ↔ p.InRange ∧ q.InRange := by
  simp only [InRange, terms, List.mem_append, or_imp, forall_and]

/-- The ways to get a predicate: from a template with arguments, by a constructor of terms, and from
two others. -/
inductive Formed : Predicate → Prop
  | template {s : String} {as : List Argument} {t : Term} (h : Term.ofTemplate s as = .ok t) :
      Formed (.term t)
  | generated {p : Predicate} (h : p.Generated) : Formed p
  | and {p q : Predicate} (hp : Formed p) (hq : Formed q) : Formed (p.and q)
  | or {p q : Predicate} (hp : Formed p) (hq : Formed q) : Formed (p.or q)

/-- The constructors of terms number their slots by the arguments they have. -/
theorem Generated.inRange {p : Predicate} (h : p.Generated) : p.InRange := by
  obtain ⟨parts, arguments, rfl, -, hs⟩ := h.ofParts
  exact inRange_term.mpr hs

/-- **No way to get a predicate leaves a slot without an argument.** -/
theorem Formed.inRange {p : Predicate} (h : p.Formed) : p.InRange := by
  induction h with
  | template h => exact inRange_term.mpr (Term.slots_lt_of_ofTemplate h)
  | generated h => exact h.inRange
  | and _ _ ihp ihq => exact inRange_combine.mpr ⟨ihp, ihq⟩
  | or _ _ ihp ihq => exact inRange_combine.mpr ⟨ihp, ihq⟩

end Predicate

namespace Statement

/-! ## Operations and the predicates they bring -/

/-- Every slot of every term in the statement has an argument. -/
def InRange (s : Statement) : Prop := ∀ t ∈ s.terms, t.InRange

/-- The predicates that an edit brings. -/
def Edit.predicates : Edit → List Predicate
  | filter p | having p => [p]
  | fields _ | groupBy _ | orderBy _ | distinct _ | top _ => []

/-- The predicates that an operation brings. -/
def Op.predicates : Op → List Predicate
  | edit e => e.predicates
  | join j => j.condition.toList

/-- The predicates that a call is given. -/
def Call.predicates : Call → List Predicate
  | edit e => e.predicates
  | joinOn _ condition _ => [condition]
  | addMember .. | addMemberOf .. | groupByMember .. | orderByMember .. | joinEqual ..
  | crossJoin _ => []

/-- A statement is in range just if its predicates are. -/
theorem inRange_iff {s : Statement} : s.InRange ↔
    (∀ j ∈ s.joins, ∀ p ∈ j.condition, p.InRange) ∧ (∀ p ∈ s.filter, p.InRange) ∧
      ∀ p ∈ s.having, p.InRange := by
  have ho : ∀ p : Option Predicate,
      (∀ t ∈ Predicate.termsOf p, t.InRange) ↔ ∀ q ∈ p, q.InRange := by
    intro p
    cases p <;> simp [Predicate.termsOf, Predicate.InRange]
  have hj : (∀ t ∈ joinTerms s.joins, t.InRange) ↔
      ∀ j ∈ s.joins, ∀ p ∈ j.condition, p.InRange := by
    simp only [joinTerms, List.forall_mem_flatMap, Join.terms, ho]
  simp only [InRange, terms, List.forall_mem_append, hj, ho, and_assoc]

theorem inRange_conjoin {q : Option Predicate} {p : Predicate} :
    (∀ r ∈ conjoin q p, r.InRange) ↔ (∀ r ∈ q, r.InRange) ∧ p.InRange := by
  cases q <;> simp [conjoin, Predicate.and]

/-- **An operation keeps a statement in range** if the predicates it brings are, and only then. -/
theorem inRange_of_apply_iff {s t : Statement} {op : Op} (h : s.apply op = .ok t) :
    t.InRange ↔ s.InRange ∧ ∀ p ∈ op.predicates, p.InRange := by
  rw [inRange_iff, inRange_iff]
  cases op with
  | edit e =>
    obtain rfl := Except.ok.inj h
    cases e with
    | filter p | having p =>
      simp only [edit, inRange_conjoin, Op.predicates, Edit.predicates, List.forall_mem_singleton]
      tauto
    | fields | groupBy | orderBy | distinct | top => simp [edit, Op.predicates, Edit.predicates]
  | join j =>
    obtain ⟨r, -, rfl⟩ := join_eq_ok_iff.mp h
    simp only [Op.predicates, List.forall_mem_append, List.forall_mem_singleton,
      Option.mem_toList]
    tauto

theorem inRange_ofRoot (root : Alias) : (ofRoot root).InRange := nofun

/-- A call brings the predicates that it is given, or else it makes a term for an equality. -/
theorem Call.Makes.eq_or_generated {s : Statement} {c : Call} {op : Op} (hm : c.Makes s op) :
    ∀ p ∈ op.predicates, p ∈ c.predicates ∨ p.Generated := by
  cases hm with
  | edit e => exact fun p hp => .inl hp
  | addMember | addMemberOf | groupByMember | orderByMember => exact nofun
  | joinEqual hj => exact fun p hp => .inr (.joinCondition hj (Option.mem_toList.mp hp))
  | joinOn hj =>
    obtain ⟨-, rfl⟩ := Join.withCondition_eq_ok_iff.mp hj
    exact fun p hp => .inl hp
  | crossJoin joined => exact nofun

/-- **A call keeps a statement in range** if the predicates it is given are. -/
theorem InRange.call {s t : Statement} {c : Call} {p q : Provider} (hs : s.InRange)
    (hc : ∀ r ∈ c.predicates, r.InRange) (h : (s.call c).runWith p = (.ok t, q)) : t.InRange := by
  obtain ⟨op, hm, hop⟩ := exists_op_of_call h
  refine (inRange_of_apply_iff hop).mpr ⟨hs, fun r hr => ?_⟩
  rcases hm.eq_or_generated r hr with hr | hr
  · exact hc r hr
  · exact hr.inRange

/-! ## Statements that are assembled -/

/-- A statement that operations with formed predicates lead to. -/
inductive Assembled : Statement → Prop
  | ofRoot (root : Alias) : Assembled (ofRoot root)
  | step {s t : Statement} {op : Op} (hs : Assembled s) (hop : ∀ p ∈ op.predicates, p.Formed)
      (h : s.apply op = .ok t) : Assembled t

namespace Assembled

variable {s : Statement}

theorem run (hs : s.Assembled) {ops : List Op} (hops : ∀ op ∈ ops, ∀ p ∈ op.predicates, p.Formed) :
    (s.run ops).Assembled :=
  run_induction hs fun op hop => fun hs h => hs.step (hops op hop) h

/-- Runs of the builder stay among these statements if the predicates they are given are formed. -/
theorem runCalls (hs : s.Assembled) (p : Provider) {cs : List Call}
    (hc : ∀ c ∈ cs, ∀ q ∈ c.predicates, q.Formed) : (s.runCalls p cs).1.Assembled := by
  apply runCalls_induction hs p
  intro c hmem s t p q hs h
  obtain ⟨op, hm, hop⟩ := exists_op_of_call h
  refine hs.step (fun r hr => ?_) hop
  rcases hm.eq_or_generated r hr with hr | hr
  · exact hc c hmem r hr
  · exact .generated hr

/-- **Every slot of an assembled statement has an argument.** -/
theorem inRange (hs : s.Assembled) : s.InRange := by
  induction hs with
  | ofRoot root => exact inRange_ofRoot root
  | step _ hop h ih =>
    exact (inRange_of_apply_iff h).mpr ⟨ih, fun p hp => (hop p hp).inRange⟩

end Assembled

end Statement

end SelectQuery
