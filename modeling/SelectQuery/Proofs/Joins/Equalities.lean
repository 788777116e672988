import SelectQuery.Proofs.Fragments
import SelectQuery.Proofs.Joins.Members
import SelectQuery.Proofs.Registry

/-!
# Joins from equalities

When an equality of members makes a join, which join that is, and which error there is otherwise,
for a provider that answers each member in one way.

* `Provider.Steady`: such a provider;
* `Field.Answered`, `Field.Refused`: what a member comes to on an alias;
* `Join.Turned`, `Join.orient_eq_ok_iff`: the operands and the aliases they go to;
* `Join.Resolved`, `Join.Refused`: the join, and the errors in their order;
* `equality_joins_exact`: there are no others.
-/

namespace SelectQuery

/-! ## Steady providers -/

namespace Provider

variable {p : Provider}

def answer (p : Provider) (m : MemberRef) : Except SelectError String := (p.resolve m).1

/-- The answer to a member does not change, whatever is asked before. -/
def Steady (p : Provider) : Prop := ∀ ms m, (p.after ms).answer m = p.answer m

theorem Answers.steady {f : Entity × String → Except SelectError String} (hp : p.Answers f) :
    p.Steady := fun ms m => ((hp.after ms).answer_eq m).trans (hp.answer_eq m).symm

/-- The member has a column that can be qualified. -/
def Names (p : Provider) (m : MemberRef) : Prop :=
  ∃ c, p.answer m = .ok c ∧ Text.isBlank c = false

end Provider

/-! ## Members on aliases -/

namespace Field

variable {p : Provider} {m : MemberRef} {a : Alias} {x : Field} {err : SelectError}

/-- The field of a member on an alias. -/
def answered (p : Provider) (m : MemberRef) (a : Alias) : Except SelectError Field :=
  p.answer m >>= fun c => plain m.entity m.valueType c (some a)

theorem runWith_ofMember (p : Provider) (m : MemberRef) (a : Alias) :
    (ofMember m a).runWith p = (answered p m a, (p.resolve m).2) := by
  have hc : (Resolving.column m).runWith p = (p.answer m, (p.resolve m).2) := rfl
  unfold ofMember answered
  rw [Resolving.runWith_bind, hc]
  cases p.answer m <;> rfl

/-- The member has a column, and neither it nor the alias is blank. -/
structure Answered (p : Provider) (m : MemberRef) (a : Alias) (x : Field) : Prop where
  answer_eq : p.answer m = .ok x.column
  column : Text.isBlank x.column = false
  named : a.isBlank = false
  eq : x = { entity := m.entity, valueType := m.valueType, column := x.column, qualifier := a }

/-- What can go wrong with a member on an alias, the column before the alias. -/
inductive Refused (p : Provider) (m : MemberRef) (a : Alias) : SelectError → Prop
  | unresolved {err : SelectError} (h : p.answer m = .error err) : Refused p m a err
  | blankColumn {c : String} (h : p.answer m = .ok c) (hc : Text.isBlank c = true) :
      Refused p m a (.invalidField m.entity.name "column name is empty")
  | blankAlias {c : String} (h : p.answer m = .ok c) (hc : Text.isBlank c = false)
      (ha : a.isBlank = true) :
      Refused p m a (.invalidField m.entity.name ("column '" ++ c ++ "' has an empty alias"))

theorem answered_eq_ok_iff : answered p m a = .ok x ↔ Answered p m a x := by
  unfold answered
  constructor
  · intro h
    obtain ⟨c, hc, h⟩ := exists_of_bind_eq_ok h
    obtain ⟨hb, _, he, ha, rfl⟩ := plain_eq_ok_iff.mp h
    obtain rfl := Option.some.inj he
    exact ⟨hc, hb, ha, rfl⟩
  · rintro ⟨hc, hb, ha, hx⟩
    rw [hc]
    exact plain_eq_ok_iff.mpr ⟨hb, a, rfl, ha, hx⟩

theorem answered_eq_error_iff : answered p m a = .error err ↔ Refused p m a err := by
  unfold answered
  constructor
  · intro h
    cases hc : p.answer m with
    | error e =>
      rw [hc] at h
      obtain rfl := Except.error.inj h
      exact .unresolved hc
    | ok c =>
      simp only [hc, bind, Except.bind, plain] at h
      split at h
      · next hb =>
        obtain rfl := Except.error.inj h
        exact .blankColumn hc hb
      · next hb =>
        split at h
        · next ha =>
          obtain rfl := Except.error.inj h
          exact .blankAlias hc (Bool.not_eq_true _ ▸ hb) ha
        · cases h
  · intro h
    cases h with
    | unresolved h => rw [h]; rfl
    | blankColumn h hb => simp [h, bind, Except.bind, plain, hb]
    | blankAlias h hb ha => simp [h, bind, Except.bind, plain, hb, ha, toString]

end Field

/-! ## Orientation -/

/-- The expression equates two members. -/
structure BinaryExpr.Equates (e : BinaryExpr) (m n : MemberRef) : Prop where
  op_eq : e.op = .eq
  left_eq : e.left = .member m
  right_eq : e.right = .member n

theorem BinaryExpr.members?_eq_some_iff {e : BinaryExpr} {m n : MemberRef} :
    e.members? = some (m, n) ↔ e.left = .member m ∧ e.right = .member n := by
  unfold members?
  cases e.left <;> cases e.right <;> simp [Operand.member?]

namespace Join

variable {e : BinaryExpr} {left joined a b : Alias} {m n : MemberRef} {err : SelectError}

/-- One member is of the left entity and the other one of the joined entity. -/
def Straddles (left joined : Alias) (m n : MemberRef) : Prop :=
  m.entity = left.entity ∧ n.entity = joined.entity ∨
    m.entity = joined.entity ∧ n.entity = left.entity

/-- The operands of an equality, each with an alias of its entity. If both aliases are of one
entity, the left operand goes to the left alias. -/
structure Turned (e : BinaryExpr) (left joined : Alias) (m : MemberRef) (a : Alias) (n : MemberRef)
    (b : Alias) : Prop where
  equates : e.Equates m n
  left_entity : m.entity = a.entity
  right_entity : n.entity = b.entity
  aliases : a = left ∧ b = joined ∨ left.entity ≠ joined.entity ∧ a = joined ∧ b = left

theorem orient_of_equates (he : e.Equates m n) : orient e left joined =
    if m.entity = left.entity ∧ n.entity = joined.entity then .ok ((m, left), (n, joined))
    else if m.entity = joined.entity ∧ n.entity = left.entity then .ok ((m, joined), (n, left))
    else .error (.join ("Join expression does not relate '" ++ left.entity.name ++ "' to '" ++
      joined.entity.name ++ "'") e.text) := by
  unfold orient
  rw [he.op_eq, BinaryExpr.members?_eq_some_iff.mpr ⟨he.left_eq, he.right_eq⟩]
  rfl

theorem orient_of_not_equates (h : ∀ m n, ¬ e.Equates m n) :
    orient e left joined = .error (.join "Invalid join expression" e.text) := by
  unfold orient
  split
  · next m n ho hm =>
    obtain ⟨hl, hr⟩ := BinaryExpr.members?_eq_some_iff.mp hm
    exact absurd ⟨ho, hl, hr⟩ (h m n)
  · rfl

theorem orient_eq_ok_iff : orient e left joined = .ok ((m, a), (n, b)) ↔
    Turned e left joined m a n b := by
  constructor
  · intro h
    by_cases he : ∃ m n, e.Equates m n
    · obtain ⟨m', n', he⟩ := he
      rw [orient_of_equates he] at h
      split at h
      · next hd =>
        cases h
        exact ⟨he, hd.1, hd.2, .inl ⟨rfl, rfl⟩⟩
      · split at h
        · next hd hs =>
          cases h
          refine ⟨he, hs.1, hs.2, .inr ⟨fun heq => hd ?_, rfl, rfl⟩⟩
          rw [hs.1, hs.2, heq]
          exact ⟨rfl, rfl⟩
        · cases h
    · rw [orient_of_not_equates fun m n h => he ⟨m, n, h⟩] at h
      cases h
  · rintro ⟨he, hm, hn, ⟨rfl, rfl⟩ | ⟨hne, rfl, rfl⟩⟩
    · rw [orient_of_equates he, if_pos ⟨hm, hn⟩]
    · have hd : ¬ (m.entity = b.entity ∧ n.entity = a.entity) := fun hd => hne (hn.symm.trans hd.2)
      rw [orient_of_equates he, if_neg hd, if_pos ⟨hm, hn⟩]

/-- Operands can be turned just if the entities are those of the aliases. -/
theorem Turned.straddles (h : Turned e left joined m a n b) : Straddles left joined m n := by
  obtain ⟨-, hm, hn, ⟨rfl, rfl⟩ | ⟨-, rfl, rfl⟩⟩ := h
  · exact .inl ⟨hm, hn⟩
  · exact .inr ⟨hm, hn⟩

theorem exists_turned (he : e.Equates m n) (h : Straddles left joined m n) :
    ∃ a b, Turned e left joined m a n b := by
  rcases h with ⟨hm, hn⟩ | ⟨hm, hn⟩
  · exact ⟨left, joined, he, hm, hn, .inl ⟨rfl, rfl⟩⟩
  · by_cases heq : left.entity = joined.entity
    · exact ⟨left, joined, he, hm.trans heq.symm, hn.trans heq, .inl ⟨rfl, rfl⟩⟩
    · exact ⟨joined, left, he, hm, hn, .inr ⟨heq, rfl, rfl⟩⟩

theorem orient_of_not_straddles (he : e.Equates m n) (h : ¬ Straddles left joined m n) :
    orient e left joined = .error (.join ("Join expression does not relate '" ++
      left.entity.name ++ "' to '" ++ joined.entity.name ++ "'") e.text) := by
  rw [Straddles, not_or] at h
  rw [orient_of_equates he, if_neg h.1, if_neg h.2]

/-! ## Outcomes -/

variable {p : Provider} {k : JoinKind} {j : Join}

/-- The join of an equality. -/
inductive Resolved (p : Provider) (k : JoinKind) (e : BinaryExpr) (left joined : Alias) :
    Join → Prop
  | mk {m n : MemberRef} {a b : Alias} {x y : Field} (ht : Turned e left joined m a n b)
      (hx : Field.Answered p m a x) (hy : Field.Answered p n b y) (hk : k ≠ .cross) :
      Resolved p k e left joined ⟨k, joined, some (.equality x y)⟩

/-- The errors, each with the checks before it passed. -/
inductive Refused (p : Provider) (k : JoinKind) (e : BinaryExpr) (left joined : Alias) :
    SelectError → Prop
  | shape (h : ∀ m n, ¬ e.Equates m n) :
      Refused p k e left joined (.join "Invalid join expression" e.text)
  | orientation {m n : MemberRef} (he : e.Equates m n) (h : ¬ Straddles left joined m n) :
      Refused p k e left joined (.join ("Join expression does not relate '" ++ left.entity.name ++
        "' to '" ++ joined.entity.name ++ "'") e.text)
  | left {m n : MemberRef} {a b : Alias} {err : SelectError} (ht : Turned e left joined m a n b)
      (h : Field.Refused p m a err) : Refused p k e left joined err
  | right {m n : MemberRef} {a b : Alias} {x : Field} {err : SelectError}
      (ht : Turned e left joined m a n b) (hx : Field.Answered p m a x)
      (h : Field.Refused p n b err) : Refused p k e left joined err
  | kind {m n : MemberRef} {a b : Alias} {x y : Field} (ht : Turned e left joined m a n b)
      (hx : Field.Answered p m a x) (hy : Field.Answered p n b y) (hk : k = .cross) :
      Refused p k e left joined (.join "CROSS JOIN takes no condition" joined.value)

/-- Without an orientation no member is resolved. -/
theorem runWith_ofEquality_of_error (ho : orient e left joined = .error err) (p : Provider) :
    (ofEquality k e left joined).runWith p = (.error err, p) := by
  unfold ofEquality
  rw [ho]
  rfl

theorem outcome_of_turned (hp : p.Steady) (ht : Turned e left joined m a n b) :
    ((ofEquality k e left joined).runWith p).1 = (do
      let x ← Field.answered p m a
      let y ← Field.answered p n b
      withCondition k joined (.equality x y)) := by
  have hn : Field.answered (p.resolve m).2 n b = Field.answered p n b :=
    congrArg (· >>= _) (hp [m] n)
  rw [ofEquality_eq (orient_eq_ok_iff.mpr ht), Resolving.runWith_bind, Field.runWith_ofMember]
  cases Field.answered p m a with
  | error e => rfl
  | ok x =>
    simp only [Resolving.runWith_bind, Field.runWith_ofMember, hn]
    cases Field.answered p n b <;> rfl

theorem Resolved.outcome (hp : p.Steady) (h : Resolved p k e left joined j) :
    ((ofEquality k e left joined).runWith p).1 = .ok j := by
  cases h with
  | mk ht hx hy hk =>
    rw [outcome_of_turned hp ht, Field.answered_eq_ok_iff.mpr hx, Field.answered_eq_ok_iff.mpr hy]
    exact if_neg hk

theorem Refused.outcome (hp : p.Steady) (h : Refused p k e left joined err) :
    ((ofEquality k e left joined).runWith p).1 = .error err := by
  cases h with
  | shape h => rw [runWith_ofEquality_of_error (orient_of_not_equates h)]
  | orientation he h => rw [runWith_ofEquality_of_error (orient_of_not_straddles he h)]
  | left ht h =>
    rw [outcome_of_turned hp ht, Field.answered_eq_error_iff.mpr h]
    rfl
  | right ht hx h =>
    rw [outcome_of_turned hp ht, Field.answered_eq_ok_iff.mpr hx,
      Field.answered_eq_error_iff.mpr h]
    rfl
  | kind ht hx hy hk =>
    rw [outcome_of_turned hp ht, Field.answered_eq_ok_iff.mpr hx, Field.answered_eq_ok_iff.mpr hy]
    exact if_pos hk

/-- The checks are made in their order, and the first one that fails is reported. -/
theorem resolved_or_refused (p : Provider) (k : JoinKind) (e : BinaryExpr) (left joined : Alias) :
    (∃ j, Resolved p k e left joined j) ∨ ∃ err, Refused p k e left joined err := by
  by_cases he : ∃ m n, e.Equates m n
  case neg => exact .inr ⟨_, .shape fun m n h => he ⟨m, n, h⟩⟩
  obtain ⟨m, n, he⟩ := he
  by_cases hs : Straddles left joined m n
  case neg => exact .inr ⟨_, .orientation he hs⟩
  obtain ⟨a, b, ht⟩ := exists_turned he hs
  cases hx : Field.answered p m a with
  | error err => exact .inr ⟨err, .left ht (Field.answered_eq_error_iff.mp hx)⟩
  | ok x =>
    have hx := Field.answered_eq_ok_iff.mp hx
    cases hy : Field.answered p n b with
    | error err => exact .inr ⟨err, .right ht hx (Field.answered_eq_error_iff.mp hy)⟩
    | ok y =>
      have hy := Field.answered_eq_ok_iff.mp hy
      by_cases hk : k = .cross
      · exact .inr ⟨_, .kind ht hx hy hk⟩
      · exact .inl ⟨_, .mk ht hx hy hk⟩

theorem outcome_eq_ok_iff (hp : p.Steady) :
    ((ofEquality k e left joined).runWith p).1 = .ok j ↔ Resolved p k e left joined j := by
  refine ⟨fun h => ?_, fun h => h.outcome hp⟩
  rcases resolved_or_refused p k e left joined with ⟨j', hj⟩ | ⟨err, he⟩
  · rw [hj.outcome hp] at h
    exact Except.ok.inj h ▸ hj
  · rw [he.outcome hp] at h
    cases h

theorem outcome_eq_error_iff (hp : p.Steady) :
    ((ofEquality k e left joined).runWith p).1 = .error err ↔ Refused p k e left joined err := by
  refine ⟨fun h => ?_, fun h => h.outcome hp⟩
  rcases resolved_or_refused p k e left joined with ⟨j', hj⟩ | ⟨err', he⟩
  · rw [hj.outcome hp] at h
    cases h
  · rw [he.outcome hp] at h
    exact Except.error.inj h ▸ he

/-- **When there is a join.** -/
theorem exists_resolved_iff : (∃ j, Resolved p k e left joined j) ↔
    ∃ m n, e.Equates m n ∧ Straddles left joined m n ∧ p.Names m ∧ p.Names n ∧
      left.isBlank = false ∧ joined.isBlank = false ∧ k ≠ .cross := by
  constructor
  · rintro ⟨_, @⟨m, n, a, b, x, y, ht, hx, hy, hk⟩⟩
    refine ⟨m, n, ht.equates, ht.straddles, ⟨_, hx.answer_eq, hx.column⟩,
      ⟨_, hy.answer_eq, hy.column⟩, ?_⟩
    rcases ht.aliases with ⟨rfl, rfl⟩ | ⟨-, rfl, rfl⟩
    · exact ⟨hx.named, hy.named, hk⟩
    · exact ⟨hy.named, hx.named, hk⟩
  · rintro ⟨m, n, he, hs, ⟨c, hc, hcb⟩, ⟨d, hd, hdb⟩, hl, hj, hk⟩
    obtain ⟨a, b, ht⟩ := exists_turned he hs
    have hab : a.isBlank = false ∧ b.isBlank = false := by
      rcases ht.aliases with ⟨rfl, rfl⟩ | ⟨-, rfl, rfl⟩
      · exact ⟨hl, hj⟩
      · exact ⟨hj, hl⟩
    exact ⟨_, .mk (x := ⟨m.entity, m.valueType, c, a, none⟩)
      (y := ⟨n.entity, n.valueType, d, b, none⟩) ht ⟨hc, hcb, hab.1, rfl⟩ ⟨hd, hdb, hab.2, rfl⟩ hk⟩

/-- One side sits on the joined alias, and the other one on the left alias. -/
theorem Resolved.qualifiers (h : Resolved p k e left joined j) :
    ∃ x y, j.condition = some (.equality x y) ∧ j.joined = joined ∧
      (x.qualifier = left ∧ y.qualifier = joined ∨ x.qualifier = joined ∧ y.qualifier = left) := by
  obtain @⟨m, n, a, b, x, y, ht, hx, hy, hk⟩ := h
  have hxa : x.qualifier = a := by rw [hx.eq]
  have hyb : y.qualifier = b := by rw [hy.eq]
  refine ⟨x, y, rfl, rfl, ?_⟩
  rcases ht.aliases with ⟨rfl, rfl⟩ | ⟨-, rfl, rfl⟩
  · exact .inl ⟨hxa, hyb⟩
  · exact .inr ⟨hxa, hyb⟩

theorem Resolved.references (h : Resolved p k e left joined j) {c : Predicate}
    (hc : j.condition = some c) : ∃ f ∈ c.fields, f.qualifier = j.joined := by
  obtain ⟨x, y, hxy, hj, hq⟩ := h.qualifiers
  obtain rfl := Option.some.inj (hxy.symm.trans hc)
  rcases hq with ⟨-, hy⟩ | ⟨hx, -⟩
  · exact ⟨y, by simp [Predicate.fields_equality], hy.trans hj.symm⟩
  · exact ⟨x, by simp [Predicate.fields_equality], hx.trans hj.symm⟩

/-- A statement that has both aliases finds no fault with the join. -/
theorem Resolved.joinFaults_eq_nil (h : Resolved p k e left joined j) {s : Statement}
    (hs : s.Reachable) (hl : s.Declares left) (hj : s.Declares joined) : s.joinFaults j = [] := by
  obtain ⟨x, y, hc, -, hq⟩ := h.qualifiers
  obtain ⟨f, hf, hfj⟩ := h.references hc
  have href : (Predicate.equality x y).references j.joined = true := by
    simpa [Predicate.references] using ⟨f, hf, hfj⟩
  have hfield : ∀ f ∈ [x, y], s.fieldFault? .joinCondition f = none := by
    intro f hf
    have hd : s.Declares f.qualifier := by
      rcases hq with ⟨hx, hy⟩ | ⟨hx, hy⟩ <;> rcases List.mem_pair.mp hf with rfl | rfl <;> simp_all
    rw [Statement.fieldFault?, if_pos (hs.contains_iff.mpr hd)]
  have hfaults : s.fieldFaults .joinCondition (Predicate.equality x y).fields = [] :=
    List.filterMap_eq_nil_iff.mpr hfield
  rw [Statement.joinFaults, hc]
  simp only [hfaults, href, if_true, List.append_nil]

end Join

/-- The alias is asked for before any member. -/
theorem Statement.runWith_call_of_ensureFree {s : Statement} {joined : Alias} {err : SelectError}
    (h : s.ensureFree joined = .error err) (k : JoinKind) (e : BinaryExpr) (left : Alias)
    (p : Provider) : (s.call (.joinEqual k e left joined)).runWith p = (.error err, p) := by
  simp only [call, Resolving.runWith_bind, Resolving.runWith_lift, h]

open Join in
/-- **Joins from equalities are exact.** With a provider that answers each member in one way, an
equality of members makes the join that its operands say, or fails with the first error in the order
of the checks. No member is resolved if the expression does not relate the two aliases, or if the
alias of the join cannot be had. A join that is made uses the alias it joins, so the scope of a
statement that has both aliases is not at fault for it. -/
theorem equality_joins_exact {p : Provider} (hp : p.Steady) (k : JoinKind) (e : BinaryExpr)
    (left joined : Alias) :
    ((∃ j, ((ofEquality k e left joined).runWith p).1 = .ok j) ↔
      ∃ m n, e.Equates m n ∧ Straddles left joined m n ∧ p.Names m ∧ p.Names n ∧
        left.isBlank = false ∧ joined.isBlank = false ∧ k ≠ .cross) ∧
    (∀ j, ((ofEquality k e left joined).runWith p).1 = .ok j ↔ Resolved p k e left joined j) ∧
    (∀ err, ((ofEquality k e left joined).runWith p).1 = .error err ↔
      Refused p k e left joined err) ∧
    ((∀ m n, e.Equates m n → ¬ Straddles left joined m n) →
      ((ofEquality k e left joined).runWith p).2 = p) ∧
    (∀ s : Statement, s.Reachable → ∀ err, s.verdict joined = .error err →
      (s.call (.joinEqual k e left joined)).runWith p = (.error err, p)) ∧
    ∀ j, Resolved p k e left joined j → ∀ s : Statement,
      (∀ c, ¬ s.FirstFailure (.joined j c)) ∧
      (s.Reachable → s.Declares left → s.Declares joined → s.joinFaults j = []) := by
  refine ⟨?_, fun j => outcome_eq_ok_iff hp, fun err => outcome_eq_error_iff hp, fun h => ?_,
    fun s hs err h => ?_, fun j hj s => ⟨fun c hf => ?_, fun hs => hj.joinFaults_eq_nil hs⟩⟩
  · simp only [outcome_eq_ok_iff hp, exists_resolved_iff]
  · by_cases he : ∃ m n, e.Equates m n
    · obtain ⟨m, n, he⟩ := he
      rw [runWith_ofEquality_of_error (orient_of_not_straddles he (h m n he))]
    · rw [runWith_ofEquality_of_error (orient_of_not_equates fun m n he' => he ⟨m, n, he'⟩)]
  · exact Statement.runWith_call_of_ensureFree ((hs.registered.ensureFree_eq joined).trans h) k e
      left p
  · obtain ⟨before, after, hchecks, -, hfails⟩ := hf
    have hmem : Check.joined j c ∈ s.checks := by simp [hchecks]
    exact hfails (hj.references (Statement.mem_checks_joined.mp hmem).2)

def Alias.person : Alias := ⟨.person, "pe"⟩

def Alias.passport : Alias := ⟨.passport, "pa"⟩

/-- The owner of a passport is a person. -/
def BinaryExpr.owners : BinaryExpr := Member.owner.compare .eq .personId

/-- The operands are turned, since the member of the joined passports comes first. A cross join
fails last, and a taken alias at once. -/
theorem equality_joins_exact_owners :
    Provider.declared.Steady ∧
    (∃ j, ((Join.ofEquality .inner .owners .person .passport).runWith .declared).1 = .ok j ∧
      j.condition = some (.equality ⟨.passport, .int, "PersonId", .passport, none⟩
        ⟨.person, .int, "Id", .person, none⟩) ∧
      ((Statement.ofRoot .person).run [.join (.crossing .passport)]).joinFaults j = []) ∧
    ((Join.ofEquality .cross .owners .person .passport).runWith .declared).1 =
      .error (.join "CROSS JOIN takes no condition" "pa") ∧
    ((Join.ofEquality .inner .owners .passport .passport).runWith .declared).2 = .declared ∧
    ((Statement.ofRoot .person).call (.joinEqual .inner .owners .person
      ⟨.passport, "pe"⟩)).runWith .declared = (.error (.duplicateAlias "pe"), .declared) := by
  have hp : Provider.declared.Steady := Provider.answers_declared.steady
  have ht : Join.Turned .owners .person .passport Member.owner.ref .passport Member.personId.ref
      .person := ⟨⟨rfl, rfl, rfl⟩, rfl, rfl, .inr ⟨by decide, rfl, rfl⟩⟩
  have hx : Field.Answered .declared Member.owner.ref .passport
      ⟨.passport, .int, "PersonId", .passport, none⟩ := ⟨rfl, rfl, rfl, rfl⟩
  have hy : Field.Answered .declared Member.personId.ref .person
      ⟨.person, .int, "Id", .person, none⟩ := ⟨rfl, rfl, rfl, rfl⟩
  have hj := Join.Resolved.mk (k := .inner) ht hx hy nofun
  obtain ⟨-, hok, -, -, -, hscope⟩ := equality_joins_exact hp .inner .owners .person .passport
  have hs := (Statement.Reachable.ofRoot .person).run [.join (.crossing .passport)]
  have hd : ((Statement.ofRoot .person).run [.join (.crossing .passport)]).Declares .passport :=
    .inr ⟨.crossing .passport, List.mem_singleton_self _, rfl⟩
  refine ⟨hp, ⟨_, (hok _).mpr hj, rfl, (hscope _ hj _).2 hs (.inl rfl) hd⟩, ?_, ?_, ?_⟩
  · exact ((equality_joins_exact hp .cross .owners .person .passport).2.2.1 _).mpr
      (.kind ht hx hy rfl)
  · refine (equality_joins_exact hp .inner .owners .passport .passport).2.2.2.1 ?_
    rintro m n ⟨-, hm, hn⟩
    cases hm
    cases hn
    show ¬ (_ ∨ _)
    decide
  · exact (equality_joins_exact hp .inner .owners .person ⟨.passport, "pe"⟩).2.2.2.2.1 _
      (.ofRoot .person) _ rfl

end SelectQuery
