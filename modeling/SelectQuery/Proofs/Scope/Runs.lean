import SelectQuery.Proofs.Registry
import SelectQuery.Proofs.Scope.Entities
import SelectQuery.Proofs.StyleAgreement

/-!
# Runs in scope

A call is in scope if the fields and the aliases it is given belong to the statement it is made on,
or, in the condition of a join, to the alias that is joined.

* `Statement.WellScoped.apply`: operations in scope keep a statement well scoped, since an alias
  that is declared stays declared (`Statement.declares_iff_of_apply`);
* `Statement.Call.Makes.inScope`: calls in scope make operations in scope, to whichever aliases the
  operands of an equality go;
* `runs_in_scope_render`: what calls in scope lead to renders, unless a value cannot be written out.
-/

namespace SelectQuery

namespace Statement

/-! ## Operations in scope -/

instance (s : Statement) (a : Alias) : Decidable (s.Declares a) :=
  inferInstanceAs (Decidable (_ ∨ _))

/-- The predicate relates the alias to the statement: some field sits on the alias, and all others
on aliases of the statement. -/
def Relates (s : Statement) (joined : Alias) (p : Predicate) : Prop :=
  (∃ f ∈ p.fields, f.qualifier = joined) ∧
    ∀ f ∈ p.fields, f.qualifier = joined ∨ s.Declares f.qualifier

instance (s : Statement) (a : Alias) (p : Predicate) : Decidable (s.Relates a p) :=
  inferInstanceAs (Decidable (_ ∧ _))

def Op.InScope (s : Statement) : Op → Prop
  | .edit e => ∀ f ∈ e.mentioned, s.Declares f.qualifier
  | .join j => ∀ p, j.condition = some p → s.Relates j.joined p

section Apply

variable {s t : Statement} {op : Op}

theorem root_of_apply (h : s.apply op = .ok t) : t.root = s.root := by
  cases op with
  | edit e =>
    obtain rfl := Except.ok.inj h
    exact root_edit s e
  | join j =>
    obtain ⟨r, -, rfl⟩ := join_eq_ok_iff.mp h
    rfl

/-- An operation declares what was declared before, and the alias that it joins. -/
theorem declares_iff_of_apply (h : s.apply op = .ok t) {a : Alias} :
    t.Declares a ↔ s.Declares a ∨ ∃ j, op = .join j ∧ a = j.joined := by
  cases op with
  | edit e =>
    obtain rfl := Except.ok.inj h
    simp [Declares]
  | join j =>
    obtain ⟨r, -, rfl⟩ := join_eq_ok_iff.mp h
    simp [Declares, or_and_right, exists_or, or_assoc]

theorem Declares.apply {a : Alias} (ha : s.Declares a) (h : s.apply op = .ok t) : t.Declares a :=
  (declares_iff_of_apply h).mpr (Or.inl ha)

/-- The fields that an operation in scope brings sit on aliases that are declared afterwards. -/
theorem Op.InScope.declares (hop : op.InScope s) (h : s.apply op = .ok t) {f : Field}
    (hf : f ∈ op.mentioned) : t.Declares f.qualifier := by
  cases op with
  | edit e => exact (hop f hf).apply h
  | join j =>
    cases hc : j.condition with
    | none =>
      rw [Op.mentioned, hc] at hf
      cases hf
    | some p =>
      rw [Op.mentioned, hc] at hf
      rcases (hop p hc).2 f hf with hj | hd
      · exact (declares_iff_of_apply h).mpr (Or.inr ⟨j, rfl, hj⟩)
      · exact hd.apply h

/-- **An operation in scope keeps a statement well scoped.** -/
theorem WellScoped.apply (hs : s.WellScoped) (hop : op.InScope s) (h : s.apply op = .ok t) :
    t.WellScoped := by
  constructor
  case named =>
    rw [root_of_apply h]
    exact hs.named
  case declared =>
    intro f hf
    rcases (mem_mentioned_of_apply h).mp hf with hf | hf
    · exact (hs.declared f hf).apply h
    · exact hop.declares h hf
  case related =>
    intro j hj p hp
    rcases joins_of_apply h hj with hj | ⟨rfl, -⟩
    · exact hs.related j hj p hp
    · exact (hop p hp).1

end Apply

theorem wellScoped_ofRoot {root : Alias} (h : root.isBlank = false) : (ofRoot root).WellScoped :=
  ⟨h, nofun, nofun⟩

/-! ## Calls in scope -/

/-- What a call may be given. The members of the root need nothing, and neither does a cross join.
Of an equality just the left alias has to be there. -/
def Call.InScope (s : Statement) : Call → Prop
  | .edit e => ∀ f ∈ e.mentioned, s.Declares f.qualifier
  | .addMemberOf _ a => s.Declares a
  | .joinEqual _ _ left _ => s.Declares left
  | .joinOn _ p joined => s.Relates joined p
  | .addMember .. | .groupByMember .. | .orderByMember .. | .crossJoin _ => True

instance (s : Statement) : (c : Call) → Decidable (c.InScope s)
  | .edit e => inferInstanceAs (Decidable (∀ f ∈ e.mentioned, s.Declares f.qualifier))
  | .addMemberOf _ a => inferInstanceAs (Decidable (s.Declares a))
  | .joinEqual _ _ left _ => inferInstanceAs (Decidable (s.Declares left))
  | .joinOn _ p joined => inferInstanceAs (Decidable (s.Relates joined p))
  | .addMember .. | .groupByMember .. | .orderByMember .. | .crossJoin _ => isTrue trivial

/-- Either way of turning the operands, one goes to the left alias and one to the joined alias. -/
theorem relates_of_ofEquality {s : Statement} {k : JoinKind} {e : BinaryExpr} {left joined : Alias}
    {p q : Provider} {j : Join} (hl : s.Declares left)
    (h : (Join.ofEquality k e left joined).runWith p = (.ok j, q)) :
    ∀ c, j.condition = some c → s.Relates j.joined c := by
  obtain ⟨m, n, a, b, f, g, _, _, ho, hf, hg, hj⟩ := Join.exists_of_ofEquality h
  obtain ⟨hab, -, -⟩ := Join.orient_cases ho
  obtain ⟨-, rfl⟩ := Join.withCondition_eq_ok_iff.mp hj
  have hfa : f.qualifier = a := (Field.entity_qualifier_of_ofMember hf).2
  have hgb : g.qualifier = b := (Field.entity_qualifier_of_ofMember hg).2
  intro c hc
  obtain rfl := Option.some.inj hc
  rw [Relates, Predicate.fields_equality]
  simp only [List.mem_cons, List.not_mem_nil, or_false, exists_eq_or_imp, exists_eq_left,
    forall_eq_or_imp, forall_eq, hfa, hgb]
  rcases hab with ⟨rfl, rfl⟩ | ⟨rfl, rfl⟩
  · exact ⟨Or.inr rfl, Or.inr hl, Or.inl rfl⟩
  · exact ⟨Or.inl rfl, Or.inl rfl, Or.inr hl⟩

theorem Call.Makes.inScope {s : Statement} {c : Call} {op : Op} (hm : c.Makes s op)
    (hc : c.InScope s) : op.InScope s := by
  have hmember : ∀ {m a f p q}, (Field.ofMember m a).runWith p = (.ok f, q) → s.Declares a →
      s.Declares f.qualifier := by
    intro m a f p q hf ha
    rwa [(Field.entity_qualifier_of_ofMember hf).2]
  cases hm with
  | edit e => exact hc
  | addMember hf | groupByMember hf | orderByMember hf =>
    intro g hg
    obtain rfl := List.mem_singleton.mp hg
    exact hmember hf (Or.inl rfl)
  | addMemberOf hf =>
    intro g hg
    obtain rfl := List.mem_singleton.mp hg
    exact hmember hf hc
  | joinEqual hj => exact relates_of_ofEquality hc hj
  | joinOn hj =>
    obtain ⟨-, rfl⟩ := Join.withCondition_eq_ok_iff.mp hj
    intro p hp
    obtain rfl := Option.some.inj hp
    exact hc
  | crossJoin joined => exact nofun

/-! ## Runs in scope -/

/-- A statement that calls in scope lead to, whatever providers they have at hand. -/
inductive Obtained (root : Alias) : Statement → Prop
  | ofRoot : Obtained root (ofRoot root)
  | call {s t : Statement} {c : Call} {p q : Provider} (hs : Obtained root s) (hc : c.InScope s)
      (h : (s.call c).runWith p = (.ok t, q)) : Obtained root t

/-- Each call of a run is in scope of the statement that the calls before it lead to. -/
def RunInScope : Statement → Provider → List Call → Prop
  | _, _, [] => True
  | s, p, c :: cs => c.InScope s ∧ RunInScope (s.runCalls p [c]).1 (s.runCalls p [c]).2 cs

instance decidableRunInScope :
    (s : Statement) → (p : Provider) → (cs : List Call) → Decidable (s.RunInScope p cs)
  | _, _, [] => isTrue trivial
  | s, p, c :: cs =>
    have := decidableRunInScope (s.runCalls p [c]).1 (s.runCalls p [c]).2 cs
    inferInstanceAs (Decidable (c.InScope s ∧ _))

theorem runCalls_cons (s : Statement) (p : Provider) (c : Call) (cs : List Call) :
    s.runCalls p (c :: cs) = (s.runCalls p [c]).1.runCalls (s.runCalls p [c]).2 cs := by
  cases h : (s.call c).runWith p with
  | mk r q => cases r <;> simp only [runCalls, h]

namespace Obtained

variable {root : Alias} {s : Statement}

theorem reachable (hs : Obtained root s) : s.Reachable := by
  induction hs with
  | ofRoot => exact .ofRoot root
  | call _ _ h ih => exact ih.call h

theorem wellScoped (hroot : root.isBlank = false) (hs : Obtained root s) : s.WellScoped := by
  induction hs with
  | ofRoot => exact wellScoped_ofRoot hroot
  | call _ hc h ih =>
    obtain ⟨op, hm, hop⟩ := exists_op_of_call h
    exact ih.apply (hm.inScope hc) hop

/-- A call that fails leaves the statement in use. -/
theorem runCall (hs : Obtained root s) {c : Call} (hc : c.InScope s) (p : Provider) :
    Obtained root (s.runCalls p [c]).1 := by
  unfold runCalls
  split
  · next t q h => exact hs.call hc h
  · exact hs

theorem runCalls (hs : Obtained root s) {p : Provider} {before cs : List Call}
    (h : s.RunInScope p cs) (hb : before <+: cs) : Obtained root (s.runCalls p before).1 := by
  obtain ⟨rest, rfl⟩ := hb
  induction before generalizing s p with
  | nil => exact hs
  | cons c before ih =>
    obtain ⟨hc, h⟩ := h
    rw [runCalls_cons]
    exact ih (hs.runCall hc p) h

end Obtained

/-! ## Rendering -/

/-- Rendering fails only for floats that would have to be written out. -/
structure Renders (s : Statement) : Prop where
  bound : ∀ l, l.paramStyle ≠ .inline → ∃ r, s.render l = .ok r
  error : ∀ l e, s.render l = .error e → l.paramStyle = .inline ∧
    ∃ t ∈ s.terms, ∃ n ∈ Template.slots t.parts, ∃ x : Binary64,
      t.arguments[n]? = some (.literal (.float x)) ∧ x.isFinite = false ∧
        e = .invalidFilter t.template ("value " ++ x.display ++ " has no SQL literal form")

end Statement

/-- What cannot be written out is a float that the term refers to. -/
theorem Term.exists_float_of_mem_unwritables {t : Term} {v : Value} (h : v ∈ t.unwritables) :
    ∃ n ∈ Template.slots t.parts, ∃ x : Binary64,
      t.arguments[n]? = some (.literal (.float x)) ∧ x.isFinite = false ∧ v = .float x := by
  obtain ⟨hv, hn⟩ := List.mem_filter.mp h
  rw [← t.map_value_literals 0] at hv
  obtain ⟨o, ho, rfl⟩ := List.mem_map.mp hv
  obtain ⟨-, -, hslot, harg⟩ := (t.mem_literals_iff 0 o).mp ho
  obtain ⟨x, hx, hfinite⟩ := Value.literal?_eq_none_iff.mp (Option.isNone_iff_eq_none.mp hn)
  rw [hx] at harg
  exact ⟨_, hslot, x, harg, hfinite, hx⟩

theorem Statement.WellScoped.renders {s : Statement} (hs : s.Reachable) (hw : s.WellScoped) :
    s.Renders := by
  have hv : s.validate = .ok () := hs.validate_eq_ok_iff.mpr hw
  constructor
  case bound => exact fun l hl => (exists_render_iff hl).mpr hv
  case error =>
    intro l e he
    have hl : l.paramStyle = .inline := by
      by_contra hl
      obtain ⟨r, hr⟩ := (exists_render_iff hl).mpr hv
      rw [hr] at he
      cases he
    rw [render_eq, hl] at he
    have hstream : s.stream .inline = .error e := by
      cases h : s.stream .inline with
      | error e' =>
        rw [h] at he
        cases he
        rfl
      | ok f =>
        rw [h] at he
        cases he
    obtain ⟨t, v, ht, hhead, rfl⟩ := ((s.agreesWith_shared hv).inline_error_iff e).mp hstream
    obtain ⟨n, hn, x, harg, hx, rfl⟩ :=
      Term.exists_float_of_mem_unwritables (List.mem_of_head? hhead)
    exact ⟨hl, t, List.mem_of_find?_eq_some ht, n, hn, x, harg, hx, rfl⟩

open Statement in
/-- **Runs in scope render.** From a root with a name, every statement that calls in scope lead to
renders if values are bound. If they are written out, a float without a literal form is all that can
fail. That goes for each statement along a run, and some of its calls may fail. -/
theorem runs_in_scope_render {root : Alias} (hroot : root.isBlank = false) :
    (∀ s, Obtained root s → s.Renders) ∧
    ∀ p cs, (ofRoot root).RunInScope p cs →
      ∀ before, before <+: cs → ((ofRoot root).runCalls p before).1.Renders := by
  have hrenders : ∀ s, Obtained root s → s.Renders := fun s hs =>
    WellScoped.renders hs.reachable (hs.wellScoped hroot)
  refine ⟨hrenders, fun p cs h before hb => ?_⟩
  exact hrenders _ (Obtained.ofRoot.runCalls h hb)

/-- Columns have the names of the members. -/
def Provider.byName : Provider := { resolver := fun _ m => .ok m.member }

/-- A second join on the passports fails, and the condition compares with NaN. -/
def Statement.strictCalls : List Statement.Call :=
  ownerCalls ++ [.crossJoin .passports,
    .edit (.filter (.idBelow .passports (.float ⟨0x7ff8000000000000⟩)))]

/-- People with their passports, under a condition that none of them fulfils. -/
def Statement.strict : Statement := ((ofRoot .people).runCalls .byName strictCalls).1

/-- NaN can be bound, but it cannot be written out. -/
theorem runs_in_scope_render_strict :
    Alias.people.isBlank = false ∧
    (Statement.ofRoot .people).RunInScope .byName Statement.strictCalls ∧
    (∃ r, Statement.strict.render {} = .ok r) ∧
    Statement.strict.render { paramStyle := .inline } =
      .error (.invalidFilter "\x7b0\x7d < \x7b1\x7d" "value NaN has no SQL literal form") := by
  have hroot : Alias.people.isBlank = false := by decide
  have hrun : (Statement.ofRoot .people).RunInScope .byName Statement.strictCalls := by
    decide +kernel
  have hs : Statement.strict.Renders :=
    (runs_in_scope_render hroot).2 _ _ hrun _ List.prefix_rfl
  exact ⟨hroot, hrun, hs.bound {} (by decide), by rfl⟩

end SelectQuery
