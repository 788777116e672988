import SelectQuery.Proofs.Scope.Runs

/-!
# What equality joins relate

An equality join is given the alias it joins and a left alias. The left alias is not looked up when
the join is made; only the aliases of the final statement matter, in whatever order they came in.

* `Join.Equates`, `Join.Anchored`: the aliases that the condition of a join relates;
* `Statement.Leads`, `Statement.Leads.exists_sublist_runCalls`: the calls that lead from a root to a
  statement, and those of a run that do;
* `Statement.MadeAt`, `Statement.Leads.exists_madeAt`: the call that made a join;
* `Statement.RelatesLeft`: a join is related to the left alias of its call, which the final
  statement declares; the alias came in before the join just if the statement had it by then;
* `equality_joins_relate_left_alias`: so it is for all calls and runs that render;
* `ahead_renders`: a left alias that comes in after the join.
-/

namespace SelectQuery

namespace Join

variable {j : Join} {a b c : Alias}

/-- The condition equates a field on one alias with a field on the other, in either order. -/
def Equates (j : Join) (a b : Alias) : Prop :=
  ∃ x y, j.condition = some (.equality x y) ∧
    (x.qualifier = a ∧ y.qualifier = b ∨ x.qualifier = b ∧ y.qualifier = a)

/-- The condition relates the joined alias to one of some aliases. -/
def Anchored (j : Join) (as : List Alias) : Prop := ∃ a ∈ as, j.Equates a j.joined

/-- The aliases that the fields of the condition sit on. -/
def related (j : Join) : List Alias := (Statement.fieldsOf j.condition).map Field.qualifier

theorem Equates.related_eq (h : j.Equates a b) : j.related = [a, b] ∨ j.related = [b, a] := by
  unfold related
  obtain ⟨x, y, hc, ⟨rfl, rfl⟩ | ⟨rfl, rfl⟩⟩ := h
  · rw [hc]
    exact Or.inl rfl
  · rw [hc]
    exact Or.inr rfl

/-- There is one alias that the joined one is related to. -/
theorem Equates.left_inj (ha : j.Equates a c) (hb : j.Equates b c) : a = b := by
  have ha := ha.related_eq
  have hb := hb.related_eq
  grind

theorem Equates.condition_ne_none (h : j.Equates a b) : j.condition ≠ none := by
  obtain ⟨x, y, hc, -⟩ := h
  rw [hc]
  nofun

theorem Anchored.iff_of_equates (h : j.Equates a j.joined) {as : List Alias} :
    j.Anchored as ↔ a ∈ as := by
  constructor
  · rintro ⟨b, hb, hj⟩
    rwa [h.left_inj hj]
  · exact fun ha => ⟨a, ha, h⟩

/-- A join from an equality relates the left alias and the joined one. -/
theorem equates_of_ofEquality {k : JoinKind} {e : BinaryExpr} {left joined : Alias}
    {p q : Provider} (h : (ofEquality k e left joined).runWith p = (.ok j, q)) :
    j.joined = joined ∧ j.Equates left joined := by
  obtain ⟨m, n, a, b, f, g, _, _, ho, hf, hg, hj⟩ := exists_of_ofEquality h
  obtain ⟨hab, -, -⟩ := orient_cases ho
  obtain ⟨-, rfl⟩ := withCondition_eq_ok_iff.mp hj
  obtain rfl : f.qualifier = a := (Field.entity_qualifier_of_ofMember hf).2
  obtain rfl : g.qualifier = b := (Field.entity_qualifier_of_ofMember hg).2
  exact ⟨rfl, f, g, rfl, hab⟩

end Join

namespace Statement

/-! ## Calls that lead to a statement -/

/-- The calls lead from the root to the statement, each with a provider of its own. Calls that fail
make no statement and are left out. -/
inductive Leads (root : Alias) : List Call → Statement → Prop
  | nil : Leads root [] (ofRoot root)
  | concat {cs : List Call} {s t : Statement} {c : Call} {p q : Provider} (hs : Leads root cs s)
      (h : (s.call c).runWith p = (.ok t, q)) : Leads root (cs ++ [c]) t

namespace Leads

variable {root : Alias} {cs : List Call} {s : Statement}

theorem reachable (hs : Leads root cs s) : s.Reachable := by
  induction hs with
  | nil => exact .ofRoot root
  | concat _ h ih => exact ih.call h

theorem root_eq (hs : Leads root cs s) : s.root = root := by
  induction hs with
  | nil => rfl
  | concat _ h ih =>
    obtain ⟨op, -, hop⟩ := exists_op_of_call h
    rw [root_of_apply hop, ih]

/-- What a run leads to, those of its calls lead to that succeed. -/
theorem exists_sublist_runCalls (hs : Leads root cs s) (p : Provider) (ds : List Call) :
    ∃ es, es.Sublist ds ∧ Leads root (cs ++ es) (s.runCalls p ds).1 := by
  induction ds generalizing cs s p with
  | nil => exact ⟨[], List.Sublist.refl _, by rwa [List.append_nil]⟩
  | cons d ds ih =>
    rw [Statement.runCalls]
    split
    · next t q h =>
      obtain ⟨es, he, hl⟩ := ih (hs.concat h) q
      exact ⟨d :: es, he.cons_cons d, by rwa [List.append_assoc, List.singleton_append] at hl⟩
    · next e q h =>
      obtain ⟨es, he, hl⟩ := ih hs q
      exact ⟨es, he.cons d, hl⟩

end Leads

/-! ## The call that made a join -/

/-- A call adds a join at the end, if it adds one. -/
theorem joins_of_call {s t : Statement} {c : Call} {p q : Provider}
    (h : (s.call c).runWith p = (.ok t, q)) {before after : List Join} {j : Join}
    (ht : t.joins = before ++ j :: after) :
    (∃ rest, s.joins = before ++ j :: rest) ∨ s.joins = before ∧ c.Makes s (.join j) := by
  obtain ⟨op, hm, hop⟩ := exists_op_of_call h
  cases op with
  | edit e =>
    obtain rfl := Except.ok.inj hop
    exact Or.inl ⟨after, by rw [← ht, joins_edit]⟩
  | join i =>
    obtain ⟨r, -, rfl⟩ := join_eq_ok_iff.mp hop
    rcases List.eq_nil_or_concat after with rfl | ⟨rest, i', rfl⟩
    · obtain ⟨hb, hi⟩ := List.append_inj' ht rfl
      obtain rfl := List.singleton_inj.mp hi
      exact Or.inr ⟨hb, hm⟩
    · rw [List.concat_eq_append, ← List.cons_append, ← List.append_assoc] at ht
      exact Or.inl ⟨rest, (List.append_inj' ht rfl).1⟩

/-- One of the calls, on the statement `t`, is an equality that makes the join. It is given the
left alias. -/
def MadeAt (root : Alias) (cs : List Call) (t : Statement) (left : Alias) (j : Join) : Prop :=
  ∃ before after k e, cs = before ++ .joinEqual k e left j.joined :: after ∧
    Leads root before t ∧ (Call.joinEqual k e left j.joined).Makes t (.join j)

theorem MadeAt.concat {root : Alias} {cs : List Call} {t : Statement} {left : Alias} {j : Join}
    (h : MadeAt root cs t left j) (c : Call) : MadeAt root (cs ++ [c]) t left j := by
  obtain ⟨before, after, k, e, rfl, hj⟩ := h
  exact ⟨before, after ++ [c], k, e, by rw [List.append_assoc, List.cons_append], hj⟩

theorem MadeAt.equates {root : Alias} {cs : List Call} {t : Statement} {left : Alias} {j : Join}
    (h : MadeAt root cs t left j) : j.Equates left j.joined := by
  obtain ⟨_, _, _, _, -, -, hm⟩ := h
  cases hm with
  | joinEqual ho => exact (Join.equates_of_ofEquality ho).2

/-- A join with a condition, if conditions are not given ready made, was made by an equality on the
statement that had just the joins before it. -/
theorem Leads.exists_madeAt {root : Alias} {cs : List Call} {s : Statement}
    (hs : Leads root cs s) (hcs : ∀ k c a, Call.joinOn k c a ∉ cs) {before after : List Join}
    {j : Join} (hj : s.joins = before ++ j :: after) (hc : j.condition ≠ none) :
    ∃ left t, MadeAt root cs t left j ∧ t.joins = before := by
  induction hs generalizing after with
  | nil =>
    rw [ofRoot] at hj
    cases List.nil_eq_append_iff.mp hj |>.2
  | @concat cs s t c p q hs h ih =>
    rcases joins_of_call h hj with ⟨rest, hr⟩ | ⟨hb, hm⟩
    · have hearlier : ∀ k c a, Call.joinOn k c a ∉ cs := fun k c a hm =>
        hcs k c a (List.mem_append_left _ hm)
      obtain ⟨left, t, ht, hjoins⟩ := ih hearlier hr
      exact ⟨left, t, ht.concat c, hjoins⟩
    · cases hm with
      | joinEqual ho =>
        obtain ⟨rfl, -⟩ := Join.equates_of_ofEquality ho
        exact ⟨_, s, ⟨cs, [], _, _, rfl, hs, .joinEqual ho⟩, hb⟩
      | joinOn => exact absurd (List.mem_append_right _ (List.mem_singleton_self _)) (hcs _ _ _)
      | crossJoin => exact absurd rfl hc

/-- The final statement declares both aliases that a condition relates. -/
theorem WellScoped.declares_of_equates {s : Statement} (hs : s.WellScoped) {j : Join}
    (hj : j ∈ s.joins) {a b : Alias} (h : j.Equates a b) : s.Declares a ∧ s.Declares b := by
  obtain ⟨x, y, hc, hxy⟩ := h
  have hm : ∀ f ∈ [x, y], s.Declares f.qualifier := by
    intro f hf
    apply hs.declared
    have hf : f ∈ fieldsOf j.condition := by rwa [hc]
    simp only [mentioned, List.mem_append, List.mem_flatMap]
    exact Or.inr (Or.inl ⟨j, hj, hf⟩)
  have hx := hm x (List.mem_cons_self ..)
  have hy := hm y (List.mem_cons_of_mem _ (List.mem_singleton_self _))
  rcases hxy with ⟨rfl, rfl⟩ | ⟨rfl, rfl⟩
  · exact ⟨hx, hy⟩
  · exact ⟨hy, hx⟩

/-- Each join with a condition was made by one of the calls, on the statement with the joins before
it. The condition has one operand on the joined alias and the other one on the left alias of that
call, which the final statement declares. The left alias came in before the join just if the
statement declared it when the join was made. -/
def RelatesLeft (root : Alias) (cs : List Call) (s : Statement) : Prop :=
  ∀ before j after, s.joins = before ++ j :: after → j.condition ≠ none →
    ∃ left t, MadeAt root cs t left j ∧ t.joins = before ∧ j.Equates left j.joined ∧
      s.Declares left ∧ (j.Anchored (root :: before.map Join.joined) ↔ t.Declares left)

theorem Leads.relatesLeft {root : Alias} {cs : List Call} {s : Statement} (hs : Leads root cs s)
    (hcs : ∀ k c a, Call.joinOn k c a ∉ cs) {l : Layout} {r : Rendered}
    (hr : s.render l = .ok r) : RelatesLeft root cs s := by
  intro before j after hj hc
  obtain ⟨left, t, ht, hb⟩ := hs.exists_madeAt hcs hj hc
  have he : j.Equates left j.joined := ht.equates
  have hw : s.WellScoped := hs.reachable.validate_eq_ok_iff.mp (render_eq_ok_iff.mp hr).1
  have hm : j ∈ s.joins := by
    rw [hj]
    exact List.mem_append_right _ (List.mem_cons_self ..)
  refine ⟨left, t, ht, hb, he, (hw.declares_of_equates hm he).1, ?_⟩
  obtain ⟨_, _, _, _, -, hlead, -⟩ := ht
  rw [Join.Anchored.iff_of_equates he, declares_iff_mem, hlead.root_eq, hb]

/-- Each equality join relates its alias to the root or to a join before it. -/
def Anchored (s : Statement) : Prop :=
  ∀ before j after, s.joins = before ++ j :: after → j.condition ≠ none →
    j.Anchored (s.root :: before.map Join.joined)

end Statement

open Statement in
/-- **What an equality join relates.** If no condition is given ready made and the final statement
renders, every join with a condition relates its alias to the left alias of the call that made it.
That goes for the calls that lead to a statement, each with a provider of its own, and for a run of
the builder, where those calls lead to the final statement that succeed. -/
theorem equality_joins_relate_left_alias (root : Alias) :
    (∀ cs s l r, Leads root cs s → (∀ k c a, Call.joinOn k c a ∉ cs) → s.render l = .ok r →
      RelatesLeft root cs s) ∧
    ∀ p cs l r, (∀ k c a, Call.joinOn k c a ∉ cs) →
      ((ofRoot root).runCalls p cs).1.render l = .ok r →
        ∃ ds, ds.Sublist cs ∧ Leads root ds ((ofRoot root).runCalls p cs).1 ∧
          RelatesLeft root ds ((ofRoot root).runCalls p cs).1 := by
  refine ⟨fun cs s l r hs hcs hr => hs.relatesLeft hcs hr, ?_⟩
  intro p cs l r hcs hr
  obtain ⟨ds, hd, hs⟩ := Leads.nil.exists_sublist_runCalls p cs
  exact ⟨ds, hd, hs, hs.relatesLeft (fun k c a hm => hcs k c a (hd.subset hm)) hr⟩

open Statement in
/-- The passports are joined to the people, which the statement has. -/
theorem equality_joins_relate_left_alias_owners :
    (∀ k c a, Call.joinOn k c a ∉ ownerCalls) ∧ (∃ r, owners.render {} = .ok r) ∧
    ∃ j, owners.joins = [j] ∧ j.Anchored [.people] := by
  have hcs : ∀ k c a, Call.joinOn k c a ∉ ownerCalls := by simp [ownerCalls]
  obtain ⟨r, hr⟩ : ∃ r, owners.render {} = .ok r := ⟨_, rfl⟩
  obtain ⟨j, hj, he⟩ : ∃ j, owners.joins = [j] ∧ j.Equates .people j.joined :=
    ⟨_, rfl, _, _, rfl, Or.inr ⟨rfl, rfl⟩⟩
  have hsplit : owners.joins = [] ++ j :: [] := hj
  obtain ⟨ds, -, -, hrel⟩ := (equality_joins_relate_left_alias .people).2 _ _ _ _ hcs hr
  obtain ⟨left, t, ⟨_, _, _, _, -, ht, -⟩, -, hleft, -, ha⟩ :=
    hrel _ _ _ hsplit he.condition_ne_none
  have hd : t.Declares left := Or.inl ((hleft.left_inj he).trans ht.root_eq.symm)
  exact ⟨hcs, ⟨r, hr⟩, j, hj, ha.mpr hd⟩

/-- The people under an alias that is not their own. -/
def Alias.others : Alias := ⟨Alias.people.entity, "x"⟩

/-- Joins the passports to the people before these are joined. -/
def Statement.aheadCalls : List Statement.Call :=
  [.joinEqual .inner ⟨.eq, .member ⟨Alias.passports.entity, "owner", .int⟩,
      .member ⟨Alias.people.entity, "id", .int⟩⟩ .people .passports,
    .crossJoin .people]

def Statement.ahead : Statement := ((ofRoot .others).runCalls .byName aheadCalls).1

open Statement in
/-- **A left alias need not come in before the join.** The condition uses an alias that is joined
after it, and the statement renders. -/
theorem ahead_renders :
    Leads .others aheadCalls ahead ∧ (∀ k c a, Call.joinOn k c a ∉ aheadCalls) ∧
    ahead.render {} = .ok ⟨"SELECT\n    *\nFROM\n    Person x\n" ++
      "INNER JOIN\n    Passport pa ON pa.owner = pe.id\nCROSS JOIN\n    Person pe", []⟩ ∧
    ¬ ahead.Anchored := by
  have hs : Leads .others aheadCalls ahead := by
    have h : Leads .others (aheadCalls.take 1) _ := Leads.nil.concat (p := .byName) rfl
    exact h.concat (p := .byName) rfl
  refine ⟨hs, by simp [aheadCalls], by rfl, fun h => ?_⟩
  obtain ⟨j, i, hj, he⟩ : ∃ j i, ahead.joins = [j, i] ∧ j.Equates .people j.joined :=
    ⟨_, _, rfl, _, _, rfl, Or.inr ⟨rfl, rfl⟩⟩
  have ha : Alias.people ∈ [ahead.root] :=
    (Join.Anchored.iff_of_equates he).mp (h [] j [i] hj he.condition_ne_none)
  exact absurd ha (by decide)

end SelectQuery
