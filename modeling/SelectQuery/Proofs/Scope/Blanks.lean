import SelectQuery.Proofs.Scope.Entities
import SelectQuery.Proofs.Scope.Qualifiers

/-!
# Blank names

A blank alias or column would leave a hole in the text. Fields refuse both when they are formed,
joins refuse a blank alias when it is registered, and a blank root is found by validation.

* `Field.Formed`, `Field.Formed.isVisible`: the ways to get a field, none of which gives a blank
  one;
* `Statement.Formed.runCalls`: calls that are given formed fields bring no others;
* `Statement.Reachable.isVisible_of_mem_joins`: joined aliases are not blank, in whatever state;
* `nothing_blank_is_written`: what stands in the tokens of a statement that renders.
-/

namespace SelectQuery

/-- Some character of a text is not white space. -/
def Text.IsVisible (s : String) : Prop := ∃ c ∈ s.toList, isWhiteSpace c = false

namespace Field

/-- The ways to get a field: by hand, from a member through some provider, inside an aggregate, and
as an operand of a join from an equality. -/
inductive Formed : Field → Prop
  | plain {e : Entity} {t : ValueType} {c : String} {a : Option Alias} {f : Field}
      (h : plain e t c a = .ok f) : Formed f
  | ofMember {m : MemberRef} {a : Alias} {p q : Provider} {f : Field}
      (h : (ofMember m a).runWith p = (.ok f, q)) : Formed f
  | aggregated {f : Field} (hf : Formed f) (g : Aggregate) : Formed (f.aggregated g)
  | operand {k : JoinKind} {e : BinaryExpr} {left joined : Alias} {p q : Provider} {j : Join}
      {f : Field} (h : (Join.ofEquality k e left joined).runWith p = (.ok j, q))
      (hf : f ∈ Statement.fieldsOf j.condition) : Formed f

/-- Neither the column nor the alias is blank. -/
structure IsVisible (f : Field) : Prop where
  column : Text.IsVisible f.column
  qualifier : Text.IsVisible f.qualifier.value

variable {f : Field}

theorem isVisible_of_plain {e : Entity} {t : ValueType} {c : String} {a : Option Alias}
    (h : plain e t c a = .ok f) : f.IsVisible := by
  obtain ⟨hc, b, -, hb, rfl⟩ := plain_eq_ok_iff.mp h
  exact ⟨Text.isBlank_eq_false_iff.mp hc, Text.isBlank_eq_false_iff.mp hb⟩

/-- Whatever text the resolver answers with. -/
theorem isVisible_of_ofMember {m : MemberRef} {a : Alias} {p q : Provider}
    (h : (ofMember m a).runWith p = (.ok f, q)) : f.IsVisible := by
  obtain ⟨c, h⟩ := exists_plain_of_ofMember h
  exact isVisible_of_plain h

/-- The operands of an equality are members. -/
theorem exists_ofMember_of_ofEquality {k : JoinKind} {e : BinaryExpr} {left joined : Alias}
    {p q : Provider} {j : Join} (h : (Join.ofEquality k e left joined).runWith p = (.ok j, q))
    (hf : f ∈ Statement.fieldsOf j.condition) :
    ∃ m a p' q', (ofMember m a).runWith p' = (.ok f, q') := by
  obtain ⟨m, n, a, b, x, y, r, r', -, hx, hy, hj⟩ := Join.exists_of_ofEquality h
  obtain ⟨-, rfl⟩ := Join.withCondition_eq_ok_iff.mp hj
  have hf : f ∈ (Predicate.equality x y).fields := hf
  rw [Predicate.fields_equality, List.mem_pair] at hf
  rcases hf with rfl | rfl
  · exact ⟨m, a, p, r, hx⟩
  · exact ⟨n, b, r, r', hy⟩

/-- **No way to get a field gives a blank one.** -/
theorem Formed.isVisible (h : f.Formed) : f.IsVisible := by
  induction h with
  | plain h => exact isVisible_of_plain h
  | ofMember h => exact isVisible_of_ofMember h
  | aggregated _ g ih => exact ⟨ih.column, ih.qualifier⟩
  | operand h hf =>
    obtain ⟨m, a, p, q, h⟩ := exists_ofMember_of_ofEquality h hf
    exact isVisible_of_ofMember h

end Field

namespace Statement

/-! ## Fields -/

/-- All fields of the statement are formed. -/
def Formed (s : Statement) : Prop := ∀ f ∈ s.mentioned, f.Formed

/-- The fields that a call is given. -/
def Call.given : Call → List Field
  | .edit e => e.mentioned
  | .joinOn _ condition _ => condition.fields
  | .addMember .. | .addMemberOf .. | .groupByMember .. | .orderByMember .. | .joinEqual ..
  | .crossJoin _ => []

/-- A call brings the fields that it is given, or else it forms those it brings. -/
theorem Call.Makes.formed {s : Statement} {c : Call} {op : Op} (hm : c.Makes s op)
    (hc : ∀ f ∈ c.given, f.Formed) : ∀ f ∈ op.mentioned, f.Formed := by
  cases hm with
  | edit e => exact hc
  | addMember hf | addMemberOf hf | groupByMember hf | orderByMember hf =>
    intro g hg
    obtain rfl := List.mem_singleton.mp hg
    exact .ofMember hf
  | joinEqual hj => exact fun f hf => .operand hj hf
  | joinOn hj =>
    obtain ⟨-, rfl⟩ := Join.withCondition_eq_ok_iff.mp hj
    exact hc
  | crossJoin joined => exact nofun

theorem Formed.call {s t : Statement} {c : Call} {p q : Provider} (hs : s.Formed)
    (hc : ∀ f ∈ c.given, f.Formed) (h : (s.call c).runWith p = (.ok t, q)) : t.Formed := by
  obtain ⟨op, hm, hop⟩ := exists_op_of_call h
  intro f hf
  rcases (mem_mentioned_of_apply hop).mp hf with hf | hf
  · exact hs f hf
  · exact hm.formed hc f hf

/-- **Calls that are given formed fields** keep the fields of a statement formed. -/
theorem Formed.runCalls {s : Statement} (hs : s.Formed) (p : Provider) {cs : List Call}
    (hc : ∀ c ∈ cs, ∀ f ∈ c.given, f.Formed) : (s.runCalls p cs).1.Formed :=
  runCalls_induction hs p fun c hm => fun hs h => hs.call (hc c hm) h

/-! ## Aliases -/

/-- **The joined aliases of a statement are not blank**, also if the root is. -/
theorem Reachable.isVisible_of_mem_joins {s : Statement} (hs : s.Reachable) :
    ∀ j ∈ s.joins, Text.IsVisible j.joined.value := by
  induction hs with
  | ofRoot root => exact nofun
  | @step s t op _ h ih =>
    cases op with
    | edit e =>
      obtain rfl := Except.ok.inj h
      rwa [joins_edit]
    | join j =>
      obtain ⟨r, hr, rfl⟩ := join_eq_ok_iff.mp h
      obtain ⟨hb, -, -⟩ := Registry.register_eq_ok_iff.mp hr
      intro i hi
      rcases List.mem_append.mp hi with hi | hi
      · exact ih i hi
      · obtain rfl := List.mem_singleton.mp hi
        exact Text.isBlank_eq_false_iff.mp hb

/-- Nor is the root of a statement that passes validation. -/
theorem WellScoped.isVisible_root {s : Statement} (hw : s.WellScoped) :
    Text.IsVisible s.root.value := Text.isBlank_eq_false_iff.mp hw.named

end Statement

/-- **Nothing blank is written.** However a field is got, its column and its alias are not blank,
and calls that are given such fields bring no others. Nor is a joined alias of a reachable statement
blank. So in the tokens of a statement that renders, each alias of a FROM or JOIN line and each
alias and column of a field has a character that is not white space. -/
theorem nothing_blank_is_written :
    (∀ f : Field, f.Formed → Text.IsVisible f.column ∧ Text.IsVisible f.qualifier.value) ∧
    (∀ (root : Alias) (p : Provider) (cs : List Statement.Call),
      (∀ c ∈ cs, ∀ f ∈ c.given, f.Formed) → ((Statement.ofRoot root).runCalls p cs).1.Formed) ∧
    ∀ s : Statement, s.Reachable → (∀ j ∈ s.joins, Text.IsVisible j.joined.value) ∧
      ∀ (l : Layout) (r : Rendered), s.Formed → s.render l = .ok r →
        ∃ f, s.fragment l.paramStyle = .ok f ∧ r.commandText = Token.textOf l f.tokens ∧
          (∀ a ∈ Token.declarations f.tokens, Text.IsVisible a) ∧
          ∀ x ∈ Token.references f.tokens,
            Text.IsVisible x.qualifier ∧ Text.IsVisible x.column := by
  refine ⟨fun f hf => ⟨hf.isVisible.column, hf.isVisible.qualifier⟩, fun root p cs hc => ?_,
    fun s hs => ⟨hs.isVisible_of_mem_joins, fun l r hf hr => ?_⟩⟩
  · have hroot : (Statement.ofRoot root).Formed := nofun
    exact hroot.runCalls p hc
  · obtain ⟨hv, f, hfragment, rfl⟩ := Statement.render_eq_ok_iff.mp hr
    have hw := hs.validate_eq_ok_iff.mp hv
    refine ⟨f, hfragment, rfl, ?_, ?_⟩
    -- only validation speaks for the root; joined aliases were checked when they were registered
    · rw [hs.declarations_eq hfragment, hs.registered.aliases_eq, List.map_cons, List.map_map,
        List.forall_mem_cons, List.forall_mem_map]
      exact ⟨hw.isVisible_root, hs.isVisible_of_mem_joins⟩
    · rw [Statement.references_eq hfragment, List.forall_mem_map]
      intro g hg
      exact ⟨(hf g hg).isVisible.qualifier, (hf g hg).isVisible.column⟩

/-- An aggregate over a column, and people with their passports. -/
theorem nothing_blank_is_written_owners :
    Text.IsVisible ((Field.id .people).aggregated .count).column ∧
    (∀ j ∈ Statement.owners.joins, Text.IsVisible j.joined.value) ∧
    ∃ f, Statement.owners.fragment .indexed = .ok f ∧
      Token.references f.tokens = [⟨none, "pe", "id"⟩, ⟨none, "pa", "owner"⟩, ⟨none, "pe", "id"⟩] ∧
      (∀ a ∈ Token.declarations f.tokens, Text.IsVisible a) ∧
      ∀ x ∈ Token.references f.tokens, Text.IsVisible x.qualifier ∧ Text.IsVisible x.column := by
  obtain ⟨hfield, hruns, hstatement⟩ := nothing_blank_is_written
  have hid : Field.plain Alias.people.entity .int "id" (some .people) = .ok (.id .people) := by
    decide
  have hs : Statement.owners.Reachable := (Statement.Reachable.ofRoot .people).runCalls _ _
  have hgiven : ∀ c ∈ Statement.ownerCalls, ∀ f ∈ c.given, f.Formed := by
    simp [Statement.ownerCalls, Statement.Call.given]
  have hf : Statement.owners.Formed := hruns .people _ _ hgiven
  obtain ⟨hjoins, hrender⟩ := hstatement _ hs
  obtain ⟨f, hfragment, -, ha, hx⟩ := hrender {} _ hf (by rfl)
  refine ⟨(hfield _ (.aggregated (.plain hid) .count)).1, hjoins, f, hfragment, ?_, ha, hx⟩
  exact (Statement.references_eq hfragment).trans (by decide +kernel)

end SelectQuery
