import SelectQuery.Proofs.History
import SelectQuery.Proofs.Wording.Terms

/-!
# Conjunctions keep their operands

The rendering puts a combined operand in parentheses, but never a term. So the text of a conjunction
has the value of the conjunction if no term in it has an OR outside of parentheses.

* `Predicate.items?_combine`: the text of a combined predicate, from those of its operands;
* `Predicate.Conjoinable`: what has to be known of an operand. Built-in terms and combined
  predicates have it, `Predicate.Composed.conjoinable`;
* `conjunctions_keep_operands`: the texts of AND, and of the WHERE and HAVING clauses of a
  statement.
-/

namespace SelectQuery

open Wording (Items items?)

/-- The items of what has been rendered. -/
def Fragment.items? (l : Layout) (f : Fragment) : Option Items :=
  Wording.items? (Token.textOf l f.tokens).toList

/-- The quotes and parentheses of a term match wherever it is rendered. -/
def Term.Legible (l : Layout) (t : Term) : Prop :=
  ∀ next f, t.fragment l.paramStyle next = .ok f → ∃ i, f.items? l = some i

theorem Term.StandsAlone.legible {l : Layout} {t : Term} (h : t.StandsAlone l) : t.Legible l := by
  intro next f hf
  obtain ⟨i, hi, -⟩ := h next f hf
  exact ⟨i, hi⟩

namespace Predicate

/-- The items of an operand. -/
def operandItems (p : Predicate) (i : Items) : Items :=
  if p.isCombined then .group i .nil else i

variable {l : Layout} {p q : Predicate}

theorem items?_operand {ts : List Token} {i : Items}
    (h : items? (Token.textOf l ts).toList = some i) :
    items? (Token.textOf l (p.operand ts)).toList = some (p.operandItems i) := by
  unfold operand operandItems
  split
  · simpa [Token.textOf_cons, Token.textOf_append, Token.text] using Wording.items?_parenthesized h
  · exact h

theorem value_operandItems (v : Items → Bool) (i : Items) :
    (p.operandItems i).value v = i.value v := by
  unfold operandItems
  split
  · exact i.value_parenthesized v
  · rfl

/-- The connective as a lexeme. -/
def connective (logic : Logic) : Wording.Atom := .word logic.text.toList

theorem logic?_connective (logic : Logic) : (connective logic).logic? = some logic := by
  cases logic <;> decide

theorem text_keyword (logic : Logic) : logic.keyword.text = logic.text := by
  cases logic <;> rfl

/-- **The text of a combined predicate**: its operands, with the connective between them. -/
theorem items?_combine {logic : Logic} {next : Nat} {f : Fragment}
    (h : (combine logic p q).fragment l.paramStyle next = .ok f) :
    ∃ g k, p.fragment l.paramStyle next = .ok g ∧
      q.fragment l.paramStyle (next + g.parameters.length) = .ok k ∧
      f.parameters = g.parameters ++ k.parameters ∧
      Token.textOf l f.tokens = Token.textOf l (p.operand g.tokens) ++ " " ++ logic.text ++ " " ++
        Token.textOf l (q.operand k.tokens) ∧
      ∀ i j, g.items? l = some i → k.items? l = some j →
        f.items? l = some (p.operandItems i ++ .atom (connective logic) (q.operandItems j)) := by
  obtain ⟨g, k, hg, hk, hv, he⟩ := fragment_combine h
  have ht : Token.textOf l f.tokens = Token.textOf l (p.operand g.tokens) ++ " " ++ logic.text ++
      " " ++ Token.textOf l (q.operand k.tokens) := by
    rw [he, Token.textOf_append, Token.textOf_append]
    simp [Token.textOf_cons, Token.text, text_keyword, String.append_assoc]
  refine ⟨g, k, hg, hk, hv, ht, fun i j hi hj => ?_⟩
  have hl : items? logic.text.toList = some (.atom (connective logic) .nil) := by
    cases logic <;> decide
  have hr := Wording.items?_append (c := ' ') (by decide) hl
    (Wording.items?_space (items?_operand (p := q) hj))
  have hw := Wording.items?_append (c := ' ') (by decide) (items?_operand (p := p) hi)
    (Wording.items?_space hr)
  rw [Fragment.items?, ht]
  simpa using hw

/-- A predicate of legible terms is legible. -/
theorem exists_items {next : Nat} {f : Fragment} (hp : ∀ t ∈ p.terms, t.Legible l)
    (h : p.fragment l.paramStyle next = .ok f) : ∃ i, f.items? l = some i := by
  induction p generalizing next f with
  | term t => exact hp t (List.mem_singleton_self t) next f h
  | combine logic p q ihp ihq =>
    obtain ⟨g, k, hg, hk, -, -, hf⟩ := items?_combine h
    obtain ⟨i, hi⟩ := ihp (fun t ht => hp t (List.mem_append_left _ ht)) hg
    obtain ⟨j, hj⟩ := ihq (fun t ht => hp t (List.mem_append_right _ ht)) hk
    exact ⟨_, hf i j hi hj⟩

/-! ## Conjunctions -/

/-- What an operand of AND has to fulfil: all terms in it are legible, and if it is a term itself,
its text stands alone. -/
structure Conjoinable (l : Layout) (p : Predicate) : Prop where
  legible : ∀ t ∈ p.terms, t.Legible l
  alone : ∀ t, p = .term t → t.StandsAlone l

theorem Conjoinable.combine (logic : Logic) (hp : p.Conjoinable l) (hq : q.Conjoinable l) :
    (Predicate.combine logic p q).Conjoinable l := by
  refine ⟨fun t ht => ?_, nofun⟩
  rcases List.mem_append.mp ht with ht | ht
  · exact hp.legible t ht
  · exact hq.legible t ht

/-- **A conjoinable operand has no OR outside of parentheses and quotes.** -/
theorem Conjoinable.exists_items {next : Nat} {f : Fragment} (hp : p.Conjoinable l)
    (h : p.fragment l.paramStyle next = .ok f) :
    ∃ i, f.items? l = some i ∧ (p.operandItems i).isOrFree := by
  cases p with
  | term t => exact hp.alone t rfl next f h
  | combine logic p q =>
    obtain ⟨i, hi⟩ := Predicate.exists_items hp.legible h
    exact ⟨i, hi, rfl⟩

theorem conjoinable_term {t : Term} (h : t.StandsAlone l) : (term t).Conjoinable l := by
  constructor
  · intro u hu
    rw [List.mem_singleton.mp hu]
    exact h.legible
  · intro u hu
    exact Predicate.term.inj hu ▸ h

/-- Built-in terms on named fields, other terms that stand alone, and what is combined of them. -/
inductive Composed (l : Layout) : Predicate → Prop
  | comparison {f : Field} {op : Comparison} {a : Argument} (hf : f.IsNamed)
      (ha : ∀ g, a = .field g → g.IsNamed) : Composed l (Predicate.comparison f op a)
  | contains {f : Field} {op : Containment} {vs : List Value} {p : Predicate} (hf : f.IsNamed)
      (h : Predicate.contains f op vs = .ok p) : Composed l p
  | isNull {f : Field} (hf : f.IsNamed) : Composed l (Predicate.isNull f)
  | isNotNull {f : Field} (hf : f.IsNamed) : Composed l (Predicate.isNotNull f)
  | custom {t : Term} (ht : t.StandsAlone l) : Composed l (.term t)
  | combine (logic : Logic) {p q : Predicate} (hp : Composed l p) (hq : Composed l q) :
      Composed l (.combine logic p q)

theorem Composed.conjoinable (h : p.Composed l) : p.Conjoinable l := by
  induction h with
  | comparison hf ha => exact conjoinable_term (standsAlone_comparison l hf ha rfl)
  | contains hf h =>
    obtain ⟨t, rfl, ht⟩ := standsAlone_contains l hf h
    exact conjoinable_term ht
  | isNull hf => exact conjoinable_term (standsAlone_isNull l hf rfl)
  | isNotNull hf => exact conjoinable_term (standsAlone_isNotNull l hf rfl)
  | custom ht => exact conjoinable_term ht
  | combine logic _ _ ihp ihq => exact ihp.combine logic ihq

/-- Predicates rendered one after the other. -/
def fragments (style : ParamStyle) : Nat → List Predicate → Except SelectError (List Fragment)
  | _, [] => .ok []
  | next, p :: ps => do
    let f ← p.fragment style next
    let fs ← fragments style (next + f.parameters.length) ps
    return f :: fs

theorem fragments_cons_eq_ok_iff {style : ParamStyle} {next : Nat} {ps : List Predicate}
    {fs : List Fragment} :
    fragments style next (p :: ps) = .ok fs ↔
      ∃ g gs, p.fragment style next = .ok g ∧
        fragments style (next + g.parameters.length) ps = .ok gs ∧ fs = g :: gs := by
  constructor
  · intro h
    obtain ⟨g, hg, h⟩ := exists_of_bind_eq_ok h
    obtain ⟨gs, hgs, h⟩ := exists_of_bind_eq_ok h
    exact ⟨g, gs, hg, hgs, (Except.ok.inj h).symm⟩
  · rintro ⟨g, gs, hg, hgs, rfl⟩
    rw [fragments, hg]
    show (do let fs ← fragments style (next + g.parameters.length) ps; return g :: fs) = _
    rw [hgs]
    rfl

end Predicate

/-- The text of a fragment has, for any values of the clauses in it, the value of the conjunction of
the predicates, which are rendered one after the other. -/
def Fragment.Conjoins (l : Layout) (next : Nat) (f : Fragment) (ps : List Predicate) : Prop :=
  ∃ (fs : List Fragment) (i : Items) (js : List Items),
    Predicate.fragments l.paramStyle next ps = .ok fs ∧ f.items? l = some i ∧
      fs.map (Fragment.items? l) = js.map some ∧ ∀ v, i.value v = js.all (Items.value v)

namespace Predicate

variable {l : Layout}

/-- **The text of a chain of AND** has the value of the conjunction. -/
theorem conjoins_foldl {p : Predicate} {ps : List Predicate} (hp : p.Conjoinable l)
    (hps : ∀ q ∈ ps, q.Conjoinable l) {next : Nat} {f : Fragment}
    (h : (ps.foldl and p).fragment l.paramStyle next = .ok f) :
    f.Conjoins l next (p :: ps) := by
  induction ps generalizing p with
  | nil =>
    obtain ⟨i, hi, -⟩ := hp.exists_items h
    have hf : fragments l.paramStyle next [p] = .ok [f] :=
      fragments_cons_eq_ok_iff.mpr ⟨f, [], h, rfl, rfl⟩
    exact ⟨[f], i, [i], hf, hi, by simp [hi], by simp⟩
  | cons q ps ih =>
    rw [List.forall_mem_cons] at hps
    obtain ⟨fs, i, js, hfs, hi, hjs, hv⟩ := ih (hp.combine .and hps.1) hps.2 h
    -- the first fragment is that of the first two predicates with AND between them
    obtain ⟨d, ds, hd, hds, rfl⟩ := fragments_cons_eq_ok_iff.mp hfs
    obtain ⟨g, k, hg, hk, hparameters, -, hitems⟩ := items?_combine hd
    obtain ⟨a, ha, hafree⟩ := hp.exists_items hg
    obtain ⟨b, hb, hbfree⟩ := hps.1.exists_items hk
    obtain ⟨c, cs, rfl, hc, hcs⟩ := List.map_eq_cons_iff.mp hjs.symm
    have hfirst : ∀ v, c.value v = (a.value v && b.value v) := by
      intro v
      rw [hitems a b ha hb] at hc
      rw [Option.some.inj hc,
        Items.value_combine v (logic?_connective .and) fun _ => ⟨hafree, hbfree⟩,
        value_operandItems, value_operandItems]
      rfl
    have hrest : fragments l.paramStyle (next + g.parameters.length) (q :: ps) = .ok (k :: ds) := by
      rw [hparameters, List.length_append, ← Nat.add_assoc] at hds
      exact fragments_cons_eq_ok_iff.mpr ⟨k, ds, hk, hds, rfl⟩
    refine ⟨g :: k :: ds, i, a :: b :: cs, ?_, hi, ?_, fun v => ?_⟩
    · exact fragments_cons_eq_ok_iff.mpr ⟨g, k :: ds, hg, hrest, rfl⟩
    · simp [ha, hb, hcs]
    · rw [hv v]
      simp [hfirst v, Bool.and_assoc]

end Predicate

/-! ## Statements -/

namespace Statement

/-- The clauses are the conjunctions of what their calls were given. -/
theorem clauses_run (root : Alias) (ops : List Op) :
    ((ofRoot root).run ops).filter = conjunction (ops.filterMap Op.filter?) ∧
      ((ofRoot root).run ops).having = conjunction (ops.filterMap Op.having?) := by
  rw [run_ofRoot_eq]
  exact ⟨rfl, rfl⟩

theorem conjoins_of_conjunction {l : Layout} {ps : List Predicate}
    (hps : ∀ p ∈ ps, p.Conjoinable l) {p : Predicate} (hp : conjunction ps = some p)
    {next : Nat} {f : Fragment} (hf : p.fragment l.paramStyle next = .ok f) :
    f.Conjoins l next ps := by
  cases ps with
  | nil => cases hp
  | cons q ps =>
    rw [List.forall_mem_cons] at hps
    obtain rfl := Option.some.inj hp
    exact Predicate.conjoins_foldl hps.1 hps.2 hf

end Statement

/-- **AND keeps its operands.** In a conjunction of conjoinable predicates, neither operand has an
OR outside of parentheses and quotes. Whatever operations lead to a statement, the text of its WHERE
clause has the value of the conjunction of all predicates that were given for it, if they are
conjoinable, and so has that of HAVING. -/
theorem conjunctions_keep_operands (l : Layout) :
    (∀ p : Predicate, p.Composed l → p.Conjoinable l) ∧
    (∀ (p q : Predicate) (next : Nat) (f : Fragment), p.Conjoinable l → q.Conjoinable l →
      (p.and q).fragment l.paramStyle next = .ok f →
        ∃ g k, p.fragment l.paramStyle next = .ok g ∧
          q.fragment l.paramStyle (next + g.parameters.length) = .ok k ∧
          Token.textOf l f.tokens = Token.textOf l (p.operand g.tokens) ++ " AND " ++
            Token.textOf l (q.operand k.tokens) ∧
          Wording.StandsAlone (Token.textOf l (p.operand g.tokens)).toList ∧
          Wording.StandsAlone (Token.textOf l (q.operand k.tokens)).toList) ∧
    ∀ (root : Alias) (ops : List Statement.Op) (p : Predicate) (next : Nat) (f : Fragment),
      p.fragment l.paramStyle next = .ok f →
      ((∀ q ∈ ops.filterMap Statement.Op.filter?, q.Conjoinable l) →
        ((Statement.ofRoot root).run ops).filter = some p →
          f.Conjoins l next (ops.filterMap Statement.Op.filter?)) ∧
      ((∀ q ∈ ops.filterMap Statement.Op.having?, q.Conjoinable l) →
        ((Statement.ofRoot root).run ops).having = some p →
          f.Conjoins l next (ops.filterMap Statement.Op.having?)) := by
  refine ⟨fun p => Predicate.Composed.conjoinable, ?_, fun root ops p next f hf => ⟨?_, ?_⟩⟩
  · intro p q next f hp hq h
    obtain ⟨g, k, hg, hk, -, ht, -⟩ := Predicate.items?_combine h
    obtain ⟨i, hi, hif⟩ := hp.exists_items hg
    obtain ⟨j, hj, hjf⟩ := hq.exists_items hk
    refine ⟨g, k, hg, hk, ?_, ⟨_, Predicate.items?_operand hi, hif⟩,
      ⟨_, Predicate.items?_operand hj, hjf⟩⟩
    rw [ht]
    simp [Logic.text, String.append_assoc]
  · intro hps hp
    rw [(Statement.clauses_run _ ops).1] at hp
    exact Statement.conjoins_of_conjunction hps hp hf
  · intro hps hp
    rw [(Statement.clauses_run _ ops).2] at hp
    exact Statement.conjoins_of_conjunction hps hp hf

/-- The `id` of people is not a text with an OR in it. -/
def Term.notQuoted : Term :=
  .ofParts [.slot 0, .text " <> 'a OR b'"] [.field (.id .people)]

theorem Term.standsAlone_notQuoted (l : Layout) : Term.notQuoted.StandsAlone l :=
  Term.standsAlone_test l ⟨by decide, by decide⟩ (s := "<> 'a OR b'") (by decide)

/-- The `id` of people is null, or it is not. -/
def Predicate.nullOrNot : Predicate := (isNull (.id .people)).or (isNotNull (.id .people))

/-- One OR in parentheses, and one in quotes. -/
theorem conjunctions_keep_operands_quoted :
    ∃ f, (Predicate.nullOrNot.and (.term .notQuoted)).fragment .indexed 0 = .ok f ∧
      Token.textOf {} f.tokens =
        "(pe.id IS NULL OR pe.id IS NOT NULL) AND pe.id <> 'a OR b'" ∧
      f.Conjoins {} 0 [.nullOrNot, .term .notQuoted] := by
  have hid : (Field.id .people).IsNamed := ⟨by decide, by decide⟩
  have hk := conjunctions_keep_operands {}
  have hps : ∀ q ∈ [Predicate.nullOrNot, .term .notQuoted], q.Conjoinable {} := by
    simp only [List.forall_mem_cons]
    refine ⟨hk.1 _ (.combine .or (.isNull hid) (.isNotNull hid)), hk.1 _ (.custom ?_), nofun⟩
    exact Term.standsAlone_notQuoted {}
  refine ⟨_, rfl, by decide, ?_⟩
  exact (hk.2.2 .people [.edit (.filter .nullOrNot), .edit (.filter (.term .notQuoted))] _ 0 _
    rfl).1 hps rfl

/-- The `id` of people is one of two numbers. -/
def Term.either : Term :=
  .ofParts [.slot 0, .text " = ", .slot 1, .text " OR ", .slot 0, .text " = ", .slot 2]
    [.field (.id .people), .literal (.int 1), .literal (.int 2)]

/-- A term with an OR of its own gets no parentheses. Where the `id` is not null, the text is true
if the `id` is the second number, although the first condition is not fulfilled. -/
theorem either_weakens :
    Term.ofTemplate Term.either.template Term.either.arguments = .ok .either ∧
    ((Statement.ofRoot .people).run [.edit (.filter (.isNull (.id .people))),
      .edit (.filter (.term .either))]).filter =
        some ((Predicate.isNull (.id .people)).and (.term .either)) ∧
    ((Predicate.isNull (.id .people)).and (.term .either)).render {} =
      .ok ⟨"pe.id IS NULL AND pe.id = \x7b0\x7d OR pe.id = \x7b1\x7d",
        [⟨0, .int 1⟩, ⟨1, .int 2⟩]⟩ ∧
    ¬ Wording.StandsAlone "pe.id = \x7b0\x7d OR pe.id = \x7b1\x7d".toList ∧
    ∃ v : Items → Bool, (items? "pe.id IS NULL".toList).map (Items.value v) = some false ∧
      (items? "pe.id IS NULL AND pe.id = \x7b0\x7d OR pe.id = \x7b1\x7d".toList).map
        (Items.value v) = some true := by
  refine ⟨by rfl, rfl, by rfl, by decide, ?_⟩
  exact ⟨fun i => items? "pe.id IS NULL".toList ≠ some i, by decide, by decide⟩

end SelectQuery
