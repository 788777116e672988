import SelectQuery.Proofs.Numbering

/-!
# Independence of the text from literal values

`withoutValues` puts NULL in the place of every literal, so two statements that differ only in the
values of their literals have the same image. The check of the scope does not see the difference
(`Statement.validate_withoutValues`), and drafts and their fillings forget the values with the
statement (`Statement.draft_withoutValues`, `Draft.fill_withoutValues`). The main statement is
`text_independent_of_values`.
-/

namespace SelectQuery

/-! ## Forgetting values -/

def Argument.withoutValue : Argument → Argument
  | field f => field f
  | literal _ => literal .null

def Term.withoutValues (t : Term) : Term :=
  { t with arguments := t.arguments.map Argument.withoutValue }

def Predicate.withoutValues : Predicate → Predicate
  | term t => term t.withoutValues
  | combine logic p q => combine logic p.withoutValues q.withoutValues

def Join.withoutValues (j : Join) : Join :=
  { j with condition := j.condition.map Predicate.withoutValues }

def Statement.withoutValues (s : Statement) : Statement :=
  { s with
    joins := s.joins.map Join.withoutValues
    filter := s.filter.map Predicate.withoutValues
    having := s.having.map Predicate.withoutValues }

/-! ## The scope -/

theorem Term.fields_withoutValues (t : Term) : t.withoutValues.fields = t.fields := by
  unfold fields withoutValues
  apply List.filterMap_congr
  intro n _
  simp only [List.getElem?_map]
  cases t.arguments[n]? with
  | none => rfl
  | some a => cases a <;> rfl

namespace Predicate

theorem fields_withoutValues (p : Predicate) : p.withoutValues.fields = p.fields := by
  induction p with
  | term t => exact t.fields_withoutValues
  | combine logic p q ihp ihq => simp only [withoutValues, fields, ihp, ihq]

theorem references_withoutValues (p : Predicate) (a : Alias) :
    p.withoutValues.references a = p.references a := by
  simp only [references, fields_withoutValues]

end Predicate

namespace Statement

theorem fieldsOf_withoutValues (p : Option Predicate) :
    fieldsOf (p.map Predicate.withoutValues) = fieldsOf p := by
  cases p with
  | none => rfl
  | some p => exact p.fields_withoutValues

theorem fieldFaults_withoutValues (s : Statement) :
    s.withoutValues.fieldFaults = s.fieldFaults := rfl

theorem joinFaults_withoutValues (s : Statement) (j : Join) :
    s.withoutValues.joinFaults j.withoutValues = s.joinFaults j := by
  unfold joinFaults
  cases h : j.condition with
  | none => simp only [Join.withoutValues, h, Option.map_none]
  | some p =>
    simp only [Join.withoutValues, h, Option.map_some, fieldFaults_withoutValues,
      Predicate.fields_withoutValues, Predicate.references_withoutValues]

theorem faults_withoutValues (s : Statement) : s.withoutValues.faults = s.faults := by
  have hj : s.withoutValues.joins.flatMap s.withoutValues.joinFaults =
      s.joins.flatMap s.joinFaults := by
    show (s.joins.map Join.withoutValues).flatMap s.withoutValues.joinFaults = _
    rw [List.flatMap_map]
    simp only [joinFaults_withoutValues]
  have hf : fieldsOf s.withoutValues.filter = fieldsOf s.filter := fieldsOf_withoutValues s.filter
  have hh : fieldsOf s.withoutValues.having = fieldsOf s.having := fieldsOf_withoutValues s.having
  unfold faults
  rw [hj, hf, hh, fieldFaults_withoutValues]
  rfl

theorem validate_withoutValues (s : Statement) : s.withoutValues.validate = s.validate := by
  unfold validate
  rw [faults_withoutValues]

end Statement

/-! ## Drafts -/

def Literal.withoutValue (o : Literal) : Literal :=
  { o with value := .null }

def Cell.withoutValue : Cell → Cell
  | token t => token t
  | literal o => literal o.withoutValue

namespace Draft

def withoutValues (ds : Draft) : Draft := ds.map Cell.withoutValue

@[simp]
theorem withoutValues_append (ds es : Draft) :
    withoutValues (ds ++ es) = withoutValues ds ++ withoutValues es :=
  List.map_append

@[simp]
theorem withoutValues_ofTokens (ts : List Token) : withoutValues (ofTokens ts) = ofTokens ts := by
  simp [withoutValues, ofTokens, Cell.withoutValue]

theorem literals_withoutValues (ds : Draft) :
    literals (withoutValues ds) = (literals ds).map Literal.withoutValue := by
  induction ds with
  | nil => rfl
  | cons c ds ih =>
    cases c with
    | token t => exact ih
    | literal o => exact congrArg (_ :: ·) ih

end Draft

theorem Term.draft_withoutValues (t : Term) (k : Nat) :
    t.withoutValues.draft k = Draft.withoutValues (t.draft k) := by
  have hp : ∀ p, t.withoutValues.partDraft k p = Draft.withoutValues (t.partDraft k p) := by
    intro p
    cases p with
    | text s => rfl
    | slot n =>
      have ha : t.withoutValues.arguments[n]? = t.arguments[n]?.map Argument.withoutValue :=
        List.getElem?_map
      simp only [partDraft, ha]
      rcases t.arguments[n]? with _ | f | v
      · rfl
      · exact (Draft.withoutValues_ofTokens f.tokens).symm
      · rfl
  unfold draft Draft.withoutValues
  rw [List.map_flatMap]
  apply List.flatMap_congr
  intro p _
  exact hp p

namespace Predicate

theorem terms_withoutValues (p : Predicate) :
    p.withoutValues.terms = p.terms.map Term.withoutValues := by
  induction p with
  | term t => rfl
  | combine logic p q ihp ihq => simp only [withoutValues, terms, ihp, ihq, List.map_append]

theorem termsOf_withoutValues (p : Option Predicate) :
    termsOf (p.map withoutValues) = (termsOf p).map Term.withoutValues := by
  cases p with
  | none => rfl
  | some p => exact p.terms_withoutValues

theorem operandDraft_withoutValues (p : Predicate) (ds : Draft) :
    p.withoutValues.operandDraft (Draft.withoutValues ds) =
      Draft.withoutValues (p.operandDraft ds) := by
  cases p <;> simp [operandDraft, withoutValues, isCombined]

theorem draft_withoutValues (p : Predicate) (k : Nat) :
    p.withoutValues.draft k = Draft.withoutValues (p.draft k) := by
  induction p generalizing k with
  | term t => exact t.draft_withoutValues k
  | combine logic p q ihp ihq =>
    simp only [withoutValues, draft, terms_withoutValues, List.length_map, ihp, ihq,
      operandDraft_withoutValues, Draft.withoutValues_append, Draft.withoutValues_ofTokens]

end Predicate

theorem Join.terms_withoutValues (j : Join) :
    j.withoutValues.terms = j.terms.map Term.withoutValues :=
  Predicate.termsOf_withoutValues j.condition

theorem Join.draft_withoutValues (j : Join) (k : Nat) :
    j.withoutValues.draft k = Draft.withoutValues (j.draft k) := by
  unfold draft
  cases h : j.condition with
  | none => simp only [withoutValues, h, Option.map_none, Draft.withoutValues_ofTokens]
  | some p =>
    simp only [withoutValues, h, Option.map_some, Draft.withoutValues_append,
      Draft.withoutValues_ofTokens, Predicate.draft_withoutValues]

namespace Statement

theorem joinTerms_withoutValues (js : List Join) :
    joinTerms (js.map Join.withoutValues) = (joinTerms js).map Term.withoutValues := by
  simp only [joinTerms, List.flatMap_map, Join.terms_withoutValues, List.map_flatMap]

theorem joinsDraft_withoutValues (k : Nat) (js : List Join) :
    joinsDraft k (js.map Join.withoutValues) = Draft.withoutValues (joinsDraft k js) := by
  induction js generalizing k with
  | nil => rfl
  | cons j js ih =>
    simp only [List.map_cons, joinsDraft, ih, Join.draft_withoutValues, Join.terms_withoutValues,
      List.length_map, Draft.withoutValues_append]

theorem predicateDraft_withoutValues (c : Keyword) (k : Nat) (p : Option Predicate) :
    predicateDraft c k (p.map Predicate.withoutValues) =
      Draft.withoutValues (predicateDraft c k p) := by
  cases p with
  | none => rfl
  | some p => simp [predicateDraft, Predicate.draft_withoutValues]

theorem draft_withoutValues (s : Statement) :
    s.withoutValues.draft = Draft.withoutValues s.draft := by
  have hh : s.withoutValues.headTokens = s.headTokens := rfl
  simp only [draft, hh, Draft.withoutValues_append, Draft.withoutValues_ofTokens]
  simp only [withoutValues, joinsDraft_withoutValues, predicateDraft_withoutValues,
    joinTerms_withoutValues, Predicate.termsOf_withoutValues, List.length_map]

end Statement

/-! ## Filling -/

def Parameter.withoutValue (p : Parameter) : Parameter := { p with value := .null }

theorem Parameter.listFrom_withoutValues (next : Nat) (vs : List Value) :
    listFrom next (vs.map fun _ => .null) = (listFrom next vs).map withoutValue := by
  induction vs generalizing next with
  | nil => rfl
  | cons v vs ih => exact congrArg (⟨next, .null⟩ :: ·) (ih (next + 1))

/-- A fragment with the indices of its parameters only. -/
def Fragment.withoutValues (f : Fragment) : Fragment :=
  ⟨f.tokens, f.parameters.map Parameter.withoutValue⟩

namespace Draft

theorem firsts_withoutValue (seen : List Site) (os : List Literal) :
    firsts seen (os.map Literal.withoutValue) = (firsts seen os).map Literal.withoutValue := by
  induction os generalizing seen with
  | nil => rfl
  | cons o os ih =>
    have ho : o.withoutValue.site = o.site := rfl
    rw [List.map_cons, firsts, firsts, ho]
    split
    · exact ih seen
    · rw [ih, List.map_cons]

theorem order_withoutValues (seen : List Site) (ds : Draft) :
    order seen (literals (withoutValues ds)) = order seen (literals ds) := by
  unfold order
  rw [literals_withoutValues, firsts_withoutValue, List.map_map]
  rfl

theorem counted_withoutValues (next : Nat) (ds : Draft) :
    counted next (withoutValues ds) = counted next ds := by
  induction ds generalizing next with
  | nil => rfl
  | cons c ds ih =>
    cases c with
    | token t => exact congrArg (t :: ·) (ih next)
    | literal o => exact congrArg (.placeholder next :: ·) (ih (next + 1))

theorem spell_withoutValues (f : Literal → Token) (hf : ∀ o, f o.withoutValue = f o)
    (ds : Draft) : spell f (withoutValues ds) = spell f ds := by
  unfold spell withoutValues
  rw [List.map_map]
  apply List.map_congr_left
  intro c _
  cases c with
  | token t => rfl
  | literal o => exact hf o

/-- **Filling sees the values only to bind them.** -/
theorem fill_withoutValues {style : ParamStyle} (hs : style ≠ .inline) (next : Nat) (ds : Draft) :
    fill style next (withoutValues ds) = (fill style next ds).map Fragment.withoutValues := by
  have hnull : ∀ os : List Literal, (os.map Literal.withoutValue).map Literal.value =
      (os.map Literal.value).map fun _ => .null := by
    intro os
    rw [List.map_map, List.map_map]
    rfl
  unfold fill
  rw [ParamStyle.isInline_eq_false hs]
  cases style.isPositional with
  | true =>
    simp only [Bool.false_eq_true, ↓reduceIte, positional, counted_withoutValues,
      literals_withoutValues, hnull, Parameter.listFrom_withoutValues, Except.map,
      Fragment.withoutValues]
  | false =>
    simp only [Bool.false_eq_true, ↓reduceIte, shared, order_withoutValues]
    rw [spell_withoutValues _ (fun _ => rfl), literals_withoutValues, firsts_withoutValue, hnull,
      Parameter.listFrom_withoutValues]
    rfl

end Draft

/-- Two renderings that agree in text and indices, and whose values at equal positions are the
literals that the terms `ts` and `us` hold at one site. -/
structure Rendered.SameButValues (ts us : List Term) (r q : Rendered) : Prop where
  text_eq : r.commandText = q.commandText
  indices_eq : r.parameters.map Parameter.index = q.parameters.map Parameter.index
  values_at : ∀ (i : Nat) (a b : Parameter), r.parameters[i]? = some a →
    q.parameters[i]? = some b →
      ∃ σ ∈ sites ts, literalAt ts σ = some a.value ∧ literalAt us σ = some b.value

namespace Draft

/-- Two drafts that differ only in the values of their literals. -/
theorem rendered_of_withoutValues_eq {style : ParamStyle} (hs : style ≠ .inline)
    {ts us : List Term} {ds es : Draft} (hd : literals ds = literalsFrom 0 ts)
    (he : literals es = literalsFrom 0 us) (hud : Unbound ds) (hue : Unbound es)
    (h : withoutValues ds = withoutValues es) (l : Layout) :
    ∃ f g, fill style 0 ds = .ok f ∧ fill style 0 es = .ok g ∧
      Rendered.SameButValues ts us (f.rendered l) (g.rendered l) := by
  obtain ⟨f, hf⟩ := fill_eq_ok hs 0 ds
  obtain ⟨g, hg⟩ := fill_eq_ok hs 0 es
  have hfg : f.withoutValues = g.withoutValues := by
    have e := fill_withoutValues hs 0 ds
    rw [h, fill_withoutValues hs 0 es, hf, hg] at e
    exact (Except.ok.inj e).symm
  have htok : f.tokens = g.tokens := congrArg (·.tokens) hfg
  have hindices : f.parameters.map Parameter.index = g.parameters.map Parameter.index := by
    simpa [Fragment.withoutValues, Function.comp_def, Parameter.withoutValue] using
      congrArg (fun f => f.parameters.map Parameter.index) hfg
  have hsite : sites ts = sites us := by
    have e := congrArg (fun ds => (literals ds).map Literal.site) h
    simp only [literals_withoutValues, List.map_map, hd, he] at e
    exact e
  have hnf := numbered_fill hs hd hud hf
  have hng := numbered_fill hs he hue hg
  refine ⟨f, g, hf, hg, congrArg (Token.textOf l) htok, hindices, ?_⟩
  · intro i a b ha hb
    obtain ⟨σ, _, hσ, _⟩ := hnf.used a (List.mem_of_getElem? ha)
    have hai := hnf.index_eq i a ha
    -- the same site has the same index on the other side, where it holds the other value
    obtain ⟨v, hv, hav⟩ := hnf.value_eq _ hσ
    rw [htok, hsite] at hσ
    obtain ⟨w, hw, hbw⟩ := hng.value_eq _ hσ
    have hav' : a = ⟨a.index, v⟩ := by
      rw [hai] at hav
      exact hai ▸ Option.some.inj (ha.symm.trans hav)
    have hbw' : b = ⟨a.index, w⟩ := by
      rw [hai] at hbw
      exact hai ▸ Option.some.inj (hb.symm.trans hbw)
    refine ⟨σ, ?_, ?_, ?_⟩
    · rw [hsite]
      exact (List.of_mem_zip hσ).2
    · rw [hav']
      exact hv
    · rw [hbw']
      exact hw

end Draft

/-- **The text does not depend on values.** Two statements that differ only in the values of their
literals fail alike under a style that binds, or give the same text and the same indices, each
with its own literals under them; and so do two predicates, which never fail. -/
theorem text_independent_of_values (l : Layout) (hl : l.paramStyle ≠ .inline) :
    (∀ s t : Statement, s.withoutValues = t.withoutValues →
      (∃ e, s.render l = .error e ∧ t.render l = .error e) ∨
      ∃ r q, s.render l = .ok r ∧ t.render l = .ok q ∧ r.SameButValues s.terms t.terms q) ∧
    ∀ p q : Predicate, p.withoutValues = q.withoutValues →
      ∃ r r', p.render l = .ok r ∧ q.render l = .ok r' ∧ r.SameButValues p.terms q.terms r' := by
  constructor
  · intro s t h
    have hv : s.validate = t.validate := by
      rw [← s.validate_withoutValues, ← t.validate_withoutValues, h]
    cases hc : s.validate with
    | error e =>
      exact Or.inl ⟨e, Statement.render_of_validate_error hc l,
        Statement.render_of_validate_error (hv ▸ hc) l⟩
    | ok u =>
      have hd : Draft.withoutValues s.draft = Draft.withoutValues t.draft := by
        rw [← s.draft_withoutValues, ← t.draft_withoutValues, h]
      obtain ⟨f, g, hf, hg, hr⟩ := Draft.rendered_of_withoutValues_eq hl s.literals_draft
        t.literals_draft s.unbound_draft t.unbound_draft hd l
      rw [← Statement.fragment_eq_fill] at hf hg
      exact Or.inr ⟨_, _, Statement.render_eq_ok_iff.mpr ⟨hc, f, hf, rfl⟩,
        Statement.render_eq_ok_iff.mpr ⟨hv ▸ hc, g, hg, rfl⟩, hr⟩
  · intro p q h
    have hd : Draft.withoutValues (p.draft 0) = Draft.withoutValues (q.draft 0) := by
      rw [← p.draft_withoutValues, ← q.draft_withoutValues, h]
    obtain ⟨f, g, hf, hg, hr⟩ := Draft.rendered_of_withoutValues_eq hl (p.literals_draft 0)
      (q.literals_draft 0) (p.unbound_draft 0) (q.unbound_draft 0) hd l
    rw [← Predicate.fragment_eq_fill] at hf hg
    exact ⟨_, _, Predicate.render_eq_ok_iff.mpr ⟨f, hf, rfl⟩,
      Predicate.render_eq_ok_iff.mpr ⟨g, hg, rfl⟩, hr⟩

/-- A statement with other values in slots used twice. -/
theorem text_independent_of_values_doubled :
    (∃ r q, (Statement.doubled .null (.text "a")).render {} = .ok r ∧
      (Statement.doubled (.text "' OR 1 = 1") (.bool true)).render {} = .ok q ∧
      r.SameButValues [.doubled .null, .doubled (.text "a")]
        [.doubled (.text "' OR 1 = 1"), .doubled (.bool true)] q) ∧
    ∃ r q, (Predicate.doubled .null (.text "a")).render { paramStyle := .question } = .ok r ∧
      (Predicate.doubled (.text "' OR 1 = 1") (.bool true)).render { paramStyle := .question } =
        .ok q ∧
      r.SameButValues [.doubled .null, .doubled (.text "a")]
        [.doubled (.text "' OR 1 = 1"), .doubled (.bool true)] q := by
  constructor
  · rcases (text_independent_of_values {} (by decide)).1 (.doubled .null (.text "a"))
      (.doubled (.text "' OR 1 = 1") (.bool true)) rfl with ⟨e, he, -⟩ | h
    · cases he
    · exact h
  · exact (text_independent_of_values { paramStyle := .question } (by decide)).2
      (.doubled .null (.text "a")) (.doubled (.text "' OR 1 = 1") (.bool true)) rfl

end SelectQuery
