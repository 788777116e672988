import SelectQuery.Proofs.Draft.Fill

/-!
# Rendering fills the draft

* `Predicate.fragment_eq_fill` and `Statement.fragment_eq_fill`: rendering gives what filling the
  draft gives, failures included;
* `Statement.render_eq` adds the check of the scope and the text.

The one step where the two differ is the table of bound slots: each term starts an empty one,
while filling keeps the sites of the whole text. Sites of different terms differ, so neither ever
finds what the other does not.
-/

namespace SelectQuery

/-! ## Terms -/

namespace Draft

theorem shared_ofTokens_append (base : Nat) (seen : List Site) (ts : List Token) (ds : Draft) :
    shared base seen (ofTokens ts ++ ds) = (shared base seen ds).after ts := by
  simp [shared, Fragment.after]

/-- A site that has come before keeps its index. -/
theorem shared_cons_of_mem (base : Nat) (seen : List Site) (o : Literal) (ds : Draft)
    (h : o.site ∈ seen) :
    shared base seen (.literal o :: ds) =
      (shared base seen ds).after [.placeholder (base + seen.idxOf o.site)] := by
  have hl : literals (.literal o :: ds) = o :: literals ds := rfl
  have hi : (order seen (literals ds)).idxOf o.site = seen.idxOf o.site :=
    List.idxOf_append_of_mem h
  simp only [shared, hl, order_cons, firsts, h, ↓reduceIte, Fragment.after, spell, List.map_cons,
    Cell.spell, hi]
  rfl

/-- A new site gets the next index. -/
theorem shared_cons_of_notMem (base : Nat) (seen : List Site) (o : Literal) (ds : Draft)
    (h : o.site ∉ seen) :
    shared base seen (.literal o :: ds) =
      ⟨[.placeholder (base + seen.length)], [⟨base + seen.length, o.value⟩]⟩ ++
        shared base (seen ++ [o.site]) ds := by
  have hl : literals (.literal o :: ds) = o :: literals ds := rfl
  have hi : (order (seen ++ [o.site]) (literals ds)).idxOf o.site = seen.length := by
    unfold order
    rw [List.idxOf_append_of_mem (by simp), List.idxOf_append_of_notMem h]
    simp
  simp only [shared, hl, order_cons, firsts, h, ↓reduceIte, spell, List.map_cons, Cell.spell, hi,
    Parameter.listFrom_cons, List.length_append, List.length_singleton, ← Nat.add_assoc]
  rfl

theorem positional_ofTokens_append (next : Nat) (ts : List Token) (ds : Draft) :
    positional next (ofTokens ts ++ ds) = (positional next ds).after ts := by
  simp [positional, counted_append, counted_ofTokens, Fragment.after]

theorem positional_cons (next : Nat) (o : Literal) (ds : Draft) :
    positional next (.literal o :: ds) =
      ⟨[.placeholder next], [⟨next, o.value⟩]⟩ ++ positional (next + 1) ds := rfl

theorem inline_ofTokens_append (ts : List Token) (ds : Draft) :
    inline (ofTokens ts ++ ds) = (inline ds).map (·.after ts) := by
  rw [inline_append]
  simp [inline, Except.bind]
  rfl

theorem inline_cons_of_none {o : Literal} (ds : Draft) (h : o.value.literal? = none) :
    inline (.literal o :: ds) = .error o.unwritable := by
  have hl : literals (.literal o :: ds) = o :: literals ds := rfl
  simp [inline, hl, h]

theorem inline_cons_of_some {o : Literal} {s : String} (ds : Draft)
    (h : o.value.literal? = some s) :
    inline (.literal o :: ds) = (inline ds).map (·.after [.literal s]) := by
  have hl : literals (.literal o :: ds) = o :: literals ds := rfl
  have hs : o.inlined = .literal s := by simp [Literal.inlined, h]
  simp only [inline, hl, h, List.find?_cons, Option.isNone_some, spell, List.map_cons, Cell.spell,
    hs]
  cases (literals ds).find? _ <;> rfl

end Draft

namespace Term

variable (t : Term) (k : Nat) (style : ParamStyle)

/-- A table of bound slots holds the sites seen so far, with the indices from `base` on. -/
def Tabulates (base : Nat) (bound : List (Nat × Nat)) (seen : List Site) : Prop :=
  ∀ n, bound.lookup n =
    if (⟨k, n⟩ : Site) ∈ seen then some (base + seen.idxOf (⟨k, n⟩ : Site)) else none

theorem tabulates_cons {base : Nat} {bound : List (Nat × Nat)} {seen : List Site} {n : Nat}
    (h : Tabulates k base bound seen) (hn : (⟨k, n⟩ : Site) ∉ seen) :
    Tabulates k base ((n, base + seen.length) :: bound) (seen ++ [⟨k, n⟩]) := by
  intro m
  rw [List.lookup_cons, h m]
  by_cases hmn : m = n
  · rw [hmn, List.idxOf_append_of_notMem hn]
    simp
  · have hb : (m == n) = false := by simp [hmn]
    rw [hb]
    by_cases hs : (⟨k, m⟩ : Site) ∈ seen
    · simp [hs, List.idxOf_append_of_mem hs]
    · simp [hs, hmn]

theorem partsFragment_shared (hi : style.isInline = false) (hp : style.isPositional = false)
    (base : Nat) (bound : List (Nat × Nat)) (seen : List Site) (ps : List Template.Part)
    (hb : Tabulates k base bound seen) :
    t.partsFragment style bound (base + seen.length) ps =
      .ok (Draft.shared base seen (ps.flatMap (t.partDraft k))) := by
  induction ps generalizing bound seen with
  | nil => rfl
  | cons p ps ih =>
    rw [List.flatMap_cons]
    cases p with
    | text s =>
      rw [partsFragment, ih bound seen hb]
      exact congrArg Except.ok (Draft.shared_ofTokens_append base seen [.raw s] _).symm
    | slot n =>
      rw [partsFragment, partDraft]
      cases ha : t.arguments[n]? with
      | none => exact ih bound seen hb
      | some a =>
        cases a with
        | field f =>
          simp only
          rw [ih bound seen hb]
          exact congrArg Except.ok (Draft.shared_ofTokens_append base seen f.tokens _).symm
        | literal v =>
          have hn := hb n
          simp only [hi, hp, Bool.false_eq_true, ↓reduceIte, hn, List.singleton_append]
          by_cases hm : (⟨k, n⟩ : Site) ∈ seen
          · rw [Draft.shared_cons_of_mem _ _ _ _ hm]
            simp only [hm, ↓reduceIte]
            rw [ih bound seen hb]
            rfl
          · rw [Draft.shared_cons_of_notMem _ _ _ _ hm]
            simp only [hm, ↓reduceIte]
            have hr := ih ((n, base + seen.length) :: bound) (seen ++ [⟨k, n⟩])
              (tabulates_cons k hb hm)
            rw [List.length_append, List.length_singleton, ← Nat.add_assoc] at hr
            rw [hr]
            rfl

theorem partsFragment_positional (hi : style.isInline = false) (hp : style.isPositional = true)
    (bound : List (Nat × Nat)) (next : Nat) (ps : List Template.Part) :
    t.partsFragment style bound next ps =
      .ok (Draft.positional next (ps.flatMap (t.partDraft k))) := by
  induction ps generalizing bound next with
  | nil => rfl
  | cons p ps ih =>
    rw [List.flatMap_cons]
    cases p with
    | text s =>
      rw [partsFragment, ih]
      exact congrArg Except.ok (Draft.positional_ofTokens_append next [.raw s] _).symm
    | slot n =>
      rw [partsFragment, partDraft]
      cases ha : t.arguments[n]? with
      | none => exact ih bound next
      | some a =>
        cases a with
        | field f =>
          simp only
          rw [ih]
          exact congrArg Except.ok (Draft.positional_ofTokens_append next f.tokens _).symm
        | literal v =>
          simp only [hi, hp, Bool.false_eq_true, ↓reduceIte, List.singleton_append]
          rw [ih, Draft.positional_cons]
          rfl

theorem partsFragment_inline (hi : style.isInline = true) (bound : List (Nat × Nat)) (next : Nat)
    (ps : List Template.Part) :
    t.partsFragment style bound next ps = Draft.inline (ps.flatMap (t.partDraft k)) := by
  induction ps generalizing bound next with
  | nil => rfl
  | cons p ps ih =>
    rw [List.flatMap_cons]
    cases p with
    | text s =>
      rw [partsFragment, ih]
      exact (Draft.inline_ofTokens_append [.raw s] _).symm
    | slot n =>
      rw [partsFragment, partDraft]
      cases ha : t.arguments[n]? with
      | none => exact ih bound next
      | some a =>
        cases a with
        | field f =>
          simp only
          rw [ih]
          exact (Draft.inline_ofTokens_append f.tokens _).symm
        | literal v =>
          simp only [hi, ↓reduceIte]
          cases hv : v.literal? with
          | none => exact (Draft.inline_cons_of_none (o := ⟨⟨k, n⟩, t.template, v⟩) _ hv).symm
          | some s =>
            simp only
            rw [ih]
            exact (Draft.inline_cons_of_some (o := ⟨⟨k, n⟩, t.template, v⟩) _ hv).symm

theorem fragment_eq_fill (next : Nat) :
    t.fragment style next = Draft.fill style next (t.draft k) := by
  unfold fragment Draft.fill
  cases hi : style.isInline with
  | true => exact t.partsFragment_inline k style hi [] next t.parts
  | false =>
    cases hp : style.isPositional with
    | true => exact t.partsFragment_positional k style hi hp [] next t.parts
    | false => exact t.partsFragment_shared k style hi hp next [] [] t.parts (fun n => by simp)

end Term

/-! ## Predicates -/

/-- Literals of disjoint runs of terms have different sites. -/
theorem site_ne_of_mem {k : Nat} {ts us : List Term} {o p : Literal} (ho : o ∈ literalsFrom k ts)
    (hp : p ∈ literalsFrom (k + ts.length) us) : o.site ≠ p.site := by
  intro e
  have h1 := term_bounds_of_mem ho
  have h2 := term_bounds_of_mem hp
  rw [e] at h1
  omega

/-- Two drafts one after the other, of which the second goes on with the term numbers. -/
theorem Draft.fill_append_from (style : ParamStyle) (next k : Nat) {ds es : Draft}
    {ts us : List Term} (hd : literals ds = literalsFrom k ts)
    (he : literals es = literalsFrom (k + ts.length) us) :
    fill style next (ds ++ es) =
      (fill style next ds).bind fun f =>
        (fill style (next + f.parameters.length) es).map (f ++ ·) := by
  apply fill_append
  intro o ho p hp
  rw [hd] at ho
  rw [he] at hp
  exact site_ne_of_mem ho hp

namespace Predicate

theorem fill_operandDraft (style : ParamStyle) (next : Nat) (p : Predicate) (ds : Draft) :
    Draft.fill style next (p.operandDraft ds) =
      (Draft.fill style next ds).map fun f => ⟨p.operand f.tokens, f.parameters⟩ := by
  unfold operandDraft operand
  split
  · rw [Draft.fill_append_ofTokens, Draft.fill_ofTokens_append]
    cases Draft.fill style next ds <;> simp [Except.map, Fragment.after, Fragment.append_def]
  · cases Draft.fill style next ds <;> rfl

/-- **Rendering a predicate fills its draft.** -/
theorem fragment_eq_fill (style : ParamStyle) (next k : Nat) (p : Predicate) :
    p.fragment style next = Draft.fill style next (p.draft k) := by
  induction p generalizing next k with
  | term t => exact t.fragment_eq_fill k style next
  | combine logic p q ihp ihq =>
    have hl : Draft.literals (p.operandDraft (p.draft k) ++
        Draft.ofTokens [.space, .keyword logic.keyword, .space]) = literalsFrom k p.terms := by
      simp [literals_draft]
    have hr : Draft.literals (q.operandDraft (q.draft (k + p.terms.length))) =
        literalsFrom (k + p.terms.length) q.terms := by
      simp [literals_draft]
    rw [fragment, draft, Draft.fill_append_from style next k hl hr, Draft.fill_append_ofTokens,
      fill_operandDraft, ihp next k]
    cases Draft.fill style next (p.draft k) with
    | error e => rfl
    | ok f =>
      simp only [Except.map, Except.bind, Fragment.append_def, List.append_nil, fill_operandDraft]
      rw [← ihq (next + f.parameters.length) (k + p.terms.length)]
      cases hq : q.fragment style (next + f.parameters.length) <;>
        simp only [bind, Except.bind, hq, pure, Except.pure]

/-- The indices of a predicate go on from the values before it. -/
theorem parameters_of_fragment {style : ParamStyle} {next : Nat} {p : Predicate} {f : Fragment}
    (h : p.fragment style next = .ok f) : f.parameters = Parameter.listFrom next f.values := by
  rw [p.fragment_eq_fill style next 0] at h
  exact Draft.parameters_of_fill h

theorem render_eq_ok_iff {p : Predicate} {l : Layout} {r : Rendered} :
    p.render l = .ok r ↔ ∃ f, p.fragment l.paramStyle 0 = .ok f ∧ r = f.rendered l := by
  unfold render
  cases p.fragment l.paramStyle 0 <;> simp [Except.map, eq_comm]

end Predicate

/-! ## Statements -/

theorem Join.fragment_eq_fill (style : ParamStyle) (next k : Nat) (j : Join) :
    j.fragment style next = Draft.fill style next (j.draft k) := by
  unfold fragment draft
  cases j.condition with
  | none => simp only [Draft.fill_ofTokens]
  | some p =>
    simp only [Draft.fill_ofTokens_append, ← p.fragment_eq_fill style next k]
    cases p.fragment style next <;> rfl

namespace Statement

theorem joinsFragment_eq_fill (style : ParamStyle) (next k : Nat) (js : List Join) :
    joinsFragment style next js = Draft.fill style next (joinsDraft k js) := by
  induction js generalizing next k with
  | nil => exact (Draft.fill_ofTokens style next []).symm
  | cons j js ih =>
    rw [joinsFragment, joinsDraft,
      Draft.fill_append_from style next k (j.literals_draft k) (literals_joinsDraft _ js),
      j.fragment_eq_fill style next k]
    cases Draft.fill style next (j.draft k) with
    | error e => rfl
    | ok f =>
      simp only [bind, Except.bind, ← ih (next + f.parameters.length) (k + j.terms.length)]
      cases joinsFragment style (next + f.parameters.length) js <;> rfl

theorem predicateFragment_eq_fill (style : ParamStyle) (c : Keyword) (next k : Nat)
    (p : Option Predicate) :
    predicateFragment style c next p = Draft.fill style next (predicateDraft c k p) := by
  cases p with
  | none => exact (Draft.fill_ofTokens style next []).symm
  | some p =>
    simp only [predicateFragment, predicateDraft, Draft.fill_ofTokens_append,
      ← p.fragment_eq_fill style next k]
    cases p.fragment style next <;> rfl

/-- **Rendering a statement fills its draft.** -/
theorem fragment_eq_fill (style : ParamStyle) (s : Statement) :
    s.fragment style = Draft.fill style 0 s.draft := by
  have hj : Draft.literals (Draft.ofTokens s.headTokens ++ joinsDraft 0 s.joins) =
      literalsFrom 0 (joinTerms s.joins) := by
    simp [literals_joinsDraft]
  have hf : Draft.literals (predicateDraft .«where» (joinTerms s.joins).length s.filter) =
      literalsFrom (0 + (joinTerms s.joins).length) (Predicate.termsOf s.filter) := by
    rw [literals_predicateDraft, Nat.zero_add]
  have hg : Draft.literals (Draft.ofTokens s.headTokens ++ joinsDraft 0 s.joins ++
      predicateDraft .«where» (joinTerms s.joins).length s.filter ++
      Draft.ofTokens (listTokens .groupBy (s.groupBy.map Field.tokens))) =
      literalsFrom 0 (joinTerms s.joins ++ Predicate.termsOf s.filter) := by
    rw [Draft.literals_append, Draft.literals_append, hj, hf, Draft.literals_ofTokens,
      List.append_nil, literalsFrom_append]
  have hv : Draft.literals (predicateDraft .having
      ((joinTerms s.joins).length + (Predicate.termsOf s.filter).length) s.having) =
      literalsFrom (0 + (joinTerms s.joins ++ Predicate.termsOf s.filter).length)
        (Predicate.termsOf s.having) := by
    rw [literals_predicateDraft, Nat.zero_add, List.length_append]
  rw [draft, Draft.fill_append_ofTokens, Draft.fill_append_from style 0 0 hg hv,
    Draft.fill_append_ofTokens, Draft.fill_append_from style 0 0 hj hf,
    Draft.fill_ofTokens_append, fragment, joinsFragment_eq_fill style 0 0]
  cases Draft.fill style 0 (joinsDraft 0 s.joins) with
  | error e => rfl
  | ok js =>
    simp only [bind, Except.bind, Except.map, Fragment.after, Fragment.append_def, Nat.zero_add,
      predicateFragment_eq_fill style .«where» _ (joinTerms s.joins).length s.filter]
    cases Draft.fill style js.parameters.length
        (predicateDraft .«where» (joinTerms s.joins).length s.filter) with
    | error e => rfl
    | ok f =>
      simp only [List.append_nil, List.length_append, pure, Except.pure,
        predicateFragment_eq_fill style .having _
          ((joinTerms s.joins).length + (Predicate.termsOf s.filter).length) s.having]
      cases Draft.fill style (js.parameters.length + f.parameters.length) (predicateDraft .having
          ((joinTerms s.joins).length + (Predicate.termsOf s.filter).length) s.having) with
      | error e => rfl
      | ok v => simp

/-- The parameters of a statement stand under their indices. -/
theorem parameters_of_fragment {style : ParamStyle} {s : Statement} {f : Fragment}
    (h : s.fragment style = .ok f) : f.parameters = Parameter.listFrom 0 f.values := by
  rw [fragment_eq_fill] at h
  exact Draft.parameters_of_fill h

/-- The tokens and parameters of a statement whose scope has been checked. -/
def stream (style : ParamStyle) (s : Statement) : Except SelectError Fragment := do
  s.validate
  s.fragment style

theorem render_eq (s : Statement) (l : Layout) :
    s.render l = (s.stream l.paramStyle).map (·.rendered l) := by
  unfold render stream
  cases s.validate with
  | error e => rfl
  | ok u => cases s.fragment l.paramStyle <;> rfl

theorem render_eq_ok_iff {s : Statement} {l : Layout} {r : Rendered} :
    s.render l = .ok r ↔
      s.validate = .ok () ∧ ∃ f, s.fragment l.paramStyle = .ok f ∧ r = f.rendered l := by
  unfold render
  cases s.validate with
  | error e => simp [bind, Except.bind]
  | ok u =>
    cases s.fragment l.paramStyle <;>
      simp [bind, Except.bind, pure, Except.pure, eq_comm]

theorem render_of_validate_error {s : Statement} {e : SelectError} (h : s.validate = .error e)
    (l : Layout) : s.render l = .error e := by
  unfold render
  rw [h]
  rfl

/-- Either the scope has a fault, whatever the style, or the draft is filled. -/
theorem stream_eq (style : ParamStyle) (s : Statement) :
    s.stream style = s.validate.bind fun _ => Draft.fill style 0 s.draft := by
  rw [← fragment_eq_fill]
  rfl

end Statement

end SelectQuery
