import SelectQuery.Proofs.Numbering

/-!
# Agreement of the parameter styles

All styles fill the same draft. What one style gives can be read off the indexed filling:

* the positional one counts its placeholders anew and repeats a value wherever its index comes
  again (`Draft.positional_eq_of_shared`);
* the inline one puts the text of each value in the place of its placeholder
  (`Draft.spell_inlined_eq`), and fails at the first term that refers to a value without a text,
  if there is one (`Draft.inline_eq_error_iff`).

The main statement is `styles_agree`.
-/

namespace SelectQuery

open Token (placeholders)

def Argument.value? : Argument → Option Value
  | .field _ => none
  | .literal v => some v

namespace Token

/-- The placeholders counted anew, in the order of the text. -/
def renumbered (next : Nat) : List Token → List Token
  | [] => []
  | placeholder _ :: ts => placeholder next :: renumbered (next + 1) ts
  | t :: ts => t :: renumbered next ts

/-- A token with the text of the value in the place of a placeholder. A placeholder without a
value, or whose value has no text, has no image. -/
def inlined? (values : List Value) : Token → Option Token
  | placeholder i => (values[i]?.bind Value.literal?).map literal
  | t => some t

theorem renumbered_cons_of_none {t : Token} (next : Nat) (ts : List Token)
    (h : t.placeholder? = none) : renumbered next (t :: ts) = t :: renumbered next ts := by
  cases t <;> first | rfl | cases h

theorem inlined?_of_none {t : Token} (values : List Value) (h : t.placeholder? = none) :
    t.inlined? values = some t := by
  cases t <;> first | rfl | cases h

end Token

/-! ## Terms -/

namespace Term

/-- The values that a term refers to, one for each slot that stands for a literal. -/
def referenced (t : Term) : List Value :=
  (Template.slots t.parts).filterMap fun n => t.arguments[n]?.bind Argument.value?

/-- Those of them that have no form inside a statement. -/
def unwritables (t : Term) : List Value := t.referenced.filter (·.literal?.isNone)

theorem map_value_literals (t : Term) (k : Nat) :
    (t.literals k).map Literal.value = t.referenced := by
  rw [literals, referenced, List.map_filterMap]
  apply List.filterMap_congr
  intro n _
  unfold literal?
  cases t.arguments[n]? with
  | none => rfl
  | some a => cases a <;> rfl

theorem head?_unwritables (t : Term) (k : Nat) :
    t.unwritables.head? =
      ((t.literals k).find? (·.value.literal?.isNone)).map Literal.value := by
  rw [unwritables, ← t.map_value_literals k, List.head?_filter, List.find?_map]
  rfl

end Term

theorem map_value_literalsFrom (k : Nat) (ts : List Term) :
    (literalsFrom k ts).map Literal.value = ts.flatMap Term.referenced := by
  induction ts generalizing k with
  | nil => rfl
  | cons t ts ih =>
    rw [literalsFrom, List.map_append, t.map_value_literals, ih, List.flatMap_cons]

/-- The first literal without a form belongs to the first term that refers to one. -/
theorem find?_literalsFrom {k : Nat} {ts : List Term} {o : Literal}
    (h : (literalsFrom k ts).find? (·.value.literal?.isNone) = some o) :
    ∃ t, ts.find? (fun t => !t.unwritables.isEmpty) = some t ∧
      t.unwritables.head? = some o.value ∧ o.template = t.template := by
  induction ts generalizing k with
  | nil => cases h
  | cons t ts ih =>
    rw [literalsFrom, List.find?_append] at h
    have hh := t.head?_unwritables k
    cases hf : (t.literals k).find? (·.value.literal?.isNone) with
    | some p =>
      rw [hf, Option.some_or, Option.some.injEq] at h
      subst h
      rw [hf, Option.map_some] at hh
      have ht : (!t.unwritables.isEmpty) = true := by
        cases hu : t.unwritables with
        | nil => rw [hu] at hh; cases hh
        | cons v vs => rfl
      have hm := ((t.mem_literals_iff k p).mp (List.mem_of_find?_eq_some hf)).2.1
      exact ⟨t, by rw [List.find?_cons, ht], hh, hm⟩
    | none =>
      rw [hf, Option.none_or] at h
      rw [hf, Option.map_none, List.head?_eq_none_iff] at hh
      obtain ⟨u, hu, hv, hp⟩ := ih h
      exact ⟨u, by rw [List.find?_cons, hh]; exact hu, hv, hp⟩

namespace Draft

variable {terms : List Term} {ds : Draft}

/-! ## The positional style -/

theorem renumbered_spell (f : Literal → Nat) (next : Nat) (hu : Unbound ds) :
    Token.renumbered next (spell (fun o => .placeholder (f o)) ds) = counted next ds := by
  induction ds generalizing next with
  | nil => rfl
  | cons c ds ih =>
    obtain ⟨hc, hds⟩ := (unbound_cons c ds).mp hu
    cases c with
    | token t =>
      have ht : t.placeholder? = none := hc t (List.mem_singleton_self _)
      exact (Token.renumbered_cons_of_none next _ ht).trans (congrArg (t :: ·) (ih next hds))
    | literal o => exact congrArg (.placeholder next :: ·) (ih (next + 1) hds)

/-- The value of a literal stands under its index. -/
theorem getElem?_values_shared (hd : literals ds = literalsFrom 0 terms) {o : Literal}
    (ho : o ∈ literals ds) :
    (shared 0 [] ds).values[0 + (order [] (literals ds)).idxOf o.site]? = some o.value := by
  rw [Nat.zero_add, values_shared]
  rw [hd] at ho ⊢
  exact value_under_index terms ho

/-- **Positional from indexed.** -/
theorem positional_eq_of_shared (hd : literals ds = literalsFrom 0 terms) (hu : Unbound ds) :
    (positional 0 ds).tokens = Token.renumbered 0 (shared 0 [] ds).tokens ∧
      (positional 0 ds).values.map some =
        (placeholders (shared 0 [] ds).tokens).map ((shared 0 [] ds).values[·]?) := by
  constructor
  · exact (renumbered_spell _ 0 hu).symm
  · have hp : placeholders (shared 0 [] ds).tokens =
        (literals ds).map fun o => 0 + (order [] (literals ds)).idxOf o.site :=
      placeholders_spell _ ds hu
    rw [hp, values_positional, List.map_map, List.map_map]
    apply List.map_congr_left
    intro o ho
    exact (getElem?_values_shared hd ho).symm

/-! ## The inline style -/

/-- The values of the indexed filling are those of the literals, -/
theorem mem_values_shared_iff (hd : literals ds = literalsFrom 0 terms) (v : Value) :
    v ∈ (shared 0 [] ds).values ↔ ∃ o ∈ literals ds, o.value = v := by
  constructor
  · intro h
    rw [values_shared] at h
    obtain ⟨o, ho, e⟩ := List.mem_map.mp h
    exact ⟨o, mem_of_mem_firsts ho, e⟩
  · rintro ⟨o, ho, rfl⟩
    exact List.mem_of_getElem? (getElem?_values_shared hd ho)

/-- and these are what the terms refer to. -/
theorem exists_literal_iff (hd : literals ds = literalsFrom 0 terms) (v : Value) :
    (∃ o ∈ literals ds, o.value = v) ↔ ∃ t ∈ terms, v ∈ t.referenced := by
  rw [hd, ← List.mem_map, map_value_literalsFrom, List.mem_flatMap]

/-- **Inline from indexed.** -/
theorem spell_inlined_eq (hd : literals ds = literalsFrom 0 terms) (hu : Unbound ds)
    (h : ∀ o ∈ literals ds, o.value.literal? ≠ none) :
    (spell Literal.inlined ds).map some =
      (shared 0 [] ds).tokens.map (Token.inlined? (shared 0 [] ds).values) := by
  have ht : (shared 0 [] ds).tokens =
      spell (fun o => .placeholder (0 + (order [] (literals ds)).idxOf o.site)) ds := rfl
  rw [ht, spell, spell, List.map_map, List.map_map]
  apply List.map_congr_left
  intro c hc
  cases c with
  | token t => exact (Token.inlined?_of_none _ (hu t hc)).symm
  | literal o =>
    have ho : o ∈ literals ds := List.mem_filterMap.mpr ⟨_, hc, rfl⟩
    obtain ⟨s, hs⟩ := Option.ne_none_iff_exists'.mp (h o ho)
    simp only [Function.comp_apply, Cell.spell, Token.inlined?, getElem?_values_shared hd ho,
      Option.bind_some, hs, Option.map_some, Literal.inlined, Option.getD_some]

/-- Writing out ends at the first literal without a form, or nowhere. -/
theorem inline_cases (ds : Draft) :
    (∃ o, (literals ds).find? (·.value.literal?.isNone) = some o ∧
      inline ds = .error o.unwritable) ∨
    (∀ o ∈ literals ds, o.value.literal? ≠ none) ∧
      inline ds = .ok ⟨spell Literal.inlined ds, []⟩ := by
  unfold inline
  cases h : (literals ds).find? (·.value.literal?.isNone) with
  | some o => exact Or.inl ⟨o, rfl, rfl⟩
  | none =>
    refine Or.inr ⟨?_, rfl⟩
    intro o ho e
    have hn := List.find?_eq_none.mp h o ho
    rw [e] at hn
    exact hn rfl

theorem inline_ok_iff (ds : Draft) :
    (∃ g, inline ds = .ok g) ↔ ∀ o ∈ literals ds, o.value.literal? ≠ none := by
  rcases inline_cases ds with ⟨o, ho, e⟩ | ⟨hall, e⟩
  · rw [e]
    constructor
    · rintro ⟨g, hg⟩
      cases hg
    · intro hall
      have hn : o.value.literal?.isNone = true := by simpa using List.find?_some ho
      exact absurd (Option.isNone_iff_eq_none.mp hn) (hall o (List.mem_of_find?_eq_some ho))
  · exact ⟨fun _ => hall, fun _ => ⟨_, e⟩⟩

theorem of_inline_eq_ok (hd : literals ds = literalsFrom 0 terms) (hu : Unbound ds) {g : Fragment}
    (h : inline ds = .ok g) :
    g.parameters = [] ∧
      g.tokens.map some =
        (shared 0 [] ds).tokens.map (Token.inlined? (shared 0 [] ds).values) := by
  rcases inline_cases ds with ⟨o, _, e⟩ | ⟨hall, e⟩
  · rw [e] at h
    cases h
  · rw [e] at h
    obtain rfl := Except.ok.inj h
    exact ⟨rfl, spell_inlined_eq hd hu hall⟩

/-- The fault that is reported is that of the first term with one. -/
theorem of_inline_eq_error (hd : literals ds = literalsFrom 0 terms) {e : SelectError}
    (h : inline ds = .error e) :
    ∃ t v, terms.find? (fun t => !t.unwritables.isEmpty) = some t ∧
      t.unwritables.head? = some v ∧ e = t.unwritable v := by
  rcases inline_cases ds with ⟨o, ho, e'⟩ | ⟨_, e'⟩
  · rw [hd] at ho
    obtain ⟨t, ht, hv, hm⟩ := find?_literalsFrom ho
    rw [e'] at h
    refine ⟨t, o.value, ht, hv, ?_⟩
    rw [← Except.error.inj h, Literal.unwritable, Term.unwritable, hm]
  · rw [e'] at h
    cases h

/-- **Inline errors.** There is one exactly if some term refers to a literal without a form, and
it is that of the first such term. -/
theorem inline_eq_error_iff (hd : literals ds = literalsFrom 0 terms) (e : SelectError) :
    inline ds = .error e ↔
      ∃ t v, terms.find? (fun t => !t.unwritables.isEmpty) = some t ∧
        t.unwritables.head? = some v ∧ e = t.unwritable v := by
  constructor
  · exact of_inline_eq_error hd
  · rintro ⟨t, v, ht, hv, rfl⟩
    cases h : inline ds with
    | error e =>
      obtain ⟨u, w, hu, hw, rfl⟩ := of_inline_eq_error hd h
      obtain rfl := Option.some.inj (ht.symm.trans hu)
      obtain rfl := Option.some.inj (hv.symm.trans hw)
      rfl
    | ok g =>
      -- every literal has a form then, and the value is one of them
      obtain ⟨hmem, hnone⟩ := List.mem_filter.mp (List.mem_of_head? hv)
      obtain ⟨o, ho, rfl⟩ :=
        (exists_literal_iff hd v).mpr ⟨t, List.mem_of_find?_eq_some ht, hmem⟩
      exact absurd (Option.isNone_iff_eq_none.mp hnone) ((inline_ok_iff ds).mp ⟨g, h⟩ o ho)

end Draft

/-! ## Statements -/

/-- What the other styles give for a statement for which the indexed one gives `f`. -/
structure Statement.AgreesWith (s : Statement) (f : Fragment) : Prop where
  atP_eq : s.stream .atP = .ok f
  dollar_eq : s.stream .dollar = .ok f
  /-- What is bound are the values that the terms of the statement refer to. -/
  mem_values_iff : ∀ v, v ∈ f.values ↔ ∃ t ∈ s.terms, v ∈ t.referenced
  /-- Positional placeholders are counted anew, and each has the value its index refers to, which
  is what the terms refer to one after the other. -/
  question_eq : ∃ g, s.stream .question = .ok g ∧ g.tokens = Token.renumbered 0 f.tokens ∧
    g.values.map some = (placeholders f.tokens).map (f.values[·]?) ∧
    g.values = s.terms.flatMap Term.referenced
  /-- Literals can be written out exactly if each bound value has a literal form, -/
  inline_ok_iff : (∃ g, s.stream .inline = .ok g) ↔ ∀ v ∈ f.values, v.literal? ≠ none
  /-- which only the infinities and NaN lack. -/
  unwritable_iff : ∀ v ∈ f.values, v.literal? = none ↔ ∃ x, v = .float x ∧ x.isFinite = false
  /-- Nothing is bound then, and the placeholders give way to the texts of their values. -/
  inline_ok : ∀ g, s.stream .inline = .ok g →
    g.parameters = [] ∧ g.tokens.map some = f.tokens.map (Token.inlined? f.values)
  /-- Otherwise the first term that refers to an unwritable literal is reported. -/
  inline_error_iff : ∀ e, s.stream .inline = .error e ↔
    ∃ t v, s.terms.find? (fun t => !t.unwritables.isEmpty) = some t ∧
      t.unwritables.head? = some v ∧ e = t.unwritable v

theorem Statement.agreesWith_shared (s : Statement) (h : s.validate = .ok ()) :
    s.AgreesWith (Draft.shared 0 [] s.draft) := by
  have hd := s.literals_draft
  have hu := s.unbound_draft
  have hstream : ∀ style, s.stream style = Draft.fill style 0 s.draft := by
    intro style
    rw [stream_eq, h]
    rfl
  have hq : s.stream .question = .ok (Draft.positional 0 s.draft) := hstream .question
  have hi : s.stream .inline = Draft.inline s.draft := by
    rw [hstream, Draft.fill_inline]
  have hw : (∀ v ∈ (Draft.shared 0 [] s.draft).values, v.literal? ≠ none) ↔
      ∀ o ∈ Draft.literals s.draft, o.value.literal? ≠ none := by
    simp only [Draft.mem_values_shared_iff hd, forall_exists_index, and_imp,
      forall_apply_eq_imp_iff₂]
  constructor
  case atP_eq => exact hstream .atP
  case dollar_eq => exact hstream .dollar
  case mem_values_iff =>
    intro v
    rw [Draft.mem_values_shared_iff hd, Draft.exists_literal_iff hd]
  case question_eq =>
    obtain ⟨htokens, hvalues⟩ := Draft.positional_eq_of_shared hd hu
    refine ⟨_, hq, htokens, hvalues, ?_⟩
    rw [Draft.values_positional, hd, map_value_literalsFrom]
  case inline_ok_iff =>
    rw [hi, hw]
    exact Draft.inline_ok_iff s.draft
  case unwritable_iff =>
    intro v _
    exact Value.literal?_eq_none_iff
  case inline_ok =>
    intro g hg
    rw [hi] at hg
    exact Draft.of_inline_eq_ok hd hu hg
  case inline_error_iff =>
    intro e
    rw [hi]
    exact Draft.inline_eq_error_iff hd e

/-- **The styles agree.** A rendering spells the stream of its style. Either the scope has a
fault, which every style reports, or the indexed stream fixes those of all other styles. -/
theorem styles_agree (s : Statement) :
    (∀ l, s.render l = (s.stream l.paramStyle).map (·.rendered l)) ∧
      ((∃ e, s.validate = .error e ∧ ∀ style, s.stream style = .error e) ∨
        ∃ f, s.stream .indexed = .ok f ∧ s.AgreesWith f) := by
  refine ⟨s.render_eq, ?_⟩
  cases h : s.validate with
  | error e =>
    refine Or.inl ⟨e, rfl, fun style => ?_⟩
    rw [Statement.stream_eq, h]
    rfl
  | ok u =>
    refine Or.inr ⟨_, ?_, s.agreesWith_shared h⟩
    rw [Statement.stream_eq, h]
    rfl

/-- A text and NaN, each of which has to differ from itself. -/
def Statement.unlikeThemselves : Statement :=
  .doubled (.text "a") (.float ⟨0x7ff8000000000000⟩)

/-- NaN is bound like any other value, and written out it is reported with its own term, the
second one. -/
theorem styles_agree_unlike :
    (∃ f, Statement.unlikeThemselves.stream .indexed = .ok f ∧
      placeholders f.tokens = [0, 0, 1, 1]) ∧
    (∃ g, Statement.unlikeThemselves.stream .question = .ok g ∧
      placeholders g.tokens = [0, 1, 2, 3] ∧
      g.values = [.text "a", .text "a", .float ⟨0x7ff8000000000000⟩,
        .float ⟨0x7ff8000000000000⟩]) ∧
    Statement.unlikeThemselves.stream .inline =
      .error (.invalidFilter "\x7b0\x7d <> \x7b0\x7d" "value NaN has no SQL literal form") := by
  have hv : Statement.unlikeThemselves.validate = .ok () := rfl
  obtain ⟨e, he, -⟩ | ⟨f, hf, h⟩ := (styles_agree .unlikeThemselves).2
  · rw [hv] at he
    cases he
  · obtain ⟨g, hg, htokens, -, hvalues⟩ := h.question_eq
    have hf' : f = Draft.shared 0 [] Statement.unlikeThemselves.draft := by
      rw [Statement.stream_eq, hv] at hf
      exact (Except.ok.inj hf).symm
    subst hf'
    refine ⟨⟨_, hf, rfl⟩, ⟨g, hg, ?_, hvalues⟩, ?_⟩
    · rw [htokens]
      rfl
    · exact (h.inline_error_iff _).mpr ⟨.doubled (.float ⟨0x7ff8000000000000⟩), _, rfl, rfl, rfl⟩

end SelectQuery
