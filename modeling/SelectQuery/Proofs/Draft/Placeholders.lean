import SelectQuery.Proofs.Draft.Render

/-!
# Placeholders of a filled draft

Before its literals are spelled, the draft of a statement or predicate holds no placeholder
(`Predicate.unbound_draft`, `Statement.unbound_draft`). So the placeholders of the filled draft
are those that the literals got, in the same order: `Draft.placeholders_spell` where each literal
is spelled by itself, `Draft.placeholders_counted` where the placeholders are counted.
-/

namespace SelectQuery

namespace Token

def placeholder? : Token → Option Nat
  | placeholder i => some i
  | _ => none

/-- The indices of the placeholders, in the order of the text. -/
def placeholders (ts : List Token) : List Nat := ts.filterMap placeholder?

@[simp]
theorem placeholders_append (ts us : List Token) :
    placeholders (ts ++ us) = placeholders ts ++ placeholders us :=
  List.filterMap_append ..

theorem placeholders_cons_of_none {t : Token} (ts : List Token) (h : t.placeholder? = none) :
    placeholders (t :: ts) = placeholders ts :=
  List.filterMap_cons_none h

end Token

open Token (placeholders)

/-! ## Tokens that bind nothing -/

theorem Field.placeholders_tokens (f : Field) : placeholders f.tokens = [] := by
  unfold tokens
  cases f.aggregate <;> rfl

theorem placeholders_separated (runs : List (List Token)) (h : ∀ r ∈ runs, placeholders r = []) :
    placeholders (separated runs) = [] := by
  induction runs with
  | nil => rfl
  | cons r runs ih =>
    have hr : placeholders r = [] := h r (List.mem_cons_self ..)
    have ht : placeholders (separated runs) = [] := ih fun s hs => h s (List.mem_cons_of_mem _ hs)
    cases runs with
    | nil => simpa [separated] using hr
    | cons s runs =>
      unfold separated at ht ⊢
      rw [List.intercalate_cons_cons, Token.placeholders_append, Token.placeholders_append, hr, ht]
      rfl

theorem placeholders_fieldRuns (fs : List Field) :
    placeholders (separated (fs.map Field.tokens)) = [] := by
  apply placeholders_separated
  intro r hr
  obtain ⟨f, _, rfl⟩ := List.mem_map.mp hr
  exact f.placeholders_tokens

theorem OrderItem.placeholders_tokens (i : OrderItem) : placeholders i.tokens = [] := by
  unfold tokens
  rw [Token.placeholders_append, Field.placeholders_tokens]
  rcases i.direction with _ | _ | _ <;> rfl

theorem Statement.placeholders_listTokens (k : Keyword) (runs : List (List Token))
    (h : placeholders (separated runs) = []) : placeholders (listTokens k runs) = [] := by
  unfold listTokens
  split
  · rfl
  · rw [Token.placeholders_append, h]
    rfl

theorem Statement.placeholders_headTokens (s : Statement) : placeholders s.headTokens = [] := by
  have ht : placeholders ((s.top.map Top.tokens).getD []) = [] := by
    cases s.top with
    | none => rfl
    | some t => cases hp : t.percent <;> simp [Top.tokens, hp] <;> rfl
  have hf : placeholders (if s.fields.isEmpty then [.star]
      else separated (s.fields.map Field.tokens)) = [] := by
    split
    · rfl
    · exact placeholders_fieldRuns s.fields
  have hd : placeholders (if s.distinct then [.keyword .distinct, .space] else []) = [] := by
    split <;> rfl
  rw [headTokens, Token.placeholders_append, Token.placeholders_append, Token.placeholders_append,
    Token.placeholders_append, Token.placeholders_append, ht, hf, hd]
  rfl

/-! ## Drafts -/

namespace Draft

/-- No token of the draft is a placeholder. -/
def Unbound (ds : Draft) : Prop := ∀ t, Cell.token t ∈ ds → t.placeholder? = none

theorem unbound_append (ds es : Draft) : Unbound (ds ++ es) ↔ Unbound ds ∧ Unbound es := by
  simp only [Unbound, List.mem_append, or_imp, forall_and]

theorem unbound_cons (c : Cell) (ds : Draft) : Unbound (c :: ds) ↔ Unbound [c] ∧ Unbound ds :=
  unbound_append [c] ds

theorem unbound_ofTokens (ts : List Token) : Unbound (ofTokens ts) ↔ placeholders ts = [] := by
  simp [Unbound, ofTokens, placeholders, List.filterMap_eq_nil_iff]

theorem unbound_literal (o : Literal) : Unbound [.literal o] := by
  simp [Unbound]

/-- The placeholders of a draft whose literals are spelled as placeholders. -/
theorem placeholders_spell (f : Literal → Nat) (ds : Draft) (h : Unbound ds) :
    placeholders (spell (fun o => .placeholder (f o)) ds) = (literals ds).map f := by
  induction ds with
  | nil => rfl
  | cons c ds ih =>
    obtain ⟨hc, hds⟩ := (unbound_cons c ds).mp h
    cases c with
    | token t =>
      have ht : t.placeholder? = none := hc t (List.mem_singleton_self _)
      exact (Token.placeholders_cons_of_none _ ht).trans (ih hds)
    | literal o => exact congrArg (f o :: ·) (ih hds)

theorem placeholders_counted (next : Nat) (ds : Draft) (h : Unbound ds) :
    placeholders (counted next ds) = List.range' next (literals ds).length := by
  induction ds generalizing next with
  | nil => rfl
  | cons c ds ih =>
    obtain ⟨hc, hds⟩ := (unbound_cons c ds).mp h
    cases c with
    | token t =>
      have ht : t.placeholder? = none := hc t (List.mem_singleton_self _)
      exact (Token.placeholders_cons_of_none _ ht).trans (ih next hds)
    | literal o => exact congrArg (next :: ·) (ih (next + 1) hds)

end Draft

open Draft (Unbound)

theorem Term.unbound_draft (t : Term) (k : Nat) : Unbound (t.draft k) := by
  unfold draft
  induction t.parts with
  | nil => simp [Unbound]
  | cons p ps ih =>
    rw [List.flatMap_cons, Draft.unbound_append]
    refine ⟨?_, ih⟩
    cases p with
    | text s => exact (Draft.unbound_ofTokens [.raw s]).mpr rfl
    | slot n =>
      simp only [partDraft]
      split
      · simp [Unbound]
      · next f _ => exact (Draft.unbound_ofTokens _).mpr f.placeholders_tokens
      · exact Draft.unbound_literal _

theorem Predicate.unbound_operandDraft (p : Predicate) (ds : Draft) (h : Unbound ds) :
    Unbound (p.operandDraft ds) := by
  unfold operandDraft
  split
  · simp only [Draft.unbound_append, Draft.unbound_ofTokens]
    exact ⟨⟨rfl, h⟩, rfl⟩
  · exact h

theorem Predicate.unbound_draft (p : Predicate) (k : Nat) : Unbound (p.draft k) := by
  induction p generalizing k with
  | term t => exact t.unbound_draft k
  | combine logic p q ihp ihq =>
    simp only [draft, Draft.unbound_append, Draft.unbound_ofTokens]
    exact ⟨⟨unbound_operandDraft p _ (ihp k), rfl⟩, unbound_operandDraft q _ (ihq _)⟩

theorem Join.unbound_draft (j : Join) (k : Nat) : Unbound (j.draft k) := by
  unfold draft
  cases j.condition with
  | none => exact (Draft.unbound_ofTokens _).mpr rfl
  | some p =>
    simp only [Draft.unbound_append, Draft.unbound_ofTokens]
    exact ⟨rfl, p.unbound_draft k⟩

namespace Statement

theorem unbound_joinsDraft (k : Nat) (js : List Join) : Unbound (joinsDraft k js) := by
  induction js generalizing k with
  | nil => simp [joinsDraft, Unbound]
  | cons j js ih => exact (Draft.unbound_append _ _).mpr ⟨j.unbound_draft k, ih _⟩

theorem unbound_predicateDraft (c : Keyword) (k : Nat) (p : Option Predicate) :
    Unbound (predicateDraft c k p) := by
  cases p with
  | none => simp [predicateDraft, Unbound]
  | some p =>
    simp only [predicateDraft, Draft.unbound_append, Draft.unbound_ofTokens]
    exact ⟨rfl, p.unbound_draft k⟩

theorem unbound_draft (s : Statement) : Unbound s.draft := by
  have hg : placeholders (listTokens .groupBy (s.groupBy.map Field.tokens)) = [] :=
    placeholders_listTokens _ _ (placeholders_fieldRuns s.groupBy)
  have ho : placeholders (listTokens .orderBy (s.orderBy.map OrderItem.tokens)) = [] := by
    apply placeholders_listTokens
    apply placeholders_separated
    intro r hr
    obtain ⟨i, _, rfl⟩ := List.mem_map.mp hr
    exact i.placeholders_tokens
  simp only [draft, Draft.unbound_append, Draft.unbound_ofTokens, hg, ho, placeholders_headTokens,
    unbound_joinsDraft, unbound_predicateDraft, and_self]

end Statement

end SelectQuery
