import SelectQuery.Render

/-!
# What a fragment is made of

A fragment that is rendered has the tokens of its parts, one part after the other:

* `Term.spelled_of_fragment`: the parts of a term, each a text, a field or a literal;
* `Predicate.fragment_combine`: two operands with a connective between them;
* `Join.tokens_of_fragment`, `Statement.tokens_of_fragment`: joins and clauses.
-/

namespace SelectQuery

theorem exists_of_bind_eq_ok {α β : Type} {x : Except SelectError α}
    {k : α → Except SelectError β} {b : β} (h : x >>= k = .ok b) :
    ∃ a, x = .ok a ∧ k a = .ok b := by
  cases x with
  | error e => cases h
  | ok a => exact ⟨a, rfl, h⟩

/-- What comes in front of a fragment. -/
theorem tokens_of_after_eq_ok {x : Except SelectError Fragment} {ts : List Token} {f : Fragment}
    (h : (do let rest ← x; return rest.after ts) = .ok f) :
    ∃ g, x = .ok g ∧ f.tokens = ts ++ g.tokens := by
  obtain ⟨g, hg, he⟩ := exists_of_bind_eq_ok h
  obtain rfl := Except.ok.inj he
  exact ⟨g, hg, rfl⟩

/-! ## Terms -/

namespace Term

/-- What one part of a term can be spelled as. -/
inductive Spells (t : Term) : Template.Part → List Token → Prop
  | text (s : String) : t.Spells (.text s) [.raw s]
  | absent {n : Nat} (h : t.arguments[n]? = none) : t.Spells (.slot n) []
  | field {n : Nat} {f : Field} (h : t.arguments[n]? = some (.field f)) :
      t.Spells (.slot n) f.tokens
  | inlined {n : Nat} {v : Value} {s : String} (h : t.arguments[n]? = some (.literal v))
      (hs : v.literal? = some s) : t.Spells (.slot n) [.literal s]
  | bound {n : Nat} {v : Value} (h : t.arguments[n]? = some (.literal v)) (i : Nat) :
      t.Spells (.slot n) [.placeholder i]

/-- Parts spelled one after the other. -/
inductive Spelled (t : Term) : List Template.Part → List Token → Prop
  | nil : t.Spelled [] []
  | cons {p : Template.Part} {ps : List Template.Part} {ts us : List Token} (hp : t.Spells p ts)
      (hps : t.Spelled ps us) : t.Spelled (p :: ps) (ts ++ us)

variable {style : ParamStyle} {t : Term}

/-- One part is spelled, and the parts behind it are rendered from some later state. -/
theorem partsFragment_cons {bound : List (Nat × Nat)} {next : Nat} {part : Template.Part}
    {parts : List Template.Part} {f : Fragment}
    (h : t.partsFragment style bound next (part :: parts) = .ok f) :
    ∃ ts bound' next' g, t.Spells part ts ∧ t.partsFragment style bound' next' parts = .ok g ∧
      f.tokens = ts ++ g.tokens := by
  cases part with
  | text s =>
    rw [partsFragment] at h
    obtain ⟨g, hg, he⟩ := tokens_of_after_eq_ok h
    exact ⟨[.raw s], bound, next, g, .text s, hg, he⟩
  | slot n =>
    rw [partsFragment] at h
    split at h
    · next ha => exact ⟨[], bound, next, f, .absent ha, h, rfl⟩
    · next field ha =>
      obtain ⟨g, hg, he⟩ := tokens_of_after_eq_ok h
      exact ⟨field.tokens, bound, next, g, .field ha, hg, he⟩
    · next v ha =>
      split at h
      · -- the literal is written out
        split at h
        · cases h
        · next s hs =>
          obtain ⟨g, hg, he⟩ := tokens_of_after_eq_ok h
          exact ⟨[.literal s], bound, next, g, .inlined ha hs, hg, he⟩
      · -- the literal is bound, here or before
        split at h
        · next i _ =>
          obtain ⟨g, hg, he⟩ := tokens_of_after_eq_ok h
          exact ⟨[.placeholder i], bound, next, g, .bound ha i, hg, he⟩
        · obtain ⟨g, hg, he⟩ := exists_of_bind_eq_ok h
          obtain rfl := Except.ok.inj he
          exact ⟨[.placeholder next], (n, next) :: bound, next + 1, g, .bound ha next, hg, rfl⟩

theorem spelled_of_partsFragment {parts : List Template.Part} {bound : List (Nat × Nat)}
    {next : Nat} {f : Fragment} (h : t.partsFragment style bound next parts = .ok f) :
    t.Spelled parts f.tokens := by
  induction parts generalizing bound next f with
  | nil =>
    obtain rfl := Except.ok.inj h
    exact .nil
  | cons part parts ih =>
    obtain ⟨ts, bound', next', g, hts, hg, he⟩ := partsFragment_cons h
    rw [he]
    exact .cons hts (ih hg)

/-- **A term is spelled part by part.** -/
theorem spelled_of_fragment {next : Nat} {f : Fragment} (h : t.fragment style next = .ok f) :
    t.Spelled t.parts f.tokens :=
  spelled_of_partsFragment h

end Term

/-! ## Predicates -/

theorem Predicate.fragment_combine {style : ParamStyle} {next : Nat} {logic : Logic}
    {p q : Predicate} {f : Fragment} (h : (combine logic p q).fragment style next = .ok f) :
    ∃ g k, p.fragment style next = .ok g ∧
      q.fragment style (next + g.parameters.length) = .ok k ∧
      f.parameters = g.parameters ++ k.parameters ∧
      f.tokens = p.operand g.tokens ++
        ([.space, .keyword logic.keyword, .space] ++ q.operand k.tokens) := by
  rw [fragment] at h
  obtain ⟨g, hg, h⟩ := exists_of_bind_eq_ok h
  obtain ⟨k, hk, h⟩ := exists_of_bind_eq_ok h
  obtain rfl := Except.ok.inj h
  exact ⟨g, k, hg, hk, rfl, List.append_assoc ..⟩

/-! ## Statements -/

/-- A join up to its condition. -/
def Join.headTokens (j : Join) : List Token :=
  [.newline, .keyword j.kind.keyword, .space, .keyword .join, .newline, .indent 1] ++
    j.joined.tokens

theorem Join.tokens_of_fragment {style : ParamStyle} {next : Nat} {j : Join} {f : Fragment}
    (h : j.fragment style next = .ok f) :
    (j.condition = none ∧ f.tokens = j.headTokens) ∨
      ∃ p g, j.condition = some p ∧ p.fragment style next = .ok g ∧
        f.tokens = j.headTokens ++ ([.space, .keyword .«on», .space] ++ g.tokens) := by
  rw [fragment] at h
  cases hc : j.condition with
  | none =>
    rw [hc] at h
    obtain rfl := Except.ok.inj h
    exact Or.inl ⟨rfl, rfl⟩
  | some p =>
    rw [hc] at h
    obtain ⟨g, hg, he⟩ := tokens_of_after_eq_ok h
    refine Or.inr ⟨p, g, rfl, hg, ?_⟩
    rw [he, List.append_assoc]
    rfl

namespace Statement

variable {style : ParamStyle}

theorem joinsFragment_cons {next : Nat} {j : Join} {js : List Join} {f : Fragment}
    (h : joinsFragment style next (j :: js) = .ok f) :
    ∃ g k, j.fragment style next = .ok g ∧
      joinsFragment style (next + g.parameters.length) js = .ok k ∧
      f.tokens = g.tokens ++ k.tokens := by
  rw [joinsFragment] at h
  obtain ⟨g, hg, h⟩ := exists_of_bind_eq_ok h
  obtain ⟨k, hk, h⟩ := exists_of_bind_eq_ok h
  obtain rfl := Except.ok.inj h
  exact ⟨g, k, hg, hk, rfl⟩

theorem tokens_of_predicateFragment {k : Keyword} {next : Nat} {p : Option Predicate}
    {f : Fragment} (h : predicateFragment style k next p = .ok f) :
    (p = none ∧ f.tokens = []) ∨
      ∃ q g, p = some q ∧ q.fragment style next = .ok g ∧
        f.tokens = clauseHead k ++ g.tokens := by
  cases p with
  | none =>
    obtain rfl := Except.ok.inj h
    exact Or.inl ⟨rfl, rfl⟩
  | some q =>
    obtain ⟨g, hg, he⟩ := tokens_of_after_eq_ok h
    exact Or.inr ⟨q, g, rfl, hg, he⟩

/-- **The clauses of a statement**, in the order of the text. -/
theorem tokens_of_fragment {s : Statement} {f : Fragment} (h : s.fragment style = .ok f) :
    ∃ js fi ha, joinsFragment style 0 s.joins = .ok js ∧
      predicateFragment style .«where» js.parameters.length s.filter = .ok fi ∧
      predicateFragment style .having (js.parameters.length + fi.parameters.length) s.having =
        .ok ha ∧
      f.tokens = s.headTokens ++ (js.tokens ++ (fi.tokens ++
        (listTokens .groupBy (s.groupBy.map Field.tokens) ++ (ha.tokens ++
          listTokens .orderBy (s.orderBy.map OrderItem.tokens))))) := by
  rw [fragment] at h
  obtain ⟨js, hj, h⟩ := exists_of_bind_eq_ok h
  obtain ⟨fi, hf, h⟩ := exists_of_bind_eq_ok h
  obtain ⟨ha, hh, h⟩ := exists_of_bind_eq_ok h
  obtain rfl := Except.ok.inj h
  refine ⟨js, fi, ha, hj, hf, hh, ?_⟩
  simp only [List.append_assoc]

end Statement

end SelectQuery
