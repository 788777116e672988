import SelectQuery.Render

/-!
# Drafts

A draft is the token run of a predicate or statement whose literals are not spelled yet: each of
them keeps its site, the number of its term in the order of the text and the slot it fills there.

* `Predicate.draft` and `Statement.draft` walk the same trees as the renderer;
* `Statement.literals_draft`: the literals of a draft are those of the terms, one term after the
  other, whatever stands between them;
* `mem_literals_iff`: which literals a list of terms has.
-/

namespace SelectQuery

/-- Where a literal stands: a term, counted in the order of the text, and a slot of its template. -/
structure Site where
  term : Nat
  slot : Nat
  deriving DecidableEq, Repr

/-- A literal at its site, with the template that refers to it. -/
structure Literal where
  site : Site
  template : String
  value : Value

/-- A token, or a literal that is not spelled yet. -/
inductive Cell where
  | token (t : Token)
  | literal (o : Literal)

namespace Cell

def literal? : Cell → Option Literal
  | token _ => none
  | literal o => some o

def token? : Cell → Option Token
  | token t => some t
  | literal _ => none

/-- The token of a cell when `f` spells the literals. -/
def spell (f : Literal → Token) : Cell → Token
  | token t => t
  | literal o => f o

end Cell

abbrev Draft := List Cell

namespace Draft

/-- A draft without literals. -/
def ofTokens (ts : List Token) : Draft := ts.map Cell.token

def literals (ds : Draft) : List Literal := ds.filterMap Cell.literal?

/-- The tokens of a draft when `f` spells the literals. -/
def spell (f : Literal → Token) (ds : Draft) : List Token := ds.map (Cell.spell f)

@[simp]
theorem literals_append (ds es : Draft) : literals (ds ++ es) = literals ds ++ literals es := by
  simp [literals]

@[simp]
theorem literals_ofTokens (ts : List Token) : literals (ofTokens ts) = [] := by
  simp [literals, ofTokens, Cell.literal?]

@[simp]
theorem spell_append (f : Literal → Token) (ds es : Draft) :
    spell f (ds ++ es) = spell f ds ++ spell f es := by
  simp [spell]

@[simp]
theorem spell_ofTokens (f : Literal → Token) (ts : List Token) : spell f (ofTokens ts) = ts := by
  simp [spell, ofTokens, Function.comp_def, Cell.spell]

theorem spell_congr (f g : Literal → Token) (ds : Draft) (h : ∀ o ∈ literals ds, f o = g o) :
    spell f ds = spell g ds := by
  apply List.map_congr_left
  intro c hc
  cases c with
  | token t => rfl
  | literal o => exact h o (List.mem_filterMap.mpr ⟨_, hc, rfl⟩)

end Draft

/-! ## Terms -/

namespace Term

/-- The literal in a slot, for the term with number `k`. -/
def literal? (t : Term) (k n : Nat) : Option Literal :=
  match t.arguments[n]? with
  | some (.literal v) => some ⟨⟨k, n⟩, t.template, v⟩
  | _ => none

/-- The literals that the template of a term refers to, in the order of the text. -/
def literals (t : Term) (k : Nat) : List Literal :=
  (Template.slots t.parts).filterMap (t.literal? k)

/-- The cells of one part. A slot without an argument stands for nothing. -/
def partDraft (t : Term) (k : Nat) : Template.Part → Draft
  | .text s => [.token (.raw s)]
  | .slot n =>
    match t.arguments[n]? with
    | none => []
    | some (.field f) => Draft.ofTokens f.tokens
    | some (.literal v) => [.literal ⟨⟨k, n⟩, t.template, v⟩]

def draft (t : Term) (k : Nat) : Draft := t.parts.flatMap (t.partDraft k)

theorem literals_partsDraft (t : Term) (k : Nat) (ps : List Template.Part) :
    Draft.literals (ps.flatMap (t.partDraft k)) = (Template.slots ps).filterMap (t.literal? k) := by
  induction ps with
  | nil => rfl
  | cons p ps ih =>
    rw [List.flatMap_cons, Draft.literals_append, ih]
    cases p with
    | text s => rfl
    | slot n =>
      have hs : Template.slots (.slot n :: ps) = n :: Template.slots ps := rfl
      rw [hs, List.filterMap_cons]
      cases h : t.arguments[n]? with
      | none => simp [partDraft, literal?, h, Draft.literals]
      | some a =>
        cases a <;> simp [partDraft, literal?, h, Draft.literals, Cell.literal?, Draft.ofTokens]

theorem literals_draft (t : Term) (k : Nat) : Draft.literals (t.draft k) = t.literals k :=
  literals_partsDraft t k t.parts

/-- **Literals of a term.** They are the arguments in the slots of its template. -/
theorem mem_literals_iff (t : Term) (k : Nat) (o : Literal) :
    o ∈ t.literals k ↔
      o.site.term = k ∧ o.template = t.template ∧ o.site.slot ∈ Template.slots t.parts ∧
        t.arguments[o.site.slot]? = some (.literal o.value) := by
  obtain ⟨⟨k', n'⟩, s, v⟩ := o
  simp only [literals, List.mem_filterMap, literal?]
  constructor
  · rintro ⟨n, hn, h⟩
    split at h
    · next w hw =>
      simp only [Option.some.injEq, Literal.mk.injEq, Site.mk.injEq] at h
      obtain ⟨⟨rfl, rfl⟩, rfl, rfl⟩ := h
      exact ⟨rfl, rfl, hn, hw⟩
    · cases h
  · rintro ⟨rfl, rfl, hn, hv⟩
    exact ⟨n', hn, by rw [hv]⟩

end Term

/-! ## Lists of terms -/

/-- The literals of terms, the first of which has the number `k`. -/
def literalsFrom (k : Nat) : List Term → List Literal
  | [] => []
  | t :: ts => t.literals k ++ literalsFrom (k + 1) ts

theorem literalsFrom_append (k : Nat) (ts us : List Term) :
    literalsFrom k (ts ++ us) = literalsFrom k ts ++ literalsFrom (k + ts.length) us := by
  induction ts generalizing k with
  | nil => rfl
  | cons t ts ih =>
    have hk : k + 1 + ts.length = k + (t :: ts).length := by simp only [List.length_cons]; omega
    rw [List.cons_append, literalsFrom, ih, hk, literalsFrom, List.append_assoc]

/-- The sites of the literals that terms refer to, in the order of the text. A slot that a template
repeats comes as often as it is used, and one that it leaves out does not come. -/
def sites (ts : List Term) : List Site := (literalsFrom 0 ts).map Literal.site

/-- The literal that a site holds in a list of terms. -/
def literalAt (ts : List Term) (σ : Site) : Option Value :=
  match ts[σ.term]?.bind (·.arguments[σ.slot]?) with
  | some (.literal v) => some v
  | _ => none

/-- **Literals of a list of terms.** Each stands in a slot of the template of its term. -/
theorem mem_literalsFrom_iff (k : Nat) (ts : List Term) (o : Literal) :
    o ∈ literalsFrom k ts ↔
      ∃ i t, ts[i]? = some t ∧ o.site.term = k + i ∧ o.template = t.template ∧
        o.site.slot ∈ Template.slots t.parts ∧
          t.arguments[o.site.slot]? = some (.literal o.value) := by
  induction ts generalizing k with
  | nil => simp [literalsFrom]
  | cons t ts ih =>
    rw [literalsFrom, List.mem_append, Term.mem_literals_iff, ih]
    constructor
    · rintro (⟨hk, h⟩ | ⟨i, u, hu, hk, h⟩)
      · exact ⟨0, t, rfl, hk, h⟩
      · exact ⟨i + 1, u, hu, by omega, h⟩
    · rintro ⟨i, u, hu, hk, h⟩
      cases i with
      | zero =>
        obtain rfl : t = u := by simpa using hu
        exact Or.inl ⟨hk, h⟩
      | succ i => exact Or.inr ⟨i, u, by simpa using hu, by omega, h⟩

theorem term_bounds_of_mem {k : Nat} {ts : List Term} {o : Literal} (h : o ∈ literalsFrom k ts) :
    k ≤ o.site.term ∧ o.site.term < k + ts.length := by
  obtain ⟨i, t, ht, hk, _⟩ := (mem_literalsFrom_iff k ts o).mp h
  have hi := (List.getElem?_eq_some_iff.mp ht).1
  omega

theorem literalAt_of_mem {ts : List Term} {o : Literal} (h : o ∈ literalsFrom 0 ts) :
    literalAt ts o.site = some o.value := by
  obtain ⟨i, t, ht, hk, _, _, hv⟩ := (mem_literalsFrom_iff 0 ts o).mp h
  have hi : o.site.term = i := by omega
  simp [literalAt, hi, ht, hv]

/-! ## Predicates -/

namespace Predicate

/-- The term occurrences of a predicate, in the order of the text. -/
def terms : Predicate → List Term
  | term t => [t]
  | combine _ p q => p.terms ++ q.terms

/-- The draft of an operand; one that is combined itself stands in parentheses. -/
def operandDraft (p : Predicate) (ds : Draft) : Draft :=
  if p.isCombined then Draft.ofTokens [.lparen] ++ ds ++ Draft.ofTokens [.rparen] else ds

/-- The draft of a predicate whose first term has the number `k`. -/
def draft (k : Nat) : Predicate → Draft
  | term t => t.draft k
  | combine logic p q =>
    p.operandDraft (p.draft k) ++ Draft.ofTokens [.space, .keyword logic.keyword, .space] ++
      q.operandDraft (q.draft (k + p.terms.length))

@[simp]
theorem literals_operandDraft (p : Predicate) (ds : Draft) :
    Draft.literals (p.operandDraft ds) = Draft.literals ds := by
  unfold operandDraft
  split <;> simp

theorem literals_draft (p : Predicate) (k : Nat) :
    Draft.literals (p.draft k) = literalsFrom k p.terms := by
  induction p generalizing k with
  | term t => simp [draft, terms, literalsFrom, Term.literals_draft]
  | combine logic p q ihp ihq =>
    simp only [draft, terms, Draft.literals_append, literals_operandDraft,
      Draft.literals_ofTokens, List.append_nil, ihp, ihq, literalsFrom_append]

/-- The terms of a predicate that may be absent. -/
def termsOf (p : Option Predicate) : List Term :=
  (p.map terms).getD []

end Predicate

/-! ## Statements -/

namespace Join

def terms (j : Join) : List Term := Predicate.termsOf j.condition

def draft (k : Nat) (j : Join) : Draft :=
  let head := [.newline, .keyword j.kind.keyword, .space, .keyword .join, .newline, .indent 1] ++
    j.joined.tokens
  match j.condition with
  | none => Draft.ofTokens head
  | some p => Draft.ofTokens (head ++ [.space, .keyword .«on», .space]) ++ p.draft k

theorem literals_draft (j : Join) (k : Nat) :
    Draft.literals (j.draft k) = literalsFrom k j.terms := by
  unfold draft terms Predicate.termsOf
  cases j.condition with
  | none => simp [literalsFrom]
  | some p => simp [Predicate.literals_draft]

end Join

namespace Statement

/-- The drafts of joins one after the other. -/
def joinsDraft (k : Nat) : List Join → Draft
  | [] => []
  | j :: js => j.draft k ++ joinsDraft (k + j.terms.length) js

/-- The draft of a predicate as a clause, if there is one. -/
def predicateDraft (c : Keyword) (k : Nat) : Option Predicate → Draft
  | none => []
  | some p => Draft.ofTokens (clauseHead c) ++ p.draft k

def joinTerms (js : List Join) : List Term := js.flatMap Join.terms

/-- The term occurrences of a statement, in the order of the text. -/
def terms (s : Statement) : List Term :=
  joinTerms s.joins ++ Predicate.termsOf s.filter ++ Predicate.termsOf s.having

def draft (s : Statement) : Draft :=
  Draft.ofTokens s.headTokens ++ joinsDraft 0 s.joins ++
    predicateDraft .«where» (joinTerms s.joins).length s.filter ++
    Draft.ofTokens (listTokens .groupBy (s.groupBy.map Field.tokens)) ++
    predicateDraft .having ((joinTerms s.joins).length + (Predicate.termsOf s.filter).length)
      s.having ++
    Draft.ofTokens (listTokens .orderBy (s.orderBy.map OrderItem.tokens))

theorem literals_joinsDraft (k : Nat) (js : List Join) :
    Draft.literals (joinsDraft k js) = literalsFrom k (joinTerms js) := by
  induction js generalizing k with
  | nil => rfl
  | cons j js ih =>
    simp only [joinsDraft, joinTerms, List.flatMap_cons, Draft.literals_append,
      Join.literals_draft, ih, literalsFrom_append]

theorem literals_predicateDraft (c : Keyword) (k : Nat) (p : Option Predicate) :
    Draft.literals (predicateDraft c k p) = literalsFrom k (Predicate.termsOf p) := by
  cases p with
  | none => rfl
  | some p => simp [predicateDraft, Predicate.termsOf, Predicate.literals_draft]

theorem literals_draft (s : Statement) : Draft.literals s.draft = literalsFrom 0 s.terms := by
  simp only [draft, terms, Draft.literals_append, Draft.literals_ofTokens, List.nil_append,
    List.append_nil, literals_joinsDraft, literals_predicateDraft, literalsFrom_append,
    List.length_append, Nat.zero_add]

end Statement

/-! ## A slot used twice -/

/-- `v <> v`, of one argument. -/
def Term.doubled (v : Value) : Term := .ofParts [.slot 0, .text " <> ", .slot 0] [.literal v]

/-- Two terms with a slot used twice in each. -/
def Predicate.doubled (v w : Value) : Predicate :=
  .and (.term (.doubled v)) (.term (.doubled w))

/-- A statement filtered by the two terms. -/
def Statement.doubled (v w : Value) : Statement :=
  { Statement.ofRoot ⟨⟨"person", "Person", "Person", []⟩, "pe"⟩ with
    filter := some (.doubled v w) }

/-- Each term occurrence has sites of its own, and each use of a slot counts. -/
example (v w : Value) : sites (Statement.doubled v w).terms = [⟨0, 0⟩, ⟨0, 0⟩, ⟨1, 0⟩, ⟨1, 0⟩] :=
  rfl

end SelectQuery
