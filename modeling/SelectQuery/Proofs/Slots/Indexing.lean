import SelectQuery.Proofs.Fragments
import SelectQuery.Proofs.Slots

/-!
# Reading and rendering by index

`Term.fields` and `Term.fragment` pass over a slot without an argument. Here the arguments are taken
by index, so that such a slot stops the work, and the slots bound so far are kept in a table with a
place for each argument, which is read and written by index as well.

* `Indexing`: work that an index out of range stops;
* `Predicate.indexedFields`, `Predicate.indexedRender`, `Statement.indexedValidate`,
  `Statement.indexedRender`: reading, rendering and validation by index;
* `Term.indexedParts_eq`: the table goes along with the list of the slots bound so far;
* `Statement.indexedValidate_eq`, `Statement.indexedRender_eq`: in range, nothing is stopped, and
  the outcome is that without indices.
-/

namespace SelectQuery

/-- Work that takes elements out of lists by index, and may fail. An index out of range stops it,
and then there is no outcome at all. -/
abbrev Indexing := ExceptT SelectError Option

namespace Indexing

variable {α β : Type}

/-- What the work comes to, unless an index has stopped it. -/
def outcome (x : Indexing α) : Option (Except SelectError α) := x.run

/-- Work that an index has stopped. -/
def stopped : Indexing α := ExceptT.mk none

/-- The element at an index. -/
def element (xs : List α) (n : Nat) : Indexing α :=
  match xs[n]? with
  | some a => return a
  | none => stopped

/-- The list with another element at an index. -/
def replace (xs : List α) (n : Nat) (a : α) : Indexing (List α) :=
  if n < xs.length then return xs.set n a else stopped

end Indexing

open Indexing (element replace)

/-! ## Terms and predicates -/

namespace Term

def indexedFields (t : Term) : Indexing (List Field) := do
  let arguments ← (Template.slots t.parts).mapM (element t.arguments)
  return arguments.filterMap Argument.field?

/-- Renders parts of a term. The table has the indices of the slots bound so far. It is read also
where placeholders are positional and what it says does not matter. -/
def indexedParts (style : ParamStyle) (t : Term) :
    List (Option Nat) → Nat → List Template.Part → Indexing Fragment
  | _, _, [] => return {}
  | table, next, .text s :: ps => do
    let rest ← t.indexedParts style table next ps
    return rest.after [.raw s]
  | table, next, .slot n :: ps => do
    match ← element t.arguments n with
    | .field f =>
      let rest ← t.indexedParts style table next ps
      return rest.after f.tokens
    | .literal v =>
      if style.isInline then
        match v.literal? with
        | none => throw (t.unwritable v)
        | some s =>
          let rest ← t.indexedParts style table next ps
          return rest.after [.literal s]
      else
        let bound ← element table n
        match (if style.isPositional then none else bound) with
        | some i =>
          let rest ← t.indexedParts style table next ps
          return rest.after [.placeholder i]
        | none =>
          let table ← replace table n (some next)
          let rest ← t.indexedParts style table (next + 1) ps
          return ⟨[.placeholder next], [⟨next, v⟩]⟩ ++ rest

def indexedFragment (style : ParamStyle) (next : Nat) (t : Term) : Indexing Fragment :=
  t.indexedParts style (List.replicate t.arguments.length none) next t.parts

end Term

namespace Predicate

def indexedFields : Predicate → Indexing (List Field)
  | term t => t.indexedFields
  | combine _ p q => do
    let fs ← p.indexedFields
    let gs ← q.indexedFields
    return fs ++ gs

def indexedReferences (p : Predicate) (a : Alias) : Indexing Bool := do
  let fs ← p.indexedFields
  return fs.any (·.qualifier = a)

def indexedFragment (style : ParamStyle) : Nat → Predicate → Indexing Fragment
  | next, term t => t.indexedFragment style next
  | next, combine logic p q => do
    let l ← p.indexedFragment style next
    let r ← q.indexedFragment style (next + l.parameters.length)
    return {
      tokens := p.operand l.tokens ++ [.space, .keyword logic.keyword, .space] ++
        q.operand r.tokens
      parameters := l.parameters ++ r.parameters }

def indexedRender (p : Predicate) (l : Layout) : Indexing Rendered := do
  let f ← p.indexedFragment l.paramStyle 0
  return f.rendered l

end Predicate

/-! ## Statements -/

def Join.indexedFragment (style : ParamStyle) (next : Nat) (j : Join) : Indexing Fragment :=
  match j.condition with
  | none => return ⟨j.headTokens, []⟩
  | some p => do
    let body ← p.indexedFragment style next
    return body.after (j.headTokens ++ [.space, .keyword .«on», .space])

namespace Statement

variable (s : Statement)

def checkFields (c : Clause) (fs : List Field) : Indexing Unit :=
  forM fs fun f => liftM (Check.run s (.field c f))

def checkPredicate (c : Clause) : Option Predicate → Indexing Unit
  | none => return
  | some p => do s.checkFields c (← p.indexedFields)

/-- The condition is read for its fields, and again for the alias that is joined. -/
def checkJoin (j : Join) : Indexing Unit :=
  match j.condition with
  | none => return
  | some p => do
    s.checkFields .joinCondition (← p.indexedFields)
    if ← p.indexedReferences j.joined then return else throw (Check.fault s (.joined j p))

/-- Validation, clause by clause. -/
def indexedValidate : Indexing Unit := do
  liftM (Check.run s .root)
  s.checkFields .selectList s.fields
  forM s.joins s.checkJoin
  s.checkPredicate .filter s.filter
  s.checkFields .groupBy s.groupBy
  s.checkPredicate .having s.having
  s.checkFields .orderBy (s.orderBy.map OrderItem.field)

def indexedJoins (style : ParamStyle) : Nat → List Join → Indexing Fragment
  | _, [] => return {}
  | next, j :: js => do
    let f ← j.indexedFragment style next
    let rest ← indexedJoins style (next + f.parameters.length) js
    return f ++ rest

def indexedClause (style : ParamStyle) (k : Keyword) (next : Nat) :
    Option Predicate → Indexing Fragment
  | none => return {}
  | some p => do
    let body ← p.indexedFragment style next
    return body.after (clauseHead k)

def indexedFragment (style : ParamStyle) : Indexing Fragment := do
  let joins ← indexedJoins style 0 s.joins
  let filter ← indexedClause style .«where» joins.parameters.length s.filter
  let having ←
    indexedClause style .having (joins.parameters.length + filter.parameters.length) s.having
  return {
    tokens := s.headTokens ++ joins.tokens ++ filter.tokens ++
      listTokens .groupBy (s.groupBy.map Field.tokens) ++ having.tokens ++
      listTokens .orderBy (s.orderBy.map OrderItem.tokens)
    parameters := joins.parameters ++ filter.parameters ++ having.parameters }

def indexedRender (l : Layout) : Indexing Rendered := do
  s.indexedValidate
  let f ← s.indexedFragment l.paramStyle
  return f.rendered l

end Statement

/-! ## Terms in range -/

namespace Indexing

variable {α : Type} {xs : List α} {n : Nat}

theorem element_of_getElem? {a : α} (h : xs[n]? = some a) : element xs n = pure a := by
  rw [element, h]

theorem mapM_element {ns : List Nat} (h : ∀ n ∈ ns, n < xs.length) :
    ns.mapM (element xs) = pure (ns.filterMap (xs[·]?)) := by
  induction ns with
  | nil => rfl
  | cons n ns ih =>
    obtain ⟨hn, hns⟩ := List.forall_mem_cons.mp h
    have hx := List.getElem?_eq_getElem hn
    rw [List.mapM_cons, element_of_getElem? hx, ih hns, List.filterMap_cons, hx]
    rfl

theorem forM_liftM (f : α → Except SelectError Unit) (xs : List α) :
    (forM xs fun x => (liftM (f x) : Indexing Unit)) = liftM (forM xs f) := by
  induction xs with
  | nil => rfl
  | cons x xs ih => rw [List.forM_cons, List.forM_cons, ih, liftM_bind]

end Indexing

namespace Term

variable {t : Term}

theorem indexedFields_eq (h : t.InRange) : t.indexedFields = pure t.fields := by
  rw [indexedFields, Indexing.mapM_element h, pure_bind, List.filterMap_filterMap]
  rfl

/-- The table that stands for the slots bound so far. -/
def table (t : Term) (bound : List (Nat × Nat)) : List (Option Nat) :=
  (List.range t.arguments.length).map fun n => bound.lookup n

theorem table_nil (t : Term) : t.table [] = List.replicate t.arguments.length none := by
  simp [table, List.map_const']

theorem element_table {bound : List (Nat × Nat)} {n : Nat} (h : n < t.arguments.length) :
    element (t.table bound) n = pure (bound.lookup n) := by
  apply Indexing.element_of_getElem?
  rw [table, List.getElem?_map, List.getElem?_range h, Option.map_some]

theorem replace_table {bound : List (Nat × Nat)} {n i : Nat} (h : n < t.arguments.length) :
    replace (t.table bound) n (some i) = pure (t.table ((n, i) :: bound)) := by
  have hl : n < (t.table bound).length := by simpa [table] using h
  have ht : (t.table bound).set n (some i) = t.table ((n, i) :: bound) := by
    apply List.ext_getElem (by simp [table])
    intro m _ _
    simp only [table, List.getElem_set, List.getElem_map, List.getElem_range, List.lookup_cons]
    by_cases e : n = m
    · simp [e]
    · have hb : (m == n) = false := by simp [Ne.symm e]
      simp [e, hb]
  rw [replace, if_pos hl, ht]

variable {style : ParamStyle}

/-- **Rendering by index goes along with rendering** while the table stands for the slots bound so
far. Binding a slot writes one place of the table, and puts one entry in front of the list. -/
theorem indexedParts_eq {parts : List Template.Part}
    (h : ∀ n ∈ Template.slots parts, n < t.arguments.length) (bound : List (Nat × Nat))
    (next : Nat) : t.indexedParts style (t.table bound) next parts =
      liftM (t.partsFragment style bound next parts) := by
  induction parts generalizing bound next with
  | nil => rfl
  | cons part parts ih =>
    cases part with
    | text s =>
      rw [indexedParts, partsFragment, ih h, liftM_bind]
      rfl
    | slot n =>
      have hn := (List.forall_mem_cons.mp h).1
      have hs := (List.forall_mem_cons.mp h).2
      have ha := List.getElem?_eq_getElem hn
      rw [indexedParts, partsFragment, Indexing.element_of_getElem? ha, pure_bind, ha]
      cases t.arguments[n] with
      | field f =>
        simp only
        rw [ih hs, liftM_bind]
        rfl
      | literal v =>
        simp only
        cases hi : style.isInline with
        | true =>
          simp only [↓reduceIte]
          cases v.literal? with
          | none => rfl
          | some s =>
            simp only
            rw [ih hs, liftM_bind]
            rfl
        | false =>
          simp only [Bool.false_eq_true, ↓reduceIte]
          rw [element_table hn, pure_bind]
          cases (if style.isPositional then none else bound.lookup n) with
          | some i =>
            simp only
            rw [ih hs, liftM_bind]
            rfl
          | none =>
            simp only
            rw [replace_table hn, pure_bind, ih hs, liftM_bind]
            rfl

theorem indexedFragment_eq (h : t.InRange) (next : Nat) :
    t.indexedFragment style next = liftM (t.fragment style next) := by
  rw [indexedFragment, ← table_nil]
  exact indexedParts_eq h [] next

end Term

/-! ## Predicates in range -/

namespace Predicate

variable {p : Predicate}

/-- **In range, reading comes to the fields.** -/
theorem indexedFields_eq (h : p.InRange) : p.indexedFields = pure p.fields := by
  induction p with
  | term t => exact Term.indexedFields_eq (inRange_term.mp h)
  | combine logic p q ihp ihq =>
    obtain ⟨hp, hq⟩ := inRange_combine.mp h
    rw [indexedFields, ihp hp, ihq hq]
    rfl

theorem indexedReferences_eq (h : p.InRange) (a : Alias) :
    p.indexedReferences a = pure (p.references a) := by
  rw [indexedReferences, indexedFields_eq h, pure_bind, references]

theorem indexedFragment_eq (h : p.InRange) (style : ParamStyle) (next : Nat) :
    p.indexedFragment style next = liftM (p.fragment style next) := by
  induction p generalizing next with
  | term t => exact Term.indexedFragment_eq (inRange_term.mp h) next
  | combine logic p q ihp ihq =>
    obtain ⟨hp, hq⟩ := inRange_combine.mp h
    rw [indexedFragment, fragment]
    simp only [ihp hp, ihq hq, liftM_bind, liftM_pure]

/-- **In range, a predicate renders by index as it does without.** -/
theorem indexedRender_eq (h : p.InRange) (l : Layout) :
    p.indexedRender l = liftM (p.render l) := by
  have hr : p.render l = (p.fragment l.paramStyle 0 >>= fun f => pure (f.rendered l)) := by
    rw [render]
    cases p.fragment l.paramStyle 0 <;> rfl
  rw [indexedRender, indexedFragment_eq h, hr]
  simp only [liftM_bind, liftM_pure]

end Predicate

/-! ## Statements in range -/

theorem Join.indexedFragment_eq {j : Join} (h : ∀ p ∈ j.condition, p.InRange) (style : ParamStyle)
    (next : Nat) : j.indexedFragment style next = liftM (j.fragment style next) := by
  unfold indexedFragment fragment
  cases hc : j.condition with
  | none => rfl
  | some p =>
    simp only [Predicate.indexedFragment_eq (h p hc), liftM_bind, liftM_pure]
    rfl

namespace Statement

variable {s : Statement} {style : ParamStyle}

theorem indexedJoins_eq {js : List Join} (h : ∀ j ∈ js, ∀ p ∈ j.condition, p.InRange)
    (next : Nat) : indexedJoins style next js = liftM (joinsFragment style next js) := by
  induction js generalizing next with
  | nil => rfl
  | cons j js ih =>
    obtain ⟨hj, hjs⟩ := List.forall_mem_cons.mp h
    rw [indexedJoins, joinsFragment]
    simp only [Join.indexedFragment_eq hj, ih hjs, liftM_bind, liftM_pure]

theorem indexedClause_eq {p : Option Predicate} (h : ∀ q ∈ p, q.InRange) (k : Keyword)
    (next : Nat) : indexedClause style k next p = liftM (predicateFragment style k next p) := by
  cases p with
  | none => rfl
  | some p =>
    rw [indexedClause, predicateFragment]
    simp only [Predicate.indexedFragment_eq (h p rfl), liftM_bind, liftM_pure]

theorem indexedFragment_eq (h : s.InRange) (style : ParamStyle) :
    s.indexedFragment style = liftM (s.fragment style) := by
  obtain ⟨hj, hf, hh⟩ := inRange_iff.mp h
  rw [indexedFragment, fragment]
  simp only [indexedJoins_eq hj, indexedClause_eq hf, indexedClause_eq hh, liftM_bind, liftM_pure]

theorem checkFields_eq (s : Statement) (c : Clause) (fs : List Field) :
    s.checkFields c fs = liftM (forM (fs.map (Check.field c)) (Check.run s)) := by
  rw [checkFields, Indexing.forM_liftM, List.forM_map]

theorem checkPredicate_eq {p : Option Predicate} (h : ∀ q ∈ p, q.InRange) (c : Clause) :
    s.checkPredicate c p = liftM (forM ((fieldsOf p).map (Check.field c)) (Check.run s)) := by
  cases p with
  | none => rfl
  | some p =>
    rw [checkPredicate, Predicate.indexedFields_eq (h p rfl), pure_bind, checkFields_eq]
    rfl

theorem checkJoin_eq {j : Join} (h : ∀ p ∈ j.condition, p.InRange) :
    s.checkJoin j = liftM (forM (joinChecks j) (Check.run s)) := by
  unfold checkJoin joinChecks
  cases hc : j.condition with
  | none => rfl
  | some p =>
    have hr : (if p.references j.joined then return else throw (Check.fault s (.joined j p)) :
        Indexing Unit) = liftM (Check.run s (.joined j p)) := by
      rw [Check.run, Check.passes]
      split <;> rfl
    have hl : forM [Check.joined j p] (Check.run s) = Check.run s (.joined j p) := by
      simp only [List.forM_cons, List.forM_nil, bind_pure_unit]
    simp only [Predicate.indexedFields_eq (h p hc), Predicate.indexedReferences_eq (h p hc),
      pure_bind]
    rw [checkFields_eq, hr, List.forM_append, liftM_bind, hl]

theorem checkJoins_eq {js : List Join} (h : ∀ j ∈ js, ∀ p ∈ j.condition, p.InRange) :
    forM js s.checkJoin = liftM (forM (js.flatMap joinChecks) (Check.run s)) := by
  induction js with
  | nil => rfl
  | cons j js ih =>
    obtain ⟨hj, hjs⟩ := List.forall_mem_cons.mp h
    rw [List.forM_cons, checkJoin_eq hj, ih hjs, List.flatMap_cons, List.forM_append, liftM_bind]

/-- **In range, validation by index is validation**: the checks of one clause after the other are
the list of all checks. -/
theorem indexedValidate_eq (h : s.InRange) : s.indexedValidate = liftM s.validate := by
  obtain ⟨hj, hf, hh⟩ := inRange_iff.mp h
  have hv : s.validate = forM s.checks (Check.run s) := s.validate_eq_forM
  rw [indexedValidate, hv, checks]
  simp only [List.forM_cons, List.forM_append, liftM_bind, checkFields_eq, checkJoins_eq hj,
    checkPredicate_eq hf, checkPredicate_eq hh]

/-- **In range, a statement renders by index as it does without.** -/
theorem indexedRender_eq (h : s.InRange) (l : Layout) :
    s.indexedRender l = liftM (s.render l) := by
  rw [indexedRender, render, indexedValidate_eq h, indexedFragment_eq h]
  simp only [liftM_bind, liftM_pure]

end Statement

end SelectQuery
