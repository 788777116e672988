import SelectQuery.Proofs.Draft
import SelectQuery.Proofs.Fragments
import SelectQuery.Proofs.Reading.Precedence

/-!
# Rendered predicates are read as their trees

* `ReadsAs`: the reading that a predicate should get, leaf by leaf;
* `Term.isLeaf_tokens`: a term renders to a leaf, under every style;
* `predicate_reads_back`: the tokens of a predicate have that reading and no other, so they
  determine the shape of the tree and its truth value.

That an operand stands in parentheses just when it is combined enters in one place, the case of
`ReadsAs.combine` in `ReadsAs.isPredicate_and_isOperand`.
-/

namespace SelectQuery

/-! ## Trees and readings -/

/-- A tree without its leaves. -/
inductive Shape where
  | leaf
  | combine (logic : Logic) (left right : Shape)
  deriving DecidableEq, Repr

namespace Predicate

def shape : Predicate → Shape
  | term _ => .leaf
  | combine logic p q => .combine logic p.shape q.shape

/-- The value of a predicate whose first term is number `k` of the text. -/
def truth (a : Nat → Bool) : Nat → Predicate → Bool
  | k, term _ => a k
  | k, combine logic p q => logic.apply (p.truth a k) (q.truth a (k + p.terms.length))

/-- The reading of an operand; one that is combined itself is a group. -/
def grouped (p : Predicate) (r : Reading) : Reading :=
  if p.isCombined then .group r else r

end Predicate

/-- The shape of the tree that is read; parentheses do not count. -/
def Reading.shape : Reading → Shape
  | leaf _ => .leaf
  | group r => r.shape
  | combine logic l r => .combine logic l.shape r.shape

/-- The reading of a predicate rendered after `next` values: connectives, nesting and order are
those of the tree, and each leaf has the tokens of its own term. -/
inductive ReadsAs (style : ParamStyle) : Nat → Predicate → Reading → Prop
  | term {next : Nat} {t : Term} {f : Fragment} (h : t.fragment style next = .ok f) :
      ReadsAs style next (.term t) (.leaf f.tokens)
  | combine {next : Nat} {logic : Logic} {p q : Predicate} {f : Fragment} {r s : Reading}
      (h : p.fragment style next = .ok f) (hp : ReadsAs style next p r)
      (hq : ReadsAs style (next + f.parameters.length) q s) :
      ReadsAs style next (.combine logic p q) (.combine logic (p.grouped r) (q.grouped s))

namespace Predicate

theorem shape_grouped (p : Predicate) (r : Reading) : (p.grouped r).shape = r.shape := by
  unfold grouped
  split <;> rfl

theorem leaves_grouped (p : Predicate) (r : Reading) : (p.grouped r).leaves = r.leaves := by
  unfold grouped
  split <;> rfl

theorem truth_grouped (p : Predicate) (r : Reading) (a : Nat → Bool) (k : Nat) :
    (p.grouped r).truth a k = r.truth a k := by
  unfold grouped
  split <;> rfl

theorem yield_grouped (p : Predicate) (r : Reading) :
    (p.grouped r).yield = p.operand r.yield := by
  unfold grouped operand
  split <;> rfl

end Predicate

namespace ReadsAs

variable {style : ParamStyle} {next : Nat} {p : Predicate} {r : Reading}

theorem shape_eq (h : ReadsAs style next p r) : r.shape = p.shape := by
  induction h with
  | term _ => rfl
  | combine _ _ _ ihp ihq =>
    rw [Reading.shape, Predicate.shape_grouped, Predicate.shape_grouped, ihp, ihq, Predicate.shape]

theorem leaves_eq (h : ReadsAs style next p r) : r.leaves = p.terms.length := by
  induction h with
  | term _ => rfl
  | combine _ _ _ ihp ihq =>
    rw [Reading.leaves, Predicate.leaves_grouped, Predicate.leaves_grouped, ihp, ihq,
      Predicate.terms, List.length_append]

theorem truth_eq (h : ReadsAs style next p r) (a : Nat → Bool) (k : Nat) :
    r.truth a k = p.truth a k := by
  induction h generalizing k with
  | term _ => rfl
  | combine _ hp _ ihp ihq =>
    rw [Reading.truth, Predicate.truth_grouped, Predicate.truth_grouped, Predicate.leaves_grouped,
      hp.leaves_eq, ihp, ihq, Predicate.truth]

end ReadsAs

/-! ## Leaves -/

/-- The parentheses of an aggregate are those of a call. -/
theorem Field.isLeaf_tokens (f : Field) : IsLeaf f.tokens := by
  unfold Field.tokens
  cases f.aggregate with
  | none => exact ⟨_, rfl, rfl⟩
  | some g => exact ⟨_, rfl, rfl⟩

namespace Term

variable {t : Term}

theorem Spells.isLeaf {part : Template.Part} {ts : List Token} (h : t.Spells part ts) :
    IsLeaf ts := by
  cases h with
  | absent _ => exact isLeaf_nil
  | field _ => exact Field.isLeaf_tokens _
  | text _ | inlined _ _ | bound _ _ => exact ⟨_, rfl, rfl⟩

theorem Spelled.isLeaf {parts : List Template.Part} {ts : List Token} (h : t.Spelled parts ts) :
    IsLeaf ts := by
  induction h with
  | nil => exact isLeaf_nil
  | cons hp _ ih => exact isLeaf_append hp.isLeaf ih

/-- **A term renders to a leaf.** -/
theorem isLeaf_tokens {style : ParamStyle} {next : Nat} {f : Fragment}
    (h : t.fragment style next = .ok f) : IsLeaf f.tokens :=
  (spelled_of_fragment h).isLeaf

end Term

/-! ## The reading of a predicate -/

namespace ReadsAs

variable {style : ParamStyle} {next : Nat} {p : Predicate}

/-- What is rendered has a reading, which yields it. -/
theorem exists_of_fragment {f : Fragment} (h : p.fragment style next = .ok f) :
    ∃ r, ReadsAs style next p r ∧ r.yield = f.tokens := by
  induction p generalizing next f with
  | term t => exact ⟨.leaf f.tokens, .term h, rfl⟩
  | combine logic p q ihp ihq =>
    obtain ⟨g, k, hg, hk, -, he⟩ := Predicate.fragment_combine h
    obtain ⟨r, hr, hry⟩ := ihp hg
    obtain ⟨s, hs, hsy⟩ := ihq hk
    refine ⟨_, .combine hg hr hs, ?_⟩
    rw [Reading.yield, Predicate.yield_grouped, Predicate.yield_grouped, hry, hsy, he, connective]

/-- An operand that is combined stands in parentheses, so each part is in its place. -/
theorem isPredicate_and_isOperand {r : Reading} (h : ReadsAs style next p r) :
    r.IsPredicate ∧ (p.grouped r).IsOperand := by
  induction h with
  | term h => exact ⟨.leaf (Term.isLeaf_tokens h), .leaf (Term.isLeaf_tokens h)⟩
  | @combine _ logic p q _ r s _ _ _ ihp ihq =>
    have hp : (Reading.combine logic (p.grouped r) (q.grouped s)).IsPredicate :=
      .combine ihp.2 ihq.2
    exact ⟨hp, .group hp⟩

theorem isPredicate {r : Reading} (h : ReadsAs style next p r) : r.IsPredicate :=
  h.isPredicate_and_isOperand.1

end ReadsAs

/-- **A rendered predicate is read as its tree.** Its tokens have one reading, that of the tree.
Predicates with the same tokens have the same shape, and with AND binding tighter than OR the
tokens have the value of the tree. -/
theorem predicate_reads_back {style : ParamStyle} {next : Nat} {p : Predicate} {f : Fragment}
    (h : p.fragment style next = .ok f) :
    (∃ r, ReadsAs style next p r ∧
      ∀ r' : Reading, r'.IsPredicate ∧ r'.yield = f.tokens ↔ r' = r) ∧
    (∀ (style' : ParamStyle) (next' : Nat) (q : Predicate) (g : Fragment),
      q.fragment style' next' = .ok g → g.tokens = f.tokens → q.shape = p.shape) ∧
    ∀ a, Evaluator.evaluate a f.tokens = some (p.truth a 0) := by
  obtain ⟨r, hr, hy⟩ := ReadsAs.exists_of_fragment h
  refine ⟨⟨r, hr, fun r' => ⟨?_, ?_⟩⟩, ?_, ?_⟩
  · rintro ⟨hp, hy'⟩
    exact Reading.yield_injective hp hr.isPredicate (hy'.trans hy.symm)
  · rintro rfl
    exact ⟨hr.isPredicate, hy⟩
  · intro style' next' q g hq hg
    obtain ⟨s, hs, hsy⟩ := ReadsAs.exists_of_fragment hq
    have he : s = r :=
      Reading.yield_injective hs.isPredicate hr.isPredicate (hsy.trans (hg.trans hy.symm))
    rw [← hs.shape_eq, ← hr.shape_eq, he]
  · intro a
    rw [← hy, Evaluator.evaluate_yield a hr.isPredicate, hr.truth_eq]

/-- More than `v` of a column and nothing, or a slot used twice. -/
def Predicate.nested (v w : Value) : Predicate :=
  let person : Entity := ⟨"person", "Person", "Person", []⟩
  let count : Field := ⟨person, .int, "id", ⟨person, "pe"⟩, some .count⟩
  .or
    (.and (.term (.ofParts [.slot 0, .text " > ", .slot 1] [.field count, .literal v]))
      (.term (.ofParts [] [])))
    (.term (.doubled w))

/-- A leaf with a call in it, an empty leaf, and a group. -/
theorem predicate_reads_back_nested :
    ∃ f, (Predicate.nested (.bool true) .null).fragment .dollar 4 = .ok f ∧
      (∃ r, ReadsAs .dollar 4 (.nested (.bool true) .null) r ∧
        ∀ r' : Reading, r'.IsPredicate ∧ r'.yield = f.tokens ↔ r' = r) ∧
      (∀ (style' : ParamStyle) (next' : Nat) (q : Predicate) (g : Fragment),
        q.fragment style' next' = .ok g → g.tokens = f.tokens →
          q.shape = .combine .or (.combine .and .leaf .leaf) .leaf) ∧
      ∀ a, Evaluator.evaluate a f.tokens = some ((a 0 && a 1) || a 2) :=
  ⟨_, rfl, predicate_reads_back rfl⟩

end SelectQuery
