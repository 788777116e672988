import SelectQuery.Proofs.Reading

/-!
# Precedence

A token stream gets a truth value from the values of its leaves, AND binding tighter than OR.
`Evaluator.evaluate` goes from token to token with a stack of open parentheses and knows nothing
of readings.

* `Evaluator.evaluate_yield`: the stream of a reading has the value of the reading.

The grammar has no reading of `x AND y OR z`, so a reading never needs the precedence
(`Evaluator.evaluate_or_and`). What is shown is that nothing goes wrong where a reader has it.
-/

namespace SelectQuery

def Logic.apply : Logic → Bool → Bool → Bool
  | and => (· && ·)
  | or => (· || ·)

namespace Reading

/-- The number of leaves. -/
def leaves : Reading → Nat
  | leaf _ => 1
  | group r => r.leaves
  | combine _ l r => l.leaves + r.leaves

/-- The value of a reading whose first leaf is number `k` of the stream. -/
def truth (a : Nat → Bool) : Nat → Reading → Bool
  | k, leaf _ => a k
  | k, group r => r.truth a k
  | k, combine logic l r => logic.apply (l.truth a k) (r.truth a (k + l.leaves))

end Reading

/-! ## The evaluator -/

/-- What has been seen of an operand. -/
inductive Seen where
  | blank
  | text
  | group (value : Bool)

namespace Seen

/-- Reads a token that is neither a connective nor a parenthesis of a group. -/
def read : Seen → Token → Option Seen
  | group b, t => if t = .space then some (group b) else none
  | o, t => some (if t = .space then o else text)

def IsGroup : Seen → Prop
  | group _ => True
  | _ => False

theorem exists_read {o : Seen} (h : ¬ o.IsGroup) (t : Token) :
    ∃ o', o.read t = some o' ∧ ¬ o'.IsGroup := by
  cases o with
  | blank =>
    refine ⟨_, rfl, ?_⟩
    by_cases ht : t = .space
    · rw [if_pos ht]
      exact id
    · rw [if_neg ht]
      exact id
  | text =>
    refine ⟨_, rfl, ?_⟩
    rw [ite_self]
    exact id
  | group b => exact absurd trivial h

end Seen

/-- What has been seen between two parentheses: the operands before the last OR, those after it,
and the present one. -/
structure Level where
  disjunction : Bool := false
  conjunction : Bool := true
  operand : Seen := .blank

/-- The value at the end of a level. -/
def Level.value (l : Level) : Bool := l.disjunction || l.conjunction

structure Evaluator where
  cursor : Cursor := .start
  /-- The number of leaves behind. -/
  leaves : Nat := 0
  level : Level := {}
  /-- The levels around the present one. -/
  outer : List Level := []

namespace Evaluator

variable (a : Nat → Bool)

/-- Takes the value of an operand that spans `n` leaves. -/
def take (m : Evaluator) (b : Bool) (n : Nat) : Evaluator :=
  { m with
    cursor := .start
    leaves := m.leaves + n
    level := ⟨m.level.disjunction, m.level.conjunction && b, .blank⟩ }

/-- Ends an operand. Whatever is not a group is a leaf, even without a token. -/
def endOperand (m : Evaluator) : Evaluator :=
  match m.level.operand with
  | .group b => m.take b 0
  | _ => m.take (a m.leaves) 1

def connect (m : Evaluator) : Logic → Evaluator
  | .and => m
  | .or => { m with level := { disjunction := m.level.value } }

/-- Reads a connective or a parenthesis of a group. -/
def mark (m : Evaluator) : Token → Option Evaluator
  | .keyword .and => some ((m.endOperand a).connect .and)
  | .keyword .or => some ((m.endOperand a).connect .or)
  | .lparen =>
    match m.level.operand with
    | .blank => some { leaves := m.leaves, outer := m.level :: m.outer }
    | _ => none
  | .rparen =>
    match m.outer with
    | [] => none
    | l :: ls =>
      let inner := m.endOperand a
      some {
        leaves := inner.leaves
        level := { l with operand := .group inner.level.value }
        outer := ls }
  | _ => none

def step (m : Evaluator) (t : Token) : Option Evaluator :=
  match m.cursor.step t with
  | some c => (m.level.operand.read t).map fun o =>
    { m with cursor := c, level := { m.level with operand := o } }
  | none => if m.cursor.calls = 0 then m.mark a t else none

def run (m : Evaluator) : List Token → Option Evaluator
  | [] => some m
  | t :: ts => (m.step a t).bind (run · ts)

/-- **The value of a token stream** whose leaves have the values `a 0`, `a 1` and so on. -/
def evaluate (ts : List Token) : Option Bool :=
  match ({} : Evaluator).run a ts with
  | some m =>
    if m.cursor.calls = 0 ∧ m.outer = [] then some (m.endOperand a).level.value else none
  | none => none

theorem run_append (m : Evaluator) (ts us : List Token) :
    m.run a (ts ++ us) = (m.run a ts).bind (run a · us) := by
  induction ts generalizing m with
  | nil => rfl
  | cons t ts ih =>
    rw [List.cons_append, run, run]
    cases m.step a t with
    | none => rfl
    | some m' => exact ih m'

theorem run_append_of_run {m m' : Evaluator} {ts us : List Token} (h : m.run a ts = some m') :
    m.run a (ts ++ us) = m'.run a us := by
  rw [run_append, h]
  rfl

/-! ## Leaves, connectives and groups -/

/-- A leaf is read as its cursor reads it. -/
theorem run_of_cursor_run {m : Evaluator} {c : Cursor} {ts : List Token}
    (h : m.cursor.run ts = some c) (ho : ¬ m.level.operand.IsGroup) :
    ∃ o : Seen, ¬ o.IsGroup ∧
      m.run a ts = some { m with cursor := c, level := { m.level with operand := o } } := by
  induction ts generalizing m with
  | nil =>
    obtain rfl := Option.some.inj h
    exact ⟨m.level.operand, ho, rfl⟩
  | cons t ts ih =>
    obtain ⟨d, hd, hr⟩ := Cursor.run_cons_eq_some_iff.mp h
    obtain ⟨o, hread, hg⟩ := Seen.exists_read ho t
    have hstep : m.step a t =
        some { m with cursor := d, level := { m.level with operand := o } } := by
      rw [step, hd, hread]
      rfl
    obtain ⟨o', hg', hrun⟩ :=
      ih (m := { m with cursor := d, level := { m.level with operand := o } }) hr hg
    refine ⟨o', hg', ?_⟩
    rw [run, hstep]
    exact hrun

theorem endOperand_of_not_isGroup {m : Evaluator} (h : ¬ m.level.operand.IsGroup) :
    m.endOperand a = m.take (a m.leaves) 1 := by
  unfold endOperand
  cases ho : m.level.operand with
  | blank => rfl
  | text => rfl
  | group b =>
    rw [ho] at h
    exact absurd trivial h

theorem run_leaf {ts : List Token} (h : IsLeaf ts) (k : Nat) (x y : Bool) (outer : List Level) :
    ∃ m : Evaluator, run a ⟨.start, k, ⟨x, y, .blank⟩, outer⟩ ts = some m ∧
      m.cursor.calls = 0 ∧ m.outer = outer ∧
      m.endOperand a = ⟨.start, k + 1, ⟨x, y && a k, .blank⟩, outer⟩ := by
  obtain ⟨c, hc, h0⟩ := h
  obtain ⟨o, hg, hrun⟩ :=
    run_of_cursor_run a (m := ⟨.start, k, ⟨x, y, .blank⟩, outer⟩) hc id
  refine ⟨_, hrun, h0, rfl, ?_⟩
  rw [endOperand_of_not_isGroup a hg]
  rfl

theorem run_connective {m : Evaluator} (h : m.cursor.calls = 0) (logic : Logic) :
    m.run a (connective logic) = some ((m.endOperand a).connect logic) := by
  obtain ⟨⟨b, n⟩, k, ⟨x, y, o⟩, outer⟩ := m
  obtain rfl : n = 0 := h
  cases logic <;> cases o <;> rfl

theorem run_lparen (leaves : Nat) (x y : Bool) (outer : List Level) (ts : List Token) :
    run a ⟨.start, leaves, ⟨x, y, .blank⟩, outer⟩ (.lparen :: ts) =
      run a { leaves := leaves, outer := ⟨x, y, .blank⟩ :: outer } ts := rfl

theorem run_rparen {m : Evaluator} {l : Level} {ls : List Level} (h : m.cursor.calls = 0)
    (ho : m.outer = l :: ls) :
    m.run a [.rparen] = some {
      leaves := (m.endOperand a).leaves
      level := { l with operand := .group (m.endOperand a).level.value }
      outer := ls } := by
  have hc : m.cursor.step .rparen = none := by rw [Cursor.step, if_pos h]
  simp only [run, step, hc, h, ↓reduceIte, mark, ho, Option.bind_some]

/-- Behind the first operand of a level, the connective prepares the value of the two. -/
theorem exists_connect (logic : Logic) (k : Nat) (u : Bool) (outer : List Level) :
    ∃ x y, connect ⟨.start, k, ⟨false, u, .blank⟩, outer⟩ logic =
        ⟨.start, k, ⟨x, y, .blank⟩, outer⟩ ∧
      ∀ v, (x || (y && v)) = logic.apply u v := by
  cases logic with
  | and => exact ⟨false, u, rfl, fun v => Bool.false_or (u && v)⟩
  | or =>
    refine ⟨u, true, by rw [connect, Level.value, Bool.false_or], fun v => ?_⟩
    rw [Bool.true_and]
    rfl

/-! ## Readings -/

/-- **A reading is evaluated to its value**: as a predicate on a level of its own, and as an
operand among the others of its level. -/
theorem run_yield (r : Reading) :
    (∀ (k : Nat) (outer : List Level), r.IsPredicate →
      ∃ m : Evaluator, run a { leaves := k, outer := outer } r.yield = some m ∧
        m.cursor.calls = 0 ∧ m.outer = outer ∧ (m.endOperand a).leaves = k + r.leaves ∧
        (m.endOperand a).level.value = r.truth a k) ∧
    ∀ (k : Nat) (x y : Bool) (outer : List Level), r.IsOperand →
      ∃ m : Evaluator, run a ⟨.start, k, ⟨x, y, .blank⟩, outer⟩ r.yield = some m ∧
        m.cursor.calls = 0 ∧ m.outer = outer ∧
        m.endOperand a = ⟨.start, k + r.leaves, ⟨x, y && r.truth a k, .blank⟩, outer⟩ := by
  induction r with
  | leaf ts =>
    constructor
    · intro k outer hp
      cases hp with
      | leaf h =>
        obtain ⟨m, hrun, h0, ho, he⟩ := run_leaf a h k false true outer
        refine ⟨m, hrun, h0, ho, ?_, ?_⟩
        · rw [he]
          rfl
        · rw [he]
          rfl
    · intro k x y outer hp
      cases hp with
      | leaf h => exact run_leaf a h k x y outer
  | group r ih =>
    constructor
    · intro k outer hp
      cases hp
    · intro k x y outer hp
      cases hp with
      | group hr =>
        obtain ⟨m, hrun, h0, ho, hk, hv⟩ := ih.1 k (⟨x, y, .blank⟩ :: outer) hr
        refine ⟨⟨.start, k + r.leaves, ⟨x, y, .group (r.truth a k)⟩, outer⟩, ?_, rfl, rfl, rfl⟩
        rw [Reading.yield, run_lparen, run_append_of_run a hrun, run_rparen a h0 ho, hk, hv]
  | combine logic l r ihl ihr =>
    constructor
    · intro k outer hp
      cases hp with
      | combine hl hr =>
        obtain ⟨m, hrun, h0, _, he⟩ := ihl.2 k false true outer hl
        obtain ⟨x, y, hc, hv⟩ := exists_connect logic (k + l.leaves) (l.truth a k) outer
        have hmid : m.run a (connective logic) =
            some ⟨.start, k + l.leaves, ⟨x, y, .blank⟩, outer⟩ := by
          rw [run_connective a h0, he, Bool.true_and, hc]
        obtain ⟨m', hrun', h0', ho', he'⟩ := ihr.2 (k + l.leaves) x y outer hr
        refine ⟨m', ?_, h0', ho', ?_, ?_⟩
        · rw [Reading.yield, run_append_of_run a hrun, run_append_of_run a hmid, hrun']
        · rw [he', Reading.leaves, Nat.add_assoc]
        · rw [he', Reading.truth, ← hv]
          rfl
    · intro k x y outer hp
      cases hp

/-- **The stream of a reading has the value of the reading.** -/
theorem evaluate_yield {r : Reading} (h : r.IsPredicate) :
    evaluate a r.yield = some (r.truth a 0) := by
  obtain ⟨m, hrun, h0, ho, _, hv⟩ := (run_yield a r).1 0 [] h
  have hrun : ({} : Evaluator).run a r.yield = some m := hrun
  rw [evaluate, hrun]
  simp only [h0, ho, and_self, ↓reduceIte, hv]

/-- Operands and connectives in turn leave the evaluator ready for the next operand. -/
theorem run_yield_connective {r : Reading} (h : r.IsOperand) (logic : Logic) (k : Nat)
    (x y : Bool) (ts : List Token) :
    run a ⟨.start, k, ⟨x, y, .blank⟩, []⟩ (r.yield ++ (connective logic ++ ts)) =
      run a (connect ⟨.start, k + r.leaves, ⟨x, y && r.truth a k, .blank⟩, []⟩ logic) ts := by
  obtain ⟨m, hrun, h0, _, he⟩ := (run_yield a r).2 k x y [] h
  have hmid := run_connective a h0 logic
  rw [he] at hmid
  rw [run_append_of_run a hrun, run_append_of_run a hmid]

/-- **AND binds tighter than OR**, where no parentheses say otherwise. -/
theorem evaluate_or_and {r s t : Reading} (hr : r.IsOperand) (hs : s.IsOperand)
    (ht : t.IsOperand) :
    evaluate a (r.yield ++ (connective .or ++ (s.yield ++ (connective .and ++ t.yield)))) =
      some (r.truth a 0 || (s.truth a r.leaves && t.truth a (r.leaves + s.leaves))) := by
  obtain ⟨m, hrun, h0, ho, he⟩ :=
    (run_yield a t).2 (r.leaves + s.leaves) (r.truth a 0) (s.truth a r.leaves) [] ht
  have hall : run a {} (r.yield ++ (connective .or ++ (s.yield ++ (connective .and ++ t.yield)))) =
      some m := by
    have h1 := run_yield_connective a hr .or 0 false true
      (s.yield ++ (connective .and ++ t.yield))
    have h2 := run_yield_connective a hs .and r.leaves (r.truth a 0) true t.yield
    rw [Bool.true_and] at h1 h2
    rw [Nat.zero_add] at h1
    exact (h1.trans h2).trans hrun
  rw [evaluate, hall]
  simp only [h0, ho, he, and_self, ↓reduceIte, Level.value]

end Evaluator

end SelectQuery
