import SelectQuery.Render

/-!
# Reading predicates

The grammar of a rendered predicate, on tokens:

    predicate = leaf | operand (AND | OR) operand
    operand   = leaf | "(" predicate ")"

A leaf is a run of tokens, perhaps empty, without AND and OR. Of the parentheses it holds just
those that open a call, directly after a function name, and those that close one. A connective
has a space on either side.

* `Reading` is a tree of the grammar, `Reading.yield` its tokens;
* `Reading.yield_injective`: the grammar is unambiguous.

The proof compares two readings of one stream with something left behind each of them. What can
stand behind an operand (`Stops`) does not go on with a leaf, so leaves end at the same place.
-/

namespace SelectQuery

/-! ## Leaves -/

/-- The state of a reader inside a leaf: right after a function name or not, and the number of
calls it is in. -/
structure Cursor where
  afterName : Bool
  calls : Nat

namespace Cursor

def start : Cursor := ⟨false, 0⟩

/-- Reads one token of a leaf. -/
def step (c : Cursor) : Token → Option Cursor
  | .lparen => if c.afterName then some ⟨false, c.calls + 1⟩ else none
  | .rparen => if c.calls = 0 then none else some ⟨false, c.calls - 1⟩
  | .keyword .and => none
  | .keyword .or => none
  | .function _ => some ⟨true, c.calls⟩
  | _ => some ⟨false, c.calls⟩

def run (c : Cursor) : List Token → Option Cursor
  | [] => some c
  | t :: ts => (c.step t).bind (run · ts)

theorem run_append (c : Cursor) (ts us : List Token) :
    c.run (ts ++ us) = (c.run ts).bind (run · us) := by
  induction ts generalizing c with
  | nil => rfl
  | cons t ts ih =>
    rw [List.cons_append, run, run]
    cases c.step t with
    | none => rfl
    | some d => exact ih d

theorem run_cons_eq_some_iff {c d : Cursor} {t : Token} {ts : List Token} :
    c.run (t :: ts) = some d ↔ ∃ e, c.step t = some e ∧ e.run ts = some d := by
  rw [run, Option.bind_eq_some_iff]

/-- A token that can be read at the start can also be read after a function name. -/
theorem step_of_step_start {b : Bool} {n : Nat} {t : Token} {c : Cursor}
    (h : (⟨false, n⟩ : Cursor).step t = some c) : (⟨b, n⟩ : Cursor).step t = some c := by
  cases t with
  | lparen => cases h
  | keyword k => cases k <;> exact h
  | _ => exact h

end Cursor

/-- All calls of the run are closed. -/
def IsLeaf (ts : List Token) : Prop :=
  ∃ c, Cursor.start.run ts = some c ∧ c.calls = 0

theorem isLeaf_nil : IsLeaf [] := ⟨Cursor.start, rfl, rfl⟩

theorem isLeaf_append {ts us : List Token} (ht : IsLeaf ts) (hu : IsLeaf us) :
    IsLeaf (ts ++ us) := by
  obtain ⟨c, hc, h0⟩ := ht
  cases us with
  | nil => exact ⟨c, by rw [List.append_nil, hc], h0⟩
  | cons u us =>
    obtain ⟨d, hd, h0'⟩ := hu
    obtain ⟨e, he, hr⟩ := Cursor.run_cons_eq_some_iff.mp hd
    obtain ⟨b, n⟩ := c
    obtain rfl : n = 0 := h0
    refine ⟨d, ?_, h0'⟩
    rw [Cursor.run_append, hc]
    exact Cursor.run_cons_eq_some_iff.mpr ⟨e, Cursor.step_of_step_start he, hr⟩

/-! ## The grammar -/

/-- A reading of a token stream. -/
inductive Reading where
  | leaf (run : List Token)
  | group (inner : Reading)
  | combine (logic : Logic) (left right : Reading)

def connective (logic : Logic) : List Token := [.space, .keyword logic.keyword, .space]

theorem connective_injective {logic logic' : Logic} (h : connective logic = connective logic') :
    logic = logic' := by
  cases logic <;> cases logic'
  · rfl
  · cases h
  · cases h
  · rfl

namespace Reading

/-- The stream that is read. -/
def yield : Reading → List Token
  | leaf run => run
  | group r => .lparen :: (r.yield ++ [.rparen])
  | combine logic l r => l.yield ++ (connective logic ++ r.yield)

mutual

inductive IsPredicate : Reading → Prop
  | leaf {run : List Token} : IsLeaf run → IsPredicate (leaf run)
  | combine {logic : Logic} {l r : Reading} :
      IsOperand l → IsOperand r → IsPredicate (combine logic l r)

inductive IsOperand : Reading → Prop
  | leaf {run : List Token} : IsLeaf run → IsOperand (leaf run)
  | group {r : Reading} : IsPredicate r → IsOperand (group r)

end

end Reading

/-! ## What stands behind -/

/-- What can stand behind a predicate. -/
def Closes : List Token → Prop
  | [] => True
  | .rparen :: _ => True
  | _ => False

/-- What can stand behind an operand. -/
def Stops (rest : List Token) : Prop :=
  Closes rest ∨ ∃ logic tail, rest = connective logic ++ tail

theorem Closes.stops {rest : List Token} (h : Closes rest) : Stops rest := Or.inl h

theorem closes_rparen (rest : List Token) : Closes (.rparen :: rest) := trivial

theorem stops_connective (logic : Logic) (tail : List Token) :
    Stops (connective logic ++ tail) :=
  Or.inr ⟨logic, tail, rfl⟩

theorem not_closes_connective (logic : Logic) (tail : List Token) :
    ¬ Closes (connective logic ++ tail) :=
  fun h => h

theorem not_stops_keyword (logic : Logic) (tail : List Token) :
    ¬ Stops (.keyword logic.keyword :: tail) := by
  rintro (h | ⟨logic', tail', e⟩)
  · exact h
  · cases e

theorem not_stops_lparen (tail : List Token) : ¬ Stops (.lparen :: tail) := by
  rintro (h | ⟨logic, tail', e⟩)
  · exact h
  · cases e

theorem step_keyword (c : Cursor) (logic : Logic) : c.step (.keyword logic.keyword) = none := by
  cases logic <;> rfl

/-- A leaf does not go on into what stands behind it. -/
theorem not_stops_of_run {c d e : Cursor} {t : Token} {run rest : List Token} (h0 : c.calls = 0)
    (ht : c.step t = some d) (hr : d.run run = some e) (hs : Stops rest) :
    ¬ Stops (t :: (run ++ rest)) := by
  rintro (h | ⟨logic, tail, h⟩)
  · cases t with
    | rparen => simp [Cursor.step, h0] at ht
    | _ => exact h
  · obtain ⟨-, htail⟩ := List.cons.inj h
    cases run with
    | nil =>
      rw [List.nil_append] at htail
      rw [htail] at hs
      exact not_stops_keyword logic _ hs
    | cons u run =>
      obtain ⟨hu, -⟩ := List.cons.inj htail
      obtain ⟨_, hd, _⟩ := Cursor.run_cons_eq_some_iff.mp hr
      rw [hu, step_keyword] at hd
      cases hd

theorem run_append_inj {c d d' : Cursor} {run run' rest rest' : List Token}
    (hr : c.run run = some d) (hr' : c.run run' = some d') (h0 : d.calls = 0) (h0' : d'.calls = 0)
    (hs : Stops rest) (hs' : Stops rest') (e : run ++ rest = run' ++ rest') :
    run = run' ∧ rest = rest' := by
  induction run generalizing c run' with
  | nil =>
    obtain rfl := Option.some.inj hr
    cases run' with
    | nil => exact ⟨rfl, e⟩
    | cons t run' =>
      obtain ⟨_, ht, htl⟩ := Cursor.run_cons_eq_some_iff.mp hr'
      rw [List.nil_append, List.cons_append] at e
      rw [e] at hs
      exact absurd hs (not_stops_of_run h0 ht htl hs')
  | cons t run ih =>
    obtain ⟨c₁, ht, htl⟩ := Cursor.run_cons_eq_some_iff.mp hr
    cases run' with
    | nil =>
      obtain rfl := Option.some.inj hr'
      rw [List.nil_append, List.cons_append] at e
      rw [← e] at hs'
      exact absurd hs' (not_stops_of_run h0' ht htl hs)
    | cons u run' =>
      rw [List.cons_append, List.cons_append] at e
      obtain ⟨rfl, etail⟩ := List.cons.inj e
      obtain ⟨c₂, hu, hul⟩ := Cursor.run_cons_eq_some_iff.mp hr'
      obtain rfl : c₁ = c₂ := Option.some.inj (ht.symm.trans hu)
      obtain ⟨rfl, hrest⟩ := ih htl hul etail
      exact ⟨rfl, hrest⟩

/-- Leaves end at the same place. -/
theorem isLeaf_append_inj {run run' rest rest' : List Token} (h : IsLeaf run) (h' : IsLeaf run')
    (hs : Stops rest) (hs' : Stops rest') (e : run ++ rest = run' ++ rest') :
    run = run' ∧ rest = rest' := by
  obtain ⟨d, hr, h0⟩ := h
  obtain ⟨d', hr', h0'⟩ := h'
  exact run_append_inj hr hr' h0 h0' hs hs' e

/-- A leaf does not begin like a group. -/
theorem isLeaf_append_ne_group {run rest tail : List Token} (h : IsLeaf run) (hs : Stops rest) :
    run ++ rest ≠ .lparen :: tail := by
  intro e
  cases run with
  | nil =>
    rw [List.nil_append] at e
    rw [e] at hs
    exact not_stops_lparen tail hs
  | cons t run =>
    obtain ⟨d, hr, _⟩ := h
    obtain ⟨_, ht, _⟩ := Cursor.run_cons_eq_some_iff.mp hr
    obtain ⟨rfl, _⟩ := List.cons.inj e
    cases ht

/-! ## Unambiguity -/

namespace Reading

/-- A predicate that is a leaf is not combined as well. -/
theorem isLeaf_append_ne_combine {run rest tail : List Token} {l : Reading} {logic : Logic}
    (h : IsLeaf run) (hl : IsOperand l) (hc : Closes rest) :
    run ++ rest ≠ l.yield ++ (connective logic ++ tail) := by
  intro e
  cases hl with
  | leaf hl =>
    obtain ⟨_, e⟩ := isLeaf_append_inj h hl hc.stops (stops_connective logic tail) e
    rw [e] at hc
    exact not_closes_connective logic tail hc
  | group hr => exact isLeaf_append_ne_group h hc.stops e

/-- **Unambiguity**, with something left behind. -/
theorem yield_append_inj (r : Reading) :
    (∀ (r' : Reading) (rest rest' : List Token), r.IsPredicate → r'.IsPredicate → Closes rest →
      Closes rest' → r.yield ++ rest = r'.yield ++ rest' → r = r' ∧ rest = rest') ∧
    ∀ (r' : Reading) (rest rest' : List Token), r.IsOperand → r'.IsOperand → Stops rest →
      Stops rest' → r.yield ++ rest = r'.yield ++ rest' → r = r' ∧ rest = rest' := by
  induction r with
  | leaf run =>
    constructor
    · intro r' rest rest' hp hp' hc hc' e
      cases hp with
      | leaf h =>
        cases hp' with
        | leaf h' =>
          obtain ⟨rfl, er⟩ := isLeaf_append_inj h h' hc.stops hc'.stops e
          exact ⟨rfl, er⟩
        | combine hl hr =>
          simp only [yield, List.append_assoc] at e
          exact absurd e (isLeaf_append_ne_combine h hl hc)
    · intro r' rest rest' hp hp' hs hs' e
      cases hp with
      | leaf h =>
        cases hp' with
        | leaf h' =>
          obtain ⟨rfl, er⟩ := isLeaf_append_inj h h' hs hs' e
          exact ⟨rfl, er⟩
        | group hr => exact absurd e (isLeaf_append_ne_group h hs)
  | group r ih =>
    constructor
    · intro r' rest rest' hp
      cases hp
    · intro r' rest rest' hp hp' hs hs' e
      cases hp with
      | group hr =>
        cases hp' with
        | leaf h' => exact absurd e.symm (isLeaf_append_ne_group h' hs')
        | group hr' =>
          simp only [yield, List.cons_append, List.append_assoc, List.cons.injEq, true_and,
            List.nil_append] at e
          obtain ⟨rfl, er⟩ := ih.1 _ _ _ hr hr' (closes_rparen rest) (closes_rparen rest') e
          exact ⟨rfl, (List.cons.inj er).2⟩
  | combine logic l r ihl ihr =>
    constructor
    · intro r' rest rest' hp hp' hc hc' e
      cases hp with
      | combine hl hr =>
        cases hp' with
        | leaf h' =>
          simp only [yield, List.append_assoc] at e
          exact absurd e.symm (isLeaf_append_ne_combine h' hl hc')
        | @combine logic' l' r' hl' hr' =>
          simp only [yield, List.append_assoc] at e
          obtain ⟨rfl, etail⟩ := ihl.2 _ _ _ hl hl' (stops_connective logic _)
            (stops_connective logic' _) e
          obtain ⟨elogic, eright⟩ := List.append_inj etail rfl
          obtain rfl := connective_injective elogic
          obtain ⟨rfl, er⟩ := ihr.2 _ _ _ hr hr' hc.stops hc'.stops eright
          exact ⟨rfl, er⟩
    · intro r' rest rest' hp
      cases hp

/-- **The grammar is unambiguous.** -/
theorem yield_injective {r r' : Reading} (h : r.IsPredicate) (h' : r'.IsPredicate)
    (e : r.yield = r'.yield) : r = r' :=
  ((yield_append_inj r).1 r' [] [] h h' trivial trivial (by rw [e])).1

end Reading

end SelectQuery
