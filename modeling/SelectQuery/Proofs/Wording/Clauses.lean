import SelectQuery.Proofs.Reading.Precedence
import SelectQuery.Proofs.Wording

/-!
# The value of a text

The lexemes of a text are grouped by its parentheses. Between the connectives outside of them stand
clauses, which get their values from outside, except for a clause that is one group: its value is
that of the text inside.

* `ofLexemes_eq_some_iff`: the groups of a text are determined by it;
* `Items.value_combine`: with AND binding tighter than OR, two texts with a connective between them
  have the connected value. For AND, neither of them may have an OR outside of parentheses;
* `items?_append`, `items?_parenthesized`: texts side by side, and in parentheses.
-/

namespace SelectQuery.Wording

/-- The connective that a word stands for, in upper or lower case. -/
def Atom.logic? : Atom → Option Logic
  | .word s => [Logic.and, Logic.or].find? fun g => s.map Char.toUpper = g.text.toList
  | _ => none

/-- A text by its parentheses: what comes first, with the rest behind it. -/
inductive Items where
  | nil
  | atom (a : Atom) (rest : Items)
  | group (inner rest : Items)
  deriving DecidableEq, Repr

namespace Items

def append : Items → Items → Items
  | nil, j => j
  | atom a rest, j => atom a (rest.append j)
  | group inner rest, j => group inner (rest.append j)

instance : Append Items := ⟨append⟩

@[simp]
theorem nil_append (j : Items) : nil ++ j = j := rfl

@[simp]
theorem atom_append (a : Atom) (i j : Items) : atom a i ++ j = atom a (i ++ j) := rfl

@[simp]
theorem group_append (h i j : Items) : group h i ++ j = group h (i ++ j) := rfl

@[simp]
theorem append_nil (i : Items) : i ++ nil = i := by
  induction i with
  | nil => rfl
  | atom a rest ih => rw [atom_append, ih]
  | group inner rest _ ih => rw [group_append, ih]

def lexemes : Items → List Lexeme
  | nil => []
  | atom a rest => .atom a :: rest.lexemes
  | group inner rest => .lparen :: inner.lexemes ++ .rparen :: rest.lexemes

@[simp]
theorem lexemes_append (i j : Items) : (i ++ j).lexemes = i.lexemes ++ j.lexemes := by
  induction i with
  | nil => rfl
  | atom a rest ih => simp [lexemes, ih]
  | group inner rest _ ih => simp [lexemes, ih]

/-! ## Grouping -/

/-- Puts a lexeme in front of what has been grouped: the items up to the nearest parenthesis that
closes towards the front, and those behind it and behind the further ones. -/
def push : Lexeme → Option (Items × List Items) → Option (Items × List Items)
  | .atom a, some (i, outer) => some (atom a i, outer)
  | .rparen, some (i, outer) => some (nil, i :: outer)
  | .lparen, some (i, rest :: outer) => some (group i rest, outer)
  | _, _ => none

/-- The items that lexemes make up, if the parentheses match. -/
def ofLexemes (xs : List Lexeme) : Option Items :=
  match xs.foldr push (some (nil, [])) with
  | some (i, []) => some i
  | _ => none

theorem foldr_push_lexemes (i j : Items) (outer : List Items) :
    i.lexemes.foldr push (some (j, outer)) = some (i ++ j, outer) := by
  induction i generalizing j outer with
  | nil => rfl
  | atom a rest ih =>
    rw [lexemes, List.foldr_cons, ih]
    rfl
  | group inner rest ihi ihr =>
    have hr : push .rparen (some (rest ++ j, outer)) = some (nil, (rest ++ j) :: outer) := rfl
    rw [lexemes, List.cons_append, List.foldr_cons, List.foldr_append, List.foldr_cons, ihr, hr,
      ihi, append_nil]
    rfl

/-- What has been grouped, as lexemes. -/
def ungrouped (i : Items) (outer : List Items) : List Lexeme :=
  i.lexemes ++ outer.flatMap fun j => .rparen :: j.lexemes

theorem ungrouped_foldr_push {xs : List Lexeme} {i : Items} {outer : List Items}
    (h : xs.foldr push (some (nil, [])) = some (i, outer)) : ungrouped i outer = xs := by
  induction xs generalizing i outer with
  | nil =>
    cases h
    rfl
  | cons x xs ih =>
    rw [List.foldr_cons] at h
    cases hg : xs.foldr push (some (nil, [])) with
    | none =>
      rw [hg] at h
      cases x <;> cases h
    | some g =>
      obtain ⟨j, os⟩ := g
      rw [hg] at h
      have hj := ih hg
      cases x with
      | atom a =>
        cases h
        rw [← hj]
        rfl
      | rparen =>
        cases h
        rw [← hj]
        rfl
      | lparen =>
        cases os with
        | nil => cases h
        | cons o os =>
          cases h
          rw [← hj]
          simp [ungrouped, lexemes]

/-- **The parentheses of a text match in one way only.** -/
theorem ofLexemes_eq_some_iff {xs : List Lexeme} {i : Items} :
    ofLexemes xs = some i ↔ xs = i.lexemes := by
  constructor
  · intro h
    unfold ofLexemes at h
    split at h
    · next hj =>
      obtain rfl := Option.some.inj h
      rw [← ungrouped_foldr_push hj]
      exact List.append_nil _
    · cases h
  · rintro rfl
    rw [ofLexemes, foldr_push_lexemes, append_nil]

/-! ## Values -/

/-- No connective OR outside of parentheses. -/
def isOrFree : Items → Bool
  | nil => true
  | atom a rest => a.logic? ≠ some .or && rest.isOrFree
  | group _ rest => rest.isOrFree

end Items

/-- What has been seen up to some place: the value of the clauses before the last OR, that of the
clauses after it, and the present clause, with its value if it is one group. -/
structure Pending where
  disjunction : Bool := false
  conjunction : Bool := true
  clause : Items := .nil
  group? : Option Bool := none

namespace Pending

variable (v : Items → Bool)

def clauseValue (s : Pending) : Bool := s.group?.getD (v s.clause)

def value (s : Pending) : Bool := s.disjunction || (s.conjunction && s.clauseValue v)

def atom (s : Pending) (a : Atom) : Pending :=
  { s with clause := s.clause ++ .atom a .nil, group? := none }

/-- Takes a group with the given value. -/
def group (s : Pending) (i : Items) (b : Bool) : Pending :=
  { s with
    clause := s.clause ++ .group i .nil
    group? := if s.clause = .nil then some b else none }

def connect (s : Pending) : Logic → Pending
  | .and =>
    { s with conjunction := s.conjunction && s.clauseValue v, clause := .nil, group? := none }
  | .or => { disjunction := s.value v }

end Pending

namespace Items

variable (v : Items → Bool)

/-- Goes on with items, where `v` gives the values of clauses. -/
def run : Items → Pending → Pending
  | nil, s => s
  | atom a rest, s =>
    match a.logic? with
    | none => rest.run (s.atom a)
    | some logic => rest.run (s.connect v logic)
  | group inner rest, s => rest.run (s.group inner ((inner.run {}).value v))

/-- The value of a whole text. -/
def value (i : Items) : Bool := (i.run v {}).value v

theorem run_append (i j : Items) (s : Pending) : (i ++ j).run v s = j.run v (i.run v s) := by
  induction i generalizing s with
  | nil => rfl
  | atom a rest ih =>
    rw [atom_append, run, run]
    cases a.logic? <;> exact ih _
  | group inner rest _ ih => exact ih _

/-- What stands before the last OR adds to the value of what follows. -/
theorem value_run (i : Items) (s : Pending) :
    (i.run v s).value v = (s.disjunction || (i.run v { s with disjunction := false }).value v) := by
  induction i generalizing s with
  | nil => simp [run, Pending.value, Pending.clauseValue]
  | atom a rest ih =>
    rw [run, run]
    cases a.logic? with
    | none => exact ih (s.atom a)
    | some logic =>
      cases logic with
      | and => exact ih (s.connect v .and)
      | or =>
        rw [ih, ih (Pending.connect v _ _)]
        simp [Pending.connect, Pending.value, Pending.clauseValue, Bool.or_assoc]
  | group inner rest _ ih => exact ih (s.group inner _)

/-- As long as there is no further OR, the clauses since the last one bear on what follows. -/
theorem run_of_isOrFree {i : Items} (h : i.isOrFree) (s : Pending) :
    (i.run v s).disjunction = s.disjunction ∧
      (i.run v s).value v = (s.disjunction ||
        (s.conjunction &&
          (i.run v { s with disjunction := false, conjunction := true }).value v)) := by
  induction i generalizing s with
  | nil => simp [run, Pending.value, Pending.clauseValue]
  | atom a rest ih =>
    simp only [isOrFree, Bool.and_eq_true, decide_eq_true_eq] at h
    rw [run, run]
    cases hl : a.logic? with
    | none => exact ih h.2 (s.atom a)
    | some logic =>
      cases logic with
      | and =>
        obtain ⟨hd, hv⟩ := ih h.2 (s.connect v .and)
        have hr := (ih h.2 (Pending.connect v { s with disjunction := false, conjunction := true }
          .and)).2
        refine ⟨hd, ?_⟩
        simp only
        rw [hv, hr]
        simp [Pending.connect, Pending.clauseValue, Bool.and_assoc]
      | or => exact absurd hl h.1
  | group inner rest _ ih => exact ih h (s.group inner _)

theorem value_parenthesized (i : Items) : (group i nil).value v = i.value v := by
  simp [value, run, Pending.group, Pending.value, Pending.clauseValue]

/-- **The value of two texts with a connective between them.** An OR outside of parentheses would
take part of an operand of AND away. -/
theorem value_combine {a : Atom} {logic : Logic} (ha : a.logic? = some logic) {i j : Items}
    (h : logic = .and → i.isOrFree ∧ j.isOrFree) :
    (i ++ atom a j).value v = logic.apply (i.value v) (j.value v) := by
  have hc : (i ++ atom a j).value v = (j.run v ((i.run v {}).connect v logic)).value v := by
    rw [value, run_append, run, ha]
  rw [hc]
  cases logic with
  | and =>
    obtain ⟨hi, hj⟩ := h rfl
    have hd : (i.run v {}).disjunction = false := (run_of_isOrFree v hi {}).1
    rw [(run_of_isOrFree v hj _).2]
    simp [Pending.connect, hd, value, Logic.apply, Pending.value]
  | or =>
    rw [value_run]
    simp [Pending.connect, value, Logic.apply]

theorem isOrFree_append {i j : Items} :
    (i ++ j).isOrFree = (i.isOrFree && j.isOrFree) := by
  induction i with
  | nil => rfl
  | atom a rest ih => simp [isOrFree, ih, Bool.and_assoc]
  | group inner rest _ ih => simp [isOrFree, ih]

end Items

/-! ## Texts -/

/-- The items of a text, if its quotes and parentheses match. -/
def items? (cs : List Char) : Option Items := (lexemes cs).bind Items.ofLexemes

theorem items?_eq_some_iff {cs : List Char} {i : Items} :
    items? cs = some i ↔ lexemes cs = some i.lexemes := by
  rw [items?, Option.bind_eq_some_iff]
  simp only [Items.ofLexemes_eq_some_iff, exists_eq_right]

variable {cs ds : List Char} {i j : Items}

/-- **Texts side by side**, with white space or another character between them. -/
theorem items?_append {c : Char} (hc : Breaks c) (hi : items? cs = some i)
    (hj : items? (c :: ds) = some j) : items? (cs ++ c :: ds) = some (i ++ j) := by
  rw [items?_eq_some_iff] at hi hj ⊢
  rw [lexemes_append hc hi hj, Items.lexemes_append]

theorem items?_space (h : items? cs = some i) : items? (' ' :: cs) = some i := by
  rw [items?_eq_some_iff] at h ⊢
  rw [← h]
  simp [lexemes, Mode.read, Mode.step, start, Text.isWhiteSpace]

theorem items?_symbol {c : Char} (hc : start c = ([.atom (.symbol c)], .between))
    (h : items? cs = some i) : items? (c :: cs) = some (.atom (.symbol c) i) := by
  rw [items?_eq_some_iff] at h ⊢
  rw [lexemes, Mode.read]
  simp only [Mode.step, hc]
  rw [← lexemes, h]
  rfl

/-- **A text in parentheses** is one group. -/
theorem items?_parenthesized (h : items? cs = some i) :
    items? ('(' :: (cs ++ [')'])) = some (.group i .nil) := by
  rw [items?_eq_some_iff] at h ⊢
  have hr : lexemes [')'] = some [.rparen] := by decide
  have hl : lexemes ('(' :: (cs ++ [')'])) =
      (lexemes (cs ++ [')'])).map ([Lexeme.lparen] ++ ·) := rfl
  rw [hl, lexemes_append (by decide) h hr]
  rfl

end SelectQuery.Wording
